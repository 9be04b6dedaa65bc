import CatchmentLint.Text.Basic

/-!
# CatchmentLint.Model.Line

One line of a model file, read on its own:

1. a comment runs from the first `;` or `#` to the end of the line, unless a double quote is
   open there or a backslash stands right before it;
2. `[name]` is a section header, where the name is not blank and holds no bracket;
3. `key = value` is a property, cut at the first `=`, where the key is not blank;
4. any other text is a bare entry;
5. a line that starts with a space or a tab and is no header continues the statement above it.
-/

namespace CatchmentLint

/-- What a line says once its comment is gone. -/
inductive Line where
  | blank
  | header (name : Text)
  | keyValue (key value : Text)
  | bare (entry : Text)
  deriving DecidableEq, Repr

namespace Line

/-! ## Comments -/

/-- Where the scan for a comment stands: inside double quotes or not, and right after a
backslash or not. -/
structure Scan where
  quoted : Bool
  escaped : Bool
  deriving DecidableEq, Repr

namespace Scan

def start : Scan := ⟨false, false⟩

def step (scan : Scan) (c : Char) : Scan :=
  if scan.escaped then { scan with escaped := false }
  else if c = '\\' then { scan with escaped := true }
  else if c = '"' then { scan with quoted := !scan.quoted }
  else scan

/-- Whether `c` opens a comment here. -/
def opensComment (scan : Scan) (c : Char) : Bool :=
  (c == ';' || c == '#') && !scan.quoted && !scan.escaped

end Scan

def stripFrom (scan : Scan) : Text → Text
  | [] => []
  | c :: s => if scan.opensComment c then [] else c :: stripFrom (scan.step c) s

theorem stripFrom_cons (scan : Scan) (c : Char) (s : Text) : stripFrom scan (c :: s) =
    if scan.opensComment c then [] else c :: stripFrom (scan.step c) s := by
  rw [stripFrom]

/-- The line up to its comment. -/
def stripComment (raw : Text) : Text := stripFrom .start raw

example : stripComment "a = \"x;y\" \\; b # c".toList = "a = \"x;y\" \\; b ".toList := by decide

/-! ## Kinds of line -/

/-- The name in a trimmed `[name]`. -/
def headerName? (trimmed : Text) : Option Text :=
  match Text.dropLead? ['['] trimmed with
  | none => none
  | some inner =>
    match Text.dropTail? [']'] inner with
    | none => none
    | some inner =>
      let name := Text.trim inner
      if name = [] ∨ '[' ∈ name ∨ ']' ∈ name then none else some name

/-- Reads a line that has no comment. -/
def classify (stripped : Text) : Line :=
  let trimmed := Text.trim stripped
  if trimmed = [] then .blank
  else
    match headerName? trimmed with
    | some name => .header name
    | none =>
      match Text.cut? '=' trimmed with
      | none => .bare trimmed
      | some (before, after) =>
        let key := Text.trim before
        if key = [] then .bare trimmed else .keyValue key (Text.trim after)

/-- Reads a line as it stands in the file. -/
def read (raw : Text) : Line := classify (stripComment raw)

/-- Whether the line, as it stands in the file, continues a statement above it. -/
def isContinuation (raw : Text) : Bool :=
  match raw with
  | c :: _ => (c == ' ' || c == '\t') && (headerName? (Text.trim (stripComment raw))).isNone
  | [] => false

/-- What a continuation line adds to the statement above it. -/
def continuationText (raw : Text) : Text := Text.trim (stripComment raw)

end Line

end CatchmentLint
