import CatchmentLint.Model.Basic
import CatchmentLint.Model.Line

/-!
# CatchmentLint.Model.Reader

Reads a model file.  Reading never fails: a line that is no statement is passed over, so the
rest of the file can still be checked.

1. A header opens a section.
2. A property belongs to the nearest header above it; without one it is passed over.
3. A bare entry counts in `[inputs]` and `[outputs]` only; elsewhere it is passed over.
4. The continuation lines right after a statement belong to it, and their texts are added to its
   own with a space between each two that are not empty.  Lines right after one that was passed
   over are read on their own.
-/

namespace CatchmentLint

/-- The two lists of bare entries. -/
inductive EntryList where
  | inputs
  | outputs
  deriving DecidableEq, Repr

/-- The list that a section of this name holds. -/
def EntryList.ofSection? (name : Text) : Option EntryList :=
  if name = "inputs".toList then some .inputs
  else if name = "outputs".toList then some .outputs
  else none

/-- A line that counts, with its continuation lines: it starts at `line`, and the last line that
belongs to it is `last`. -/
inductive Statement where
  | header (name : Text) (line : Nat)
  | property (key value : Text) (line last : Nat)
  | entry (list : EntryList) (text : Text) (line last : Nat)
  deriving DecidableEq, Repr

namespace Statement

/-! ## From lines to statements -/

/-- Adds the text of one continuation line. -/
def addContinuation (text part : Text) : Text :=
  if part = [] then text else if text = [] then part else text ++ ' ' :: part

/-- The text of a statement whose first line says `text` and which `continuations` continue. -/
def fullText (text : Text) (continuations : List Text) : Text :=
  (continuations.map Line.continuationText).foldl addContinuation text

/-- The statements of the lines that follow `read` others, under the header `current`. -/
def ofLines (current : Option Text) (read : Nat) : List Text → List Statement
  | [] => []
  | raw :: rest =>
    let continuations := rest.takeWhile Line.isContinuation
    let last := read + 1 + continuations.length
    match Line.read raw with
    | .blank => ofLines current (read + 1) rest
    | .header name => .header name (read + 1) :: ofLines (some name) (read + 1) rest
    | .keyValue key value =>
      match current with
      | none => ofLines current (read + 1) rest
      | some _ =>
        .property key (fullText value continuations) (read + 1) last
          :: ofLines current last (rest.dropWhile Line.isContinuation)
    | .bare text =>
      match current.bind EntryList.ofSection? with
      | none => ofLines current (read + 1) rest
      | some list =>
        .entry list (fullText text continuations) (read + 1) last
          :: ofLines current last (rest.dropWhile Line.isContinuation)
termination_by lines => lines.length
decreasing_by
  all_goals simp only [List.length_cons]
  all_goals
    first
    | omega
    | exact Nat.lt_succ_of_le (List.dropWhile_suffix _).length_le

/-! ## From statements to sections -/

/-- What a statement adds to the section it stands in. -/
def addTo (s : Section) : Statement → Section
  | .header _ _ => s
  | .property key value line last => (s.record ⟨key, value, line⟩).extend last
  | .entry _ _ _ last => s.extend last

def isHeader : Statement → Bool
  | .header _ _ => true
  | _ => false

/-- One section for each header, from the statements up to the next header. -/
def sections : List Statement → List Section
  | [] => []
  | .header name line :: rest =>
    (rest.takeWhile (!·.isHeader)).foldl addTo (.opened name line) :: sections rest
  | _ :: rest => sections rest

/-- The entries of one of the two lists. -/
def entries (list : EntryList) : List Statement → List Entry
  | [] => []
  | .entry list' text line _ :: rest =>
    if list' = list then ⟨text, line⟩ :: entries list rest else entries list rest
  | _ :: rest => entries list rest

end Statement

namespace Model

def ofStatements (statements : List Statement) : Model :=
  ⟨Statement.sections statements, Statement.entries .inputs statements,
    Statement.entries .outputs statements⟩

/-- The model that a text describes. -/
def read (content : Text) : Model := ofStatements (Statement.ofLines none 0 (Text.lines content))

end Model

end CatchmentLint
