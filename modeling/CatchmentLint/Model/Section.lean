import CatchmentLint.Text.Basic

/-!
# CatchmentLint.Model.Section

A section of a model file: its header, the properties under it in the order in which they were
written, and the last line that belongs to it.

A key may be written more than once.  Every occurrence is kept, and the latest one is the one
that counts: `properties` lists the latest occurrences only.
-/

namespace CatchmentLint

/-! ## Later elements hide earlier ones -/

/-- The elements whose key no later element has. -/
def latestBy [BEq β] (key : α → β) : List α → List α
  | [] => []
  | a :: rest =>
    if rest.any (key · == key a) then latestBy key rest else a :: latestBy key rest

theorem latestBy_cons [BEq β] (key : α → β) (a : α) (rest : List α) : latestBy key (a :: rest) =
    if rest.any (key · == key a) then latestBy key rest else a :: latestBy key rest := by
  rw [latestBy]

/-- The last element with the key `k`. -/
def lastWith? [BEq β] (key : α → β) (k : β) : List α → Option α
  | [] => none
  | a :: rest =>
    match lastWith? key k rest with
    | some b => some b
    | none => if key a == k then some a else none

theorem lastWith?_cons [BEq β] (key : α → β) (k : β) (a : α) (rest : List α) :
    lastWith? key k (a :: rest) =
      match lastWith? key k rest with
      | some b => some b
      | none => if key a == k then some a else none := by
  rw [lastWith?]

/-! ## Sections -/

/-- A `key = value` statement; `line` is the line of the key. -/
structure Property where
  key : Text
  value : Text
  line : Nat
  deriving DecidableEq, Repr

structure Section where
  name : Text
  startLine : Nat
  endLine : Nat
  /-- Every property in the order of the file, hidden ones included. -/
  occurrences : List Property
  deriving DecidableEq, Repr

namespace Section

/-- The section right after its header. -/
def opened (name : Text) (line : Nat) : Section := ⟨name, line, line, []⟩

/-- Lets the section reach to `line` at least. -/
def extend (line : Nat) (s : Section) : Section := { s with endLine := max s.endLine line }

def record (p : Property) (s : Section) : Section :=
  { s with occurrences := s.occurrences ++ [p], endLine := max s.endLine p.line }

/-- The latest occurrence of each key. -/
def properties (s : Section) : List Property := latestBy Property.key s.occurrences

/-- The latest occurrence of `key`. -/
def property? (s : Section) (key : Text) : Option Property :=
  lastWith? Property.key key s.occurrences

/-! ## Node sections -/

/-- The name that a section name declares a node under: what follows `node.`, if anything does. -/
def declaredNode? (sectionName : Text) : Option Text :=
  match Text.dropLead? "node.".toList sectionName with
  | some (c :: rest) => some (c :: rest)
  | _ => none

def nodeName? (s : Section) : Option Text := declaredNode? s.name

/-- The value of the property `type`, in a node section only. -/
def nodeType? (s : Section) : Option Text :=
  match s.nodeName? with
  | some _ => (s.property? "type".toList).map Property.value
  | none => none

end Section

end CatchmentLint
