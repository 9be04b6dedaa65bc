import CatchmentLint.Model.Reader
import Std.Data.HashMap

/-!
# CatchmentLint.Model.Index

A model with tables, in which the latest element of a name is found without a search.

1. A section keeps the place of the latest occurrence of each key, and a node section also keeps the
   value of its latest `type`.
2. A model keeps the place of the latest section of each name and of each node name, and the places
   of all the node sections.
3. A list of bare entries keeps the line of the latest entry of each text.

The tables are kept up to date while the statements are read, one after another.
-/

namespace CatchmentLint

/-- The hash of the tables, whichever other hash of characters is in scope. -/
instance (priority := high) : Hashable Text := @instHashableList Char instHashableChar

/-! ## Sections -/

/-- What the name of a section makes of it. -/
inductive SectionKind where
  | plain
  /-- A node section, with the value of its latest `type`. -/
  | node (name : Text) (type? : Option Text)
  deriving DecidableEq, Repr

namespace SectionKind

/-- The kind of a section that has nothing in it. -/
def ofName (name : Text) : SectionKind :=
  match Section.declaredNode? name with
  | some declared => .node declared none
  | none => .plain

/-- The kind after a property, which gives the type of a node if that is its key. -/
def addProperty (p : Property) : SectionKind → SectionKind
  | .plain => .plain
  | .node name type? => .node name (if p.key = "type".toList then some p.value else type?)

end SectionKind

/-- A section with its kind and the places of its latest properties. -/
structure IndexedSection extends Section where
  kind : SectionKind
  latest : Std.HashMap Text Nat

namespace IndexedSection

/-- The section right after its header. -/
def opened (name : Text) (line : Nat) : IndexedSection :=
  ⟨.opened name line, .ofName name, ∅⟩

/-- Puts a property at the end, where it is the latest one of its key. -/
def addProperty (p : Property) (s : IndexedSection) : IndexedSection :=
  ⟨s.toSection.record p, s.kind.addProperty p, s.latest.insert p.key s.occurrences.length⟩

/-- Lets the section reach to `line` at least. -/
def touch (line : Nat) (s : IndexedSection) : IndexedSection :=
  { s with toSection := s.toSection.extend line }

/-! ### Views -/

/-- The latest property of a key. -/
def property? (s : IndexedSection) (key : Text) : Option Property :=
  s.latest[key]?.bind (s.occurrences[·]?)

def containsProperty (s : IndexedSection) (key : Text) : Bool := s.latest.contains key

/-- The latest occurrence of each key. -/
def properties (s : IndexedSection) : List Property :=
  (s.occurrences.zipIdx.filter fun place => s.latest[place.1.key]? == some place.2).map Prod.fst

/-- The name of the node that the section declares. -/
def nodeName? (s : IndexedSection) : Option Text :=
  match s.kind with
  | .node name _ => some name
  | .plain => none

/-- The type of the node that the section declares, if it gives one. -/
def nodeType? (s : IndexedSection) : Option Text :=
  match s.kind with
  | .node _ type? => type?
  | .plain => none

end IndexedSection

/-! ## Bare entries -/

/-- Bare entries with the lines of the latest of each text. -/
structure IndexedEntries where
  entries : List Entry
  lines : Std.HashMap Text Nat

namespace IndexedEntries

def empty : IndexedEntries := ⟨[], ∅⟩

/-- Puts an entry at the end, where it is the latest one of its text. -/
def add (entry : Entry) (list : IndexedEntries) : IndexedEntries :=
  ⟨list.entries ++ [entry], list.lines.insert entry.text entry.line⟩

/-- The line of the latest entry with this text. -/
def line? (list : IndexedEntries) (text : Text) : Option Nat := list.lines[text]?

end IndexedEntries

/-! ## Models -/

/-- A model with the places of its latest sections and nodes. -/
structure IndexedModel where
  sections : List IndexedSection
  sectionPlaces : Std.HashMap Text Nat
  nodePlaces : Std.HashMap Text Nat
  /-- The places of the node sections, hidden ones included. -/
  nodeSections : List Nat
  inputs : IndexedEntries
  outputs : IndexedEntries

namespace IndexedModel

def empty : IndexedModel := ⟨[], ∅, ∅, [], .empty, .empty⟩

/-- Puts a section at the end, where it is the latest one of its name and of its node. -/
def openSection (name : Text) (line : Nat) (m : IndexedModel) : IndexedModel :=
  let s := IndexedSection.opened name line
  let place := m.sections.length
  let named :=
    { m with
      sections := m.sections ++ [s]
      sectionPlaces := m.sectionPlaces.insert name place }
  match s.nodeName? with
  | some node =>
    { named with
      nodePlaces := m.nodePlaces.insert node place
      nodeSections := m.nodeSections ++ [place] }
  | none => named

/-- Changes the section at `place?`, if that is one. -/
def updateSection (place? : Option Nat) (f : IndexedSection → IndexedSection) (m : IndexedModel) :
    IndexedModel :=
  match place? with
  | some place => { m with sections := m.sections.modify place f }
  | none => m

/-- Puts an entry into one of the lists. -/
def addEntry (list : EntryList) (entry : Entry) (m : IndexedModel) : IndexedModel :=
  match list with
  | .inputs => { m with inputs := m.inputs.add entry }
  | .outputs => { m with outputs := m.outputs.add entry }

/-! ### Views -/

/-- The model without its tables. -/
def toModel (m : IndexedModel) : Model :=
  ⟨m.sections.map (·.toSection), m.inputs.entries, m.outputs.entries⟩

/-- The latest section of a name. -/
def section? (m : IndexedModel) (name : Text) : Option IndexedSection :=
  m.sectionPlaces[name]?.bind (m.sections[·]?)

/-- The latest section of each name. -/
def latestSections (m : IndexedModel) : List IndexedSection :=
  (m.sections.zipIdx.filter fun place => m.sectionPlaces[place.1.name]? == some place.2).map Prod.fst

/-- The latest section that declares a node. -/
def node? (m : IndexedModel) (name : Text) : Option IndexedSection :=
  m.nodePlaces[name]?.bind (m.sections[·]?)

def hasNode (m : IndexedModel) (name : Text) : Bool := m.nodePlaces.contains name

/-- Every node section in the order of the file, hidden ones included. -/
def allNodeSections (m : IndexedModel) : List IndexedSection :=
  m.nodeSections.filterMap (m.sections[·]?)

/-- The place of the latest section of the node that is declared at `place`. -/
def latestPlace? (m : IndexedModel) (place : Nat) : Option Nat :=
  (m.sections[place]?.bind IndexedSection.nodeName?).bind (m.nodePlaces[·]?)

/-- The latest section of each node. -/
def nodes (m : IndexedModel) : List IndexedSection :=
  (m.nodeSections.filter fun place => m.latestPlace? place == some place).filterMap (m.sections[·]?)

/-- How many nodes there are, each name counted once. -/
def nodeCount (m : IndexedModel) : Nat := m.nodePlaces.size

def entries (m : IndexedModel) : EntryList → IndexedEntries
  | .inputs => m.inputs
  | .outputs => m.outputs

/-! ### Reading -/

/-- A model that is being read, with the place of the section that is open. -/
structure Reading where
  model : IndexedModel
  current : Option Nat

namespace Reading

def start : Reading := ⟨.empty, none⟩

/-- What a statement does to the model and to the section that is open. -/
def step (r : Reading) : Statement → Reading
  | .header name line => ⟨r.model.openSection name line, some r.model.sections.length⟩
  | .property key value line last =>
    { r with
      model := r.model.updateSection r.current fun s => (s.addProperty ⟨key, value, line⟩).touch last }
  | .entry list text line last =>
    { r with
      model := (r.model.updateSection r.current (.touch last)).addEntry list ⟨text, line⟩ }

end Reading

/-- The model that a text describes. -/
def read (content : Text) : IndexedModel :=
  ((Statement.ofLines none 0 (Text.lines content)).foldl Reading.step .start).model

end IndexedModel

end CatchmentLint
