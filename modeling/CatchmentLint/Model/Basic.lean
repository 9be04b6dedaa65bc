import CatchmentLint.Model.Section

/-!
# CatchmentLint.Model.Basic

A model file as its sections and the bare entries of its lists.

Sections may share a name, and so may nodes.  As with properties, every occurrence is kept and
the latest one counts.
-/

namespace CatchmentLint

/-- An entry of `[inputs]` or `[outputs]`. -/
structure Entry where
  text : Text
  line : Nat
  deriving DecidableEq, Repr

/-- A section that declares a node, with the name it declares. -/
structure Node where
  name : Text
  body : Section
  deriving DecidableEq, Repr

structure Model where
  /-- Every section in the order of the file, hidden ones included. -/
  sections : List Section
  inputs : List Entry
  outputs : List Entry
  deriving DecidableEq, Repr

namespace Model

/-! ## Sections -/

/-- The latest section of each name. -/
def latestSections (m : Model) : List Section := latestBy Section.name m.sections

def section? (m : Model) (name : Text) : Option Section := lastWith? Section.name name m.sections

/-! ## Nodes -/

/-- Every node section in the order of the file, hidden ones included. -/
def declaredNodes (m : Model) : List Node :=
  m.sections.filterMap fun s => s.nodeName?.map fun name => ⟨name, s⟩

/-- The latest section of each node. -/
def nodes (m : Model) : List Node := latestBy Node.name m.declaredNodes

def node? (m : Model) (name : Text) : Option Node := lastWith? Node.name name m.declaredNodes

def hasNode (m : Model) (name : Text) : Bool := (m.node? name).isSome

def nodeCount (m : Model) : Nat := m.nodes.length

/-! ## Bare entries -/

/-- The line of the last entry with this text. -/
def lineOf? (entries : List Entry) (text : Text) : Option Nat :=
  (lastWith? Entry.text text entries).map Entry.line

end Model

end CatchmentLint
