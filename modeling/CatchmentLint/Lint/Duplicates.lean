import CatchmentLint.Lint.Issue

/-!
# CatchmentLint.Lint.Duplicates

Keys that a section holds twice, and node names that are declared twice.  Every occurrence is
found, the latest one too.
-/

namespace CatchmentLint.Lint

/-! ## Properties -/

/-- Every property of a section whose key stands there more than once. -/
def duplicatesIn (s : Section) : List Located :=
  (s.occurrences.filter fun p => 1 < s.occurrences.countP (·.key == p.key)).map fun p =>
    ⟨p.line, .duplicateProperty p.key s.name⟩

/-- The duplicates of all sections, those of hidden sections among them. -/
def findDuplicateProperties (m : Model) : List Located := m.sections.flatMap duplicatesIn

/-! ## Node names -/

/-- The header lines of the nodes with this name. -/
def declarationLines (m : Model) (name : Text) : List Nat :=
  (m.declaredNodes.filter (·.name == name)).map (·.body.startLine)

/-- Every node whose name is declared more than once, with the lines of the others. -/
def findDuplicateNodes (m : Model) : List Located :=
  (m.declaredNodes.filter fun node => 1 < (declarationLines m node.name).length).map fun node =>
    let others := (declarationLines m node.name).filter (· != node.body.startLine)
    ⟨node.body.startLine, .duplicateNode node.name others⟩

end CatchmentLint.Lint
