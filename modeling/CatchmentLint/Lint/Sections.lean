import CatchmentLint.Lint.Issue
import CatchmentLint.Pattern.Unicode.Digit

/-!
# CatchmentLint.Lint.Sections

The top-level sections: those that are required are there, and so are the required properties in
the latest section of each name; every property that is specified has its form.
-/

namespace CatchmentLint.Lint

/-- Whether the text is three numbers, in digits of any script, with points between them. -/
def isVersion (value : Text) : Bool :=
  let parts := Text.splitOn '.' value
  parts.length == 3 && parts.all fun part => !part.isEmpty && part.all Unicode.isDigit

/-- A property must be there if it is required, and of the form that is asked for if it is there. -/
def checkProperty (spec : PropertySpec) (s : Section) : List Located :=
  match s.property? spec.name with
  | none => if spec.required then [⟨s.startLine + 1, .missingProperty spec.name⟩] else []
  | some p =>
    (if spec.pattern.all (·.accepts p.value) then [] else [⟨p.line, .invalidProperty spec.name⟩]) ++
      if spec.form = some "version".toList ∧ !isVersion p.value then [⟨p.line, .invalidVersion⟩]
      else []

/-- A section that is not there is told of at the first line. -/
def checkSection (m : Model) (spec : SectionSpec) : List Located :=
  match m.section? spec.name with
  | some s => spec.properties.flatMap (checkProperty · s)
  | none => if spec.required then [⟨1, .missingSection spec.name⟩] else []

/-- The sections in the order of the schema. -/
def findSections (schema : Schema) (m : Model) : List Located :=
  schema.sections.flatMap (checkSection m)

end CatchmentLint.Lint
