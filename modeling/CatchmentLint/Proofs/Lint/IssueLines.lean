import CatchmentLint.Proofs.Lint.Rules
import CatchmentLint.Proofs.Lint.Session

/-!
# CatchmentLint.Proofs.Lint.IssueLines

Where in its document an issue points.

* `HasStatement` — the lines on which a model has a header, a property or an entry, and
  `HasStatement.bounds` — the document has these lines;
* `Pointed` — what is found stands on one of them, or on the first line where a section is missing,
  or right below a header where a property is;
* `validate_lines` — so an issue stands on a line of its document, but for a property that is missing
  under a header on the last line, which is told of one line further down.
-/

namespace CatchmentLint

/-! ## Lines of a model -/

/-- A header, a property or an entry stands on this line. -/
inductive Model.HasStatement (m : Model) : Nat → Prop
  | header {s : Section} (hs : s ∈ m.sections) : HasStatement m s.startLine
  | property {s : Section} {p : Property} (hs : s ∈ m.sections) (hp : p ∈ s.occurrences) :
      HasStatement m p.line
  | input {entry : Entry} (h : entry ∈ m.inputs) : HasStatement m entry.line
  | output {entry : Entry} (h : entry ∈ m.outputs) : HasStatement m entry.line

namespace Lines

variable {lines : List Text} {i : Nat}

theorem lt_length_of_isRecorded (h : isRecorded lines i = true) : i < lines.length :=
  lt_length_of_isStatement (Bool.and_eq_true_iff.mp h).2

/-- A property stands on a line that the text has. -/
theorem lt_length_of_propertyAt? {p : Property} (h : propertyAt? lines i = some p) :
    i < lines.length := by
  unfold propertyAt? at h
  split at h
  · next hrecorded _ => exact lt_length_of_isRecorded hrecorded
  · contradiction

/-- An entry stands on a line that the text has. -/
theorem bounds_of_entryAt? {entry : Entry} (h : entryAt? lines i = some entry) :
    1 ≤ entry.line ∧ entry.line ≤ lines.length := by
  unfold entryAt? at h
  split at h
  · next hrecorded _ =>
      cases h
      exact ⟨Nat.le_add_left 1 i, lt_length_of_isRecorded hrecorded⟩
  · contradiction

/-- A header stands on a line that the text has. -/
theorem startLine_bounds {content : Text} {s : Section}
    (hs : s ∈ (Model.read content).sections) :
    1 ≤ s.startLine ∧ s.startLine ≤ (Text.lines content).length := by
  obtain ⟨i, hi, -, hstart, -⟩ := exists_headerAt? hs
  omega

end Lines

/-- What is read from a text stands on the lines of the text. -/
theorem Model.HasStatement.bounds {content : Text} {line : Nat}
    (h : (Model.read content).HasStatement line) :
    1 ≤ line ∧ line ≤ (Text.lines content).length := by
  cases h with
  | header hs => exact Lines.startLine_bounds hs
  | property hs hp =>
      obtain ⟨i, hi⟩ := Lines.exists_propertyAt? hs hp
      have hlt := Lines.lt_length_of_propertyAt? hi
      rw [Lines.line_of_propertyAt? hi]
      exact ⟨Nat.le_add_left 1 i, hlt⟩
  | @input entry h =>
      obtain ⟨i, hi⟩ : ∃ i, Lines.entryAt? (Text.lines content) i = some entry :=
        Lines.exists_entryAt? h
      exact Lines.bounds_of_entryAt? hi
  | @output entry h =>
      obtain ⟨i, hi⟩ : ∃ i, Lines.entryAt? (Text.lines content) i = some entry :=
        Lines.exists_entryAt? h
      exact Lines.bounds_of_entryAt? hi

namespace Lint

variable {schema : Schema} {m : Model} {l : Located}

/-! ## Where findings stand -/

/-- The latest section of its name is without a property that the schema requires in it. -/
structure Lacks (schema : Schema) (m : Model) (s : Section) (name : Text) : Prop where
  latest : IsLatest Section.name s m.sections
  required : ∃ spec ∈ schema.sections, spec.name = s.name ∧
    ∃ property ∈ spec.properties, property.required = true ∧ property.name = name
  missing : ∀ p ∈ s.occurrences, p.key ≠ name

/-- A finding stands on a line that has a statement; but a section that is missing is told of on the
first line, and a property that is missing right below the header of its section. -/
inductive Pointed (schema : Schema) (m : Model) : Located → Prop
  | statement {line : Nat} (h : m.HasStatement line) (finding : Finding) :
      Pointed schema m ⟨line, finding⟩
  | missingSection (name : Text) : Pointed schema m ⟨1, .missingSection name⟩
  | missingProperty {s : Section} {name : Text} (h : Lacks schema m s name) :
      Pointed schema m ⟨s.startLine + 1, .missingProperty name⟩

theorem pointed_of_line_eq {line : Nat} (h : m.HasStatement line) (hline : l.line = line) :
    Pointed schema m l := by
  obtain ⟨line', finding⟩ := l
  subst hline
  exact .statement h finding

/-- What is found in the sections points to a line of theirs, or below a header. -/
theorem pointed_of_mem_findSections (h : l ∈ findSections schema m) : Pointed schema m l := by
  obtain ⟨spec, hspec, h⟩ := List.mem_flatMap.mp h
  unfold checkSection at h
  cases hsection : m.section? spec.name with
  | none =>
      simp only [hsection, List.mem_ite_nil_right, List.mem_singleton] at h
      rw [h.2]
      exact .missingSection spec.name
  | some s =>
      obtain ⟨hname, hlatest⟩ := lastWith?_eq_some_iff.mp hsection
      simp only [hsection] at h
      obtain ⟨property, hproperty, h⟩ := List.mem_flatMap.mp h
      unfold checkProperty at h
      cases hfound : s.property? property.name with
      | none =>
          simp only [hfound, List.mem_ite_nil_right, List.mem_singleton] at h
          obtain ⟨hrequired, rfl⟩ := h
          exact .missingProperty
            ⟨hlatest, ⟨spec, hspec, hname.symm, property, hproperty, hrequired, rfl⟩,
              lastWith?_eq_none_iff.mp hfound⟩
      | some p =>
          have hp := (lastWith?_eq_some_iff.mp hfound).2.mem
          simp only [hfound, List.mem_append, List.mem_ite_nil_left, List.mem_ite_nil_right,
            List.mem_singleton] at h
          rcases h with ⟨-, rfl⟩ | ⟨-, rfl⟩
          · exact .statement (.property hlatest.mem hp) _
          · exact .statement (.property hlatest.mem hp) _

section Nodes

variable {node : Node} {p : Property}

theorem line_of_mem_checkBounds {spec : ParameterSpec} {value : Binary64}
    (h : l ∈ checkBounds spec p value) : l.line = p.line := by
  unfold checkBounds at h
  grind

/-- What is found in a value stands on the line of its property. -/
theorem line_of_mem_checkValue {spec : ParameterSpec} (h : l ∈ checkValue schema m node spec p) :
    l.line = p.line := by
  unfold checkValue checkValueWith at h
  cases htype : spec.type <;> simp only [htype, checkNumber, checkInteger, checkSequence] at h <;>
    grind [line_of_mem_checkBounds, Id.run_pure]

/-- What is found in a parameter stands on its line. -/
theorem line_of_mem_checkParameter {type : Text × NodeType}
    (h : l ∈ checkParameter schema m node type p) : l.line = p.line := by
  unfold checkParameter checkParameterWith at h
  have hvalue : ∀ spec, l ∈ (checkValueWith sayAnew schema m node spec p).run → l.line = p.line :=
    fun _ => line_of_mem_checkValue
  grind [Id.run_pure]

/-- A parameter that is missing is told of at the header of its node. -/
theorem line_of_mem_checkRequired {name : Text} (h : l ∈ checkRequired node name) :
    l.line = node.body.startLine := by
  simp only [checkRequired, List.mem_ite_nil_left, List.mem_singleton] at h
  rw [h.2]

/-- What is found in a node stands on its header or on one of its properties. -/
theorem line_of_mem_checkNode (h : l ∈ checkNode schema m node) :
    l.line = node.body.startLine ∨ ∃ p ∈ node.body.occurrences, l.line = p.line := by
  unfold checkNode checkNodeWith at h
  split at h
  · rw [Id.run_pure, List.mem_singleton] at h
    exact .inl (by rw [h])
  · split at h
    · rw [Id.run_pure, List.mem_singleton] at h
      rw [h]
      cases hproperty : node.body.property? "type".toList with
      | none => exact .inl rfl
      | some p => exact .inr ⟨p, (lastWith?_eq_some_iff.mp hproperty).2.mem, rfl⟩
    · rw [checkTypedWith_eq saysAlone_sayAnew, Id.run_pure] at h
      rcases List.mem_append.mp h with h | h
      · obtain ⟨name, -, h⟩ := List.mem_flatMap.mp h
        exact .inl (line_of_mem_checkRequired h)
      · obtain ⟨p, hp, h⟩ := List.mem_flatMap.mp h
        exact .inr ⟨p, (mem_latestBy_iff.mp hp).mem, line_of_mem_checkParameter h⟩

/-- What is found in a node points to a line of its section. -/
theorem pointed_of_mem_checkNode (hnode : node.body ∈ m.sections)
    (h : l ∈ checkNode schema m node) : Pointed schema m l := by
  rcases line_of_mem_checkNode h with hline | ⟨p, hp, hline⟩
  · exact pointed_of_line_eq (.header hnode) hline
  · exact pointed_of_line_eq (.property hnode hp) hline

end Nodes

/-- What is found in the links of a node that count stands on their lines. -/
theorem pointed_of_mem_links {isWrong : Node → Property → Bool} {finding : Property → Finding}
    (h : l ∈ m.nodes.flatMap fun node =>
      (node.body.properties.filter fun p => isLink p && isWrong node p).map fun p =>
        ⟨p.line, finding p⟩) : Pointed schema m l := by
  obtain ⟨node, hnode, h⟩ := List.mem_flatMap.mp h
  obtain ⟨p, hp, rfl⟩ := List.mem_map.mp h
  have hbody := body_mem_of_declared (mem_latestBy_iff.mp hnode).mem
  exact .statement (.property hbody (mem_latestBy_iff.mp (List.mem_filter.mp hp).1).mem) _

/-- Every check of a model finds things where they point into it. -/
theorem pointed_of_mem_find {check : Check} (h : l ∈ check.find schema m) : Pointed schema m l := by
  cases check with
  | sections => exact pointed_of_mem_findSections h
  | nodes =>
      rw [Check.find, findNodes_eq] at h
      obtain ⟨node, hnode, h⟩ := List.mem_flatMap.mp h
      exact pointed_of_mem_checkNode (body_mem_of_declared (mem_latestBy_iff.mp hnode).mem) h
  | duplicateProperties =>
      obtain ⟨s, hs, h⟩ := List.mem_flatMap.mp h
      obtain ⟨p, hp, rfl⟩ := List.mem_map.mp h
      exact .statement (.property hs (List.mem_filter.mp hp).1) _
  | uniqueNodeNames =>
      obtain ⟨node, hnode, rfl⟩ := List.mem_map.mp h
      exact .statement (.header (body_mem_of_declared (List.mem_filter.mp hnode).1)) _
  | references =>
      rcases List.mem_append.mp h with h | h
      · obtain ⟨entry, hentry, hline⟩ := line_of_mem_findOutputs h
        exact pointed_of_line_eq (.output hentry) hline
      · exact pointed_of_mem_links h
  | nodeOrdering => exact pointed_of_mem_links h
  | inputFiles => cases h

/-! ## Lines of issues -/

/-- The issue stands on a line of the text, where a text has one line at least; or it tells of a
property that is missing under a header on the last line, and stands one line further down. -/
def WithinText (schema : Schema) (content : Text) (i : Issue) : Prop :=
  let count := (Text.lines content).length
  1 ≤ i.line ∧ (i.line ≤ max 1 count ∨
    i.line = count + 1 ∧ ∃ s name, Lacks schema (Model.read content) s name ∧ s.startLine = count ∧
      i.rule = "missing_property".toList ∧ i.message = "Missing required property: ".toList ++ name)

variable {content : Text} {i : Issue}

/-- What is reported of findings that point somewhere is within the text. -/
theorem withinText_of_mem_report {found : List Located}
    (h : ∀ l ∈ found, Pointed schema (Model.read content) l) (hi : i ∈ report schema found) :
    WithinText schema content i := by
  obtain ⟨⟨line, finding⟩, hl, hline, hmessage, hrule⟩ := exists_located_of_mem hi
  simp only at hline
  unfold WithinText
  cases h _ hl with
  | statement hstatement =>
      have hbounds := hstatement.bounds
      omega
  | missingSection name => omega
  | @missingProperty s name hlacks =>
      have hbounds := Lines.startLine_bounds hlacks.latest.mem
      by_cases hlast : s.startLine = (Text.lines content).length
      · exact ⟨by omega, .inr ⟨by omega, s, name, hlacks, hlast, hrule, hmessage⟩⟩
      · omega

/-- The issues of a model are within its text. -/
theorem withinText_of_mem_modelIssues (hi : i ∈ modelIssues schema (Model.read content)) :
    WithinText schema content i := by
  obtain ⟨check, -, hi⟩ := List.mem_flatMap.mp hi
  exact withinText_of_mem_report (fun _ => pointed_of_mem_find) hi

/-- A missing file is told of on the line of its entry, which is within the text. -/
theorem withinText_of_mem_checkInputFiles {onDisk : Text → Bool} {clock : Clock}
    {base? : Option Text} {mem : Memory}
    (hi : i ∈ (checkInputFiles schema onDisk clock base? (Model.read content) mem).1) :
    WithinText schema content i := by
  cases base? with
  | none => cases hi
  | some base =>
      rw [checkInputFiles_eq_report] at hi
      refine withinText_of_mem_report (fun l hl => ?_) hi
      obtain ⟨entry, hentry, rfl⟩ := exists_of_mem_findMissingFiles hl
      exact .statement (.input hentry) _

end Lint

namespace Linter

open Lint

/-! ## Linters -/

/-- What is found in a document and its files stands on its lines. -/
theorem withinText_anew (schema : Schema) :
    GoodAnew (fun key issues => ∀ i ∈ issues, WithinText schema key.content i) schema := by
  intro content base? onDisk clock mem i hi
  cases List.mem_append.mp hi with
  | inl hmodel => exact withinText_of_mem_modelIssues hmodel
  | inr hfiles => exact withinText_of_mem_checkInputFiles hfiles

/-- Whatever a linter has been asked before, an issue that it tells of a document stands on one of
its lines, where an empty document has one; or it tells of a property that the schema requires and
that is missing in a section whose header is the last line, and stands one line further down. -/
theorem validate_lines (schema : Schema) (capacity lifetime : Nat) (expressions : Expression.Cache)
    (history : List Step) (around : Surroundings) (content : Text) (base? : Option Text) :
    let l := (withCaches schema capacity lifetime expressions).after history
    let count := (Text.lines content).length
    ∀ i ∈ (l.validate around content base?).1, 1 ≤ i.line ∧ (i.line ≤ max 1 count ∨
      i.line = count + 1 ∧ ∃ s name, Lacks schema (Model.read content) s name ∧
        s.startLine = count ∧ i.rule = "missing_property".toList ∧
        i.message = "Missing required property: ".toList ++ name) := by
  intro l count i hi
  have hl := keepsGood_after (withinText_anew schema) capacity lifetime expressions history
  cases henabled : l.enabled with
  | false =>
      rw [validate_of_disabled henabled] at hi
      cases hi
  | true => exact hl.validate (withinText_anew schema) henabled around content base? i hi

/-- A schema that requires a version, wherever there are attributes. -/
def versionedAttributes : Schema :=
  { version := none
    sections := [⟨"attributes".toList, false, [⟨"ini_version".toList, true, none, none⟩]⟩]
    nodeTypes := []
    dataTypes := []
    rules := [] }

/-- A document that ends in a header, whose section lacks a property. -/
theorem validate_lines_header :
    let l := (withCaches versionedAttributes 1 1 (.empty 1)).after [⟨⟨0, fun _ => false⟩, .clear⟩]
    let content := "[node.a]\n[attributes]".toList
    let issue : Issue := ⟨3, "Missing required property: ini_version".toList, .error,
      "missing_property".toList⟩
    issue ∈ (l.validate ⟨1, fun _ => false⟩ content none).1 ∧
      ∃ s name, Lacks versionedAttributes (Model.read content) s name ∧ s.startLine = 2 ∧
        issue.message = "Missing required property: ".toList ++ name := by
  intro l content issue
  have hissue : issue ∈ (l.validate ⟨1, fun _ => false⟩ content none).1 := by decide +kernel
  have hcount : (Text.lines content).length = 2 := by decide +kernel
  refine ⟨hissue, ?_⟩
  obtain ⟨-, hle | ⟨-, s, name, hlacks, hstart, -, hmessage⟩⟩ :=
    validate_lines versionedAttributes 1 1 (.empty 1) [⟨⟨0, fun _ => false⟩, .clear⟩]
      ⟨1, fun _ => false⟩ content none issue hissue
  · rw [hcount] at hle
    exact absurd hle (by decide)
  · exact ⟨s, name, hlacks, hstart.trans hcount, hmessage⟩

/-- The only line of the document is a header, and the issue stands on the line after it. -/
theorem exists_line_below_text :
    let content := "[attributes]\n".toList
    ∃ i ∈ ((fresh versionedAttributes).validate ⟨0, fun _ => false⟩ content none).1,
      ¬i.line ≤ max 1 (Text.lines content).length := by
  decide +kernel

end Linter

end CatchmentLint
