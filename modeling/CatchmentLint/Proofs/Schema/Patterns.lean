import CatchmentLint.Proofs.Pattern.Whole
import CatchmentLint.Schema.Reader
import Mathlib.Data.List.Forall2

/-!
# CatchmentLint.Proofs.Schema.Patterns

The patterns of a schema: it is built if every text of a pattern is one, and then its patterns
speak of whole values.

`Compiles R r s` says that a schema holds what a record does, with a pattern for each text, to
which the text stands in `R`.  Building a schema is the case that `R` is compiling a pattern.
-/

namespace CatchmentLint

/-! ## Lists of steps that may fail -/

section Steps

variable {ε α β : Type}

theorem bind_eq_ok_iff {x : Except ε α} {f : α → Except ε β} {b : β} :
    x >>= f = .ok b ↔ ∃ a, x = .ok a ∧ f a = .ok b := by
  cases x with
  | error e =>
      constructor
      · intro h
        contradiction
      · rintro ⟨a, ha, -⟩
        contradiction
  | ok a =>
      constructor
      · exact fun h => ⟨a, rfl, h⟩
      · rintro ⟨_, ⟨⟩, h⟩
        exact h

/-- All elements are mapped well just if each is. -/
theorem mapM_eq_ok_iff {f : α → Except ε β} {xs : List α} {ys : List β} :
    xs.mapM f = .ok ys ↔ List.Forall₂ (fun x y => f x = .ok y) xs ys := by
  induction xs generalizing ys with
  | nil =>
      simp only [List.mapM_nil, List.forall₂_nil_left_iff]
      exact ⟨fun h => (Except.ok.inj h).symm, fun h => congrArg Except.ok h.symm⟩
  | cons x xs ih =>
      rw [List.mapM_cons, List.forall₂_cons_left_iff]
      constructor
      · intro h
        obtain ⟨y, hy, h⟩ := bind_eq_ok_iff.mp h
        obtain ⟨rest, hrest, h⟩ := bind_eq_ok_iff.mp h
        cases h
        exact ⟨y, rest, hy, ih.mp hrest, rfl⟩
      · rintro ⟨y, rest, hy, hrest, rfl⟩
        exact bind_eq_ok_iff.mpr ⟨y, hy, bind_eq_ok_iff.mpr ⟨rest, ih.mpr hrest, rfl⟩⟩

variable {R R' : α → β → Prop} {xs : List α} {ys : List β}

/-- Each element has one it is related to just if all have a list together. -/
theorem exists_forall₂_iff : (∃ ys, List.Forall₂ R xs ys) ↔ ∀ x ∈ xs, ∃ y, R x y := by
  induction xs with
  | nil => simp
  | cons x xs ih =>
      simp only [List.forall₂_cons_left_iff, List.forall_mem_cons, ← ih]
      constructor
      · rintro ⟨_, y, ys, hy, hys, rfl⟩
        exact ⟨⟨y, hy⟩, ys, hys⟩
      · rintro ⟨⟨y, hy⟩, ys, hys⟩
        exact ⟨y :: ys, y, ys, hy, hys, rfl⟩

/-- Related lists are related in any relation that holds of their elements. -/
theorem forall₂_mono (h : List.Forall₂ R xs ys) (himp : ∀ x ∈ xs, ∀ y, R x y → R' x y) :
    List.Forall₂ R' xs ys := by
  induction h with
  | nil => exact .nil
  | cons hxy _ ih =>
      obtain ⟨hfirst, hrest⟩ := List.forall_mem_cons.mp himp
      exact .cons (hfirst _ hxy) (ih hrest)

end Steps

namespace Schema

/-! ## Patterns in their places -/

namespace SchemaRecord

/-- The texts of the patterns of a section. -/
def sectionTexts (entry : Text × SectionRecord) : List Text :=
  entry.2.properties.filterMap fun property => property.2.pattern

/-- The texts of the patterns of properties, of data types and of rules. -/
def patternTexts (r : SchemaRecord) : List Text :=
  r.sections.flatMap sectionTexts ++ r.dataTypes.filterMap Prod.snd ++
    r.rules.filterMap fun rule => rule.2.pattern

end SchemaRecord

variable (R : Text → Pattern → Prop)

/-- The property of the schema is that of the record, with a pattern for its text. -/
structure PropertyCompiles (entry : Text × PropertyRecord) (spec : PropertySpec) : Prop where
  name : spec.name = entry.1
  required : spec.required = entry.2.required
  form : spec.form = entry.2.form
  pattern : Option.Rel R entry.2.pattern spec.pattern

/-- The section of the schema is that of the record, with patterns for all of its properties. -/
structure SectionCompiles (entry : Text × SectionRecord) (spec : SectionSpec) : Prop where
  name : spec.name = entry.1
  required : spec.required = entry.2.required
  properties : List.Forall₂ (PropertyCompiles R) entry.2.properties spec.properties

/-- The data type of the schema is that of the record, with a pattern for its text. -/
structure DataTypeCompiles (entry : Text × Option Text) (dataType : Text × Option Pattern) :
    Prop where
  name : dataType.1 = entry.1
  pattern : Option.Rel R entry.2 dataType.2

/-- The rule of the schema is that of the record, with a pattern for its text. -/
structure RuleCompiles (entry : Text × RuleRecord) (rule : Text × Rule) : Prop where
  name : rule.1 = entry.1
  description : rule.2.description = entry.2.description
  severity : rule.2.severity = entry.2.severity
  enabled : rule.2.enabled = entry.2.enabled
  pattern : Option.Rel R entry.2.pattern rule.2.pattern

/-- A schema that holds what a record does, with a pattern for each text, to which the text stands
in `R`. -/
structure Compiles (r : SchemaRecord) (s : Schema) : Prop where
  version : s.version = r.version
  sections : List.Forall₂ (SectionCompiles R) r.sections s.sections
  nodeTypes : s.nodeTypes = r.nodeTypes
  dataTypes : List.Forall₂ (DataTypeCompiles R) r.dataTypes s.dataTypes
  rules : List.Forall₂ (RuleCompiles R) r.rules s.rules

variable {R}

/-! ## Building -/

/-- A pattern that is not given compiles to none, and one that is to its own. -/
theorem compile_eq_ok_iff {owner : PatternOwner} {text : Option Text} {pattern : Option Pattern} :
    compile owner text = .ok pattern ↔
      Option.Rel (fun text pattern => Pattern.compile? text = some pattern) text pattern := by
  cases text with
  | none =>
      constructor
      · intro h
        cases h
        exact .none
      · intro h
        cases h
        rfl
  | some text =>
      unfold compile
      constructor
      · intro h
        simp only at h
        split at h
        · next hcompile =>
            cases h
            exact .some hcompile
        · contradiction
      · intro h
        cases h with
        | some hcompile => simp only [hcompile]

/-- The text is compiled to the pattern. -/
abbrev CompilesTo (text : Text) (pattern : Pattern) : Prop := Pattern.compile? text = some pattern

/-- A property is built just if its pattern compiles. -/
theorem compileProperty_eq_ok_iff {sectionName : Text} {entry : Text × PropertyRecord}
    {spec : PropertySpec} :
    compileProperty sectionName entry = .ok spec ↔ PropertyCompiles CompilesTo entry spec := by
  refine bind_eq_ok_iff.trans ?_
  constructor
  · rintro ⟨pattern, hpattern, h⟩
    cases h
    exact ⟨rfl, rfl, rfl, compile_eq_ok_iff.mp hpattern⟩
  · obtain ⟨name, required, pattern, form⟩ := spec
    rintro ⟨rfl, rfl, rfl, hpattern⟩
    exact ⟨pattern, compile_eq_ok_iff.mpr hpattern, rfl⟩

/-- A section is built just if all of its properties are. -/
theorem compileSection_eq_ok_iff {entry : Text × SectionRecord} {spec : SectionSpec} :
    compileSection entry = .ok spec ↔ SectionCompiles CompilesTo entry spec := by
  refine bind_eq_ok_iff.trans ?_
  simp only [mapM_eq_ok_iff, compileProperty_eq_ok_iff]
  constructor
  · rintro ⟨properties, hproperties, h⟩
    cases h
    exact ⟨rfl, rfl, hproperties⟩
  · obtain ⟨name, required, properties⟩ := spec
    rintro ⟨rfl, rfl, hproperties⟩
    exact ⟨properties, hproperties, rfl⟩

/-- A data type is built just if its pattern compiles. -/
theorem compileDataType_eq_ok_iff {entry : Text × Option Text}
    {dataType : Text × Option Pattern} :
    compileDataType entry = .ok dataType ↔ DataTypeCompiles CompilesTo entry dataType := by
  refine bind_eq_ok_iff.trans ?_
  constructor
  · rintro ⟨pattern, hpattern, h⟩
    cases h
    exact ⟨rfl, compile_eq_ok_iff.mp hpattern⟩
  · obtain ⟨name, pattern⟩ := dataType
    rintro ⟨rfl, hpattern⟩
    exact ⟨pattern, compile_eq_ok_iff.mpr hpattern, rfl⟩

/-- A rule is built just if its pattern compiles. -/
theorem compileRule_eq_ok_iff {entry : Text × RuleRecord} {rule : Text × Rule} :
    compileRule entry = .ok rule ↔ RuleCompiles CompilesTo entry rule := by
  refine bind_eq_ok_iff.trans ?_
  constructor
  · rintro ⟨pattern, hpattern, h⟩
    cases h
    exact ⟨rfl, rfl, rfl, rfl, compile_eq_ok_iff.mp hpattern⟩
  · obtain ⟨name, description, severity, enabled, pattern⟩ := rule
    rintro ⟨rfl, rfl, rfl, rfl, hpattern⟩
    exact ⟨pattern, compile_eq_ok_iff.mpr hpattern, rfl⟩

/-- A schema is built from a record exactly if each text is compiled in its place. -/
theorem ofRecord_eq_ok_iff {r : SchemaRecord} {s : Schema} :
    ofRecord r = .ok s ↔ Compiles CompilesTo r s := by
  simp only [ofRecord, bind_eq_ok_iff, mapM_eq_ok_iff, compileSection_eq_ok_iff,
    compileDataType_eq_ok_iff, compileRule_eq_ok_iff]
  constructor
  · rintro ⟨sections, hsections, dataTypes, hdataTypes, rules, hrules, h⟩
    cases h
    exact ⟨rfl, hsections, rfl, hdataTypes, hrules⟩
  · obtain ⟨version, sections, nodeTypes, dataTypes, rules⟩ := s
    rintro ⟨rfl, hsections, rfl, hdataTypes, hrules⟩
    exact ⟨sections, hsections, dataTypes, hdataTypes, rules, hrules, rfl⟩

/-! ## All texts -/

section Texts

variable {R R' : Text → Pattern → Prop} {r : SchemaRecord} {s : Schema}

theorem rel_mono {text : Option Text} {pattern : Option Pattern} (h : Option.Rel R text pattern)
    (himp : ∀ t ∈ text, ∀ p, R t p → R' t p) : Option.Rel R' text pattern := by
  cases h with
  | none => exact .none
  | some h => exact .some (himp _ rfl _ h)

theorem exists_rel_iff {text : Option Text} :
    (∃ pattern, Option.Rel R text pattern) ↔ ∀ t ∈ text, ∃ p, R t p := by
  cases text with
  | none => exact ⟨fun _ t ht => absurd ht (Option.not_mem_none t), fun _ => ⟨none, .none⟩⟩
  | some t =>
      constructor
      · rintro ⟨_, ⟨⟩⟩ _ ⟨⟩
        exact ⟨_, ‹_›⟩
      · intro h
        obtain ⟨p, hp⟩ := h t rfl
        exact ⟨some p, .some hp⟩

/-- What holds of all texts holds of those of the properties, of the data types and of the rules. -/
theorem forall_mem_patternTexts {P : Text → Prop} :
    (∀ text ∈ r.patternTexts, P text) ↔
      (∀ entry ∈ r.sections, ∀ property ∈ entry.2.properties, ∀ t ∈ property.2.pattern, P t) ∧
        (∀ dataType ∈ r.dataTypes, ∀ t ∈ dataType.2, P t) ∧
          ∀ rule ∈ r.rules, ∀ t ∈ rule.2.pattern, P t := by
  simp only [SchemaRecord.patternTexts, SchemaRecord.sectionTexts, List.forall_mem_append,
    List.forall_mem_flatMap, List.forall_mem_filterMap, Option.mem_def, and_assoc]

/-- The same schema stands for the record in any relation that holds of its texts. -/
theorem Compiles.mono (h : Compiles R r s)
    (himp : ∀ text ∈ r.patternTexts, ∀ pattern, R text pattern → R' text pattern) :
    Compiles R' r s := by
  obtain ⟨hproperties, hdataTypes, hrules⟩ := forall_mem_patternTexts.mp himp
  refine ⟨h.version, ?_, h.nodeTypes, ?_, ?_⟩
  · refine forall₂_mono h.sections fun entry hentry spec hspec =>
      ⟨hspec.name, hspec.required, ?_⟩
    exact forall₂_mono hspec.properties fun property hproperty p hp =>
      ⟨hp.name, hp.required, hp.form,
        rel_mono hp.pattern (hproperties entry hentry property hproperty)⟩
  · exact forall₂_mono h.dataTypes fun dataType hdataType d hd =>
      ⟨hd.name, rel_mono hd.pattern (hdataTypes dataType hdataType)⟩
  · exact forall₂_mono h.rules fun rule hrule q hq =>
      ⟨hq.name, hq.description, hq.severity, hq.enabled, rel_mono hq.pattern (hrules rule hrule)⟩

/-- There is such a property just if there is a pattern for its text. -/
theorem exists_propertyCompiles_iff {entry : Text × PropertyRecord} :
    (∃ spec, PropertyCompiles R entry spec) ↔ ∀ t ∈ entry.2.pattern, ∃ p, R t p := by
  rw [← exists_rel_iff]
  constructor
  · rintro ⟨spec, h⟩
    exact ⟨_, h.pattern⟩
  · rintro ⟨pattern, h⟩
    exact ⟨⟨entry.1, entry.2.required, pattern, entry.2.form⟩, rfl, rfl, rfl, h⟩

/-- There is such a section just if there are patterns for all of its properties. -/
theorem exists_sectionCompiles_iff {entry : Text × SectionRecord} :
    (∃ spec, SectionCompiles R entry spec) ↔
      ∀ property ∈ entry.2.properties, ∀ t ∈ property.2.pattern, ∃ p, R t p := by
  simp only [← exists_propertyCompiles_iff, ← exists_forall₂_iff]
  constructor
  · rintro ⟨spec, h⟩
    exact ⟨_, h.properties⟩
  · rintro ⟨properties, h⟩
    exact ⟨⟨entry.1, entry.2.required, properties⟩, rfl, rfl, h⟩

/-- There is such a data type just if there is a pattern for its text. -/
theorem exists_dataTypeCompiles_iff {entry : Text × Option Text} :
    (∃ dataType, DataTypeCompiles R entry dataType) ↔ ∀ t ∈ entry.2, ∃ p, R t p := by
  rw [← exists_rel_iff]
  constructor
  · rintro ⟨dataType, h⟩
    exact ⟨_, h.pattern⟩
  · rintro ⟨pattern, h⟩
    exact ⟨(entry.1, pattern), rfl, h⟩

/-- There is such a rule just if there is a pattern for its text. -/
theorem exists_ruleCompiles_iff {entry : Text × RuleRecord} :
    (∃ rule, RuleCompiles R entry rule) ↔ ∀ t ∈ entry.2.pattern, ∃ p, R t p := by
  rw [← exists_rel_iff]
  constructor
  · rintro ⟨rule, h⟩
    exact ⟨_, h.pattern⟩
  · rintro ⟨pattern, h⟩
    exact ⟨(entry.1, ⟨entry.2.description, entry.2.severity, entry.2.enabled, pattern⟩),
      rfl, rfl, rfl, rfl, h⟩

/-- There is such a schema just if there are patterns for all of its texts. -/
theorem exists_compiles_iff :
    (∃ s, Compiles R r s) ↔ ∀ text ∈ r.patternTexts, ∃ pattern, R text pattern := by
  rw [forall_mem_patternTexts]
  simp only [← exists_sectionCompiles_iff, ← exists_dataTypeCompiles_iff,
    ← exists_ruleCompiles_iff, ← exists_forall₂_iff]
  constructor
  · rintro ⟨s, h⟩
    exact ⟨⟨_, h.sections⟩, ⟨_, h.dataTypes⟩, ⟨_, h.rules⟩⟩
  · rintro ⟨⟨sections, hsections⟩, ⟨dataTypes, hdataTypes⟩, ⟨rules, hrules⟩⟩
    exact ⟨⟨r.version, sections, r.nodeTypes, dataTypes, rules⟩, rfl, hsections, rfl, hdataTypes,
      hrules⟩

end Texts

/-! ## Whole values -/

open Pattern (Slips MatchesWhole alone? compile?)

/-- The pattern accepts just the values that the text matches as a whole. -/
def SpeaksOfWholes (text : Text) (pattern : Pattern) : Prop :=
  ∀ value, pattern.accepts value = true ↔ MatchesWhole text value

/-- A schema is built from the record exactly if each text is a pattern by itself, and then its
patterns accept the values that their texts match from the first character to the last. -/
structure HasWholePatterns (r : SchemaRecord) : Prop where
  built : (∃ s, ofRecord r = .ok s) ↔ ∀ text ∈ r.patternTexts, (alone? text).isSome
  whole : ∀ s, ofRecord r = .ok s → Compiles SpeaksOfWholes r s

variable {r : SchemaRecord}

/-- A schema is built just if every text of a pattern compiles. -/
theorem exists_ofRecord_iff :
    (∃ s, ofRecord r = .ok s) ↔ ∀ text ∈ r.patternTexts, (compile? text).isSome := by
  simp only [ofRecord_eq_ok_iff, exists_compiles_iff, Option.isSome_iff_exists]

/-- A text that the anchors do not change compiles just if it is a pattern by itself. -/
theorem isSome_compile?_iff_of_not_slips {text : Text} (h : ¬Slips text) :
    (compile? text).isSome ↔ (alone? text).isSome := by
  rwa [Pattern.slips_iff, Classical.not_not] at h

/-- Where no text slips, the schema speaks of whole values. -/
theorem hasWholePatterns_of_not_slips (h : ∀ text ∈ r.patternTexts, ¬Slips text) :
    HasWholePatterns r := by
  constructor
  · rw [exists_ofRecord_iff]
    exact forall₂_congr fun text htext => isSome_compile?_iff_of_not_slips (h text htext)
  · intro s hs
    refine (ofRecord_eq_ok_iff.mp hs).mono fun text htext pattern hcompile => ?_
    have hsome : (compile? text).isSome := Option.isSome_iff_exists.mpr ⟨pattern, hcompile⟩
    have halone := (isSome_compile?_iff_of_not_slips (h text htext)).mp hsome
    exact Pattern.accepts_iff_matchesWhole hcompile halone

/-- The patterns of a schema speak of whole values exactly if no text slips, or if no schema is
built and none should be. -/
theorem hasWholePatterns_iff (r : SchemaRecord) :
    HasWholePatterns r ↔ (∀ text ∈ r.patternTexts, ¬Slips text) ∨
      (∃ text ∈ r.patternTexts, compile? text = none) ∧
        ∃ text ∈ r.patternTexts, alone? text = none := by
  constructor
  · intro h
    have hiff := exists_ofRecord_iff.symm.trans h.built
    by_cases hcompile : ∀ text ∈ r.patternTexts, (compile? text).isSome
    · have halone := hiff.mp hcompile
      refine .inl fun text htext hslips => Pattern.slips_iff.mp hslips ?_
      exact iff_of_true (hcompile text htext) (halone text htext)
    · have halone : ¬∀ text ∈ r.patternTexts, (alone? text).isSome := fun h => hcompile (hiff.mpr h)
      simp only [not_forall, Option.not_isSome_iff_eq_none, exists_prop] at hcompile halone
      exact .inr ⟨hcompile, halone⟩
  · rintro (h | ⟨⟨text, htext, hnone⟩, text', htext', hnone'⟩)
    · exact hasWholePatterns_of_not_slips h
    · have hbuilt : ¬∃ s, ofRecord r = .ok s := fun h => by
        have hsome := exists_ofRecord_iff.mp h text htext
        rw [hnone] at hsome
        contradiction
      refine ⟨iff_of_false hbuilt fun h => ?_, fun s hs => absurd ⟨s, hs⟩ hbuilt⟩
      have hsome := h text' htext'
      rw [hnone'] at hsome
      contradiction

/-- The record of a schema with one data type. -/
def dataTypeRecord (name pattern : Text) : SchemaRecord :=
  ⟨none, [], [], [(name, some pattern)], []⟩

theorem patternTexts_dataTypeRecord (name pattern : Text) :
    (dataTypeRecord name pattern).patternTexts = [pattern] := rfl

/-- A schema is built from a text that is no pattern, since its parenthesis closes the group of the
anchors, and none from a text that is one, since its comment takes in the end of that group. -/
theorem ofRecord_slips :
    ¬HasWholePatterns (dataTypeRecord "t".toList "x)|(?:y".toList) ∧
      ¬HasWholePatterns (dataTypeRecord "t".toList "(?x)a # note".toList) := by
  have hslips {pattern : Text} (h : (compile? pattern).isSome ≠ (alone? pattern).isSome) :
      ¬HasWholePatterns (dataTypeRecord "t".toList pattern) := by
    intro hwhole
    have hiff := exists_ofRecord_iff.symm.trans hwhole.built
    simp only [patternTexts_dataTypeRecord, List.forall_mem_singleton] at hiff
    exact h (Bool.eq_iff_iff.mpr hiff)
  exact ⟨hslips (by decide +kernel), hslips (by decide +kernel)⟩

end Schema

end CatchmentLint
