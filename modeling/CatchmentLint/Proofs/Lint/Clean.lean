import CatchmentLint.Proofs.Lint.Checks
import CatchmentLint.Proofs.Model.Latest
import CatchmentLint.Proofs.Text.Pieces
import CatchmentLint.Schema.Default
import Mathlib.Algebra.Group.Int.Defs
import Mathlib.Data.List.Nodup

/-!
# CatchmentLint.Proofs.Lint.Clean

When a model has no issue: what each check demands, said of the model itself and not of how the
check looks for it.

* `Clean` — what the rules of a schema demand of a model, all of them together;
* `clean_iff` — a model is clean just where no check finds anything;
* `validate_fresh` — and what a fresh linter says of a document is what the checks find in its model.
-/

namespace CatchmentLint.Lint

variable {schema : Schema} {m : Model}

/-! ## Sections -/

/-- Three numbers, in digits of any script, with points between them. -/
def IsVersion (value : Text) : Prop :=
  ∃ major minor patch, value = major ++ '.' :: (minor ++ '.' :: patch) ∧
    ∀ part ∈ [major, minor, patch], part ≠ [] ∧ ∀ c ∈ part, Unicode.isDigit c = true

/-- The section has the property if that is required, and the latest one has its form. -/
structure PropertyClean (spec : PropertySpec) (s : Section) : Prop where
  present : spec.required = true → ∃ p ∈ s.occurrences, p.key = spec.name
  matched : ∀ p, IsLatest Property.key p s.occurrences → p.key = spec.name →
    ∀ pattern, spec.pattern = some pattern → pattern.accepts p.value = true
  version : ∀ p, IsLatest Property.key p s.occurrences → p.key = spec.name →
    spec.form = some "version".toList → IsVersion p.value

/-- The section is there if it is required, and the latest one of its name has the properties. -/
structure SectionClean (spec : SectionSpec) (m : Model) : Prop where
  present : spec.required = true → ∃ s ∈ m.sections, s.name = spec.name
  properties : ∀ s, IsLatest Section.name s m.sections → s.name = spec.name →
    ∀ property ∈ spec.properties, PropertyClean property s

/-! ## Values -/

/-- The value has the form of a data type, where the schema gives that one. -/
def HasForm (schema : Schema) (dataType value : Text) : Prop :=
  ∀ pattern, schema.dataTypes.lookup dataType = some (some pattern) → pattern.accepts value = true

/-- The number is not below the minimum nor above the maximum, as far as there are such. -/
def Within (spec : ParameterSpec) (value : Binary64) : Prop :=
  (∀ min, spec.min = some min → value.lt min = false) ∧
    ∀ max, spec.max = some max → max.lt value = false

/-- The value of a parameter conforms to the type that is declared for it.  An integer is held
against its bounds as the number of 64 bits that it is rounded to, which above `2 ^ 53` may be
another integer. -/
def Conforms (schema : Schema) (m : Model) (node : Node) (spec : ParameterSpec) (value : Text) :
    Prop :=
  match spec.type with
  | .coordinates => HasForm schema "coordinates".toList value
  | .number => HasForm schema "number".toList value ∧
      ∀ x, Binary64.read? value = some x → Within spec x
  | .integer => HasForm schema "integer".toList value ∧
      ∃ i : Int, Text.toInt? value = some i ∧ -2 ^ 63 ≤ i ∧ i < 2 ^ 63 ∧ Within spec (.ofInt i)
  | .numberSequence => HasForm schema "number_sequence".toList value ∧
      ∀ count, spec.count = some count → sequenceLength value = count
  | .functionExpression => Expression.messages (.node m schema node.body) value = []
  | .nodeReference | .string | .other => True

/-! ## Nodes -/

/-- The node has a type that the schema knows, with all parameters that are required and no others
than those that are allowed, and their values conform. -/
structure NodeConforms (schema : Schema) (m : Model) (node : Node) (t : NodeType) : Prop where
  required : ∀ name ∈ t.required, ∃ p ∈ node.body.occurrences, p.key = name
  allowed : ∀ p, IsLatest Property.key p node.body.occurrences → p.key ≠ "type".toList →
    p.key ∈ t.required ∨ p.key ∈ t.optional ∨ p.key ∈ t.links
  conforming : ∀ p, IsLatest Property.key p node.body.occurrences → p.key ≠ "type".toList →
    ∀ spec, t.parameter? p.key = some spec → Conforms schema m node spec p.value

/-- The latest type of the node is one of the schema's, and the node conforms to it. -/
def NodeClean (schema : Schema) (m : Model) (node : Node) : Prop :=
  ∃ p t, IsLatest Property.key p node.body.occurrences ∧ p.key = "type".toList ∧
    schema.nodeType? p.value = some t ∧ NodeConforms schema m node t

/-! ## References -/

/-- The output has the form that is asked for; where it names a node, that is declared.  An output
that is accepted but has another shape than `node.name.output` is let pass. -/
def OutputClean (schema : Schema) (m : Model) (text : Text) : Prop :=
  (∃ pattern, outputPattern schema = some pattern ∧ pattern.accepts text = true) ∧
    ∀ name output, Reference.splitNode? (Reference.withoutBrackets text) = some (name, output) →
      ∃ node ∈ m.declaredNodes, node.name = name

/-- The link leads to a node whose header stands strictly below. -/
def LinkClean (m : Model) (node : Node) (p : Property) : Prop :=
  ∃ target, IsLatest Node.name target m.declaredNodes ∧ target.name = p.value ∧
    node.body.startLine < target.body.startLine

/-! ## Models -/

/-- What the rules demand of a model, all of them together. -/
structure Clean (schema : Schema) (m : Model) : Prop where
  sections : ∀ spec ∈ schema.sections, SectionClean spec m
  nodes : ∀ node, IsLatest Node.name node m.declaredNodes → NodeClean schema m node
  keys : ∀ s ∈ m.sections, (s.occurrences.map Property.key).Nodup
  names : (m.declaredNodes.map Node.name).Nodup
  outputs : ∀ entry ∈ m.outputs, OutputClean schema m entry.text
  links : ∀ node, IsLatest Node.name node m.declaredNodes →
    ∀ p, IsLatest Property.key p node.body.occurrences → "ds_".toList <+: p.key →
      LinkClean m node p

/-! ## Reports -/

/-- The schema does not switch the rule off. -/
def LeavesEnabled (schema : Schema) (rule : Text) : Prop :=
  ∀ r, schema.rule? rule = some r → r.enabled = true

/-- No rule of the schema is switched off. -/
def AllEnabled (schema : Schema) : Prop := ∀ name r, schema.rule? name = some r → r.enabled = true

/-- Rules that are switched on each leave everything enabled. -/
theorem allEnabled_of_mem (h : ∀ entry ∈ schema.rules, entry.2.enabled = true) :
    AllEnabled schema := by
  intro name r hr
  obtain ⟨before, after, hrules, -⟩ := List.lookup_eq_some_iff.mp hr
  exact h (name, r) (by rw [hrules]; simp)

theorem allEnabled_default : AllEnabled Schema.default := allEnabled_of_mem (by decide +kernel)

/-- A rule that is not switched off has a severity. -/
theorem exists_severity? {rule : Text} (h : LeavesEnabled schema rule) (default : Severity) :
    ∃ severity, schema.severity? rule default = some severity := by
  unfold Schema.severity?
  split
  · next r hr => exact ⟨r.severity, if_pos (h r hr)⟩
  · exact ⟨default, rfl⟩

/-- What is found under a rule that is on is told, at its line and with its message and code. -/
theorem exists_issues_eq {f : Finding} (h : LeavesEnabled schema f.governor) (line : Nat) :
    ∃ severity, f.issues schema line = [⟨line, f.message, severity, f.code⟩] := by
  obtain ⟨severity, hseverity⟩ := exists_severity? h f.defaultSeverity
  exact ⟨f.severityUnder severity, by simp [Finding.issues, hseverity]⟩

/-- Where no rule is switched off, every finding is told. -/
theorem report_eq_nil_iff (h : AllEnabled schema) {found : List Located} :
    report schema found = [] ↔ found = [] := by
  cases found with
  | nil => simp [report]
  | cons l found =>
      obtain ⟨severity, hissues⟩ := exists_issues_eq (h l.finding.governor) l.line
      simp [report, hissues]

/-- With all rules switched on, nothing is told just if nothing is found. -/
theorem modelIssues_eq_nil_iff (h : AllEnabled schema) :
    modelIssues schema m = [] ↔ findSections schema m = [] ∧ findNodes schema m = [] ∧
      findDuplicateProperties m = [] ∧ findDuplicateNodes m = [] ∧ findReferences schema m = [] ∧
      findUpwardLinks m = [] := by
  simp [modelIssues, Check.all, Check.issues, report_eq_nil_iff h, Check.find]

/-- A fresh linter tells the issues of the model, where it looks for no files. -/
theorem validate_fresh (around : Surroundings) (content : Text) (schema : Schema) :
    ((Linter.fresh schema).validate around content none).1 =
      modelIssues schema (Model.read content) := by
  simp [Linter.validate, Linter.fresh, DocumentCache.fresh, DocumentCache.get,
    Linter.validateModel_of_enabled, checkInputFiles]

/-! ## What the checks of sections find -/

/-- The check of versions asks for three numbers with points between them. -/
theorem isVersion_iff {value : Text} : isVersion value = true ↔ IsVersion value := by
  have hpart : ∀ part : Text, (!part.isEmpty && part.all Unicode.isDigit) = true ↔
      part ≠ [] ∧ ∀ c ∈ part, Unicode.isDigit c = true := by
    intro part
    simp
  unfold isVersion
  simp only [Bool.and_eq_true, beq_iff_eq, List.all_eq_true]
  constructor
  · rintro ⟨hlength, hparts⟩
    obtain ⟨major, minor, patch, hsplit⟩ := List.length_eq_three.mp hlength
    have hjoin := Text.intercalate_splitOn '.' value
    rw [hsplit] at hjoin
    rw [hsplit] at hparts
    refine ⟨major, minor, patch, by simpa [List.intercalate] using hjoin.symm, fun part hmem => ?_⟩
    exact (hpart part).mp (by simpa using hparts part hmem)
  · rintro ⟨major, minor, patch, rfl, hparts⟩
    have hdot : ∀ part ∈ [major, minor, patch], '.' ∉ part := fun part hmem hdot =>
      absurd ((hparts part hmem).2 '.' hdot) (by decide)
    have hsplit : Text.splitOn '.' (major ++ '.' :: (minor ++ '.' :: patch)) = [major, minor, patch] := by
      rw [Text.splitOn_append_cons, Text.splitOn_append_cons, Text.splitOn_of_notMem (hdot _ (by simp)),
        Text.splitOn_of_notMem (hdot _ (by simp)), Text.splitOn_of_notMem (hdot _ (by simp))]
      rfl
    rw [hsplit]
    refine ⟨rfl, fun part hmem => ?_⟩
    simpa using (hpart part).mpr (hparts part hmem)

/-- A property gives no finding just if it is as the schema asks. -/
theorem checkProperty_eq_nil_iff {spec : PropertySpec} {s : Section} :
    checkProperty spec s = [] ↔ PropertyClean spec s := by
  unfold checkProperty Section.property?
  cases hfound : lastWith? Property.key spec.name s.occurrences with
  | none =>
      constructor
      · intro h
        exact ⟨(asked_iff_of_none hfound).mpr (by simpa using h), forall_isLatest_of_none hfound,
          forall_isLatest_of_none hfound⟩
      · intro h
        simp [(asked_iff_of_none hfound).mp h.present]
  | some p =>
      obtain ⟨hkey, hlatest⟩ := lastWith?_eq_some_iff.mp hfound
      simp only [List.append_eq_nil_iff]
      constructor
      · rintro ⟨hmatched, hversion⟩
        refine ⟨fun _ => ⟨p, hlatest.mem, hkey⟩, (forall_isLatest_iff hfound).mpr ?_,
          (forall_isLatest_iff hfound).mpr ?_⟩
        · intro pattern hpattern
          simpa [hpattern] using hmatched
        · intro hform
          rw [← isVersion_iff]
          simpa [hform] using hversion
      · intro h
        have hmatched := (forall_isLatest_iff hfound).mp h.matched
        have hversion := (forall_isLatest_iff hfound).mp h.version
        constructor
        · cases hpattern : spec.pattern with
          | none => simp
          | some pattern => simp [hmatched pattern hpattern]
        · rw [if_neg]
          rintro ⟨hform, hnot⟩
          rw [isVersion_iff.mpr (hversion hform)] at hnot
          contradiction

/-- A section gives no finding just if the latest one of its name is clean. -/
theorem checkSection_eq_nil_iff {spec : SectionSpec} :
    checkSection m spec = [] ↔ SectionClean spec m := by
  unfold checkSection Model.section?
  cases hfound : lastWith? Section.name spec.name m.sections with
  | none =>
      constructor
      · intro h
        exact ⟨(asked_iff_of_none hfound).mpr (by simpa using h), forall_isLatest_of_none hfound⟩
      · intro h
        simp [(asked_iff_of_none hfound).mp h.present]
  | some s =>
      obtain ⟨hname, hlatest⟩ := lastWith?_eq_some_iff.mp hfound
      simp only [List.flatMap_eq_nil_iff, checkProperty_eq_nil_iff]
      constructor
      · intro h
        exact ⟨fun _ => ⟨s, hlatest.mem, hname⟩, (forall_isLatest_iff hfound).mpr h⟩
      · intro h
        exact (forall_isLatest_iff hfound).mp h.properties

/-- The sections give no finding just if all that the schema names are clean. -/
theorem findSections_eq_nil_iff :
    findSections schema m = [] ↔ ∀ spec ∈ schema.sections, SectionClean spec m := by
  rw [findSections, List.flatMap_eq_nil_iff]
  exact forall₂_congr fun spec _ => checkSection_eq_nil_iff

/-! ## What the checks of values find -/

/-- A value conforms just if it has the form, where there is one. -/
theorem conforms?_iff {dataType value : Text} :
    (schema.conforms? dataType value).getD true = true ↔ HasForm schema dataType value := by
  unfold Schema.conforms? HasForm
  cases schema.dataTypes.lookup dataType with
  | none => simp
  | some pattern? =>
      cases pattern? with
      | none => simp
      | some pattern => simp

/-- A value gives no finding just if it is within the bounds. -/
theorem checkBounds_eq_nil_iff {spec : ParameterSpec} {p : Property} {value : Binary64} :
    checkBounds spec p value = [] ↔ Within spec value := by
  unfold checkBounds Within
  rw [List.append_eq_nil_iff]
  refine and_congr ?_ ?_
  · cases spec.min with
    | none => simp
    | some min => simp
  · cases spec.max with
    | none => simp
    | some max => simp

/-- A number gives no finding just if it has its form, and is within the bounds where it is read. -/
theorem checkNumber_eq_nil_iff {spec : ParameterSpec} {p : Property} :
    checkNumber schema spec p = [] ↔ HasForm schema "number".toList p.value ∧
      ∀ x, Binary64.read? p.value = some x → Within spec x := by
  have hform : conforms schema .number p.value = true ↔ HasForm schema "number".toList p.value :=
    conforms?_iff
  unfold checkNumber
  rw [← hform]
  cases conforms schema .number p.value with
  | false => simp
  | true =>
      cases Binary64.read? p.value with
      | none => simp
      | some x => simp [checkBounds_eq_nil_iff]

/-- An integer is read if it fits 64 bits. -/
theorem readInteger?_eq_some_iff {value : Text} {i : Int} :
    readInteger? value = some i ↔ Text.toInt? value = some i ∧ -2 ^ 63 ≤ i ∧ i < 2 ^ 63 := by
  have htwoTo : (twoTo 63 : Int) = 2 ^ 63 := rfl
  unfold readInteger?
  rw [htwoTo]
  cases Text.toInt? value with
  | none => simp
  | some j =>
      by_cases hj : -2 ^ 63 ≤ j ∧ j < 2 ^ 63
      · simp only [if_pos hj, Option.some.injEq]
        exact ⟨fun h => h ▸ ⟨rfl, hj⟩, fun h => h.1⟩
      · simp only [if_neg hj, Option.some.injEq, reduceCtorEq, false_iff]
        rintro ⟨rfl, hi⟩
        exact hj hi

/-- An integer gives no finding just if it is read and is within the bounds. -/
theorem checkInteger_eq_nil_iff {spec : ParameterSpec} {p : Property} :
    checkInteger schema spec p = [] ↔ HasForm schema "integer".toList p.value ∧
      ∃ i : Int, Text.toInt? p.value = some i ∧ -2 ^ 63 ≤ i ∧ i < 2 ^ 63 ∧
        Within spec (.ofInt i) := by
  have hform : conforms schema .integer p.value = true ↔ HasForm schema "integer".toList p.value :=
    conforms?_iff
  have hread : ∀ i, readInteger? p.value = some i ↔
      Text.toInt? p.value = some i ∧ -2 ^ 63 ≤ i ∧ i < 2 ^ 63 := fun _ => readInteger?_eq_some_iff
  have hexists : (∃ i : Int, Text.toInt? p.value = some i ∧ -2 ^ 63 ≤ i ∧ i < 2 ^ 63 ∧
      Within spec (.ofInt i)) ↔ ∃ i, readInteger? p.value = some i ∧ Within spec (.ofInt i) := by
    simp only [hread, and_assoc]
  rw [hexists, ← hform]
  unfold checkInteger
  cases conforms schema .integer p.value with
  | false => simp
  | true =>
      cases readInteger? p.value with
      | none => simp
      | some i => simp [checkBounds_eq_nil_iff]

/-- A sequence gives no finding just if it has the right form and length. -/
theorem checkSequence_eq_nil_iff {spec : ParameterSpec} {p : Property} :
    checkSequence schema spec p = [] ↔ HasForm schema "number_sequence".toList p.value ∧
      ∀ count, spec.count = some count → sequenceLength p.value = count := by
  have hform : conforms schema .numberSequence p.value = true ↔
      HasForm schema "number_sequence".toList p.value := conforms?_iff
  unfold checkSequence
  rw [← hform, List.append_eq_nil_iff]
  refine and_congr (by simp) ?_
  cases spec.count with
  | none => simp
  | some count => simp

/-! ## What the checks of nodes find -/

/-- Any value gives no finding just if it conforms to its type. -/
theorem checkValue_eq_nil_iff {node : Node} {spec : ParameterSpec} {p : Property} :
    checkValue schema m node spec p = [] ↔ Conforms schema m node spec p.value := by
  unfold checkValue checkValueWith Conforms
  cases spec.type with
  | coordinates =>
      have hform : conforms schema .coordinates p.value = true ↔
          HasForm schema "coordinates".toList p.value := conforms?_iff
      rw [← hform]
      simp
  | number => exact checkNumber_eq_nil_iff
  | integer => exact checkInteger_eq_nil_iff
  | numberSequence => exact checkSequence_eq_nil_iff
  | functionExpression => exact List.map_eq_nil_iff
  | nodeReference => exact iff_of_true rfl trivial
  | string => exact iff_of_true rfl trivial
  | other => exact iff_of_true rfl trivial

/-- A parameter other than the type must be in one of the three lists. -/
theorem allowsParameter_iff {t : NodeType} {name : Text} (h : name ≠ "type".toList) :
    t.allowsParameter name = true ↔ name ∈ t.required ∨ name ∈ t.optional ∨ name ∈ t.links := by
  have hname : (name == "type".toList) = false := beq_eq_false_iff_ne.mpr h
  simp only [NodeType.allowsParameter, hname, Bool.false_or, Bool.or_eq_true, List.contains_iff_mem,
    or_assoc]

/-- A parameter gives no finding just if it is allowed and its value conforms. -/
theorem checkParameter_eq_nil_iff {node : Node} {type : Text × NodeType} {p : Property} :
    checkParameter schema m node type p = [] ↔ (p.key ≠ "type".toList →
      (p.key ∈ type.2.required ∨ p.key ∈ type.2.optional ∨ p.key ∈ type.2.links) ∧
        ∀ spec, type.2.parameter? p.key = some spec → Conforms schema m node spec p.value) := by
  unfold checkParameter checkParameterWith
  by_cases hkey : p.key = "type".toList
  · rw [if_pos hkey]
    exact iff_of_true rfl fun hne => absurd hkey hne
  rw [if_neg hkey, ← allowsParameter_iff hkey, forall_prop_of_true hkey]
  cases type.2.allowsParameter p.key with
  | false => simp
  | true =>
      cases type.2.parameter? p.key with
      | none => simp
      | some spec =>
          simp only [Bool.not_true, Bool.false_eq_true, if_false, true_and, Option.some.injEq,
            forall_eq']
          exact checkValue_eq_nil_iff

/-- A parameter that is required gives none just if it is there. -/
theorem checkRequired_eq_nil_iff {node : Node} {name : Text} :
    checkRequired node name = [] ↔ ∃ p ∈ node.body.occurrences, p.key = name := by
  rw [← isSome_lastWith?_iff, checkRequired, Section.property?]
  cases lastWith? Property.key name node.body.occurrences with
  | none => simp
  | some p => simp

/-- The type of a node that is declared is the latest property of that name. -/
theorem nodeType?_of_mem {node : Node} (h : node ∈ m.declaredNodes) :
    node.body.nodeType? = (node.body.property? "type".toList).map Property.value := by
  obtain ⟨s, -, hnode⟩ := List.mem_filterMap.mp h
  obtain ⟨name, hname, rfl⟩ := Option.map_eq_some_iff.mp hnode
  rw [Section.nodeType?, hname]

/-- A node of a known type gives no finding just if it conforms to the type. -/
theorem checkTyped_eq_nil_iff {node : Node} {typeName : Text} {t : NodeType} :
    checkTyped schema m node (typeName, t) = [] ↔ NodeConforms schema m node t := by
  simp only [checkTyped_eq, List.append_eq_nil_iff, List.flatMap_eq_nil_iff, checkRequired_eq_nil_iff,
    checkParameter_eq_nil_iff, Section.properties, mem_latestBy_iff]
  constructor
  · rintro ⟨hrequired, hparameters⟩
    exact ⟨hrequired, fun p hp hkey => (hparameters p hp hkey).1,
      fun p hp hkey => (hparameters p hp hkey).2⟩
  · intro h
    exact ⟨h.required, fun p hp hkey => ⟨h.allowed p hp hkey, h.conforming p hp hkey⟩⟩

/-- A node gives no finding just if it is clean. -/
theorem checkNode_eq_nil_iff {node : Node} (h : node ∈ m.declaredNodes) :
    checkNode schema m node = [] ↔ NodeClean schema m node := by
  unfold checkNode checkNodeWith NodeClean
  rw [nodeType?_of_mem h, Section.property?]
  cases hfound : lastWith? Property.key "type".toList node.body.occurrences with
  | none =>
      refine iff_of_false (by simp) ?_
      rintro ⟨p, t, hlatest, hkey, -⟩
      exact lastWith?_eq_none_iff.mp hfound p hlatest.mem hkey
  | some p =>
      obtain ⟨hkey, hlatest⟩ := lastWith?_eq_some_iff.mp hfound
      have hunique : ∀ q, IsLatest Property.key q node.body.occurrences →
          q.key = "type".toList → q = p := (forall_isLatest_iff hfound).mpr rfl
      simp only [Option.map_some]
      cases htype : schema.nodeType? p.value with
      | none =>
          refine iff_of_false (by simp) ?_
          rintro ⟨q, t, hq, hqkey, ht, -⟩
          rw [hunique q hq hqkey, htype] at ht
          contradiction
      | some t =>
          refine checkTyped_eq_nil_iff.trans ⟨fun h => ⟨p, t, hlatest, hkey, htype, h⟩, ?_⟩
          rintro ⟨q, t', hq, hqkey, ht, hconforms⟩
          rw [hunique q hq hqkey, htype] at ht
          exact Option.some.inj ht ▸ hconforms

/-- The nodes give no finding just if the latest one of each name is clean. -/
theorem findNodes_eq_nil_iff :
    findNodes schema m = [] ↔
      ∀ node, IsLatest Node.name node m.declaredNodes → NodeClean schema m node := by
  rw [findNodes_eq, List.flatMap_eq_nil_iff]
  constructor
  · intro h node hnode
    exact (checkNode_eq_nil_iff hnode.mem).mp (h node (mem_latestBy_iff.mpr hnode))
  · intro h node hnode
    have hlatest := mem_latestBy_iff.mp hnode
    exact (checkNode_eq_nil_iff hlatest.mem).mpr (h node hlatest)

/-! ## What the checks of names find -/

/-- No two elements have one key just where no element shares its key with another. -/
theorem filter_countP_eq_nil_iff {α : Type} {key : α → Text} {l : List α} :
    (l.filter fun a => 1 < l.countP fun b => key b == key a) = [] ↔ (l.map key).Nodup := by
  rw [List.filter_eq_nil_iff, List.nodup_iff_count_le_one]
  have hcount : ∀ k, (l.map key).count k = l.countP fun b => key b == k := fun k => by
    rw [List.count, List.countP_map]
    rfl
  constructor
  · intro h k
    by_cases hk : k ∈ l.map key
    · obtain ⟨a, ha, rfl⟩ := List.mem_map.mp hk
      rw [hcount]
      simpa using h a ha
    · rw [List.count_eq_zero_of_not_mem hk]
      exact Nat.zero_le 1
  · intro h a ha
    have hle := h (key a)
    rw [hcount] at hle
    simpa using hle

/-- No property is told of twice just if no key stands twice in a section. -/
theorem findDuplicateProperties_eq_nil_iff :
    findDuplicateProperties m = [] ↔
      ∀ s ∈ m.sections, (s.occurrences.map Property.key).Nodup := by
  rw [findDuplicateProperties, List.flatMap_eq_nil_iff]
  refine forall₂_congr fun s _ => ?_
  rw [duplicatesIn, List.map_eq_nil_iff]
  exact filter_countP_eq_nil_iff

/-- No node is just if no name is declared twice. -/
theorem findDuplicateNodes_eq_nil_iff :
    findDuplicateNodes m = [] ↔ (m.declaredNodes.map Node.name).Nodup := by
  have hlength : ∀ name, (declarationLines m name).length =
      m.declaredNodes.countP fun node => node.name == name := fun name => by
    rw [declarationLines, List.length_map, List.countP_eq_length_filter]
  rw [findDuplicateNodes, List.map_eq_nil_iff]
  simp only [hlength]
  exact filter_countP_eq_nil_iff

/-! ## What the checks of references find -/

/-- Some form is asked of every output. -/
theorem exists_outputPattern (schema : Schema) : ∃ pattern, outputPattern schema = some pattern := by
  unfold outputPattern
  split
  · next pattern _ => exact ⟨pattern, rfl⟩
  · exact Option.isSome_iff_exists.mp (by decide +kernel : defaultOutputPattern.isSome = true)

theorem exists_node?_iff {name : Text} :
    (∃ node ∈ m.declaredNodes, node.name = name) ↔ ∃ node, m.node? name = some node := by
  rw [← isSome_lastWith?_iff, Option.isSome_iff_exists]
  rfl

/-- Where the node is there, it is not told of as unknown. -/
theorem outputProblem?_ne_unknownNode {node : Section} {output name : Text} :
    Reference.outputProblem? schema node output ≠ some (.unknownNode name) := by
  unfold Reference.outputProblem?
  split
  · simp
  · split
    · simp
    · split <;> simp

/-- A reference fails to resolve for want of its node just where none with the name is declared. -/
theorem resolve_eq_unknownNode_iff {reference name : Text} :
    Reference.resolve m schema reference = .error (.unknownNode name) ↔
      ∃ output, Reference.splitNode? (Reference.withoutBrackets reference) = some (name, output) ∧
        m.node? name = none := by
  unfold Reference.resolve
  simp only
  cases hsplit : Reference.splitNode? (Reference.withoutBrackets reference) with
  | none => simp
  | some parts =>
      obtain ⟨found, output⟩ := parts
      cases hnode : m.node? found with
      | none =>
          simp only [hnode, Except.error.injEq, Reference.Problem.unknownNode.injEq,
            Option.some.injEq, Prod.mk.injEq]
          constructor
          · rintro rfl
            exact ⟨output, ⟨rfl, rfl⟩, hnode⟩
          · rintro ⟨_, ⟨rfl, -⟩, -⟩
            rfl
      | some node =>
          refine iff_of_false ?_ ?_
          · have hne : Reference.outputProblem? schema node.body output ≠ some (.unknownNode name) :=
              outputProblem?_ne_unknownNode
            simp only [hnode]
            cases hproblem : Reference.outputProblem? schema node.body output with
            | none => simp
            | some problem =>
                rw [hproblem] at hne
                simpa using hne
          · rintro ⟨output', heq, hnone⟩
            cases heq
            rw [hnode] at hnone
            contradiction

/-- What is wrong with an output is found at its line: its form, or else its node. -/
theorem eq_of_mem_checkOutput {pattern : Option Pattern} {entry : Entry} {l : Located}
    (hl : l ∈ checkOutput schema m pattern entry) :
    l = ⟨entry.line, .invalidOutput entry.text⟩ ∨
      ∃ name, l = ⟨entry.line, .unknownOutputNode name⟩ := by
  unfold checkOutput at hl
  split at hl
  · exact .inl (List.mem_singleton.mp hl)
  · split at hl
    · next name _ => exact .inr ⟨name, List.mem_singleton.mp hl⟩
    · contradiction

/-- An output gives no finding just if it is clean. -/
theorem checkOutput_eq_nil_iff {entry : Entry} :
    checkOutput schema m (outputPattern schema) entry = [] ↔ OutputClean schema m entry.text := by
  obtain ⟨pattern, hpattern⟩ := exists_outputPattern schema
  have hnamed : (∀ name output,
      Reference.splitNode? (Reference.withoutBrackets entry.text) = some (name, output) →
        ∃ node ∈ m.declaredNodes, node.name = name) ↔
      ∀ name, Reference.resolve m schema entry.text ≠ .error (.unknownNode name) := by
    simp only [exists_node?_iff, ne_eq, resolve_eq_unknownNode_iff, not_exists, not_and]
    refine forall₂_congr fun name output => imp_congr_right fun _ => ?_
    rw [← Option.isSome_iff_exists, Option.eq_none_iff_forall_ne_some]
    cases m.node? name <;> simp
  unfold checkOutput OutputClean
  rw [hnamed, hpattern]
  simp only [Option.all_some, Option.some.injEq, exists_eq_left']
  by_cases haccepts : pattern.accepts entry.text = true
  · rw [if_neg (by simp [haccepts]), and_iff_right haccepts]
    split
    · next name hresolve => exact iff_of_false (by simp) fun h => h name hresolve
    · next hother => exact iff_of_true rfl hother
  · rw [if_pos (by simp [haccepts])]
    exact iff_of_false (by simp) fun h => haccepts h.1

/-- Links are the parameters that begin with `ds_`. -/
theorem isLink_iff {p : Property} : isLink p = true ↔ "ds_".toList <+: p.key := by
  rw [isLink, Option.isSome_iff_exists]
  simp only [Text.dropLead?_eq_some_iff]
  exact exists_congr fun rest => eq_comm

/-- A link is clean just if its node is there and stands below. -/
theorem linkClean_iff {node : Node} {p : Property} :
    LinkClean m node p ↔ m.hasNode p.value = true ∧ leadsUpwards m node p = false := by
  unfold LinkClean Model.hasNode leadsUpwards Model.node?
  cases hfound : lastWith? Node.name p.value m.declaredNodes with
  | none =>
      refine iff_of_false ?_ (by simp)
      rintro ⟨target, htarget, hname, -⟩
      exact lastWith?_eq_none_iff.mp hfound target htarget.mem hname
  | some found =>
      obtain ⟨hname, hlatest⟩ := lastWith?_eq_some_iff.mp hfound
      have hunique : ∀ target, IsLatest Node.name target m.declaredNodes →
          target.name = p.value → target = found := (forall_isLatest_iff hfound).mpr rfl
      simp only [Option.isSome_some, true_and, Option.any_some, decide_eq_false_iff_not, Nat.not_le]
      constructor
      · rintro ⟨target, htarget, htname, hbelow⟩
        exact hunique target htarget htname ▸ hbelow
      · intro hbelow
        exact ⟨found, hlatest, hname, hbelow⟩

/-- The links give no finding just if all of them are clean. -/
theorem findLinks_eq_nil_iff :
    findDanglingLinks m = [] ∧ findUpwardLinks m = [] ↔
      ∀ node, IsLatest Node.name node m.declaredNodes →
        ∀ p, IsLatest Property.key p node.body.occurrences → "ds_".toList <+: p.key →
          LinkClean m node p := by
  simp only [findDanglingLinks, findUpwardLinks, List.flatMap_eq_nil_iff, List.map_eq_nil_iff,
    List.filter_eq_nil_iff, Bool.and_eq_true, Bool.not_eq_true', not_and, Bool.not_eq_false,
    Bool.not_eq_true, Model.nodes, Section.properties, mem_latestBy_iff, isLink_iff, linkClean_iff]
  constructor
  · rintro ⟨hdangling, hupward⟩ node hnode p hp hlink
    exact ⟨hdangling node hnode p hp hlink, hupward node hnode p hp hlink⟩
  · intro h
    exact ⟨fun node hnode p hp hlink => (h node hnode p hp hlink).1,
      fun node hnode p hp hlink => (h node hnode p hp hlink).2⟩

/-! ## Documents -/

/-- A model is clean just if no check finds anything. -/
theorem clean_iff : Clean schema m ↔ findSections schema m = [] ∧ findNodes schema m = [] ∧
    findDuplicateProperties m = [] ∧ findDuplicateNodes m = [] ∧ findReferences schema m = [] ∧
    findUpwardLinks m = [] := by
  have houtputs : findOutputs schema m = [] ↔ ∀ entry ∈ m.outputs, OutputClean schema m entry.text := by
    rw [findOutputs, List.flatMap_eq_nil_iff]
    exact forall₂_congr fun entry _ => checkOutput_eq_nil_iff
  rw [findReferences, List.append_eq_nil_iff, and_assoc, findLinks_eq_nil_iff, houtputs,
    findSections_eq_nil_iff, findNodes_eq_nil_iff, findDuplicateProperties_eq_nil_iff,
    findDuplicateNodes_eq_nil_iff]
  constructor
  · intro h
    exact ⟨h.sections, h.nodes, h.keys, h.names, h.outputs, h.links⟩
  · rintro ⟨hsections, hnodes, hkeys, hnames, houtputs, hlinks⟩
    exact ⟨hsections, hnodes, hkeys, hnames, houtputs, hlinks⟩

/-- A document has no issue for a fresh linter, where no rule is switched off and no files are
looked for, just where its model is clean. -/
theorem validate_eq_nil_iff (around : Surroundings) (content : Text) (schema : Schema)
    (h : AllEnabled schema) :
    ((Linter.fresh schema).validate around content none).1 = [] ↔
      Clean schema (Model.read content) := by
  rw [validate_fresh, modelIssues_eq_nil_iff h, clean_iff]

/-- A gauge above its outlet. -/
def gaugedReach : Text :=
  ("[attributes]\nini_version = 0.0.1\n[inputs]\n[node.a]\ntype = gauge\nloc = 1, 2\nds_1 = b\n" ++
    "[node.b]\ntype = blackhole\nloc = 3, 4\n[outputs]\nnode.a.dsflow\n").toList

/-- A model that is clean under the default schema. -/
theorem clean_gaugedReach : AllEnabled Schema.default ∧ Clean Schema.default (Model.read gaugedReach) := by
  have hnone : ((Linter.fresh Schema.default).validate ⟨0, fun _ => false⟩ gaugedReach none).1 = [] := by
    decide +kernel
  exact ⟨allEnabled_default, (validate_eq_nil_iff _ _ _ allEnabled_default).mp hnone⟩

/-- A schema that has a data type with the name of a type of parameters that is not checked. -/
def labelSchema : Schema :=
  { version := none
    sections := []
    nodeTypes := [("tag".toList, ⟨none, [], ["label".toList], [], [], [("label".toList, Schema.plain .string)]⟩)]
    dataTypes := [("string".toList, Pattern.compile? "[a-z]+".toList)]
    rules := [] }

/-- The data type of strings is asked of no parameter. -/
theorem validate_labelSchema :
    let content := "[node.a]\ntype = tag\nlabel = 12\n".toList
    AllEnabled labelSchema ∧
      ((Linter.fresh labelSchema).validate ⟨0, fun _ => false⟩ content none).1 = [] ∧
      ∃ node p t spec, IsLatest Node.name node (Model.read content).declaredNodes ∧
        IsLatest Property.key p node.body.occurrences ∧
        node.body.nodeType?.bind labelSchema.nodeType? = some t ∧
        t.parameter? p.key = some spec ∧ spec.type = .string ∧
        ¬HasForm labelSchema "string".toList p.value := by
  intro content
  have hread : Model.read content = ⟨[⟨"node.a".toList, 1, 3,
      [⟨"type".toList, "tag".toList, 2⟩, ⟨"label".toList, "12".toList, 3⟩]⟩], [], []⟩ := by
    decide +kernel
  have hform : (labelSchema.conforms? "string".toList "12".toList).getD true = false := by
    decide +kernel
  refine ⟨allEnabled_of_mem (by simp [labelSchema]), by decide +kernel, ?_⟩
  rw [hread]
  refine ⟨_, _, _, _, ⟨[], [], rfl, by simp⟩, ⟨[_], [], rfl, by simp⟩, rfl, rfl, rfl, fun h => ?_⟩
  rw [conforms?_iff.mpr h] at hform
  contradiction

end CatchmentLint.Lint
