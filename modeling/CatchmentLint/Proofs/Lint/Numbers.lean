import CatchmentLint.Proofs.Lint.Parameters
import CatchmentLint.Proofs.Schema.Numbers

/-!
# CatchmentLint.Proofs.Lint.Numbers

What is told of the parameters that are numbers, under the default schema.

* `isParameter_default` — the default schema allows every parameter that it describes;
* `checkNumber_default_iff` — nothing is found in a number in ASCII digits within its bounds, nor in
  one with a digit of another script, which is never compared with them;
* `number_quiet_iff` — so nothing is told of either, and of nothing else.
-/

namespace CatchmentLint.Lint

variable {value : Text} {spec : ParameterSpec} {p : Property}

/-- The value is a number in ASCII digits, and what it says lies within the bounds. -/
structure IsNumberWithin (spec : ParameterSpec) (value : Text) : Prop where
  form : IsNumber Char.isDigit value
  within : ∃ d : Decimal, Binary64.read? value = some d.toBinary64 ∧ Within spec d.toBinary64

/-- The value is a number, but has a digit of another script. -/
structure IsForeignNumber (value : Text) : Prop where
  form : IsNumber Unicode.isDigit value
  foreign : Expression.HasForeignDigit value

theorem IsNumberWithin.not_foreign (h : IsNumberWithin spec value) : ¬IsForeignNumber value :=
  fun hforeign => (isNumber_ascii_iff.mp h.form).2 hforeign.foreign

theorem hasForm_number_iff :
    HasForm Schema.default "number".toList value ↔ IsNumber Unicode.isDigit value := by
  have hlookup : Schema.default.dataTypes.lookup "number".toList = some Schema.numberPattern := rfl
  obtain ⟨pattern, hpattern⟩ : ∃ pattern, Schema.numberPattern = some pattern :=
    Option.isSome_iff_exists.mp (by decide +kernel)
  rw [← accepts_number_iff hpattern, HasForm, hlookup, hpattern]
  simp

theorem checkNumber_default_iff : checkNumber Schema.default spec p = [] ↔
    IsNumberWithin spec p.value ∨ IsForeignNumber p.value := by
  rw [checkNumber_eq_nil_iff, hasForm_number_iff]
  constructor
  · rintro ⟨hform, hwithin⟩
    by_cases hforeign : Expression.HasForeignDigit p.value
    · exact .inr ⟨hform, hforeign⟩
    · have hascii := isNumber_ascii_iff.mpr ⟨hform, hforeign⟩
      obtain ⟨d, hd⟩ := hascii.exists_read?
      exact .inl ⟨hascii, d, hd, hwithin _ hd⟩
  · rintro (⟨hascii, d, hd, hwithin⟩ | ⟨hform, hforeign⟩)
    · refine ⟨(isNumber_ascii_iff.mp hascii).1, fun x hx => ?_⟩
      rw [hd, Option.some.injEq] at hx
      exact hx ▸ hwithin
    · refine ⟨hform, fun x hx => ?_⟩
      rw [read?_of_foreign hforeign] at hx
      contradiction

/-- The default schema describes no parameter that it does not allow, and none of the name `type`. -/
theorem isParameter_default {m : Model} {node : Node} {typeName : Text} {t : NodeType}
    (hnode : node ∈ m.nodes) (hp : p ∈ node.body.properties)
    (htype : node.body.nodeType? = some typeName)
    (ht : Schema.default.nodeType? typeName = some t) (hspec : t.parameter? p.key = some spec) :
    IsParameter Schema.default m node p spec := by
  have hall : ∀ entry ∈ Schema.defaultNodeTypes, ∀ parameter ∈ entry.2.parameters,
      parameter.1 ≠ "type".toList ∧ entry.2.allowsParameter parameter.1 = true := by
    decide +kernel
  obtain ⟨_, _, htypes, -⟩ := List.lookup_eq_some_iff.mp ht
  obtain ⟨_, _, hparameters, -⟩ := List.lookup_eq_some_iff.mp hspec
  have hmem : (typeName, t) ∈ Schema.defaultNodeTypes := by
    have hdefault : Schema.default.nodeTypes = Schema.defaultNodeTypes := rfl
    rw [← hdefault, htypes]
    simp
  obtain ⟨hkey, hallowed⟩ := hall _ hmem (p.key, spec) (by rw [hparameters]; simp)
  exact ⟨hnode, hp, hkey, typeName, t, htype, ht, hallowed, hspec⟩

/-- Under the default schema the check of nodes tells nothing of a parameter that is a number just
where its value is a number in ASCII digits within the bounds, or a number with a digit of another
script.  So it tells nothing just of the former, unless the value is of the latter kind. -/
theorem number_quiet_iff {content : Text} {node : Node} {typeName : Text} {t : NodeType}
    {l : Linter} (hl : l.schema = Schema.default) (hnode : node ∈ (Model.read content).nodes)
    (htype : node.body.nodeType? = some typeName)
    (ht : Schema.default.nodeType? typeName = some t) (hp : p ∈ node.body.properties)
    (hspec : t.parameter? p.key = some spec) (hnumber : spec.type = .number)
    (around : Surroundings) (base? : Option Text) :
    let issues := (l.runCheck around (Model.read content) base? .nodes).1
    let quiet := ∀ i ∈ issues, i.line ≠ p.line
    (quiet ↔ IsNumberWithin spec p.value ∨ IsForeignNumber p.value) ∧
      ((quiet ↔ IsNumberWithin spec p.value) ↔ ¬IsForeignNumber p.value) := by
  intro issues quiet
  have hparameter : IsParameter l.schema (Model.read content) node p spec :=
    hl ▸ isParameter_default hnode hp htype ht hspec
  have hchecked : checkValue l.schema (Model.read content) node spec p =
      checkNumber Schema.default spec p := by
    rw [checkValue, checkValueWith, hnumber, hl]
    rfl
  have hquiet : quiet ↔ IsNumberWithin spec p.value ∨ IsForeignNumber p.value := by
    have hfilter : quiet ↔ issues.filter (·.line == p.line) = [] := by
      simp [quiet, List.filter_eq_nil_iff]
    rw [hfilter, issues_at_parameter hparameter, hchecked, report_eq_nil_iff, checkNumber_default_iff]
    rw [hl]
    exact allEnabled_default
  refine ⟨hquiet, ?_⟩
  rw [hquiet]
  constructor
  · intro hiff hforeign
    exact (hiff.mp (.inr hforeign)).not_foreign hforeign
  · exact fun hforeign => or_iff_left hforeign

/-- A number with a point and no digit behind it, and an exponent. -/
theorem number_quiet_exponent :
    let content := "[node.a]\ntype = gr4j\narea = 5.e-1\n".toList
    let issues := ((Linter.fresh Schema.default).runCheck ⟨0, fun _ => false⟩ (Model.read content)
      none .nodes).1
    (∀ i ∈ issues, i.line ≠ 3) ∧
      IsNumberWithin (Schema.bounded .number (some (.ofInt 0)) none) "5.e-1".toList := by
  intro content issues
  have hform : IsNumber Char.isDigit "5.e-1".toList := by
    have hdigits : ∀ c, c.isDigit = true → Expression.Digits Char.isDigit [c] := fun c hc =>
      ⟨List.cons_ne_nil c [], by simpa using hc⟩
    exact .intro (.inl rfl) (.pointed (hdigits '5' rfl).2 (List.forall_mem_nil _) (.inl (by simp)))
      (.inr ⟨'e', ['-'], ['1'], rfl, .inl rfl, .inr (.inr rfl), hdigits '1' rfl⟩)
  have hwithin : IsNumberWithin (Schema.bounded .number (some (.ofInt 0)) none) "5.e-1".toList := by
    refine ⟨hform, ⟨false, 5, -1⟩, by decide +kernel, ?_, nofun⟩
    rintro min ⟨⟩
    decide +kernel
  let p : Property := ⟨"area".toList, "5.e-1".toList, 3⟩
  let node : Node := ⟨['a'], ⟨"node.a".toList, 1, 3, [⟨"type".toList, "gr4j".toList, 2⟩, p]⟩⟩
  have hnode : node ∈ (Model.read content).nodes := by decide +kernel
  have hp : p ∈ node.body.properties := by decide +kernel
  have htype : node.body.nodeType? = some "gr4j".toList := by decide +kernel
  have hquiet := number_quiet_iff (l := Linter.fresh Schema.default) rfl hnode htype rfl hp rfl rfl
    ⟨0, fun _ => false⟩ none
  exact ⟨hquiet.1.mpr (.inl hwithin), hwithin⟩

/-- A negative number in the digits of another script: nothing is told of it, though it is no number
in ASCII digits and lies below the minimum. -/
theorem number_quiet_foreign :
    let content := "[node.a]\ntype = gr4j\narea = -٣\n".toList
    let issues := ((Linter.fresh Schema.default).runCheck ⟨0, fun _ => false⟩ (Model.read content)
      none .nodes).1
    (∀ i ∈ issues, i.line ≠ 3) ∧
      ¬IsNumberWithin (Schema.bounded .number (some (.ofInt 0)) none) "-٣".toList := by
  intro content issues
  refine ⟨by decide +kernel, fun h => ?_⟩
  exact (isNumber_ascii_iff.mp h.form).2 ⟨'٣', by decide +kernel⟩

end CatchmentLint.Lint
