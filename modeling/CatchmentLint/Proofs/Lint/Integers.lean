import CatchmentLint.Proofs.Binary64.Rounding
import CatchmentLint.Proofs.Lint.Parameters
import CatchmentLint.Proofs.Schema.Numbers
import Mathlib.Data.Nat.Digits.Defs

/-!
# CatchmentLint.Proofs.Lint.Integers

What is told of the parameters that are integers.

* `Spells`, `toInt?_of_spells` — the integer that decimal digits say, and that it is read;
* `integerFindings` — what there is to find in an integer, given the bounds that it is out of;
* `checkInteger_eq` — an integer that is rounded to a bound counts as within it;
* `integer_findings` — so what is told is what an exact comparison finds, unless a bound is masked,
  which takes an integer of more than 53 bits.
-/

namespace CatchmentLint.Lint

open Binary64 Expression

/-! ## Numerals -/

/-- The number that decimal digits say, the last of them for the ones. -/
def valueOf (digits : Text) : Nat :=
  Nat.ofDigits 10 (digits.reverse.map fun c => c.toNat - '0'.toNat)

/-- The integer in decimal digits that a text is. -/
inductive Spells : Text → Int → Prop
  | unsigned {digits : Text} (h : Digits Char.isDigit digits) : Spells digits (valueOf digits)
  | plus {digits : Text} (h : Digits Char.isDigit digits) : Spells ('+' :: digits) (valueOf digits)
  | minus {digits : Text} (h : Digits Char.isDigit digits) :
    Spells ('-' :: digits) (-(valueOf digits : Int))

theorem digitsToNat_eq (digits : Text) : Text.digitsToNat digits = valueOf digits := by
  -- The last digit is read last, and says the ones.
  induction digits using List.reverseRecOn with
  | nil => rfl
  | append_singleton digits c ih =>
    rw [Text.digitsToNat, List.foldl_append, ← Text.digitsToNat, ih, valueOf, valueOf,
      List.reverse_append, List.reverse_singleton, List.singleton_append, List.map_cons,
      Nat.ofDigits_cons]
    simp only [List.foldl_cons, List.foldl_nil]
    omega

theorem toInt?_of_spells {s : Text} {i : Int} (h : Spells s i) : Text.toInt? s = some i := by
  have hread : ∀ {digits : Text}, Digits Char.isDigit digits →
      ¬(digits = [] ∨ (!digits.all Char.isDigit) = true) := fun {digits} hdigits => by
    simpa [hdigits.1] using hdigits.2
  cases h with
  | unsigned h =>
    have hsign : Text.takeSign s = (false, s) := by
      unfold Text.takeSign
      split
      · exact absurd (h.2 '-' List.mem_cons_self) (by decide)
      · exact absurd (h.2 '+' List.mem_cons_self) (by decide)
      · rfl
    simp only [Text.toInt?, hsign, if_neg (hread h), digitsToNat_eq, Bool.false_eq_true, if_false]
  | plus h =>
    simp only [Text.toInt?, Text.takeSign, if_neg (hread h), digitsToNat_eq, Bool.false_eq_true,
      if_false]
  | minus h => simp only [Text.toInt?, Text.takeSign, if_neg (hread h), digitsToNat_eq, if_true]

/-! ## Bounds -/

section Bounds

variable (spec : ParameterSpec) (p : Property)

/-- What there is to find of the bounds, given which of them the value is below and above. -/
def boundFindings (below above : Binary64 → Prop) [DecidablePred below] [DecidablePred above] :
    List Located :=
  (match spec.min with
    | some min => if below min then [⟨p.line, .belowMinimum min p.value⟩] else []
    | none => []) ++
  match spec.max with
  | some max => if above max then [⟨p.line, .aboveMaximum max p.value⟩] else []
  | none => []

/-- What there is to find in an integer: it must fit 64 bits and lie within the bounds. -/
def integerFindings (i : Int) (below above : Binary64 → Prop) [DecidablePred below]
    [DecidablePred above] : List Located :=
  if -2 ^ 63 ≤ i ∧ i ≤ 2 ^ 63 - 1 then boundFindings spec p below above
  else [⟨p.line, .integerOutOfRange p.value⟩]

/-- An integer of 64 bits that is out of a bound, but is rounded to it. -/
structure IsMasked (i : Int) : Prop where
  fits : -2 ^ 63 ≤ i ∧ i ≤ 2 ^ 63 - 1
  masked : (∃ min, spec.min = some min ∧ IsBelow i min ∧ RoundsTo i min) ∨
    ∃ max, spec.max = some max ∧ IsAbove i max ∧ RoundsTo i max

end Bounds

variable {schema : Schema} {spec : ParameterSpec} {p : Property} {i : Int}

theorem boundFindings_eq_iff {below above below' above' : Binary64 → Prop} [DecidablePred below]
    [DecidablePred above] [DecidablePred below'] [DecidablePred above'] :
    boundFindings spec p below above = boundFindings spec p below' above' ↔
      (∀ min, spec.min = some min → (below min ↔ below' min)) ∧
        ∀ max, spec.max = some max → (above max ↔ above' max) := by
  unfold boundFindings
  cases spec.min with
  | none =>
    cases spec.max with
    | none => simp
    | some max => by_cases h : above max <;> by_cases h' : above' max <;> simp [h, h']
  | some min =>
    cases spec.max with
    | none => by_cases h : below min <;> by_cases h' : below' min <;> simp [h, h']
    | some max =>
      by_cases h : below min <;> by_cases h' : below' min <;> by_cases k : above max <;>
        by_cases k' : above' max <;> simp [h, h', k, k']

/-- No integer of 53 bits is changed, so that none of them is masked. -/
theorem not_isMasked (h : i.natAbs ≤ 2 ^ 53) : ¬IsMasked spec i := by
  have hne : ∀ {bound : Binary64}, RoundsTo i bound → ¬IsBelow i bound ∧ ¬IsAbove i bound := by
    intro bound hrounds
    cases bound with
    | finite n m e =>
      rw [RoundsTo, exact_ofInt_of_le h] at hrounds
      rw [IsBelow, IsAbove, hrounds]
      exact ⟨lt_irrefl _, lt_irrefl _⟩
    | infinity n => cases hrounds
    | nan n => cases hrounds
  rintro ⟨-, ⟨_, -, hbelow, hrounds⟩ | ⟨_, -, habove, hrounds⟩⟩
  · exact (hne hrounds).1 hbelow
  · exact (hne hrounds).2 habove

theorem integerFindings_eq_iff :
    integerFindings spec p i (fun bound => IsBelow i bound ∧ ¬RoundsTo i bound)
        (fun bound => IsAbove i bound ∧ ¬RoundsTo i bound) =
      integerFindings spec p i (IsBelow i) (IsAbove i) ↔ ¬IsMasked spec i := by
  rw [integerFindings, integerFindings]
  by_cases h : -2 ^ 63 ≤ i ∧ i ≤ 2 ^ 63 - 1
  · rw [if_pos h, if_pos h, boundFindings_eq_iff]
    simp only [and_iff_left_iff_imp]
    constructor
    · rintro ⟨hmin, hmax⟩ ⟨-, ⟨min, hspec, hbelow, hrounds⟩ | ⟨max, hspec, habove, hrounds⟩⟩
      · exact hmin min hspec hbelow hrounds
      · exact hmax max hspec habove hrounds
    · intro hmasked
      exact ⟨fun min hspec hbelow hrounds => hmasked ⟨h, .inl ⟨min, hspec, hbelow, hrounds⟩⟩,
        fun max hspec habove hrounds => hmasked ⟨h, .inr ⟨max, hspec, habove, hrounds⟩⟩⟩
  · rw [if_neg h, if_neg h]
    exact iff_of_true rfl fun hmasked => h hmasked.fits

theorem checkInteger_eq (hfits : ∀ bound, spec.min = some bound ∨ spec.max = some bound → bound.Fits)
    (hform : conforms schema .integer p.value = true) (hi : Spells p.value i) :
    checkInteger schema spec p =
      integerFindings spec p i (fun bound => IsBelow i bound ∧ ¬RoundsTo i bound)
        (fun bound => IsAbove i bound ∧ ¬RoundsTo i bound) := by
  have htoInt := toInt?_of_spells hi
  unfold checkInteger integerFindings
  rw [if_neg (by simp [hform])]
  by_cases hrange : -2 ^ 63 ≤ i ∧ i ≤ 2 ^ 63 - 1
  · have hread : readInteger? p.value = some i :=
      readInteger?_eq_some_iff.mpr ⟨htoInt, hrange.1, by omega⟩
    have habs : i.natAbs < 2 ^ 64 := by omega
    have hcheck : checkBounds spec p (ofInt i) =
        boundFindings spec p (fun bound => (ofInt i).lt bound = true)
          fun bound => bound.lt (ofInt i) = true := rfl
    rw [if_pos hrange, hread]
    simp only [hcheck]
    rw [boundFindings_eq_iff]
    exact ⟨fun min hmin => ofInt_lt_iff habs (hfits min (.inl hmin)),
      fun max hmax => lt_ofInt_iff habs (hfits max (.inr hmax))⟩
  · have hread : readInteger? p.value = none := by
      refine Option.eq_none_iff_forall_ne_some.mpr fun j hj => hrange ?_
      obtain ⟨hj, hlow, hhigh⟩ := readInteger?_eq_some_iff.mp hj
      rw [htoInt, Option.some.injEq] at hj
      exact ⟨by omega, by omega⟩
    rw [if_neg hrange, hread]

/-! ## What is told -/

/-- What the check of nodes tells of a parameter that is an integer, where its value is one in
decimal digits that has the form of its data type.  An integer that does not fit 64 bits is told to be
out of range, and nothing else is.  Any other is compared with the bounds exactly, but that a bound
that it is rounded to counts as met: what is found is what the exact comparison finds just where no
bound is masked, and so for every integer of 53 bits. -/
theorem integer_findings {l : Linter} {content : Text} {node : Node}
    (h : IsParameter l.schema (Model.read content) node p spec) (htype : spec.type = .integer)
    (hfits : ∀ bound, spec.min = some bound ∨ spec.max = some bound → bound.Fits)
    (hform : conforms l.schema .integer p.value = true) (hi : Spells p.value i)
    (around : Surroundings) (base? : Option Text) :
    let found := (findNodes l.schema (Model.read content)).filter (·.line == p.line)
    let told := ((l.runCheck around (Model.read content) base? .nodes).1).filter (·.line == p.line)
    told = report l.schema found ∧
      found = integerFindings spec p i (fun bound => IsBelow i bound ∧ ¬RoundsTo i bound)
        (fun bound => IsAbove i bound ∧ ¬RoundsTo i bound) ∧
      (found = integerFindings spec p i (IsBelow i) (IsAbove i) ↔ ¬IsMasked spec i) ∧
      (i.natAbs ≤ 2 ^ 53 → ¬IsMasked spec i) := by
  intro found told
  have hvalue : checkValue l.schema (Model.read content) node spec p =
      checkInteger l.schema spec p := by
    rw [checkValue, checkValueWith, htype]
    rfl
  have hfound : found = checkInteger l.schema spec p := (filter_findNodes h).trans hvalue
  have hrounded := hfound.trans (checkInteger_eq hfits hform hi)
  refine ⟨?_, hrounded, ?_, not_isMasked⟩
  · rw [hfound, ← hvalue]
    exact issues_at_parameter h
  · rw [hrounded]
    exact integerFindings_eq_iff

/-- The default schema with one type of node, which has an integer for a parameter: at most
`2 ^ 53`, the first number of 64 bits whose successor is none. -/
def boundedSchema : Schema :=
  { Schema.default with
    nodeTypes := [Schema.nodeType "t" "" [] ["n"] [] []
      [("n", Schema.bounded .integer none (some (.ofInt (2 ^ 53))))]] }

/-- An integer that no number of 64 bits is, but that is rounded to one above the bound. -/
theorem integer_findings_rounded :
    let content := "[node.a]\ntype = t\nn = 9007199254740995\n".toList
    let told := ((Linter.fresh boundedSchema).runCheck ⟨0, fun _ => false⟩ (Model.read content)
      none .nodes).1
    told.filter (·.line == 3) =
      [⟨3, "Value must be <= 9007199254740992: 9007199254740995".toList, .error,
        "value_out_of_range".toList⟩] := by
  intro content told
  let spec := Schema.bounded .integer none (some (.ofInt (2 ^ 53)))
  let p : Property := ⟨['n'], "9007199254740995".toList, 3⟩
  let node : Node := ⟨['a'], ⟨"node.a".toList, 1, 3, [⟨"type".toList, ['t'], 2⟩, p]⟩⟩
  have hparameter : IsParameter boundedSchema (Model.read content) node p spec :=
    ⟨by decide +kernel, by decide +kernel, by decide, ['t'], _, by decide +kernel, rfl, by decide, rfl⟩
  have hfits : ∀ bound, spec.min = some bound ∨ spec.max = some bound → bound.Fits := by
    rintro bound (⟨⟨⟩⟩ | ⟨⟨⟩⟩)
    exact fits_ofInt _
  have hspells : Spells p.value 9007199254740995 := .unsigned
    ⟨nofun, List.all_eq_true.mp (by decide : List.all _ Char.isDigit = true)⟩
  have hfindings := integer_findings (l := Linter.fresh boundedSchema) hparameter rfl hfits
    (by decide +kernel) hspells ⟨0, fun _ => false⟩ none
  rw [hfindings.1, hfindings.2.1]
  decide +kernel

/-- The successor of the bound is rounded to it, so that it counts as within. -/
theorem integer_unbounded :
    let content := "[node.a]\ntype = t\nn = 9007199254740993\n".toList
    let told := ((Linter.fresh boundedSchema).runCheck ⟨0, fun _ => false⟩ (Model.read content)
      none .nodes).1
    let p : Property := ⟨['n'], "9007199254740993".toList, 3⟩
    let spec := Schema.bounded .integer none (some (.ofInt (2 ^ 53)))
    conforms boundedSchema .integer p.value = true ∧ told = [] ∧
      integerFindings spec p 9007199254740993 (IsBelow 9007199254740993)
        (IsAbove 9007199254740993) = [⟨3, .aboveMaximum (.ofInt (2 ^ 53)) p.value⟩] := by
  decide +kernel

end CatchmentLint.Lint
