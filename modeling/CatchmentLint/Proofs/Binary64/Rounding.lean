import CatchmentLint.Binary64.Decimal
import Mathlib.Algebra.Order.Field.Power
import Mathlib.Algebra.Order.Field.Rat
import Mathlib.Tactic.Linarith
import Mathlib.Tactic.NormNum
import Mathlib.Tactic.Positivity

/-!
# CatchmentLint.Proofs.Binary64.Rounding

Integers as numbers of 64 bits, and how they compare with others.

* `exact` — the number that a finite one is, and `lt_finite_iff` — finite ones are compared as such;
* `rounded` — the whole number that a natural one is rounded to, and `exact_ofInt` — the sign stays;
* `rounded_le`, `le_rounded` — rounding passes over no number that has 53 bits;
* `fits_ofRatio`, `fits_toBinary64` — and no number that is read has more;
* `ofInt_lt_iff`, `lt_ofInt_iff` — so an integer compares as its rounded number does, unless it is
  rounded to the number that it is compared with.
-/

namespace CatchmentLint.Binary64

/-! ## Exact values -/

/-- The number that a finite one is. -/
def exact : Binary64 → ℚ
  | .finite negative mantissa exponent => signed negative mantissa * 2 ^ exponent
  | .infinity _ | .nan _ => 0

/-- The mantissa has no more bits than are stored. -/
def Fits : Binary64 → Prop
  | .finite _ mantissa _ => mantissa < 2 ^ 53
  | .infinity _ | .nan _ => True

variable {n n' : Bool} {m m' : Nat} {e e' : Int}

/-- A power of two is a whole multiple of a smaller one. -/
theorem zpow_eq_mul {place : Int} (h : place ≤ e) :
    (2 : ℚ) ^ e = (2 ^ (e - place).toNat : Nat) * 2 ^ place := by
  push_cast
  rw [← zpow_natCast, Int.toNat_of_nonneg (Int.sub_nonneg.mpr h), ← zpow_add₀ two_ne_zero,
    Int.sub_add_cancel]

/-- Finite numbers are compared as the numbers they are. -/
theorem lt_finite_iff :
    (finite n m e).lt (finite n' m' e') = true ↔ (finite n m e).exact < (finite n' m' e').exact := by
  have hpos : (0 : ℚ) < 2 ^ min e e' := by positivity
  rw [exact, exact, zpow_eq_mul (min_le_left e e'), zpow_eq_mul (min_le_right e e'), ← mul_assoc,
    ← mul_assoc, mul_lt_mul_iff_left₀ hpos, lt, decide_eq_true_eq]
  norm_cast

/-! ## Rounded naturals -/

/-- Rounding passes over no whole number from below. -/
theorem roundDiv_le {num den quotient : Nat} (hden : 0 < den) (h : num ≤ quotient * den) :
    roundDiv num den ≤ quotient := by
  refine Nat.le_of_not_lt fun hlt => ?_
  obtain ⟨-, hnear⟩ := @roundDiv_near num den hden
  have hnext : den * (quotient + 1) ≤ den * roundDiv num den := Nat.mul_le_mul_left den hlt
  rw [Nat.mul_add, Nat.mul_comm den quotient] at hnext
  omega

/-- Rounding passes over no whole number from above. -/
theorem le_roundDiv {num den quotient : Nat} (hden : 0 < den) (h : quotient * den ≤ num) :
    quotient ≤ roundDiv num den := by
  refine Nat.le_of_not_lt fun hlt => ?_
  obtain ⟨hnear, -⟩ := @roundDiv_near num den hden
  have hnext : den * (roundDiv num den + 1) ≤ den * quotient := Nat.mul_le_mul_left den hlt
  rw [Nat.mul_add, Nat.mul_comm den quotient] at hnext
  omega

theorem roundDiv_one (num : Nat) : roundDiv num 1 = num :=
  Nat.le_antisymm (roundDiv_le Nat.one_pos (by omega)) (le_roundDiv Nat.one_pos (by omega))

/-- The nearest number with 53 bits in front of the zeros that it ends in. -/
def rounded (num : Nat) : Nat := roundDiv num (2 ^ (num.log2 - 52)) * 2 ^ (num.log2 - 52)

/-- A number of 53 bits is not rounded. -/
theorem rounded_of_log2_le {num : Nat} (h : num.log2 ≤ 52) : rounded num = num := by
  have hzero : num.log2 - 52 = 0 := Nat.sub_eq_zero_of_le h
  rw [rounded, hzero, Nat.pow_zero, roundDiv_one, Nat.mul_one]

/-- The first bit of a number of more than 53 bits. -/
theorem first_bit_le {num : Nat} (h : ¬num.log2 ≤ 52) : ((2 ^ num.log2 : Nat) : ℚ) ≤ num := by
  have hnum : num ≠ 0 := by
    rintro rfl
    exact h (by decide)
  exact_mod_cast Nat.log2_self_le hnum

/-- A number of 53 bits whose exponent is not below that of the last bit that is kept is a multiple
of this bit. -/
theorem exists_eq_mul {place : Nat} (h : (place : Int) ≤ e) :
    ∃ quotient : Nat, (m : ℚ) * 2 ^ e = quotient * (2 : ℚ) ^ place := by
  refine ⟨m * 2 ^ (e - place).toNat, ?_⟩
  rw [zpow_eq_mul h, zpow_natCast, ← mul_assoc, Nat.cast_mul]

/-- Rounding passes over no number of 53 bits from below, whatever its place. -/
theorem rounded_le {num : Nat} (hm : m < 2 ^ 53) (h : (num : ℚ) ≤ m * 2 ^ e) :
    (rounded num : ℚ) ≤ m * 2 ^ e := by
  by_cases hlog : num.log2 ≤ 52
  · rwa [rounded_of_log2_le hlog]
  have hlow : (2 : ℚ) ^ (num.log2 : Int) ≤ num := by
    rw [zpow_natCast]
    exact_mod_cast first_bit_le hlog
  -- the number is as great as the integer, so that its last bit is not below the last one kept
  have hbits : (m : ℚ) * 2 ^ e < 2 ^ (53 + e) := by
    rw [zpow_add₀ two_ne_zero]
    have hm' : (m : ℚ) < 2 ^ (53 : Int) := by exact_mod_cast hm
    exact mul_lt_mul_of_pos_right hm' (by positivity)
  have hexponent : (num.log2 : Int) < 53 + e :=
    (zpow_lt_zpow_iff_right₀ (by norm_num : (1 : ℚ) < 2)).mp (by linarith)
  have hplace : ((num.log2 - 52 : Nat) : Int) ≤ e := by omega
  obtain ⟨quotient, hquotient⟩ := exists_eq_mul (m := m) hplace
  rw [hquotient] at h ⊢
  have hle : num ≤ quotient * 2 ^ (num.log2 - 52) := by exact_mod_cast h
  have hround := Nat.mul_le_mul_right (2 ^ (num.log2 - 52)) (roundDiv_le (Nat.two_pow_pos _) hle)
  exact_mod_cast hround

/-- Rounding passes over no number of 53 bits from above, whatever its place. -/
theorem le_rounded {num : Nat} (hm : m < 2 ^ 53) (h : (m * 2 ^ e : ℚ) ≤ num) :
    (m * 2 ^ e : ℚ) ≤ rounded num := by
  by_cases hlog : num.log2 ≤ 52
  · rwa [rounded_of_log2_le hlog]
  have hmultiple : ∀ quotient : Nat, (quotient * 2 ^ (num.log2 - 52) : ℚ) ≤ num →
      (quotient * 2 ^ (num.log2 - 52) : ℚ) ≤ rounded num := by
    intro quotient hquotient
    have hle : quotient * 2 ^ (num.log2 - 52) ≤ num := by exact_mod_cast hquotient
    have hround := Nat.mul_le_mul_right (2 ^ (num.log2 - 52)) (le_roundDiv (Nat.two_pow_pos _) hle)
    exact_mod_cast hround
  by_cases hexponent : ((num.log2 - 52 : Nat) : Int) ≤ e
  · obtain ⟨quotient, hquotient⟩ := exists_eq_mul (m := m) hexponent
    rw [hquotient] at h ⊢
    exact hmultiple quotient h
  · -- the first bit of the integer stays, and the number is below it
    have hfirst : ((2 ^ 52 : Nat) * 2 ^ (num.log2 - 52) : ℚ) ≤ num := by
      have hsplit : 2 ^ num.log2 = 2 ^ 52 * 2 ^ (num.log2 - 52) := by
        rw [← Nat.pow_add]
        congr 1
        omega
      have hlow := first_bit_le hlog
      rw [hsplit] at hlow
      exact_mod_cast hlow
    have hbits : (m : ℚ) * 2 ^ e ≤ 2 ^ (53 : Int) * 2 ^ e := by
      have hm' : (m : ℚ) ≤ 2 ^ (53 : Int) := by exact_mod_cast hm.le
      exact mul_le_mul_of_nonneg_right hm' (by positivity)
    have hpower := calc
      (2 : ℚ) ^ (53 : Int) * 2 ^ e = 2 ^ (53 + e) := (zpow_add₀ two_ne_zero _ _).symm
      _ ≤ 2 ^ ((52 : Int) + (num.log2 - 52 : Nat)) :=
        zpow_le_zpow_right₀ (by norm_num) (by omega)
      _ = (2 ^ 52 : Nat) * 2 ^ (num.log2 - 52) := by
        rw [zpow_add₀ two_ne_zero, zpow_natCast]
        norm_num
    exact hbits.trans (hpower.trans (hmultiple _ hfirst))

/-! ## Rounded quotients -/

theorem twoTo_eq (place : Nat) : twoTo place = 2 ^ place := rfl

/-- The scaled quotient is the quotient in units of the place. -/
theorem scaled_spec (num : Nat) {den : Nat} (hden : 0 < den) (place : Int) :
    0 < (scaled num den place).2 ∧
      (num * (scaled num den place).2 : ℚ) = (scaled num den place).1 * (den * 2 ^ place) := by
  unfold scaled
  split
  · next hle =>
    refine ⟨Nat.mul_pos hden (Nat.two_pow_pos _), ?_⟩
    have hplace : (2 : ℚ) ^ place = (2 ^ place.toNat : Nat) := by
      push_cast
      rw [← zpow_natCast, Int.toNat_of_nonneg hle]
    rw [hplace, twoTo_eq]
    push_cast
    rfl
  · next hlt =>
    refine ⟨hden, ?_⟩
    have hplace : (2 : ℚ) ^ place = ((2 ^ (-place).toNat : Nat) : ℚ)⁻¹ := by
      push_cast
      rw [← zpow_natCast, Int.toNat_of_nonneg (by omega), zpow_neg, inv_inv]
    have hpos : ((2 ^ (-place).toNat : Nat) : ℚ) ≠ 0 := by positivity
    rw [hplace, twoTo_eq, Nat.cast_mul, mul_comm (den : ℚ), ← mul_assoc, mul_inv_cancel_right₀ hpos]

/-- A quotient is below the power of two that the first bits of its two numbers give. -/
theorem lt_two_pow_log2 (num : Nat) {den : Nat} (hden : 0 < den) :
    (num : ℚ) < den * 2 ^ ((num.log2 : Int) - den.log2 + 1) := by
  have hnum : (num : ℚ) < 2 ^ ((num.log2 : Int) + 1) := by
    have hlt := @Nat.lt_log2_self num
    exact_mod_cast hlt
  have hfirst : (2 : ℚ) ^ (den.log2 : Int) ≤ den := by
    rw [zpow_natCast]
    exact_mod_cast Nat.log2_self_le hden.ne'
  have hsplit : (num.log2 : Int) + 1 = den.log2 + ((num.log2 : Int) - den.log2 + 1) := by omega
  rw [hsplit, zpow_add₀ two_ne_zero] at hnum
  exact hnum.trans_le (mul_le_mul_of_nonneg_right hfirst (by positivity))

/-- A quotient is as many places below a power of two as it has been scaled. -/
theorem lt_of_scaled_lt {num den bits : Nat} {place : Int} (hden : 0 < den)
    (h : (scaled num den place).1 < (scaled num den place).2 * twoTo bits) :
    (num : ℚ) < den * 2 ^ (bits + place) := by
  obtain ⟨hpos, hspec⟩ := scaled_spec num hden place
  have hpos' : (0 : ℚ) < (scaled num den place).2 := by exact_mod_cast hpos
  have h' : ((scaled num den place).1 : ℚ) < (scaled num den place).2 * 2 ^ (bits : Int) := by
    rw [zpow_natCast]
    exact_mod_cast h
  refine lt_of_mul_lt_mul_right ?_ hpos'.le
  rw [hspec, zpow_add₀ two_ne_zero]
  refine (mul_lt_mul_of_pos_right h' (by positivity)).trans_eq ?_
  generalize (2 : ℚ) ^ place = power
  linarith

/-- The exponent leaves a quotient below the numbers of 54 bits. -/
theorem lt_exponentFor (num : Nat) {den : Nat} (hden : 0 < den) :
    (num : ℚ) < den * 2 ^ (53 + exponentFor num den) := by
  have hmono : ∀ place ≤ 53 + exponentFor num den, (num : ℚ) < den * 2 ^ place →
      (num : ℚ) < den * 2 ^ (53 + exponentFor num den) := by
    intro place hplace hlt
    refine hlt.trans_le (mul_le_mul_of_nonneg_left ?_ (Nat.cast_nonneg den))
    exact zpow_le_zpow_right₀ (by norm_num) hplace
  by_cases hlow : (scaled num den ((num.log2 : Int) - den.log2 - 52)).1 <
      (scaled num den ((num.log2 : Int) - den.log2 - 52)).2 * twoTo 52
  · refine hmono _ ?_ (lt_of_scaled_lt hden hlow)
    unfold exponentFor
    simp only [if_pos hlow]
    omega
  · refine hmono _ ?_ (lt_two_pow_log2 num hden)
    unfold exponentFor
    simp only [if_neg hlow]
    omega

/-- The exponent, and the mantissa for it, which is halved when its rounding has one bit more. -/
theorem ofRatio_of_ne {negative : Bool} {num den mantissa : Nat} {place : Int} (h : num ≠ 0)
    (hplace : exponentFor num den = place)
    (hmantissa : roundDiv (scaled num den place).1 (scaled num den place).2 = mantissa) :
    ofRatio negative num den =
      if mantissa = twoTo 53 then
        if 971 < place + 1 then .infinity negative else .finite negative (twoTo 52) (place + 1)
      else if 971 < place then .infinity negative else .finite negative mantissa place := by
  rw [ofRatio, if_neg h, hplace]
  extract_lets exponent
  subst exponent
  generalize scaled num den place = quotient at hmantissa ⊢
  obtain ⟨n, d⟩ := quotient
  simp only at hmantissa ⊢
  rw [hmantissa]
  split <;> rfl

/-- A quotient in units of its own place has 53 bits, or is the next power of two. -/
theorem roundDiv_scaled_le (num : Nat) {den : Nat} (hden : 0 < den) :
    roundDiv (scaled num den (exponentFor num den)).1 (scaled num den (exponentFor num den)).2 ≤
      2 ^ 53 := by
  obtain ⟨hpos, hspec⟩ := scaled_spec num hden (exponentFor num den)
  have hpos' : (0 : ℚ) < (scaled num den (exponentFor num den)).2 := by exact_mod_cast hpos
  have hpower : (0 : ℚ) < den * 2 ^ exponentFor num den := by positivity
  have hlt := mul_lt_mul_of_pos_right (lt_exponentFor num hden) hpos'
  have hfirst : (2 : ℚ) ^ (53 : Int) = (2 ^ 53 : Nat) := by norm_num
  rw [hspec, zpow_add₀ two_ne_zero, hfirst] at hlt
  have hquotient : ((scaled num den (exponentFor num den)).1 : ℚ) ≤
      (2 ^ 53 : Nat) * (scaled num den (exponentFor num den)).2 := by
    refine le_of_mul_le_mul_right (hlt.le.trans_eq ?_) hpower
    generalize (2 : ℚ) ^ exponentFor num den = power
    linarith
  rw [← Nat.cast_mul, Nat.cast_le] at hquotient
  exact roundDiv_le hpos hquotient

/-- What a quotient is rounded to fits. -/
theorem fits_ofRatio {negative : Bool} {num den : Nat} (hden : 0 < den) :
    (ofRatio negative num den).Fits := by
  by_cases hnum : num = 0
  · rw [ofRatio, if_pos hnum]
    exact Nat.two_pow_pos 53
  have hle := roundDiv_scaled_le num hden
  rw [ofRatio_of_ne hnum rfl rfl]
  split
  · split
    · trivial
    · exact Nat.pow_lt_pow_right Nat.one_lt_two (Nat.lt_succ_self 52)
  · next hne =>
    split
    · trivial
    · exact Nat.lt_of_le_of_ne hle hne

/-- An integer that is rounded is a number of 64 bits. -/
theorem fits_ofInt (i : Int) : (ofInt i).Fits := fits_ofRatio Nat.one_pos

/-- What a decimal is rounded to fits. -/
theorem fits_toBinary64 (d : Decimal) : d.toBinary64.Fits := by
  have hzero : (zero d.negative).Fits := Nat.two_pow_pos 53
  unfold Decimal.toBinary64
  split
  · exact hzero
  · simp only
    split
    · trivial
    · split
      · exact hzero
      · split
        · exact fits_ofRatio Nat.one_pos
        · exact fits_ofRatio (Nat.pow_pos (by decide))

/-! ## Rounded integers -/

/-- The place of a whole number is told by its first bit. -/
theorem exponentFor_one {num : Nat} (h : num ≠ 0) : exponentFor num 1 = (num.log2 : Int) - 52 := by
  have hlow := Nat.log2_self_le h
  have hone : Nat.log2 1 = 0 := by decide
  have hguess : ¬(scaled num 1 ((num.log2 : Int) - 52)).1 <
      (scaled num 1 ((num.log2 : Int) - 52)).2 * twoTo 52 := by
    unfold scaled
    split
    · next hle =>
      have hsplit : 1 * twoTo ((num.log2 : Int) - 52).toNat * twoTo 52 = 2 ^ num.log2 := by
        rw [twoTo_eq, twoTo_eq, Nat.one_mul, ← Nat.pow_add]
        congr 1
        omega
      simp only [hsplit]
      omega
    · next hle =>
      have hsplit : 1 * twoTo 52 = 2 ^ num.log2 * twoTo (-((num.log2 : Int) - 52)).toNat := by
        rw [twoTo_eq, twoTo_eq, Nat.one_mul, ← Nat.pow_add]
        congr 1
        omega
      have hscaled := Nat.mul_le_mul_right (twoTo (-((num.log2 : Int) - 52)).toNat) hlow
      simp only [hsplit]
      omega
  unfold exponentFor
  simp only [hone, Int.natCast_zero, Int.sub_zero]
  rw [if_neg hguess]
  omega

/-- A whole number is rounded to a finite one. -/
theorem exists_ofRatio_one {negative : Bool} {num : Nat} (h : num ≠ 0) (hlt : num < 2 ^ 64) :
    ∃ m e, ofRatio negative num 1 = .finite negative m e ∧ (m * 2 ^ e : ℚ) = rounded num := by
  have hlog : num.log2 < 64 := (Nat.log2_lt h).mpr hlt
  have hvalue : (roundDiv (scaled num 1 ((num.log2 : Int) - 52)).1
      (scaled num 1 ((num.log2 : Int) - 52)).2 * 2 ^ ((num.log2 : Int) - 52) : ℚ) = rounded num := by
    unfold scaled
    split
    · next hle =>
      have hplace : ((num.log2 : Int) - 52).toNat = num.log2 - 52 := by omega
      have hexponent : (num.log2 : Int) - 52 = (num.log2 - 52 : Nat) := by omega
      rw [hplace, hexponent, zpow_natCast, Nat.one_mul, rounded]
      push_cast
      rfl
    · next hle =>
      have hplace : (-((num.log2 : Int) - 52)).toNat = 52 - num.log2 := by omega
      have hexponent : (num.log2 : Int) - 52 = -(52 - num.log2 : Nat) := by omega
      rw [hplace, hexponent, zpow_neg, zpow_natCast, roundDiv_one, rounded_of_log2_le (by omega)]
      rw [twoTo_eq]
      push_cast
      exact mul_inv_cancel_right₀ (by positivity) _
  rw [ofRatio_of_ne h (exponentFor_one h) rfl]
  split
  · next hmantissa =>
    refine ⟨twoTo 52, (num.log2 : Int) - 52 + 1, if_neg (by omega), ?_⟩
    rw [← hvalue, hmantissa, zpow_add₀ two_ne_zero]
    have hfirst : ((twoTo 53 : Nat) : ℚ) = twoTo 52 * 2 := by norm_num [twoTo]
    rw [hfirst, zpow_one, mul_comm (2 ^ _) 2, ← mul_assoc]
  · exact ⟨_, _, if_neg (by omega), hvalue⟩

/-- An integer of 64 bits is rounded as its absolute value is. -/
theorem exists_ofInt {i : Int} (h : i.natAbs < 2 ^ 64) :
    ∃ m e, ofInt i = .finite (decide (i < 0)) m e ∧ (m * 2 ^ e : ℚ) = rounded i.natAbs := by
  by_cases hi : i = 0
  · subst hi
    refine ⟨0, -1074, rfl, ?_⟩
    rw [rounded_of_log2_le (by decide)]
    norm_num
  · exact exists_ofRatio_one (Int.natAbs_ne_zero.mpr hi) h

/-- An integer is rounded by its magnitude, and keeps its sign. -/
theorem exact_ofInt {i : Int} (h : i.natAbs < 2 ^ 64) :
    (ofInt i).exact = if i < 0 then -(rounded i.natAbs : ℚ) else rounded i.natAbs := by
  obtain ⟨m, e, hofInt, hvalue⟩ := exists_ofInt h
  rw [hofInt, exact, ← hvalue, signed]
  by_cases hi : i < 0
  · simp [hi]
  · simp [hi]

theorem cast_eq_natAbs (i : Int) : (i : ℚ) = if i < 0 then -(i.natAbs : ℚ) else i.natAbs := by
  have habs : (i.natAbs : ℚ) = |(i : ℚ)| := by rw [Nat.cast_natAbs, Int.cast_abs]
  split
  · next hi => rw [habs, abs_of_neg (by exact_mod_cast hi), neg_neg]
  · next hi => rw [habs, abs_of_nonneg (by exact_mod_cast Int.not_lt.mp hi)]

/-- No integer of 53 bits is changed. -/
theorem exact_ofInt_of_le {i : Int} (h : i.natAbs ≤ 2 ^ 53) : (ofInt i).exact = i := by
  have hrounded : rounded i.natAbs = i.natAbs := by
    rcases Nat.lt_or_eq_of_le h with hlt | heq
    · refine rounded_of_log2_le ?_
      by_cases hzero : i.natAbs = 0
      · rw [hzero]
        decide
      · have hlog := (Nat.log2_lt hzero).mpr hlt
        omega
    · rw [heq]
      decide +kernel
  rw [exact_ofInt (by omega), hrounded]
  exact (cast_eq_natAbs i).symm

/-! ## Comparing -/

/-- A number of 53 bits, and zeros behind them or a point among them. -/
def IsShort (q : ℚ) : Prop := ∃ (m : Nat) (e : Int), m < 2 ^ 53 ∧ |q| = m * 2 ^ e

variable {q : ℚ} {i : Int} {bound : Binary64}

/-- The negative of a number of 53 bits has no more. -/
theorem IsShort.neg (h : IsShort q) : IsShort (-q) := by
  obtain ⟨m, e, hm, hq⟩ := h
  exact ⟨m, e, hm, by rwa [abs_neg]⟩

/-- A bound has 53 bits at most. -/
theorem isShort_exact (h : bound.Fits) : IsShort bound.exact := by
  cases bound with
  | finite n m e =>
    refine ⟨m, e, h, ?_⟩
    rw [exact, abs_mul, abs_of_pos (by positivity : (0 : ℚ) < 2 ^ e), signed]
    cases n <;> simp
  | infinity n => exact ⟨0, 0, by decide, by simp [exact]⟩
  | nan n => exact ⟨0, 0, by decide, by simp [exact]⟩

/-- Rounding passes over no such number from below. -/
theorem rounded_le_of_isShort {num : Nat} (hq : IsShort q) (h : (num : ℚ) ≤ q) :
    (rounded num : ℚ) ≤ q := by
  obtain ⟨m, e, hm, habs⟩ := hq
  rw [abs_of_nonneg ((Nat.cast_nonneg num).trans h)] at habs
  rw [habs] at h ⊢
  exact rounded_le hm h

/-- Rounding passes over no such number from above. -/
theorem le_rounded_of_isShort {num : Nat} (hq : IsShort q) (h : q ≤ num) : q ≤ rounded num := by
  obtain ⟨m, e, hm, habs⟩ := hq
  rcases le_total 0 q with hpos | hneg
  · rw [abs_of_nonneg hpos] at habs
    rw [habs] at h ⊢
    exact le_rounded hm h
  · exact hneg.trans (Nat.cast_nonneg _)

/-- Rounding passes over no number of 53 bits. -/
theorem exact_ofInt_le (hi : i.natAbs < 2 ^ 64) (hq : IsShort q) (h : (i : ℚ) ≤ q) :
    (ofInt i).exact ≤ q := by
  rw [cast_eq_natAbs] at h
  rw [exact_ofInt hi]
  split
  · next hneg =>
    rw [if_pos hneg] at h
    exact neg_le.mp (le_rounded_of_isShort hq.neg (neg_le.mp h))
  · next hpos =>
    rw [if_neg hpos] at h
    exact rounded_le_of_isShort hq h

/-- Rounding an integer passes over no such number from above, whatever its sign. -/
theorem le_exact_ofInt (hi : i.natAbs < 2 ^ 64) (hq : IsShort q) (h : q ≤ i) :
    q ≤ (ofInt i).exact := by
  rw [cast_eq_natAbs] at h
  rw [exact_ofInt hi]
  split
  · next hneg =>
    rw [if_pos hneg] at h
    exact le_neg.mp (rounded_le_of_isShort hq.neg (le_neg.mp h))
  · next hpos =>
    rw [if_neg hpos] at h
    exact le_rounded_of_isShort hq h

/-- The integer is less than the bound. -/
def IsBelow (i : Int) : Binary64 → Prop
  | .finite negative mantissa exponent => (i : ℚ) < signed negative mantissa * 2 ^ exponent
  | .infinity negative => negative = false
  | .nan _ => False

/-- The integer is greater than the bound. -/
def IsAbove (i : Int) : Binary64 → Prop
  | .finite negative mantissa exponent => signed negative mantissa * 2 ^ exponent < (i : ℚ)
  | .infinity negative => negative = true
  | .nan _ => False

/-- The bound is the number that the integer is rounded to. -/
def RoundsTo (i : Int) : Binary64 → Prop
  | .finite negative mantissa exponent =>
    (ofInt i).exact = signed negative mantissa * 2 ^ exponent
  | .infinity _ | .nan _ => False

instance (i : Int) (bound : Binary64) : Decidable (IsBelow i bound) :=
  match bound with
  | .finite .. => inferInstanceAs (Decidable (_ < _))
  | .infinity .. => inferInstanceAs (Decidable (_ = _))
  | .nan .. => inferInstanceAs (Decidable False)

instance (i : Int) (bound : Binary64) : Decidable (IsAbove i bound) :=
  match bound with
  | .finite .. => inferInstanceAs (Decidable (_ < _))
  | .infinity .. => inferInstanceAs (Decidable (_ = _))
  | .nan .. => inferInstanceAs (Decidable False)

instance (i : Int) (bound : Binary64) : Decidable (RoundsTo i bound) :=
  match bound with
  | .finite .. => inferInstanceAs (Decidable (_ = _))
  | .infinity .. => inferInstanceAs (Decidable False)
  | .nan .. => inferInstanceAs (Decidable False)

/-- An integer is told of as below a bound just if it is, and is not rounded to the bound. -/
theorem ofInt_lt_iff (hi : i.natAbs < 2 ^ 64) (hbound : bound.Fits) :
    (ofInt i).lt bound = true ↔ IsBelow i bound ∧ ¬RoundsTo i bound := by
  obtain ⟨m, e, hofInt, -⟩ := exists_ofInt hi
  cases bound with
  | finite n' m' e' =>
    have hshort : IsShort (finite n' m' e').exact := isShort_exact hbound
    rw [hofInt, lt_finite_iff, ← hofInt]
    constructor
    · intro hlt
      exact ⟨not_le.mp fun hle => not_lt.mpr (le_exact_ofInt hi hshort hle) hlt, hlt.ne⟩
    · rintro ⟨hbelow, hne⟩
      exact lt_of_le_of_ne (exact_ofInt_le hi hshort (le_of_lt hbelow)) hne
  | infinity n' => simp [hofInt, lt, IsBelow, RoundsTo]
  | nan n' => simp [hofInt, lt, IsBelow]

/-- An integer is told of as above a bound just if it is, and is not rounded to the bound. -/
theorem lt_ofInt_iff (hi : i.natAbs < 2 ^ 64) (hbound : bound.Fits) :
    bound.lt (ofInt i) = true ↔ IsAbove i bound ∧ ¬RoundsTo i bound := by
  obtain ⟨m, e, hofInt, -⟩ := exists_ofInt hi
  cases bound with
  | finite n' m' e' =>
    have hshort : IsShort (finite n' m' e').exact := isShort_exact hbound
    rw [hofInt, lt_finite_iff, ← hofInt]
    constructor
    · intro hlt
      exact ⟨not_le.mp fun hle => not_lt.mpr (exact_ofInt_le hi hshort hle) hlt, hlt.ne'⟩
    · rintro ⟨habove, hne⟩
      exact lt_of_le_of_ne (le_exact_ofInt hi hshort (le_of_lt habove)) (Ne.symm hne)
  | infinity n' => simp [hofInt, lt, IsAbove, RoundsTo]
  | nan n' => simp [lt, IsAbove]

end CatchmentLint.Binary64
