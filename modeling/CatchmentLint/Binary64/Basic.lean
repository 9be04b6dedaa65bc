/-!
# CatchmentLint.Binary64.Basic

Binary floating-point numbers of 64 bits, as exact values.

A finite number is `± mantissa · 2 ^ exponent` in the one form that the 64 bits encode:
`mantissa < 2 ^ 53` and `exponent ≥ -1074`, and `mantissa ≥ 2 ^ 52` unless `exponent = -1074`.
Zero and NaN have a sign.  Every operation is integer arithmetic, so nothing is rounded but
where `ofRatio` says so: to the nearest number, a tie to the even mantissa.
-/

namespace CatchmentLint

/-! ## Powers -/

def twoTo (n : Nat) : Nat := Nat.pow 2 n

def tenTo (n : Nat) : Nat := Nat.pow 10 n

/-! ## Numbers -/

inductive Binary64 where
  | finite (negative : Bool) (mantissa : Nat) (exponent : Int)
  | infinity (negative : Bool)
  | nan (negative : Bool)
  deriving DecidableEq, Repr

namespace Binary64

def zero (negative : Bool) : Binary64 := .finite negative 0 (-1074)

/-! ## Rounding -/

/-- The natural number nearest to `num / den`, a tie going to the even one. -/
def roundDiv (num den : Nat) : Nat :=
  let quotient := num / den
  let twice := 2 * (num % den)
  if den < twice ∨ twice = den ∧ quotient % 2 = 1 then quotient + 1 else quotient

/-- A rounded quotient is at most half a unit off. -/
theorem roundDiv_near {num den : Nat} (h : 0 < den) :
    2 * num ≤ 2 * (den * roundDiv num den) + den ∧
      2 * (den * roundDiv num den) ≤ 2 * num + den := by
  have hd := Nat.div_add_mod num den
  have hm := Nat.mod_lt num h
  dsimp only [roundDiv]
  split
  · rw [Nat.mul_add]; omega
  · omega

example : [roundDiv 5 2, roundDiv 7 2, roundDiv 8 3] = [2, 4, 3] := by decide

/-- `num / den · 2 ^ (-exponent)` as a quotient of natural numbers. -/
def scaled (num den : Nat) (exponent : Int) : Nat × Nat :=
  if 0 ≤ exponent then (num, den * twoTo exponent.toNat) else (num * twoTo (-exponent).toNat, den)

/-- The exponent at which `num / den`, neither of them zero, has a mantissa of 53 bits, or the
least exponent where that is greater. -/
def exponentFor (num den : Nat) : Int :=
  let guess : Int := (num.log2 : Int) - den.log2 - 52
  let (n, d) := scaled num den guess
  max (-1074) (if n < d * twoTo 52 then guess - 1 else guess)

/-- The number nearest to `num / den`. -/
def ofRatio (negative : Bool) (num den : Nat) : Binary64 :=
  if num = 0 then zero negative
  else
    let exponent := exponentFor num den
    let (n, d) := scaled num den exponent
    let mantissa := roundDiv n d
    let (mantissa, exponent) :=
      if mantissa = twoTo 53 then (twoTo 52, exponent + 1) else (mantissa, exponent)
    if 971 < exponent then .infinity negative else .finite negative mantissa exponent

def ofInt (i : Int) : Binary64 := ofRatio (i < 0) i.natAbs 1

/-! ## Order -/

/-- The signed mantissa. -/
def signed (negative : Bool) (mantissa : Nat) : Int :=
  if negative then -(mantissa : Int) else mantissa

/-- `a < b` of the values; NaN is below nothing and above nothing. -/
def lt : Binary64 → Binary64 → Bool
  | .nan _, _ => false
  | _, .nan _ => false
  | .infinity n, .infinity n' => n && !n'
  | .infinity n, .finite .. => n
  | .finite .., .infinity n => !n
  | .finite n m e, .finite n' m' e' =>
    let low := min e e'
    decide (signed n m * twoTo (e - low).toNat < signed n' m' * twoTo (e' - low).toNat)

def isZero : Binary64 → Bool
  | .finite _ 0 _ => true
  | _ => false

/-! ## Bits -/

/-- The 64 bits, as a number. -/
def toBits : Binary64 → Nat
  | .finite negative mantissa exponent =>
    (if negative then twoTo 63 else 0) +
      (if mantissa < twoTo 52 then mantissa
       else (exponent + 1075).toNat * twoTo 52 + (mantissa - twoTo 52))
  | .infinity negative => (if negative then twoTo 63 else 0) + 0x7ff * twoTo 52
  | .nan negative => (if negative then twoTo 63 else 0) + 0x7ff * twoTo 52 + twoTo 51

example : (ofInt 1).toBits = 0x3ff0000000000000 := by decide
example : (ofRatio true 1 10).toBits = 0xbfb999999999999a := by decide
example : (ofInt (twoTo 53 + 1)).toBits = (ofInt (twoTo 53)).toBits := by decide

end Binary64

end CatchmentLint
