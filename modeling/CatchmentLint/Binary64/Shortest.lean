import CatchmentLint.Binary64.Basic
import CatchmentLint.Text.Basic

/-!
# CatchmentLint.Binary64.Shortest

Writing a number with the fewest digits that read back as it.

1. The digits are those of the coarsest decimal grid `10 ^ k` that has a point among the reals
   that round to the number; of two such points the nearer one, and of two equally near ones the
   greater.
2. They are written in full: no exponent, and no point where no digit follows it.
3. A zero keeps its sign; NaN has none.
-/

namespace CatchmentLint

namespace Binary64

/-- The reals that round to a positive finite number, in units of `unitNum / unitDen`: the number
itself is `value` units, and they lie between `low` and `high` units, the ends included where
`closed`. -/
structure Neighbourhood where
  low : Nat
  value : Nat
  high : Nat
  closed : Bool
  unitNum : Nat
  unitDen : Nat

/-- Half the way to the next number on either side, in quarters of the last place; the step below
a power of two is half as long as the step above it. -/
def neighbourhood (mantissa : Nat) (exponent : Int) : Neighbourhood :=
  let quarter := exponent - 2
  { low := if mantissa = twoTo 52 ∧ exponent ≠ -1074 then 4 * mantissa - 1 else 4 * mantissa - 2
    value := 4 * mantissa
    high := 4 * mantissa + 2
    closed := mantissa % 2 = 0
    unitNum := twoTo quarter.toNat
    unitDen := twoTo (-quarter).toNat }

namespace Neighbourhood

/-- Whether `point · 10 ^ k` lies in the neighbourhood. -/
def hasPoint (hood : Neighbourhood) (k : Int) (point : Nat) : Bool :=
  let scaledPoint := point * tenTo k.toNat * hood.unitDen
  let unit := hood.unitNum * tenTo (-k).toNat
  if hood.closed then hood.low * unit ≤ scaledPoint && scaledPoint ≤ hood.high * unit
  else hood.low * unit < scaledPoint && scaledPoint < hood.high * unit

/-- The point of the grid `10 ^ k` that stands for the number, if the grid has one: it is one of
the two grid points around the value. -/
def onGrid? (hood : Neighbourhood) (k : Int) : Option Nat :=
  let num := hood.value * hood.unitNum * tenTo (-k).toNat
  let den := hood.unitDen * tenTo k.toNat
  let below := num / den
  match hood.hasPoint k below, hood.hasPoint k (below + 1) with
  | true, true => some (if 2 * (num % den) < den then below else below + 1)
  | true, false => some below
  | false, true => some (below + 1)
  | false, false => none

/-- The first hit among `k`, `k - 1`, … -/
def search (hood : Neighbourhood) : (tries : Nat) → (k : Int) → Nat × Int
  | 0, k => (0, k)
  | tries + 1, k =>
    match hood.onGrid? k with
    | some point => (point, k)
    | none => hood.search tries (k - 1)

/-- A `k` with `10 ^ k` greater than every point of the neighbourhood, from the count of binary
digits and `log₁₀ 2 < 0.30103`. -/
def coarsest (hood : Neighbourhood) : Int :=
  (((hood.value * hood.unitNum).log2 : Int) - hood.unitDen.log2 + 1) * 30103 / 100000 + 2

end Neighbourhood

/-- Digits and exponent of the shortest decimal of a positive finite number. -/
def shortest (mantissa : Nat) (exponent : Int) : Nat × Int :=
  let hood := neighbourhood mantissa exponent
  hood.search 32 hood.coarsest

/-- `digits · 10 ^ k` in positional notation. -/
def positional (digits : Nat) (k : Int) : Text :=
  let text := Text.ofNat digits
  if 0 ≤ k then text ++ List.replicate k.toNat '0'
  else
    let places := (-k).toNat
    if places < text.length then
      text.take (text.length - places) ++ '.' :: text.drop (text.length - places)
    else '0' :: '.' :: List.replicate (places - text.length) '0' ++ text

/-- The text of a number. -/
def toText : Binary64 → Text
  | .finite negative mantissa exponent =>
    let magnitude :=
      if mantissa = 0 then ['0']
      else positional (shortest mantissa exponent).1 (shortest mantissa exponent).2
    if negative then '-' :: magnitude else magnitude
  | .infinity negative => if negative then "-inf".toList else "inf".toList
  | .nan _ => "NaN".toList

example : (ofRatio false 1 10).toText = "0.1".toList := by decide +kernel
example : (ofRatio true 45 2).toText = "-22.5".toList := by decide +kernel
example : (ofInt (tenTo 21)).toText = ("1" ++ "000000000000000000000").toList := by decide +kernel
example : shortest 1 (-1074) = (5, -324) := by decide +kernel

end Binary64

end CatchmentLint
