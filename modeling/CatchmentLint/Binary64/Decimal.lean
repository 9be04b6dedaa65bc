import CatchmentLint.Binary64.Basic
import CatchmentLint.Text.Basic

/-!
# CatchmentLint.Binary64.Decimal

Reading decimal numerals.

1. A decimal is an optional sign, digits with at most one point among them or at either end, at
   least one digit in all, and an optional exponent: `e` or `E`, an optional sign, digits.
2. The words `inf`, `infinity` and `nan`, in any case and with an optional sign, are read too.
3. The value is the number nearest to what the numeral says: beyond the greatest number it is an
   infinity, and below half the least one a zero.
4. A whole number is an optional sign and digits.
-/

namespace CatchmentLint

namespace Text

/-- An optional sign, and whether it is a minus. -/
def takeSign : Text → Bool × Text
  | '-' :: s => (true, s)
  | '+' :: s => (false, s)
  | s => (false, s)

/-- The number that decimal digits spell. -/
def digitsToNat (digits : Text) : Nat :=
  digits.foldl (fun n c => 10 * n + (c.toNat - '0'.toNat)) 0

/-- The whole number that the text spells. -/
def toInt? (s : Text) : Option Int :=
  let (negative, digits) := takeSign s
  if digits = [] ∨ !digits.all Char.isDigit then none
  else some (if negative then -(digitsToNat digits : Int) else digitsToNat digits)

/-- The natural number that the text spells; a minus is refused. -/
def toNat? (s : Text) : Option Nat :=
  let digits := (dropLead? ['+'] s).getD s
  if digits = [] ∨ !digits.all Char.isDigit then none else some (digitsToNat digits)

end Text

/-- `± coefficient · 10 ^ exponent`. -/
structure Decimal where
  negative : Bool
  coefficient : Nat
  exponent : Int
  deriving DecidableEq, Repr

namespace Decimal

/-- The exponent that follows the digits: none, or all that is left. -/
def readExponent? : Text → Option Int
  | [] => some 0
  | c :: s => if c = 'e' ∨ c = 'E' then Text.toInt? s else none

/-- Reads a decimal without its sign. -/
def readUnsigned? (negative : Bool) (s : Text) : Option Decimal :=
  let whole := s.takeWhile Char.isDigit
  let afterWhole := s.dropWhile Char.isDigit
  let fractionAndRest :=
    match afterWhole with
    | '.' :: s => (s.takeWhile Char.isDigit, s.dropWhile Char.isDigit)
    | s => ([], s)
  if whole = [] ∧ fractionAndRest.1 = [] then none
  else
    (readExponent? fractionAndRest.2).map fun exponent =>
      ⟨negative, Text.digitsToNat (whole ++ fractionAndRest.1),
        exponent - fractionAndRest.1.length⟩

def read? (s : Text) : Option Decimal :=
  let (negative, digits) := Text.takeSign s
  readUnsigned? negative digits

/-- The nearest number.  A coefficient of `k` digits lies between `10 ^ (k - 1)` and `10 ^ k`, so
where `k + exponent` is far outside the range the answer is known without the power of ten. -/
def toBinary64 (d : Decimal) : Binary64 :=
  if d.coefficient = 0 then .zero d.negative
  else
    let magnitude : Int := (Text.ofNat d.coefficient).length + d.exponent
    if 400 < magnitude then .infinity d.negative
    else if magnitude < -400 then .zero d.negative
    else if 0 ≤ d.exponent then .ofRatio d.negative (d.coefficient * tenTo d.exponent.toNat) 1
    else .ofRatio d.negative d.coefficient (tenTo (-d.exponent).toNat)

end Decimal

/-- Reads a number: a decimal or one of the words. -/
def Binary64.read? (s : Text) : Option Binary64 :=
  let (negative, rest) := Text.takeSign s
  let word := Text.lowerAscii rest
  if word = "inf".toList ∨ word = "infinity".toList then some (.infinity negative)
  else if word = "nan".toList then some (.nan negative)
  else (Decimal.readUnsigned? negative rest).map Decimal.toBinary64

example : Binary64.read? "-1.5e1".toList = some (.ofInt (-15)) := by decide +kernel
example : [".5", "5.", "1e", "e1", ".", "+"].map (fun s => (Binary64.read? s.toList).isSome) =
    [true, true, false, false, false, false] := by decide +kernel

end CatchmentLint
