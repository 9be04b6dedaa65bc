import CatchmentLint.Binary64.Decimal
import CatchmentLint.Toml.Value

/-!
# CatchmentLint.Toml.Scalar

Values written without quotes: booleans, numbers, dates and times.

1. An underscore may stand between two digits.
2. A decimal integer may have a sign and starts with a zero only where it is zero; `0x`, `0o` and
   `0b` write integers in other bases, without a sign.
3. A float has a fraction, an exponent or both, and digits on both sides of its point.
4. Written like a number, but none: a float that is too great for a finite number, an integer that
   fits 128 bits neither with a sign nor without, a base without digits, and a decimal integer with
   other characters behind one of its underscores, as long as each underscore has hexadecimal
   digits on both sides and no point, blank or `e` is among them.
5. A day must be one of the calendar; the seconds of a time may be left out.
-/

namespace CatchmentLint.Toml

/-! ## Numbers -/

/-- The digits of a text that holds digits, each two apart by one underscore at most. -/
def digitsOf? (isDigit : Char → Bool) : Text → Option Text
  | [] => none
  | [c] => if isDigit c then some [c] else none
  | c :: '_' :: s => if isDigit c then (digitsOf? isDigit s).map (c :: ·) else none
  | c :: s => if isDigit c then (digitsOf? isDigit s).map (c :: ·) else none

def digitValue (c : Char) : Nat :=
  if c.isDigit then c.toNat - '0'.toNat
  else if 'a' ≤ c then c.toNat - 'a'.toNat + 10
  else c.toNat - 'A'.toNat + 10

def isDigitOf (base : Nat) (c : Char) : Bool :=
  (c.isDigit || ('a' ≤ c && c ≤ 'f') || ('A' ≤ c && c ≤ 'F')) && digitValue c < base

def digitsToNat (base : Nat) (digits : Text) : Nat :=
  digits.foldl (fun n c => base * n + digitValue c) 0

/-- The value of an integer. -/
def ofInteger (i : Int) : Value :=
  if -(twoTo 127 : Int) ≤ i ∧ i < twoTo 128 then .integer i else .unrepresentable

/-- An integer in the base that its lead names. -/
def basedInteger? (base : Nat) (digits : Text) : Option Value :=
  if digits = [] then some .unrepresentable
  else (digitsOf? (isDigitOf base) digits).map fun digits => ofInteger (digitsToNat base digits)

/-- The digits of a whole part. -/
def wholeDigits? (s : Text) : Option Text :=
  match digitsOf? Char.isDigit s with
  | some ('0' :: _ :: _) => none
  | digits => digits

/-- Whether what stands behind an underscore may: nothing else is asked of the last such part. -/
def mayFollowUnderscore (isLast : Bool) (part : Text) : Bool :=
  part.head?.any (isDigitOf 16) && (isLast || part.getLast?.any (isDigitOf 16))

/-- Whether the parts between underscores may stand there. -/
def mayFollowUnderscores : List Text → Bool
  | [] => true
  | [part] => mayFollowUnderscore true part
  | part :: parts => mayFollowUnderscore false part && mayFollowUnderscores parts

/-- Whether a text without a sign is written like a decimal integer with underscores. -/
def resemblesInteger (s : Text) : Bool :=
  match Text.splitOn '_' s with
  | whole :: part :: parts =>
    whole.all Char.isDigit && whole.head?.any (· != '0') &&
      !s.any (fun c => c == '.' || c == 'e' || c == 'E' || c == ' ') &&
      mayFollowUnderscores (part :: parts)
  | _ => false

def decimalInteger? (s : Text) : Option Value :=
  let (negative, digits) := Text.takeSign s
  match wholeDigits? digits with
  | some digits =>
    some (ofInteger (if negative then -(Text.digitsToNat digits : Int) else Text.digitsToNat digits))
  | none => if resemblesInteger digits then some .unrepresentable else none

def integer? (s : Text) : Option Value :=
  match s with
  | '0' :: 'x' :: digits => basedInteger? 16 digits
  | '0' :: 'o' :: digits => basedInteger? 8 digits
  | '0' :: 'b' :: digits => basedInteger? 2 digits
  | _ => decimalInteger? s

def exponent? (s : Text) : Option Int :=
  let (negative, digits) := Text.takeSign s
  (digitsOf? Char.isDigit digits).map fun digits =>
    if negative then -(Text.digitsToNat digits : Int) else Text.digitsToNat digits

/-- Cuts at the letter of an exponent. -/
def cutExponent (s : Text) : Text × Option Text :=
  match s.dropWhile fun c => c != 'e' && c != 'E' with
  | _ :: exponent => (s.takeWhile fun c => c != 'e' && c != 'E', some exponent)
  | [] => (s, none)

def decimal? (s : Text) : Option Decimal := do
  let (negative, unsigned) := Text.takeSign s
  let (mantissa, exponentText) := cutExponent unsigned
  let exponent ← match exponentText with
    | some text => exponent? text
    | none => some 0
  match Text.cut? '.' mantissa with
  | some (whole, fraction) =>
    let whole ← wholeDigits? whole
    let fraction ← digitsOf? Char.isDigit fraction
    return ⟨negative, Text.digitsToNat (whole ++ fraction), exponent - fraction.length⟩
  | none =>
    if exponentText.isNone then none
    let whole ← wholeDigits? mantissa
    return ⟨negative, Text.digitsToNat whole, exponent⟩

def float? (s : Text) : Option Value :=
  let (negative, word) := Text.takeSign s
  if word = "inf".toList then some (.float (.infinity negative))
  else if word = "nan".toList then some (.float (.nan negative))
  else
    (decimal? s).map fun d =>
      match d.toBinary64 with
      | .infinity _ => .unrepresentable
      | x => .float x

/-! ## Dates and times -/

/-- A number of exactly `width` digits at the start of a text. -/
def fixed? (width : Nat) (s : Text) : Option (Nat × Text) :=
  let digits := s.take width
  if digits.length = width ∧ digits.all Char.isDigit then
    some (Text.digitsToNat digits, s.drop width)
  else none

def isLeapYear (year : Nat) : Bool := year % 4 == 0 && (year % 100 != 0 || year % 400 == 0)

def daysIn (year month : Nat) : Nat :=
  if month = 2 then (if isLeapYear year then 29 else 28)
  else if month = 4 ∨ month = 6 ∨ month = 9 ∨ month = 11 then 30
  else 31

/-- The text after a date. -/
def afterDate? (s : Text) : Option Text := do
  let (year, s) ← fixed? 4 s
  let s ← Text.dropLead? ['-'] s
  let (month, s) ← fixed? 2 s
  let s ← Text.dropLead? ['-'] s
  let (day, s) ← fixed? 2 s
  if 1 ≤ month ∧ month ≤ 12 ∧ 1 ≤ day ∧ day ≤ daysIn year month then some s else none

/-- The text after the fraction of a second, if there is one. -/
def afterFraction? : Text → Option Text
  | '.' :: c :: s => if c.isDigit then some (s.dropWhile Char.isDigit) else none
  | '.' :: [] => none
  | s => some s

/-- The text after a time. -/
def afterTime? (s : Text) : Option Text := do
  let (hour, s) ← fixed? 2 s
  let s ← Text.dropLead? [':'] s
  let (minute, s) ← fixed? 2 s
  if 23 < hour ∨ 59 < minute then none
  match s with
  | ':' :: s =>
    let (second, s) ← fixed? 2 s
    if 60 < second then none
    afterFraction? s
  | s => some s

/-- Whether the text is nothing or the offset of a time from universal time. -/
def isOffset (s : Text) : Bool :=
  match s with
  | [] => true
  | ['Z'] | ['z'] => true
  | c :: s =>
    (c == '+' || c == '-') &&
      match fixed? 2 s with
      | some (hour, ':' :: s) =>
        match fixed? 2 s with
        | some (minute, []) => hour ≤ 23 && minute ≤ 59
        | _ => false
      | _ => false

def isMoment (s : Text) : Bool :=
  (afterTime? s == some []) ||
    match afterDate? s with
    | some [] => true
    | some (c :: time) =>
      (c == 'T' || c == 't' || c == ' ') && ((afterTime? time).map isOffset).getD false
    | none => false

/-! ## Any of them -/

def scalar? (s : Text) : Option Value :=
  if s = "true".toList then some (.boolean true)
  else if s = "false".toList then some (.boolean false)
  else
    match integer? s with
    | some v => some v
    | none =>
      match float? s with
      | some v => some v
      | none => if isMoment s then some .moment else none

/-- A number that is written in hexadecimal digits alone. -/
def hexToNat? (digits : Text) : Option Nat :=
  if digits ≠ [] ∧ digits.all (isDigitOf 16) then some (digitsToNat 16 digits) else none

example : (["1_0", "1_a:b", "1_x", "0x", "1e9999"].map fun s => (scalar? s.toList).map Value.isReadable) =
    [some true, some false, none, some false, some false] := by decide +kernel

end CatchmentLint.Toml
