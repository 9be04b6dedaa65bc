import CatchmentLint.Pattern.CharRanges

/-!
# CatchmentLint.Pattern.Utf8

The UTF-8 forms of a range of characters, as rows of byte ranges: a row stands for every form that
takes a byte from each of its ranges in turn.

1. A range is cut where the length of the forms changes and where the surrogates are.
2. Where forms have several bytes, it is cut further at blocks of 64, 4096 and 262144 characters,
   until each piece holds every form that its row stands for.  The rows come in ascending order.
-/

namespace CatchmentLint.Pattern.Utf8

/-- The bytes of the form of a code point. -/
def encode (code : Nat) : List Nat :=
  let tail (n : Nat) : Nat := 0x80 + n % 64
  if code < 0x80 then [code]
  else if code < 0x800 then [0xC0 + code / 64, tail code]
  else if code < 0x10000 then [0xE0 + code / 4096, tail (code / 64), tail code]
  else [0xF0 + code / 262144, tail (code / 4096), tail (code / 64), tail code]

/-- The characters whose forms are equally long, those around the surrogates apart. -/
def equallyLong : CharRanges :=
  [(0, 0x7F), (0x80, 0x7FF), (0x800, 0xD7FF), (0xE000, 0xFFFF), (0x10000, 0x10FFFF)]

/-- Cuts a range at the ends of the blocks of each size: the part before the first whole block,
the whole blocks, and the part after the last. -/
def cutAtBlocks : (sizes : List Nat) → (lo hi : Nat) → CharRanges
  | [], lo, hi => [(lo, hi)]
  | size :: sizes, lo, hi =>
    if lo / size = hi / size then [(lo, hi)]
    else
      let first := (lo + size - 1) / size * size
      let last := (hi + 1) / size * size
      (if lo < first then [(lo, first - 1)] else []) ++
        (if first < last then cutAtBlocks sizes first (last - 1) else []) ++
        if last ≤ hi then [(last, hi)] else []

/-- A byte range of a row. -/
abbrev ByteRange := Nat × Nat

def rows (lo hi : Nat) : List (List ByteRange) :=
  (CharRanges.within lo hi equallyLong).flatMap fun (lo, hi) =>
    let sizes := if hi < 0x80 then [] else [64, 4096, 262144]
    (cutAtBlocks sizes lo hi).map fun (lo, hi) => (encode lo).zip (encode hi)

example : encode 'é'.toNat = [0xC3, 0xA9] := by decide
example : rows 0x3C 0xE9 =
    [[(0x3C, 0x7F)], [(0xC2, 0xC2), (0x80, 0xBF)], [(0xC3, 0xC3), (0x80, 0xA9)]] := by decide
example : (rows 0 0x10FFFF).length = 9 := by decide

end CatchmentLint.Pattern.Utf8
