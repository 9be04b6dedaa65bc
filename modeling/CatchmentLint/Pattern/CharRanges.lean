import CatchmentLint.Pattern.Unicode.CaseFold

/-!
# CatchmentLint.Pattern.CharRanges

The algebra of the sets of characters that a pattern can name, as ascending ranges of code points.

1. The code points from `D800` to `DFFF` are no characters: `E000` is the character after `D7FF`.
2. Ranges that overlap or touch are joined where sets are put together.  A range up to `D7FF` and
   one from `E000` do not touch.
3. A complement holds the gaps between the ranges.  A gap has for its ends the character after one
   range and the character before the next, the lesser of the two first: where the ranges are
   those of the second rule, it is the gap from `D7FF` to `E000`, and holds both.
-/

namespace CatchmentLint.CharRanges

def maxCode : Nat := 0x10FFFF

def full : CharRanges := [(0, maxCode)]

/-- The one character with this code. -/
def single (code : Nat) : CharRanges := [(code, code)]

/-- The character after one that is not the last. -/
def nextCode (code : Nat) : Nat := if code = 0xD7FF then 0xE000 else code + 1

/-- The character before one that is not the first. -/
def prevCode (code : Nat) : Nat := if code = 0xE000 then 0xD7FF else code - 1

/-! ## Putting together -/

/-- Adds a range, which is joined with those that it overlaps or touches. -/
def add (lo hi : Nat) : CharRanges → CharRanges
  | [] => [(lo, hi)]
  | (lo', hi') :: rest =>
    if hi + 1 < lo' then (lo, hi) :: (lo', hi') :: rest
    else if hi' + 1 < lo then (lo', hi') :: add lo hi rest
    else add (min lo lo') (max hi hi') rest

/-- The set of any ranges, in any order. -/
def canonical (ranges : CharRanges) : CharRanges :=
  ranges.foldr (fun range => add range.1 range.2) []

def union (a b : CharRanges) : CharRanges := canonical (a ++ b)

example : canonical [(5, 7), (0, 1), (2, 3), (6, 9)] = [(0, 3), (5, 9)] := by decide
example : union [(0, 0xD7FF)] [(0xE000, 0xE000)] = [(0, 0xD7FF), (0xE000, 0xE000)] := by decide

/-! ## Taking away -/

/-- What lies from `lo` to `hi` and in one of the ranges. -/
def within (lo hi : Nat) (ranges : CharRanges) : CharRanges :=
  ranges.filterMap fun (lo', hi') =>
    if max lo lo' ≤ min hi hi' then some (max lo lo', min hi hi') else none

def inter (a b : CharRanges) : CharRanges := a.flatMap fun (lo, hi) => within lo hi b

/-- What lies from `lo` to `hi` and in none of the ranges. -/
def outside (lo hi : Nat) : CharRanges → CharRanges
  | [] => [(lo, hi)]
  | (lo', hi') :: rest =>
    if hi' < lo then outside lo hi rest
    else if hi < lo' then [(lo, hi)]
    else
      (if lo < lo' then [(lo, prevCode lo')] else []) ++
        if hi' < hi then outside (nextCode hi') hi rest else []

def diff (a b : CharRanges) : CharRanges := a.flatMap fun (lo, hi) => outside lo hi b

/-- The characters of one of the two, but not of both. -/
def symmDiff (a b : CharRanges) : CharRanges := diff (union a b) (inter a b)

example : diff [(0, 9), (20, 29)] [(3, 4), (8, 21)] = [(0, 2), (5, 7), (22, 29)] := by decide

/-! ## Complements -/

/-- The gaps after a range that ends in `hi`. -/
def gapsAfter (hi : Nat) : CharRanges → CharRanges
  | [] => if hi < maxCode then [(nextCode hi, maxCode)] else []
  | (lo', hi') :: rest =>
    let first := nextCode hi
    let last := prevCode lo'
    (min first last, max first last) :: gapsAfter hi' rest

/-- The characters that are left out. -/
def complement : CharRanges → CharRanges
  | [] => full
  | (lo, hi) :: rest => (if 0 < lo then [(0, prevCode lo)] else []) ++ gapsAfter hi rest

example : complement [(0x61, 0x7A)] = [(0, 0x60), (0x7B, maxCode)] := by decide
example : complement [(0, 0xD7FF), (0xE000, maxCode)] = [(0xD7FF, 0xE000)] := by decide

/-! ## Case -/

/-- The set with every character that differs in case only from one of its own. -/
def folded (ranges : CharRanges) : CharRanges :=
  canonical ((Unicode.caseVariants ranges.has).map (fun code => (code, code)) ++ ranges)

/-- The set with the other case of each of its ASCII letters. -/
def foldedAscii (ranges : CharRanges) : CharRanges :=
  let capitals := (List.range' 0x41 26).filter fun code => ranges.has (code + 32)
  let smalls := (List.range' 0x61 26).filter fun code => ranges.has (code - 32)
  canonical ((capitals ++ smalls).map (fun code => (code, code)) ++ ranges)

example : folded [(0x6A, 0x6B)] = [(0x4A, 0x4B), (0x6A, 0x6B), (0x212A, 0x212A)] := by
  decide +kernel
example : foldedAscii [(0x6A, 0x6B)] = [(0x4A, 0x4B), (0x6A, 0x6B)] := by decide

end CatchmentLint.CharRanges
