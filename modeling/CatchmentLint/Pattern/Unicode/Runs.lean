import CatchmentLint.Binary64.Decimal
import CatchmentLint.Text.Basic

/-!
# CatchmentLint.Pattern.Unicode.Runs

Tables over all code points, written as runs.

1. A set is written as numbers: so many code points outside it, so many in it, and so on.
2. A property with values is written as pairs of a value and the length of its run; a value may
   name several things, with commas between them.
-/

namespace CatchmentLint.Unicode

/-- A value and the run of code points that have it. -/
structure ValueRun where
  value : Text
  lo : Nat
  hi : Nat

/-- The ranges of a set, from the lengths of its runs beginning at `start`. -/
def rangesFrom (start : Nat) : List Nat → CharRanges
  | skip :: take :: rest =>
    (start + skip, start + skip + take - 1) :: rangesFrom (start + skip + take) rest
  | _ => []

/-- The words of the lines of a table. -/
def words (lines : List String) : List Text :=
  lines.flatMap fun line => Text.splitOn ' ' line.toList

/-- Ranges out of lines of numbers. -/
def rangesOfRuns (lines : List String) : CharRanges :=
  rangesFrom 0 ((words lines).map Text.digitsToNat)

/-- Runs of values, one behind the other from a character on. -/
def valueRunsFrom (start : Nat) : List Text → List ValueRun
  | value :: length :: rest =>
    let next := start + Text.digitsToNat length
    ⟨value, start, next - 1⟩ :: valueRunsFrom next rest
  | _ => []

/-- Runs of values from the first character on. -/
def valueRuns (lines : List String) : List ValueRun := valueRunsFrom 0 (words lines)

/-- The code points whose value names one of `names`. -/
def runsWith (runs : List ValueRun) (names : List Text) : CharRanges :=
  (runs.filter fun run => (Text.splitOn ',' run.value).any names.contains).map fun run =>
    (run.lo, run.hi)

example : rangesOfRuns ["65 26", "6 26"] = [(65, 90), (97, 122)] := by decide

end CatchmentLint.Unicode
