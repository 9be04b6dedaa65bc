import CatchmentLint.Text.Basic

/-!
# CatchmentLint.Pattern.Regex

Regular expressions over characters, with conditions on the places between them, and a matcher.

1. A regular expression matches a stretch of a text; whether a place condition holds depends on
   the characters on both sides of the place.
2. `steps c r` holds what is left of `r` to match after the character `c`: `r` matches `c :: s`
   at a place exactly when one of the steps matches `s` at the next place.
3. A repetition of a body that matches nothing at a place may spend turns there, so it is left
   with any number of turns below its greatest.
-/

namespace CatchmentLint

/-! ## Places -/

/-- What a place between two characters must be like. -/
inductive Condition where
  | textStart
  | textEnd
  | lineStart (crlf : Bool)
  | lineEnd (crlf : Bool)
  | wordBoundary (letters : CharRanges)
  | notWordBoundary (letters : CharRanges)
  | wordStart (letters : CharRanges)
  | wordEnd (letters : CharRanges)
  | wordStartHalf (letters : CharRanges)
  | wordEndHalf (letters : CharRanges)
  deriving DecidableEq, Repr

/-- A place: the characters before and after it. -/
structure Between where
  before : Option Char
  after : Option Char

namespace Condition

def within (set : CharRanges) (c : Option Char) : Bool := c.any set.contains

def holds (place : Between) : Condition → Bool
  | .textStart => place.before.isNone
  | .textEnd => place.after.isNone
  | .lineStart false => place.before.isNone || place.before == some '\n'
  | .lineStart true =>
    place.before.isNone || place.before == some '\n' ||
      (place.before == some '\r' && place.after != some '\n')
  | .lineEnd false => place.after.isNone || place.after == some '\n'
  | .lineEnd true =>
    place.after.isNone || place.after == some '\r' ||
      (place.after == some '\n' && place.before != some '\r')
  | .wordBoundary letters => within letters place.before != within letters place.after
  | .notWordBoundary letters => within letters place.before == within letters place.after
  | .wordStart letters => !within letters place.before && within letters place.after
  | .wordEnd letters => within letters place.before && !within letters place.after
  | .wordStartHalf letters => !within letters place.before
  | .wordEndHalf letters => !within letters place.after

end Condition

/-! ## Regular expressions -/

inductive Regex where
  | empty
  | condition (c : Condition)
  | set (s : CharRanges)
  | seq (a b : Regex)
  /-- One of two.  The branches of an alternation end in a set without characters. -/
  | alt (a b : Regex)
  /-- At least `min` turns, and at most `max` where there is one; fewer are preferred if it is
  `lazy`, which is of no account for what is matched. -/
  | loop (min : Nat) (max : Option Nat) (lazy : Bool) (body : Regex)
  /-- A part that could be asked for by its number or name. -/
  | capture (body : Regex)
  deriving DecidableEq, Repr

namespace Regex

/-- The sequence, without the steps that match nothing. -/
def andThen (a b : Regex) : Regex := if a = .empty then b else .seq a b

/-- Whether the empty stretch at `place` is matched. -/
def matchesNothing (place : Between) : Regex → Bool
  | .empty => true
  | .condition c => c.holds place
  | .set _ => false
  | .seq a b => a.matchesNothing place && b.matchesNothing place
  | .alt a b => a.matchesNothing place || b.matchesNothing place
  | .loop min _ _ body => min == 0 || body.matchesNothing place
  | .capture body => body.matchesNothing place

/-- What is left to match after `c`, which stands after `place`. -/
def steps (place : Between) (c : Char) : Regex → List Regex
  | .empty => []
  | .condition _ => []
  | .set s => if s.contains c then [.empty] else []
  | .seq a b =>
    (a.steps place c).map (·.andThen b) ++
      if a.matchesNothing place then b.steps place c else []
  | .alt a b => a.steps place c ++ b.steps place c
  | .loop min max lazy body =>
    match max with
    | some 0 => []
    | _ =>
      let left := if body.matchesNothing place then 0 else min - 1
      (body.steps place c).map (·.andThen (.loop left (max.map (· - 1)) lazy body))
  | .capture body => body.steps place c

/-- Whether a stretch from here on, or from a later place on, is matched by `start`, or one from
here on by one of `open`. -/
def foundFrom (start : Regex) (before : Option Char) (pending : List Regex) : Text → Bool
  | [] => (start :: pending).any (·.matchesNothing ⟨before, none⟩)
  | c :: s =>
    let place : Between := ⟨before, some c⟩
    let tried := start :: pending
    tried.any (·.matchesNothing place) ||
      foundFrom start (some c) ((tried.flatMap (·.steps place c)).eraseDups) s

/-- Whether some stretch of the text is matched. -/
def isFoundIn (r : Regex) (s : Text) : Bool := foundFrom r none [] s

end Regex

end CatchmentLint
