import CatchmentLint.Pattern.Automaton.Bytes
import CatchmentLint.Pattern.Automaton.Words
import CatchmentLint.Pattern.Layout

/-!
# CatchmentLint.Pattern.Automaton.Basic

How large the automata of a pattern are, which read a text forward and backward byte by byte.
A pattern whose automaton in either direction takes more than `maxSize` bytes is refused.

1. Repetitions are written out: a body takes its states as often as it must or may be matched.
2. Forward, a capture takes a state at each of its ends, and so does the whole pattern.
3. An automaton that can start at any place of a text has a part before it that passes over bytes.
-/

namespace CatchmentLint.Pattern

/-! ## Anchors -/

/-- Whether one of the items holds the text's end fast: those that are looked at come first, with
whether they do and whether they have no length. -/
def isHeldFast : List (Bool × Bool) → Bool
  | [] => false
  | (isAnchored, hasNoLength) :: rest => isAnchored || (hasNoLength && isHeldFast rest)

def Automaton.Direction.inOrder {α : Type} : Automaton.Direction → List α → List α
  | .forward, items => items
  | .backward, items => items.reverse

/-- The place at which every text begins, in the direction of reading. -/
def Automaton.Direction.startPlace : Automaton.Direction → Condition
  | .forward => .textStart
  | .backward => .textEnd

namespace Layout

open Automaton (Direction Extent Step)

mutual

/-- Whether what is matched always begins where the text does. -/
def isAnchored (direction : Direction) : Layout → Bool
  | .place condition => condition == direction.startPlace
  | .loop min _ _ body => 0 < min && body.isAnchored direction
  | .capture body => body.isAnchored direction
  | .sequence items => isHeldFast (direction.inOrder (anchorsOf direction items))
  | .choice branches => !branches.isEmpty && areAnchored direction branches
  | .nothing | .word _ | .set _ => false

def anchorsOf (direction : Direction) : List Layout → List (Bool × Bool)
  | [] => []
  | item :: items => (item.isAnchored direction, item.hasNoLength) :: anchorsOf direction items

def areAnchored (direction : Direction) : List Layout → Bool
  | [] => true
  | branch :: branches => branch.isAnchored direction && areAnchored direction branches

end

/-! ## States -/

/-- The bytes of a word in the order in which they are read. -/
def wordBytes (direction : Direction) (codes : List Nat) : List Nat :=
  direction.inOrder (codes.flatMap Utf8.encode)

def word? : Layout → Option (List Nat)
  | .word codes => some codes
  | _ => none

mutual

/-- Adds the states of a part. -/
def lay (direction : Direction) : Layout → Step
  | .nothing => .states 1 0
  | .place _ => .states 1 0
  | .word codes => .states (wordLength codes) 0
  | .set ranges => Automaton.set direction ranges
  | .loop min max _ body =>
    let part := body.lay direction
    match min, max with
    | 0, none => .anyTurns (body.leastLength.all (· == 0)) part
    | min, none => .atLeastTurns min part
    | 0, some 1 => .optional part
    | min, some max => .boundedTurns min (max - min) part
  | .capture body =>
    let part := body.lay direction
    match direction with
    | .forward => .inSequence [.states 1 0, part, .states 1 0]
    | .backward => part
  | .sequence items => .inSequence (direction.inOrder (steps direction items))
  | .choice branches =>
    match branches.mapM word? with
    | some words => Automaton.words (words.map (wordBytes direction))
    | none => .inBranches (steps direction branches)

def steps (direction : Direction) : List Layout → List Step
  | [] => []
  | item :: items => item.lay direction :: steps direction items

end

/-- The states before the pattern: those that pass over any bytes, unless it is anchored. -/
def layStart (direction : Direction) (layout : Layout) : Step :=
  if layout.isAnchored direction then .states 1 0
  else .anyTurns false (.states 2 8)

/-- The whole automaton. -/
def layWhole (direction : Direction) (layout : Layout) : Step :=
  .inSequence [layout.layStart direction, (Layout.capture layout).lay direction, .states 1 0]

/-! ## A bound -/

mutual

/-- A size that no automaton of the part exceeds, the way on from its end included.  A range of
characters has 21 rows of at most 65 byte ranges, each of which takes at most a state and a way. -/
def sizeBound : Layout → Nat
  | .nothing | .place _ => 36
  | .word codes => 32 * wordLength codes + 4
  | .set ranges => if Automaton.isAscii ranges then 68 + 8 * ranges.length else 68 + 2684 * ranges.length
  | .loop min max _ body => (max.getD min + 1) * (body.sizeBound + 40) + 112
  | .capture body => body.sizeBound + 68
  | .sequence items => sizeBoundAll items
  | .choice branches => 3 * sizeBoundAll branches + 104

def sizeBoundAll : List Layout → Nat
  | [] => 0
  | item :: items => item.sizeBound + sizeBoundAll items

end

/-- Whether the automata of both directions are small enough. -/
def fits (layout : Layout) : Bool :=
  layout.sizeBound + 300 ≤ Automaton.maxSize ||
    [.forward, .backward].all fun direction => (layout.layWhole direction .empty).isSome

end Layout

end CatchmentLint.Pattern
