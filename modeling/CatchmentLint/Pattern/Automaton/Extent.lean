import CatchmentLint.Text.Basic

/-!
# CatchmentLint.Pattern.Automaton.Extent

How far an automaton extends, and steps that extend it.

1. A state takes 32 bytes.  A way that leads on from a fork takes 4 bytes more, and one that leads
   on from a state with ways for several bytes takes 8.
2. A state is known by the number of states before it.
3. A step adds a part behind what is there and says whether the part ends in a fork, since the
   way on from its end takes room only then.  It fails where the whole grows beyond `maxSize`.
-/

namespace CatchmentLint.Pattern.Automaton

structure Extent where
  states : Nat
  /-- The bytes that the ways take. -/
  ways : Nat
  deriving DecidableEq, Repr

def maxSize : Nat := 10485760

namespace Extent

def empty : Extent := ⟨0, 0⟩

def size (extent : Extent) : Nat := 32 * extent.states + extent.ways

/-- The extent with more states and ways. -/
def grow (extent : Extent) (states ways : Nat) : Extent :=
  ⟨extent.states + states, extent.ways + ways⟩

def checked? (extent : Extent) : Option Extent :=
  if extent.size ≤ maxSize then some extent else none

/-- The extent with the way on from an end. -/
def link (extent : Extent) (fork : Bool) : Extent := if fork then extent.grow 0 4 else extent

end Extent

/-- Adds a part, and says whether it ends in a fork. -/
abbrev Step := Extent → Option (Extent × Bool)

namespace Step

/-- Some states with their ways, the last of which is no fork. -/
def states (count ways : Nat) : Step := fun extent =>
  (extent.grow count ways).checked?.map (·, false)

/-- One part, and another from its end on. -/
def andThen (first second : Step) : Step := fun extent => do
  let (extent, fork) ← first extent
  let (extent, fork') ← second extent
  return (extent.link fork, fork')

/-- Parts one after the other; a state where there is none. -/
def inSequence : List Step → Step
  | [] => states 1 0
  | [part] => part
  | part :: parts => part.andThen (inSequence parts)

/-! ## Turns -/

/-- More turns from an end on. -/
def turnsFrom (part : Step) : (count : Nat) → Extent × Bool → Option (Extent × Bool)
  | 0, reached => some reached
  | count + 1, (extent, fork) =>
    match part extent with
    | none => none
    | some (extent, fork') => turnsFrom part count (extent.link fork, fork')

/-- Exactly so many turns. -/
def turns (count : Nat) (part : Step) : Step := fun extent =>
  match count with
  | 0 => states 1 0 extent
  | count + 1 => (part extent).bind (turnsFrom part count)

/-- More turns from an end on, before each of which a fork leads to one state behind them. -/
def optionalTurnsFrom (part : Step) : (count : Nat) → Extent × Bool → Option (Extent × Bool)
  | 0, reached => some reached
  | count + 1, (extent, fork) =>
    match part (extent.grow 1 8) with
    | none => none
    | some (extent, fork') => optionalTurnsFrom part count (extent.link fork, fork')

/-- At least `least` and at most `least + more` turns. -/
def boundedTurns (least more : Nat) (part : Step) : Step := fun extent => do
  let (extent, fork) ← turns least part extent
  if more = 0 then return (extent, fork)
  let (extent, fork) ← optionalTurnsFrom part more (extent.grow 1 0, fork)
  return ((← (extent.link fork).checked?), false)

/-- One turn or none. -/
def optional (part : Step) : Step := fun extent => do
  let (extent, fork) ← part (extent.grow 1 0)
  return ((← ((extent.grow 1 8).link fork).checked?), false)

/-- Any number of turns.  A part that can match nothing needs a way past it of its own. -/
def anyTurns (matchesNothing : Bool) (part : Step) : Step := fun extent =>
  if matchesNothing then do
    let (extent, fork) ← part extent
    return ((← ((extent.grow 3 16).link fork).checked?), false)
  else do
    let (extent, fork) ← part (extent.grow 1 0)
    return ((← ((extent.grow 0 4).link fork).checked?), true)

/-- At least so many turns, and one at the least. -/
def atLeastTurns (count : Nat) (part : Step) : Step := fun extent => do
  let (extent, fork) ← turns count part extent
  return ((← ((extent.grow 1 4).link fork).checked?), true)

/-! ## Branches -/

/-- The first two branches come before the fork that leads to them. -/
def inBranches : List Step → Step
  | [] => states 1 0
  | [branch] => branch
  | first :: second :: others => fun extent => do
    let (extent, fork) ← first extent
    let (extent, fork') ← second extent
    let extent ← others.foldlM (fun extent branch => do
      let (extent, fork) ← branch extent
      return (extent.grow 0 4).link fork) (((extent.grow 2 8).link fork).link fork')
    return ((← extent.checked?), false)

example : (boundedTurns 2 3 (states 1 0) .empty).map (·.1.size) = some 312 := by decide
example : (inBranches [states 1 0, atLeastTurns 1 (states 1 0)] .empty).map (·.1.size) =
    some (32 * 5 + 16) := by decide

end Step

end CatchmentLint.Pattern.Automaton
