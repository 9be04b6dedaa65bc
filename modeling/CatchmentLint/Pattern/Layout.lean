import CatchmentLint.Pattern.Regex
import CatchmentLint.Pattern.Utf8

/-!
# CatchmentLint.Pattern.Layout

The normal form of a regular expression, which is what its automaton is laid out from.

1. A set of one character is that character, and characters that stand side by side are one word.
2. A sequence holds neither sequences nor what matches nothing only; an alternation holds no
   alternation.
3. An alternation of characters, or of sets, is a set.  In any other, what all branches start with
   stands before it, as far as that is whole items of sequences.
4. A repetition of what has no length takes at most one turn; one of exactly one turn is its body.
-/

namespace CatchmentLint.Pattern

/-- The normal form, with the codes of characters. -/
inductive Layout where
  | nothing
  | place (condition : Condition)
  | word (codes : List Nat)
  | set (ranges : CharRanges)
  | loop (min : Nat) (max : Option Nat) (lazy : Bool) (body : Layout)
  | capture (body : Layout)
  | sequence (items : List Layout)
  | choice (branches : List Layout)

namespace Layout

/-! ## Lengths -/

/-- How many bytes a character takes. -/
def formLength (code : Nat) : Nat := (Utf8.encode code).length

def wordLength (codes : List Nat) : Nat :=
  codes.foldl (fun length code => length + formLength code) 0

mutual

/-- The least number of bytes that is matched.  A set without characters has none. -/
def leastLength : Layout → Option Nat
  | .nothing | .place _ => some 0
  | .word codes => some (wordLength codes)
  | .set ranges => ranges.head?.map fun range => formLength range.1
  | .loop min _ _ body => body.leastLength.map (min * ·)
  | .capture body => body.leastLength
  | .sequence items => leastLengthAll items
  | .choice branches => leastLengthAny branches

/-- The least length of a sequence, if each of its items has one. -/
def leastLengthAll : List Layout → Option Nat
  | [] => some 0
  | item :: items => do return (← item.leastLength) + (← leastLengthAll items)

/-- The least length of a choice, the least of its branches. -/
def leastLengthAny : List Layout → Option Nat
  | [] => none
  | [branch] => branch.leastLength
  | branch :: branches => do return min (← branch.leastLength) (← leastLengthAny branches)

end

mutual

/-- The greatest number of bytes that is matched, if there is one. -/
def greatestLength : Layout → Option Nat
  | .nothing | .place _ => some 0
  | .word codes => some (wordLength codes)
  | .set ranges => ranges.getLast?.map fun range => formLength range.2
  | .loop _ max _ body => do return (← max) * (← body.greatestLength)
  | .capture body => body.greatestLength
  | .sequence items => greatestLengthAll items
  | .choice branches => greatestLengthAny branches

/-- The greatest length of a sequence, if there is one. -/
def greatestLengthAll : List Layout → Option Nat
  | [] => some 0
  | item :: items => do return (← item.greatestLength) + (← greatestLengthAll items)

/-- The greatest length of a choice, if there is one. -/
def greatestLengthAny : List Layout → Option Nat
  | [] => none
  | [branch] => branch.greatestLength
  | branch :: branches => do return max (← branch.greatestLength) (← greatestLengthAny branches)

end

/-- Whether only the empty stretch can be matched. -/
def hasNoLength (layout : Layout) : Bool := layout.greatestLength == some 0

/-! ## Sameness -/

mutual

/-- Whether two parts are written alike.  No capture is the same as another. -/
def same : Layout → Layout → Bool
  | .nothing, .nothing => true
  | .place a, .place b => a == b
  | .word a, .word b => a == b
  | .set a, .set b => a == b
  | .loop min max lazy a, .loop min' max' lazy' b =>
    min == min' && max == max' && lazy == lazy' && a.same b
  | .sequence a, .sequence b => sameAll a b
  | .choice a, .choice b => sameAll a b
  | _, _ => false

def sameAll : List Layout → List Layout → Bool
  | [], [] => true
  | a :: as, b :: bs => a.same b && sameAll as bs
  | _, _ => false

end

/-! ## Sets and repetitions -/

/-- A set of one character is that character. -/
def ofSet : CharRanges → Layout
  | [(lo, hi)] => if lo = hi then .word [lo] else .set [(lo, hi)]
  | ranges => .set ranges

/-- A repetition, or its body where that says the same. -/
def ofLoop (least : Nat) (greatest : Option Nat) (lazy : Bool) (body : Layout) : Layout :=
  let (least, greatest) :=
    if body.hasNoLength then (min least 1, some (min (greatest.getD 1) 1)) else (least, greatest)
  if least = 0 ∧ greatest = some 0 then .nothing
  else if least = 1 ∧ greatest = some 1 then body
  else .loop least greatest lazy body

/-! ## Sequences -/

/-- What a sequence is made of; any other layout is one item. -/
def items : Layout → List Layout
  | .nothing => []
  | .sequence items => items
  | layout => [layout]

/-- The items with words that stand side by side made one. -/
def joinWords : List Layout → List Layout
  | [] => []
  | .word codes :: rest =>
    match joinWords rest with
    | .word more :: rest => .word (codes ++ more) :: rest
    | rest => .word codes :: rest
  | item :: rest => item :: joinWords rest

/-- The items as one layout, without sequences in a sequence. -/
def ofItems (parts : List Layout) : Layout :=
  match joinWords (parts.flatMap items) with
  | [] => .nothing
  | [item] => item
  | items => .sequence items

/-! ## Alternations -/

/-- What a choice is made of; any other layout is one branch. -/
def branches : Layout → List Layout
  | .choice branches => branches
  | layout => [layout]

def character? : Layout → Option Nat
  | .word [code] => some code
  | _ => none

def ranges? : Layout → Option CharRanges
  | .set ranges => some ranges
  | _ => none

def sequence? : Layout → Option (List Layout)
  | .sequence items => some items
  | _ => none

/-- The alternation of some branches, with nothing put before it. -/
def gather (parts : List Layout) : Layout :=
  match parts.flatMap branches with
  | [] => .set []
  | [branch] => branch
  | branches =>
    match branches.mapM character? with
    | some codes => ofSet (.canonical (codes.map fun code => (code, code)))
    | none =>
      match branches.mapM ranges? with
      | some sets => ofSet (.canonical sets.flatten)
      | none => .choice branches

/-- How many items two sequences start with alike. -/
def sharedItems (a b : List Layout) : Nat := ((a.zip b).takeWhile fun (x, y) => x.same y).length

/-- Puts the items that all the sequences start with before the alternation of what is left. -/
def liftShared (first : List Layout) (others : List (List Layout)) : Layout :=
  let count := others.foldl (fun count items => min count (sharedItems first items)) first.length
  if count = 0 then .choice ((first :: others).map .sequence)
  else ofItems (first.take count ++ [gather ((first :: others).map fun items => ofItems (items.drop count))])

/-- The branches as one layout, without choices in a choice. -/
def ofBranches (parts : List Layout) : Layout :=
  match gather parts with
  | .choice branches =>
    match branches.mapM sequence? with
    | some (first :: others) => liftShared first others
    | _ => .choice branches
  | layout => layout

end Layout

/-! ## From regular expressions -/

end CatchmentLint.Pattern

namespace CatchmentLint.Regex

open Pattern

/-- Where a part of a regular expression stands: by itself, behind an item of a sequence, or behind
a branch of an alternation. -/
inductive Position where
  | alone
  | afterItem
  | afterBranch

/-- The parts that come where the expression stands: what follows in a sequence adds items to it,
and what follows in an alternation adds branches.  There is one part elsewhere. -/
def partsAt : Regex → Position → List Layout
  | .seq a b, position =>
    let parts := a.partsAt .alone ++ b.partsAt .afterItem
    match position with
    | .afterItem => parts
    | _ => [.ofItems parts]
  | .alt a b, position =>
    let parts := a.partsAt .alone ++ b.partsAt .afterBranch
    match position with
    | .afterBranch => parts
    | _ => [.ofBranches parts]
  | .set [], .afterBranch => []
  | .set ranges, _ => [.ofSet ranges]
  | .empty, _ => [.nothing]
  | .condition c, _ => [.place c]
  | .loop min max lazy body, _ => (body.partsAt .alone).map (.ofLoop min max lazy)
  | .capture body, _ => (body.partsAt .alone).map .capture

/-- The normal form of a regular expression. -/
def layout (r : Regex) : Layout := .ofItems (r.partsAt .alone)

end CatchmentLint.Regex
