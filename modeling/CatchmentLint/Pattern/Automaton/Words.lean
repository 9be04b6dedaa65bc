import CatchmentLint.Pattern.Automaton.Extent

/-!
# CatchmentLint.Pattern.Automaton.Words

The states for an alternation of words, which is laid out as a tree: words share states as far as
they start alike.

1. Where words end, those before and those after them do not share what follows, so that a word
   that comes first stays first.  A word that ends where others only ended before changes nothing.
2. A place of the tree from which words go on is a fork that leads to a state for each stretch of
   words between two ends, and to the end of all words for each end between them.
3. A state has the ways of a stretch, which take room only if there are two or more.
-/

namespace CatchmentLint.Pattern.Automaton

/-- The stretches of words between those that have ended. -/
def stretches : List (List Nat) → List (List (List Nat))
  | [] => [[]]
  | [] :: words => [] :: stretches words
  | word :: words =>
    match stretches words with
    | [] => [[word]]
    | stretch :: rest => (word :: stretch) :: rest

/-- What the words that start with `byte` go on with. -/
def restsAfter (byte : Nat) (words : List (List Nat)) : List (List Nat) :=
  words.filterMap fun
    | first :: rest => if first = byte then some rest else none
    | [] => none

/-- The words where those that end at once before all others are one. -/
def joinEnds : List (List Nat) → List (List Nat)
  | [] :: words => [] :: words.dropWhile List.isEmpty
  | words => words

/-- The extent with the states of a place of the tree and of all places behind it, which are at
most `depth` bytes away. -/
def layPlace : (depth : Nat) → List (List Nat) → Extent → Extent
  | 0, _, extent => extent
  | depth + 1, words, extent =>
    if words.all List.isEmpty then extent
    else
      let parts := stretches (joinEnds words)
      let filled := parts.filter (!·.isEmpty)
      let forkWays := filled.length + (parts.length - 1)
      filled.foldl (fun extent part =>
        let bytes := (part.filterMap List.head?).eraseDups
        let ways := if bytes.length = 1 then 0 else 8 * bytes.length
        bytes.foldl (fun extent byte => layPlace depth (restsAfter byte part) extent)
          (extent.grow 1 ways)) (extent.grow 1 (4 * forkWays))

def words (words : List (List Nat)) : Step := fun extent =>
  let depth := (words.map List.length).foldl max 0
  (layPlace depth words (extent.grow 1 0)).checked?.map (·, false)

example : (words [[1, 2], [1, 3]] .empty).map (·.1) = some ⟨5, 24⟩ := by decide
example : (words [[1, 2], [1], [1, 2]] .empty).map (·.1) = some ⟨6, 16⟩ := by decide

end CatchmentLint.Pattern.Automaton
