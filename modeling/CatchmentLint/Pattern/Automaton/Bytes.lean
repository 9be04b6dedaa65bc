import CatchmentLint.Pattern.Automaton.Extent
import CatchmentLint.Pattern.Utf8
import Std.Data.HashMap

/-!
# CatchmentLint.Pattern.Automaton.Bytes

The states for a set of characters, which is matched byte by byte.

1. ASCII characters need one state with a way for each range.
2. Forward, the rows of the other sets share states as far as they start alike, and states with
   the same ways are laid out once: a row is taken up as soon as the next one leaves it.
3. Backward, a fork leads to the last byte of each row, and rows share states as far as they start
   alike.
4. Which states are there already is looked up in a table of limited size, in which a state takes
   the slot that its ways hash to from the state that had it before.  So a state may be laid out
   again, and how often depends on the numbers of the states.
-/

namespace CatchmentLint.Pattern.Automaton

open Utf8 (ByteRange)

/-! ## Tables -/

/-- Folds a list of numbers below `2 ^ 32` into one hash (FNV-1a over 64 bits). -/
def hashOf (numbers : List Nat) : UInt64 :=
  numbers.foldl (fun hash n => (hash ^^^ n.toUInt64) * 1099511628211) 14695981039346656037

/-- The states that can be found again: a slot holds what is asked for and the state's number. -/
structure Table where
  slots : Std.HashMap Nat (List Nat × Nat)
  capacity : Nat

namespace Table

def empty (capacity : Nat) : Table := ⟨∅, capacity⟩

def slot (table : Table) (key : List Nat) : Nat := (hashOf key).toNat % table.capacity

/-- The state that is kept under a key, if it has not been overwritten. -/
def find? (table : Table) (key : List Nat) : Option Nat :=
  match table.slots[table.slot key]? with
  | some (key', state) => if key' = key then some state else none
  | none => none

/-- Keeps a state under a key, in place of what its slot holds. -/
def insert (table : Table) (key : List Nat) (state : Nat) : Table :=
  { table with slots := table.slots.insert (table.slot key) (key, state) }

end Table

/-- What has been laid out, and which of its states can be found again. -/
structure Laid where
  extent : Extent
  table : Table

namespace Laid

/-- The state for `key`, which has so many bytes of ways if it is new. -/
def state (laid : Laid) (key : List Nat) (ways : Nat) : Nat × Laid :=
  match laid.table.find? key with
  | some state => (state, laid)
  | none =>
    let state := laid.extent.states
    (state, ⟨laid.extent.grow 1 ways, laid.table.insert key state⟩)

end Laid

/-! ## Forward -/

/-- A state that is not laid out yet: the ways that are known (the latest first), each with the
number of the state that it leads to, and the bytes of its last way. -/
structure Pending where
  known : List (ByteRange × Nat)
  last : ByteRange

namespace Pending

/-- The state with its last way closed. -/
def lay (pending : Pending) (next : Nat) (laid : Laid) : Nat × Laid :=
  let ways := ((pending.last, next) :: pending.known).reverse
  laid.state (ways.flatMap fun ((lo, hi), next) => [lo, hi, next]) (8 * ways.length)

/-- The states of a row, from its end at `target`. -/
def layAll (target : Nat) : List Pending → Laid → Nat × Laid
  | [], laid => (target, laid)
  | pending :: rest, laid =>
    let (next, laid) := layAll target rest laid
    pending.lay next laid

/-- Takes up a row after the pending one, of which what it does not share is laid out. -/
def addRow (target : Nat) : List Pending → List ByteRange → Laid → List Pending × Laid
  | pending :: rest, bytes :: row, laid =>
    if pending.last = bytes then
      let (rest, laid) := addRow target rest row laid
      (pending :: rest, laid)
    else
      let (next, laid) := layAll target rest laid
      (⟨(pending.last, next) :: pending.known, bytes⟩ :: row.map (⟨[], ·⟩), laid)
  | _, row, laid => (row.map (⟨[], ·⟩), laid)

end Pending

def layForward (rows : List (List ByteRange)) (extent : Extent) : Extent :=
  let target := extent.states
  let (pending, laid) := rows.foldl
    (fun (pending, laid) row => Pending.addRow target pending row laid)
    ([], ⟨extent.grow 1 0, .empty 10000⟩)
  (Pending.layAll target pending laid).2.extent

/-! ## Backward -/

/-- A row from its first byte on, which is matched last. -/
def layRowBackward (laid : Laid) (target : Nat) (row : List ByteRange) : Laid :=
  let (_, laid) := row.foldl
    (fun (next, laid) (lo, hi) => laid.state [next, lo, hi] 0) (target, laid)
  { laid with extent := laid.extent.grow 0 4 }

def layBackward (rows : List (List ByteRange)) (extent : Extent) : Extent :=
  let target := extent.states + 1
  (rows.foldl (layRowBackward · target ·) ⟨extent.grow 2 0, .empty 1000⟩).extent

/-! ## Sets -/

inductive Direction where
  | forward
  | backward
  deriving DecidableEq, Repr

/-- No character beyond the ASCII ones, so each is a byte of its own. -/
def isAscii (ranges : CharRanges) : Bool := ranges.all fun range => range.2 < 0x80

def set (direction : Direction) (ranges : CharRanges) : Step := fun extent =>
  if isAscii ranges then Step.states 2 (8 * ranges.length) extent
  else
    let rows := ranges.flatMap fun (lo, hi) => Utf8.rows lo hi
    let extent :=
      match direction with
      | .forward => layForward rows extent
      | .backward => layBackward rows extent
    extent.checked?.map (·, false)

end CatchmentLint.Pattern.Automaton
