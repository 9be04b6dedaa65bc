import CatchmentLint.Text.Basic

/-!
# CatchmentLint.Expression.Cache

What has been found for expressions, under their texts.

A full cache takes no new text, but what it holds for a known text can be replaced.
-/

namespace CatchmentLint.Expression

/-- The messages of expressions that have been checked, as far as there is room for them. -/
structure Cache where
  capacity : Nat
  entries : List (Text × List Text)
  deriving Repr

namespace Cache

def defaultCapacity : Nat := 500

def empty (capacity : Nat) : Cache := ⟨capacity, []⟩

def size (c : Cache) : Nat := c.entries.length

/-- The messages of an expression that has been checked before. -/
def get? (c : Cache) (key : Text) : Option (List Text) := c.entries.lookup key

/-- The entries with the messages of a known key replaced. -/
def replace (key : Text) (messages : List Text) (entries : List (Text × List Text)) :
    List (Text × List Text) :=
  entries.map fun entry => if entry.1 = key then (key, messages) else entry

/-- Keeps the messages of an expression, unless the cache is full and does not know it yet. -/
def insert (key : Text) (messages : List Text) (c : Cache) : Cache :=
  if (c.get? key).isSome then { c with entries := replace key messages c.entries }
  else if c.size < c.capacity then { c with entries := c.entries ++ [(key, messages)] }
  else c

/-- Forgets all expressions. -/
def clear (c : Cache) : Cache := { c with entries := [] }

end Cache

end CatchmentLint.Expression
