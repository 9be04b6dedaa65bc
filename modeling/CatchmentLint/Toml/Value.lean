import CatchmentLint.Binary64.Basic
import CatchmentLint.Text.Basic

/-!
# CatchmentLint.Toml.Value

The values of a TOML 1.1 document.

1. Dates and times are told apart from other values but from one another they are not: nothing here
   asks when they are.
2. A number that is written like one but that no kind of number holds is a value of its own.  It
   harms only who reads it.
-/

namespace CatchmentLint.Toml

/-- A value with all that stands in it. -/
inductive Value where
  | string (s : Text)
  | integer (i : Int)
  | float (x : Binary64)
  | boolean (b : Bool)
  | moment
  | unrepresentable
  | array (items : List Value)
  | table (entries : List (Text × Value))
  deriving Repr

namespace Value

mutual

/-- Whether every number in the value is one. -/
def isReadable : Value → Bool
  | .unrepresentable => false
  | .array items => areReadable items
  | .table entries => entriesAreReadable entries
  | _ => true

def areReadable : List Value → Bool
  | [] => true
  | item :: items => item.isReadable && areReadable items

def entriesAreReadable : List (Text × Value) → Bool
  | [] => true
  | (_, v) :: entries => v.isReadable && entriesAreReadable entries

end

end Value

end CatchmentLint.Toml
