import CatchmentLint.Text.Basic

/-!
# CatchmentLint.Expression.Function

The functions of expressions and how many arguments they take.
-/

namespace CatchmentLint

/-- How many arguments a function takes. -/
inductive Arity where
  | exactly (count : Nat)
  /-- Two or more. -/
  | variadic
  deriving DecidableEq, Repr

namespace Arity

/-- Whether the function takes so many arguments. -/
def accepts (got : Nat) : Arity → Bool
  | .exactly count => count == got
  | .variadic => 2 ≤ got

/-- What is said of a call of `name` with a wrong number of arguments. -/
def mismatch (name : Text) (got : Nat) : Arity → Text
  | .exactly count =>
    "Function '".toList ++ name ++ "' expects ".toList ++ Text.ofNat count ++
      (if count = 1 then " argument, but got ".toList else " arguments, but got ".toList) ++
      Text.ofNat got
  | .variadic =>
    "Function '".toList ++ name ++ "' expects at least 2 arguments, but got ".toList ++
      Text.ofNat got

end Arity

namespace Function

/-- The functions of one argument. -/
def unaryNames : List Text :=
  ["abs", "sqrt", "sin", "cos", "tan", "asin", "acos", "atan", "sinh", "cosh", "tanh", "ln", "log",
    "log10", "exp", "ceil", "floor", "round"].map String.toList

/-- The functions of two arguments or more. -/
def variadicNames : List Text := ["max", "min", "sum", "mean"].map String.toList

/-- The arity of a function, whose name must be in small letters. -/
def arity? (name : Text) : Option Arity :=
  if name = "if".toList then some (.exactly 3)
  else if name = "pow".toList ∨ name = "atan2".toList then some (.exactly 2)
  else if variadicNames.contains name then some .variadic
  else if unaryNames.contains name then some (.exactly 1)
  else none

/-- The function that a common wrong name stands for. -/
def suggestion? (name : Text) : Option Text :=
  (table.lookup name).map String.toList
where
  table : List (Text × String) :=
    [("maximum", "max"), ("minimum", "min"), ("average", "mean"), ("square_root", "sqrt"),
      ("logarithm", "log"), ("power", "pow")].map fun (wrong, right) => (wrong.toList, right)

/-- What is said of a name that is no function, with the right one where the mistake is known. -/
def unknownMessage (name : Text) : Text :=
  "Unknown function: '".toList ++ name ++ "'".toList ++
    match suggestion? name with
    | some known => " (did you mean '".toList ++ known ++ "'?)".toList
    | none => []

end Function

end CatchmentLint
