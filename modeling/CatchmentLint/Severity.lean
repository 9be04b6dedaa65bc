import CatchmentLint.Text.Basic

/-!
# CatchmentLint.Severity

How grave a finding is.
-/

namespace CatchmentLint

/-- How grave an issue is. -/
inductive Severity where
  | error
  | warning
  deriving DecidableEq, Repr

namespace Severity

def toText : Severity → Text
  | .error => "error".toList
  | .warning => "warning".toList

/-- The severity that a schema names. -/
def ofText? (s : Text) : Option Severity :=
  if s = "error".toList then some .error
  else if s = "warning".toList then some .warning
  else none

/-- A severity is found again by its own name. -/
theorem ofText?_toText (s : Severity) : ofText? s.toText = some s := by cases s <;> rfl

end Severity

end CatchmentLint
