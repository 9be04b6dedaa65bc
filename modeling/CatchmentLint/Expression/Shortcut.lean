import CatchmentLint.Expression.Check
import CatchmentLint.Pattern.Unicode.Digit

/-!
# CatchmentLint.Expression.Shortcut

Expressions that are one operand and nothing else, which need no walk.

1. A number with an optional minus: digits of any script, with an optional fraction and exponent.
2. A reference to data or a constant whose segments are names, to a node with two names, or to
   `this` with one.  References to data and nodes may end in brackets with anything but a line
   feed in them.
3. A simulation variable.
-/

namespace CatchmentLint.Expression

/-! ## Numbers -/

/-- What is left after one digit or more. -/
def afterDigits? (s : Text) : Option Text :=
  match s with
  | c :: rest => if Unicode.isDigit c then some (rest.dropWhile Unicode.isDigit) else none
  | [] => none

/-- What stands behind a fraction, if there is one. -/
def afterFraction? : Text → Option Text
  | '.' :: s => afterDigits? s
  | s => some s

/-- What stands behind an exponent, if there is one. -/
def afterExponent? : Text → Option Text
  | c :: s =>
    if c = 'e' ∨ c = 'E' then
      match s with
      | '+' :: digits | '-' :: digits => afterDigits? digits
      | digits => afterDigits? digits
    else some (c :: s)
  | [] => some []

/-- Whether the text is a number and nothing else. -/
def isPlainNumber (s : Text) : Bool :=
  ((afterDigits? ((Text.dropLead? ['-'] s).getD s)).bind afterFraction?).bind afterExponent? ==
    some []

/-! ## References -/

/-- A name of ASCII letters, digits and `_`, not opened by a digit. -/
def isName : Text → Bool
  | c :: s => Token.isWordStart c && s.all Token.isWordChar
  | [] => false

/-- Cuts the reference at its first bracket; the clause from there on must close at the end of the
text and hold no line feed. -/
def cutBrackets? (s : Text) : Option Text :=
  match Text.cut? '[' s with
  | none => some s
  | some (body, inner) =>
    if inner.getLast? = some ']' ∧ '\n' ∉ inner then some body else none

/-- The segments after the first one, which must be `lead`. -/
def segmentsAfter? (lead : String) (s : Text) : Option (List Text) :=
  (Text.dropLead? (lead.toList ++ ['.']) s).map (Text.splitOn '.')

/-- Whether the text is a reference to data and nothing else. -/
def isDataReference (s : Text) : Bool :=
  ((cutBrackets? s).bind (segmentsAfter? "data")).any (·.all isName)

def isConstantReference (s : Text) : Bool := (segmentsAfter? "c" s).any (·.all isName)

/-- Whether the text is a reference to an output of a node and nothing else. -/
def isNodeReference (s : Text) : Bool :=
  ((cutBrackets? s).bind (segmentsAfter? "node")).any fun names =>
    names.length == 2 && names.all isName

/-- Whether the text is a reference to an output of the node itself and nothing else. -/
def isThisReference (s : Text) : Bool :=
  ((cutBrackets? s).bind (segmentsAfter? "this")).any fun names =>
    names.length == 1 && names.all isName

/-! ## Whole expressions -/

/-- The findings for an expression without blanks around it. -/
def checkTrimmed (context : Context) (expression : Text) : List Diagnostic :=
  if expression = [] then [.emptyExpression]
  else if isPlainNumber expression || isDataReference expression ||
      isConstantReference expression then []
  else if isNodeReference expression then
    ((Reference.nodeProblem? context expression).map Diagnostic.reference).toList
  else if isThisReference expression then
    ((Reference.thisProblem? context expression).map Diagnostic.reference).toList
  else if Reference.knownVariables.contains expression then []
  else check context expression

end CatchmentLint.Expression
