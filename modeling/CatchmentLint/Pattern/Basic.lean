import CatchmentLint.Pattern.Automaton.Basic
import CatchmentLint.Pattern.Meaning

/-!
# CatchmentLint.Pattern.Basic

A pattern that values are held against: the text of a pattern, put between `^(?:` and `)$` so that
it speaks of the whole value, and what it means.
-/

namespace CatchmentLint

/-- A pattern with its meaning. -/
structure Pattern where
  /-- The text with what was put around it. -/
  source : Text
  regex : Regex
  deriving DecidableEq, Repr

namespace Pattern

/-- The text as it is read; nothing is done to what stands in the middle. -/
def anchored (text : Text) : Text := "^(?:".toList ++ text ++ ")$".toList

/-- The pattern of a text, if the text between its anchors means one that does not grow too
large. -/
def compile? (text : Text) : Option Pattern := do
  let source := anchored text
  let ast ← Ast.read? source
  let (regex, _) ← ast.meaning? .initial
  if regex.layout.fits then some ⟨source, regex⟩ else none

/-- Whether the value has the form that the pattern asks for. -/
def accepts (pattern : Pattern) (value : Text) : Bool := pattern.regex.isFoundIn value

example : (compile? "a|b".toList).map (fun p => [p.accepts ['a'], p.accepts ['x', 'b']]) =
    some [true, false] := by decide +kernel

end Pattern

end CatchmentLint
