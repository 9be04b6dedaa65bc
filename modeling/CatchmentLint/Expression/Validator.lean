import CatchmentLint.Expression.Cache
import CatchmentLint.Expression.Shortcut

/-!
# CatchmentLint.Expression.Validator

Checks expressions one after another.  What is found without a context depends on the text alone
and is kept in a cache; with a context the cache is neither read nor changed.
-/

namespace CatchmentLint.Expression

/-- The messages for an expression. -/
def messages (context : Context) (expression : Text) : List Text :=
  (checkTrimmed context (Text.trim expression)).map Diagnostic.message

/-- The messages for an expression, and the cache after it has been checked. -/
def validate (cache : Cache) (context : Context) (expression : Text) : List Text × Cache :=
  if context.isEmpty then
    match cache.get? (Text.trim expression) with
    | some found => (found, cache)
    | none =>
      let found := messages context expression
      (found, cache.insert (Text.trim expression) found)
  else (messages context expression, cache)

end CatchmentLint.Expression
