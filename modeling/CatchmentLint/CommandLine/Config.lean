import CatchmentLint.CommandLine.Arguments
import CatchmentLint.Files.Path

/-!
# CatchmentLint.CommandLine.Config

The settings of a run: what the arguments give, and what holds where they give nothing.

The input files of a model lie in the directory of the model where no other is given.
-/

namespace CatchmentLint.CommandLine

/-- The settings of a run. -/
structure Config where
  model : Text
  schema : Option Text
  baseDir : Option Text
  watch : Bool
  debounce : Nat
  timeout : Nat
  form : Report.Form
  logLevel : Text
  deriving DecidableEq, Repr

/-- What is wrong with settings that each can be read. -/
inductive ConfigError where
  | zeroTimeout
  deriving DecidableEq, Repr

def ConfigError.message : ConfigError → Text
  | .zeroTimeout => "--timeout-ms must be greater than zero".toList

namespace Config

/-- The settings where no argument is given. -/
def default : Config :=
  { model := []
    schema := none
    baseDir := none
    watch := false
    debounce := 300
    timeout := 5000
    form := .lines
    logLevel := "info".toList }

/-- The directory of a model, which is the current one for a mere name. -/
def directoryOf? (model : Text) : Option Text :=
  (Path.directory? model).map fun directory => if directory.isEmpty then ['.'] else directory

/-- The settings for a model. -/
def ofGiven (model : Text) (g : Given) : Except ConfigError Config :=
  if g.timeout = some 0 then .error .zeroTimeout
  else
    .ok
      { model
        schema := g.schema
        baseDir := g.baseDir <|> directoryOf? model
        watch := g.watch
        debounce := g.debounce.getD default.debounce
        timeout := g.timeout.getD default.timeout
        form := g.form.getD default.form
        logLevel := g.logLevel.getD default.logLevel }

end Config

end CatchmentLint.CommandLine
