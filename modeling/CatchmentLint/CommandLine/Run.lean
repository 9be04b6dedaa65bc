import CatchmentLint.CommandLine.Config
import CatchmentLint.CommandLine.Help
import CatchmentLint.Lint.Linter
import CatchmentLint.Schema.Default
import CatchmentLint.Schema.Reader

/-!
# CatchmentLint.CommandLine.Run

A run of the program, from its arguments to what it prints.

1. The schema is the one that is given, else the user's own if there is such a file, else the
   default one.
2. A run that checks once prints its report, and fails where the report has errors.
3. A run that watches must be able to read the model once; what follows is not part of this module.
4. Arguments that cannot be read end the run with the code 2, every other failure with 1.

The disk is seen through `Disk`, so that a run over a tree of files held in memory is a function.
-/

namespace CatchmentLint.CommandLine

/-- The files that a run reads, which may be those of a system or a tree in memory. -/
structure Disk (m : Type → Type) where
  /-- The text of a file, if it can be read. -/
  read? : Text → m (Option Text)
  isFile : Text → m Bool
  pathExists : Text → m Bool

/-! ## Outcomes -/

/-- What ends a run before it has checked anything, apart from its arguments. -/
inductive Failure where
  | config (e : ConfigError)
  | schema
  | unreadableModel (path : Text)
  | missingModel (path : Text)
  deriving DecidableEq, Repr

def Failure.message : Failure → Text
  | .config e => e.message
  | .schema => "Failed to load schema".toList
  | .unreadableModel path => "Failed to read model file: ".toList ++ path
  | .missingModel path => "Failed to resolve ".toList ++ path

/-- How a run ends.  A run that watches goes on with its settings, its schema and the first text of
the model. -/
inductive Outcome where
  | stopped (why : Stop)
  | failed (f : Failure)
  | reported (report : Text) (hasErrors : Bool)
  | watching (config : Config) (schema : Schema) (content : Text)

namespace Outcome

/-- The code that the process ends with. -/
def exitCode : Outcome → Nat
  | .stopped .help | .stopped .version => 0
  | .stopped _ => 2
  | .failed _ => 1
  | .reported _ hasErrors => if hasErrors then 1 else 0
  | .watching .. => 0

/-- What is printed, apart from the message of a failure. -/
def output : Outcome → Text
  | .stopped why => why.output
  | .reported report _ => report
  | _ => []

def failure? : Outcome → Option Failure
  | .failed f => some f
  | _ => none

end Outcome

/-! ## Running -/

section Running

variable {m : Type → Type} [Monad m]

/-- The schema in a file, which must be there. -/
def readSchema (disk : Disk m) (path : Text) : m (Except Schema.LoadError Schema) := do
  match ← disk.read? path with
  | some document => return Schema.read document
  | none => return .error .unreadable

/-- The schema that is given goes before the user's own, and that before the default one. -/
def loadSchema (disk : Disk m) (userSchema? given? : Option Text) :
    m (Except Schema.LoadError Schema) := do
  match given?, userSchema? with
  | some path, _ => readSchema disk path
  | none, some path => if ← disk.isFile path then readSchema disk path else return .ok .default
  | none, none => return .ok .default

/-- The paths that checking a model asks the disk for. -/
def inputPaths (base? : Option Text) (model : Model) : List Text :=
  match base? with
  | some base => model.inputs.map fun entry => Path.join base entry.text
  | none => []

/-- The issues of a document, checked by a new linter. -/
def check (disk : Disk m) (config : Config) (schema : Schema) (content : Text) :
    m (List Issue) := do
  let found ← (inputPaths config.baseDir (Model.read content)).filterM disk.pathExists
  return ((Linter.fresh schema).validate ⟨0, found.contains⟩ content config.baseDir).1

/-- Checks the model and reports on it, whether or not there are issues. -/
def runOnce (disk : Disk m) (config : Config) (schema : Schema) : m Outcome := do
  match ← disk.read? config.model with
  | none => return .failed (.unreadableModel config.model)
  | some content =>
    let issues ← check disk config schema content
    return .reported (Report.render config.form config.model issues) (issues.any Issue.isError)

/-- A model that is to be watched must be there, and be readable. -/
def startWatching (disk : Disk m) (config : Config) (schema : Schema) : m Outcome := do
  if ← disk.pathExists config.model then
    match ← disk.read? config.model with
    | none => return .failed (.unreadableModel config.model)
    | some content => return .watching config schema content
  else return .failed (.missingModel config.model)

/-- The schema is loaded before the model is looked for. -/
def runConfig (disk : Disk m) (userSchema? : Option Text) (config : Config) : m Outcome := do
  match ← loadSchema disk userSchema? config.schema with
  | .error _ => return .failed .schema
  | .ok schema =>
    if config.watch then startWatching disk config schema else runOnce disk config schema

/-- A run from its arguments to its end. -/
def run (disk : Disk m) (userSchema? : Option Text) (arguments : List Text) : m Outcome := do
  match Given.read arguments with
  | .error why => return .stopped why
  | .ok given =>
    match given.file with
    | none => return .stopped .missingFile
    | some model =>
      match Config.ofGiven model given with
      | .error e => return .failed (.config e)
      | .ok config => runConfig disk userSchema? config

end Running

end CatchmentLint.CommandLine
