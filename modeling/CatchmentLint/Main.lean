import CatchmentLint.CommandLine.Run

/-!
# CatchmentLint.Main

The program on a real disk: arguments in, text and an exit code out.
-/

namespace CatchmentLint.CommandLine

/-! ## The disk -/

/-- What an action gives, if it does not fail. -/
def attempt {α : Type} (action : IO α) : IO (Option α) := do
  try return some (← action) catch _ => return none

/-- The files of the system that the program runs on. -/
def fileSystem : Disk IO where
  read? path := do return (← attempt (IO.FS.readFile (String.ofList path))).map String.toList
  isFile path := do return (← attempt (IO.FS.readBinFile (String.ofList path))).isSome
  pathExists path := do return (← attempt (IO.FS.realPath (String.ofList path))).isSome

/-- The directory for the settings of the user. -/
def settingsDirectory? : IO (Option Text) := do
  match (← IO.getEnv "XDG_CONFIG_HOME").map String.toList with
  | some ('/' :: directory) => return some ('/' :: directory)
  | _ => return (← IO.getEnv "HOME").map fun home => Path.join home.toList ".config".toList

/-- The place of the user's own schema, whether or not there is one. -/
def userSchema? : IO (Option Text) := do
  return (← settingsDirectory?).map fun directory =>
    Path.join directory "kalix-lint/schema.toml".toList

/-! ## Watching -/

/-- The text of the model once it has stayed the same for the quiet period. -/
partial def quietText (config : Config) (content : Text) : IO Text := do
  IO.sleep config.debounce.toUInt32
  match ← fileSystem.read? config.model with
  | none => return content
  | some next => if next = content then return content else quietText config next

/-- Prints a report for `content`, and for every text that the model has from then on. -/
partial def watch (config : Config) (schema : Schema) (content : Text) : IO Unit := do
  let issues ← check fileSystem config schema content
  IO.print (String.ofList (Report.render config.form config.model issues))
  (← IO.getStdout).flush
  watch config schema (← nextText)
where
  nextText : IO Text := do
    IO.sleep 50
    match ← fileSystem.read? config.model with
    | none => nextText
    | some next => if next = content then nextText else quietText config next

end CatchmentLint.CommandLine

section

open CatchmentLint.CommandLine

/-- Runs the program, and goes on watching where that is asked for. -/
def main (arguments : List String) : IO UInt32 := do
  let outcome ← run fileSystem (← userSchema?) (arguments.map String.toList)
  IO.print (String.ofList outcome.output)
  match outcome with
  | .watching config schema content => watch config schema content
  | .failed f => IO.eprintln ("Error: " ++ String.ofList f.message)
  | .stopped why =>
    if let some complaint := why.complaint? then
      IO.eprintln ("error: " ++ String.ofList complaint)
      IO.eprintln (String.ofList usageLine)
  | .reported .. => pure ()
  return outcome.exitCode.toUInt32

end
