import CatchmentLint.Binary64.Decimal
import CatchmentLint.Report

/-!
# CatchmentLint.CommandLine.Arguments

Reads the arguments of the command line, from left to right.

1. `--name value` and `--name=value` give an option its value, and `--name` alone sets a flag.
   Each is given at most once.
2. What follows the name of an option is its value, unless it starts with a dash; a dash alone is
   a value too.
3. Behind `--` there are only files, and there is one file in all.
4. A value is looked at when the next option, flag or file is accepted, or at the end.  So an
   argument that is unknown is refused before a wrong value in front of it.
-/

namespace CatchmentLint.CommandLine

/-- Why the arguments are not read to their end. -/
inductive Stop where
  | help
  | version
  | missingFile
  | invalidValue
  | invalidNumber
  | unknownArgument
  | repeatedOption
  | valueOfFlag
  deriving DecidableEq, Repr

/-! ## Options -/

/-- What takes a value. -/
inductive Slot where
  | file
  | schema
  | baseDir
  | debounce
  | timeout
  | form
  | logLevel
  deriving DecidableEq, Repr

/-- What takes no value. -/
inductive Flag where
  | watch
  | help
  | version
  deriving DecidableEq, Repr

/-- What an option is for. -/
inductive Named where
  | slot (s : Slot)
  | flag (f : Flag)
  deriving DecidableEq, Repr

/-- The options by their long names. -/
def longNames : List (Text × Named) :=
  [("schema".toList, .slot .schema), ("base-dir".toList, .slot .baseDir),
   ("watch".toList, .flag .watch), ("debounce-ms".toList, .slot .debounce),
   ("timeout-ms".toList, .slot .timeout), ("format".toList, .slot .form),
   ("log-level".toList, .slot .logLevel), ("help".toList, .flag .help),
   ("version".toList, .flag .version)]

/-- The flags by their letters. -/
def shortNames : List (Char × Flag) := [('h', .help), ('V', .version)]

/-! ## Values -/

/-- What has been given so far. -/
structure Given where
  file : Option Text
  schema : Option Text
  baseDir : Option Text
  watch : Bool
  debounce : Option Nat
  timeout : Option Nat
  form : Option Report.Form
  logLevel : Option Text
  deriving DecidableEq, Repr

/-- A path that is not empty. -/
def readPath (value : Text) : Except Stop Text :=
  if value.isEmpty then .error .invalidValue else .ok value

/-- Milliseconds, which must fit 64 bits. -/
def readMilliseconds (value : Text) : Except Stop Nat :=
  match Text.toNat? value with
  | some n => if n < twoTo 64 then .ok n else .error .invalidNumber
  | none => .error .invalidNumber

/-- The form of the report, by its name. -/
def readForm (value : Text) : Except Stop Report.Form :=
  if value = "text".toList then .ok .lines
  else if value = "json".toList then .ok .json
  else .error .invalidValue

namespace Given

/-- No argument has been read. -/
def nothing : Given := ⟨none, none, none, false, none, none, none, none⟩

/-- A value for a slot that must still be free. -/
def fill {α : Type} (current : Option α) (read : Except Stop α) : Except Stop (Option α) :=
  if current.isSome then .error .repeatedOption else read.map some

/-- Gives a slot its value, which is read as the slot has it. -/
def put (g : Given) (slot : Slot) (value : Text) : Except Stop Given :=
  match slot with
  | .file => (fill g.file (readPath value)).map fun v => { g with file := v }
  | .schema => (fill g.schema (readPath value)).map fun v => { g with schema := v }
  | .baseDir => (fill g.baseDir (readPath value)).map fun v => { g with baseDir := v }
  | .debounce => (fill g.debounce (readMilliseconds value)).map fun v => { g with debounce := v }
  | .timeout => (fill g.timeout (readMilliseconds value)).map fun v => { g with timeout := v }
  | .form => (fill g.form (readForm value)).map fun v => { g with form := v }
  | .logLevel => (fill g.logLevel (.ok value)).map fun v => { g with logLevel := v }

/-- Sets a flag; help and version end the reading. -/
def raise (g : Given) : Flag → Except Stop Given
  | .watch => if g.watch then .error .repeatedOption else .ok { g with watch := true }
  | .help => .error .help
  | .version => .error .version

end Given

/-! ## Reading -/

/-- A slot that waits for its value, or holds one that has not been looked at. -/
structure Pending where
  slot : Slot
  value : Option Text
  deriving DecidableEq, Repr

/-- How far the arguments have been read. -/
structure Reading where
  given : Given
  pending : Option Pending
  onlyFiles : Bool
  deriving DecidableEq, Repr

namespace Reading

def start : Reading := ⟨.nothing, none, false⟩

/-- Looks at the value that is pending. -/
def settle (r : Reading) : Except Stop Given :=
  match r.pending with
  | none => .ok r.given
  | some ⟨_, none⟩ => .error .invalidValue
  | some ⟨slot, some value⟩ => r.given.put slot value

/-- The slot whose value comes next. -/
def waiting? (r : Reading) : Option Slot :=
  match r.pending with
  | some ⟨slot, none⟩ => some slot
  | _ => none

def hasFile (r : Reading) : Bool :=
  r.given.file.isSome || r.pending.any fun p => p.slot == .file

/-- A file, or a second one, which is one too many. -/
def readFile (r : Reading) (value : Text) : Except Stop Reading :=
  if r.hasFile then .error .unknownArgument
  else r.settle.map fun g => { r with given := g, pending := some ⟨.file, some value⟩ }

/-- A flag by itself. -/
def readFlag (r : Reading) (flag : Flag) : Except Stop Reading := do
  return { r with given := ← (← r.settle).raise flag, pending := none }

/-- Reads `--name` or `--name=value`. -/
def readLong (r : Reading) (name : Text) (value? : Option Text) : Except Stop Reading :=
  match longNames.lookup name, value? with
  | none, _ => .error .unknownArgument
  | some (.flag flag), none => r.readFlag flag
  | some (.flag _), some _ => .error .valueOfFlag
  | some (.slot slot), none =>
    r.settle.map fun g => { r with given := g, pending := some ⟨slot, none⟩ }
  | some (.slot slot), some value => do
    return { r with given := ← (← r.settle).put slot value, pending := none }

/-- An option by its long name, with its value behind `=` or in the next argument. -/
def readOption (r : Reading) (text : Text) : Except Stop Reading :=
  match Text.cut? '=' text with
  | some (name, value) => r.readLong name (some value)
  | none => r.readLong text none

/-- An option by its letter. -/
def readShort (r : Reading) (letter : Char) : Except Stop Reading :=
  match shortNames.lookup letter with
  | some flag => r.readFlag flag
  | none => .error .unknownArgument

/-- One argument. -/
def readNext (r : Reading) (argument : Text) : Except Stop Reading :=
  if r.onlyFiles then r.readFile argument
  else
    match argument with
    | ['-', '-'] => .ok { r with onlyFiles := true }
    | '-' :: '-' :: text => r.readOption text
    | '-' :: letter :: _ => r.readShort letter
    | value =>
      match r.waiting? with
      | some slot => .ok { r with pending := some ⟨slot, some value⟩ }
      | none => r.readFile value

end Reading

/-- What the arguments give. -/
def Given.read (arguments : List Text) : Except Stop Given := do
  (← arguments.foldlM Reading.readNext Reading.start).settle

end CatchmentLint.CommandLine
