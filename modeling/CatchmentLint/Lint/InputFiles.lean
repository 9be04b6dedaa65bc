import CatchmentLint.Files.Path
import CatchmentLint.Lint.Issue

/-!
# CatchmentLint.Lint.InputFiles

The files that `[inputs]` names exist, seen from the directory of the model.

What the disk has said about a path is remembered for a while, and no more paths than
`maxRemembered` are: while the memory is full, the disk is asked each time.
-/

namespace CatchmentLint.Lint

/-! ## Time -/

/-- A moment in milliseconds. -/
abbrev Moment := Nat

/-- What the clock says each time that it is read, from the first reading on. -/
structure Clock where
  reading : Nat → Moment

namespace Clock

def first (clock : Clock) : Moment := clock.reading 0

/-- The readings behind the first `n`. -/
def after (n : Nat) (clock : Clock) : Clock := ⟨fun i => clock.reading (n + i)⟩

/-- A number stands for the clock that stands still at it. -/
instance (n : Nat) : OfNat Clock n := ⟨⟨fun _ => n⟩⟩

end Clock

/-! ## Memory -/

def maxRemembered : Nat := 1024

/-- Whether a path was there when the disk was asked for it. -/
structure Sighting where
  path : List Path.Component
  found : Bool
  askedAt : Moment
  deriving DecidableEq, Repr

structure Memory where
  lifetime : Nat
  sightings : List Sighting
  deriving Repr

namespace Memory

def defaultLifetime : Nat := 5000

def fresh (lifetime : Nat) : Memory := ⟨lifetime, []⟩

/-- Without what has been remembered for too long. -/
def current (now : Moment) (mem : Memory) : Memory :=
  { mem with sightings := mem.sightings.filter fun s => now - s.askedAt < mem.lifetime }

/-- Whether a path exists, from memory or from the disk, and the memory after that. -/
def look (onDisk : Text → Bool) (now : Moment) (path : Text) (mem : Memory) : Bool × Memory :=
  let mem := mem.current now
  let key := Path.components path
  match mem.sightings.find? (·.path = key) with
  | some s => (s.found, mem)
  | none =>
    let found := onDisk path
    if mem.sightings.length < maxRemembered then
      (found, { mem with sightings := mem.sightings ++ [⟨key, found, now⟩] })
    else (found, mem)

end Memory

/-! ## Entries -/

/-- The entries that name no file, and the memory after all of them.  The clock is read for each. -/
def findMissingFiles (onDisk : Text → Bool) (base : Text) :
    Clock → List Entry → Memory → List Located × Memory
  | _, [], mem => ([], mem)
  | clock, entry :: entries, mem =>
    let (found, mem) := mem.look onDisk clock.first (Path.join base entry.text)
    let (rest, mem) := findMissingFiles onDisk base (clock.after 1) entries mem
    (if found then rest else ⟨entry.line, .missingFile entry.text⟩ :: rest, mem)

/-- The paths that the disk or the memory is asked for, in their order. -/
def lookedFor (schema : Schema) (base? : Option Text) (m : Model) : List Text :=
  match base?, schema.severity? "file_paths".toList .error with
  | some base, some _ => m.inputs.map fun entry => Path.join base entry.text
  | _, _ => []

/-- Nothing is looked for where the directory of the model is not known or the rule is off. -/
def checkInputFiles (schema : Schema) (onDisk : Text → Bool) (clock : Clock) (base? : Option Text)
    (m : Model) (mem : Memory) : List Issue × Memory :=
  match base?, schema.severity? "file_paths".toList .error with
  | some base, some _ =>
    let (found, mem) := findMissingFiles onDisk base clock m.inputs mem
    (report schema found, mem)
  | _, _ => ([], mem)

end CatchmentLint.Lint
