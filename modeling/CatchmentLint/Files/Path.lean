import CatchmentLint.Text.Basic

/-!
# CatchmentLint.Files.Path

Paths of files, as they are written.

1. Two paths are the same if their components are: slashes in a row are one, a slash at the end is
   none, and so is a `.` but where it opens a relative path.  A `..` stays as it is.
2. A path that starts with a slash is absolute, and what it is joined to does not matter.
-/

namespace CatchmentLint

namespace Path

inductive Component where
  | root
  | current
  | parent
  | name (n : Text)
  deriving DecidableEq, Repr

def isAbsolute (path : Text) : Bool := path.head? == some '/'

/-- The component that a piece between slashes is, behind the first one. -/
def component? (piece : Text) : Option Component :=
  if piece = [] ∨ piece = ['.'] then none
  else if piece = ['.', '.'] then some .parent
  else some (.name piece)

def components (path : Text) : List Component :=
  match Text.splitOn '/' path with
  | [] => []
  | first :: rest =>
    let lead :=
      if isAbsolute path then [.root]
      else if first = ['.'] then [.current]
      else (component? first).toList
    lead ++ rest.filterMap component?

example : components "a//b/./c/".toList = components "a/b/c".toList := by decide +kernel
example : components "./a".toList ≠ components "a".toList := by decide +kernel

/-- `path`, seen from `base`. -/
def join (base path : Text) : Text :=
  if isAbsolute path ∨ base = [] then path
  else if base.getLast? = some '/' then base ++ path
  else base ++ '/' :: path

/-! ## The directory of a path -/

/-- Without the pieces at the end, the latest first, that are no component; the first piece of the
path stays. -/
def dropEmpty : List Text → List Text
  | piece :: next :: pieces =>
    if (component? piece).isNone then dropEmpty (next :: pieces) else piece :: next :: pieces
  | pieces => pieces

/-- The path of the directory that holds `path`, empty where `path` is one name; the root and the
empty path have none. -/
def directory? (path : Text) : Option Text :=
  match dropEmpty (Text.splitOn '/' path).reverse with
  | [] | [[]] => none
  | _ :: pieces =>
    match (dropEmpty pieces).reverse with
    | [[]] => some ['/']
    | pieces => some (Text.join ['/'] pieces)

example : ["a/b", "a", "./m", "/m", "/", "a//b/."].map (fun s => (directory? s.toList).map String.ofList) =
    [some "a", some "", some ".", some "/", none, some "a"] := by decide +kernel

end Path

end CatchmentLint
