import CatchmentLint.Text.Basic

/-!
# CatchmentLint.Files.Tree

A tree of directories and files without links, and what a path means in it.

1. A path is followed name by name; `.` and an empty name stay, `..` goes up, and above the top
   there is nothing but the top.
2. Only from a directory can a path go on, be it by an empty name: a slash behind the name of a
   file leads nowhere.
3. A path that holds the character NUL leads nowhere.
-/

namespace CatchmentLint.Files

/-- The names that lead from the top to a directory or file. -/
abbrev Place := List Text

/-- Directories and files by their places; the top is a directory that is always there. -/
structure Tree where
  directories : List Place
  files : List (Place × Text)
  deriving Repr

namespace Tree

def empty : Tree := ⟨[], []⟩

def isDirectoryAt (t : Tree) (place : Place) : Bool := place.isEmpty || t.directories.contains place

def fileAt? (t : Tree) (place : Place) : Option Text := t.files.lookup place

/-- Whether there is a directory or a file. -/
def existsAt (t : Tree) (place : Place) : Bool :=
  t.isDirectoryAt place || (t.fileAt? place).isSome

/-! ## Following paths -/

/-- One step from `place`. -/
def step? (t : Tree) (place : Place) (name : Text) : Option Place :=
  if !t.isDirectoryAt place then none
  else if name = [] ∨ name = ['.'] then some place
  else if name = ['.', '.'] then some place.dropLast
  else if t.existsAt (place ++ [name]) then some (place ++ [name])
  else none

/-- Where a path leads to that starts at `start`, or at the top if it is absolute. -/
def follow? (t : Tree) (start : Place) (path : Text) : Option Place :=
  if path = [] ∨ '\x00' ∈ path then none
  else
    let start := if path.head? = some '/' then [] else start
    (Text.splitOn '/' path).foldlM t.step? start

/-- Whether a path leads anywhere. -/
def pathExists (t : Tree) (start : Place) (path : Text) : Bool := (t.follow? start path).isSome

/-- The text of the file that a path leads to. -/
def read? (t : Tree) (start : Place) (path : Text) : Option Text :=
  (t.follow? start path).bind t.fileAt?

/-- Whether a path leads to a file. -/
def isFile (t : Tree) (start : Place) (path : Text) : Bool := (t.read? start path).isSome

/-! ## Changing the tree -/

/-- The place that a path names, be there something or not. -/
def placeOf (start : Place) (path : Text) : Place :=
  (Text.splitOn '/' path).foldl (fun place name =>
    if name = [] ∨ name = ['.'] then place
    else if name = ['.', '.'] then place.dropLast
    else place ++ [name]) start

/-- A directory with all above it. -/
def makeDirectory (place : Place) (t : Tree) : Tree :=
  let above := (List.range place.length).map fun n => place.take (n + 1)
  { t with directories := t.directories ++ above.filter (!t.directories.contains ·) }

/-- Writes a file, with the directories that it needs. -/
def write (place : Place) (content : Text) (t : Tree) : Tree :=
  let t := t.makeDirectory place.dropLast
  { t with files := (place, content) :: t.files.filter (·.1 != place) }

/-- Takes a file away, and leaves its directories. -/
def remove (place : Place) (t : Tree) : Tree :=
  { t with files := t.files.filter (·.1 != place) }

end Tree

end CatchmentLint.Files
