import CatchmentLint.Toml.Scalar

/-!
# CatchmentLint.Toml.Reader

Reads the statements of a TOML 1.1 document: keys with values, and headers of tables.  A text that
breaks a rule has no statements; which rule it breaks is not told apart.

1. A statement stands on a line of its own; a comment may follow it.  No control character but
   the tab may stand in a comment or a string, and a carriage return only before a line feed.
2. A key is one name or several with dots between them, at most `maxNesting`; a name is bare or
   quoted on one line.
3. Arrays and inline tables may run over several lines, between any two parts but inside of a key,
   and end in a comma; they nest at most `maxNesting` deep.
4. A text in three quotes may run over several lines, and a line feed right at its start is not
   part of it.
-/

namespace CatchmentLint.Toml

def maxNesting : Nat := 80

/-! ## Blanks and comments -/

def isSpace (c : Char) : Bool := c == ' ' || c == '\t'

/-- A character of a comment or of a quoted text. -/
def isPrintable (c : Char) : Bool := c == '\t' || (0x20 ≤ c.toNat && c.toNat != 0x7F)

def skipSpaces (s : Text) : Text := s.dropWhile isSpace

/-- Passes over spaces, line ends and comments. -/
def skipLines (inComment : Bool) : Text → Option Text
  | [] => some []
  | '\r' :: '\n' :: s => skipLines false s
  | c :: s =>
    if c = '\n' then skipLines false s
    else if inComment then (if isPrintable c then skipLines true s else none)
    else if isSpace c then skipLines false s
    else if c = '#' then skipLines true s
    else some (c :: s)

/-- Passes over the rest of a line, where only spaces and a comment may stand. -/
def endLine (inComment : Bool) : Text → Option Text
  | [] => some []
  | '\r' :: '\n' :: s => some s
  | c :: s =>
    if c = '\n' then some s
    else if inComment then (if isPrintable c then endLine true s else none)
    else if isSpace c then endLine false s
    else if c = '#' then endLine true s
    else none

/-! ## Quoted texts -/

def hexToChar? (digits : Text) : Option Char :=
  (hexToNat? digits).bind fun code =>
    if code < 0xD800 ∨ 0xE000 ≤ code ∧ code < 0x110000 then some (Char.ofNat code) else none

/-- The character of an escape, after its backslash. -/
def readEscape : Text → Option (Char × Text)
  | 'b' :: s => some ('\x08', s)
  | 't' :: s => some ('\t', s)
  | 'n' :: s => some ('\n', s)
  | 'f' :: s => some ('\x0c', s)
  | 'r' :: s => some ('\r', s)
  | 'e' :: s => some ('\x1b', s)
  | '"' :: s => some ('"', s)
  | '\\' :: s => some ('\\', s)
  | 'x' :: s => hex 2 s
  | 'u' :: s => hex 4 s
  | 'U' :: s => hex 8 s
  | _ => none
where
  hex (width : Nat) (s : Text) : Option (Char × Text) :=
    if (s.take width).length = width then (hexToChar? (s.take width)).map (·, s.drop width) else none

/-- The rest of a text in double quotes. -/
def readBasic : (fuel : Nat) → Text → Option (Text × Text)
  | 0, _ => none
  | fuel + 1, s =>
    match s with
    | [] => none
    | '"' :: s => some ([], s)
    | '\\' :: s => do
      let (c, s) ← readEscape s
      let (text, s) ← readBasic fuel s
      return (c :: text, s)
    | c :: s =>
      if isPrintable c then (readBasic fuel s).map fun (text, s) => (c :: text, s) else none

/-- The rest of a text in single quotes, which has no escapes. -/
def readLiteral : Text → Option (Text × Text)
  | [] => none
  | '\'' :: s => some ([], s)
  | c :: s => if isPrintable c then (readLiteral s).map fun (text, s) => (c :: text, s) else none

def dropLineEnd : Text → Text
  | '\n' :: s => s
  | '\r' :: '\n' :: s => s
  | s => s

/-- After a backslash that ends its line: the text from the next character that is no blank. -/
def skipFolded (s : Text) : Option Text :=
  let rest := skipSpaces s
  match rest with
  | '\n' :: _ | '\r' :: '\n' :: _ => some (blanks rest)
  | _ => none
where
  blanks : Text → Text
    | [] => []
    | '\r' :: '\n' :: s => blanks s
    | c :: s => if isSpace c || c == '\n' then blanks s else c :: s

/-- At three quotes: the quotes before the closing three, at most two, and the text after. -/
def closing? (quote : Char) (s : Text) : Option (Text × Text) :=
  match Text.dropLead? (List.replicate 5 quote) s with
  | some rest => some ([quote, quote], rest)
  | none =>
    match Text.dropLead? (List.replicate 4 quote) s with
    | some rest => some ([quote], rest)
    | none => (Text.dropLead? (List.replicate 3 quote) s).map fun rest => ([], rest)

/-- The rest of a text in three quotes of a kind; escapes count in double quotes only. -/
def readLong (quote : Char) : (fuel : Nat) → Text → Option (Text × Text)
  | 0, _ => none
  | fuel + 1, s =>
    match closing? quote s with
    | some found => some found
    | none =>
      match s with
      | [] => none
      | '\r' :: '\n' :: s => (readLong quote fuel s).map fun (text, s) => ('\r' :: '\n' :: text, s)
      | c :: s =>
        if c = '\\' ∧ quote = '"' then
          match skipFolded s with
          | some s => readLong quote fuel s
          | none => do
            let (c, s) ← readEscape s
            let (text, s) ← readLong quote fuel s
            return (c :: text, s)
        else if isPrintable c ∨ c = '\n' then
          (readLong quote fuel s).map fun (text, s) => (c :: text, s)
        else none

/-- A quoted text, if the text starts with one. -/
def readQuoted (s : Text) : Option (Text × Text) :=
  match s with
  | '"' :: '"' :: '"' :: s => readLong '"' (s.length + 1) (dropLineEnd s)
  | '\'' :: '\'' :: '\'' :: s => readLong '\'' (s.length + 1) (dropLineEnd s)
  | '"' :: s => readBasic (s.length + 1) s
  | '\'' :: s => readLiteral s
  | _ => none

/-! ## Keys -/

def isBareKeyChar (c : Char) : Bool := c.isAlphanum || c == '_' || c == '-'

/-- One name of a key. -/
def readName (s : Text) : Option (Text × Text) :=
  match s with
  | '"' :: s => readBasic (s.length + 1) s
  | '\'' :: s => readLiteral s
  | _ =>
    let name := s.takeWhile isBareKeyChar
    if name = [] then none else some (name, s.dropWhile isBareKeyChar)

/-- Names with dots between them, `room` at most, and the text after them and their spaces. -/
def readNames : (room : Nat) → Text → Option (List Text × Text)
  | 0, _ => none
  | room + 1, s => do
    let (name, s) ← readName (skipSpaces s)
    match skipSpaces s with
    | '.' :: s =>
      let (names, s) ← readNames room s
      return (name :: names, s)
    | s => return ([name], s)

def readKey (s : Text) : Option (List Text × Text) := readNames maxNesting s

/-! ## Tables being built -/

/-- How a table came to be: by a header or as a value, as the parent of one that a header names,
or by the dots of a key. -/
inductive Origin where
  | defined
  | implied
  | dotted
  deriving DecidableEq, Repr

/-- A value, a table that may still grow, or an array of tables whose latest one may. -/
inductive Tree where
  | value (v : Value)
  | table (origin : Origin) (entries : List (Text × Tree))
  | tables (latest : List (Text × Tree)) (earlier : List (List (Text × Tree)))
  deriving Repr

abbrev Entries := List (Text × Tree)

namespace Entries

def set (key : Text) (tree : Tree) : Entries → Entries
  | [] => [(key, tree)]
  | (k, t) :: entries => if k = key then (key, tree) :: entries else (k, t) :: set key tree entries

/-- Changes the table that a path leads to.  The tables of a header's path are passed through as
they are; the dots of a key pass through no table that is defined already, and those that they
pass through are theirs from then on. -/
def change? (byDots : Bool) (f : Origin → Entries → Option Entries) :
    (path : List Text) → Origin → Entries → Option Entries
  | [], origin, entries => f origin entries
  | key :: path, _, entries =>
    match entries.lookup key with
    | none =>
      let origin := if byDots then .dotted else .implied
      (change? byDots f path origin []).map fun inner => entries.set key (.table origin inner)
    | some (.value _) => none
    | some (.table origin inner) =>
      if byDots ∧ origin = .defined then none
      else
        let origin := if byDots then .dotted else origin
        (change? byDots f path origin inner).map fun inner => entries.set key (.table origin inner)
    | some (.tables latest earlier) =>
      (change? byDots f path .defined latest).map fun latest =>
        entries.set key (.tables latest earlier)

/-- Adds a new entry.  Dots lead to a table that dots have made, and no dots to one that they
have not. -/
def add? (viaDots : Bool) (key : Text) (v : Value) (origin : Origin) (entries : Entries) :
    Option Entries :=
  if viaDots != (origin == .dotted) then none
  else if (entries.lookup key).isSome then none
  else some (entries.set key (.value v))

/-- Adds the value of a key with dots. -/
def addPath? (path : List Text) (v : Value) (origin : Origin) (entries : Entries) :
    Option Entries :=
  match path.getLast? with
  | none => none
  | some key =>
    change? true (add? (path.length ≠ 1) key v) path.dropLast origin entries

/-- Defines the table of a header; a table that only headers below it imply may still be
defined. -/
def define? (key : Text) (_ : Origin) (entries : Entries) : Option Entries :=
  match entries.lookup key with
  | none => some (entries.set key (.table .defined []))
  | some (.table .implied inner) => some (entries.set key (.table .defined inner))
  | some _ => none

/-- Adds a table to an array of tables. -/
def append? (key : Text) (_ : Origin) (entries : Entries) : Option Entries :=
  match entries.lookup key with
  | none => some (entries.set key (.tables [] []))
  | some (.tables latest earlier) => some (entries.set key (.tables [] (earlier ++ [latest])))
  | some _ => none

end Entries

mutual

def Tree.toValue : Tree → Value
  | .value v => v
  | .table _ entries => .table (Tree.entryValues entries)
  | .tables latest earlier =>
    .array (Tree.tableValues earlier ++ [.table (Tree.entryValues latest)])

def Tree.entryValues : List (Text × Tree) → List (Text × Value)
  | [] => []
  | (key, tree) :: entries => (key, tree.toValue) :: Tree.entryValues entries

def Tree.tableValues : List (List (Text × Tree)) → List Value
  | [] => []
  | entries :: rest => .table (Tree.entryValues entries) :: Tree.tableValues rest

end

/-! ## Values -/

/-- The end of a value without quotes, where no more words follow. -/
def endsScalar (c : Char) : Bool :=
  isSpace c || "\n\r=,[]\x7b\x7d#".toList.contains c

/-- Whether a word follows, for which a value without quotes goes on over spaces. -/
def wordFollows (s : Text) : Bool :=
  s.head?.any fun c => !endsScalar c && c != '.' && c != '"' && c != '\''

/-- The words of a value without quotes with the spaces between them, and the text after it. -/
def readWords : (fuel : Nat) → Text → Text × Text
  | 0, s => ([], s)
  | fuel + 1, s =>
    let word := s.takeWhile (!endsScalar ·)
    let rest := s.dropWhile (!endsScalar ·)
    if rest.head?.any isSpace && wordFollows (skipSpaces rest) then
      let (words, after) := readWords fuel (skipSpaces rest)
      (word ++ rest.takeWhile isSpace ++ words, after)
    else (word, rest)

def readScalar (s : Text) : Option (Value × Text) :=
  let (words, rest) := readWords (s.length + 1) s
  (scalar? words).map (·, rest)

mutual

/-- A value, inside of arrays and inline tables that leave `room` for so many more. -/
def readValue : (fuel room : Nat) → Text → Option (Value × Text)
  | 0, _, _ => none
  | fuel + 1, room, s =>
    match s with
    | '"' :: _ | '\'' :: _ => (readQuoted s).map fun (text, s) => (.string text, s)
    | '[' :: s =>
      match room with
      | 0 => none
      | room + 1 => (readItems fuel room s).map fun (items, s) => (.array items, s)
    | '{' :: s =>
      match room with
      | 0 => none
      | room + 1 =>
        (readEntries fuel room [] s).map fun (entries, s) =>
          (.table (Tree.entryValues entries), s)
    | s => readScalar s

/-- The rest of an array, before an item. -/
def readItems : (fuel room : Nat) → Text → Option (List Value × Text)
  | 0, _, _ => none
  | fuel + 1, room, s => do
    match ← skipLines false s with
    | ']' :: s => return ([], s)
    | s =>
      let (item, s) ← readValue fuel room s
      match ← skipLines false s with
      | ']' :: s => return ([item], s)
      | ',' :: s =>
        let (items, s) ← readItems fuel room s
        return (item :: items, s)
      | _ => none

/-- The rest of an inline table, before an entry. -/
def readEntries : (fuel room : Nat) → Entries → Text → Option (Entries × Text)
  | 0, _, _, _ => none
  | fuel + 1, room, entries, s => do
    match ← skipLines false s with
    | '}' :: s => return (entries, s)
    | s =>
      let (path, s) ← readKey s
      let s ← Text.dropLead? ['='] (← skipLines false s)
      let (v, s) ← readValue fuel room (← skipLines false s)
      let entries ← entries.addPath? path v .defined
      match ← skipLines false s with
      | '}' :: s => return (entries, s)
      | ',' :: s => readEntries fuel room entries s
      | _ => none

end

/-! ## Documents -/

/-- Reads one statement after the spaces of its line: what it makes of the entries under the
header `current`, the header that holds after it, and the text after it. -/
def readStatement (current : List Text) (root : Entries) (s : Text) :
    Option (List Text × Entries × Text) :=
  match s with
  | '[' :: '[' :: s => do
    let (path, s) ← readKey s
    let s ← Text.dropLead? [']', ']'] s
    let key ← path.getLast?
    let root ← root.change? false (Entries.append? key) path.dropLast .defined
    return (path, root, s)
  | '[' :: s => do
    let (path, s) ← readKey s
    let s ← Text.dropLead? [']'] s
    let key ← path.getLast?
    let root ← root.change? false (Entries.define? key) path.dropLast .defined
    return (path, root, s)
  | s => do
    let (path, s) ← readKey s
    let s ← Text.dropLead? ['='] s
    let s := skipSpaces s
    let (v, s) ← readValue (2 * s.length + 2) maxNesting s
    let root ← root.change? false (Entries.addPath? path v) current .defined
    return (current, root, s)

def readStatements : (fuel : Nat) → List Text → Entries → Text → Option Entries
  | 0, _, _, _ => none
  | fuel + 1, current, root, s => do
    match ← skipLines false s with
    | [] => return root
    | s =>
      let (current, root, s) ← readStatement current root s
      let s ← endLine false s
      readStatements fuel current root s

/-- The table that a document describes; a byte order mark may stand before it. -/
def read? (document : Text) : Option (List (Text × Value)) :=
  let s := (Text.dropLead? ['\ufeff'] document).getD document
  (readStatements (s.length + 1) [] [] s).map Tree.entryValues

end CatchmentLint.Toml
