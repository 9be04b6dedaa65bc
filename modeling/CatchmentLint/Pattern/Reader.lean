import CatchmentLint.Binary64.Decimal
import CatchmentLint.Pattern.Syntax
import CatchmentLint.Pattern.Unicode.Name

/-!
# CatchmentLint.Pattern.Reader

Reads the written form of a pattern.  A text that is not one has no tree; which rule it breaks is
not told apart.

1. `|` separates branches, `( )` groups, `[ ]` is a class, `? * +` and `{n}`, `{n,}`, `{n,m}`
   repeat what stands before them.
2. `\` escapes punctuation and writes classes, places and characters; no other letter or digit
   may follow it, so neither back-references nor look-around can be written.
3. Where the flag `x` is on, blanks and comments from `#` to the end of the line count for
   nothing, inside classes too.  A group ends the reach of the flags that are set in it.
4. A group name starts with a letter or `_`, and no two groups share one.
-/

namespace CatchmentLint.Pattern

/-- What is left to read, whether blanks count for nothing, and the group names so far. -/
structure Reading where
  rest : Text
  verbose : Bool
  names : List Text

namespace Reading

/-- Passes over blanks and comments; `inComment` where a `#` has been read on this line. -/
def skipBlanks (inComment : Bool) : Text → Text
  | [] => []
  | c :: s =>
    if inComment then skipBlanks (c != '\n') s
    else if isBlank c then skipBlanks false s
    else if c = '#' then skipBlanks true s
    else c :: s

/-- Passes over what counts for nothing here. -/
def skip (r : Reading) : Reading :=
  if r.verbose then { r with rest := skipBlanks false r.rest } else r

/-- Goes on at `rest`, past what counts for nothing there. -/
def skipTo (r : Reading) (rest : Text) : Reading := { r with rest := rest }.skip

def goTo (r : Reading) (rest : Text) : Reading := { r with rest := rest }

/-- The next character, and the reading behind it. -/
def next? (r : Reading) : Option (Char × Reading) :=
  match r.rest with
  | [] => none
  | c :: s => some (c, r.goTo s)

/-- The reading behind `c`, if that comes next. -/
def past? (c : Char) (r : Reading) : Option Reading := (Text.dropLead? [c] r.rest).map r.goTo

/-- The first character that is neither blank nor the `#` of a comment; a comment is looked into
one character deep only.  Where there is none, the first character of `text`. -/
def peekBlank (inComment : Bool) (text : Text) : Text → Option Char
  | [] => text.head?
  | c :: s =>
    if isBlank c then peekBlank inComment text s
    else if !inComment && c == '#' then peekBlank true text s
    else some c

/-- The character after the current one. -/
def peek (r : Reading) : Option Char :=
  match r.rest with
  | [] => none
  | _ :: s => if r.verbose then peekBlank false s s else s.head?

end Reading

/-! ## Numbers in braces -/

/-- Digits, between which blanks count for nothing where the flag `x` is on. -/
def readDigits : Nat → Reading → Text × Reading
  | 0, r => ([], r)
  | fuel + 1, r =>
    match r.rest with
    | c :: s =>
      if c.isDigit then
        let (digits, r) := readDigits fuel (r.skipTo s)
        (c :: digits, r)
      else ([], r)
    | [] => ([], r)

/-- The outer blanks of a count never matter. -/
def dropBlanks (r : Reading) : Reading := r.goTo (Text.trimStart r.rest)

/-- A count: a number below `2 ^ 32`, or nothing. -/
def readCount (r : Reading) : Option (Option Nat × Reading) :=
  let r := dropBlanks r
  let (digits, r) := readDigits r.rest.length r
  let r := (dropBlanks r).skip
  if digits = [] then some (none, r)
  else
    let n := Text.digitsToNat digits
    if n < twoTo 32 then some (some n, r) else none

/-- The greatest count of `{n,}` or `{n,m}`, after the comma. -/
def readGreatest (least : Nat) (r : Reading) : Option ((Nat × Option Nat) × Reading) :=
  match r.past? '}' with
  | some r => some ((least, none), r.skip)
  | none => do
    let (second, r) ← readCount r
    let greatest ← second
    let r ← r.past? '}'
    if least ≤ greatest then some ((least, some greatest), r.skip) else none

/-- The least and the greatest count of `{n}`, `{n,}` or `{n,m}`, after the `{`. -/
def readCounts (r : Reading) : Option ((Nat × Option Nat) × Reading) :=
  let r := r.skip
  if r.rest.isEmpty then none
  else do
    let (first, r) ← readCount r
    let least ← first
    match r.past? '}' with
    | some r => some ((least, some least), r.skip)
    | none => (r.past? ',').bind fun r => readGreatest least r.skip

/-- Whether the mark of a repetition that prefers fewer turns comes next. -/
def readLazyMark (r : Reading) : Bool × Reading :=
  match r.past? '?' with
  | some r => (true, r)
  | none => (false, r)

/-! ## Escapes -/

def isHexDigit (c : Char) : Bool :=
  c.isDigit || ('a' ≤ c && c ≤ 'f') || ('A' ≤ c && c ≤ 'F')

def hexValue (c : Char) : Nat :=
  if c.isDigit then c.toNat - '0'.toNat
  else if 'a' ≤ c then c.toNat - 'a'.toNat + 10
  else c.toNat - 'A'.toNat + 10

def hexToNat (digits : Text) : Nat := digits.foldl (fun n c => 16 * n + hexValue c) 0

/-- The character with a code point, if it has one. -/
def charOfCode? (code : Nat) : Option Char :=
  if code < 0xD800 ∨ 0xE000 ≤ code ∧ code < 0x110000 then some (Char.ofNat code) else none

/-- `count` hexadecimal digits. -/
def readHexDigits : (count : Nat) → (digits : Text) → Reading → Option (Text × Reading)
  | 0, digits, r => some (digits.reverse, r)
  | count + 1, digits, r => do
    let (c, r) ← r.next?
    if isHexDigit c then readHexDigits count (c :: digits) r.skip else none

/-- Hexadecimal digits up to a closing brace. -/
def readHexBraced : (fuel : Nat) → (digits : Text) → Reading → Option (Text × Reading)
  | 0, _, _ => none
  | fuel + 1, digits, r =>
    match r.past? '}' with
    | some r => some (digits.reverse, r.skip)
    | none => do
      let (c, r) ← r.next?
      if isHexDigit c then readHexBraced fuel (c :: digits) r.skip else none

/-- The character that hexadecimal digits spell. -/
def literalOf? (spelling : Spelling) (digits : Text) : Option Literal :=
  if digits = [] then none else (charOfCode? (hexToNat digits)).map (⟨·, spelling⟩)

/-- The character of `\x`, `\u` or `\U`, after that letter; `width` digits without braces. -/
def readHex (width : Nat) (r : Reading) : Option (Literal × Reading) :=
  let r := r.skip
  match r.past? '{' with
  | some r => do
    let (digits, r) ← readHexBraced (r.rest.length + 1) [] r.skip
    let l ← literalOf? .plain digits
    return (l, r)
  | none => do
    let (digits, r) ← readHexDigits width [] r
    let l ← literalOf? (if width = 2 then .byte else .plain) digits
    return (l, r)

/-- The text up to a closing brace, without what counts for nothing. -/
def readBraced : (fuel : Nat) → (text : Text) → Reading → Option (Text × Reading)
  | 0, _, _ => none
  | fuel + 1, text, r =>
    match r.past? '}' with
    | some r => some (text.reverse, r)
    | none => do
      let (c, r) ← r.next?
      readBraced fuel (c :: text) r.skip

/-- Cuts a property query at the first `!=`, else at the first `:`, else at the first `=`. -/
def cutQuery (text : Text) : PropertyQuery :=
  match cutUnequal text with
  | some (name, value) => .valued name value true
  | none =>
    match Text.cut? ':' text with
    | some (name, value) => .valued name value false
    | none =>
      match Text.cut? '=' text with
      | some (name, value) => .valued name value false
      | none => .named text
where
  cutUnequal : Text → Option (Text × Text)
    | [] => none
    | '!' :: '=' :: s => some ([], s)
    | c :: s => (cutUnequal s).map fun (before, after) => (c :: before, after)

/-- The query of `\p`, after that letter. -/
def readProperty (r : Reading) : Option (PropertyQuery × Reading) :=
  let r := r.skip
  match r.past? '{' with
  | some r => do
    let (text, r) ← readBraced (r.rest.length + 1) [] r.skip
    return (cutQuery text, r)
  | none => do
    let (c, r) ← r.next?
    if c = '\\' then none else some (.named [c], r.skip)

def isMeta (c : Char) : Bool := "\\.+*?()|[]\x7b\x7d^$#&-~".toList.contains c

/-- Whether `\c` is the character `c` itself: ASCII but for letters, digits, `<` and `>`. -/
def isEscapable (c : Char) : Bool :=
  isMeta c || (c.toNat < 0x80 && !c.isAlphanum && c != '<' && c != '>')

/-- The named word places, as in `\b{start}`. -/
def namedPlace? (name : Text) : Option Place :=
  if name = "start".toList then some .wordStart
  else if name = "end".toList then some .wordEnd
  else if name = "start-half".toList then some .wordStartHalf
  else if name = "end-half".toList then some .wordEndHalf
  else none

def isPlaceNameChar (c : Char) : Bool := c.isAlpha || c == '-'

/-- The place of `\b`, after that letter.  Braces after it that cannot hold a name are a count. -/
def readWordPlace (r : Reading) : Option (Place × Reading) :=
  match r.past? '{' with
  | none => some (.wordBoundary, r)
  | some inside => do
    let (c, _) ← inside.skip.next?
    if isPlaceNameChar c then
      let (name, r) ← readBraced (inside.rest.length + 1) [] inside.skip
      let place ← namedPlace? name
      return (place, r)
    else some (.wordBoundary, r)

/-- The escape that a character makes after a backslash. -/
def readEscapeOf (c : Char) (after : Reading) : Option (Ast × Reading) :=
  let literal (char : Char) : Option (Ast × Reading) := some (.literal ⟨char, .plain⟩, after)
  let place (p : Place) : Option (Ast × Reading) := some (.place p, after)
  match c with
  | 'x' => (readHex 2 after).map fun (l, r) => (.literal l, r)
  | 'u' => (readHex 4 after).map fun (l, r) => (.literal l, r)
  | 'U' => (readHex 8 after).map fun (l, r) => (.literal l, r)
  | 'p' => (readProperty after).map fun (q, r) => (.property q false, r)
  | 'P' => (readProperty after).map fun (q, r) => (.property q true, r)
  | 'd' => some (.perl .digit false, after)
  | 's' => some (.perl .space false, after)
  | 'w' => some (.perl .word false, after)
  | 'D' => some (.perl .digit true, after)
  | 'S' => some (.perl .space true, after)
  | 'W' => some (.perl .word true, after)
  | 'a' => literal '\x07'
  | 'f' => literal '\x0c'
  | 't' => literal '\t'
  | 'n' => literal '\n'
  | 'r' => literal '\r'
  | 'v' => literal '\x0b'
  | 'A' => place .textStart
  | 'z' => place .textEnd
  | 'b' => (readWordPlace after).map fun (p, r) => (.place p, r)
  | 'B' => place .notWordBoundary
  | '<' => place .wordStart
  | '>' => place .wordEnd
  | c => if isEscapable c then literal c else none

/-- The escape after a backslash. -/
def readEscape (r : Reading) : Option (Ast × Reading) := do
  let (c, after) ← r.next?
  readEscapeOf c after

/-! ## Classes -/

/-- The ranges of the names that may stand in `[:name:]`. -/
def asciiClass? (name : Text) : Option CharRanges :=
  (table.find? (·.1.toList == name)).map Prod.snd
where
  table : List (String × CharRanges) :=
    [("alnum", [(0x30, 0x39), (0x41, 0x5A), (0x61, 0x7A)]), ("alpha", [(0x41, 0x5A), (0x61, 0x7A)]),
     ("ascii", [(0x00, 0x7F)]), ("blank", [(0x09, 0x09), (0x20, 0x20)]),
     ("cntrl", [(0x00, 0x1F), (0x7F, 0x7F)]), ("digit", [(0x30, 0x39)]), ("graph", [(0x21, 0x7E)]),
     ("lower", [(0x61, 0x7A)]), ("print", [(0x20, 0x7E)]),
     ("punct", [(0x21, 0x2F), (0x3A, 0x40), (0x5B, 0x60), (0x7B, 0x7E)]),
     ("space", [(0x09, 0x0D), (0x20, 0x20)]), ("upper", [(0x41, 0x5A)]),
     ("word", [(0x30, 0x39), (0x41, 0x5A), (0x5F, 0x5F), (0x61, 0x7A)]),
     ("xdigit", [(0x30, 0x39), (0x41, 0x46), (0x61, 0x66)])]

/-- Reads `name:]`. -/
def readAsciiName (negated : Bool) (s : Text) : Option (ClassSet × Text) := do
  let (name, s) ← Text.cut? ':' s
  let s ← Text.dropLead? [']'] s
  let ranges ← asciiClass? name
  return (.ascii ranges negated, s)

/-- Reads `:name:]` or `:^name:]` after a `[`; any other text there is no such class. -/
def readAscii (s : Text) : Option (ClassSet × Text) := do
  let s ← Text.dropLead? [':'] s
  match Text.dropLead? ['^'] s with
  | some s => readAsciiName true s
  | none => readAsciiName false s

/-- One item of a class, not yet a range. -/
def readItem (r : Reading) : Option (Ast × Reading) := do
  let (c, r) ← r.next?
  if c = '\\' then readEscape r else some (.literal ⟨c, .plain⟩, r)

/-- A place is no member of a class. -/
def itemSet? : Ast → Option ClassSet
  | .literal l => some (.literal l)
  | .property q negated => some (.property q negated)
  | .perl p negated => some (.perl p negated)
  | _ => none

/-- The range from one item to another; its ends are characters. -/
def rangeOf? : Ast → Ast → Option ClassSet
  | .literal lo, .literal hi => if lo.char ≤ hi.char then some (.range lo hi) else none
  | _, _ => none

/-- The item, or the range from it where a `-` follows that neither ends the class nor starts
`--`. -/
def readRangeFrom (item : Ast) (r : Reading) : Option (ClassSet × Reading) :=
  if r.rest.isEmpty then none
  else
    match r.past? '-' with
    | none => (itemSet? item).map (·, r)
    | some after =>
      if r.peek = some ']' ∨ r.peek = some '-' then (itemSet? item).map (·, r)
      else do
        let (last, r) ← readItem after.skip
        (rangeOf? item last).map (·, r)

/-- An item or a range. -/
def readRange (r : Reading) : Option (ClassSet × Reading) := do
  let (item, r) ← readItem r
  readRangeFrom item r.skip

/-- The dashes that open a class stand for themselves. -/
def readDashes : (fuel : Nat) → (items : List ClassSet) → Reading → List ClassSet × Reading
  | 0, items, r => (items, r)
  | fuel + 1, items, r =>
    match r.past? '-' with
    | some r => readDashes fuel (.literal ⟨'-', .plain⟩ :: items) r.skip
    | none => (items, r)

/-- Whether the mark of a negated class comes next. -/
def readCaret (r : Reading) : Bool × Reading :=
  match r.past? '^' with
  | some r => (true, r.skip)
  | none => (false, r)

/-- Whether the class is negated and the items at its start, after its `[`.  A `]` right there
stands for itself. -/
def readClassStart (r : Reading) : Option ((Bool × List ClassSet) × Reading) :=
  let (negated, r) := readCaret r.skip
  let (items, r) := readDashes r.rest.length [] r
  if r.rest.isEmpty then none
  else
    match r.past? ']' with
    | none => some ((negated, items), r)
    | some after =>
      if items.isEmpty then some ((negated, [.literal ⟨']', .plain⟩]), after.skip)
      else some ((negated, items), r)

/-- The set of the items so far, as the right operand of a pending operator. -/
def closeSet (pending : Option (SetOperation × ClassSet)) (items : List ClassSet) : ClassSet :=
  let set := ClassSet.ofItems items.reverse
  match pending with
  | some (op, lhs) => .operation op lhs set
  | none => set

def setOperation? : Text → Option (SetOperation × Text)
  | '&' :: '&' :: s => some (.intersection, s)
  | '-' :: '-' :: s => some (.difference, s)
  | '~' :: '~' :: s => some (.symmetricDifference, s)
  | _ => none

/-- The rest of a class up to its `]`, after `items` (the latest first). -/
def readClassRest : (fuel : Nat) → Option (SetOperation × ClassSet) → List ClassSet → Reading →
    Option (ClassSet × Reading)
  | 0, _, _, _ => none
  | fuel + 1, pending, items, r =>
    let r := r.skip
    match setOperation? r.rest with
    | some (op, s) => readClassRest fuel (some (op, closeSet pending items)) [] (r.goTo s)
    | none =>
      match r.past? ']' with
      | some r => some (closeSet pending items, r)
      | none =>
        match r.past? '[' with
        | none => do
          let (item, r) ← readRange r
          readClassRest fuel pending (item :: items) r
        | some inner =>
          match readAscii inner.rest with
          | some (set, s) => readClassRest fuel pending (set :: items) (inner.goTo s)
          | none => do
            let ((negated, start), r) ← readClassStart inner
            let (set, r) ← readClassRest fuel none start r
            readClassRest fuel pending (.bracketed negated set :: items) r

/-- A class, after its `[`. -/
def readClass (r : Reading) : Option (Ast × Reading) := do
  let ((negated, start), inner) ← readClassStart r
  let (set, rest) ← readClassRest (r.rest.length + 1) none start inner
  return (.bracketed negated set, rest)

/-! ## Groups -/

/-- The flags up to a `:` or `)`, which is given back with them. -/
def readFlags : (fuel : Nat) → (on : Bool) → (dangling : Bool) → FlagChanges → Reading →
    Option ((FlagChanges × Char) × Reading)
  | 0, _, _, _, _ => none
  | fuel + 1, on, dangling, changes, r => do
    let (c, r) ← r.next?
    if c = ':' ∨ c = ')' then
      if dangling then none else some ((changes.reverse, c), r)
    else if c = '-' then
      if on then readFlags fuel false true changes r else none
    else
      match Flag.ofChar? c with
      | none => none
      | some flag =>
        if (changes.value? flag).isSome then none
        else readFlags fuel on false ((flag, on) :: changes) r

/-- What a `(` opens. -/
inductive Opening where
  | group (captures : Bool) (changes : FlagChanges)
  | directive (changes : FlagChanges)

/-- A group with a name, after its `<`. -/
def readName (r : Reading) : Option (Opening × Reading) :=
  match Text.cut? '>' r.rest with
  | some (c :: name, s) =>
    if Unicode.isNameStart c ∧ name.all Unicode.isNameRest ∧ !r.names.contains (c :: name) then
      some (.group true [], { r with rest := s, names := (c :: name) :: r.names })
    else none
  | _ => none

def isLookAround (s : Text) : Bool :=
  ["?=", "?!", "?<=", "?<!"].any fun lead => (Text.dropLead? lead.toList s).isSome

/-- The reading behind `P<` or `<`, which a name follows. -/
def pastNameMark? (r : Reading) : Option Reading := ((r.past? 'P').getD r).past? '<'

/-- What the flags before `mark` belong to. -/
def openingOf? (changes : FlagChanges) (mark : Char) : Option Opening :=
  if mark = ':' then some (.group false changes)
  else if changes = [] then none
  else some (.directive changes)

/-- Reads what follows a `(`, up to the body of the group. -/
def readOpening (r : Reading) : Option (Opening × Reading) :=
  let r := r.skip
  if isLookAround r.rest then none
  else
    match r.past? '?' with
    | none => some (.group true [], r)
    | some inner =>
      match pastNameMark? inner with
      | some r => readName r
      | none => do
        let ((changes, mark), r) ← readFlags (inner.rest.length + 1) true false [] inner
        (openingOf? changes mark).map (·, r)

/-! ## Patterns -/

/-- A repetition of the latest item, with the mark that may follow. -/
def repeatLast (turns : Nat × Option Nat) (items : List Ast) (r : Reading) :
    Option (List Ast × Reading) :=
  match items with
  | item :: items =>
    let (lazy, r) := readLazyMark r
    if item.isRepeatable then some (.repetition turns.1 turns.2 lazy item :: items, r) else none
  | [] => none

/-- Whether a repetition starts with the character. -/
def repeats (c : Char) : Bool := c == '?' || c == '*' || c == '+' || c == '{'

/-- How often the latest item is matched, after the character that the repetition starts with. -/
def readTurns (c : Char) (after : Reading) : Option ((Nat × Option Nat) × Reading) :=
  if c = '?' then some ((0, some 1), after)
  else if c = '*' then some ((0, none), after)
  else if c = '+' then some ((1, none), after)
  else readCounts after

/-- An item that is no group, after its first character. -/
def readAtom (c : Char) (after : Reading) : Option (Ast × Reading) :=
  if c = '[' then readClass after
  else if c = '\\' then readEscape after
  else if c = '.' then some (.dot, after)
  else if c = '^' then some (.place .caret, after)
  else if c = '$' then some (.place .dollar, after)
  else some (.literal ⟨c, .plain⟩, after)

/-- The tree of some branches and of the items of the last, the latest first. -/
def closeBranches (items branches : List Ast) : Ast :=
  Ast.ofBranches (Ast.ofItems items.reverse :: branches).reverse

/-- Goes on behind an opening: with the flags that it sets from here on, or with its group, whose
flags end where it ends.  `readRest` reads branches up to their end. -/
def readOpened (readRest : List Ast → List Ast → Reading → Option (Ast × Reading))
    (items branches : List Ast) (verbose : Bool) (opening : Opening) (r : Reading) :
    Option (Ast × Reading) :=
  match opening with
  | .directive changes =>
    readRest (.directive changes :: items) branches
      { r with verbose := (changes.value? .verbose).getD r.verbose }
  | .group captures changes => do
    let (body, r) ← readRest [] [] { r with verbose := (changes.value? .verbose).getD r.verbose }
    let r ← r.past? ')'
    readRest (.group captures changes body :: items) branches { r with verbose := verbose }

/-- The branches up to the end of the group or of the text; `items` and `branches` so far, the
latest first. -/
def readBranches : (fuel : Nat) → (items branches : List Ast) → Reading → Option (Ast × Reading)
  | 0, _, _, _ => none
  | fuel + 1, items, branches, r =>
    let r := r.skip
    match r.next? with
    | none => some (closeBranches items branches, r)
    | some (c, after) =>
      if c = ')' then some (closeBranches items branches, r)
      else if c = '|' then readBranches fuel [] (Ast.ofItems items.reverse :: branches) after
      else if c = '(' then do
        let (opening, inner) ← readOpening after
        readOpened (readBranches fuel) items branches r.verbose opening inner
      else if repeats c then do
        let (turns, r) ← readTurns c after
        let (items, r) ← repeatLast turns items r
        readBranches fuel items branches r
      else do
        let (item, r) ← readAtom c after
        readBranches fuel (item :: items) branches r

/-- The tree of a pattern. -/
def Ast.read? (pattern : Text) : Option Ast := do
  let (ast, r) ← readBranches (pattern.length + 1) [] [] ⟨pattern, false, []⟩
  if r.rest ≠ [] ∨ maxNesting < ast.depth then none else some ast

end CatchmentLint.Pattern
