import CatchmentLint.Json.Basic
import CatchmentLint.Toml.Scalar

/-!
# CatchmentLint.Proofs.Json.Reader

Reads any JSON text, in whatever layout.

1. A number is read exactly, as the decimal that it spells: an optional minus, digits without a
   leading zero, and an optional fraction and exponent.
2. In a string every character may stand for itself but quotes, backslashes and the characters below
   U+0020; escapes have one letter, or `u` and the four digits of a UTF-16 code unit.  Two units that
   are a surrogate pair spell one character, and a surrogate alone is refused, since no text holds it.
3. Blanks, tabs and line ends may stand between any two tokens.
4. The tokens are read one after another, with a stack of the arrays and objects that are open.

The members of an object are kept in their order, and a name that comes twice is kept twice.
-/

namespace CatchmentLint.Json

/-- What a JSON text says. -/
inductive Value where
  | null
  | boolean (b : Bool)
  | number (d : Decimal)
  | string (s : Text)
  | array (items : List Value)
  | object (members : List (Text × Value))

/-! ## Numbers and words -/

/-- The text after one digit or more. -/
def dropDigits? (s : Text) : Option Text :=
  if s.takeWhile Char.isDigit = [] then none else some (s.dropWhile Char.isDigit)

def dropMinus : Text → Text
  | '-' :: s => s
  | s => s

/-- The digits before the point, without a leading zero. -/
def dropWhole? : Text → Option Text
  | '0' :: s => some s
  | s => dropDigits? s

/-- A point with digits, or nothing. -/
def dropFraction? : Text → Option Text
  | '.' :: s => dropDigits? s
  | s => some s

/-- An exponent with digits, or nothing. -/
def dropExponent? : Text → Option Text
  | [] => some []
  | c :: s =>
    if c = 'e' ∨ c = 'E' then
      match s with
      | '+' :: s | '-' :: s => dropDigits? s
      | s => dropDigits? s
    else some (c :: s)

/-- Whether the text as a whole is a number. -/
def isNumber (s : Text) : Bool :=
  ((dropWhole? (dropMinus s)).bind dropFraction?).bind dropExponent? == some []

example : ["0", "-1.50e+07", "01", "1.", ".5", "+1", "1e"].map (fun s => isNumber s.toList) =
    [true, true, false, false, false, false, false] := by decide +kernel

/-- What a word says that is no string. -/
def scalar? (s : Text) : Option Value :=
  if s = "null".toList then some .null
  else if s = "true".toList then some (.boolean true)
  else if s = "false".toList then some (.boolean false)
  else if isNumber s then (Decimal.read? s).map .number
  else none

/-! ## Strings -/

def isHighSurrogate (unit : Nat) : Bool := 0xD800 ≤ unit && unit < 0xDC00

def isLowSurrogate (unit : Nat) : Bool := 0xDC00 ≤ unit && unit < 0xE000

/-- The character that a letter stands for after a backslash. -/
def unescapeLetter? : Char → Option Char
  | '"' => some '"'
  | '\\' => some '\\'
  | '/' => some '/'
  | 'b' => some '\x08'
  | 'f' => some '\x0c'
  | 'n' => some '\n'
  | 'r' => some '\r'
  | 't' => some '\t'
  | _ => none

/-- The UTF-16 code unit that four digits spell, and the text after them. -/
def readUnit (s : Text) : Option (Nat × Text) :=
  if (s.take 4).length = 4 then (Toml.hexToNat? (s.take 4)).map (·, s.drop 4) else none

/-- The character of a surrogate pair, after its first half. -/
def readLowSurrogate (high : Nat) : Text → Option (Char × Text)
  | '\\' :: 'u' :: s =>
    match readUnit s with
    | none => none
    | some (low, rest) =>
      if isLowSurrogate low then
        some (Char.ofNat (0x10000 + 0x400 * (high - 0xD800) + (low - 0xDC00)), rest)
      else none
  | _ => none

/-- The character of an escape, after its backslash. -/
def readEscape : Text → Option (Char × Text)
  | [] => none
  | c :: s =>
    if c = 'u' then
      match readUnit s with
      | none => none
      | some (unit, rest) =>
        if isHighSurrogate unit then readLowSurrogate unit rest
        else if isLowSurrogate unit then none
        else some (Char.ofNat unit, rest)
    else (unescapeLetter? c).map (·, s)

/-- A unit takes its digits. -/
theorem length_of_readUnit {s rest : Text} {unit : Nat} (h : readUnit s = some (unit, rest)) :
    rest.length ≤ s.length := by
  unfold readUnit at h
  split at h
  · obtain ⟨_, -, heq⟩ := Option.map_eq_some_iff.mp h
    cases heq
    rw [List.length_drop]
    exact Nat.sub_le _ _
  · contradiction

theorem length_of_readLowSurrogate {high : Nat} {s rest : Text} {c : Char}
    (h : readLowSurrogate high s = some (c, rest)) : rest.length ≤ s.length := by
  unfold readLowSurrogate at h
  split at h
  · split at h
    · contradiction
    · next low after hlow =>
        have hlength := length_of_readUnit hlow
        grind
  · contradiction

/-- An escape takes a character at least. -/
theorem length_of_readEscape {s rest : Text} {c : Char} (h : readEscape s = some (c, rest)) :
    rest.length < s.length := by
  unfold readEscape at h
  split at h
  · contradiction
  · next letter s =>
      split at h
      · split at h
        · contradiction
        · next unit after hunit =>
            have hlength := length_of_readUnit hunit
            split at h
            · exact Nat.lt_succ_of_le (Nat.le_trans (length_of_readLowSurrogate h) hlength)
            · split at h
              · contradiction
              · cases h
                exact Nat.lt_succ_of_le hlength
      · obtain ⟨_, -, heq⟩ := Option.map_eq_some_iff.mp h
        cases heq
        exact Nat.lt_succ_self _

/-- The text of a string, after its opening quote, and what stands after its closing one. -/
def readString (s : Text) : Option (Text × Text) :=
  match s with
  | [] => none
  | '"' :: s => some ([], s)
  | '\\' :: s =>
    match _h : readEscape s with
    | none => none
    | some (c, rest) => (readString rest).map fun found => (c :: found.1, found.2)
  | c :: s =>
    if c.toNat < 0x20 then none
    else (readString s).map fun found => (c :: found.1, found.2)
termination_by s.length
decreasing_by
  · have hlength := length_of_readEscape _h
    simp only [List.length_cons]
    omega
  · simp

/-- A string takes a character at least, its closing quote. -/
theorem length_of_readString {s text rest : Text} (h : readString s = some (text, rest)) :
    rest.length < s.length := by
  fun_induction readString s generalizing text with
  | case1 => contradiction
  | case2 s =>
      cases h
      exact Nat.lt_succ_self _
  | case3 => contradiction
  | case4 s c after hescape ih =>
      obtain ⟨⟨_, _⟩, hfound, heq⟩ := Option.map_eq_some_iff.mp h
      cases heq
      exact Nat.lt_succ_of_lt (Nat.lt_trans (ih hfound) (length_of_readEscape hescape))
  | case5 => contradiction
  | case6 c s _ _ _ ih =>
      obtain ⟨⟨_, _⟩, hfound, heq⟩ := Option.map_eq_some_iff.mp h
      cases heq
      exact Nat.lt_succ_of_lt (ih hfound)

/-! ## Tokens -/

/-- A mark, a string, or a word that is a value. -/
inductive Token where
  /-- A bracket, a comma or a colon. -/
  | mark (c : Char)
  | string (s : Text)
  | scalar (v : Value)

def spaces : Text := [' ', '\t', '\n', '\r']

def isSpace (c : Char) : Bool := spaces.contains c

def marks : Text := ['[', ']', '\x7b', '\x7d', ',', ':']

def isMark (c : Char) : Bool := marks.contains c

/-- A character that may stand in a number or in one of the three words. -/
def isWordChar (c : Char) : Bool := c.isAlphanum || c == '+' || c == '-' || c == '.'

/-- The tokens of a text. -/
def tokens (s : Text) : Option (List Token) :=
  match s with
  | [] => some []
  | c :: s =>
    if isSpace c then tokens s
    else if isMark c then (tokens s).map (.mark c :: ·)
    else if c = '"' then
      match _h : readString s with
      | none => none
      | some (text, rest) => (tokens rest).map (.string text :: ·)
    else
      match scalar? (c :: s.takeWhile isWordChar) with
      | none => none
      | some v => (tokens (s.dropWhile isWordChar)).map (.scalar v :: ·)
termination_by s.length
decreasing_by
  · simp
  · simp
  · have hlength := length_of_readString _h
    simp only [List.length_cons]
    omega
  · exact Nat.lt_succ_of_le (List.dropWhile_suffix _).length_le

/-! ## Values -/

/-- An array or an object that is open, with what it holds so far. -/
inductive Frame where
  | array (items : List Value)
  | object (members : List (Text × Value))
  /-- An object, after the name of a member whose value is not complete. -/
  | member (members : List (Text × Value)) (name : Text)

/-- What may come next. -/
inductive Expected where
  | value
  | valueOrClosing
  | name
  | nameOrClosing
  | colon
  | commaOrClosing

/-- A reading under way, the innermost frame first, or the value that it has come to. -/
inductive Parsing where
  | within (stack : List Frame) (expected : Expected)
  | done (v : Value)

namespace Parsing

def start : Parsing := .within [] .value

/-- A value is complete. -/
def deliver (v : Value) : List Frame → Option Parsing
  | [] => some (.done v)
  | .array items :: stack => some (.within (.array (items ++ [v]) :: stack) .commaOrClosing)
  | .member members name :: stack =>
    some (.within (.object (members ++ [(name, v)]) :: stack) .commaOrClosing)
  | .object _ :: _ => none

/-- A value begins, or is there as a whole. -/
def beginValue (stack : List Frame) : Token → Option Parsing
  | .string s => deliver (.string s) stack
  | .scalar v => deliver v stack
  | .mark c =>
    if c = '[' then some (.within (.array [] :: stack) .valueOrClosing)
    else if c = '\x7b' then some (.within (.object [] :: stack) .nameOrClosing)
    else none

/-- The name of a member of the innermost object. -/
def beginMember (s : Text) : List Frame → Option Parsing
  | .object members :: stack => some (.within (.member members s :: stack) .colon)
  | _ => none

/-- The bracket that closes the innermost array or object. -/
def close (c : Char) : List Frame → Option Parsing
  | .array items :: stack => if c = ']' then deliver (.array items) stack else none
  | .object members :: stack => if c = '\x7d' then deliver (.object members) stack else none
  | _ => none

/-- A comma in the innermost array or object. -/
def separate : List Frame → Option Parsing
  | .array items :: stack => some (.within (.array items :: stack) .value)
  | .object members :: stack => some (.within (.object members :: stack) .name)
  | _ => none

/-- Takes in one token. -/
def step : Parsing → Token → Option Parsing
  | .within stack .value, token => beginValue stack token
  | .within stack .valueOrClosing, .mark c =>
    if c = ']' then close c stack else beginValue stack (.mark c)
  | .within stack .valueOrClosing, token => beginValue stack token
  | .within stack .name, .string s => beginMember s stack
  | .within stack .nameOrClosing, .string s => beginMember s stack
  | .within stack .nameOrClosing, .mark c => if c = '\x7d' then close c stack else none
  | .within stack .colon, .mark c => if c = ':' then some (.within stack .value) else none
  | .within stack .commaOrClosing, .mark c => if c = ',' then separate stack else close c stack
  | _, _ => none

/-- All tokens one after another. -/
def run (p : Parsing) (tokens : List Token) : Option Parsing := tokens.foldlM step p

/-- The value, if the tokens are at their end with it. -/
def value? : Parsing → Option Value
  | .done v => some v
  | .within _ _ => none

end Parsing

/-- The value of a JSON text. -/
def read? (s : Text) : Option Value :=
  ((tokens s).bind Parsing.start.run).bind Parsing.value?

example : [" [1, \x7b\"\\ud83d\\ude00\" : null\x7d ]", "[1,]", "[\"\\ud83d\"]", "\"a\" 1"].map
    (fun s => (read? s.toList).isSome) = [true, false, false, false] := by decide +kernel

end CatchmentLint.Json
