import CatchmentLint.Text.Basic

/-!
# CatchmentLint.Json.Basic

JSON values, and the one form in which they are written:

1. each member of an array or an object stands on a line of its own, two blanks deeper than the
   brackets around it; without members there is no line break between the brackets;
2. in a string, quotes, backslashes and the characters below U+0020 are escaped, with a letter
   where JSON has one and with four digits where it has none; every other character stands for
   itself.
-/

namespace CatchmentLint

/-- The values that reports are made of. -/
inductive Json where
  | number (n : Nat)
  | string (s : Text)
  | array (items : List Json)
  | object (members : List (Text × Json))

namespace Json

/-! ## Strings -/

/-- The letter behind the backslash, for characters that have one. -/
def escapeLetter? : Char → Option Char
  | '"' => some '"'
  | '\\' => some '\\'
  | '\x08' => some 'b'
  | '\x0c' => some 'f'
  | '\n' => some 'n'
  | '\r' => some 'r'
  | '\t' => some 't'
  | _ => none

/-- A character inside of a string. -/
def escape (c : Char) : Text :=
  match escapeLetter? c with
  | some letter => ['\\', letter]
  | none =>
    if c.toNat < 0x20 then
      ['\\', 'u', '0', '0', Nat.digitChar (c.toNat / 16), Nat.digitChar (c.toNat % 16)]
    else [c]

/-- A string with its quotes. -/
def quote (s : Text) : Text := '"' :: s.flatMap escape ++ ['"']

example : quote "a\n\x1f/é".toList = "\"a\\n\\u001f/é\"".toList := by decide

/-! ## Values -/

/-- The start of a line at a depth. -/
def lineStart (depth : Nat) : Text := '\n' :: List.replicate (2 * depth) ' '

/-- Brackets at a depth around the texts of the members. -/
def enclose (opening closing : Char) (depth : Nat) (members : List Text) : Text :=
  if members.isEmpty then [opening, closing]
  else
    opening :: lineStart (depth + 1) ++ Text.join (',' :: lineStart (depth + 1)) members ++
      lineStart depth ++ [closing]

mutual

/-- The text of a value that stands between brackets at a depth. -/
def toTextAt (depth : Nat) : Json → Text
  | .number n => Text.ofNat n
  | .string s => quote s
  | .array items => enclose '[' ']' depth (itemTexts (depth + 1) items)
  | .object members => enclose '{' '}' depth (memberTexts (depth + 1) members)

/-- The texts of the items of an array. -/
def itemTexts (depth : Nat) : List Json → List Text
  | [] => []
  | item :: items => toTextAt depth item :: itemTexts depth items

/-- The texts of the members of an object, with their names. -/
def memberTexts (depth : Nat) : List (Text × Json) → List Text
  | [] => []
  | (name, value) :: members =>
    (quote name ++ ": ".toList ++ toTextAt depth value) :: memberTexts depth members

end

/-- The text of a value that stands by itself. -/
def toText (value : Json) : Text := toTextAt 0 value

example : toText (.object [("a".toList, .array [.number 1, .array []])]) =
    "\x7b\n  \"a\": [\n    1,\n    []\n  ]\n\x7d".toList := by decide +kernel

end Json

end CatchmentLint
