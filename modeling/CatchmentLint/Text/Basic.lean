/-!
# CatchmentLint.Text.Basic

Text is a list of characters: every reader of this library recurses over it, and every
message it prints is one.  Four rules fix what "blank" and "line" mean:

1. the blank characters are those with the Unicode property `White_Space`;
2. trimming removes blank characters from both ends;
3. a line ends at a line feed, which one carriage return before it belongs to, and a last
   line that nothing follows needs no line feed;
4. a position in a text counts the bytes of its UTF-8 form.
-/

namespace CatchmentLint

/-- A text, character by character. -/
abbrev Text := List Char

/-- Character sets as ascending, inclusive ranges of code points. -/
abbrev CharRanges := List (Nat × Nat)

/-- Whether a code point lies in one of the ranges. -/
def CharRanges.has (ranges : CharRanges) (code : Nat) : Bool :=
  ranges.any fun range => range.1 ≤ code && code ≤ range.2

def CharRanges.contains (ranges : CharRanges) (c : Char) : Bool := ranges.has c.toNat

/-! ## Blank characters -/

/-- The characters with the property `White_Space`. -/
def blankRanges : CharRanges :=
  [(0x9, 0xD), (0x20, 0x20), (0x85, 0x85), (0xA0, 0xA0), (0x1680, 0x1680), (0x2000, 0x200A),
   (0x2028, 0x2029), (0x202F, 0x202F), (0x205F, 0x205F), (0x3000, 0x3000)]

def isBlank (c : Char) : Bool := blankRanges.contains c

namespace Text

def trimStart (s : Text) : Text := s.dropWhile isBlank

def trimEnd (s : Text) : Text := (s.reverse.dropWhile isBlank).reverse

def trim (s : Text) : Text := trimEnd (trimStart s)

@[simp] theorem trim_nil : trim [] = [] := rfl

example : trim " \tk v\u3000".toList = "k v".toList := by decide

/-! ## Cutting -/

/-- The text after a leading `lead`. -/
def dropLead? : (lead s : Text) → Option Text
  | [], s => some s
  | _ :: _, [] => none
  | c :: lead, d :: s => if c = d then dropLead? lead s else none

/-- The text before a closing `tail`. -/
def dropTail? (tail s : Text) : Option Text :=
  (dropLead? tail.reverse s.reverse).map List.reverse

theorem dropLead?_eq_some_iff {lead s rest : Text} :
    dropLead? lead s = some rest ↔ s = lead ++ rest := by
  induction lead generalizing s with
  | nil => simp [dropLead?, eq_comm]
  | cons c lead ih =>
    cases s with
    | nil => simp [dropLead?]
    | cons d s =>
      by_cases h : c = d
      · subst h; simp [dropLead?, ih]
      · have h' : ¬ d = c := fun e => h e.symm
        simp [dropLead?, h, h']

/-- What stands before and after the first `c`. -/
def cut? (c : Char) : Text → Option (Text × Text)
  | [] => none
  | d :: s => if d = c then some ([], s) else (cut? c s).map fun (before, after) => (d :: before, after)

/-- The pieces between the occurrences of `c`: one more than there are occurrences. -/
def splitOn (c : Char) : Text → List Text
  | [] => [[]]
  | d :: s =>
    if d = c then [] :: splitOn c s
    else
      match splitOn c s with
      | [] => [[d]]
      | piece :: pieces => (d :: piece) :: pieces

/-- Whether `part` stands somewhere in the text. -/
def hasPart (part : Text) : Text → Bool
  | [] => part.isEmpty
  | c :: s => part.isPrefixOf (c :: s) || hasPart part s

/-- The pieces with `separator` between each two. -/
def join (separator : Text) : List Text → Text
  | [] => []
  | [piece] => piece
  | piece :: pieces => piece ++ separator ++ join separator pieces

/-! ## Lines -/

def lines : Text → List Text
  | [] => []
  | '\n' :: s => [] :: lines s
  | '\r' :: '\n' :: s => [] :: lines s
  | c :: s =>
    match lines s with
    | [] => [[c]]
    | line :: rest => (c :: line) :: rest

example : lines "a\r\n\nb\r".toList = ["a".toList, [], "b\r".toList] := by decide

/-! ## Numerals and sizes -/

/-- The decimal numeral of a number. -/
def ofNat (n : Nat) : Text := Nat.toDigits 10 n

/-- The number of bytes of the UTF-8 form. -/
def utf8Size : Text → Nat
  | [] => 0
  | c :: s => c.utf8Size + utf8Size s

@[simp] theorem utf8Size_append (s t : Text) : utf8Size (s ++ t) = utf8Size s + utf8Size t := by
  induction s with
  | nil => simp [utf8Size]
  | cons c s ih => simp [utf8Size, ih]; omega

/-- The letters A to Z made small; every other character stays. -/
def lowerAscii (s : Text) : Text := s.map Char.toLower

end Text

end CatchmentLint
