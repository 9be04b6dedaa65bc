import CatchmentLint.Binary64.Decimal
import CatchmentLint.Text.Basic

/-!
# CatchmentLint.Expression.Token

Splits an expression into tokens.

1. Blank characters separate tokens and belong to none.
2. A number is ASCII digits with an optional fraction and an optional exponent; a point may open
   it where a digit follows.
3. A word is ASCII letters, digits and `_`, not opened by a digit.  One of the words `data`, `c`,
   `node`, `this` and `sim` with a dot right behind it opens a reference, which runs as far as
   words and dots do, empty segments included.
4. A clause in brackets right behind a reference to data, to a node or to `this` belongs to it.
5. Of the operators the longest that fits is taken.
-/

namespace CatchmentLint

/-- What a token is. -/
inductive TokenKind where
  | number
  | ident
  | dataRef
  | constRef
  | nodeRef
  | thisRef
  | simRef
  | operator
  | lparen
  | rparen
  | comma
  | eof
  deriving DecidableEq, Repr

def TokenKind.toText : TokenKind → Text
  | .number => "NUMBER".toList
  | .ident => "IDENT".toList
  | .dataRef => "DATA_REF".toList
  | .constRef => "CONST_REF".toList
  | .nodeRef => "NODE_REF".toList
  | .thisRef => "THIS_REF".toList
  | .simRef => "SIM_REF".toList
  | .operator => "OPERATOR".toList
  | .lparen => "LPAREN".toList
  | .rparen => "RPAREN".toList
  | .comma => "COMMA".toList
  | .eof => "EOF".toList

/-- A token; `position` counts the bytes before it. -/
structure Token where
  kind : TokenKind
  text : Text
  position : Nat
  deriving DecidableEq, Repr

/-- Why a text has no tokens. -/
inductive LexError where
  | unexpectedCharacter (position : Nat) (char : Char)
  | invalidNumber (text : Text)
  | unclosedBracket (position : Nat)
  deriving DecidableEq, Repr

namespace LexError

def message : LexError → Text
  | .unexpectedCharacter position char =>
    "Unexpected character at position ".toList ++ Text.ofNat position ++ ": '".toList ++
      [char, '\'']
  | .invalidNumber text => "Invalid number format: '".toList ++ text ++ ['\'']
  | .unclosedBracket position => "Unclosed '[' at position ".toList ++ Text.ofNat position

end LexError

namespace Token

/-! ## Numbers -/

/-- A point and the digits after it, if there is a point. -/
def fractionPart : Text → Text
  | '.' :: s => '.' :: s.takeWhile Char.isDigit
  | _ => []

/-- The sign of an exponent, if there is one. -/
def signPart : Text → Text
  | '+' :: _ => ['+']
  | '-' :: _ => ['-']
  | _ => []

/-- The letter of an exponent with its sign and digits, if there is such a letter. -/
def exponentPart : Text → Text
  | c :: s =>
    if c = 'e' ∨ c = 'E' then
      let sign := signPart s
      c :: sign ++ (s.drop sign.length).takeWhile Char.isDigit
    else []
  | [] => []

/-- The longest text at the start that has the parts of a number, be they complete or not. -/
def numberText (s : Text) : Text :=
  let whole := s.takeWhile Char.isDigit
  let fraction := fractionPart (s.drop whole.length)
  whole ++ fraction ++ exponentPart (s.drop (whole.length + fraction.length))

/-! ## Words -/

def isWordStart (c : Char) : Bool := c.isAlpha || c == '_'

def isWordChar (c : Char) : Bool := c.isAlphanum || c == '_'

def isDottedChar (c : Char) : Bool := isWordChar c || c == '.'

/-- The kind of reference that a word opens. -/
def referenceKind? (word : Text) : Option TokenKind :=
  if word = "data".toList then some .dataRef
  else if word = "c".toList then some .constRef
  else if word = "node".toList then some .nodeRef
  else if word = "this".toList then some .thisRef
  else if word = "sim".toList then some .simRef
  else none

/-- Whether a reference of the kind may have a clause in brackets. -/
def takesBrackets : TokenKind → Bool
  | .dataRef | .nodeRef | .thisRef => true
  | _ => false

/-- The bracketed clause at the start, empty where there is none; `none` where it never ends. -/
def bracketPart? : Text → Option Text
  | '[' :: s =>
    match Text.cut? ']' s with
    | some (inner, _) => some ('[' :: inner ++ [']'])
    | none => none
  | _ => some []

/-- The word or reference at the start of a text, which `position` bytes stand before. -/
def readWord (position : Nat) (s : Text) : Except LexError (TokenKind × Text) :=
  let word := s.takeWhile isWordChar
  match referenceKind? word, s.drop word.length with
  | some kind, '.' :: _ =>
    let dotted := s.takeWhile isDottedChar
    if takesBrackets kind then
      match bracketPart? (s.drop dotted.length) with
      | some brackets => .ok (kind, dotted ++ brackets)
      | none => .error (.unclosedBracket (position + Text.utf8Size dotted))
    else .ok (kind, dotted)
  | _, _ => .ok (.ident, word)

/-! ## Operators -/

def isOperatorChar (c : Char) : Bool := "+-*/%^<>=!&|".toList.contains c

def isOperatorPair (c d : Char) : Bool :=
  (d == '=' && (c == '=' || c == '!' || c == '<' || c == '>')) ||
    (c == d && (c == '&' || c == '|' || c == '*'))

/-- The operator at the start, of two characters where they are one together. -/
def operatorText : Text → Text
  | c :: d :: _ => if isOperatorPair c d then [c, d] else [c]
  | s => s

/-! ## Tokens -/

/-- Whether a number starts with `c` where `s` follows. -/
def startsNumber (c : Char) (s : Text) : Bool :=
  c.isDigit || (c == '.' && s.head?.any Char.isDigit)

/-- Kind and text of the token that starts with `c`, which is not blank. -/
def readLexeme (position : Nat) (c : Char) (s : Text) : Except LexError (TokenKind × Text) :=
  if c = '(' then .ok (.lparen, [c])
  else if c = ')' then .ok (.rparen, [c])
  else if c = ',' then .ok (.comma, [c])
  else if startsNumber c s then
    let text := numberText (c :: s)
    if (Binary64.read? text).isSome then .ok (.number, text) else .error (.invalidNumber text)
  else if isWordStart c then readWord position (c :: s)
  else if isOperatorChar c then .ok (.operator, operatorText (c :: s))
  else .error (.unexpectedCharacter position c)

/-- The tokens of a text that `position` bytes stand before, the end among them. -/
def readFrom (position : Nat) : Text → Except LexError (List Token)
  | [] => .ok [⟨.eof, [], position⟩]
  | c :: s =>
    if isBlank c then readFrom (position + c.utf8Size) s
    else
      match readLexeme position c s with
      | .error e => .error e
      | .ok (kind, text) =>
        match readFrom (position + Text.utf8Size text) (s.drop (text.length - 1)) with
        | .error e => .error e
        | .ok tokens => .ok (⟨kind, text, position⟩ :: tokens)
termination_by s => s.length
decreasing_by
  all_goals simp only [List.length_drop, List.length_cons]
  all_goals omega

/-- The tokens of a text, the end among them. -/
def readAll (s : Text) : Except LexError (List Token) := readFrom 0 s

end Token

end CatchmentLint
