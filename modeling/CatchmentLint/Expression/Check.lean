import CatchmentLint.Expression.Function
import CatchmentLint.Expression.Reference
import CatchmentLint.Expression.Token

/-!
# CatchmentLint.Expression.Check

Checks an expression without building a tree of it.

1. An expression is operands with binary operators between them.  Which operator binds closer
   changes no finding, so all of them are read alike.
2. An operand may have unary operators before it; it is a number, a reference, a name, a call or an
   expression in parentheses.
3. Unary operators, parentheses and calls nest at most `maxNesting` deep.
4. A finding about one construct lets the check go on: an operator of another language, a divisor
   that is a literal zero, a reference, a call.  A syntax error ends it.
-/

namespace CatchmentLint

/-! ## Findings -/

/-- An error that ends the check. -/
inductive SyntaxError where
  | lexical (e : LexError)
  | expectedOperand (found : TokenKind)
  | expectedToken (expected found : TokenKind) (text : Text)
  | nestingTooDeep (limit : Nat)
  | trailingTokens (text : Text)
  deriving DecidableEq, Repr

def SyntaxError.message : SyntaxError → Text
  | .lexical e => e.message
  | .expectedOperand found =>
    "Expected number, data reference, constant reference, node reference, this reference, ".toList ++
      "sim reference, function, or '(' but got ".toList ++ found.toText
  | .expectedToken expected found text =>
    "Expected ".toList ++ expected.toText ++ " but got ".toList ++ found.toText ++ " ('".toList ++
      text ++ "')".toList
  | .nestingTooDeep limit =>
    "Expression nests deeper than ".toList ++ Text.ofNat limit ++ " levels".toList
  | .trailingTokens text => "Unexpected tokens after expression: '".toList ++ text ++ ['\'']

/-- A finding about an expression. -/
inductive Diagnostic where
  | emptyExpression
  | syntaxError (e : SyntaxError)
  | doubledOr
  | doubledAnd
  | singleEquals
  | zeroDivisor
  | reference (p : Reference.Problem)
  | unknownFunction (name : Text)
  | wrongArity (name : Text) (arity : Arity) (got : Nat)
  deriving DecidableEq, Repr

namespace Diagnostic

def message : Diagnostic → Text
  | .emptyExpression => "Expression is empty".toList
  | .syntaxError e => e.message
  | .doubledOr => "Invalid operator '||' - use '|' for logical OR".toList
  | .doubledAnd => "Invalid operator '&&' - use '&' for logical AND".toList
  | .singleEquals => "Invalid operator '=' - use '==' for equality comparison".toList
  | .zeroDivisor => "Warning: Division by zero constant".toList
  | .reference p => p.message
  | .unknownFunction name => Function.unknownMessage name
  | .wrongArity name arity got => arity.mismatch name got

/-- Whether a message is a warning: it starts with that word, in any case. -/
def isWarning (message : Text) : Bool := Text.lowerAscii (message.take 7) == "warning".toList

end Diagnostic

namespace Expression

/-! ## Walks -/

/-- What a walk over tokens has found, and the tokens after it unless an error has ended it. -/
structure Walk where
  findings : List Diagnostic
  rest : Except SyntaxError (List Token)

namespace Walk

/-- Nothing is found, and `tokens` are left. -/
def done (tokens : List Token) : Walk := ⟨[], .ok tokens⟩

def fail (e : SyntaxError) : Walk := ⟨[], .error e⟩

/-- Adds findings in front. -/
def after (findings : List Diagnostic) (w : Walk) : Walk := { w with findings := findings ++ w.findings }

/-- Goes on where `w` has ended, unless in an error. -/
def andThen (w : Walk) (next : List Token → Walk) : Walk :=
  match w.rest with
  | .ok tokens => (next tokens).after w.findings
  | .error _ => w

end Walk

/-- Passes one token of a kind. -/
def expect (kind : TokenKind) : List Token → Walk
  | token :: tokens =>
    if token.kind = kind then .done tokens
    else .fail (.expectedToken kind token.kind token.text)
  | [] => .fail (.expectedToken kind .eof [])

/-! ## Operators -/

def unaryOperators : List Text := ["+", "-", "!"].map String.toList

def binaryOperators : List Text :=
  ["|", "||", "&", "&&", "==", "!=", "<", "<=", ">", ">=", "=", "+", "-", "*", "/", "%", "^",
    "**"].map String.toList

def isUnary (t : Token) : Bool := t.kind == .operator && unaryOperators.contains t.text

def isBinary (t : Token) : Bool := t.kind == .operator && binaryOperators.contains t.text

/-- The signs of a number; `!` is none. -/
def isSign (t : Token) : Bool := t.kind == .operator && (t.text == ['+'] || t.text == ['-'])

/-- The token is a number that reads as zero. -/
def isZeroNumber (t : Token) : Bool :=
  t.kind == .number && (Binary64.read? t.text).any Binary64.isZero

/-- Whether the tokens start with a zero, which may have signs, or with one in parentheses. -/
def startsWithZero (tokens : List Token) : Bool :=
  match tokens.dropWhile isSign with
  | t :: rest =>
    if t.kind = .lparen then
      match rest.dropWhile isSign with
      | zero :: close :: _ => isZeroNumber zero && close.kind == .rparen
      | _ => false
    else isZeroNumber t
  | [] => false

/-- What is found at a binary operator that `rest` follows. -/
def operatorFindings (operator : Token) (rest : List Token) : List Diagnostic :=
  if operator.text = ['|', '|'] then [.doubledOr]
  else if operator.text = ['&', '&'] then [.doubledAnd]
  else if operator.text = ['='] then [.singleEquals]
  else if operator.text = ['/'] ∧ startsWithZero rest then [.zeroDivisor]
  else []

/-! ## Operands -/

/-- What is found at a reference. -/
def referenceFindings (context : Context) (t : Token) : List Diagnostic :=
  let problem? :=
    match t.kind with
    | .dataRef => Reference.dottedProblem? "data".toList "data".toList t.text
    | .constRef => Reference.dottedProblem? "constant".toList "c".toList t.text
    | .nodeRef => Reference.nodeProblem? context t.text
    | .thisRef => Reference.thisProblem? context t.text
    | .simRef => Reference.variableProblem? t.text
    | _ => none
  (problem?.map Diagnostic.reference).toList

/-- How deep unary operators, parentheses and calls may nest. -/
def maxNesting : Nat := 64

/-- The parts of an expression that lie one level deeper than what they stand in. -/
inductive Phrase where
  | expression
  | operand
  | call
  deriving DecidableEq, Repr

section Level

/-! The walks of one level, given the walks of the phrases that lie one level deeper. -/

variable (context : Context) (deeper : Phrase → List Token → Walk)

/-- An operand without unary operators. -/
def walkPrimary : List Token → Walk
  | [] => .fail (.expectedOperand .eof)
  | t :: rest =>
    match t.kind with
    | .number | .dataRef | .constRef | .nodeRef | .thisRef | .simRef =>
      (Walk.done rest).after (referenceFindings context t)
    | .ident =>
      match rest with
      | next :: _ => if next.kind = .lparen then deeper .call (t :: rest) else .done rest
      | [] => .done rest
    | .lparen => (deeper .expression rest).andThen (expect .rparen)
    | found => .fail (.expectedOperand found)

/-- An operand with its unary operators, each of which nests. -/
def walkOperand : List Token → Walk
  | [] => walkPrimary context deeper []
  | t :: rest => if isUnary t then deeper .operand rest else walkPrimary context deeper (t :: rest)

/-- Operators with an operand after each, as many as there are and no more than `fuel`. -/
def walkOperators : (fuel : Nat) → List Token → Walk
  | 0, tokens => .done tokens
  | fuel + 1, tokens =>
    match tokens with
    | [] => .done []
    | t :: rest =>
      if isBinary t then
        ((walkOperand context deeper rest).andThen (walkOperators fuel)).after
          (operatorFindings t rest)
      else .done tokens

/-- Every operator is a token, so there are no more of them than tokens. -/
def walkExpression (tokens : List Token) : Walk :=
  (walkOperand context deeper tokens).andThen fun rest =>
    walkOperators context deeper rest.length rest

/-- Commas with an argument after each, then the end of the call, of whose arguments `count` have
been walked. -/
def walkArguments (finish : Nat → List Diagnostic) : (fuel count : Nat) → List Token → Walk
  | 0, _, tokens => .done tokens
  | fuel + 1, count, tokens =>
    match tokens with
    | t :: rest =>
      if t.kind = .comma then
        (walkExpression context deeper rest).andThen (walkArguments finish fuel (count + 1))
      else
        (expect .rparen tokens).andThen fun rest => (Walk.done rest).after (finish count)
    | [] => expect .rparen []

/-- What is found at the end of a call. -/
def arityFindings (name : Text) (count : Nat) : List Diagnostic :=
  match Function.arity? name with
  | some arity => if arity.accepts count then [] else [.wrongArity name arity count]
  | none => []

/-- What is found at the name of a call. -/
def nameFindings (name : Text) : List Diagnostic :=
  if (Function.arity? name).isNone then [.unknownFunction name] else []

def walkCall : List Token → Walk
  | [] => .fail (.expectedToken .lparen .eof [])
  | t :: rest =>
    let name := Text.lowerAscii t.text
    let finish := arityFindings name
    let walk := (expect .lparen rest).andThen fun rest =>
      match rest with
      | close :: after =>
        if close.kind = .rparen then (Walk.done after).after (finish 0)
        else
          (walkExpression context deeper rest).andThen fun rest =>
            walkArguments context deeper finish (rest.length + 1) 1 rest
      | [] => walkExpression context deeper []
    walk.after (nameFindings name)

end Level

/-- Walks a phrase inside of which `room` levels more may nest; without room there is none. -/
def walk (context : Context) : (room : Nat) → Phrase → List Token → Walk
  | 0, _, _ => .fail (.nestingTooDeep maxNesting)
  | room + 1, .expression, tokens => walkExpression context (walk context room) tokens
  | room + 1, .operand, tokens => walkOperand context (walk context room) tokens
  | room + 1, .call, tokens => walkCall context (walk context room) tokens

/-! ## Whole expressions -/

/-- The findings of a walk over all tokens, the last of which is the end. -/
def checkTokens (context : Context) (tokens : List Token) : List Diagnostic :=
  let w := walkExpression context (walk context maxNesting) tokens
  match w.rest with
  | .error e => w.findings ++ [.syntaxError e]
  | .ok [] => w.findings
  | .ok (t :: _) =>
    if t.kind = .eof then w.findings else w.findings ++ [.syntaxError (.trailingTokens t.text)]

def check (context : Context) (expression : Text) : List Diagnostic :=
  match Token.readAll expression with
  | .error e => [.syntaxError (.lexical e)]
  | .ok tokens => checkTokens context tokens

end Expression

end CatchmentLint
