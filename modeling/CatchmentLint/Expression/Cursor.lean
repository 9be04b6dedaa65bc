import CatchmentLint.Expression.Check

/-!
# CatchmentLint.Expression.Cursor

The check of an expression once more, as a cursor that moves along its tokens.

1. The cursor looks at the token that it stands on, and moves on from it unless it is the last one.
2. A level of precedence reads operands of the next tighter one, as long as one of its operators is
   there.
3. Unary operators, parentheses and calls read one level deeper; however that ends, the cursor comes
   back up.
4. Looking outside of the tokens ends everything.
5. How many readings lie in each other is counted down, and there is no result where the count is not
   enough; what never ends has none for any count.
-/

namespace CatchmentLint.Expression

/-- The binary operators by what binds them, the loosest first: or, and, comparison, sum, product,
power. -/
def levels : List (List Text) :=
  [["|", "||"], ["&", "&&"], ["==", "!=", "<", "<=", ">", ">=", "="], ["+", "-"], ["*", "/", "%"],
    ["^", "**"]].map (·.map String.toList)

/-- Where a reading is, how deep, and what it has found. -/
structure Cursor where
  position : Nat
  depth : Nat
  /-- The greatest depth so far. -/
  deepest : Nat
  findings : List Diagnostic
  deriving DecidableEq, Repr

/-- What ends a reading before its end. -/
inductive Stop where
  | outside
  | syntaxError (e : SyntaxError)
  deriving DecidableEq, Repr

/-- A reading moves the cursor, ends well or in an error, or never ends. -/
abbrev Reading := ExceptT Stop (StateT Cursor Option)

/-- How a reading ends and where it leaves the cursor, if it ends. -/
def Reading.result {α : Type} (reading : Reading α) (c : Cursor) : Option (Except Stop α × Cursor) :=
  reading.run.run c

namespace Cursor

/-- The cursor before the first token. -/
def start : Cursor := ⟨0, 0, 0, []⟩

/-! ## Moves -/

/-- The reading that has no result. -/
def never {α : Type} : Reading α := fun _ => none

/-- Ends in an error of the syntax. -/
def fail {α : Type} (e : SyntaxError) : Reading α := throw (.syntaxError e)

/-- Adds findings. -/
def tell (findings : List Diagnostic) : Reading Unit :=
  modify fun c => { c with findings := c.findings ++ findings }

/-- Goes one level deeper, if there is room. -/
def descend : Reading Unit := do
  if maxNesting ≤ (← get).depth then fail (.nestingTooDeep maxNesting)
  else modify fun c => { c with depth := c.depth + 1, deepest := max c.deepest (c.depth + 1) }

/-- Comes back up. -/
def ascend : StateT Cursor Option Unit := modify fun c => { c with depth := c.depth - 1 }

section Tokens

variable (tokens : List Token)

/-- The token under the cursor. -/
def look : Reading Token := do
  match tokens[(← get).position]? with
  | some t => return t
  | none => throw .outside

/-- Moves on, but not from the last token. -/
def advance : Reading Unit :=
  modify fun c => if c.position + 1 < tokens.length then { c with position := c.position + 1 } else c

/-- The operator under the cursor, if it is one of these. -/
def operator? (operators : List Text) : Reading (Option Token) := do
  let t ← look tokens
  return if t.kind == .operator && operators.contains t.text then some t else none

/-- Moves past a token of the kind, or fails. -/
def expect (kind : TokenKind) : Reading Unit := do
  let t ← look tokens
  if t.kind = kind then advance tokens else fail (.expectedToken kind t.kind t.text)

end Tokens

/-! ## Procedures -/

/-- What reads a part of an expression. -/
inductive Procedure where
  /-- Operands with the operators of these levels between them. -/
  | levels (levels : List (List Text))
  | operand
  | primary
  | call
  /-- Another one, a level deeper. -/
  | nested (inner : Procedure)
  deriving DecidableEq, Repr

variable (context : Context) (tokens : List Token)

mutual

/-- No more than `fuel` readings lie in each other. -/
def read : (fuel : Nat) → Procedure → Reading Unit
  | 0, _ => never
  | fuel + 1, .levels [] => read fuel .operand
  | fuel + 1, .levels (operators :: tighter) => do
    read fuel (.levels tighter)
    readOperators fuel operators tighter
  | fuel + 1, .operand => do
    if (← operator? tokens unaryOperators).isSome then
      advance tokens
      read fuel (.nested .operand)
    else read fuel .primary
  | fuel + 1, .primary => do
    let t ← look tokens
    match t.kind with
    | .number | .dataRef | .constRef | .nodeRef | .thisRef | .simRef =>
      tell (referenceFindings context t)
      advance tokens
    | .ident =>
      if tokens[(← get).position + 1]?.any (·.kind == .lparen) then read fuel (.nested .call)
      else advance tokens
    | .lparen =>
      advance tokens
      read fuel (.nested (.levels levels))
      expect tokens .rparen
    | found => fail (.expectedOperand found)
  | fuel + 1, .call => do
    let name := Text.lowerAscii (← look tokens).text
    tell (nameFindings name)
    advance tokens
    expect tokens .lparen
    let count ←
      if (← look tokens).kind = .rparen then pure 0
      else
        read fuel (.levels levels)
        readArguments fuel 1
    expect tokens .rparen
    tell (arityFindings name count)
  | fuel + 1, .nested inner => do
    descend
    (do
      let ending ← (read fuel inner).run
      ascend
      return ending : StateT Cursor Option (Except Stop Unit))

/-- As long as one of the operators is there, it and an operand of the tighter levels. -/
def readOperators : (fuel : Nat) → (operators : List Text) → (tighter : List (List Text)) →
    Reading Unit
  | 0, _, _ => never
  | fuel + 1, operators, tighter => do
    match ← operator? tokens operators with
    | none => return
    | some t =>
      advance tokens
      -- What is told of an operator may depend on the divisor, which is next.
      tell (operatorFindings t (tokens.drop (← get).position))
      read fuel (.levels tighter)
      readOperators fuel operators tighter

/-- As long as a comma is there, it and an argument; `count` of them have been read before. -/
def readArguments : (fuel count : Nat) → Reading Nat
  | 0, _ => never
  | fuel + 1, count => do
    if (← look tokens).kind = .comma then
      advance tokens
      read fuel (.levels levels)
      readArguments fuel (count + 1)
    else return count

end

theorem read_levels_nil (fuel : Nat) :
    read context tokens (fuel + 1) (.levels []) = read context tokens fuel .operand := by
  rw [read]

theorem read_levels_cons (fuel : Nat) (operators : List Text) (tighter : List (List Text)) :
    read context tokens (fuel + 1) (.levels (operators :: tighter)) = (do
      read context tokens fuel (.levels tighter)
      readOperators context tokens fuel operators tighter) := by
  rw [read]

/-! ## Whole expressions -/

/-- Reads an expression, and tells of the error that ends it or of the token that is left. -/
def readWhole (fuel : Nat) : Reading Unit :=
  tryCatch
    (do
      read context tokens fuel (.levels levels)
      let t ← look tokens
      if t.kind = .eof then return else tell [.syntaxError (.trailingTokens t.text)])
    fun
      | .syntaxError e => tell [.syntaxError e]
      | .outside => throw .outside

/-- All that is told of the tokens, if their reading ends inside of them. -/
def findings? (fuel : Nat) : Option (List Diagnostic) :=
  match (readWhole context tokens fuel).result start with
  | some (.ok (), c) => some c.findings
  | _ => none

end Cursor

end CatchmentLint.Expression
