import CatchmentLint.Proofs.Expression.Lexeme
import CatchmentLint.Proofs.Expression.Tree
import Mathlib.Control.Monad.Basic

/-!
# CatchmentLint.Proofs.Expression.Findings

The walk over the tokens of an expression finds what a walk over its tree finds.

* `walkOperand_tokens`, `walkExpression_tokens`, `walkArguments_tokens` — a walk passes the tokens of
  a tree that nests no deeper than there is room, and stops behind them;
* `check_eq_findings` — so what is found in an expression is what its tree says.
-/

namespace CatchmentLint.Expression

/-- The kind of the token that is next. -/
def nextKind (rest : List Token) : TokenKind := (rest.head?.map Token.kind).getD .eof

section Operand

variable {context : Context} {room : Nat} {t : Token} {rest : List Token}

/-! ## Operands by their first token -/

/-- A sign or a `!` takes one of the room, and finds nothing. -/
theorem walkOperand_unary (h : isUnary t = true) :
    walkOperand context (walk context (room + 1)) (t :: rest) =
      walkOperand context (walk context room) rest := by
  rw [walkOperand, if_pos h]
  rfl

/-- A name that is no call is passed without a look at it. -/
theorem walkOperand_name (h : t.kind = .ident) (hnext : nextKind rest ≠ .lparen) :
    walkOperand context (walk context room) (t :: rest) = .done rest := by
  rw [walkOperand_of_not_unary (isUnary_of_kind_ne (by simp [h]))]
  unfold walkPrimary
  simp only [h]
  cases rest with
  | nil => rfl
  | cons next rest => exact if_neg hnext

/-- A name before a parenthesis is a call, one level down. -/
theorem walkOperand_call {opening : Token} (h : t.kind = .ident) (hopening : opening.kind = .lparen) :
    walkOperand context (walk context (room + 1)) (t :: opening :: rest) =
      walkCall context (walk context room) (t :: opening :: rest) := by
  rw [walkOperand_of_not_unary (isUnary_of_kind_ne (by simp [h]))]
  unfold walkPrimary
  simp only [h, hopening, if_true]
  rfl

/-- Parentheses are an expression one level down, and the one that closes. -/
theorem walkOperand_parens (h : t.kind = .lparen) :
    walkOperand context (walk context (room + 1)) (t :: rest) =
      (walkExpression context (walk context room) rest).andThen (expect .rparen) := by
  rw [walkOperand_of_not_unary (isUnary_of_kind_ne (by simp [h]))]
  unfold walkPrimary
  simp only [h]
  rfl

end Operand

/-! ## Expressions after their first operand -/

section Expression

variable {context : Context} {room : Nat} {tokens rest : List Token} {findings : List Diagnostic}
  (h : walkOperand context (walk context room) tokens = (Walk.done rest).after findings)

theorem walkOperand_walk_advances (context : Context) (room : Nat) :
    Advances (walkOperand context (walk context room)) :=
  walkOperand_advances (walk_advances context room)

include h

/-- Where no operator follows its operand, an expression is that operand. -/
theorem walkExpression_single (hrest : StartsOutside isBinary rest) :
    walkExpression context (walk context room) tokens = (Walk.done rest).after findings := by
  rw [walkExpression_eq]
  exact walkLevel_single (walkOperand_walk_advances context room) h hrest

/-- Where one follows, the rest of the expression is walked like an expression of its own. -/
theorem walkExpression_binary {operator : Token} {after : List Token}
    (hoperator : isBinary operator = true) (hrest : rest = operator :: after) :
    walkExpression context (walk context room) tokens =
      (walkExpression context (walk context room) after).after
        (findings ++ operatorFindings operator after) := by
  subst hrest
  rw [walkExpression_eq]
  exact walkLevel_binary (walkOperand_walk_advances context room) h hoperator

end Expression

/-! ## Trees -/

variable {context : Context} {room : Nat}

theorem startsOutside_isBinary {t : Token} {rest : List Token} (h : t.kind ≠ .operator) :
    StartsOutside isBinary (t :: rest) := by
  intro a ha
  cases ha
  simp [isBinary, h]

mutual

/-- A walk over the tokens of an operand finds what its tree says, and stops behind it. -/
theorem walkOperand_tokens : ∀ (u : OperandTree) (rest : List Token) {room : Nat},
    u.nesting ≤ room → u.KeepsNames (nextKind rest) →
      walkOperand context (walk context room) (u.tokens ++ rest) =
        (Walk.done rest).after (u.findings context)
  | .atom t, _, _, _, _ => walkOperand_operand t.property
  | .name t, _, _, _, hnames => walkOperand_name t.property hnames
  | .unary operator u, rest, room + 1, hnesting, hnames => by
    rw [OperandTree.tokens, List.cons_append, walkOperand_unary operator.property]
    exact walkOperand_tokens u rest (Nat.le_of_succ_le_succ hnesting) hnames
  | .parens opening e closing, rest, room + 1, hnesting, hnames => by
    have hclosing : StartsOutside isBinary (closing.val :: rest) :=
      startsOutside_isBinary (by rw [closing.property]; decide)
    rw [OperandTree.tokens, List.cons_append, walkOperand_parens opening.property, List.append_assoc,
      List.singleton_append,
      walkExpression_tokens e (closing.val :: rest) (Nat.le_of_succ_le_succ hnesting) hnames hclosing,
      Walk.after_andThen, Walk.done_andThen, expect_cons closing.property]
    rfl
  | .emptyCall callee opening closing, rest, room + 1, _, _ => by
    rw [OperandTree.tokens, List.cons_append, List.cons_append, List.singleton_append,
      walkOperand_call callee.property opening.property,
      walkCall_closing opening.property closing.property]
    rfl
  | .call callee opening arguments closing, rest, room + 1, hnesting, hnames => by
    obtain ⟨t, more, htokens, ht⟩ := arguments.exists_first
    have harguments := walkArguments_tokens arguments rest
      (arityFindings (Text.lowerAscii callee.val.text)) 0 (Nat.le_of_succ_le_succ hnesting) hnames
      closing.property
    rw [htokens, List.cons_append] at harguments
    rw [OperandTree.tokens, List.cons_append, List.cons_append, List.append_assoc,
      List.singleton_append, walkOperand_call callee.property opening.property, htokens,
      List.cons_append, walkCall_arguments opening.property ht, harguments, Walk.after_after,
      OperandTree.findings, Nat.zero_add, List.append_assoc]

/-- A walk over the tokens of an expression that no operator follows finds what its tree says. -/
theorem walkExpression_tokens : ∀ (e : Tree) (rest : List Token) {room : Nat},
    e.nesting ≤ room → e.KeepsNames (nextKind rest) → StartsOutside isBinary rest →
      walkExpression context (walk context room) (e.tokens ++ rest) =
        (Walk.done rest).after (e.findings context)
  | .single u, rest, _, hnesting, hnames, hrest =>
    walkExpression_single (walkOperand_tokens u rest hnesting hnames) hrest
  | .binary u operator e, rest, room, hnesting, hnames, hrest => by
    have hu := walkOperand_tokens u (operator.val :: (e.tokens ++ rest))
      (Nat.le_trans (Nat.le_max_left _ _) hnesting) hnames.1
    rw [Tree.tokens, List.append_assoc, List.cons_append,
      walkExpression_binary hu operator.property rfl,
      walkExpression_tokens e rest (Nat.le_trans (Nat.le_max_right _ _) hnesting) hnames.2 hrest,
      operatorFindings_append, Walk.after_after, Tree.findings]
    simp only [List.append_assoc]

/-- A walk over the arguments of a call finds what their trees say, and counts them. -/
theorem walkArguments_tokens : ∀ (arguments : ArgumentTrees) (rest : List Token)
    (finish : Nat → List Diagnostic) (count : Nat) {room : Nat} {closing : Token},
    arguments.nesting ≤ room → arguments.KeepsNames closing.kind → closing.kind = .rparen →
      walkArgumentsFrom context (walk context room) finish count (arguments.tokens ++ closing :: rest) =
        (Walk.done rest).after (arguments.findings context ++ finish (count + arguments.count))
  | .last e, rest, finish, count, room, closing, hnesting, hnames, hclosing => by
    have houtside : StartsOutside isBinary (closing :: rest) :=
      startsOutside_isBinary (by rw [hclosing]; decide)
    rw [ArgumentTrees.tokens, walkArgumentsFrom,
      walkExpression_tokens e (closing :: rest) hnesting hnames houtside, Walk.after_andThen,
      Walk.done_andThen, walkArguments_closing hclosing, Walk.after_after]
    rfl
  | .more e comma arguments, rest, finish, count, room, closing, hnesting, hnames, hclosing => by
    have houtside : StartsOutside isBinary (comma.val :: (arguments.tokens ++ closing :: rest)) :=
      startsOutside_isBinary (by rw [comma.property]; decide)
    rw [ArgumentTrees.tokens, List.append_assoc, List.cons_append, walkArgumentsFrom,
      walkExpression_tokens e (comma.val :: (arguments.tokens ++ closing :: rest))
        (Nat.le_trans (Nat.le_max_left _ _) hnesting) hnames.1 houtside,
      Walk.after_andThen, Walk.done_andThen,
      walkArguments_comma (walk_advances context room) comma.property,
      walkArguments_tokens arguments rest finish (count + 1)
        (Nat.le_trans (Nat.le_max_right _ _) hnesting) hnames.2 hclosing,
      Walk.after_after, ArgumentTrees.findings, ArgumentTrees.count, List.append_assoc,
      Nat.add_assoc, Nat.add_comm 1]

end

/-! ## Whole expressions -/

/-- A walk over a whole expression stops at the end. -/
theorem walkExpression_whole (context : Context) {e : Tree} {last : Token} (hlast : last.kind = .eof)
    (hnesting : e.nesting ≤ maxNesting) :
    walkExpression context (walk context maxNesting) (e.tokens ++ [last]) =
      (Walk.done [last]).after (e.findings context) := by
  have hnext : nextKind [last] ≠ .lparen := by
    rw [nextKind]
    simp [hlast]
  exact walkExpression_tokens e [last] hnesting (e.keepsNames hnext)
    (startsOutside_isBinary (by rw [hlast]; decide))

/-- Over a whole expression nothing is left, so that its tree says all that is found. -/
theorem checkTokens_whole (context : Context) {e : Tree} {last : Token} (hlast : last.kind = .eof)
    (hnesting : e.nesting ≤ maxNesting) : checkTokens context (e.tokens ++ [last]) = e.findings context := by
  rw [checkTokens, walkExpression_whole context hlast hnesting]
  simp only [Walk.after, Walk.done, List.append_nil, hlast, if_true]

/-- What is found in an expression, and in which order, is what its tree says. -/
theorem check_eq_findings (context : Context) {text : Text} {tokens : List Token} {e : Tree}
    (hread : Token.readAll text = .ok tokens) (htokens : e.tokens = tokens.dropLast)
    (hnesting : e.nesting ≤ maxNesting) : check context text = e.findings context := by
  obtain ⟨front, last, rfl, hlast, -⟩ := Token.readFrom_ends hread
  rw [List.dropLast_concat] at htokens
  unfold check
  rw [hread, ← htokens]
  exact checkTokens_whole context hlast hnesting

/-- The tree of `max(rain(1)) = 1 / -0`. -/
def flawedTree : Tree :=
  let rain : OperandTree := .call ⟨⟨.ident, "rain".toList, 4⟩, rfl⟩ ⟨⟨.lparen, ['('], 8⟩, rfl⟩
    (.last (.single (.atom ⟨⟨.number, ['1'], 9⟩, rfl⟩))) ⟨⟨.rparen, [')'], 10⟩, rfl⟩
  let divisor : OperandTree := .unary ⟨⟨.operator, ['-'], 19⟩, by decide⟩
    (.atom ⟨⟨.number, ['0'], 20⟩, rfl⟩)
  .binary
    (.call ⟨⟨.ident, "max".toList, 0⟩, rfl⟩ ⟨⟨.lparen, ['('], 3⟩, rfl⟩ (.last (.single rain))
      ⟨⟨.rparen, [')'], 11⟩, rfl⟩)
    ⟨⟨.operator, ['='], 13⟩, by decide⟩
    (.binary (.atom ⟨⟨.number, ['1'], 15⟩, rfl⟩) ⟨⟨.operator, ['/'], 17⟩, by decide⟩
      (.single divisor))

/-- An expression with four flaws, in the order in which the walk comes upon them. -/
theorem check_flawedTree :
    check .empty "max(rain(1)) = 1 / -0".toList =
      [.unknownFunction "rain".toList, .wrongArity "max".toList .variadic 1, .singleEquals,
        .zeroDivisor] := by
  have hread : Token.readAll "max(rain(1)) = 1 / -0".toList =
      .ok (flawedTree.tokens ++ [⟨.eof, [], 21⟩]) := by decide +kernel
  rw [check_eq_findings .empty hread List.dropLast_concat.symm (by decide)]
  decide +kernel

end CatchmentLint.Expression
