import CatchmentLint.Expression.Check
import CatchmentLint.Proofs.Expression.Walk
import CatchmentLint.Proofs.Lists

/-!
# CatchmentLint.Proofs.Expression.Tree

Expressions as trees, by the grammar

```
expression ::= operand (binary operand)*
operand    ::= unary operand | number | reference | name | name "(" [arguments] ")" | "(" expression ")"
arguments  ::= expression ("," expression)*
```

where a name that is no call may not stand before an opening parenthesis.  A tree has its tokens,
the deepest nesting on its paths, and the findings that a walk over it comes by:

* `Tree.keepsNames` — in an expression that no parenthesis follows, no name stands before one;
* `startsWithZero_iff` — what it is for tokens to start with a literal zero;
* `Tree.startsWithZero_append` — the first operand says so by itself, whatever tokens follow it.
-/

namespace CatchmentLint.Expression

/-! ## Trees -/

/-- A token of a kind. -/
abbrev TokenOf (kind : TokenKind) : Type := {t : Token // t.kind = kind}

mutual

/-- Operands with binary operators between them. -/
inductive Tree where
  | single (u : OperandTree)
  | binary (u : OperandTree) (operator : {t : Token // isBinary t = true}) (e : Tree)

/-- An operand: a number, a reference, a name, a call, parentheses, or one of these behind signs. -/
inductive OperandTree where
  /-- A number or a reference. -/
  | atom (t : {t : Token // isOperandKind t.kind = true})
  | name (t : TokenOf .ident)
  | unary (operator : {t : Token // isUnary t = true}) (u : OperandTree)
  | parens (opening : TokenOf .lparen) (e : Tree) (closing : TokenOf .rparen)
  | emptyCall (name : TokenOf .ident) (opening : TokenOf .lparen) (closing : TokenOf .rparen)
  | call (name : TokenOf .ident) (opening : TokenOf .lparen) (arguments : ArgumentTrees)
      (closing : TokenOf .rparen)

/-- Expressions with commas between them. -/
inductive ArgumentTrees where
  | last (e : Tree)
  | more (e : Tree) (comma : TokenOf .comma) (arguments : ArgumentTrees)

end

/-! ## Tokens -/

mutual

/-- The tokens of an expression, from left to right. -/
def Tree.tokens : Tree → List Token
  | .single u => u.tokens
  | .binary u operator e => u.tokens ++ operator.val :: e.tokens

/-- The tokens of an operand, with its parentheses and signs. -/
def OperandTree.tokens : OperandTree → List Token
  | .atom t => [t.val]
  | .name t => [t.val]
  | .unary operator u => operator.val :: u.tokens
  | .parens opening e closing => opening.val :: (e.tokens ++ [closing.val])
  | .emptyCall name opening closing => [name.val, opening.val, closing.val]
  | .call name opening arguments closing =>
    name.val :: opening.val :: (arguments.tokens ++ [closing.val])

/-- The tokens of arguments, with the commas between them. -/
def ArgumentTrees.tokens : ArgumentTrees → List Token
  | .last e => e.tokens
  | .more e comma arguments => e.tokens ++ comma.val :: arguments.tokens

end

/-- How many arguments there are. -/
def ArgumentTrees.count : ArgumentTrees → Nat
  | .last _ => 1
  | .more _ _ arguments => arguments.count + 1

/-- An operand starts with a token, and that is no closing parenthesis. -/
theorem OperandTree.exists_first : ∀ u : OperandTree,
    ∃ t more, u.tokens = t :: more ∧ t.kind ≠ .rparen
  | .atom t => ⟨t.val, [], rfl, fun h => by simpa [h, isOperandKind] using t.property⟩
  | .name t => ⟨t.val, [], rfl, by rw [t.property]; decide⟩
  | .unary operator u => ⟨operator.val, u.tokens, rfl, fun h => by simpa [isUnary, h] using operator.property⟩
  | .parens opening _ _ => ⟨opening.val, _, rfl, by rw [opening.property]; decide⟩
  | .emptyCall callee _ _ => ⟨callee.val, _, rfl, by rw [callee.property]; decide⟩
  | .call callee _ _ _ => ⟨callee.val, _, rfl, by rw [callee.property]; decide⟩

/-- An expression has a first token, which closes nothing. -/
theorem Tree.exists_first (e : Tree) : ∃ t more, e.tokens = t :: more ∧ t.kind ≠ .rparen := by
  cases e with
  | single u => exact u.exists_first
  | binary u operator e =>
      obtain ⟨t, more, htokens, ht⟩ := u.exists_first
      exact ⟨t, more ++ operator.val :: e.tokens, by rw [tokens, htokens]; rfl, ht⟩

/-- Arguments have a first token, which closes nothing. -/
theorem ArgumentTrees.exists_first (arguments : ArgumentTrees) :
    ∃ t more, arguments.tokens = t :: more ∧ t.kind ≠ .rparen := by
  cases arguments with
  | last e => exact e.exists_first
  | more e comma arguments =>
      obtain ⟨t, more, htokens, ht⟩ := e.exists_first
      exact ⟨t, more ++ comma.val :: arguments.tokens, by rw [tokens, htokens]; rfl, ht⟩

/-! ## Nesting -/

mutual

/-- How many unary operators, parentheses and calls lie on a path of the tree, at most. -/
def Tree.nesting : Tree → Nat
  | .single u => u.nesting
  | .binary u _ e => max u.nesting e.nesting

/-- Signs, parentheses and calls go one deeper than what stands in them. -/
def OperandTree.nesting : OperandTree → Nat
  | .atom _ | .name _ => 0
  | .unary _ u => u.nesting + 1
  | .parens _ e _ => e.nesting + 1
  | .emptyCall .. => 1
  | .call _ _ arguments _ => arguments.nesting + 1

def ArgumentTrees.nesting : ArgumentTrees → Nat
  | .last e => e.nesting
  | .more e _ arguments => max e.nesting arguments.nesting

end

/-! ## Names -/

mutual

/-- No name of the tree that is no call stands before an opening parenthesis, where a token of the
kind `next` follows the tree. -/
def Tree.KeepsNames (next : TokenKind) : Tree → Prop
  | .single u => u.KeepsNames next
  | .binary u operator e => u.KeepsNames operator.val.kind ∧ e.KeepsNames next

/-- No name stands before a parenthesis that is not its own, `next` being what follows. -/
def OperandTree.KeepsNames (next : TokenKind) : OperandTree → Prop
  | .atom _ | .emptyCall .. => True
  | .name _ => next ≠ .lparen
  | .unary _ u => u.KeepsNames next
  | .parens _ e closing => e.KeepsNames closing.val.kind
  | .call _ _ arguments closing => arguments.KeepsNames closing.val.kind

def ArgumentTrees.KeepsNames (next : TokenKind) : ArgumentTrees → Prop
  | .last e => e.KeepsNames next
  | .more e comma arguments => e.KeepsNames comma.val.kind ∧ arguments.KeepsNames next

end

theorem kind_of_isBinary {t : Token} (h : isBinary t = true) : t.kind = .operator := by
  simp only [isBinary, Bool.and_eq_true, beq_iff_eq] at h
  exact h.1

theorem kind_of_isUnary {t : Token} (h : isUnary t = true) : t.kind = .operator := by
  simp only [isUnary, Bool.and_eq_true, beq_iff_eq] at h
  exact h.1

mutual

/-- After an operand there is an operator, a comma, a closing parenthesis or the end. -/
theorem Tree.keepsNames {next : TokenKind} (h : next ≠ .lparen) : ∀ e : Tree, e.KeepsNames next
  | .single u => u.keepsNames h
  | .binary u operator e =>
    ⟨u.keepsNames (by rw [kind_of_isBinary operator.property]; decide), e.keepsNames h⟩

/-- Before anything else than a parenthesis, the last name cannot be misread. -/
theorem OperandTree.keepsNames {next : TokenKind} (h : next ≠ .lparen) :
    ∀ u : OperandTree, u.KeepsNames next
  | .atom _ | .emptyCall .. => trivial
  | .name _ => h
  | .unary _ u => u.keepsNames h
  | .parens _ e closing => e.keepsNames (by rw [closing.property]; decide)
  | .call _ _ arguments closing => arguments.keepsNames (by rw [closing.property]; decide)

theorem ArgumentTrees.keepsNames {next : TokenKind} (h : next ≠ .lparen) :
    ∀ arguments : ArgumentTrees, arguments.KeepsNames next
  | .last e => e.keepsNames h
  | .more e comma arguments =>
    ⟨e.keepsNames (by rw [comma.property]; decide), arguments.keepsNames h⟩

end

mutual

/-- The end is no part of an expression. -/
theorem Tree.kind_ne_eof : ∀ e : Tree, ∀ t ∈ e.tokens, t.kind ≠ .eof
  | .single u => u.kind_ne_eof
  | .binary u operator e => by
    rw [Tree.tokens, List.forall_mem_append, List.forall_mem_cons]
    exact ⟨u.kind_ne_eof, by simp [kind_of_isBinary operator.property], e.kind_ne_eof⟩

/-- The end is no token of an expression. -/
theorem OperandTree.kind_ne_eof : ∀ u : OperandTree, ∀ t ∈ u.tokens, t.kind ≠ .eof
  | .atom t => by
    refine List.forall_mem_singleton.mpr fun hkind => ?_
    simpa [hkind, isOperandKind] using t.property
  | .name t => List.forall_mem_singleton.mpr (by simp [t.property])
  | .unary operator u => by
    rw [OperandTree.tokens, List.forall_mem_cons]
    exact ⟨by simp [kind_of_isUnary operator.property], u.kind_ne_eof⟩
  | .parens opening e closing => by
    rw [OperandTree.tokens, List.forall_mem_cons, List.forall_mem_append, List.forall_mem_singleton]
    exact ⟨by simp [opening.property], e.kind_ne_eof, by simp [closing.property]⟩
  | .emptyCall callee opening closing => by
    simp [OperandTree.tokens, callee.property, opening.property, closing.property]
  | .call callee opening arguments closing => by
    rw [OperandTree.tokens, List.forall_mem_cons, List.forall_mem_cons, List.forall_mem_append,
      List.forall_mem_singleton]
    exact ⟨by simp [callee.property], by simp [opening.property], arguments.kind_ne_eof,
      by simp [closing.property]⟩

theorem ArgumentTrees.kind_ne_eof : ∀ arguments : ArgumentTrees, ∀ t ∈ arguments.tokens, t.kind ≠ .eof
  | .last e => e.kind_ne_eof
  | .more e comma arguments => by
    rw [ArgumentTrees.tokens, List.forall_mem_append, List.forall_mem_cons]
    exact ⟨e.kind_ne_eof, by simp [comma.property], arguments.kind_ne_eof⟩

end

/-! ## Literal zeros -/

/-- The tokens start with a literal zero, which may have signs, or with one in parentheses, which
may have signs before them too. -/
def SpellsZero (tokens : List Token) : Prop :=
  ∃ signs after, tokens = signs ++ after ∧ (∀ s ∈ signs, isSign s = true) ∧
    ((∃ zero rest, after = zero :: rest ∧ isZeroNumber zero = true) ∨
      ∃ opening inner zero closing rest, after = opening :: (inner ++ zero :: closing :: rest) ∧
        opening.kind = .lparen ∧ (∀ s ∈ inner, isSign s = true) ∧ isZeroNumber zero = true ∧
        closing.kind = .rparen)

theorem kind_of_isZeroNumber {t : Token} (h : isZeroNumber t = true) : t.kind = .number := by
  simp only [isZeroNumber, Bool.and_eq_true, beq_iff_eq] at h
  exact h.1

theorem isSign_of_kind_ne {t : Token} (h : t.kind ≠ .operator) : isSign t = false := by
  simp [isSign, h]

theorem isSign_of_isZeroNumber {t : Token} (h : isZeroNumber t = true) : isSign t = false :=
  isSign_of_kind_ne (by rw [kind_of_isZeroNumber h]; decide)

theorem startsOutside_cons {t : Token} {rest : List Token} (h : isSign t = false) :
    StartsOutside isSign (t :: rest) := by
  intro a ha
  cases ha
  exact h

/-- Tokens that start with a zero have signs before it at most, and one pair of parentheses around
it. -/
theorem startsWithZero_iff {tokens : List Token} : startsWithZero tokens = true ↔ SpellsZero tokens := by
  constructor
  · intro h
    refine ⟨tokens.takeWhile isSign, tokens.dropWhile isSign, List.takeWhile_append_dropWhile.symm,
      fun s hs => of_mem_takeWhile hs, ?_⟩
    unfold startsWithZero at h
    split at h
    · next opening rest hafter =>
        split at h
        · next hopening =>
            split at h
            · next zero closing more hmore =>
                rw [Bool.and_eq_true, beq_iff_eq] at h
                refine .inr ⟨opening, rest.takeWhile isSign, zero, closing, more, ?_, hopening,
                  fun s hs => of_mem_takeWhile hs, h.1, h.2⟩
                rw [hafter, ← hmore, List.takeWhile_append_dropWhile]
            · contradiction
        · exact .inl ⟨opening, rest, hafter, h⟩
    · contradiction
  · rintro ⟨signs, after, rfl, hsigns, ⟨zero, rest, rfl, hzero⟩ |
      ⟨opening, inner, zero, closing, rest, rfl, hopening, hinner, hzero, hclosing⟩⟩
    · have hdrop : (signs ++ zero :: rest).dropWhile isSign = zero :: rest :=
        dropWhile_append_of_startsOutside hsigns (startsOutside_cons (isSign_of_isZeroNumber hzero))
      rw [startsWithZero, hdrop]
      simp [kind_of_isZeroNumber hzero, hzero]
    · have hdrop : (signs ++ opening :: (inner ++ zero :: closing :: rest)).dropWhile isSign = _ :=
        dropWhile_append_of_startsOutside hsigns
          (startsOutside_cons (isSign_of_kind_ne (by rw [hopening]; decide)))
      have hdrop' : (inner ++ zero :: closing :: rest).dropWhile isSign = zero :: closing :: rest :=
        dropWhile_append_of_startsOutside hinner (startsOutside_cons (isSign_of_isZeroNumber hzero))
      rw [startsWithZero, hdrop]
      simp [hopening, hdrop', hzero, hclosing]

instance : DecidablePred SpellsZero := fun _ => decidable_of_iff _ startsWithZero_iff

/-! ## Operands that are literal zeros -/

namespace OperandTree

/-- A number that is zero, with any signs before it. -/
def isSignedZero : OperandTree → Bool
  | .atom t => isZeroNumber t
  | .unary operator u => isSign operator && u.isSignedZero
  | _ => false

/-- A signed zero, or one in parentheses with any signs before these. -/
def isLiteralZero : OperandTree → Bool
  | .atom t => isZeroNumber t
  | .unary operator u => isSign operator && u.isLiteralZero
  | .parens _ (.single u) _ => u.isSignedZero
  | _ => false

end OperandTree

/-- A zero with a closing parenthesis behind it, after any signs. -/
def startsWithClosedZero (tokens : List Token) : Bool :=
  match tokens.dropWhile isSign with
  | zero :: close :: _ => isZeroNumber zero && close.kind == .rparen
  | _ => false

section Tokens

variable {t next : Token} {rest : List Token}

theorem isZeroNumber_of_kind_ne (h : t.kind ≠ .number) : isZeroNumber t = false := by
  simp [isZeroNumber, h]

/-- Signs before a zero are passed. -/
theorem startsWithZero_sign (h : isSign t = true) : startsWithZero (t :: rest) = startsWithZero rest := by
  rw [startsWithZero, startsWithZero, List.dropWhile_cons_of_pos h]

/-- Without signs and parentheses it is the first token that counts. -/
theorem startsWithZero_cons (hsign : isSign t = false) (ht : t.kind ≠ .lparen) :
    startsWithZero (t :: rest) = isZeroNumber t := by
  rw [startsWithZero, List.dropWhile_cons_of_neg (by simp [hsign])]
  exact if_neg ht

/-- Behind a parenthesis the zero must be closed in at once. -/
theorem startsWithZero_lparen (ht : t.kind = .lparen) :
    startsWithZero (t :: rest) = startsWithClosedZero rest := by
  have hsign : isSign t = false := isSign_of_kind_ne (by simp [ht])
  rw [startsWithZero, List.dropWhile_cons_of_neg (by simp [hsign])]
  exact if_pos ht

/-- Inside of a parenthesis, signs before a zero are passed. -/
theorem startsWithClosedZero_sign (h : isSign t = true) :
    startsWithClosedZero (t :: rest) = startsWithClosedZero rest := by
  rw [startsWithClosedZero, startsWithClosedZero, List.dropWhile_cons_of_pos h]

/-- Inside of a parenthesis, the zero stands right before the one that closes. -/
theorem startsWithClosedZero_cons (hsign : isSign t = false) :
    startsWithClosedZero (t :: next :: rest) = (isZeroNumber t && next.kind == .rparen) := by
  rw [startsWithClosedZero, List.dropWhile_cons_of_neg (by simp [hsign])]

theorem startsWithClosedZero_of_not_zero (hsign : isSign t = false) (hzero : isZeroNumber t = false) :
    startsWithClosedZero (t :: rest) = false := by
  cases rest with
  | nil => rw [startsWithClosedZero, List.dropWhile_cons_of_neg (by simp [hsign])]
  | cons next rest => rw [startsWithClosedZero_cons hsign, hzero, Bool.false_and]

end Tokens

theorem isSign_of_isOperandKind {t : Token} (h : isOperandKind t.kind = true) : isSign t = false := by
  refine isSign_of_kind_ne fun hkind => ?_
  rw [hkind] at h
  contradiction

namespace OperandTree

/-- Behind an opening parenthesis the tokens go on with a signed zero just if the operand is one, and
the closing parenthesis follows it. -/
theorem startsWithClosedZero_append : ∀ (u : OperandTree) (next : Token) (rest : List Token),
    startsWithClosedZero (u.tokens ++ next :: rest) = (u.isSignedZero && next.kind == .rparen)
  | .atom t, next, rest => startsWithClosedZero_cons (isSign_of_isOperandKind t.property)
  | .unary operator u, next, rest => by
    cases hsign : isSign operator with
    | true =>
        rw [tokens, List.cons_append, startsWithClosedZero_sign hsign, isSignedZero, hsign,
          Bool.true_and, u.startsWithClosedZero_append]
    | false =>
        have hkind := kind_of_isUnary operator.property
        have hzero := isZeroNumber_of_kind_ne (t := operator) (by simp [hkind])
        rw [tokens, List.cons_append, startsWithClosedZero_of_not_zero hsign hzero, isSignedZero, hsign,
          Bool.false_and, Bool.false_and]
  | .name t, _, _ | .emptyCall t _ _, _, _ | .call t _ _ _, _, _ =>
    startsWithClosedZero_of_not_zero (isSign_of_kind_ne (by simp [t.property]))
      (isZeroNumber_of_kind_ne (by simp [t.property]))
  | .parens opening _ _, _, _ =>
    startsWithClosedZero_of_not_zero (isSign_of_kind_ne (by simp [opening.property]))
      (isZeroNumber_of_kind_ne (by simp [opening.property]))

/-- An operand says by itself whether the tokens start with a literal zero. -/
theorem startsWithZero_append : ∀ (u : OperandTree) (rest : List Token),
    startsWithZero (u.tokens ++ rest) = u.isLiteralZero
  | .atom t, rest => by
    refine startsWithZero_cons (isSign_of_isOperandKind t.property) fun hkind => ?_
    simpa [hkind, isOperandKind] using t.property
  | .unary operator u, rest => by
    cases hsign : isSign operator with
    | true =>
        rw [tokens, List.cons_append, startsWithZero_sign hsign, isLiteralZero, hsign, Bool.true_and,
          u.startsWithZero_append]
    | false =>
        have hkind := kind_of_isUnary operator.property
        rw [tokens, List.cons_append, startsWithZero_cons hsign (by simp [hkind]),
          isZeroNumber_of_kind_ne (by simp [hkind]), isLiteralZero, hsign, Bool.false_and]
  | .name t, _ | .emptyCall t _ _, _ | .call t _ _ _, _ => by
    refine (startsWithZero_cons (isSign_of_kind_ne ?_) ?_).trans (isZeroNumber_of_kind_ne ?_) <;>
      simp [t.property]
  | .parens opening (.single u) closing, rest => by
    rw [tokens, List.cons_append, startsWithZero_lparen opening.property, List.append_assoc, Tree.tokens,
      List.singleton_append, u.startsWithClosedZero_append, closing.property]
    simp [isLiteralZero]
  | .parens opening (.binary u operator e) closing, rest => by
    have hkind := kind_of_isBinary operator.property
    rw [tokens, List.cons_append, startsWithZero_lparen opening.property, Tree.tokens, List.append_assoc,
      List.append_assoc, List.cons_append, u.startsWithClosedZero_append, hkind]
    simp [isLiteralZero]

end OperandTree

/-- The operand that an expression starts with. -/
def Tree.first : Tree → OperandTree
  | .single u | .binary u _ _ => u

/-- Whether an expression starts with a literal zero its first operand says, whatever tokens follow. -/
theorem Tree.startsWithZero_append (e : Tree) (rest : List Token) :
    startsWithZero (e.tokens ++ rest) = e.first.isLiteralZero := by
  cases e with
  | single u => exact u.startsWithZero_append rest
  | binary u operator e =>
      rw [tokens, List.append_assoc]
      exact u.startsWithZero_append _

/-- The tokens of an expression start with a zero just if its first operand is one. -/
theorem Tree.spellsZero_iff (e : Tree) : SpellsZero e.tokens ↔ e.first.isLiteralZero = true := by
  rw [← startsWithZero_iff, ← List.append_nil e.tokens, e.startsWithZero_append]

/-! ## Findings -/

/-- What is found at a binary operator by its text alone: it is one of another language. -/
def foreignOperator? (operator : Token) : Option Diagnostic :=
  if operator.text = ['|', '|'] then some .doubledOr
  else if operator.text = ['&', '&'] then some .doubledAnd
  else if operator.text = ['='] then some .singleEquals
  else none

mutual

/-- What a walk over the tree finds, from left to right. -/
def Tree.findings (context : Context) : Tree → List Diagnostic
  | .single u => u.findings context
  | .binary u operator e =>
    u.findings context ++ (foreignOperator? operator).toList ++
      (if operator.val.text = ['/'] ∧ SpellsZero e.tokens then [.zeroDivisor] else []) ++
      e.findings context

/-- What is found at an operand and in it. -/
def OperandTree.findings (context : Context) : OperandTree → List Diagnostic
  | .atom t => referenceFindings context t
  | .name _ => []
  | .unary _ u => u.findings context
  | .parens _ e _ => e.findings context
  | .emptyCall name _ _ =>
    nameFindings (Text.lowerAscii name.val.text) ++ arityFindings (Text.lowerAscii name.val.text) 0
  | .call name _ arguments _ =>
    nameFindings (Text.lowerAscii name.val.text) ++ arguments.findings context ++
      arityFindings (Text.lowerAscii name.val.text) arguments.count

/-- What is found in the arguments, one after another. -/
def ArgumentTrees.findings (context : Context) : ArgumentTrees → List Diagnostic
  | .last e => e.findings context
  | .more e _ arguments => e.findings context ++ arguments.findings context

end

/-- A binary operator is looked at with the operand after it, but no further. -/
theorem operatorFindings_append (operator : Token) (e : Tree) (rest : List Token) :
    operatorFindings operator (e.tokens ++ rest) =
      (foreignOperator? operator).toList ++
        (if operator.text = ['/'] ∧ SpellsZero e.tokens then [.zeroDivisor] else []) := by
  unfold operatorFindings foreignOperator?
  simp only [e.startsWithZero_append, e.spellsZero_iff]
  split
  · next h => simp [h]
  split
  · next h => simp [h]
  split
  · next h => simp [h]
  · rfl

end CatchmentLint.Expression
