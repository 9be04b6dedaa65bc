import CatchmentLint.Proofs.Expression.Nesting

/-!
# CatchmentLint.Proofs.Expression.Division

Divisors of an expression, and which of them are told of as a literal zero.

* `Tree.divisors` — what each division divides by, which is the whole phrase of powers behind it;
* `walkLevel_power` — that phrase is what the tightest level of precedence walks;
* `Tree.count_findings` — told of is each divisor of which the first operand is a literal zero;
* `count_zeroDivisor` — so the divisors that are one are told of, and the powers of one are as well.
-/

namespace CatchmentLint.Expression

/-! ## Divisors -/

/-- The operators of the tightest level of precedence. -/
def powerOperators : List Text := ["^", "**"].map String.toList

/-- The ladder of precedence ends in the powers. -/
theorem getLast?_levels : levels.getLast? = some powerOperators := by decide

/-- The operands that powers bind at the start of the expression. -/
def Tree.power : Tree → Tree
  | .single u => .single u
  | .binary u operator e =>
    if isOneOf powerOperators operator then .binary u operator e.power else .single u

mutual

/-- What the divisions of the expression divide by, from left to right. -/
def Tree.divisors : Tree → List Tree
  | .single u => u.divisors
  | .binary u operator e =>
    u.divisors ++ (if operator.val.text = ['/'] then [e.power] else []) ++ e.divisors

def OperandTree.divisors : OperandTree → List Tree
  | .atom _ | .name _ | .emptyCall .. => []
  | .unary _ u => u.divisors
  | .parens _ e _ => e.divisors
  | .call _ _ arguments _ => arguments.divisors

def ArgumentTrees.divisors : ArgumentTrees → List Tree
  | .last e => e.divisors
  | .more e _ arguments => e.divisors ++ arguments.divisors

end

/-- The divisor is a literal zero. -/
def Tree.isLiteralZero : Tree → Bool
  | .single u => u.isLiteralZero
  | .binary .. => false

/-- The divisor is a power of a literal zero. -/
def Tree.isPowerOfZero : Tree → Bool
  | .single _ => false
  | .binary u _ _ => u.isLiteralZero

@[simp] theorem Tree.first_power (e : Tree) : e.power.first = e.first := by
  cases e with
  | single u => rfl
  | binary u operator e =>
      rw [power]
      split <;> rfl

/-- The first operand is a literal zero where the divisor is one or a power of one, and not both. -/
theorem countP_first_isLiteralZero (divisors : List Tree) :
    divisors.countP (·.first.isLiteralZero) =
      divisors.countP Tree.isLiteralZero + divisors.countP Tree.isPowerOfZero := by
  induction divisors with
  | nil => rfl
  | cons e divisors ih =>
      rw [List.countP_cons, List.countP_cons, List.countP_cons, ih]
      cases e with
      | single u =>
          have hpower : (Tree.single u).isPowerOfZero = false := rfl
          simp only [hpower, Bool.false_eq_true, if_false, Nat.add_zero]
          exact Nat.add_right_comm _ _ _
      | binary u operator e =>
          have hzero : (Tree.binary u operator e).isLiteralZero = false := rfl
          simp only [hzero, Bool.false_eq_true, if_false, Nat.add_zero]
          exact Nat.add_assoc _ _ _

/-! ## The level of powers -/

section Power

variable {context : Context} {room : Nat}

/-- Where no binary operator stands, no power does: powers are a level of the binary operators. -/
theorem startsOutside_powerOperators {tokens : List Token} (h : StartsOutside isBinary tokens) :
    StartsOutside (isOneOf powerOperators) tokens := by
  have hsubset : ∀ text ∈ powerOperators, text ∈ binaryOperators := by
    intro text htext
    rw [← flatten_levels]
    exact List.mem_flatten_of_mem (List.mem_of_getLast? getLast?_levels) htext
  intro t ht
  have hbinary : ¬(t.kind = .operator ∧ t.text ∈ binaryOperators) := by
    simpa [isBinary] using h t ht
  simpa [isOneOf] using fun hkind htext => hbinary ⟨hkind, hsubset _ htext⟩

/-- The tightest level of precedence walks the powers at the start of an expression, and stops
behind them. -/
theorem walkLevel_power : ∀ (e : Tree) {rest : List Token}, e.nesting ≤ room →
    e.KeepsNames (nextKind rest) → StartsOutside isBinary rest →
      ∃ after, e.tokens = e.power.tokens ++ after ∧
        walkLevel powerOperators (walkOperand context (walk context room)) (e.tokens ++ rest) =
          (Walk.done (after ++ rest)).after (e.power.findings context)
  | .single u, rest, hnesting, hnames, hrest => by
    refine ⟨[], (List.append_nil _).symm, ?_⟩
    exact walkLevel_single (walkOperand_walk_advances context room)
      (walkOperand_tokens u rest hnesting hnames) (startsOutside_powerOperators hrest)
  | .binary u operator e, rest, hnesting, hnames, hrest => by
    have hu : walkOperand context (walk context room) (u.tokens ++ operator.val :: (e.tokens ++ rest)) =
        (Walk.done (operator.val :: (e.tokens ++ rest))).after (u.findings context) :=
      walkOperand_tokens u _ (Nat.le_trans (Nat.le_max_left _ _) hnesting) hnames.1
    rw [Tree.tokens, Tree.power, List.append_assoc, List.cons_append]
    cases hoperator : isOneOf powerOperators operator with
    | true =>
        obtain ⟨after, htokens, hwalk⟩ :=
          walkLevel_power e (Nat.le_trans (Nat.le_max_right _ _) hnesting) hnames.2 hrest
        refine ⟨after, by simp [Tree.tokens, ← htokens], ?_⟩
        rw [walkLevel_binary (walkOperand_walk_advances context room) hu hoperator, hwalk,
          operatorFindings_append, Walk.after_after, if_pos rfl, Tree.findings]
        simp only [e.spellsZero_iff, e.power.spellsZero_iff, e.first_power, List.append_assoc]
    | false =>
        refine ⟨operator.val :: e.tokens, rfl, ?_⟩
        refine walkLevel_single (walkOperand_walk_advances context room) hu ?_
        intro t ht
        cases ht
        exact hoperator

end Power

/-! ## Findings at divisors -/

theorem count_nameFindings (name : Text) : (nameFindings name).count .zeroDivisor = 0 :=
  List.count_eq_zero.mpr fun h => by cases eq_unknownFunction_of_mem h

theorem count_arityFindings (name : Text) (count : Nat) :
    (arityFindings name count).count .zeroDivisor = 0 :=
  List.count_eq_zero.mpr fun h => by
    obtain ⟨arity, heq⟩ := exists_wrongArity_of_mem h
    cases heq

theorem count_foreignOperator? (operator : Token) :
    (foreignOperator? operator).toList.count .zeroDivisor = 0 := by
  have hne : foreignOperator? operator ≠ some .zeroDivisor := by
    unfold foreignOperator?
    grind
  exact List.count_eq_zero.mpr fun h => hne (Option.mem_toList.mp h)

mutual

/-- Told of is each divisor of which the first operand is a literal zero. -/
theorem Tree.count_findings (context : Context) : ∀ e : Tree,
    (e.findings context).count .zeroDivisor = e.divisors.countP (·.first.isLiteralZero)
  | .single u => u.count_findings context
  | .binary u operator e => by
    have hdivisor : (if operator.val.text = ['/'] ∧ SpellsZero e.tokens then
        [Diagnostic.zeroDivisor] else []).count .zeroDivisor =
          (if operator.val.text = ['/'] then [e.power] else []).countP (·.first.isLiteralZero) := by
      by_cases htext : operator.val.text = ['/'] <;>
        cases hzero : e.first.isLiteralZero <;> simp [htext, hzero, e.spellsZero_iff]
    rw [Tree.findings, Tree.divisors, List.count_append, List.count_append, List.count_append,
      count_foreignOperator?, hdivisor, List.countP_append, List.countP_append, u.count_findings,
      e.count_findings, Nat.add_zero]

theorem OperandTree.count_findings (context : Context) : ∀ u : OperandTree,
    (u.findings context).count .zeroDivisor = u.divisors.countP (·.first.isLiteralZero)
  | .atom t => by
    refine List.count_eq_zero.mpr fun h => ?_
    obtain ⟨p, hp⟩ := exists_problem_of_mem_referenceFindings h
    cases hp
  | .name _ => rfl
  | .unary _ u => u.count_findings context
  | .parens _ e _ => e.count_findings context
  | .emptyCall callee _ _ => by
    rw [OperandTree.findings, List.count_append, count_nameFindings, count_arityFindings]
    rfl
  | .call callee _ arguments _ => by
    rw [OperandTree.findings, OperandTree.divisors, List.count_append, List.count_append,
      count_nameFindings, count_arityFindings, arguments.count_findings, Nat.zero_add, Nat.add_zero]

theorem ArgumentTrees.count_findings (context : Context) : ∀ arguments : ArgumentTrees,
    (arguments.findings context).count .zeroDivisor =
      arguments.divisors.countP (·.first.isLiteralZero)
  | .last e => e.count_findings context
  | .more e _ arguments => by
    rw [ArgumentTrees.findings, ArgumentTrees.divisors, List.count_append, List.countP_append,
      e.count_findings, arguments.count_findings]

end

theorem count_message_zeroDivisor (found : List Diagnostic) :
    (found.map Diagnostic.message).count Diagnostic.zeroDivisor.message = found.count .zeroDivisor := by
  rw [List.count, List.count, List.countP_map]
  refine List.countP_congr fun d _ => ?_
  simpa using message_eq_zeroDivisor_iff

/-! ## Whole expressions -/

/-- In an expression that is checked up to its end a division is warned of just where what it divides
by is a literal zero or a power of one. -/
theorem count_zeroDivisor (context : Context) {text : Text}
    (h : ∀ e, .syntaxError e ∉ check context text) :
    ∃ tokens, Token.readAll text = .ok tokens ∧ (∃ e : Tree, e.tokens = tokens.dropLast) ∧
      ∀ e : Tree, e.tokens = tokens.dropLast →
        ((check context text).map Diagnostic.message).count Diagnostic.zeroDivisor.message =
          e.divisors.countP Tree.isLiteralZero + e.divisors.countP Tree.isPowerOfZero := by
  obtain ⟨tokens, hread, hexists⟩ := exists_tree_of_check h
  refine ⟨tokens, hread, hexists, fun e htokens => ?_⟩
  have hnesting := nesting_le_of_check h hread htokens
  obtain ⟨front, last, rfl, hlast, -⟩ := Token.readFrom_ends hread
  rw [List.dropLast_concat] at htokens
  have hcheck : check context text = e.findings context := by
    rw [check, hread, ← htokens]
    exact checkTokens_whole context hlast hnesting
  rw [hcheck, count_message_zeroDivisor, e.count_findings, countP_first_isLiteralZero]

/-- The tree of `x / -(0) - y / 0 ^ 2`. -/
def zeroDivisorsTree : Tree :=
  let x : OperandTree := .name ⟨⟨.ident, ['x'], 0⟩, rfl⟩
  let y : OperandTree := .name ⟨⟨.ident, ['y'], 11⟩, rfl⟩
  let zero : OperandTree := .unary ⟨⟨.operator, ['-'], 4⟩, by decide⟩
    (.parens ⟨⟨.lparen, ['('], 5⟩, rfl⟩ (.single (.atom ⟨⟨.number, ['0'], 6⟩, rfl⟩))
      ⟨⟨.rparen, [')'], 7⟩, rfl⟩)
  .binary x ⟨⟨.operator, ['/'], 2⟩, by decide⟩
    (.binary zero ⟨⟨.operator, ['-'], 9⟩, by decide⟩
      (.binary y ⟨⟨.operator, ['/'], 13⟩, by decide⟩
        (.binary (.atom ⟨⟨.number, ['0'], 15⟩, rfl⟩) ⟨⟨.operator, ['^'], 17⟩, by decide⟩
          (.single (.atom ⟨⟨.number, ['2'], 19⟩, rfl⟩)))))

/-- Of its two divisors the first is a literal zero and the second a power of one. -/
theorem count_zeroDivisorsTree :
    ((check .empty "x / -(0) - y / 0 ^ 2".toList).map Diagnostic.message).count
      Diagnostic.zeroDivisor.message = 2 := by
  have hread : Token.readAll "x / -(0) - y / 0 ^ 2".toList =
      .ok (zeroDivisorsTree.tokens ++ [⟨.eof, [], 20⟩]) := by decide +kernel
  have hcheck : ∀ e, .syntaxError e ∉ check .empty "x / -(0) - y / 0 ^ 2".toList := by
    have hfound : check .empty "x / -(0) - y / 0 ^ 2".toList = [.zeroDivisor, .zeroDivisor] := by
      decide +kernel
    rw [hfound]
    simp
  obtain ⟨tokens, htokens, -, hcount⟩ := count_zeroDivisor .empty hcheck
  cases hread.symm.trans htokens
  rw [hcount zeroDivisorsTree List.dropLast_concat.symm]
  decide +kernel

/-- The tree of `x / 0 ^ 2`. -/
def powerOfZeroTree : Tree :=
  .binary (.name ⟨⟨.ident, ['x'], 0⟩, rfl⟩) ⟨⟨.operator, ['/'], 2⟩, by decide⟩
    (.binary (.atom ⟨⟨.number, ['0'], 4⟩, rfl⟩) ⟨⟨.operator, ['^'], 6⟩, by decide⟩
      (.single (.atom ⟨⟨.number, ['2'], 8⟩, rfl⟩)))

/-- The power of a zero is warned of, although no divisor is a literal zero. -/
theorem count_powerOfZeroTree :
    Token.readAll "x / 0 ^ 2".toList = .ok (powerOfZeroTree.tokens ++ [⟨.eof, [], 9⟩]) ∧
      (∀ e, .syntaxError e ∉ check .empty "x / 0 ^ 2".toList) ∧
        ((check .empty "x / 0 ^ 2".toList).map Diagnostic.message).count
            Diagnostic.zeroDivisor.message ≠
          powerOfZeroTree.divisors.countP Tree.isLiteralZero := by
  have hfound : check .empty "x / 0 ^ 2".toList = [.zeroDivisor] := by decide +kernel
  rw [hfound]
  exact ⟨by decide +kernel, by simp, by decide +kernel⟩

end CatchmentLint.Expression
