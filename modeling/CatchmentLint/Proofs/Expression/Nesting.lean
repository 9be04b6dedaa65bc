import CatchmentLint.Proofs.Expression.Ending
import CatchmentLint.Proofs.Expression.Grammar

/-!
# CatchmentLint.Proofs.Expression.Nesting

Where unary operators, parentheses and calls nest too deep the check of an expression ends.

* `Reaches` — before a unary operator, a parenthesis or a call at a depth there is nothing but what
  derives from the grammar and nests less deep;
* `walkExpression_nestingTooDeep_iff` — the walk runs out of room just where it comes to such a place
  at the depth that it has room for;
* `Reaches.mono`, `Tree.reaches` — what nests deeper comes to a place of each depth above;
* `exists_tree_of_check`, `nesting_le_of_check` — what is checked without an error of the syntax is an
  expression, and nests no deeper than it may;
* `error_ends_check` — an error of the syntax is the last of the messages, and that about the nesting
  is there just where the walk comes to a place too deep.
-/

namespace CatchmentLint.Expression

/-! ## Places -/

/-- A unary operator, a parenthesis or a call starts here. -/
inductive Opens : List Token → Prop
  | unary {t : Token} {rest : List Token} (ht : isUnary t = true) : Opens (t :: rest)
  | parens {t : Token} {rest : List Token} (ht : t.kind = .lparen) : Opens (t :: rest)
  | call {name opening : Token} {rest : List Token} (hname : name.kind = .ident)
      (hopening : opening.kind = .lparen) : Opens (name :: opening :: rest)

/-- What a walk may have to pass next. -/
inductive Part where
  | operand
  | expression
  /-- The arguments of a call, of which there is one at least. -/
  | arguments

/-- A walk over the part comes to a unary operator, a parenthesis or a call that is enclosed in
`depth` others, and to none before. -/
inductive Reaches : Part → (depth : Nat) → List Token → Prop
  | here {tokens : List Token} (h : Opens tokens) : Reaches .operand 0 tokens
  | unary {depth : Nat} {t : Token} {rest : List Token} (ht : isUnary t = true)
      (h : Reaches .operand depth rest) : Reaches .operand (depth + 1) (t :: rest)
  | parens {depth : Nat} {t : Token} {rest : List Token} (ht : t.kind = .lparen)
      (h : Reaches .expression depth rest) : Reaches .operand (depth + 1) (t :: rest)
  | call {depth : Nat} {name opening : Token} {rest : List Token} (hname : name.kind = .ident)
      (hopening : opening.kind = .lparen) (h : Reaches .arguments depth rest) :
      Reaches .operand (depth + 1) (name :: opening :: rest)
  | first {depth : Nat} {tokens : List Token} (h : Reaches .operand depth tokens) :
      Reaches .expression depth tokens
  | afterOperator {depth : Nat} {rest : List Token} (u : OperandTree)
      (operator : {t : Token // isBinary t = true}) (hu : u.nesting ≤ depth)
      (h : Reaches .expression depth rest) : Reaches .expression depth (u.tokens ++ operator.val :: rest)
  | argument {depth : Nat} {tokens : List Token} (h : Reaches .expression depth tokens) :
      Reaches .arguments depth tokens
  | afterComma {depth : Nat} {rest : List Token} (e : Tree) (comma : TokenOf .comma)
      (he : e.nesting ≤ depth) (h : Reaches .arguments depth rest) :
      Reaches .arguments depth (e.tokens ++ comma.val :: rest)

/-- There is a token to start with, and that is no closing parenthesis. -/
theorem Reaches.exists_first {part : Part} {depth : Nat} {tokens : List Token}
    (h : Reaches part depth tokens) : ∃ t more, tokens = t :: more ∧ t.kind ≠ .rparen := by
  have hunary : ∀ t, isUnary t = true → t.kind ≠ .rparen := fun t ht => by simp [kind_of_isUnary ht]
  induction h with
  | here h =>
      cases h with
      | unary ht => exact ⟨_, _, rfl, hunary _ ht⟩
      | parens ht => exact ⟨_, _, rfl, by simp [ht]⟩
      | call hname => exact ⟨_, _, rfl, by simp [hname]⟩
  | unary ht => exact ⟨_, _, rfl, hunary _ ht⟩
  | parens ht => exact ⟨_, _, rfl, by simp [ht]⟩
  | call hname => exact ⟨_, _, rfl, by simp [hname]⟩
  | first _ ih => exact ih
  | argument _ ih => exact ih
  | afterOperator u =>
      obtain ⟨t, more, htokens, ht⟩ := u.exists_first
      exact ⟨t, _, by rw [htokens]; rfl, ht⟩
  | afterComma e =>
      obtain ⟨t, more, htokens, ht⟩ := e.exists_first
      exact ⟨t, _, by rw [htokens]; rfl, ht⟩

/-! ## Places that the walk comes to -/

/-- A walk over the part ends since it runs out of room, whatever is to be found at the end of a call. -/
def EndsTooDeep (context : Context) (room : Nat) (part : Part) (tokens : List Token) : Prop :=
  match part with
  | .operand => (walkOperand context (walk context room) tokens).rest = .error (.nestingTooDeep maxNesting)
  | .expression =>
    (walkExpression context (walk context room) tokens).rest = .error (.nestingTooDeep maxNesting)
  | .arguments => ∀ finish count,
    (walkArgumentsFrom context (walk context room) finish count tokens).rest =
      .error (.nestingTooDeep maxNesting)

theorem endsTooDeep_of_opens (context : Context) {tokens : List Token} (h : Opens tokens) :
    EndsTooDeep context 0 .operand tokens := by
  unfold EndsTooDeep
  cases h with
  | unary ht => rw [walkOperand, if_pos ht]; rfl
  | parens ht =>
      rw [walkOperand_of_not_unary (isUnary_of_kind_ne (by simp [ht]))]
      simp only [walkPrimary, ht]
      rfl
  | call hname hopening =>
      rw [walkOperand_of_not_unary (isUnary_of_kind_ne (by simp [hname]))]
      simp only [walkPrimary, hname, hopening]
      rfl

theorem Reaches.endsTooDeep (context : Context) {part : Part} {depth : Nat} {tokens : List Token}
    (h : Reaches part depth tokens) : EndsTooDeep context depth part tokens := by
  induction h with
  | here h => exact endsTooDeep_of_opens context h
  | unary ht _ ih =>
      rw [EndsTooDeep, walkOperand_unary ht]
      exact ih
  | parens ht _ ih =>
      rw [EndsTooDeep, walkOperand_parens ht, Walk.andThen_of_error ih]
      exact ih
  | call hname hopening h ih =>
      obtain ⟨t, more, rfl, ht⟩ := h.exists_first
      rw [EndsTooDeep, walkOperand_call hname hopening, walkCall_arguments hopening ht]
      exact ih _ _
  | first _ ih =>
      rw [EndsTooDeep, walkExpression, Walk.andThen_of_error ih]
      exact ih
  | @afterOperator depth rest u operator hu _ ih =>
      -- What stands before the operator is a tree, so the walk comes through it.
      have hnext : nextKind (operator.val :: rest) ≠ .lparen := by
        rw [nextKind]
        simp [kind_of_isBinary operator.property]
      have hpasses : walkOperand context (walk context depth) (u.tokens ++ operator.val :: rest) =
          (Walk.done (operator.val :: rest)).after (u.findings context) :=
        walkOperand_tokens u (operator.val :: rest) hu (u.keepsNames hnext)
      rw [EndsTooDeep, walkExpression_binary hpasses operator.property rfl]
      exact ih
  | argument _ ih =>
      intro finish count
      rw [walkArgumentsFrom, Walk.andThen_of_error ih]
      exact ih
  | @afterComma depth rest e comma he _ ih =>
      intro finish count
      have hnext : nextKind (comma.val :: rest) ≠ .lparen := by
        rw [nextKind]
        simp [comma.property]
      have hoperator : comma.val.kind ≠ .operator := by simp [comma.property]
      rw [walkArgumentsFrom, walkExpression_tokens e (comma.val :: rest) he (e.keepsNames hnext)
        (startsOutside_isBinary hoperator), Walk.after_andThen, Walk.done_andThen,
        walkArguments_comma (walk_advances context depth) comma.property]
      exact ih _ _

/-! ## Where the walk runs out of room -/

/-- Where the walk of a phrase runs out of room there is a place too deep, given the tokens that make
it go one level deeper. -/
structure RunsOut (room : Nat) (walks : Phrase → List Token → Walk) : Prop where
  operand : ∀ {t rest limit}, isUnary t = true →
    (walks .operand rest).rest = .error (.nestingTooDeep limit) →
      limit = maxNesting ∧ Reaches .operand room (t :: rest)
  expression : ∀ {t rest limit}, t.kind = .lparen →
    (walks .expression rest).rest = .error (.nestingTooDeep limit) →
      limit = maxNesting ∧ Reaches .operand room (t :: rest)
  call : ∀ {name opening rest limit}, name.kind = .ident → opening.kind = .lparen →
    (walks .call (name :: opening :: rest)).rest = .error (.nestingTooDeep limit) →
      limit = maxNesting ∧ Reaches .operand room (name :: opening :: rest)

section RunsOut

variable {context : Context} {room limit : Nat} {tokens : List Token}
  (h : RunsOut room (walk context room))

include h

theorem reaches_of_walkPrimary
    (hwalk : (walkPrimary context (walk context room) tokens).rest = .error (.nestingTooDeep limit)) :
    limit = maxNesting ∧ Reaches .operand room tokens := by
  cases tokens with
  | nil => cases hwalk
  | cons t rest =>
      cases hkind : t.kind <;> simp only [walkPrimary, hkind] at hwalk <;> try cases hwalk
      case ident =>
        split at hwalk
        · next next after =>
            split at hwalk
            · next hopening => exact h.call hkind hopening hwalk
            · contradiction
        · contradiction
      case lparen =>
        rcases Walk.andThen_rest_eq_error.mp hwalk with hinner | ⟨middle, -, hclosing⟩
        · exact h.expression hkind hinner
        · exact absurd hclosing expect_rest_ne_nestingTooDeep

theorem reaches_of_walkOperand
    (hwalk : (walkOperand context (walk context room) tokens).rest = .error (.nestingTooDeep limit)) :
    limit = maxNesting ∧ Reaches .operand room tokens := by
  cases tokens with
  | nil => cases hwalk
  | cons t rest =>
      rw [walkOperand] at hwalk
      split at hwalk
      · next hunary => exact h.operand hunary hwalk
      · exact reaches_of_walkPrimary h hwalk

/-- The operand before a chain of operators belongs to the same expression. -/
theorem reaches_of_walkChain {fuel : Nat} (u : OperandTree) (hu : u.nesting ≤ room)
    (hwalk : (walkChain binaryOperators (walkOperand context (walk context room)) fuel tokens).rest =
      .error (.nestingTooDeep limit)) :
    limit = maxNesting ∧ Reaches .expression room (u.tokens ++ tokens) := by
  induction fuel generalizing tokens u with
  | zero => contradiction
  | succ fuel ih =>
      cases tokens with
      | nil => contradiction
      | cons operator rest =>
          rw [walkChain] at hwalk
          split at hwalk
          · next hoperator =>
              rcases Walk.andThen_rest_eq_error.mp hwalk with hoperand | ⟨middle, hmiddle, hchain⟩
              · obtain ⟨rfl, hreaches⟩ := reaches_of_walkOperand h hoperand
                exact ⟨rfl, .afterOperator u ⟨operator, hoperator⟩ hu (.first hreaches)⟩
              · obtain ⟨next, rfl, hnext⟩ := exists_operandTree (walk_derives context room) hmiddle
                obtain ⟨rfl, hreaches⟩ := ih next hnext hchain
                exact ⟨rfl, .afterOperator u ⟨operator, hoperator⟩ hu hreaches⟩
          · contradiction

theorem reaches_of_walkExpression
    (hwalk : (walkExpression context (walk context room) tokens).rest = .error (.nestingTooDeep limit)) :
    limit = maxNesting ∧ Reaches .expression room tokens := by
  rw [walkExpression_eq] at hwalk
  rcases Walk.andThen_rest_eq_error.mp hwalk with hoperand | ⟨middle, hmiddle, hchain⟩
  · obtain ⟨rfl, hreaches⟩ := reaches_of_walkOperand h hoperand
    exact ⟨rfl, .first hreaches⟩
  · obtain ⟨u, rfl, hu⟩ := exists_operandTree (walk_derives context room) hmiddle
    exact reaches_of_walkChain h u hu hchain

/-- The argument before the rest of the arguments belongs to the same call. -/
theorem reaches_of_walkArguments {finish : Nat → List Diagnostic} {fuel count : Nat} (e : Tree)
    (he : e.nesting ≤ room)
    (hwalk : (walkArguments context (walk context room) finish fuel count tokens).rest =
      .error (.nestingTooDeep limit)) :
    limit = maxNesting ∧ Reaches .arguments room (e.tokens ++ tokens) := by
  induction fuel generalizing tokens count e with
  | zero => contradiction
  | succ fuel ih =>
      cases tokens with
      | nil => cases hwalk
      | cons comma rest =>
          rw [walkArguments] at hwalk
          split at hwalk
          · next hcomma =>
              rcases Walk.andThen_rest_eq_error.mp hwalk with hnext | ⟨middle, hmiddle, hmore⟩
              · obtain ⟨rfl, hreaches⟩ := reaches_of_walkExpression h hnext
                exact ⟨rfl, .afterComma e ⟨comma, hcomma⟩ he (.argument hreaches)⟩
              · obtain ⟨next, rfl, hnext⟩ := exists_tree (walk_derives context room) hmiddle
                obtain ⟨rfl, hreaches⟩ := ih next hnext hmore
                exact ⟨rfl, .afterComma e ⟨comma, hcomma⟩ he hreaches⟩
          · rcases Walk.andThen_rest_eq_error.mp hwalk with hclosing | ⟨middle, -, hdone⟩
            · exact absurd hclosing expect_rest_ne_nestingTooDeep
            · contradiction

theorem reaches_of_walkCall {name opening : Token}
    (hwalk : (walkCall context (walk context room) (name :: opening :: tokens)).rest =
      .error (.nestingTooDeep limit)) :
    limit = maxNesting ∧ Reaches .arguments room tokens := by
  simp only [walkCall, Walk.after_rest] at hwalk
  rcases Walk.andThen_rest_eq_error.mp hwalk with hopening | ⟨middle, hmiddle, harguments⟩
  · exact absurd hopening expect_rest_ne_nestingTooDeep
  · obtain ⟨t, heq, -⟩ := expect_rest_eq_ok.mp hmiddle
    cases heq
    cases tokens with
    | nil => cases harguments
    | cons closing rest =>
        simp only at harguments
        split at harguments
        · contradiction
        · rcases Walk.andThen_rest_eq_error.mp harguments with hfirst | ⟨middle, hmiddle, hmore⟩
          · obtain ⟨rfl, hreaches⟩ := reaches_of_walkExpression h hfirst
            exact ⟨rfl, .argument hreaches⟩
          · obtain ⟨first, htokens, hfirst⟩ := exists_tree (walk_derives context room) hmiddle
            rw [htokens]
            exact reaches_of_walkArguments h first hfirst hmore

end RunsOut

theorem walk_runsOut (context : Context) (room : Nat) : RunsOut room (walk context room) := by
  induction room with
  | zero =>
      refine ⟨fun ht h => ?_, fun ht h => ?_, fun hname hopening h => ?_⟩
      · cases h
        exact ⟨rfl, .here (.unary ht)⟩
      · cases h
        exact ⟨rfl, .here (.parens ht)⟩
      · cases h
        exact ⟨rfl, .here (.call hname hopening)⟩
  | succ room ih =>
      refine ⟨fun ht h => ?_, fun ht h => ?_, fun hname hopening h => ?_⟩
      · obtain ⟨rfl, hreaches⟩ := reaches_of_walkOperand ih h
        exact ⟨rfl, .unary ht hreaches⟩
      · obtain ⟨rfl, hreaches⟩ := reaches_of_walkExpression ih h
        exact ⟨rfl, .parens ht hreaches⟩
      · obtain ⟨rfl, hreaches⟩ := reaches_of_walkCall ih h
        exact ⟨rfl, .call hname hopening hreaches⟩

/-- An expression is walked until there is no room left just where the walk comes to a place that
lies too deep. -/
theorem walkExpression_nestingTooDeep_iff (context : Context) {room limit : Nat} {tokens : List Token} :
    (walkExpression context (walk context room) tokens).rest = .error (.nestingTooDeep limit) ↔
      limit = maxNesting ∧ Reaches .expression room tokens := by
  constructor
  · exact reaches_of_walkExpression (walk_runsOut context room)
  · rintro ⟨rfl, hreaches⟩
    exact hreaches.endsTooDeep context

/-! ## Deeper places -/

mutual

/-- A tree that nests deeper than `depth` has a place so deep. -/
theorem OperandTree.reaches : ∀ (u : OperandTree) {depth : Nat} (rest : List Token),
    depth < u.nesting → Reaches .operand depth (u.tokens ++ rest)
  | .unary operator u, depth, rest, h => by
    cases depth with
    | zero => exact .here (.unary operator.property)
    | succ depth => exact .unary operator.property (u.reaches rest (Nat.lt_of_succ_lt_succ h))
  | .parens opening e closing, depth, rest, h => by
    cases depth with
    | zero => exact .here (.parens opening.property)
    | succ depth =>
        have hinner := e.reaches (closing.val :: rest) (Nat.lt_of_succ_lt_succ h)
        refine .parens opening.property ?_
        simpa using hinner
  | .emptyCall callee opening closing, depth, rest, h => by
    cases depth with
    | zero => exact .here (.call callee.property opening.property)
    | succ depth => exact absurd (Nat.lt_of_succ_lt_succ h) (Nat.not_lt_zero depth)
  | .call callee opening arguments closing, depth, rest, h => by
    cases depth with
    | zero => exact .here (.call callee.property opening.property)
    | succ depth =>
        have hinner := arguments.reaches (closing.val :: rest) (Nat.lt_of_succ_lt_succ h)
        refine .call callee.property opening.property ?_
        simpa using hinner

theorem Tree.reaches : ∀ (e : Tree) {depth : Nat} (rest : List Token),
    depth < e.nesting → Reaches .expression depth (e.tokens ++ rest)
  | .single u, _, rest, h => .first (u.reaches rest h)
  | .binary u operator e, depth, rest, h => by
    have hmax : depth < max u.nesting e.nesting := h
    rw [Tree.tokens, List.append_assoc, List.cons_append]
    by_cases hu : depth < u.nesting
    · exact .first (u.reaches _ hu)
    · exact .afterOperator u operator (Nat.le_of_not_lt hu) (e.reaches rest (by omega))

theorem ArgumentTrees.reaches : ∀ (arguments : ArgumentTrees) {depth : Nat} (rest : List Token),
    depth < arguments.nesting → Reaches .arguments depth (arguments.tokens ++ rest)
  | .last e, _, rest, h => .argument (e.reaches rest h)
  | .more e comma arguments, depth, rest, h => by
    have hmax : depth < max e.nesting arguments.nesting := h
    rw [ArgumentTrees.tokens, List.append_assoc, List.cons_append]
    by_cases he : depth < e.nesting
    · exact .argument (e.reaches _ he)
    · exact .afterComma e comma (Nat.le_of_not_lt he) (arguments.reaches rest (by omega))

end

/-- Who comes to a deep place comes to one of each depth above it. -/
theorem Reaches.mono {part : Part} {depth depth' : Nat} {tokens : List Token} (hle : depth' ≤ depth)
    (h : Reaches part depth tokens) : Reaches part depth' tokens := by
  induction h generalizing depth' with
  | here h => exact (Nat.le_zero.mp hle) ▸ .here h
  | unary ht _ ih =>
      cases depth' with
      | zero => exact .here (.unary ht)
      | succ depth' => exact .unary ht (ih (Nat.le_of_succ_le_succ hle))
  | parens ht _ ih =>
      cases depth' with
      | zero => exact .here (.parens ht)
      | succ depth' => exact .parens ht (ih (Nat.le_of_succ_le_succ hle))
  | call hname hopening _ ih =>
      cases depth' with
      | zero => exact .here (.call hname hopening)
      | succ depth' => exact .call hname hopening (ih (Nat.le_of_succ_le_succ hle))
  | first _ ih => exact .first (ih hle)
  | argument _ ih => exact .argument (ih hle)
  -- What has been passed may itself nest too deep where there is less room.
  | afterOperator u operator _ _ ih =>
      by_cases hu : u.nesting ≤ depth'
      · exact .afterOperator u operator hu (ih hle)
      · exact .first (u.reaches _ (Nat.lt_of_not_le hu))
  | afterComma e comma _ _ ih =>
      by_cases he : e.nesting ≤ depth'
      · exact .afterComma e comma he (ih hle)
      · exact .argument (e.reaches _ (Nat.lt_of_not_le he))

/-! ## Whole expressions -/

/-- The nesting is told of just where the walk has run out of room. -/
theorem nestingTooDeep_mem_checkTokens_iff {context : Context} {tokens : List Token} {limit : Nat} :
    .syntaxError (.nestingTooDeep limit) ∈ checkTokens context tokens ↔
      (walkExpression context (walk context maxNesting) tokens).rest = .error (.nestingTooDeep limit) := by
  have hnotMem := syntaxError_notMem_findings context tokens (.nestingTooDeep limit)
  simp only [checkTokens]
  cases hrest : (walkExpression context (walk context maxNesting) tokens).rest with
  | error e => simp [hnotMem, eq_comm]
  | ok rest =>
      cases rest with
      | nil => simpa using hnotMem
      | cons t rest =>
          by_cases ht : t.kind = .eof <;> simp [ht, hnotMem]

theorem nestingTooDeep_mem_check_iff {context : Context} {text : Text} {limit : Nat} :
    .syntaxError (.nestingTooDeep limit) ∈ check context text ↔
      limit = maxNesting ∧
        ∃ tokens, Token.readAll text = .ok tokens ∧ Reaches .expression maxNesting tokens := by
  rw [check]
  cases Token.readAll text with
  | error e => simp
  | ok tokens =>
      simp only [nestingTooDeep_mem_checkTokens_iff, walkExpression_nestingTooDeep_iff, Except.ok.injEq,
        exists_eq_left']

/-- What is checked without an error of the syntax is an expression up to its end. -/
theorem exists_tree_of_check {context : Context} {text : Text}
    (h : ∀ e, .syntaxError e ∉ check context text) :
    ∃ tokens, Token.readAll text = .ok tokens ∧ ∃ e : Tree, e.tokens = tokens.dropLast := by
  cases hread : Token.readAll text with
  | error e => simp [check, hread] at h
  | ok tokens =>
      refine ⟨tokens, rfl, ?_⟩
      obtain ⟨front, last, rfl, hlast, hfront⟩ := Token.readFrom_ends hread
      rw [List.dropLast_concat]
      simp only [check, hread, checkTokens] at h
      cases hrest : (walkExpression context (walk context maxNesting) (front ++ [last])).rest with
      | error e =>
          simp only [hrest] at h
          exact absurd (List.mem_concat_self ..) (h e)
      | ok rest =>
          obtain ⟨e, htokens, -⟩ := exists_tree (walk_derives context maxNesting) hrest
          cases rest with
          | nil =>
              -- The walk cannot have passed the end, which is no part of a tree.
              have hmem : last ∈ e.tokens := by
                rw [List.append_nil] at htokens
                simp [← htokens]
              exact absurd hlast (e.kind_ne_eof last hmem)
          | cons t rest =>
              have ht : t.kind = .eof := by
                refine Classical.byContradiction fun ht => ?_
                simp only [hrest, if_neg ht] at h
                exact h _ (List.mem_concat_self ..)
              exact ⟨e, eq_of_append_eof hfront ht htokens⟩

/-- Such an expression nests no deeper than it may. -/
theorem nesting_le_of_check {context : Context} {text : Text} {tokens : List Token} {e : Tree}
    (h : ∀ e, .syntaxError e ∉ check context text) (hread : Token.readAll text = .ok tokens)
    (htokens : e.tokens = tokens.dropLast) : e.nesting ≤ maxNesting := by
  refine Nat.le_of_not_lt fun hdeep => ?_
  obtain ⟨front, last, rfl, -, -⟩ := Token.readFrom_ends hread
  rw [List.dropLast_concat] at htokens
  refine h _ (nestingTooDeep_mem_check_iff.mpr ⟨rfl, _, hread, ?_⟩)
  rw [← htokens]
  exact e.reaches [last] hdeep

/-- An error of the syntax ends the check: nothing comes after it, and nothing before it reads like
one.  One of the tokens stands alone.  The nesting is told of just where the walk comes to a unary
operator, a parenthesis or a call that is enclosed in `maxNesting` others, and told once however deep
these go on. -/
theorem error_ends_check (context : Context) (text : Text) :
    (∀ front d back, check context text = front ++ d :: back →
        (∃ e : SyntaxError, d.message = e.message) →
          back = [] ∧ ∀ d' ∈ front, ∀ e : SyntaxError, d'.message ≠ e.message) ∧
      (∀ e, .syntaxError (.lexical e) ∈ check context text →
        Token.readAll text = .error e ∧ check context text = [.syntaxError (.lexical e)]) ∧
      (∀ limit, .syntaxError (.nestingTooDeep limit) ∈ check context text ↔
        limit = maxNesting ∧
          ∃ tokens, Token.readAll text = .ok tokens ∧ Reaches .expression maxNesting tokens) ∧
      ((check context text).count (.syntaxError (.nestingTooDeep maxNesting)) = 1 ↔
        ∃ tokens depth, Token.readAll text = .ok tokens ∧ maxNesting ≤ depth ∧
          Reaches .expression depth tokens) := by
  refine ⟨fun front d back hcheck ⟨e, hd⟩ => eq_nil_of_message_eq hcheck hd,
    fun e => eq_singleton_of_lexical_mem, fun limit => nestingTooDeep_mem_check_iff, ?_, ?_⟩
  · intro hcount
    have hmem := List.count_pos_iff.mp (Nat.lt_of_lt_of_eq Nat.zero_lt_one hcount.symm)
    obtain ⟨-, tokens, hread, hreaches⟩ := nestingTooDeep_mem_check_iff.mp hmem
    exact ⟨tokens, maxNesting, hread, Nat.le_refl _, hreaches⟩
  · rintro ⟨tokens, depth, hread, hdepth, hreaches⟩
    have hmem : .syntaxError (.nestingTooDeep maxNesting) ∈ check context text :=
      nestingTooDeep_mem_check_iff.mpr ⟨rfl, tokens, hread, hreaches.mono hdepth⟩
    exact Nat.le_antisymm (count_syntaxError_le_one context text _) (List.count_pos_iff.mpr hmem)

end CatchmentLint.Expression
