import CatchmentLint.Proofs.Expression.Findings
import CatchmentLint.Proofs.Expression.Precedence

/-!
# CatchmentLint.Proofs.Expression.Grammar

The walk over tokens gets through what derives from the grammar of `Tree`, and through nothing else.

* `Derives` — what the walks of a level pass has a tree, which nests as deep as there is room;
* `walk_derives` — that is so of every level, since each derives from the one below it;
* `reaches_end_iff_derivable` — an expression is walked up to its end just if its tokens derive from
  the grammar with a nesting of `maxNesting` at most.
-/

namespace CatchmentLint.Expression

/-- The tokens derive from the grammar, with no name before an opening parenthesis that is no call
and no more than `limit` unary operators, parentheses and calls on a path. -/
def Derivable (limit : Nat) (tokens : List Token) : Prop :=
  ∃ e : Tree, e.tokens = tokens ∧ e.KeepsNames .eof ∧ e.nesting ≤ limit

/-- What the walks of phrases pass derives from the grammar, and nests no deeper than there is
room.  A call counts as a level of its own. -/
structure Derives (room : Nat) (walks : Phrase → List Token → Walk) : Prop where
  operand : ∀ {tokens rest}, (walks .operand tokens).rest = .ok rest →
    ∃ u : OperandTree, tokens = u.tokens ++ rest ∧ u.nesting < room
  expression : ∀ {tokens rest}, (walks .expression tokens).rest = .ok rest →
    ∃ e : Tree, tokens = e.tokens ++ rest ∧ e.nesting < room
  call : ∀ {name : Token} {tokens rest}, name.kind = .ident →
    (walks .call (name :: tokens)).rest = .ok rest →
      ∃ u : OperandTree, name :: tokens = u.tokens ++ rest ∧ u.nesting ≤ room

section Derives

variable {context : Context} {room : Nat} {tokens rest : List Token}
  (h : Derives room (walk context room))

include h

/-! ## One level -/

theorem exists_operandTree (hwalk : (walkOperand context (walk context room) tokens).rest = .ok rest) :
    ∃ u : OperandTree, tokens = u.tokens ++ rest ∧ u.nesting ≤ room := by
  rcases walkOperand_ok hwalk with ⟨operator, more, rfl, hunary, hwalk⟩ | hwalk
  · obtain ⟨u, rfl, hnesting⟩ := h.operand hwalk
    exact ⟨.unary ⟨operator, hunary⟩ u, rfl, hnesting⟩
  · obtain ⟨t, more, rfl, hcases⟩ := walkPrimary_ok hwalk
    rcases hcases with ⟨ht, rfl⟩ | ⟨ht, rfl, -⟩ | ⟨ht, hcall⟩ | ⟨ht, closing, hclosing, hinner⟩
    · exact ⟨.atom ⟨t, ht⟩, rfl, Nat.zero_le _⟩
    · exact ⟨.name ⟨t, ht⟩, rfl, Nat.zero_le _⟩
    · exact h.call ht hcall
    · obtain ⟨e, rfl, hnesting⟩ := h.expression hinner
      refine ⟨.parens ⟨t, ht⟩ e ⟨closing, hclosing⟩, ?_, hnesting⟩
      simp [OperandTree.tokens]

/-- A chain of operators makes a tree with the operand before it. -/
theorem exists_tree_of_walkChain {fuel : Nat} (u : OperandTree) (hu : u.nesting ≤ room)
    (hwalk : (walkChain binaryOperators (walkOperand context (walk context room)) fuel tokens).rest =
      .ok rest) :
    ∃ e : Tree, u.tokens ++ tokens = e.tokens ++ rest ∧ e.nesting ≤ room := by
  induction fuel generalizing tokens u with
  | zero =>
      cases hwalk
      exact ⟨.single u, rfl, hu⟩
  | succ fuel ih =>
      cases tokens with
      | nil =>
          cases hwalk
          exact ⟨.single u, rfl, hu⟩
      | cons operator more =>
          rw [walkChain] at hwalk
          split at hwalk
          · next hoperator =>
              obtain ⟨middle, hmiddle, hchain⟩ := Walk.andThen_rest_eq_ok.mp hwalk
              obtain ⟨next, rfl, hnext⟩ := exists_operandTree h hmiddle
              obtain ⟨e, htokens, he⟩ := ih next hnext hchain
              refine ⟨.binary u ⟨operator, hoperator⟩ e, ?_, Nat.max_le.mpr ⟨hu, he⟩⟩
              rw [htokens, Tree.tokens, List.append_assoc, List.cons_append]
          · cases hwalk
            exact ⟨.single u, rfl, hu⟩

theorem exists_tree (hwalk : (walkExpression context (walk context room) tokens).rest = .ok rest) :
    ∃ e : Tree, tokens = e.tokens ++ rest ∧ e.nesting ≤ room := by
  rw [walkExpression_eq] at hwalk
  obtain ⟨middle, hmiddle, hchain⟩ := Walk.andThen_rest_eq_ok.mp hwalk
  obtain ⟨u, rfl, hu⟩ := exists_operandTree h hmiddle
  exact exists_tree_of_walkChain h u hu hchain

/-- What is left of the arguments makes a list of trees with the argument before it. -/
theorem exists_argumentTrees {finish : Nat → List Diagnostic} {fuel count : Nat} (e : Tree)
    (he : e.nesting ≤ room) (hfuel : tokens.length < fuel)
    (hwalk : (walkArguments context (walk context room) finish fuel count tokens).rest = .ok rest) :
    ∃ (arguments : ArgumentTrees) (closing : TokenOf .rparen),
      e.tokens ++ tokens = arguments.tokens ++ closing.val :: rest ∧ arguments.nesting ≤ room := by
  induction fuel generalizing tokens count e with
  | zero => contradiction
  | succ fuel ih =>
      obtain ⟨t, more, rfl, ⟨ht, middle, hmiddle, hmore⟩ | ⟨ht, rfl⟩⟩ := walkArguments_ok hwalk
      · have hadvance := walkExpression_advances (walk_advances context room) hmiddle
        obtain ⟨next, rfl, hnext⟩ := exists_tree h hmiddle
        rw [List.length_cons] at hfuel
        obtain ⟨arguments, closing, htokens, harguments⟩ := ih next hnext (by omega) hmore
        refine ⟨.more e ⟨t, ht⟩ arguments, closing, ?_, Nat.max_le.mpr ⟨he, harguments⟩⟩
        rw [htokens, ArgumentTrees.tokens, List.append_assoc, List.cons_append]
      · exact ⟨.last e, ⟨t, ht⟩, rfl, he⟩

theorem exists_callTree {name : Token} (hname : name.kind = .ident)
    (hwalk : (walkCall context (walk context room) (name :: tokens)).rest = .ok rest) :
    ∃ u : OperandTree, name :: tokens = u.tokens ++ rest ∧ u.nesting ≤ room + 1 := by
  obtain ⟨callee, opening, more, heq, hopening, hcases⟩ := walkCall_ok hwalk
  cases heq
  rcases hcases with ⟨closing, hclosing, rfl⟩ | ⟨middle, finish, hmiddle, hmore⟩
  · exact ⟨.emptyCall ⟨name, hname⟩ ⟨opening, hopening⟩ ⟨closing, hclosing⟩, rfl, Nat.le_add_left _ _⟩
  · obtain ⟨first, rfl, hfirst⟩ := exists_tree h hmiddle
    obtain ⟨arguments, closing, htokens, harguments⟩ :=
      exists_argumentTrees h first hfirst (Nat.lt_succ_self _) hmore
    refine ⟨.call ⟨name, hname⟩ ⟨opening, hopening⟩ arguments closing, ?_, Nat.succ_le_succ harguments⟩
    rw [htokens]
    simp [OperandTree.tokens]

end Derives

/-! ## All levels -/

theorem walk_derives (context : Context) (room : Nat) : Derives room (walk context room) := by
  induction room with
  | zero => exact ⟨fun h => by contradiction, fun h => by contradiction, fun _ h => by contradiction⟩
  | succ room ih =>
      refine ⟨fun h => ?_, fun h => ?_, fun hname h => exists_callTree ih hname h⟩
      · obtain ⟨u, htokens, hnesting⟩ := exists_operandTree ih h
        exact ⟨u, htokens, Nat.lt_succ_of_le hnesting⟩
      · obtain ⟨e, htokens, hnesting⟩ := exists_tree ih h
        exact ⟨e, htokens, Nat.lt_succ_of_le hnesting⟩

/-- The one end of a list of tokens is what is left where the walk has come to an end. -/
theorem eq_of_append_eof {front passed after : List Token} {last t : Token}
    (hfront : ∀ t ∈ front, t.kind ≠ .eof) (ht : t.kind = .eof)
    (h : front ++ [last] = passed ++ t :: after) : passed = front := by
  rcases List.eq_nil_or_concat after with rfl | ⟨after, final, rfl⟩
  · exact (List.append_inj' h rfl).1.symm
  · rw [List.concat_eq_append, ← List.cons_append, ← List.append_assoc] at h
    have hmem : t ∈ front := by
      rw [(List.append_inj' h rfl).1]
      simp
    exact absurd ht (hfront t hmem)

/-- An expression is walked by its levels of precedence, and up to its end just if the tokens before
that derive from the grammar. -/
theorem reaches_end_iff_derivable (context : Context) {text : Text} {tokens : List Token}
    (hread : Token.readAll text = .ok tokens) :
    (∀ room, walkExpression context (walk context room) =
        climb (walkOperand context (walk context room)) levels) ∧
      ((∃ t after, (walkExpression context (walk context maxNesting) tokens).rest = .ok (t :: after) ∧
          t.kind = .eof) ↔
        Derivable maxNesting tokens.dropLast) := by
  refine ⟨walkExpression_eq_climb context, ?_⟩
  obtain ⟨front, last, rfl, hlast, hfront⟩ := Token.readFrom_ends hread
  rw [List.dropLast_concat]
  constructor
  · rintro ⟨t, after, hwalk, ht⟩
    obtain ⟨e, htokens, hnesting⟩ := exists_tree (walk_derives context maxNesting) hwalk
    exact ⟨e, eq_of_append_eof hfront ht htokens, e.keepsNames (by decide), hnesting⟩
  · rintro ⟨e, rfl, -, hnesting⟩
    rw [walkExpression_whole context hlast hnesting]
    exact ⟨last, [], rfl, hlast⟩

/-- The tokens of a number with as many signs before it. -/
def signedTokens (signs : Nat) : List Token :=
  (List.range signs).map (⟨.operator, ['-'], ·⟩) ++ [⟨.number, ['1'], signs⟩, ⟨.eof, [], signs + 1⟩]

/-- Signs nest, and one more than `maxNesting` of them is too many. -/
theorem derivable_maxNesting_signs :
    Derivable maxNesting (signedTokens maxNesting).dropLast ∧
      ¬Derivable maxNesting (signedTokens (maxNesting + 1)).dropLast := by
  have hread : ∀ signs ∈ [maxNesting, maxNesting + 1],
      Token.readAll (List.replicate signs '-' ++ ['1']) = .ok (signedTokens signs) := by
    decide +kernel
  have hfits : (walkExpression .empty (walk .empty maxNesting) (signedTokens maxNesting)).rest =
      .ok [⟨.eof, [], maxNesting + 1⟩] := by decide +kernel
  have htooDeep : (walkExpression .empty (walk .empty maxNesting) (signedTokens (maxNesting + 1))).rest =
      .error (.nestingTooDeep maxNesting) := by decide +kernel
  constructor
  · exact (reaches_end_iff_derivable .empty (hread _ (by simp))).2.mp ⟨_, _, hfits, rfl⟩
  · rw [← (reaches_end_iff_derivable .empty (hread _ (by simp))).2, htooDeep]
    rintro ⟨t, after, h, -⟩
    contradiction

end CatchmentLint.Expression
