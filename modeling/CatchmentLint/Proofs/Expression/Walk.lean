import CatchmentLint.Expression.Check
import CatchmentLint.Proofs.Lists

/-!
# CatchmentLint.Proofs.Expression.Walk

Walks one after another, and how far they get:

* `Walk.andThen_assoc`, `Walk.after_andThen` — how sequences of walks regroup;
* `Advances` — a walk that ends well has passed a token at least;
* `walk_advances` — so does every phrase, whatever room it has;
* `walkExpression_eq`, `walkChain_cons` — a chain of operators goes on as an expression does, with
  no count of the tokens left to it;
* `walkArguments_comma` — and so do the arguments of a call.
-/

namespace CatchmentLint.Expression

/-! ## Sequences -/

namespace Walk

variable {w : Walk} {next : List Token → Walk} {tokens rest : List Token}

@[simp] theorem done_rest : (done tokens).rest = .ok tokens := rfl

@[simp] theorem fail_rest (e : SyntaxError) : (fail e).rest = .error e := rfl

@[simp] theorem after_rest (findings : List Diagnostic) : (w.after findings).rest = w.rest := rfl

@[simp] theorem after_nil : w.after [] = w := rfl

@[simp] theorem after_after (before findings : List Diagnostic) :
    (w.after findings).after before = w.after (before ++ findings) := by
  simp [after]

@[simp] theorem done_andThen : (done tokens).andThen next = next tokens := rfl

/-- What is found before the first of two walks is found before both. -/
@[simp] theorem after_andThen (findings : List Diagnostic) :
    (w.after findings).andThen next = (w.andThen next).after findings := by
  unfold andThen
  rw [after_rest]
  cases w.rest with
  | ok rest => rw [after_after]; rfl
  | error e => rfl

/-- A walk goes on where the one before it has stopped, behind what that has found. -/
theorem andThen_of_ok (h : w.rest = .ok rest) : w.andThen next = (next rest).after w.findings := by
  unfold andThen
  rw [h]

/-- After an error nothing is walked. -/
theorem andThen_of_error {e : SyntaxError} (h : w.rest = .error e) : w.andThen next = w := by
  unfold andThen
  rw [h]

/-- Of three walks it does not matter which two are put together first. -/
theorem andThen_assoc (w : Walk) (next last : List Token → Walk) :
    (w.andThen next).andThen last = w.andThen fun rest => (next rest).andThen last := by
  cases h : w.rest with
  | ok rest => rw [andThen_of_ok h, andThen_of_ok h, after_andThen]
  | error e => rw [andThen_of_error h, andThen_of_error h, andThen_of_error h]

/-- What comes next only matters from where the walk has ended. -/
theorem andThen_congr {next' : List Token → Walk} (h : ∀ rest, w.rest = .ok rest → next rest = next' rest) :
    w.andThen next = w.andThen next' := by
  cases hw : w.rest with
  | ok rest => rw [andThen_of_ok hw, andThen_of_ok hw, h rest hw]
  | error e => rw [andThen_of_error hw, andThen_of_error hw]

/-- Two walks end well just if both do. -/
theorem andThen_rest_eq_ok :
    (w.andThen next).rest = .ok rest ↔ ∃ middle, w.rest = .ok middle ∧ (next middle).rest = .ok rest := by
  cases hw : w.rest with
  | ok middle => simp [andThen_of_ok hw]
  | error e => simp [andThen_of_error hw, hw]

/-- Two walks fail just if one of them does. -/
theorem andThen_rest_eq_error {e : SyntaxError} :
    (w.andThen next).rest = .error e ↔
      w.rest = .error e ∨ ∃ middle, w.rest = .ok middle ∧ (next middle).rest = .error e := by
  cases hw : w.rest with
  | ok middle => simp [andThen_of_ok hw]
  | error e' => simp [andThen_of_error hw, hw]

end Walk

/-- A token that is expected is passed just if it is there. -/
theorem expect_rest_eq_ok {kind : TokenKind} {tokens rest : List Token} :
    (expect kind tokens).rest = .ok rest ↔ ∃ t, tokens = t :: rest ∧ t.kind = kind := by
  cases tokens with
  | nil => simp [expect]
  | cons t tokens =>
      rw [expect]
      split
      · next hkind =>
          constructor
          · intro h
            cases h
            exact ⟨t, rfl, hkind⟩
          · rintro ⟨t', h, -⟩
            cases h
            rfl
      · next hkind =>
          constructor
          · intro h
            contradiction
          · rintro ⟨t', h, hkind'⟩
            cases h
            contradiction

theorem expect_rest_ne_nestingTooDeep {kind : TokenKind} {tokens : List Token} {limit : Nat} :
    (expect kind tokens).rest ≠ .error (.nestingTooDeep limit) := by
  cases tokens with
  | nil => simp [expect]
  | cons t tokens =>
      rw [expect]
      split <;> simp

/-- A token of the kind is passed without a finding. -/
theorem expect_cons {kind : TokenKind} {t : Token} {rest : List Token} (h : t.kind = kind) :
    expect kind (t :: rest) = .done rest := by
  rw [expect, if_pos h]

/-! ## Tokens that are operands -/

/-- The kinds of the tokens that are operands by themselves. -/
def isOperandKind : TokenKind → Bool
  | .number | .dataRef | .constRef | .nodeRef | .thisRef | .simRef => true
  | _ => false

variable {context : Context} {deeper : Phrase → List Token → Walk}

/-- A number or a reference is an operand with what is found at it. -/
theorem walkPrimary_operand {t : Token} {tokens : List Token} (ht : isOperandKind t.kind = true) :
    walkPrimary context deeper (t :: tokens) = (Walk.done tokens).after (referenceFindings context t) := by
  unfold walkPrimary
  cases hkind : t.kind <;> simp_all [isOperandKind]

theorem isUnary_of_kind_ne {t : Token} (h : t.kind ≠ .operator) : isUnary t = false := by
  simp [isUnary, h]

/-- Without signs, an operand is one without signs. -/
theorem walkOperand_of_not_unary {t : Token} {tokens : List Token} (ht : isUnary t = false) :
    walkOperand context deeper (t :: tokens) = walkPrimary context deeper (t :: tokens) := by
  rw [walkOperand, if_neg (by simp [ht])]

/-- A number or a reference is a whole operand. -/
theorem walkOperand_operand {t : Token} {tokens : List Token} (ht : isOperandKind t.kind = true) :
    walkOperand context deeper (t :: tokens) =
      (Walk.done tokens).after (referenceFindings context t) := by
  have hkind : t.kind ≠ .operator := by
    intro hkind
    rw [hkind] at ht
    contradiction
  rw [walkOperand_of_not_unary (isUnary_of_kind_ne hkind), walkPrimary_operand ht]

/-! ## Findings -/

/-- What is found at a reference is a problem with it. -/
theorem exists_problem_of_mem_referenceFindings {t : Token} {d : Diagnostic}
    (h : d ∈ referenceFindings context t) : ∃ p, d = .reference p := by
  unfold referenceFindings at h
  simp only [Option.mem_toList, Option.map_eq_some_iff] at h
  obtain ⟨p, -, rfl⟩ := h
  exact ⟨p, rfl⟩

/-- What is found at the name of a function is that there is no such function. -/
theorem eq_unknownFunction_of_mem {name : Text} {d : Diagnostic} (h : d ∈ nameFindings name) :
    d = .unknownFunction name := by
  unfold nameFindings at h
  split at h
  · exact List.mem_singleton.mp h
  · cases h

/-- What is found at the end of a call is a wrong number of arguments. -/
theorem exists_wrongArity_of_mem {name : Text} {count : Nat} {d : Diagnostic}
    (h : d ∈ arityFindings name count) : ∃ arity, d = .wrongArity name arity count := by
  unfold arityFindings at h
  split at h
  · next arity _ =>
      split at h
      · cases h
      · exact ⟨arity, List.mem_singleton.mp h⟩
  · cases h

/-! ## Progress -/

/-- Where a walk ends well it has passed a token. -/
def Advances (walk : List Token → Walk) : Prop :=
  ∀ ⦃tokens rest⦄, (walk tokens).rest = .ok rest → rest.length < tokens.length

/-! ## Chains of operators -/

section Chain

variable {operators : List Text} {operand : List Token → Walk}

/-- Whether the token is one of these operators. -/
def isOneOf (operators : List Text) (t : Token) : Bool :=
  t.kind == .operator && operators.contains t.text

/-- Some of the operators with an operand after each, no more than `fuel`. -/
def walkChain (operators : List Text) (operand : List Token → Walk) : (fuel : Nat) → List Token → Walk
  | 0, tokens => .done tokens
  | _ + 1, [] => .done []
  | fuel + 1, t :: rest =>
    if isOneOf operators t then
      ((operand rest).andThen (walkChain operators operand fuel)).after (operatorFindings t rest)
    else .done (t :: rest)

/-- An operand, and as many of the operators after it as there are. -/
def walkLevel (operators : List Text) (operand : List Token → Walk) (tokens : List Token) : Walk :=
  (operand tokens).andThen fun rest => walkChain operators operand rest.length rest

theorem walkChain_nil (fuel : Nat) : walkChain operators operand fuel [] = .done [] := by
  cases fuel <;> rfl

/-- The count of a chain does not matter as long as there are no more tokens. -/
theorem walkChain_fuel (hoperand : Advances operand) {fuel fuel' : Nat} {tokens : List Token}
    (h : tokens.length ≤ fuel) (h' : tokens.length ≤ fuel') :
    walkChain operators operand fuel tokens = walkChain operators operand fuel' tokens := by
  induction fuel generalizing fuel' tokens with
  | zero =>
      rw [List.eq_nil_of_length_eq_zero (Nat.le_zero.mp h), walkChain_nil, walkChain_nil]
  | succ fuel ih =>
      cases tokens with
      | nil => rw [walkChain_nil, walkChain_nil]
      | cons t rest =>
          obtain ⟨fuel', rfl⟩ := Nat.exists_eq_add_one.mpr (Nat.lt_of_lt_of_le (Nat.succ_pos _) h')
          rw [List.length_cons] at h h'
          rw [walkChain, walkChain]
          split
          · rw [Walk.andThen_congr fun after hafter => ih ?_ ?_]
            · have := hoperand hafter
              omega
            · have := hoperand hafter
              omega
          · rfl

/-- Where an operator is next the chain goes on like a level that starts after it. -/
theorem walkChain_cons (hoperand : Advances operand) (t : Token) (rest : List Token) :
    walkChain operators operand (t :: rest).length (t :: rest) =
      if isOneOf operators t then (walkLevel operators operand rest).after (operatorFindings t rest)
      else .done (t :: rest) := by
  have hcount : (operand rest).andThen (walkChain operators operand rest.length) =
      walkLevel operators operand rest := by
    refine Walk.andThen_congr fun after hafter => ?_
    exact walkChain_fuel hoperand (Nat.le_of_lt (hoperand hafter)) (Nat.le_refl _)
  rw [List.length_cons, walkChain, hcount]

section Operand

variable {tokens rest : List Token} {findings : List Diagnostic}

/-- A level is its first operand where none of its operators follows. -/
theorem walkLevel_single (hoperand : Advances operand)
    (h : operand tokens = (Walk.done rest).after findings) (hrest : StartsOutside (isOneOf operators) rest) :
    walkLevel operators operand tokens = (Walk.done rest).after findings := by
  have hchain : walkChain operators operand rest.length rest = .done rest := by
    cases rest with
    | nil => rfl
    | cons t rest =>
        have ht : isOneOf operators t = false := hrest t rfl
        rw [walkChain_cons hoperand, ht]
        rfl
  rw [walkLevel, h, Walk.after_andThen, Walk.done_andThen, hchain]

/-- A level goes on behind an operator of its own. -/
theorem walkLevel_binary (hoperand : Advances operand) {operator : Token}
    (h : operand tokens = (Walk.done (operator :: rest)).after findings)
    (hoperator : isOneOf operators operator = true) :
    walkLevel operators operand tokens =
      (walkLevel operators operand rest).after (findings ++ operatorFindings operator rest) := by
  rw [walkLevel, h, Walk.after_andThen, Walk.done_andThen, walkChain_cons hoperand, if_pos hoperator,
    Walk.after_after]

end Operand

/-- A chain of operators leaves no more tokens than there were. -/
theorem length_le_of_walkChain (hoperand : Advances operand) {fuel : Nat} {tokens rest : List Token}
    (h : (walkChain operators operand fuel tokens).rest = .ok rest) : rest.length ≤ tokens.length := by
  induction fuel generalizing tokens with
  | zero =>
      cases h
      exact Nat.le_refl _
  | succ fuel ih =>
      cases tokens with
      | nil =>
          cases h
          exact Nat.le_refl _
      | cons t tokens =>
          rw [walkChain] at h
          split at h
          · rw [Walk.after_rest, Walk.andThen_rest_eq_ok] at h
            obtain ⟨middle, hmiddle, h⟩ := h
            have hadvance := hoperand hmiddle
            have hle := ih h
            rw [List.length_cons]
            omega
          · cases h
            exact Nat.le_refl _

/-- A level passes at least the operand that it starts with. -/
theorem walkLevel_advances (hoperand : Advances operand) : Advances (walkLevel operators operand) := by
  intro tokens rest h
  obtain ⟨middle, hmiddle, h⟩ := Walk.andThen_rest_eq_ok.mp h
  exact Nat.lt_of_le_of_lt (length_le_of_walkChain hoperand h) (hoperand hmiddle)

end Chain

/-! ## Expressions -/

/-- The operators of an expression are the chain of all binary operators. -/
theorem walkOperators_eq (fuel : Nat) (tokens : List Token) :
    walkOperators context deeper fuel tokens =
      walkChain binaryOperators (walkOperand context deeper) fuel tokens := by
  induction fuel generalizing tokens with
  | zero => rfl
  | succ fuel ih =>
      cases tokens with
      | nil => rfl
      | cons t rest =>
          rw [walkOperators, walkChain, funext ih]
          rfl

/-- An expression is one level of all the binary operators. -/
theorem walkExpression_eq :
    walkExpression context deeper = walkLevel binaryOperators (walkOperand context deeper) := by
  funext tokens
  unfold walkExpression walkLevel
  congr 1
  funext rest
  exact walkOperators_eq _ _

/-! ## What a walk that ends well has passed -/

section Passed

variable {tokens rest : List Token}

/-- An operand without unary operators is a token, a call or an expression in parentheses. -/
theorem walkPrimary_ok (h : (walkPrimary context deeper tokens).rest = .ok rest) :
    ∃ t more, tokens = t :: more ∧
      (isOperandKind t.kind = true ∧ rest = more ∨
        t.kind = .ident ∧ rest = more ∧ (∀ next ∈ more.head?, next.kind ≠ .lparen) ∨
        t.kind = .ident ∧ (deeper .call tokens).rest = .ok rest ∨
        t.kind = .lparen ∧ ∃ closing, closing.kind = .rparen ∧
          (deeper .expression more).rest = .ok (closing :: rest)) := by
  cases tokens with
  | nil => contradiction
  | cons t more =>
      refine ⟨t, more, rfl, ?_⟩
      by_cases hoperand : isOperandKind t.kind = true
      · rw [walkPrimary_operand hoperand] at h
        cases h
        exact .inl ⟨hoperand, rfl⟩
      refine .inr ?_
      cases hkind : t.kind <;> simp only [walkPrimary, hkind, isOperandKind] at h hoperand <;>
        try contradiction
      case ident =>
        split at h
        · next next after =>
            split at h
            · exact .inr (.inl ⟨rfl, h⟩)
            · next hnext =>
                cases h
                exact .inl ⟨rfl, rfl, by simpa using hnext⟩
        · cases h
          exact .inl ⟨rfl, rfl, by simp⟩
      case lparen =>
        obtain ⟨middle, hmiddle, h⟩ := Walk.andThen_rest_eq_ok.mp h
        obtain ⟨closing, rfl, hclosing⟩ := expect_rest_eq_ok.mp h
        exact .inr (.inr ⟨rfl, closing, hclosing, hmiddle⟩)

/-- An operand that is walked well has a sign before an operand, or is one without signs. -/
theorem walkOperand_ok (h : (walkOperand context deeper tokens).rest = .ok rest) :
    (∃ operator more, tokens = operator :: more ∧ isUnary operator = true ∧
        (deeper .operand more).rest = .ok rest) ∨
      (walkPrimary context deeper tokens).rest = .ok rest := by
  cases tokens with
  | nil => contradiction
  | cons t more =>
      rw [walkOperand] at h
      split at h
      · next hunary => exact .inl ⟨t, more, rfl, hunary, h⟩
      · exact .inr h

/-- After an argument there is another one or the end of the call. -/
theorem walkArguments_ok {finish : Nat → List Diagnostic} {fuel count : Nat}
    (h : (walkArguments context deeper finish (fuel + 1) count tokens).rest = .ok rest) :
    ∃ t more, tokens = t :: more ∧
      (t.kind = .comma ∧ (∃ middle, (walkExpression context deeper more).rest = .ok middle ∧
          (walkArguments context deeper finish fuel (count + 1) middle).rest = .ok rest) ∨
        t.kind = .rparen ∧ rest = more) := by
  cases tokens with
  | nil => contradiction
  | cons t more =>
      refine ⟨t, more, rfl, ?_⟩
      rw [walkArguments] at h
      split at h
      · next hcomma => exact .inl ⟨hcomma, Walk.andThen_rest_eq_ok.mp h⟩
      · obtain ⟨middle, hmiddle, h⟩ := Walk.andThen_rest_eq_ok.mp h
        obtain ⟨closing, heq, hclosing⟩ := expect_rest_eq_ok.mp hmiddle
        cases heq
        cases h
        exact .inr ⟨hclosing, rfl⟩

/-- A call that is walked well has its parentheses, with nothing between them or with arguments. -/
theorem walkCall_ok (h : (walkCall context deeper tokens).rest = .ok rest) :
    ∃ name opening more, tokens = name :: opening :: more ∧ opening.kind = .lparen ∧
      ((∃ closing, closing.kind = .rparen ∧ more = closing :: rest) ∨
        ∃ middle finish, (walkExpression context deeper more).rest = .ok middle ∧
          (walkArguments context deeper finish (middle.length + 1) 1 middle).rest = .ok rest) := by
  cases tokens with
  | nil => contradiction
  | cons name tokens =>
      simp only [walkCall, Walk.after_rest] at h
      obtain ⟨more, hopening, hmore⟩ := Walk.andThen_rest_eq_ok.mp h
      obtain ⟨opening, rfl, hkind⟩ := expect_rest_eq_ok.mp hopening
      refine ⟨name, opening, more, rfl, hkind, ?_⟩
      cases more with
      | nil => contradiction
      | cons closing after =>
          simp only at hmore
          split at hmore
          · next hclosing =>
              cases hmore
              exact .inl ⟨closing, hclosing, rfl⟩
          · obtain ⟨middle, hmiddle, hmore⟩ := Walk.andThen_rest_eq_ok.mp hmore
            exact .inr ⟨middle, _, hmiddle, hmore⟩

end Passed

/-! ## Progress of every phrase -/

section Advances

variable (hdeeper : ∀ phrase, Advances (deeper phrase))

include hdeeper

/-- An operand without signs passes a token at least. -/
theorem walkPrimary_advances : Advances (walkPrimary context deeper) := by
  intro tokens rest h
  obtain ⟨t, more, rfl, ⟨-, rfl⟩ | ⟨-, rfl, -⟩ | ⟨-, h⟩ | ⟨-, closing, -, h⟩⟩ := walkPrimary_ok h
  · exact Nat.lt_succ_self _
  · exact Nat.lt_succ_self _
  · exact hdeeper _ h
  · have hadvance := hdeeper _ h
    simp only [List.length_cons] at hadvance ⊢
    omega

/-- An operand passes a token at least. -/
theorem walkOperand_advances : Advances (walkOperand context deeper) := by
  intro tokens rest h
  rcases walkOperand_ok h with ⟨operator, more, rfl, -, h⟩ | h
  · exact Nat.lt_succ_of_lt (hdeeper _ h)
  · exact walkPrimary_advances hdeeper h

/-- An expression passes a token at least. -/
theorem walkExpression_advances : Advances (walkExpression context deeper) := by
  rw [walkExpression_eq]
  exact walkLevel_advances (walkOperand_advances hdeeper)

/-- Arguments pass a token at least, which is the parenthesis that closes them if nothing else. -/
theorem length_lt_of_walkArguments {finish : Nat → List Diagnostic} {fuel count : Nat}
    {tokens rest : List Token} (hfuel : tokens.length < fuel)
    (h : (walkArguments context deeper finish fuel count tokens).rest = .ok rest) :
    rest.length < tokens.length := by
  induction fuel generalizing count tokens with
  | zero => contradiction
  | succ fuel ih =>
      obtain ⟨t, more, rfl, ⟨-, middle, hmiddle, h⟩ | ⟨-, rfl⟩⟩ := walkArguments_ok h
      · have hadvance := walkExpression_advances hdeeper hmiddle
        rw [List.length_cons] at hfuel ⊢
        have hlt := ih (by omega) h
        omega
      · exact Nat.lt_succ_self _

/-- A call passes a token at least. -/
theorem walkCall_advances : Advances (walkCall context deeper) := by
  intro tokens rest h
  obtain ⟨name, opening, more, rfl, -, ⟨closing, -, rfl⟩ | ⟨middle, finish, hmiddle, h⟩⟩ := walkCall_ok h
  · simp only [List.length_cons]
    omega
  · have hadvance := walkExpression_advances hdeeper hmiddle
    have hlt := length_lt_of_walkArguments hdeeper (Nat.lt_succ_self _) h
    simp only [List.length_cons]
    omega

end Advances

/-- Every phrase that ends well has passed a token, whatever room it has. -/
theorem walk_advances (context : Context) (room : Nat) (phrase : Phrase) :
    Advances (walk context room phrase) := by
  induction room generalizing phrase with
  | zero =>
      intro tokens rest h
      contradiction
  | succ room ih =>
      cases phrase with
      | expression => exact walkExpression_advances ih
      | operand => exact walkOperand_advances ih
      | call => exact walkCall_advances ih

/-! ## Arguments and calls -/

/-- The arguments of a call from one on, of which `count` have been walked before. -/
def walkArgumentsFrom (context : Context) (deeper : Phrase → List Token → Walk)
    (finish : Nat → List Diagnostic) (count : Nat) (tokens : List Token) : Walk :=
  (walkExpression context deeper tokens).andThen fun rest =>
    walkArguments context deeper finish (rest.length + 1) (count + 1) rest

section Arguments

variable {finish : Nat → List Diagnostic} {count : Nat} {rest : List Token}

/-- The count of the tokens does not matter to arguments either. -/
theorem walkArguments_fuel (hdeeper : ∀ phrase, Advances (deeper phrase)) {fuel fuel' : Nat}
    {tokens : List Token} (h : tokens.length < fuel) (h' : tokens.length < fuel') :
    walkArguments context deeper finish fuel count tokens =
      walkArguments context deeper finish fuel' count tokens := by
  induction fuel generalizing fuel' count tokens with
  | zero => contradiction
  | succ fuel ih =>
      obtain ⟨fuel', rfl⟩ := Nat.exists_eq_add_one.mpr (Nat.lt_of_le_of_lt (Nat.zero_le _) h')
      cases tokens with
      | nil => rfl
      | cons t rest =>
          rw [List.length_cons] at h h'
          rw [walkArguments, walkArguments]
          split
          · refine Walk.andThen_congr fun after hafter => ih ?_ ?_
            · have := walkExpression_advances hdeeper hafter
              omega
            · have := walkExpression_advances hdeeper hafter
              omega
          · rfl

/-- After a comma the arguments go on from the next one. -/
theorem walkArguments_comma (hdeeper : ∀ phrase, Advances (deeper phrase)) {comma : Token}
    (h : comma.kind = .comma) :
    walkArguments context deeper finish ((comma :: rest).length + 1) count (comma :: rest) =
      walkArgumentsFrom context deeper finish count rest := by
  rw [walkArguments, if_pos h]
  refine Walk.andThen_congr fun after hafter => walkArguments_fuel hdeeper ?_ (Nat.lt_succ_self _)
  exact Nat.lt_succ_of_lt (walkExpression_advances hdeeper hafter)

/-- At the parenthesis that closes the call the arguments are counted. -/
theorem walkArguments_closing {fuel : Nat} {closing : Token} (h : closing.kind = .rparen) :
    walkArguments context deeper finish (fuel + 1) count (closing :: rest) =
      (Walk.done rest).after (finish count) := by
  rw [walkArguments, if_neg (by simp [h]), expect_cons h, Walk.done_andThen]

variable {name opening : Token} (hopening : opening.kind = .lparen)

include hopening

/-- A call without arguments counts none. -/
theorem walkCall_closing {closing : Token} (h : closing.kind = .rparen) :
    walkCall context deeper (name :: opening :: closing :: rest) =
      (Walk.done rest).after
        (nameFindings (Text.lowerAscii name.text) ++ arityFindings (Text.lowerAscii name.text) 0) := by
  simp only [walkCall, expect_cons hopening, Walk.done_andThen, if_pos h, Walk.after_after]

/-- The arguments of a call start behind its parenthesis. -/
theorem walkCall_arguments {t : Token} (h : t.kind ≠ .rparen) :
    walkCall context deeper (name :: opening :: t :: rest) =
      (walkArgumentsFrom context deeper (arityFindings (Text.lowerAscii name.text)) 0
        (t :: rest)).after (nameFindings (Text.lowerAscii name.text)) := by
  simp only [walkCall, expect_cons hopening, Walk.done_andThen, if_neg h]
  rfl

end Arguments

end CatchmentLint.Expression
