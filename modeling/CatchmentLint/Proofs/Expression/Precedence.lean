import CatchmentLint.Expression.Cursor
import CatchmentLint.Proofs.Expression.Walk

/-!
# CatchmentLint.Proofs.Expression.Precedence

The levels of precedence, each of which walks operands of the next level with its own operators
between them.  Climbing through all of them is walking the operators alike:

* `walkLevel_walkLevel` — a level of a level is one level with the operators of both;
* `climb_eq` — so the whole ladder is one level;
* `walkExpression_eq_climb` — which is how the walk reads an expression.
-/

namespace CatchmentLint.Expression

/-- Walks an expression by its levels: the operands of each are what the tighter ones walk. -/
def climb (operand : List Token → Walk) : List (List Text) → List Token → Walk
  | [] => operand
  | operators :: tighter => walkLevel operators (climb operand tighter)

section Climb

variable {operand : List Token → Walk} (hoperand : Advances operand)

include hoperand

/-- A chain of tight operators that loose ones go on is a chain of both. -/
theorem walkChain_andThen (loose tight : List Text) (tokens : List Token) :
    (walkChain tight operand tokens.length tokens).andThen (fun rest =>
        walkChain loose (walkLevel tight operand) rest.length rest) =
      walkChain (loose ++ tight) operand tokens.length tokens := by
  have hlevel : Advances (walkLevel tight operand) := walkLevel_advances hoperand
  -- The induction is on the number of tokens, since an operator and its operand take some of them.
  induction hlength : tokens.length using Nat.strongRecOn generalizing tokens with
  | ind n ih =>
      subst hlength
      cases tokens with
      | nil => rfl
      | cons t rest =>
          have hoperators : isOneOf (loose ++ tight) t = (isOneOf loose t || isOneOf tight t) := by
            cases hkind : t.kind == .operator <;> simp [isOneOf, hkind]
          -- Whichever operator comes next, the same is left to walk after its operand.
          have hnext : (walkLevel tight operand rest).andThen (fun rest =>
              walkChain loose (walkLevel tight operand) rest.length rest) =
                walkLevel (loose ++ tight) operand rest := by
            rw [walkLevel, Walk.andThen_assoc]
            refine Walk.andThen_congr fun after hafter => ih _ ?_ after rfl
            exact Nat.lt_succ_of_lt (hoperand hafter)
          rw [walkChain_cons hoperand, walkChain_cons hoperand, hoperators]
          cases htight : isOneOf tight t with
          | true => simp [hnext]
          | false =>
              simp only [Bool.false_eq_true, if_false, Walk.done_andThen, Bool.or_false]
              rw [walkChain_cons hlevel]
              split
              · rw [walkLevel, hnext]
              · rfl

theorem walkLevel_walkLevel (loose tight : List Text) :
    walkLevel loose (walkLevel tight operand) = walkLevel (loose ++ tight) operand := by
  funext tokens
  calc walkLevel loose (walkLevel tight operand) tokens
      = (operand tokens).andThen (fun rest => (walkChain tight operand rest.length rest).andThen
          fun rest => walkChain loose (walkLevel tight operand) rest.length rest) := by
        rw [walkLevel, walkLevel, Walk.andThen_assoc]
    _ = walkLevel (loose ++ tight) operand tokens :=
        Walk.andThen_congr fun rest _ => walkChain_andThen hoperand loose tight rest

omit hoperand in
theorem walkLevel_nil (operand : List Token → Walk) : walkLevel [] operand = operand := by
  funext tokens
  have hchain : ∀ rest, walkChain [] operand rest.length rest = .done rest := by
    intro rest
    cases rest with
    | nil => rfl
    | cons t rest =>
        rw [List.length_cons, walkChain, if_neg]
        simp [isOneOf]
  rw [walkLevel, funext hchain]
  cases h : (operand tokens).rest with
  | ok rest => rw [Walk.andThen_of_ok h, Walk.after, Walk.done, List.append_nil, ← h]
  | error e => rw [Walk.andThen_of_error h]

/-- The ladder reads all operators alike. -/
theorem climb_eq (levels : List (List Text)) :
    climb operand levels = walkLevel levels.flatten operand := by
  induction levels with
  | nil => exact (walkLevel_nil operand).symm
  | cons operators tighter ih => rw [climb, ih, walkLevel_walkLevel hoperand, List.flatten_cons]

theorem climb_advances (levels : List (List Text)) : Advances (climb operand levels) := by
  rw [climb_eq hoperand]
  exact walkLevel_advances hoperand

end Climb

/-- The levels have the binary operators among them, each in one level. -/
theorem flatten_levels : levels.flatten = binaryOperators := by decide

/-- An expression is walked by its levels of precedence, at any depth. -/
theorem walkExpression_eq_climb (context : Context) (room : Nat) :
    walkExpression context (walk context room) = climb (walkOperand context (walk context room)) levels := by
  rw [walkExpression_eq, climb_eq (walkOperand_advances (walk_advances context room)),
    flatten_levels]

end CatchmentLint.Expression
