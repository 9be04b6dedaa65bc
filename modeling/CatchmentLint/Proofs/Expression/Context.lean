import CatchmentLint.Expression.Validator

/-!
# CatchmentLint.Proofs.Expression.Context

What an expression asks of the context that it stands in.

* `walk_congr` — a walk asks for what is found at references, and for nothing else;
* `outputProblem?_congr` — of the schema a reference asks for the types of nodes only;
* `messages_node_congr` — so schemas with the same types of nodes give the same messages.
-/

namespace CatchmentLint.Expression

/-! ## Walks -/

section Walks

variable {context context' : Context}
  (h : ∀ t, referenceFindings context t = referenceFindings context' t)
include h

/-- An operand without signs is the one place where the context is asked. -/
theorem walkPrimary_congr : walkPrimary context = walkPrimary context' := by
  funext deeper tokens
  cases tokens with
  | nil => rfl
  | cons t rest => simp only [walkPrimary, h t]

/-- Signs ask for nothing more. -/
theorem walkOperand_congr : walkOperand context = walkOperand context' := by
  funext deeper tokens
  cases tokens <;> simp only [walkOperand, walkPrimary_congr h]

theorem walkOperators_congr : walkOperators context = walkOperators context' := by
  funext deeper fuel
  induction fuel with
  | zero => rfl
  | succ fuel ih =>
      funext tokens
      simp only [walkOperators, walkOperand_congr h, ih]

/-- Operators between operands ask the context for nothing more. -/
theorem walkExpression_congr : walkExpression context = walkExpression context' := by
  funext deeper tokens
  simp only [walkExpression, walkOperand_congr h, walkOperators_congr h]

theorem walkArguments_congr : walkArguments context = walkArguments context' := by
  funext deeper finish fuel
  induction fuel with
  | zero => rfl
  | succ fuel ih =>
      funext count tokens
      simp only [walkArguments, walkExpression_congr h, ih]

/-- A call asks the table of functions for its name and its arguments, and not the context. -/
theorem walkCall_congr : walkCall context = walkCall context' := by
  funext deeper tokens
  cases tokens <;> simp only [walkCall, walkExpression_congr h, walkArguments_congr h]

/-- Phrases at any depth are walked alike in contexts that find the same at references. -/
theorem walk_congr (room : Nat) : walk context room = walk context' room := by
  induction room with
  | zero => rfl
  | succ room ih =>
      funext phrase tokens
      cases phrase <;>
        simp only [walk, ih, walkExpression_congr h, walkOperand_congr h, walkCall_congr h]

/-- An expression is checked alike in such contexts: reading its tokens asks for none. -/
theorem check_congr : check context = check context' := by
  funext expression
  simp only [check, checkTokens, walkExpression_congr h, walk_congr h]

end Walks

/-! ## Schemas -/

section Schemas

variable {schema schema' : Schema} (h : schema'.nodeTypes = schema.nodeTypes)
include h

/-- The outputs of a node are those of its type. -/
theorem outputProblem?_congr : Reference.outputProblem? schema' = Reference.outputProblem? schema := by
  funext node output
  simp only [Reference.outputProblem?, Schema.nodeType?, h]

/-- A reference to a node asks the schema for the outputs of its type only. -/
theorem resolve_congr (m : Model) : Reference.resolve m schema' = Reference.resolve m schema := by
  funext reference
  simp only [Reference.resolve, outputProblem?_congr h]

/-- In a node, a reference to a node asks the schema for the types of nodes only. -/
theorem nodeProblem?_node_congr (m : Model) (self : Section) :
    Reference.nodeProblem? (.node m schema' self) = Reference.nodeProblem? (.node m schema self) := by
  funext reference
  simp only [Reference.nodeProblem?, Context.surroundings?, resolve_congr h]

/-- A reference to the node itself asks the schema for the types of nodes only. -/
theorem thisProblem?_node_congr (m : Model) (self : Section) :
    Reference.thisProblem? (.node m schema' self) = Reference.thisProblem? (.node m schema self) := by
  funext reference
  simp only [Reference.thisProblem?, outputProblem?_congr h]

/-- An expression in a node gives the same messages under schemas with the same types of nodes. -/
theorem messages_node_congr (m : Model) (self : Section) :
    messages (.node m schema' self) = messages (.node m schema self) := by
  have hnode := nodeProblem?_node_congr h m self
  have hthis := thisProblem?_node_congr h m self
  have hfindings : ∀ t, referenceFindings (.node m schema' self) t =
      referenceFindings (.node m schema self) t := by
    intro t
    simp only [referenceFindings, hnode, hthis]
  funext expression
  simp only [messages, checkTrimmed, hnode, hthis, check_congr hfindings]

end Schemas

end CatchmentLint.Expression
