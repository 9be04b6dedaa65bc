import CatchmentLint.Expression.Check

/-!
# CatchmentLint.Proofs.Expression.Messages

Findings can be told apart by their messages, as far as the openings and the ends of these go:

* `take_message` — how each message opens;
* `message_ne_of_isFinding` — no message about a construct reads like one about the syntax;
* `message_eq_zeroDivisor_iff` and `message_eq_malformedNode_iff` — two messages that only one finding
  has each.
-/

namespace CatchmentLint.Expression

/-- The finding is about a construct, after which the walk goes on. -/
def isFinding : Diagnostic → Bool
  | .emptyExpression | .syntaxError _ => false
  | _ => true

/-! ## Openings

Nine characters tell the messages about constructs from those about the syntax. -/

/-- How the message of an error begins. -/
def errorOpening : SyntaxError → Text
  | .lexical (.unexpectedCharacter ..) | .trailingTokens _ => "Unexpecte".toList
  | .lexical (.invalidNumber _) => "Invalid n".toList
  | .lexical (.unclosedBracket _) => "Unclosed ".toList
  | .expectedOperand _ | .expectedToken .. => "Expected ".toList
  | .nestingTooDeep _ => "Expressio".toList

/-- How the message of a problem with a reference begins. -/
def problemOpening : Reference.Problem → Text
  | .incomplete .. => "Incomplet".toList
  | .consecutiveDots .. | .trailingDot .. | .malformedNode _ => "Malformed".toList
  | .unknownNode _ => "Node refe".toList
  | .outputNotAllowed .. => "Output pr".toList
  | .unknownVariable _ => "Unknown s".toList
  | .outsideNode _ => "Cannot us".toList

/-- How the message of a finding begins. -/
def opening : Diagnostic → Text
  | .emptyExpression => "Expressio".toList
  | .syntaxError e => errorOpening e
  | .doubledOr | .doubledAnd | .singleEquals => "Invalid o".toList
  | .zeroDivisor => "Warning: ".toList
  | .reference p => problemOpening p
  | .unknownFunction _ => "Unknown f".toList
  | .wrongArity .. => "Function ".toList

theorem take_message (d : Diagnostic) : d.message.take 9 = opening d := by
  cases d with
  | syntaxError e =>
      cases e with
      | lexical e => cases e <;> rfl
      | _ => rfl
  | reference p => cases p <;> rfl
  | wrongArity name arity got => cases arity <;> rfl
  | _ => rfl

/-- Messages that are the same begin alike. -/
theorem opening_eq_of_message_eq {d d' : Diagnostic} (h : d.message = d'.message) :
    opening d = opening d' := by
  rw [← take_message, ← take_message, h]

/-- All that the messages of errors can begin with. -/
def errorOpenings : List Text :=
  ["Unexpecte".toList, "Invalid n".toList, "Unclosed ".toList, "Expected ".toList, "Expressio".toList]

theorem errorOpening_mem (e : SyntaxError) : errorOpening e ∈ errorOpenings := by
  cases e with
  | lexical e =>
      cases e with
      | unexpectedCharacter => exact .head _
      | invalidNumber => exact .tail _ (.head _)
      | unclosedBracket => exact .tail _ (.tail _ (.head _))
  | expectedOperand | expectedToken => exact .tail _ (.tail _ (.tail _ (.head _)))
  | nestingTooDeep => exact .tail _ (.tail _ (.tail _ (.tail _ (.head _))))
  | trailingTokens => exact .head _

/-- A character that begins none of these begins no message of an error. -/
theorem head?_errorOpening_ne {c : Char} (h : ∀ start ∈ errorOpenings, start.head? ≠ some c)
    (e : SyntaxError) : (errorOpening e).head? ≠ some c :=
  h _ (errorOpening_mem e)

/-- No message about a construct begins like one about the syntax. -/
theorem opening_notMem {d : Diagnostic} (h : isFinding d = true) : opening d ∉ errorOpenings := by
  cases d with
  | emptyExpression | syntaxError => contradiction
  | reference p =>
      cases p with
      | incomplete => exact show "Incomplet".toList ∉ errorOpenings by decide
      | consecutiveDots | trailingDot | malformedNode =>
          exact show "Malformed".toList ∉ errorOpenings by decide
      | unknownNode => exact show "Node refe".toList ∉ errorOpenings by decide
      | outputNotAllowed => exact show "Output pr".toList ∉ errorOpenings by decide
      | unknownVariable => exact show "Unknown s".toList ∉ errorOpenings by decide
      | outsideNode => exact show "Cannot us".toList ∉ errorOpenings by decide
  | doubledOr | doubledAnd | singleEquals => exact show "Invalid o".toList ∉ errorOpenings by decide
  | zeroDivisor => exact show "Warning: ".toList ∉ errorOpenings by decide
  | unknownFunction => exact show "Unknown f".toList ∉ errorOpenings by decide
  | wrongArity => exact show "Function ".toList ∉ errorOpenings by decide

/-- No message about a construct reads like one about the syntax. -/
theorem message_ne_of_isFinding {d : Diagnostic} (h : isFinding d = true) (e : SyntaxError) :
    d.message ≠ e.message := by
  intro heq
  have hopening : opening d = opening (.syntaxError e) := opening_eq_of_message_eq heq
  exact opening_notMem h (hopening ▸ errorOpening_mem e)

/-! ## Messages of one finding -/

/-- Only a divisor that is a literal zero is told of as one. -/
theorem message_eq_zeroDivisor_iff {d : Diagnostic} :
    d.message = Diagnostic.zeroDivisor.message ↔ d = .zeroDivisor := by
  refine ⟨fun h => ?_, fun h => h ▸ rfl⟩
  have hhead : (opening d).head? = some 'W' := by
    rw [opening_eq_of_message_eq h]
    rfl
  cases d with
  | zeroDivisor => rfl
  | syntaxError e => exact absurd hhead (head?_errorOpening_ne (by decide) e)
  | reference p => cases p <;> cases hhead
  | _ => cases hhead

/-- The messages about a malformed node reference differ from those about its dots in how they end. -/
theorem message_eq_malformedNode_iff {d : Diagnostic} {r : Text} :
    d.message = (Diagnostic.reference (.malformedNode r)).message ↔ d = .reference (.malformedNode r) := by
  refine ⟨fun h => ?_, fun h => h ▸ rfl⟩
  have hhead : (opening d).head? = some 'M' := by
    rw [opening_eq_of_message_eq h]
    rfl
  have hlast : d.message.getLast? = some '\'' := by
    rw [h]
    exact List.getLast?_concat
  have hdots : ∀ front note : Text, (front ++ (note ++ [')'])).getLast? = some ')' := by simp
  cases d with
  | reference p =>
      cases p with
      | malformedNode r' =>
          obtain ⟨front, hmessage⟩ : ∃ front : Text, ∀ r,
              (Diagnostic.reference (.malformedNode r)).message = front ++ r ++ ['\''] := ⟨_, fun _ => rfl⟩
          rw [hmessage, hmessage] at h
          rw [List.append_cancel_left (List.append_cancel_right h)]
      | consecutiveDots label r' => cases (hdots _ "' (consecutive dots".toList).symm.trans hlast
      | trailingDot label r' => cases (hdots _ "' (trailing dot".toList).symm.trans hlast
      | _ => cases hhead
  | syntaxError e => exact absurd hhead (head?_errorOpening_ne (by decide) e)
  | _ => cases hhead

end CatchmentLint.Expression
