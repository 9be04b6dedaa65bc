import CatchmentLint.Expression.Validator
import CatchmentLint.Proofs.Expression.Partition
import CatchmentLint.Proofs.Expression.Walk
import CatchmentLint.Proofs.Model.Unbroken

/-!
# CatchmentLint.Proofs.Expression.Wording

The messages for an expression stay on one line, as long as the expression, the model around it and
the outputs of its schema do.

* `ReadsAs.unbroken` and `FailsWith.unbroken` — tokens, and the error where there are none;
* `Context.IsUnbroken` and `unbroken_referenceFindings` — what is found at references;
* `Walk.IsUnbroken` — walks whose findings, error and remaining tokens stay on one line;
  `walk_keepsUnbroken` says so of every phrase;
* `unbroken_messages` — so all messages do.
-/

namespace CatchmentLint

open Text

/-! ## Tokens -/

namespace Token

variable {position : Nat} {s : Text}

/-- Tokens are parts of the text, so none of them has a line feed that the text has not. -/
theorem ReadsAs.unbroken {tokens : List Token} (h : ReadsAs position s tokens) (hs : s.Unbroken) :
    ∀ t ∈ tokens, t.text.Unbroken := by
  induction h with
  | done => exact List.forall_mem_singleton.mpr List.not_mem_nil
  | blank _ _ ih => exact ih (hs.mono (List.subset_cons_self _ _))
  | token _ _ _ ih =>
      obtain ⟨htext, hrest⟩ := unbroken_append_iff.mp hs
      exact List.forall_mem_cons.mpr ⟨htext, ih hrest⟩

/-- The error of a word is that its bracket is left open, which tells a position only. -/
theorem unbroken_of_readWord_error {e : LexError} (h : readWord position s = .error e) :
    e.message.Unbroken := by
  unfold readWord at h
  simp only at h
  split at h
  · split at h
    · split at h
      · contradiction
      · cases h
        exact Unbroken.append (by decide) (unbroken_ofNat _)
    · contradiction
  · contradiction

/-- The error of a single token quotes at most the number or the character that it begins with. -/
theorem unbroken_of_readLexeme_error {c : Char} {e : LexError} (hs : Unbroken (c :: s))
    (h : readLexeme position c s = .error e) : e.message.Unbroken := by
  unfold readLexeme at h
  split at h
  · contradiction
  split at h
  · contradiction
  split at h
  · contradiction
  split at h
  · simp only at h
    split at h
    · contradiction
    · cases h
      have htext := hs.mono (numberText_isPrefix (c :: s)).subset
      exact (Unbroken.append (by decide) htext).append (by decide)
  split at h
  · exact unbroken_of_readWord_error h
  split at h
  · contradiction
  · cases h
    have hchar : Unbroken [c] := hs.mono (List.cons_subset_cons c (List.nil_subset s))
    have hend : Unbroken [c, '\''] := hchar.append (by decide : Unbroken ['\''])
    exact ((Unbroken.append (by decide) (unbroken_ofNat _)).append (by decide)).append hend

/-- The error that ends the reading of an expression stays on one line, wherever it is. -/
theorem FailsWith.unbroken {e : LexError} (h : FailsWith e position s) (hs : s.Unbroken) :
    e.message.Unbroken := by
  induction h with
  | here _ hlexeme => exact unbroken_of_readLexeme_error hs hlexeme
  | blank _ _ ih => exact ih (hs.mono (List.subset_cons_self _ _))
  | token _ _ _ ih => exact ih (unbroken_append_iff.mp hs).2

end Token

/-! ## References -/

/-- The outputs of every node type stay on one line. -/
def Schema.HasUnbrokenOutputs (schema : Schema) : Prop :=
  ∀ type ∈ schema.nodeTypes, ∀ output ∈ type.2.outputs, output.Unbroken

instance (schema : Schema) : Decidable schema.HasUnbrokenOutputs :=
  inferInstanceAs (Decidable (∀ type ∈ schema.nodeTypes, ∀ output ∈ type.2.outputs, output.Unbroken))

/-- A node type that is found is one of the schema's. -/
theorem Schema.mem_of_nodeType? {schema : Schema} {name : Text} {t : NodeType}
    (h : schema.nodeType? name = some t) : (name, t) ∈ schema.nodeTypes := by
  obtain ⟨before, after, heq, -⟩ := List.lookup_eq_some_iff.mp h
  rw [heq]
  exact List.mem_append_right before List.mem_cons_self

/-- What the context can be quoted from stays on one line: the names, keys and values of the model
and of the node itself, and the outputs of the schema. -/
inductive Context.IsUnbroken : Context → Prop
  | empty : IsUnbroken .empty
  | model {m : Model} {schema : Schema} (hm : m.IsUnbroken) (hschema : schema.HasUnbrokenOutputs) :
      IsUnbroken (.model m schema)
  | node {m : Model} {schema : Schema} {self : Section} (hm : m.IsUnbroken)
      (hschema : schema.HasUnbrokenOutputs) (hself : self.IsUnbroken) :
      IsUnbroken (.node m schema self)

namespace Reference

/-- What a problem quotes from the expression, the model and the schema. -/
def Problem.quoted : Problem → List Text
  | .incomplete label reference | .consecutiveDots label reference | .trailingDot label reference =>
    [label, reference]
  | .malformedNode reference | .unknownVariable reference | .outsideNode reference => [reference]
  | .unknownNode name => [name]
  | .outputNotAllowed output nodeType allowed => output :: nodeType :: allowed

/-- The message of a problem adds no line feed to what it quotes. -/
theorem Problem.unbroken_message {p : Problem} (h : ∀ s ∈ p.quoted, s.Unbroken) :
    p.message.Unbroken := by
  cases p with
  | incomplete label reference =>
      obtain ⟨hlabel, hreference, -⟩ := List.forall_mem_cons.mp h |>.imp_right List.forall_mem_cons.mp
      exact (((Unbroken.append (by decide) hlabel).append (by decide)).append hreference).append
        (by decide)
  | consecutiveDots label reference | trailingDot label reference =>
      obtain ⟨hlabel, hreference, -⟩ := List.forall_mem_cons.mp h |>.imp_right List.forall_mem_cons.mp
      exact (((Unbroken.append (by decide) hlabel).append (by decide)).append hreference).append
        (by decide)
  | malformedNode reference | outsideNode reference =>
      have hreference := List.forall_mem_singleton.mp h
      exact (Unbroken.append (by decide) hreference).append (by decide)
  | unknownNode name => exact Unbroken.append (by decide) (List.forall_mem_singleton.mp h)
  | outputNotAllowed output nodeType allowed =>
      obtain ⟨houtput, htype, hallowed⟩ :=
        List.forall_mem_cons.mp h |>.imp_right List.forall_mem_cons.mp
      have hlist : (join ", ".toList allowed).Unbroken := unbroken_join (by decide) hallowed
      exact ((((Unbroken.append (by decide) houtput).append (by decide)).append htype).append
        (by decide)).append hlist
  | unknownVariable reference =>
      have hreference := List.forall_mem_singleton.mp h
      exact ((Unbroken.append (by decide) hreference).append (by decide)).append (by decide)

/-- A reference without its brackets is the start of the reference. -/
theorem unbroken_withoutBrackets {reference : Text} (h : reference.Unbroken) :
    (withoutBrackets reference).Unbroken := by
  unfold withoutBrackets
  split
  · exact h.mono (List.takeWhile_subset _)
  · exact h

/-- The name of a node and that of its output are parts of the reference. -/
theorem unbroken_of_splitNode? {reference name output : Text} (hreference : reference.Unbroken)
    (h : splitNode? reference = some (name, output)) : name.Unbroken ∧ output.Unbroken := by
  unfold splitNode? at h
  split at h
  · contradiction
  · next hlead =>
      split at h
      · contradiction
      · next hcut =>
          simp only [Option.ite_none_left_eq_some, Option.some.injEq, Prod.mk.injEq] at h
          obtain ⟨-, rfl, rfl⟩ := h
          exact (hreference.dropLead? hlead).cut? hcut

section Problems

variable {reference : Text} (hreference : reference.Unbroken) {p : Problem}

include hreference

/-- A reference with dots in the wrong places is quoted as it is. -/
theorem unbroken_of_dottedProblem? {label lead : Text} (hlabel : label.Unbroken)
    (h : dottedProblem? label lead reference = some p) : ∀ s ∈ p.quoted, s.Unbroken := by
  have hquoted : ∀ s ∈ [label, reference], s.Unbroken :=
    List.forall_mem_cons.mpr ⟨hlabel, List.forall_mem_singleton.mpr hreference⟩
  simp only [dottedProblem?] at h
  split at h
  · exact Option.some.inj h ▸ hquoted
  split at h
  · exact Option.some.inj h ▸ hquoted
  split at h
  · exact Option.some.inj h ▸ hquoted
  · contradiction

/-- A reference to no variable of the simulation is quoted as it is. -/
theorem unbroken_of_variableProblem? (h : variableProblem? reference = some p) :
    ∀ s ∈ p.quoted, s.Unbroken := by
  unfold variableProblem? at h
  split at h
  · contradiction
  · exact Option.some.inj h ▸ List.forall_mem_singleton.mpr hreference

/-- A wrong output is told of with the type of its node, out of the model, and with the outputs that
the schema has for that type. -/
theorem unbroken_of_outputProblem? {schema : Schema} (hschema : schema.HasUnbrokenOutputs)
    {node : Section} (hnode : node.IsUnbroken) (h : outputProblem? schema node reference = some p) :
    ∀ s ∈ p.quoted, s.Unbroken := by
  unfold outputProblem? at h
  split at h
  · contradiction
  · next type htype =>
      split at h
      · contradiction
      · next t ht =>
          simp only [Option.ite_none_left_eq_some, Option.some.injEq] at h
          obtain ⟨-, rfl⟩ := h
          have houtputs := hschema _ (Schema.mem_of_nodeType? ht)
          exact List.forall_mem_cons.mpr
            ⟨hreference, List.forall_mem_cons.mpr ⟨hnode.nodeType? htype, houtputs⟩⟩

/-- Whatever is wrong with a reference to a node of the model, it quotes the reference, the model
and the schema. -/
theorem unbroken_of_resolve {m : Model} (hm : m.IsUnbroken) {schema : Schema}
    (hschema : schema.HasUnbrokenOutputs) (h : resolve m schema reference = .error p) :
    ∀ s ∈ p.quoted, s.Unbroken := by
  have hbody := unbroken_withoutBrackets hreference
  simp only [resolve] at h
  split at h
  · exact Except.error.inj h ▸ List.forall_mem_singleton.mpr hbody
  · next hsplit =>
      obtain ⟨hname, houtput⟩ := unbroken_of_splitNode? hbody hsplit
      split at h
      · exact Except.error.inj h ▸ List.forall_mem_singleton.mpr hname
      · next node hnode =>
          have hdeclared := (lastWith?_eq_some_iff.mp hnode).2.mem
          split at h
          · next hproblem =>
              exact Except.error.inj h ▸
                unbroken_of_outputProblem? houtput hschema (hm.node hdeclared).2 hproblem
          · contradiction

/-- A reference to a node quotes no more without a model, where it is looked at by itself. -/
theorem unbroken_of_nodeProblem? {context : Context} (hcontext : context.IsUnbroken)
    (h : nodeProblem? context reference = some p) : ∀ s ∈ p.quoted, s.Unbroken := by
  unfold nodeProblem? at h
  split at h
  · next hdotted =>
      exact Option.some.inj h ▸ unbroken_of_dottedProblem? hreference (by decide) hdotted
  · split at h
    · next m schema hknown =>
        split at h
        · next hresolve =>
            have hmodel : m.IsUnbroken ∧ schema.HasUnbrokenOutputs := by
              cases hcontext with
              | empty => contradiction
              | model hm hschema => cases hknown; exact ⟨hm, hschema⟩
              | node hm hschema => cases hknown; exact ⟨hm, hschema⟩
            exact Option.some.inj h ▸
              unbroken_of_resolve hreference hmodel.1 hmodel.2 hresolve
        · contradiction
    · split at h
      · exact Option.some.inj h ▸ List.forall_mem_singleton.mpr hreference
      · contradiction

/-- A reference to the node itself quotes no more than one to a node. -/
theorem unbroken_of_thisProblem? {context : Context} (hcontext : context.IsUnbroken)
    (h : thisProblem? context reference = some p) : ∀ s ∈ p.quoted, s.Unbroken := by
  have hincomplete : ∀ s ∈ ["this".toList, reference], Unbroken s :=
    List.forall_mem_cons.mpr ⟨by decide, List.forall_mem_singleton.mpr hreference⟩
  unfold thisProblem? at h
  split at h
  · exact Option.some.inj h ▸ hincomplete
  · exact Option.some.inj h ▸ hincomplete
  · next output _ hlead =>
      have houtput : output.Unbroken := (unbroken_withoutBrackets hreference).dropLead? hlead
      split at h
      · cases hcontext with
        | node _ hschema hself => exact unbroken_of_outputProblem? houtput hschema hself h
      · exact Option.some.inj h ▸ List.forall_mem_singleton.mpr hreference

end Problems

end Reference

namespace Expression

/-- What is found at a reference stays on one line, of whatever kind the reference is. -/
theorem unbroken_of_mem_referenceFindings {context : Context} (hcontext : context.IsUnbroken) {t : Token}
    (ht : t.text.Unbroken) {d : Diagnostic} (h : d ∈ referenceFindings context t) :
    d.message.Unbroken := by
  simp only [referenceFindings, Option.mem_toList, Option.map_eq_some_iff] at h
  obtain ⟨p, hp, rfl⟩ := h
  refine Reference.Problem.unbroken_message ?_
  split at hp
  · exact Reference.unbroken_of_dottedProblem? ht (by decide) hp
  · exact Reference.unbroken_of_dottedProblem? ht (by decide) hp
  · exact Reference.unbroken_of_nodeProblem? ht hcontext hp
  · exact Reference.unbroken_of_thisProblem? ht hcontext hp
  · exact Reference.unbroken_of_variableProblem? ht hp
  · contradiction

/-! ## Walks -/

/-- What is found, and the error or the tokens at the end, stay on one line. -/
structure Walk.IsUnbroken (w : Walk) : Prop where
  findings : ∀ d ∈ w.findings, d.message.Unbroken
  error : ∀ e, w.rest = .error e → e.message.Unbroken
  rest : ∀ tokens, w.rest = .ok tokens → ∀ t ∈ tokens, t.text.Unbroken

namespace Walk

variable {w : Walk} {tokens : List Token}

/-- A walk that ends well has nothing but its tokens. -/
theorem isUnbroken_done (h : ∀ t ∈ tokens, t.text.Unbroken) : (done tokens).IsUnbroken :=
  ⟨List.forall_mem_nil _, nofun, fun _ heq => Except.ok.inj heq ▸ h⟩

/-- A walk that fails at once has nothing but its error. -/
theorem isUnbroken_fail {e : SyntaxError} (h : e.message.Unbroken) : (fail e).IsUnbroken :=
  ⟨List.forall_mem_nil _, fun _ heq => Except.error.inj heq ▸ h, nofun⟩

/-- Findings may be put in front. -/
theorem IsUnbroken.after (h : w.IsUnbroken) {findings : List Diagnostic}
    (hfindings : ∀ d ∈ findings, d.message.Unbroken) : (w.after findings).IsUnbroken :=
  ⟨List.forall_mem_append.mpr ⟨hfindings, h.findings⟩, h.error, h.rest⟩

/-- One walk after the other. -/
theorem IsUnbroken.andThen (h : w.IsUnbroken) {next : List Token → Walk}
    (hnext : ∀ tokens, (∀ t ∈ tokens, t.text.Unbroken) → (next tokens).IsUnbroken) :
    (w.andThen next).IsUnbroken := by
  cases hrest : w.rest with
  | ok tokens =>
      rw [andThen_of_ok hrest]
      exact (hnext tokens (h.rest tokens hrest)).after h.findings
  | error e => rwa [andThen_of_error hrest]

end Walk

/-! ## Findings of a walk -/

/-- The findings at an operator quote nothing. -/
theorem unbroken_of_mem_operatorFindings {t : Token} {rest : List Token} {d : Diagnostic}
    (h : d ∈ operatorFindings t rest) : d.message.Unbroken := by
  unfold operatorFindings at h
  split at h
  · rw [List.mem_singleton.mp h]
    decide
  split at h
  · rw [List.mem_singleton.mp h]
    decide
  split at h
  · rw [List.mem_singleton.mp h]
    decide
  split at h
  · rw [List.mem_singleton.mp h]
    decide
  · cases h

/-- The message for an unknown function quotes its name, and a better one out of the table. -/
theorem unbroken_unknownMessage {name : Text} (h : name.Unbroken) :
    (Function.unknownMessage name).Unbroken := by
  have htable : ∀ entry ∈ Function.suggestion?.table, Unbroken entry.2.toList := by decide
  have hname := (Unbroken.append (by decide : Unbroken "Unknown function: '".toList) h).append
    (by decide : Unbroken "'".toList)
  unfold Function.unknownMessage
  refine hname.append ?_
  split
  · next known hknown =>
      obtain ⟨right, hlookup, rfl⟩ := Option.map_eq_some_iff.mp hknown
      obtain ⟨before, after, heq, -⟩ := List.lookup_eq_some_iff.mp hlookup
      have hright := htable (name, right) (by rw [heq]; exact List.mem_append_right _ List.mem_cons_self)
      exact (Unbroken.append (by decide) hright).append (by decide)
  · exact List.not_mem_nil

/-- What is found at the name of a function stays on one line if the name does. -/
theorem unbroken_of_mem_nameFindings {name : Text} (hname : name.Unbroken) {d : Diagnostic}
    (h : d ∈ nameFindings name) : d.message.Unbroken := by
  rw [eq_unknownFunction_of_mem h]
  exact unbroken_unknownMessage hname

/-- The message for a wrong number of arguments quotes the name, and numbers. -/
theorem unbroken_mismatch {name : Text} (hname : name.Unbroken) (arity : Arity) (got : Nat) :
    (arity.mismatch name got).Unbroken := by
  cases arity with
  | exactly count =>
      have hexpects := ((Unbroken.append (by decide : Unbroken "Function '".toList) hname).append
        (by decide : Unbroken "' expects ".toList)).append (unbroken_ofNat count)
      have hplural : Unbroken (if count = 1 then " argument, but got ".toList
          else " arguments, but got ".toList) := by split <;> decide
      exact (hexpects.append hplural).append (unbroken_ofNat got)
  | variadic =>
      exact ((Unbroken.append (by decide) hname).append (by decide)).append (unbroken_ofNat got)

/-- What is found at the end of a call stays on one line if the name does. -/
theorem unbroken_of_mem_arityFindings {name : Text} (hname : name.Unbroken) {count : Nat}
    {d : Diagnostic} (h : d ∈ arityFindings name count) : d.message.Unbroken := by
  obtain ⟨arity, rfl⟩ := exists_wrongArity_of_mem h
  exact unbroken_mismatch hname arity count

theorem unbroken_kind (kind : TokenKind) : kind.toText.Unbroken := by cases kind <;> decide

/-- The error for a missing token names two kinds and quotes what is there instead. -/
theorem unbroken_expectedToken (expected found : TokenKind) {text : Text} (h : text.Unbroken) :
    (SyntaxError.expectedToken expected found text).message.Unbroken :=
  (((((Unbroken.append (by decide) (unbroken_kind expected)).append (by decide)).append
    (unbroken_kind found)).append (by decide)).append h).append (by decide)

theorem unbroken_expectedOperand (found : TokenKind) :
    (SyntaxError.expectedOperand found).message.Unbroken :=
  Unbroken.append (by decide) (unbroken_kind found)

/-- The error for too deep a nesting quotes its limit. -/
theorem unbroken_nestingTooDeep (limit : Nat) :
    (SyntaxError.nestingTooDeep limit).message.Unbroken :=
  (Unbroken.append (by decide) (unbroken_ofNat limit)).append (by decide)

/-! ## Walks -/

/-- From tokens that stay on one line, a walk finds nothing that does not. -/
def KeepsUnbroken (walk : List Token → Walk) : Prop :=
  ∀ tokens, (∀ t ∈ tokens, t.text.Unbroken) → (walk tokens).IsUnbroken

/-- A token that is expected is passed, or quoted by the error. -/
theorem expect_keepsUnbroken (kind : TokenKind) : KeepsUnbroken (expect kind) := by
  intro tokens h
  cases tokens with
  | nil => exact Walk.isUnbroken_fail (unbroken_expectedToken _ _ List.not_mem_nil)
  | cons t rest =>
      obtain ⟨ht, hrest⟩ := List.forall_mem_cons.mp h
      rw [expect]
      split
      · exact Walk.isUnbroken_done hrest
      · exact Walk.isUnbroken_fail (unbroken_expectedToken _ _ ht)

section Level

variable {context : Context} (hcontext : context.IsUnbroken) {deeper : Phrase → List Token → Walk}
  (hdeeper : ∀ phrase, KeepsUnbroken (deeper phrase))

include hcontext hdeeper

/-- An operand without signs: a number, a reference, a name, a call or parentheses. -/
theorem walkPrimary_keepsUnbroken : KeepsUnbroken (walkPrimary context deeper) := by
  intro tokens h
  cases tokens with
  | nil => exact Walk.isUnbroken_fail (unbroken_expectedOperand _)
  | cons t rest =>
      obtain ⟨ht, hrest⟩ := List.forall_mem_cons.mp h
      have hoperand : ((Walk.done rest).after (referenceFindings context t)).IsUnbroken :=
        (Walk.isUnbroken_done hrest).after fun _ => unbroken_of_mem_referenceFindings hcontext ht
      simp only [walkPrimary]
      cases t.kind with
      | number | dataRef | constRef | nodeRef | thisRef | simRef => exact hoperand
      | ident =>
          cases rest with
          | nil => exact Walk.isUnbroken_done hrest
          | cons next more =>
              simp only
              split
              · exact hdeeper .call _ h
              · exact Walk.isUnbroken_done hrest
      | lparen => exact (hdeeper .expression rest hrest).andThen (expect_keepsUnbroken .rparen)
      | operator | rparen | comma | eof => exact Walk.isUnbroken_fail (unbroken_expectedOperand _)

/-- An operand with its signs. -/
theorem walkOperand_keepsUnbroken : KeepsUnbroken (walkOperand context deeper) := by
  intro tokens h
  cases tokens with
  | nil => exact walkPrimary_keepsUnbroken hcontext hdeeper [] h
  | cons t rest =>
      rw [walkOperand]
      split
      · exact hdeeper .operand rest (List.forall_mem_cons.mp h).2
      · exact walkPrimary_keepsUnbroken hcontext hdeeper _ h

/-- Operators with their operands, as many as there are. -/
theorem walkOperators_keepsUnbroken (fuel : Nat) :
    KeepsUnbroken (walkOperators context deeper fuel) := by
  induction fuel with
  | zero => exact fun tokens => Walk.isUnbroken_done
  | succ fuel ih =>
      intro tokens h
      cases tokens with
      | nil => exact Walk.isUnbroken_done h
      | cons t rest =>
          rw [walkOperators]
          split
          · have hrest := (List.forall_mem_cons.mp h).2
            exact ((walkOperand_keepsUnbroken hcontext hdeeper rest hrest).andThen ih).after
              fun _ => unbroken_of_mem_operatorFindings
          · exact Walk.isUnbroken_done h

/-- An operand with the operators behind it. -/
theorem walkExpression_keepsUnbroken : KeepsUnbroken (walkExpression context deeper) :=
  fun tokens h => (walkOperand_keepsUnbroken hcontext hdeeper tokens h).andThen fun rest =>
    walkOperators_keepsUnbroken hcontext hdeeper rest.length rest

/-- The arguments of a call from the second on, and what is found at its end. -/
theorem walkArguments_keepsUnbroken {finish : Nat → List Diagnostic}
    (hfinish : ∀ count, ∀ d ∈ finish count, d.message.Unbroken) (fuel count : Nat) :
    KeepsUnbroken (walkArguments context deeper finish fuel count) := by
  induction fuel generalizing count with
  | zero => exact fun tokens => Walk.isUnbroken_done
  | succ fuel ih =>
      intro tokens h
      cases tokens with
      | nil => exact expect_keepsUnbroken .rparen [] h
      | cons t rest =>
          rw [walkArguments]
          split
          · have hrest := (List.forall_mem_cons.mp h).2
            exact (walkExpression_keepsUnbroken hcontext hdeeper rest hrest).andThen (ih (count + 1))
          · exact (expect_keepsUnbroken .rparen _ h).andThen fun after hafter =>
              (Walk.isUnbroken_done hafter).after (hfinish count)

/-- A call: its name, its parentheses and the arguments between them. -/
theorem walkCall_keepsUnbroken : KeepsUnbroken (walkCall context deeper) := by
  intro tokens h
  cases tokens with
  | nil => exact Walk.isUnbroken_fail (unbroken_expectedToken _ _ List.not_mem_nil)
  | cons t rest =>
      obtain ⟨ht, hrest⟩ := List.forall_mem_cons.mp h
      have hname : (Text.lowerAscii t.text).Unbroken := unbroken_lowerAscii ht
      have hfinish : ∀ count, ∀ d ∈ arityFindings (Text.lowerAscii t.text) count,
          d.message.Unbroken := fun _ _ => unbroken_of_mem_arityFindings hname
      simp only [walkCall]
      refine Walk.IsUnbroken.after ?_ fun _ => unbroken_of_mem_nameFindings hname
      refine (expect_keepsUnbroken .lparen rest hrest).andThen fun after hafter => ?_
      cases after with
      | nil => exact walkExpression_keepsUnbroken hcontext hdeeper [] hafter
      | cons closing more =>
          simp only
          split
          · have hmore := (List.forall_mem_cons.mp hafter).2
            exact (Walk.isUnbroken_done hmore).after (hfinish 0)
          · exact (walkExpression_keepsUnbroken hcontext hdeeper _ hafter).andThen fun rest =>
              walkArguments_keepsUnbroken hcontext hdeeper hfinish (rest.length + 1) 1 rest

end Level

variable {context : Context} (hcontext : context.IsUnbroken)

include hcontext

/-- Every phrase at every depth, by what is left of the depth. -/
theorem walk_keepsUnbroken (room : Nat) (phrase : Phrase) :
    KeepsUnbroken (walk context room phrase) := by
  induction room generalizing phrase with
  | zero => exact fun _ _ => Walk.isUnbroken_fail (unbroken_nestingTooDeep _)
  | succ room ih =>
      cases phrase with
      | expression => exact walkExpression_keepsUnbroken hcontext ih
      | operand => exact walkOperand_keepsUnbroken hcontext ih
      | call => exact walkCall_keepsUnbroken hcontext ih

/-! ## Whole expressions -/

/-- The findings of all tokens, with the error or the token that is left over. -/
theorem unbroken_of_mem_checkTokens {tokens : List Token} (htokens : ∀ t ∈ tokens, t.text.Unbroken)
    {d : Diagnostic} (h : d ∈ checkTokens context tokens) : d.message.Unbroken := by
  have hwalk := walkExpression_keepsUnbroken hcontext
    (fun phrase => walk_keepsUnbroken hcontext maxNesting phrase) tokens htokens
  simp only [checkTokens] at h
  split at h
  · next e herror =>
      cases List.mem_append.mp h with
      | inl hfound => exact hwalk.findings d hfound
      | inr hlast => exact List.mem_singleton.mp hlast ▸ hwalk.error e herror
  · exact hwalk.findings d h
  · next t rest hrest =>
      split at h
      · exact hwalk.findings d h
      · cases List.mem_append.mp h with
        | inl hfound => exact hwalk.findings d hfound
        | inr hlast =>
            rw [List.mem_singleton.mp hlast]
            have ht := hwalk.rest _ hrest t List.mem_cons_self
            exact (Unbroken.append (by decide) ht).append (by decide)

/-- The findings of a text, be it read into tokens or not. -/
theorem unbroken_of_mem_check {expression : Text} (hexpression : expression.Unbroken)
    {d : Diagnostic} (h : d ∈ check context expression) : d.message.Unbroken := by
  unfold check at h
  split at h
  · next herror =>
      rw [List.mem_singleton.mp h]
      exact (Token.failsWith_of_readFrom herror).unbroken hexpression
  · next hread =>
      exact unbroken_of_mem_checkTokens hcontext
        ((Token.readsAs_of_readFrom hread).unbroken hexpression) h

/-- Every message for an expression stays on one line. -/
theorem unbroken_messages {expression : Text} (hexpression : expression.Unbroken) :
    ∀ message ∈ messages context expression, message.Unbroken := by
  intro message hmessage
  obtain ⟨d, hd, rfl⟩ := List.mem_map.mp hmessage
  have htrimmed := hexpression.trim
  -- The short cuts come first, with one message at most; what is left is checked in full.
  unfold checkTrimmed at hd
  split at hd
  · rw [List.mem_singleton.mp hd]
    decide
  split at hd
  · cases hd
  split at hd
  · obtain ⟨p, hp, rfl⟩ := Option.map_eq_some_iff.mp (Option.mem_toList.mp hd)
    exact (Reference.unbroken_of_nodeProblem? htrimmed hcontext hp |>
      Reference.Problem.unbroken_message)
  split at hd
  · obtain ⟨p, hp, rfl⟩ := Option.map_eq_some_iff.mp (Option.mem_toList.mp hd)
    exact (Reference.unbroken_of_thisProblem? htrimmed hcontext hp |>
      Reference.Problem.unbroken_message)
  split at hd
  · cases hd
  · exact unbroken_of_mem_check hcontext htrimmed hd

end Expression

end CatchmentLint
