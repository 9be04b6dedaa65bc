import CatchmentLint.Proofs.Expression.Walk

/-!
# CatchmentLint.Proofs.Expression.Trace

What a walk comes upon does not depend on the context: that is asked at operands only, and a finding
never changes where the walk goes on.

* `Traced` — walks over the same tokens in all contexts come upon the same events and end alike;
* `walk_traced` — so does every phrase, whatever room it has;
* `check_traced` — an expression has one list of events, whose findings stand before the error that
  ends its check, if one does.
-/

namespace CatchmentLint.Expression

/-! ## Events -/

/-- What is told at an operator or at a call, in any context. -/
def isRemark : Diagnostic → Bool
  | .doubledOr | .doubledAnd | .singleEquals | .zeroDivisor | .unknownFunction _ | .wrongArity .. => true
  | _ => false

/-- What a walk comes upon and may tell of. -/
inductive Event where
  /-- A number or a reference, of which the context decides what is found. -/
  | operand (t : Token)
  | remark (d : Diagnostic)

namespace Event

/-- What is found at the event in a context. -/
def findings (context : Context) : Event → List Diagnostic
  | .operand t => referenceFindings context t
  | .remark d => [d]

/-- The event is about one of the tokens, or a remark. -/
def IsOf (tokens : List Token) : Event → Prop
  | .operand t => t ∈ tokens
  | .remark d => isRemark d = true

/-- An event of some of the tokens is one of all of them. -/
theorem IsOf.mono {tokens more : List Token} {e : Event} (h : e.IsOf tokens) (hsuffix : tokens <:+ more) :
    e.IsOf more := by
  cases e with
  | operand t => exact hsuffix.subset h
  | remark d => exact h

end Event

/-- What is found at an operator is found in any context. -/
theorem isRemark_of_mem_operatorFindings {t : Token} {rest : List Token} {d : Diagnostic}
    (h : d ∈ operatorFindings t rest) : isRemark d = true := by
  unfold operatorFindings at h
  grind [isRemark]

/-- What is found at the name of a function is found in any context. -/
theorem isRemark_of_mem_nameFindings {name : Text} {d : Diagnostic} (h : d ∈ nameFindings name) :
    isRemark d = true := by
  rw [eq_unknownFunction_of_mem h]
  rfl

/-- What is found at the end of a call is found in any context. -/
theorem isRemark_of_mem_arityFindings {name : Text} {count : Nat} {d : Diagnostic}
    (h : d ∈ arityFindings name count) : isRemark d = true := by
  obtain ⟨arity, rfl⟩ := exists_wrongArity_of_mem h
  rfl

/-! ## Walks with the same events -/

/-- In every context a walk over the tokens comes upon the same events, and ends alike: behind some
of the tokens, or in an error of the syntax. -/
def Traced (tokens : List Token) (walk : Context → Walk) : Prop :=
  ∃ (events : List Event) (rest : Except SyntaxError (List Token)),
    (∀ context, walk context = ⟨events.flatMap (·.findings context), rest⟩) ∧
      (∀ e ∈ events, e.IsOf tokens) ∧ (∀ after, rest = .ok after → after <:+ tokens) ∧
      ∀ e, rest ≠ .error (.lexical e)

section Traced

variable {tokens rest : List Token} {w : Context → Walk}

/-- A walk that stops at once comes upon nothing. -/
theorem traced_done (h : rest <:+ tokens) : Traced tokens fun _ => .done rest := by
  refine ⟨[], .ok rest, fun _ => rfl, by simp, ?_, fun _ => by simp⟩
  intro after hafter
  cases hafter
  exact h

/-- A walk that fails at once comes upon nothing. -/
theorem traced_fail {e : SyntaxError} (h : ∀ l, e ≠ .lexical l) : Traced tokens fun _ => .fail e :=
  ⟨[], .error e, fun _ => rfl, by simp, fun _ h => by contradiction, fun l hl => h l (Except.error.inj hl)⟩

/-- A walk over some of the tokens is one over all of them. -/
theorem Traced.mono (h : Traced rest w) (hsuffix : rest <:+ tokens) : Traced tokens w := by
  obtain ⟨events, ending, hw, hevents, hafter, herror⟩ := h
  exact ⟨events, ending, hw, fun e he => (hevents e he).mono hsuffix,
    fun after ha => (hafter after ha).trans hsuffix, herror⟩

/-- Events that are put in front. -/
theorem Traced.after (h : Traced tokens w) (front : List Event) (hfront : ∀ e ∈ front, e.IsOf tokens) :
    Traced tokens fun context => (w context).after (front.flatMap (·.findings context)) := by
  obtain ⟨events, ending, hw, hevents, hafter, herror⟩ := h
  refine ⟨front ++ events, ending, fun context => ?_, ?_, hafter, herror⟩
  · simp only [hw, Walk.after, List.flatMap_append]
  · exact List.forall_mem_append.mpr ⟨hfront, hevents⟩

/-- Findings that do not depend on the context are events as well. -/
theorem Traced.after_remarks {findings : List Diagnostic} (h : Traced tokens w)
    (hfindings : ∀ d ∈ findings, isRemark d = true) :
    Traced tokens fun context => (w context).after findings := by
  have hremarks : ∀ context, (findings.map Event.remark).flatMap (·.findings context) = findings := by
    intro context
    rw [List.flatMap_map]
    exact List.flatMap_singleton' findings
  have hafter := h.after (findings.map Event.remark) (by simpa [Event.IsOf] using hfindings)
  simpa only [hremarks] using hafter

/-- One walk after the other: where the second starts does not depend on the context. -/
theorem Traced.andThen {next : Context → List Token → Walk} (h : Traced tokens w)
    (hnext : ∀ rest, rest <:+ tokens → Traced rest fun context => next context rest) :
    Traced tokens fun context => (w context).andThen (next context) := by
  obtain ⟨events, ending, hw, hevents, hafter, herror⟩ := h
  cases ending with
  | error e =>
      have hends : ∀ context, (w context).andThen (next context) = w context := fun context =>
        Walk.andThen_of_error (by rw [hw])
      simp only [hends]
      exact ⟨events, .error e, hw, hevents, hafter, herror⟩
  | ok rest =>
      have hsuffix : rest <:+ tokens := hafter rest rfl
      have hgoes : ∀ context, (w context).andThen (next context) =
          (next context rest).after (events.flatMap (·.findings context)) := fun context => by
        rw [Walk.andThen_of_ok (show (w context).rest = .ok rest by rw [hw]), hw]
      simp only [hgoes]
      exact ((hnext rest hsuffix).mono hsuffix).after _ hevents

end Traced

/-- A token that is expected is there in all contexts or in none. -/
theorem expect_traced (kind : TokenKind) (tokens : List Token) :
    Traced tokens fun _ => expect kind tokens := by
  cases tokens with
  | nil => exact traced_fail (by simp)
  | cons t rest =>
      simp only [expect]
      split
      · exact traced_done (List.suffix_cons t rest)
      · exact traced_fail (by simp)

/-! ## One level -/

section Level

variable {deeper : Context → Phrase → List Token → Walk}
  (hdeeper : ∀ phrase tokens, Traced tokens fun context => deeper context phrase tokens)

include hdeeper

/-- An operand without signs, the one place where the context is asked. -/
theorem walkPrimary_traced (tokens : List Token) :
    Traced tokens fun context => walkPrimary context (deeper context) tokens := by
  cases tokens with
  | nil => exact traced_fail (by simp)
  | cons t rest =>
      have hrest : rest <:+ t :: rest := List.suffix_cons t rest
      have hoperand : Traced (t :: rest) fun context =>
          (Walk.done rest).after (referenceFindings context t) := by
        have h := (traced_done hrest).after [.operand t] (by simp [Event.IsOf])
        simpa only [List.flatMap_singleton, Event.findings] using h
      simp only [walkPrimary]
      cases t.kind with
      | number | dataRef | constRef | nodeRef | thisRef | simRef => exact hoperand
      | ident =>
          cases rest with
          | nil => exact traced_done hrest
          | cons next more =>
              simp only
              split
              · exact hdeeper .call (t :: next :: more)
              · exact traced_done hrest
      | lparen =>
          exact ((hdeeper .expression rest).andThen fun after _ => expect_traced .rparen after).mono hrest
      | operator | rparen | comma | eof => exact traced_fail (by simp)

/-- An operand with its signs. -/
theorem walkOperand_traced (tokens : List Token) :
    Traced tokens fun context => walkOperand context (deeper context) tokens := by
  cases tokens with
  | nil => exact walkPrimary_traced hdeeper []
  | cons t rest =>
      simp only [walkOperand]
      split
      · exact (hdeeper .operand rest).mono (List.suffix_cons t rest)
      · exact walkPrimary_traced hdeeper (t :: rest)

/-- Operators with their operands. -/
theorem walkOperators_traced (fuel : Nat) (tokens : List Token) :
    Traced tokens fun context => walkOperators context (deeper context) fuel tokens := by
  induction fuel generalizing tokens with
  | zero => exact traced_done (List.suffix_refl tokens)
  | succ fuel ih =>
      cases tokens with
      | nil => exact traced_done (List.suffix_refl [])
      | cons t rest =>
          simp only [walkOperators]
          split
          · have hgoes := (walkOperand_traced hdeeper rest).andThen fun after _ => ih after
            exact (hgoes.mono (List.suffix_cons t rest)).after_remarks fun d =>
              isRemark_of_mem_operatorFindings
          · exact traced_done (List.suffix_refl _)

/-- An operand with the operators behind it. -/
theorem walkExpression_traced (tokens : List Token) :
    Traced tokens fun context => walkExpression context (deeper context) tokens :=
  (walkOperand_traced hdeeper tokens).andThen fun after _ => walkOperators_traced hdeeper after.length after

/-- The arguments of a call from the second on. -/
theorem walkArguments_traced {finish : Nat → List Diagnostic}
    (hfinish : ∀ count, ∀ d ∈ finish count, isRemark d = true) (fuel count : Nat) (tokens : List Token) :
    Traced tokens fun context => walkArguments context (deeper context) finish fuel count tokens := by
  induction fuel generalizing count tokens with
  | zero => exact traced_done (List.suffix_refl tokens)
  | succ fuel ih =>
      cases tokens with
      | nil => exact traced_fail (by simp)
      | cons t rest =>
          simp only [walkArguments]
          split
          · have hgoes := (walkExpression_traced hdeeper rest).andThen fun after _ => ih (count + 1) after
            exact hgoes.mono (List.suffix_cons t rest)
          · refine (expect_traced .rparen (t :: rest)).andThen fun after _ => ?_
            exact (traced_done (List.suffix_refl after)).after_remarks (hfinish count)

/-- A call as a whole. -/
theorem walkCall_traced (tokens : List Token) :
    Traced tokens fun context => walkCall context (deeper context) tokens := by
  cases tokens with
  | nil => exact traced_fail (by simp)
  | cons t rest =>
      have hfinish : ∀ count, ∀ d ∈ arityFindings (Text.lowerAscii t.text) count, isRemark d = true :=
        fun _ _ => isRemark_of_mem_arityFindings
      simp only [walkCall]
      refine Traced.after_remarks ?_ fun d => isRemark_of_mem_nameFindings
      refine ((expect_traced .lparen rest).andThen fun after _ => ?_).mono (List.suffix_cons t rest)
      cases after with
      | nil => exact walkExpression_traced hdeeper []
      | cons closing more =>
          simp only
          split
          · exact (traced_done (List.suffix_cons closing more)).after_remarks (hfinish 0)
          · exact (walkExpression_traced hdeeper (closing :: more)).andThen fun after _ =>
              walkArguments_traced hdeeper hfinish (after.length + 1) 1 after

end Level

/-! ## All levels -/

/-- Every phrase comes upon the same events in all contexts, whatever room it has. -/
theorem walk_traced (room : Nat) (phrase : Phrase) (tokens : List Token) :
    Traced tokens fun context => walk context room phrase tokens := by
  induction room generalizing phrase tokens with
  | zero => exact traced_fail (by simp)
  | succ room ih =>
      cases phrase with
      | expression => exact walkExpression_traced ih tokens
      | operand => exact walkOperand_traced ih tokens
      | call => exact walkCall_traced ih tokens

/-- The tokens of an expression have one list of events, and one error at most behind them. -/
theorem checkTokens_traced (tokens : List Token) :
    ∃ (events : List Event) (last : Option SyntaxError), (∀ e ∈ events, e.IsOf tokens) ∧
      (∀ e, last ≠ some (.lexical e)) ∧
      ∀ context, checkTokens context tokens =
        events.flatMap (·.findings context) ++ last.toList.map .syntaxError := by
  obtain ⟨events, rest, hw, hevents, -, herror⟩ :=
    walkExpression_traced (fun phrase => walk_traced maxNesting phrase) tokens
  simp only at hw
  simp only [checkTokens, hw]
  cases rest with
  | error e => exact ⟨events, some e, hevents, fun l hl => herror l (by rw [Option.some.inj hl]), fun _ => rfl⟩
  | ok rest =>
      cases rest with
      | nil => exact ⟨events, none, hevents, by simp, by simp⟩
      | cons t rest =>
          by_cases ht : t.kind = .eof
          · exact ⟨events, none, hevents, by simp, by simp [ht]⟩
          · exact ⟨events, some (.trailingTokens t.text), hevents, by simp, by simp [ht]⟩

/-- What is found in an expression are the findings of its events, which are the same in every
context, and then the error that ends the check, if one does.  Where that is one of the tokens,
there are no events before it. -/
theorem check_traced (text : Text) :
    ∃ (events : List Event) (last : Option SyntaxError),
      (∀ e ∈ events, ∃ tokens, Token.readAll text = .ok tokens ∧ e.IsOf tokens) ∧
        (∀ e, last = some (.lexical e) ↔ Token.readAll text = .error e) ∧
          ∀ context, check context text =
            events.flatMap (·.findings context) ++ last.toList.map .syntaxError := by
  simp only [check]
  cases Token.readAll text with
  | error e => exact ⟨[], some (.lexical e), by simp, by simp, fun _ => rfl⟩
  | ok tokens =>
      obtain ⟨events, last, hevents, hlast, hcheck⟩ := checkTokens_traced tokens
      exact ⟨events, last, fun e he => ⟨tokens, rfl, hevents e he⟩, by simpa using hlast, hcheck⟩

end CatchmentLint.Expression
