import CatchmentLint.Proofs.Expression.Messages
import CatchmentLint.Proofs.Expression.Trace

/-!
# CatchmentLint.Proofs.Expression.Ending

How the check of an expression ends: behind its last token, or in an error of the syntax, of which
nothing is told before and after which nothing is told.

* `check_ends` — findings come first, and then one error at most;
* `eq_nil_of_message_eq` — what reads like an error of the syntax comes last, and nothing before it
  does;
* `eq_singleton_of_lexical_mem` — an error of the tokens stands alone.
-/

namespace CatchmentLint.Expression

/-! ## Findings of walks -/

/-- What is found on the way is no error of the syntax. -/
theorem isFinding_of_mem_findings {context : Context} {e : Event} {tokens : List Token} {d : Diagnostic}
    (he : e.IsOf tokens) (hd : d ∈ e.findings context) : isFinding d = true := by
  cases e with
  | operand t =>
      obtain ⟨p, rfl⟩ := exists_problem_of_mem_referenceFindings hd
      rfl
  | remark r =>
      obtain rfl := List.mem_singleton.mp hd
      cases d with
      | emptyExpression | syntaxError => contradiction
      | _ => rfl

theorem syntaxError_notMem {found : List Diagnostic} (hfound : ∀ d ∈ found, isFinding d = true)
    (e : SyntaxError) : .syntaxError e ∉ found := by
  intro hmem
  cases hfound _ hmem

/-- A walk leaves the error that ends it to what is left to walk. -/
theorem syntaxError_notMem_findings (context : Context) (tokens : List Token) (e : SyntaxError) :
    .syntaxError e ∉ (walkExpression context (walk context maxNesting) tokens).findings := by
  obtain ⟨events, rest, hw, hevents, -, -⟩ :=
    walkExpression_traced (fun phrase => walk_traced maxNesting phrase) tokens
  simp only at hw
  rw [hw]
  refine syntaxError_notMem (fun d hd => ?_) e
  obtain ⟨event, hevent, hd⟩ := List.mem_flatMap.mp hd
  exact isFinding_of_mem_findings (hevents event hevent) hd

/-! ## Checks -/

/-- An expression is checked up to an error of the syntax, of which there is one at most. -/
theorem check_ends (context : Context) (text : Text) :
    ∃ (found : List Diagnostic) (last : Option SyntaxError), (∀ d ∈ found, isFinding d = true) ∧
      (∀ e, last = some (.lexical e) ↔ Token.readAll text = .error e) ∧
        check context text = found ++ last.toList.map .syntaxError := by
  obtain ⟨events, last, hevents, hlexical, hcheck⟩ := check_traced text
  refine ⟨_, last, fun d hd => ?_, hlexical, hcheck context⟩
  obtain ⟨e, he, hde⟩ := List.mem_flatMap.mp hd
  obtain ⟨tokens, -, hof⟩ := hevents e he
  exact isFinding_of_mem_findings hof hde

/-- What reads like an error of the syntax comes last, and nothing before it does. -/
theorem eq_nil_of_message_eq {context : Context} {text : Text} {front back : List Diagnostic}
    {d : Diagnostic} {e : SyntaxError} (hcheck : check context text = front ++ d :: back)
    (hd : d.message = e.message) :
    back = [] ∧ ∀ d' ∈ front, ∀ e : SyntaxError, d'.message ≠ e.message := by
  obtain ⟨found, last, hfound, -, hends⟩ := check_ends context text
  have hnotMem : d ∉ found := fun hmem => message_ne_of_isFinding (hfound d hmem) e hd
  rw [hends] at hcheck
  cases last with
  | none =>
      rw [Option.toList_none, List.map_nil, List.append_nil] at hcheck
      exact absurd (by simp [hcheck]) hnotMem
  | some last =>
      rcases List.eq_nil_or_concat back with rfl | ⟨back, final, rfl⟩
      · obtain ⟨rfl, -⟩ := List.append_inj' hcheck rfl
        exact ⟨rfl, fun d' hd' e => message_ne_of_isFinding (hfound d' hd') e⟩
      · rw [List.concat_eq_append, ← List.cons_append, ← List.append_assoc] at hcheck
        obtain ⟨rfl, -⟩ := List.append_inj' hcheck rfl
        exact absurd (by simp) hnotMem

/-- An error of the tokens is all that is found, since no walk begins. -/
theorem eq_singleton_of_lexical_mem {context : Context} {text : Text} {e : LexError}
    (h : .syntaxError (.lexical e) ∈ check context text) :
    Token.readAll text = .error e ∧ check context text = [.syntaxError (.lexical e)] := by
  obtain ⟨found, last, hfound, hlexical, hends⟩ := check_ends context text
  rw [hends, List.mem_append] at h
  rcases h with hmem | hlast
  · exact absurd hmem (syntaxError_notMem hfound _)
  · have hread : Token.readAll text = .error e := by
      refine (hlexical e).mp ?_
      simpa using hlast
    exact ⟨hread, by rw [check, hread]⟩

/-- No error is told of twice. -/
theorem count_syntaxError_le_one (context : Context) (text : Text) (e : SyntaxError) :
    (check context text).count (.syntaxError e) ≤ 1 := by
  obtain ⟨found, last, hfound, -, hends⟩ := check_ends context text
  rw [hends, List.count_append, List.count_eq_zero_of_not_mem (syntaxError_notMem hfound e), Nat.zero_add]
  calc (last.toList.map Diagnostic.syntaxError).count (.syntaxError e)
      ≤ (last.toList.map Diagnostic.syntaxError).length := List.count_le_length
    _ = last.toList.length := List.length_map _
    _ ≤ 1 := Option.length_toList_le

end CatchmentLint.Expression
