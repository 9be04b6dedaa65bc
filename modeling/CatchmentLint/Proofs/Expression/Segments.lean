import CatchmentLint.Model.Reader
import CatchmentLint.Proofs.Expression.Reference
import CatchmentLint.Proofs.Expression.Walk

/-!
# CatchmentLint.Proofs.Expression.Segments

What is told of a reference whose segments are not all there.

* `exists_isReference` — a reference token is an opening word, words with dots before them, and perhaps
  a clause in brackets;
* `isSome_dottedProblem?_iff` — the dots of a reference are at fault where a segment is empty;
* `told_of_missing_segment` — so is each reference told of once that lacks a segment, but for one to
  `this` in a node, whose outputs alone are asked.
-/

namespace CatchmentLint

/-! ## Reference tokens -/

namespace Token

/-- Whether tokens of the kind are references. -/
def isReferenceKind : TokenKind → Bool
  | .dataRef | .constRef | .nodeRef | .thisRef | .simRef => true
  | _ => false

/-- Only one word opens a kind of reference. -/
theorem eq_of_referenceKind? {lead lead' : Text} {kind : TokenKind} (h : referenceKind? lead = some kind)
    (h' : referenceKind? lead' = some kind) : lead = lead' := by
  unfold referenceKind? at h h'
  grind

/-- The text of a reference: an opening word, words with dots before them, and perhaps a clause in
brackets. -/
structure IsReference (kind : TokenKind) (text lead tail clause : Text) : Prop where
  kind_eq : referenceKind? lead = some kind
  text_eq : text = lead ++ '.' :: tail ++ clause
  isDotted : ∀ c ∈ tail, isDottedChar c = true
  clause_eq : clause = [] ∨ ∃ inner, clause = '[' :: (inner ++ [']'])

/-- A clause is empty, or stands between brackets. -/
theorem bracketPart?_eq_some {s brackets : Text} (h : bracketPart? s = some brackets) :
    brackets = [] ∨ ∃ inner, brackets = '[' :: (inner ++ [']']) := by
  unfold bracketPart? at h
  split at h
  · split at h
    · next inner _ _ =>
        cases h
        exact .inr ⟨inner, rfl⟩
    · contradiction
  · cases h
    exact .inl rfl

/-- A word of such a kind is a reference. -/
theorem isReference_of_readWord {position : Nat} {s text : Text} {kind : TokenKind}
    (h : readWord position s = .ok (kind, text)) (hkind : isReferenceKind kind = true) :
    ∃ lead tail clause, IsReference kind text lead tail clause := by
  obtain ⟨rest, rfl⟩ := readWord_isPrefix h
  cases readWord_cases h with
  | inl hword =>
      rw [hword.1] at hkind
      contradiction
  | inr hreference =>
      obtain ⟨lead, tail, clause, hreference⟩ := hreference
      refine ⟨lead, tail, clause, hreference.kind_eq, hreference.text_eq, fun c hc => ?_, ?_⟩
      · exact hreference.isDotted c (by simp [hc])
      · have hclause := hreference.clause_eq
        split at hclause
        · exact bracketPart?_eq_some hclause
        · exact .inl hclause

/-- Any token of such a kind is one, since no other token has the kind. -/
theorem isReference_of_readLexeme {position : Nat} {c : Char} {s text : Text} {kind : TokenKind}
    (h : readLexeme position c s = .ok (kind, text)) (hkind : isReferenceKind kind = true) :
    ∃ lead tail clause, IsReference kind text lead tail clause := by
  cases lexemeAt_of_readLexeme h with
  | word hstart hread => exact isReference_of_readWord hread hkind
  | opening | closing | comma | number | operator => contradiction

/-- Every reference token has the parts of a reference. -/
theorem exists_isReference {position : Nat} {s : Text} {tokens : List Token}
    (h : readFrom position s = .ok tokens) {t : Token} (ht : t ∈ tokens)
    (hkind : isReferenceKind t.kind = true) :
    ∃ lead tail clause, IsReference t.kind t.text lead tail clause := by
  induction readsAs_of_readFrom h with
  | done =>
      rw [List.mem_singleton.mp ht] at hkind
      contradiction
  | blank _ hrest ih => exact ih hrest.readFrom_eq ht
  | token _ hlexeme hrest ih =>
      cases List.mem_cons.mp ht with
      | inl heq =>
          subst heq
          exact isReference_of_readLexeme hlexeme hkind
      | inr hmem => exact ih hrest.readFrom_eq hmem

end Token

namespace Expression

open Token (IsReference isReferenceKind)

/-! ## Segments -/

/-- What stands behind the first dot of a reference and between the others, up to its brackets. -/
def segments (reference : Text) : List Text :=
  (Text.splitOn '.' (reference.takeWhile (· != '['))).tail

section Reference

variable {kind : TokenKind} {text lead tail clause : Text} (h : IsReference kind text lead tail clause)

include h

theorem takeWhile_of_isReference : text.takeWhile (· != '[') = lead ++ '.' :: tail := by
  have hmem := Token.mem_leads_of_referenceKind? h.kind_eq
  rw [h.text_eq]
  refine takeWhile_append_of_startsOutside (fun c hc => ?_) ?_
  · have hne : c ≠ '[' := fun heq => bracket_notMem_of_dotted hmem h.isDotted (heq ▸ hc)
    simpa using hne
  · rcases h.clause_eq with rfl | ⟨inner, rfl⟩
    · exact startsOutside_nil
    · intro c hc
      cases hc
      rfl

/-- Without its clause a reference is its word and its segments. -/
theorem withoutBrackets_of_isReference : Reference.withoutBrackets text = lead ++ '.' :: tail := by
  have hbody := bracket_notMem_of_dotted (Token.mem_leads_of_referenceKind? h.kind_eq) h.isDotted
  rw [h.text_eq]
  rcases h.clause_eq with rfl | ⟨inner, rfl⟩
  · rw [List.append_nil]
    exact withoutBrackets_of_notMem hbody
  · exact withoutBrackets_bracketed hbody List.getLast?_concat

/-- Its segments are the pieces behind the first dot. -/
theorem segments_of_isReference : segments text = Text.splitOn '.' tail := by
  have hdot := dot_notMem_of_mem_leads (Token.mem_leads_of_referenceKind? h.kind_eq)
  rw [segments, takeWhile_of_isReference h, Text.splitOn_append_cons, Text.splitOn_of_notMem hdot]
  rfl

/-- The dots of a reference are at fault just where a segment is empty. -/
theorem isSome_dottedProblem?_iff {label : Text} :
    (Reference.dottedProblem? label lead text).isSome = true ↔ [] ∈ segments text := by
  have hmem := Token.mem_leads_of_referenceKind? h.kind_eq
  rw [segments_of_isReference h, Option.isSome_iff_ne_none, ne_eq,
    dottedProblem?_eq_none_iff hmem (withoutBrackets_of_isReference h), Classical.not_not]

end Reference

/-! ## What is told of a reference -/

/-- The reference is one to `this` in a node, with something behind its dot that the type of the node
does not speak against. -/
def Unheeded (context : Context) (t : Token) : Prop :=
  t.kind = .thisRef ∧ segments t.text ≠ [[]] ∧
    match context with
    | .node _ schema self => ∀ typeName type, self.nodeType? = some typeName →
      schema.nodeType? typeName = some type →
        type.outputs = [] ∨ ['.'].intercalate (segments t.text) ∈ type.outputs
    | _ => False

section Reference

variable {context : Context} {t : Token} {lead tail clause : Text}
  (h : IsReference t.kind t.text lead tail clause)

include h

/-- Something is told of a reference to the node itself unless it goes unheeded. -/
theorem isSome_thisProblem?_iff (hkind : t.kind = .thisRef) :
    (Reference.thisProblem? context t.text).isSome = true ↔ ¬Unheeded context t := by
  have hlead : lead = "this".toList := Token.eq_of_referenceKind? (h.kind_eq.trans (congrArg _ hkind)) rfl
  subst hlead
  have hbody := withoutBrackets_of_isReference h
  have hnothing : Text.splitOn '.' tail = [[]] ↔ tail = [] :=
    ⟨Text.eq_of_splitOn_eq_singleton, fun hnil => by rw [hnil]; rfl⟩
  unfold Unheeded
  rw [segments_of_isReference h, Text.intercalate_splitOn, ne_eq, hnothing]
  by_cases htail : tail = []
  · subst htail
    have hdrop : Text.dropLead? "this.".toList ("this".toList ++ ['.']) = some [] := rfl
    have hproblem : Reference.thisProblem? context t.text = some (.incomplete "this".toList t.text) := by
      unfold Reference.thisProblem?
      rw [hbody, hdrop]
    simp [hproblem]
  · rw [thisProblem?_of_ne_nil htail hbody]
    cases context with
    | empty | model => simp
    | node m schema self =>
        simp only [hkind, htail, Option.isSome_iff_ne_none, ne_eq, outputProblem?_eq_none_iff,
          not_false_eq_true, true_and]

/-- A reference without a segment is told of, unless it is unheeded. -/
theorem length_referenceFindings_iff (hkind : isReferenceKind t.kind = true)
    (hsegments : [] ∈ segments t.text) :
    (referenceFindings context t).length = 1 ↔ ¬Unheeded context t := by
  have hlength : ∀ p? : Option Reference.Problem,
      (p?.map Diagnostic.reference).toList.length = 1 ↔ p?.isSome = true := by
    intro p?
    cases p? <;> simp
  have hdots : ∀ label, (Reference.dottedProblem? label lead t.text).isSome = true := fun label =>
    (isSome_dottedProblem?_iff h).mpr hsegments
  have hheeded : t.kind ≠ .thisRef → ¬Unheeded context t := fun hne hunheeded => hne hunheeded.1
  have hlead : ∀ word, Token.referenceKind? word = some t.kind → lead = word := fun word hword =>
    Token.eq_of_referenceKind? h.kind_eq hword
  unfold referenceFindings
  simp only [hlength]
  cases hk : t.kind with
  | dataRef =>
      obtain rfl := hlead "data".toList (by rw [hk]; rfl)
      exact iff_of_true (hdots _) (hheeded (by simp [hk]))
  | constRef =>
      obtain rfl := hlead "c".toList (by rw [hk]; rfl)
      exact iff_of_true (hdots _) (hheeded (by simp [hk]))
  | nodeRef =>
      obtain rfl := hlead "node".toList (by rw [hk]; rfl)
      refine iff_of_true ?_ (hheeded (by simp [hk]))
      obtain ⟨p, hp⟩ := Option.isSome_iff_exists.mp (hdots "node".toList)
      simp only [Reference.nodeProblem?, hp, Option.isSome_some]
  | thisRef => exact isSome_thisProblem?_iff h hk
  | simRef =>
      refine iff_of_true ?_ (hheeded (by simp [hk]))
      have hknown : ∀ name ∈ Reference.knownVariables, [] ∉ segments name := by decide
      have hunknown : t.text ∉ Reference.knownVariables := fun hmem => hknown _ hmem hsegments
      simp [Reference.variableProblem?, hunknown]
  | number | operator | lparen | rparen | comma | ident | eof =>
      rw [hk] at hkind
      contradiction

/-- Of data and constants nothing is told where no segment is empty. -/
theorem referenceFindings_eq_nil (hkind : t.kind = .dataRef ∨ t.kind = .constRef)
    (hsegments : [] ∉ segments t.text) : referenceFindings context t = [] := by
  have hdots : ∀ label, Reference.dottedProblem? label lead t.text = none := by
    intro label
    rw [← Option.not_isSome_iff_eq_none, isSome_dottedProblem?_iff h]
    exact hsegments
  have hlead : ∀ word, Token.referenceKind? word = some t.kind → lead = word := fun word hword =>
    Token.eq_of_referenceKind? h.kind_eq hword
  rcases hkind with hk | hk
  · obtain rfl := hlead "data".toList (by rw [hk]; rfl)
    simp only [referenceFindings, hk, hdots, Option.map_none, Option.toList_none]
  · obtain rfl := hlead "c".toList (by rw [hk]; rfl)
    simp only [referenceFindings, hk, hdots, Option.map_none, Option.toList_none]

end Reference

theorem isOperandKind_of_isReferenceKind {kind : TokenKind} (h : isReferenceKind kind = true) :
    isOperandKind kind = true := by
  cases kind <;> first | rfl | contradiction

/-- The walk passes every reference and tells of it once at most.  One without a segment is told of,
but for one to `this` in a node that is unheeded; data and constants with all segments are not. -/
theorem told_of_missing_segment {text : Text} {tokens : List Token} {t : Token}
    (hread : Token.readAll text = .ok tokens) (ht : t ∈ tokens) (hkind : isReferenceKind t.kind = true)
    (context : Context) (deeper : Phrase → List Token → Walk) (rest : List Token) :
    (walkPrimary context deeper (t :: rest)).rest = .ok rest ∧
      (walkPrimary context deeper (t :: rest)).findings.length ≤ 1 ∧
      ([] ∈ segments t.text →
        ((walkPrimary context deeper (t :: rest)).findings.length = 1 ↔ ¬Unheeded context t)) ∧
      (t.kind = .dataRef ∨ t.kind = .constRef → [] ∉ segments t.text →
        (walkPrimary context deeper (t :: rest)).findings = []) := by
  obtain ⟨lead, tail, clause, h⟩ := Token.exists_isReference hread ht hkind
  have hwalk : walkPrimary context deeper (t :: rest) = ⟨referenceFindings context t, .ok rest⟩ := by
    rw [walkPrimary_operand (isOperandKind_of_isReferenceKind hkind)]
    simp [Walk.after, Walk.done]
  rw [hwalk]
  exact ⟨rfl, Option.length_toList_le, length_referenceFindings_iff h hkind, referenceFindings_eq_nil h⟩

/-- A reference that lacks a segment, and what is told of it. -/
theorem told_of_consecutive_dots :
    ∃ t, Token.readAll "data.rain..daily".toList = .ok [t, ⟨.eof, [], 16⟩] ∧
      (walkPrimary .empty (walk .empty maxNesting) [t, ⟨.eof, [], 16⟩]).findings.length = 1 := by
  have hread : Token.readAll "data.rain..daily".toList =
      .ok [⟨.dataRef, "data.rain..daily".toList, 0⟩, ⟨.eof, [], 16⟩] := by decide +kernel
  have htold := told_of_missing_segment hread List.mem_cons_self rfl .empty (walk .empty maxNesting)
    [⟨.eof, [], 16⟩]
  refine ⟨_, hread, (htold.2.2.1 (by decide)).mpr fun hunheeded => ?_⟩
  cases hunheeded.1

/-- In a node of no known type nothing is told of the dots behind `this`. -/
theorem unheeded_consecutive_dots :
    ∃ m : Model, m = Model.read "[node.a]\nloc = 1, 2\n".toList ∧ ∃ node ∈ m.declaredNodes,
      ∃ t, Token.readAll "this.a..b".toList = .ok [t, ⟨.eof, [], 9⟩] ∧ t.kind = .thisRef ∧
        [] ∈ segments t.text ∧ ∀ deeper rest,
          (walkPrimary (.node m ⟨none, [], [], [], []⟩ node.body) deeper (t :: rest)).findings = [] := by
  have hread : Token.readAll "this.a..b".toList =
      .ok [⟨.thisRef, "this.a..b".toList, 0⟩, ⟨.eof, [], 9⟩] := by decide +kernel
  have huntyped : ((Model.read "[node.a]\nloc = 1, 2\n".toList).declaredNodes.any
      fun node => node.body.nodeType?.isNone) = true := by decide +kernel
  obtain ⟨node, hnode, hnone⟩ := List.any_eq_true.mp huntyped
  refine ⟨_, rfl, node, hnode, _, hread, rfl, by decide, fun deeper rest => ?_⟩
  rw [walkPrimary_operand rfl]
  have hproblem : Reference.outputProblem? ⟨none, [], [], [], []⟩ node.body "a..b".toList = none :=
    outputProblem?_eq_none_iff.mpr fun typeName _ htype => by simp [htype] at hnone
  have hthis : Reference.thisProblem? (.node (Model.read "[node.a]\nloc = 1, 2\n".toList)
      ⟨none, [], [], [], []⟩ node.body) "this.a..b".toList = none := hproblem
  simp only [referenceFindings, hthis]
  rfl

end Expression

end CatchmentLint
