import CatchmentLint.Model.Reader
import CatchmentLint.Proofs.Expression.Messages
import CatchmentLint.Proofs.Expression.Reference
import CatchmentLint.Proofs.Expression.Trace
import CatchmentLint.Proofs.Model.Latest
import Mathlib.Data.List.Basic

/-!
# CatchmentLint.Proofs.Expression.Knowledge

What a known model adds to the findings in an expression, compared with no context at all.

* `nodeProblem?_cases` — what is found at a node reference, with the model and without;
* `filter_check_model` — the findings that a model is not needed for are those without it, but for the
  brackets of a malformed node reference, which are left out where a model is known;
* `messages_sublist_iff` — so a model only adds messages just where no such reference has brackets, and
  what it adds is about a reference that has a name and an output.
-/

namespace CatchmentLint.Expression

variable {m : Model} {schema : Schema}

/-! ## Findings about the model -/

/-- The finding is about what the model declares or the schema allows. -/
def asksModel : Diagnostic → Bool
  | .reference (.unknownNode _) | .reference (.outputNotAllowed ..) => true
  | _ => false

/-- How a finding is told where a model is known. -/
def unbracketed : Diagnostic → Diagnostic
  | .reference (.malformedNode r) => .reference (.malformedNode (Reference.withoutBrackets r))
  | d => d

/-- The finding is the same whether a model is known or not. -/
def IsPlain (d : Diagnostic) : Prop := asksModel d = false ∧ unbracketed d = d

/-- The reference is `node.<name>.<output>`, perhaps with a clause in brackets behind it. -/
structure NamesOutput (reference name output : Text) : Prop where
  body : Reference.withoutBrackets reference = "node.".toList ++ (name ++ '.' :: output)
  name_ne_nil : name ≠ []
  output_ne_nil : output ≠ []
  dot_notMem_name : '.' ∉ name
  dot_notMem_output : '.' ∉ output

/-- What may be found of an output of a node: the model has no such node, or it is of a type that
lists outputs without this one. -/
inductive Dangles (m : Model) (schema : Schema) (name output : Text) : Diagnostic → Prop
  | unknownNode (h : ∀ node ∈ m.declaredNodes, node.name ≠ name) :
      Dangles m schema name output (.reference (.unknownNode name))
  | outputNotAllowed {node : Node} {typeName : Text} {type : NodeType}
      (hnode : IsLatest Node.name node m.declaredNodes) (hname : node.name = name)
      (htype : node.body.nodeType? = some typeName) (hknown : schema.nodeType? typeName = some type)
      (houtputs : type.outputs ≠ []) (houtput : output ∉ type.outputs) :
      Dangles m schema name output (.reference (.outputNotAllowed output typeName type.outputs))

theorem namesOutput_iff {reference name output : Text} : NamesOutput reference name output ↔
    Reference.splitNode? (Reference.withoutBrackets reference) = some (name, output) := by
  rw [splitNode?_eq_some_iff]
  exact ⟨fun h => ⟨h.body, h.name_ne_nil, h.output_ne_nil, h.dot_notMem_name, h.dot_notMem_output⟩,
    fun ⟨body, hname, houtput, hdot, hdot'⟩ => ⟨body, hname, houtput, hdot, hdot'⟩⟩

/-! ## One reference -/

theorem isPlain_of_dottedProblem? {label lead reference : Text} {p : Reference.Problem}
    (h : Reference.dottedProblem? label lead reference = some p) : IsPlain (.reference p) := by
  simp only [Reference.dottedProblem?] at h
  split at h
  · cases h; exact ⟨rfl, rfl⟩
  split at h
  · cases h; exact ⟨rfl, rfl⟩
  split at h
  · cases h; exact ⟨rfl, rfl⟩
  · contradiction

/-- What is wrong with a reference that has a name and an output is found in the model. -/
theorem dangles_of_resolve {reference name output : Text} {p : Reference.Problem}
    (href : NamesOutput reference name output) (h : Reference.resolve m schema reference = .error p) :
    Dangles m schema name output (.reference p) := by
  simp only [Reference.resolve, namesOutput_iff.mp href] at h
  split at h
  · next hnode =>
      cases h
      exact .unknownNode (lastWith?_eq_none_iff.mp hnode)
  · next node hnode =>
      obtain ⟨hname, hlatest⟩ := lastWith?_eq_some_iff.mp hnode
      split at h
      · next problem hproblem =>
          cases h
          obtain ⟨typeName, type, htype, hknown, houtputs, houtput, rfl⟩ :=
            exists_outputNotAllowed hproblem
          exact .outputNotAllowed hlatest hname htype hknown houtputs houtput
      · contradiction

/-- A node reference has a fault in its dots, or too few or too many parts, or a name and an output. -/
theorem nodeProblem?_cases (m : Model) (schema : Schema) (reference : Text) :
    (∃ p, IsPlain (.reference p) ∧ Reference.nodeProblem? .empty reference = some p ∧
        Reference.nodeProblem? (.model m schema) reference = some p) ∨
      (Reference.nodeProblem? .empty reference = some (.malformedNode reference) ∧
        Reference.nodeProblem? (.model m schema) reference =
          some (.malformedNode (Reference.withoutBrackets reference))) ∨
      (∃ name output, NamesOutput reference name output ∧
        Reference.nodeProblem? .empty reference = none ∧
        ∀ p, Reference.nodeProblem? (.model m schema) reference = some p →
          Dangles m schema name output (.reference p)) := by
  unfold Reference.nodeProblem?
  cases hdots : Reference.dottedProblem? "node".toList "node".toList reference with
  | some p => exact .inl ⟨p, isPlain_of_dottedProblem? hdots, rfl, rfl⟩
  | none =>
      refine .inr ?_
      cases hsplit : Reference.splitNode? (Reference.withoutBrackets reference) with
      | none => exact .inl ⟨rfl, by simp only [Context.surroundings?, Reference.resolve, hsplit]⟩
      | some parts =>
          have href : NamesOutput reference parts.1 parts.2 := namesOutput_iff.mpr hsplit
          refine .inr ⟨parts.1, parts.2, href, rfl, fun p hp => ?_⟩
          simp only [Context.surroundings?] at hp
          split at hp
          · next problem hresolve =>
              cases hp
              exact dangles_of_resolve href hresolve
          · contradiction

theorem isPlain_of_thisProblem? {context : Context} {reference : Text} {p : Reference.Problem}
    (hcontext : ∀ m schema self, context ≠ .node m schema self)
    (h : Reference.thisProblem? context reference = some p) : IsPlain (.reference p) := by
  unfold Reference.thisProblem? at h
  split at h
  · cases h; exact ⟨rfl, rfl⟩
  · cases h; exact ⟨rfl, rfl⟩
  · split at h
    · exact absurd rfl (hcontext _ _ _)
    · cases h; exact ⟨rfl, rfl⟩

theorem isPlain_of_variableProblem? {reference : Text} {p : Reference.Problem}
    (h : Reference.variableProblem? reference = some p) : IsPlain (.reference p) := by
  unfold Reference.variableProblem? at h
  split at h
  · contradiction
  · cases h; exact ⟨rfl, rfl⟩

/-- An operand that is no node reference is told of alike. -/
theorem referenceFindings_model_of_ne (m : Model) (schema : Schema) {t : Token} (h : t.kind ≠ .nodeRef) :
    referenceFindings (.model m schema) t = referenceFindings .empty t ∧
      ∀ d ∈ referenceFindings .empty t, IsPlain d := by
  have hthis : Reference.thisProblem? (.model m schema) t.text =
      Reference.thisProblem? .empty t.text := rfl
  unfold referenceFindings
  cases hkind : t.kind with
  | nodeRef => contradiction
  | dataRef | constRef => simpa using fun p => isPlain_of_dottedProblem?
  | thisRef => simpa [hthis] using fun p => isPlain_of_thisProblem? (by simp)
  | simRef => simpa using fun p => isPlain_of_variableProblem?
  | _ => simp

/-! ## One event -/

theorem isPlain_of_isRemark {d : Diagnostic} (h : isRemark d = true) : IsPlain d := by
  cases d with
  | reference | emptyExpression | syntaxError => contradiction
  | _ => exact ⟨rfl, rfl⟩

theorem filter_referenceFindings (m : Model) (schema : Schema) (t : Token) :
    (referenceFindings (.model m schema) t).filter (!asksModel ·) =
      (referenceFindings .empty t).map unbracketed := by
  by_cases ht : t.kind = .nodeRef
  · simp only [referenceFindings, ht]
    rcases nodeProblem?_cases m schema t.text with ⟨p, ⟨hasks, hsame⟩, hempty, hmodel⟩ |
      ⟨hempty, hmodel⟩ | ⟨name, output, -, hempty, hdangles⟩
    · simp [hempty, hmodel, hasks, hsame]
    · simp [hempty, hmodel, asksModel, unbracketed]
    · rw [hempty]
      cases hmodel : Reference.nodeProblem? (.model m schema) t.text with
      | none => rfl
      | some p => cases hdangles p hmodel <;> rfl
  · obtain ⟨heq, hplain⟩ := referenceFindings_model_of_ne m schema ht
    rw [heq, List.filter_eq_self.mpr fun d hd => by simp [(hplain d hd).1],
      List.map_congr_left fun d hd => (hplain d hd).2, List.map_id']

theorem dangles_of_asksModel {t : Token} {d : Diagnostic}
    (hd : d ∈ referenceFindings (.model m schema) t) (hasks : asksModel d = true) :
    t.kind = .nodeRef ∧
      ∃ name output, NamesOutput t.text name output ∧ Dangles m schema name output d := by
  have hne : ¬IsPlain d := fun h => by simp [h.1] at hasks
  by_cases ht : t.kind = .nodeRef
  · refine ⟨ht, ?_⟩
    simp only [referenceFindings, ht, Option.mem_toList, Option.map_eq_some_iff] at hd
    obtain ⟨p, hp, rfl⟩ := hd
    rcases nodeProblem?_cases m schema t.text with ⟨p', hplain, -, hmodel⟩ | ⟨-, hmodel⟩ |
      ⟨name, output, href, -, hdangles⟩
    · cases hmodel.symm.trans hp
      exact absurd hplain hne
    · cases hmodel.symm.trans hp
      contradiction
    · exact ⟨name, output, href, hdangles p hp⟩
  · obtain ⟨heq, hplain⟩ := referenceFindings_model_of_ne m schema ht
    exact absurd (hplain d (heq ▸ hd)) hne

theorem filter_findings (m : Model) (schema : Schema) {e : Event} {tokens : List Token}
    (h : e.IsOf tokens) :
    (e.findings (.model m schema)).filter (!asksModel ·) = (e.findings .empty).map unbracketed := by
  cases e with
  | operand t => exact filter_referenceFindings m schema t
  | remark d =>
      obtain ⟨hasks, hsame⟩ := isPlain_of_isRemark h
      simp [Event.findings, hasks, hsame]

/-! ## Whole expressions -/

/-- What needs no model is found without one, with the brackets of a malformed node reference. -/
theorem filter_check_model (m : Model) (schema : Schema) (text : Text) :
    (check (.model m schema) text).filter (!asksModel ·) = (check .empty text).map unbracketed := by
  obtain ⟨events, last, hevents, -, hcheck⟩ := check_traced text
  have hfindings : ∀ e ∈ events,
      (e.findings (.model m schema)).filter (!asksModel ·) = (e.findings .empty).map unbracketed := by
    intro e he
    obtain ⟨tokens, -, hof⟩ := hevents e he
    exact filter_findings m schema hof
  have hlast : (last.toList.map Diagnostic.syntaxError).filter (!asksModel ·) =
      (last.toList.map Diagnostic.syntaxError).map unbracketed := by
    cases last <;> rfl
  rw [hcheck, hcheck, List.filter_append, List.map_append, hlast, List.filter_flatMap, List.map_flatMap,
    List.flatMap_congr hfindings]

/-- What a model is needed for is found at a node reference with a name and an output. -/
theorem exists_dangles_of_mem_check {text : Text} {d : Diagnostic}
    (hd : d ∈ check (.model m schema) text) (hasks : asksModel d = true) :
    ∃ tokens t name output, Token.readAll text = .ok tokens ∧ t ∈ tokens ∧ t.kind = .nodeRef ∧
      NamesOutput t.text name output ∧ Dangles m schema name output d := by
  obtain ⟨events, last, hevents, -, hcheck⟩ := check_traced text
  rw [hcheck, List.mem_append, List.mem_flatMap] at hd
  rcases hd with ⟨e, he, hde⟩ | hlast
  · obtain ⟨tokens, hread, hof⟩ := hevents e he
    cases e with
    | operand t =>
        obtain ⟨hkind, name, output, href, hdangles⟩ := dangles_of_asksModel hde hasks
        exact ⟨tokens, t, name, output, hread, hof, hkind, href, hdangles⟩
    | remark r =>
        obtain rfl := List.mem_singleton.mp hde
        exact absurd hasks (by simp [(isPlain_of_isRemark hof).1])
  · obtain ⟨e, -, rfl⟩ := List.mem_map.mp hlast
    contradiction

theorem withoutBrackets_withoutBrackets (t : Text) :
    Reference.withoutBrackets (Reference.withoutBrackets t) = Reference.withoutBrackets t := by
  by_cases h : '[' ∈ t ∧ t.getLast? = some ']'
  · refine withoutBrackets_of_notMem ?_
    simp only [Reference.withoutBrackets, if_pos h]
    intro hmem
    simpa using of_mem_takeWhile hmem
  · simp only [Reference.withoutBrackets, if_neg h]

theorem unbracketed_eq_malformedNode {d : Diagnostic} {r : Text}
    (h : unbracketed d = .reference (.malformedNode r)) :
    ∃ r', d = .reference (.malformedNode r') ∧ Reference.withoutBrackets r' = r := by
  unfold unbracketed at h
  split at h
  · next r' => exact ⟨r', rfl, by simpa using h⟩
  · next hne => exact absurd h (hne r)

/-- A model only adds messages to an expression just where no malformed node reference in it ends in
brackets; but for these all messages stay, and what is new is about a node reference that has a name
and an output, of which the model has no such node or whose type lists no such output. -/
theorem messages_sublist_iff (m : Model) (schema : Schema) (text : Text) :
    (((check .empty text).map Diagnostic.message).Sublist
          ((check (.model m schema) text).map Diagnostic.message) ↔
        ∀ r, .reference (.malformedNode r) ∈ check .empty text → Reference.withoutBrackets r = r) ∧
      (check (.model m schema) text).filter (!asksModel ·) = (check .empty text).map unbracketed ∧
        ∀ d ∈ check (.model m schema) text, asksModel d = true →
          ∃ tokens t name output, Token.readAll text = .ok tokens ∧ t ∈ tokens ∧ t.kind = .nodeRef ∧
            NamesOutput t.text name output ∧ Dangles m schema name output d := by
  have hfilter := filter_check_model m schema text
  refine ⟨⟨fun hsub r hr => ?_, fun hplain => ?_⟩, hfilter, fun d => exists_dangles_of_mem_check⟩
  · obtain ⟨d, hd, hmessage⟩ := List.mem_map.mp (hsub.subset (List.mem_map_of_mem hr))
    obtain rfl := message_eq_malformedNode_iff.mp hmessage
    have hmem := hfilter ▸ List.mem_filter.mpr ⟨hd, rfl⟩
    obtain ⟨d', -, hd'⟩ := List.mem_map.mp hmem
    obtain ⟨r', -, rfl⟩ := unbracketed_eq_malformedNode hd'
    exact withoutBrackets_withoutBrackets r'
  · have hsame : ∀ d ∈ check .empty text, unbracketed d = d := by
      intro d hd
      unfold unbracketed
      split
      · next r => rw [hplain r hd]
      · rfl
    rw [List.map_congr_left hsame, List.map_id'] at hfilter
    rw [← hfilter]
    exact List.filter_sublist.map _

/-- The message about `node.dam[0]` loses its brackets where a model is known. -/
theorem messages_not_sublist :
    ¬((check .empty "node.dam[0]".toList).map Diagnostic.message).Sublist
      ((check (.model (Model.read "[node.dam]\n".toList) ⟨none, [], [], [], []⟩) "node.dam[0]".toList).map
        Diagnostic.message) := by
  decide +kernel

end CatchmentLint.Expression
