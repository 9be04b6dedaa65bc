import CatchmentLint.Proofs.Expression.Reference
import CatchmentLint.Proofs.Lint.Network
import CatchmentLint.Proofs.Pattern.Whole

/-!
# CatchmentLint.Proofs.Lint.Outputs

What is told of the outputs of a model, and what should be.

* `RefersTo` — the form of a reference to an output of a node, as it is read (`refersTo_iff`);
* `demanded` — an output without the form that is asked for should be told of once, and so should
  one that names no node that is declared;
* `outputs_told` — just that is told, but nothing of outputs that have the form and are no references;
* `accepts_default_iff` — the default form, which only references have.
-/

namespace CatchmentLint

/-- Where an issue stands, and of which kind it is. -/
def Issue.place (i : Issue) : Nat × Text := (i.line, i.rule)

def Located.place (l : Located) : Nat × Text := (l.line, l.finding.code)

end CatchmentLint

namespace CatchmentLint.Lint

variable {schema : Schema} {m : Model}

/-! ## References by their form -/

/-- What is left of a text without the clause in brackets that may end it. -/
inductive Bare : Text → Text → Prop
  | clause {body inner : Text} (h : '[' ∉ body) : Bare (body ++ '[' :: (inner ++ [']'])) body
  | plain {text : Text} (h : ∀ before inner, text ≠ before ++ '[' :: (inner ++ [']'])) :
      Bare text text

/-- The text is `node.<name>.<output>`, perhaps with a clause in brackets behind it. -/
structure RefersTo (text name output : Text) : Prop where
  bare : Bare text ("node.".toList ++ (name ++ '.' :: output))
  name_ne_nil : name ≠ []
  output_ne_nil : output ≠ []
  dot_notMem_name : '.' ∉ name
  dot_notMem_output : '.' ∉ output

/-- The clause in brackets at the end of a text begins where a bracket opens first. -/
theorem exists_clause_iff {text : Text} : '[' ∈ text ∧ text.getLast? = some ']' ↔
    ∃ before inner, text = before ++ '[' :: (inner ++ [']']) ∧ '[' ∉ before := by
  constructor
  · rintro ⟨hopen, hclose⟩
    cases hcut : Text.cut? '[' text with
    | none => exact absurd hopen (Text.cut?_eq_none_iff.mp hcut)
    | some parts =>
      obtain ⟨before, after⟩ := parts
      obtain ⟨rfl, hbefore⟩ := Text.cut?_eq_some_iff.mp hcut
      rcases List.eq_nil_or_concat after with rfl | ⟨inner, c, rfl⟩
      · simp at hclose
      · obtain rfl : c = ']' := by simpa [List.getLast?_cons] using hclose
        exact ⟨before, inner, by rw [List.concat_eq_append], hbefore⟩
  · rintro ⟨before, inner, rfl, -⟩
    simp [List.getLast?_cons]

/-- The clause in brackets is left out just as the reader of references leaves it out. -/
theorem bare_iff {text body : Text} : Bare text body ↔ Reference.withoutBrackets text = body := by
  constructor
  · rintro (hbody | hno)
    · exact Expression.withoutBrackets_bracketed hbody (by simp)
    · refine if_neg fun hclause => ?_
      obtain ⟨before, inner, heq, -⟩ := exists_clause_iff.mp hclause
      exact hno before inner heq
  · rintro rfl
    by_cases hclause : '[' ∈ text ∧ text.getLast? = some ']'
    · obtain ⟨before, inner, rfl, hbefore⟩ := exists_clause_iff.mp hclause
      rw [Expression.withoutBrackets_bracketed hbefore (by simp)]
      exact .clause hbefore
    · rw [Reference.withoutBrackets, if_neg hclause]
      refine .plain fun before inner heq => hclause ?_
      rw [heq]
      simp [List.getLast?_cons]

/-- Read from left to right, a reference to an output comes apart into a name and an output. -/
theorem refersTo_iff {text name output : Text} : RefersTo text name output ↔
    Reference.splitNode? (Reference.withoutBrackets text) = some (name, output) := by
  rw [Expression.splitNode?_eq_some_iff, ← bare_iff]
  exact ⟨fun h => ⟨h.bare, h.name_ne_nil, h.output_ne_nil, h.dot_notMem_name, h.dot_notMem_output⟩,
    fun ⟨bare, hname, houtput, hdot, hdot'⟩ => ⟨bare, hname, houtput, hdot, hdot'⟩⟩

/-- The text has the form of a reference to an output of a node. -/
def IsReference (text : Text) : Prop := ∃ name output, RefersTo text name output

/-- The text refers to an output of a node that is declared. -/
def NamesNode (m : Model) (text : Text) : Prop :=
  ∃ name output, RefersTo text name output ∧ ∃ node ∈ m.declaredNodes, node.name = name

instance (text : Text) : Decidable (IsReference text) :=
  decidable_of_iff ((Reference.splitNode? (Reference.withoutBrackets text)).isSome = true) <| by
    simp only [IsReference, refersTo_iff, Option.isSome_iff_exists, Prod.exists]

instance (text : Text) : Decidable (NamesNode m text) :=
  decidable_of_iff (∃ parts ∈ Reference.splitNode? (Reference.withoutBrackets text),
      ∃ node ∈ m.declaredNodes, node.name = parts.1) <| by
    simp only [NamesNode, refersTo_iff, Prod.exists, Option.mem_def]

/-! ## What is asked of an output -/

/-- The text has the form that the schema asks for, or else the default form. -/
def HasOutputForm (schema : Schema) (text : Text) : Prop :=
  ∃ pattern, outputPattern schema = some pattern ∧ pattern.accepts text = true

instance (text : Text) : Decidable (HasOutputForm schema text) :=
  decidable_of_iff ((outputPattern schema).any (·.accepts text) = true) (Option.any_eq_true _ _)

/-- Where and of which kind an issue on an output should be told, if one should. -/
def demanded (schema : Schema) (m : Model) (entry : Entry) : List (Nat × Text) :=
  if HasOutputForm schema entry.text then
    if NamesNode m entry.text then [] else [(entry.line, "invalid_node_reference".toList)]
  else [(entry.line, "invalid_output_reference".toList)]

/-- The text has the form that is asked for, but is no reference. -/
structure Overlooked (schema : Schema) (text : Text) : Prop where
  form : HasOutputForm schema text
  not_isReference : ¬IsReference text

instance (text : Text) : Decidable (Overlooked schema text) :=
  decidable_of_iff (HasOutputForm schema text ∧ ¬IsReference text)
    ⟨fun h => ⟨h.1, h.2⟩, fun h => ⟨h.1, h.2⟩⟩

/-- Without the form that is asked for, an output is told of as such, whatever it names. -/
theorem checkOutput_of_not_hasOutputForm {entry : Entry} (h : ¬HasOutputForm schema entry.text) :
    checkOutput schema m (outputPattern schema) entry =
      [⟨entry.line, .invalidOutput entry.text⟩] := by
  obtain ⟨pattern, hpattern⟩ := exists_outputPattern schema
  have hno : pattern.accepts entry.text ≠ true := fun haccepts => h ⟨pattern, hpattern, haccepts⟩
  rw [checkOutput, hpattern, if_pos (by simpa using hno)]

/-- A reference to a node that is not declared is told of, as one that names no node. -/
theorem checkOutput_of_isReference {entry : Entry} (h : HasOutputForm schema entry.text)
    (href : IsReference entry.text) (hno : ¬NamesNode m entry.text) :
    ∃ name, checkOutput schema m (outputPattern schema) entry =
      [⟨entry.line, .unknownOutputNode name⟩] := by
  obtain ⟨pattern, hpattern, haccepts⟩ := h
  obtain ⟨name, output, href⟩ := href
  have hnode : m.node? name = none := by
    rw [Option.eq_none_iff_forall_ne_some]
    intro node hnode
    exact hno ⟨name, output, href, exists_node?_iff.mpr ⟨node, hnode⟩⟩
  have hresolve : Reference.resolve m schema entry.text = .error (.unknownNode name) :=
    resolve_eq_unknownNode_iff.mpr ⟨output, refersTo_iff.mp href, hnode⟩
  refine ⟨name, ?_⟩
  rw [checkOutput, hpattern, if_neg (by simp [haccepts])]
  simp only [hresolve]

/-- Nothing is told of an output of the right form whose node is declared, nor of one that is no
reference. -/
theorem checkOutput_of_namesNode {entry : Entry} (h : HasOutputForm schema entry.text)
    (hnamed : IsReference entry.text → NamesNode m entry.text) :
    checkOutput schema m (outputPattern schema) entry = [] := by
  refine checkOutput_eq_nil_iff.mpr ⟨h, fun name output hsplit => ?_⟩
  have href := refersTo_iff.mpr hsplit
  obtain ⟨name', output', href', hnode⟩ := hnamed ⟨name, output, href⟩
  rw [refersTo_iff, hsplit] at href'
  cases href'
  exact hnode

/-- The check of one output finds what is asked of it, unless the output is overlooked. -/
theorem places_checkOutput (entry : Entry) :
    (checkOutput schema m (outputPattern schema) entry).map Located.place =
      if Overlooked schema entry.text then [] else demanded schema m entry := by
  by_cases hform : HasOutputForm schema entry.text
  · by_cases href : IsReference entry.text
    · rw [if_neg fun h => h.not_isReference href, demanded, if_pos hform]
      by_cases hnamed : NamesNode m entry.text
      · rw [checkOutput_of_namesNode hform fun _ => hnamed, if_pos hnamed]
        rfl
      · obtain ⟨name, hcheck⟩ := checkOutput_of_isReference hform href hnamed
        rw [hcheck, if_neg hnamed]
        rfl
    · rw [if_pos ⟨hform, href⟩, checkOutput_of_namesNode hform fun h => absurd h href]
      rfl
  · rw [if_neg fun h => hform h.form, demanded, if_neg hform,
      checkOutput_of_not_hasOutputForm hform]
    rfl

/-- An overlooked output names no node, which should be told. -/
theorem demanded_of_overlooked {entry : Entry} (h : Overlooked schema entry.text) :
    demanded schema m entry = [(entry.line, "invalid_node_reference".toList)] := by
  have hno : ¬NamesNode m entry.text := fun ⟨name, output, href, _⟩ =>
    h.not_isReference ⟨name, output, href⟩
  rw [demanded, if_pos h.form, if_neg hno]

/-! ## The default form -/

/-- The characters of `[\w_]`. -/
def outputLetters : CharRanges :=
  .union (.canonical Unicode.wordRanges) (.union (.single '_'.toNat) [])

def flows : List Text := ["dsflow", "usflow", "storage"].map String.toList

def defaultOutputRegex : Regex :=
  .spelling "node.".toList (.seq (.loop 1 none false (.set outputLetters))
    (.spelling ['.'] (.seq (.capture (.oneOf flows)) .empty)))

/-- The default form, read on its own. -/
theorem alone?_default :
    Pattern.alone? "node\\.[\\w_]+\\.(dsflow|usflow|storage)".toList = some defaultOutputRegex := by
  decide +kernel

/-- The default form: a name of word characters, and one of the flows. -/
theorem accepts_default_iff {pattern : Pattern} (h : defaultOutputPattern = some pattern)
    (text : Text) :
    pattern.accepts text = true ↔ ∃ name flow, text = "node.".toList ++ (name ++ '.' :: flow) ∧
      name ≠ [] ∧ (∀ c ∈ name, outputLetters.contains c = true) ∧ flow ∈ flows := by
  rw [Pattern.accepts_iff_matchesWhole h (by rw [alone?_default]; rfl), Pattern.MatchesWhole,
    alone?_default]
  simp only [Option.some.injEq, exists_eq_left']
  rw [defaultOutputRegex, Regex.spans_spelling_iff]
  constructor
  · rintro ⟨v, rfl, name, w, rfl, ⟨n, hn, -, hname⟩, hw⟩
    obtain ⟨x, rfl, flow, y, rfl, hflow, rfl⟩ := Regex.spans_spelling_iff.mp hw
    obtain ⟨rfl, hletters⟩ := Regex.turns_set_iff.mp hname
    refine ⟨name, flow, ?_, List.length_pos_iff.mp hn, hletters, Regex.spans_oneOf_iff.mp hflow⟩
    simp
  · rintro ⟨name, flow, rfl, hname, hletters, hflow⟩
    have hname' : ∀ before after,
        (Regex.loop 1 none false (.set outputLetters)).Spans before name after := fun _ _ =>
      ⟨name.length, List.length_pos_iff.mpr hname, by simp, Regex.turns_set_iff.mpr ⟨rfl, hletters⟩⟩
    have hflow' : ∀ before, (Regex.oneOf flows).Spans before flow none := fun before =>
      Regex.spans_oneOf_iff.mpr hflow
    exact ⟨_, rfl, name, _, rfl, hname' _ _, Regex.spans_spelling_iff.mpr
      ⟨flow, rfl, flow, [], (List.append_nil flow).symm, hflow' _, rfl⟩⟩

/-- No text of the default form is overlooked. -/
theorem not_overlooked_of_default
    (h : (schema.rule? "output_references".toList).bind Rule.pattern = none) (text : Text) :
    ¬Overlooked schema text := by
  rintro ⟨⟨pattern, hpattern, haccepts⟩, hno⟩
  have hdefault : defaultOutputPattern = some pattern := by
    unfold outputPattern at hpattern
    rw [h] at hpattern
    exact hpattern
  obtain ⟨name, flow, rfl, hname, hletters, hflow⟩ :=
    (accepts_default_iff hdefault text).mp haccepts
  have hdot : outputLetters.contains '.' = false := by decide +kernel
  have hopen : outputLetters.contains '[' = false := by decide +kernel
  have hflow' : flow ≠ [] ∧ '.' ∉ flow ∧ '[' ∉ flow := by
    have hall : ∀ flow ∈ flows, flow ≠ [] ∧ '.' ∉ flow ∧ '[' ∉ flow := by decide +kernel
    exact hall flow hflow
  refine hno ⟨name, flow, ?_, hname, hflow'.1, ?_, hflow'.2.1⟩
  · refine .plain fun before inner heq => ?_
    have hmem : '[' ∈ "node.".toList ++ (name ++ '.' :: flow) := by rw [heq]; simp
    simp only [List.mem_append, List.mem_cons] at hmem
    rcases hmem with hmem | hmem | hmem | hmem
    · exact absurd hmem (by decide)
    · exact Bool.false_ne_true (hopen.symm.trans (hletters _ hmem))
    · exact absurd hmem (by decide)
    · exact hflow'.2.2 hmem
  · exact fun hmem => Bool.false_ne_true (hdot.symm.trans (hletters _ hmem))

/-! ## What is told -/

/-- What is found under rules that are on is told, each in its place and once. -/
theorem map_place_report {found : List Located}
    (h : ∀ l ∈ found, LeavesEnabled schema l.finding.governor) :
    (report schema found).map Issue.place = found.map Located.place := by
  induction found with
  | nil => rfl
  | cons l found ih =>
    obtain ⟨hl, hfound⟩ := List.forall_mem_cons.mp h
    obtain ⟨severity, hissues⟩ := exists_issues_eq hl l.line
    rw [report, List.flatMap_cons, hissues, ← report, List.map_append, ih hfound]
    rfl

/-- What is asked of the outputs is found, in their order, but for those that are overlooked. -/
theorem places_findOutputs :
    (findOutputs schema m).map Located.place =
      (m.outputs.filter fun entry => ¬Overlooked schema entry.text).flatMap
        (demanded schema m) := by
  rw [findOutputs, List.map_flatMap, flatMap_filter_not]
  simp only [places_checkOutput]

/-- The check of references tells the issues on outputs first.  They are those that are asked for,
but for overlooked outputs; so all that is asked for is told just where none is overlooked, as with
the default form. -/
theorem outputs_told (around : Surroundings) (m : Model) (base? : Option Text) (l : Linter)
    (h : LeavesEnabled l.schema "output_references".toList) :
    let told := fun m => (l.runCheck around m base? .references).1
    let asked := m.outputs.flatMap (demanded l.schema m)
    ∃ issues, told m = issues ++ told { m with outputs := [] } ∧
      issues.map Issue.place =
        (m.outputs.filter fun entry => ¬Overlooked l.schema entry.text).flatMap
          (demanded l.schema m) ∧
      (issues.map Issue.place = asked ↔ ∀ entry ∈ m.outputs, ¬Overlooked l.schema entry.text) ∧
      ((l.schema.rule? "output_references".toList).bind Rule.pattern = none →
        issues.map Issue.place = asked) := by
  intro told asked
  have hplaces : (report l.schema (findOutputs l.schema m)).map Issue.place =
      (m.outputs.filter fun entry => ¬Overlooked l.schema entry.text).flatMap
        (demanded l.schema m) := by
    rw [map_place_report, places_findOutputs]
    intro found hfound
    obtain ⟨entry, -, hentry⟩ := List.mem_flatMap.mp hfound
    rcases eq_of_mem_checkOutput hentry with rfl | ⟨name, rfl⟩ <;> exact h
  have hasked : (report l.schema (findOutputs l.schema m)).map Issue.place = asked ↔
      ∀ entry ∈ m.outputs, ¬Overlooked l.schema entry.text := by
    rw [hplaces, flatMap_filter_eq_iff]
    · simp
    · intro entry hentry
      rw [demanded_of_overlooked (by simpa using hentry)]
      exact List.cons_ne_nil _ _
  refine ⟨report l.schema (findOutputs l.schema m), ?_, hplaces, hasked, fun hpattern => ?_⟩
  · exact report_append _ _
  · exact hasked.mpr fun entry _ => not_overlooked_of_default hpattern entry.text

/-- A schema whose outputs may have parts of their own. -/
def partsSchema : Schema :=
  { version := none
    sections := []
    nodeTypes := []
    dataTypes := []
    rules := [("output_references".toList,
      ⟨none, .error, true, Pattern.compile? "node(\\.[a-z]+)+".toList⟩)] }

theorem allEnabled_partsSchema : AllEnabled partsSchema := allEnabled_of_mem (by simp [partsSchema])

theorem outputs_told_ghost :
    let l := Linter.fresh partsSchema
    let m := Model.read "[node.a]\n[outputs]\nnode.a.dsflow\nrain\nnode.ghost.usflow\nrain\n".toList
    let told := fun m => (l.runCheck ⟨0, fun _ => false⟩ m none .references).1
    LeavesEnabled l.schema "output_references".toList ∧
      ∃ issues, told m = issues ++ told { m with outputs := [] } ∧
        issues.map Issue.place = [(4, "invalid_output_reference".toList),
          (5, "invalid_node_reference".toList), (6, "invalid_output_reference".toList)] := by
  intro l m told
  have henabled : LeavesEnabled l.schema "output_references".toList := allEnabled_partsSchema _
  obtain ⟨issues, hissues, -, hasked, -⟩ := outputs_told ⟨0, fun _ => false⟩ m none l henabled
  refine ⟨henabled, issues, hissues, (hasked.mpr ?_).trans ?_⟩ <;> decide +kernel

/-- An output of the form that the schema asks for, whose node is not declared; it has one part too
many for a reference, so that nothing is told of it. -/
theorem overlooked_ghost :
    let l := Linter.fresh partsSchema
    let m := Model.read "[outputs]\nnode.ghost.storage.daily\n".toList
    LeavesEnabled l.schema "output_references".toList ∧
      (l.runCheck ⟨0, fun _ => false⟩ m none .references).1 = [] ∧
      m.outputs.flatMap (demanded l.schema m) = [(2, "invalid_node_reference".toList)] := by
  intro l m
  refine ⟨allEnabled_partsSchema _, ?_, ?_⟩ <;> decide +kernel

end CatchmentLint.Lint
