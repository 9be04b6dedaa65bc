import CatchmentLint.Proofs.Expression.Context
import CatchmentLint.Proofs.Lint.Network

/-!
# CatchmentLint.Proofs.Lint.Rules

Rules are switched one by one: what a rule governs can be left out of a report, or told with another
severity, and nothing else changes.

* `ruleOf` — the rule that governs an issue of a model;
* `Placed`, `placed_of_mem_find` — where the findings stand that rules of other names govern;
* `ruleOf_of_placed` — so an issue tells from its line and code which rule let it through;
* `find_congr` — what is found does not depend on the rules, but for the form of outputs;
* `runCheck_switched` — each check with a rule switched off, or of another severity.
-/

namespace CatchmentLint

/-! ## Rules of a schema -/

namespace Schema

/-- An entry that says nothing of its rule: it is on, and what breaks it is an error. -/
def bareRule : Rule := ⟨none, .error, true, none⟩

/-- The schema with its entry for a rule changed; where it has none, a bare one is added first. -/
def adjust (name : Text) (change : Rule → Rule) (s : Schema) : Schema :=
  { s with
    rules := (name, change ((s.rule? name).getD bareRule)) :: s.rules.filter (·.1 != name) }

/-- The schema with a rule switched off. -/
def disable (name : Text) (s : Schema) : Schema :=
  s.adjust name fun rule => { rule with enabled := false }

/-- The schema with a rule of another severity; what is switched off stays so. -/
def regrade (name : Text) (severity : Severity) (s : Schema) : Schema :=
  s.adjust name fun rule => { rule with severity := severity }

theorem lookup_filter_ne {name other : Text} (h : other ≠ name) (rules : List (Text × Rule)) :
    (rules.filter (·.1 != name)).lookup other = rules.lookup other := by
  induction rules with
  | nil => rfl
  | cons entry rules ih =>
      by_cases hname : entry.1 = name
      · have hother : (other == entry.1) = false := beq_eq_false_iff_ne.mpr (hname ▸ h)
        rw [List.filter_cons_of_neg (by simp [hname]), ih, List.lookup_cons, hother]
      · rw [List.filter_cons_of_pos (by simp [hname]), List.lookup_cons, List.lookup_cons, ih]

/-- Changing a rule leaves the rules of other names as they are. -/
theorem rule?_adjust (name other : Text) (change : Rule → Rule) (s : Schema) :
    (s.adjust name change).rule? other =
      if other = name then some (change ((s.rule? name).getD bareRule)) else s.rule? other := by
  by_cases h : other = name
  · simp [adjust, rule?, h]
  · have hother : (other == name) = false := beq_eq_false_iff_ne.mpr h
    rw [adjust, rule?, List.lookup_cons, hother, if_neg h]
    exact lookup_filter_ne h s.rules

/-- A rule that is switched off lets nothing through, and the others what they did. -/
theorem severity?_disable (name rule : Text) (default : Severity) (s : Schema) :
    (s.disable name).severity? rule default =
      if rule = name then none else s.severity? rule default := by
  by_cases h : rule = name
  · simp [disable, severity?, rule?_adjust, h]
  · simp [disable, severity?, rule?_adjust, h]

/-- A rule of another severity lets the same through, under that severity. -/
theorem severity?_regrade (name rule : Text) (severity default : Severity) (s : Schema) :
    (s.regrade name severity).severity? rule default =
      if rule = name then (s.severity? rule default).map fun _ => severity
      else s.severity? rule default := by
  by_cases h : rule = name
  · cases hrule : s.rule? name with
    | none => simp [regrade, severity?, rule?_adjust, h, hrule, bareRule]
    | some r => cases henabled : r.enabled <;> simp [regrade, severity?, rule?_adjust, h, hrule, henabled]
  · simp [regrade, severity?, rule?_adjust, h]

end Schema

namespace Lint

variable {schema schema' : Schema} {m : Model}

/-! ## What is found -/

/-- Schemas that let the same be found: they differ in their rules, but not in the form of outputs. -/
structure FindsAlike (schema schema' : Schema) : Prop where
  sections : schema'.sections = schema.sections
  nodeTypes : schema'.nodeTypes = schema.nodeTypes
  dataTypes : schema'.dataTypes = schema.dataTypes
  outputPattern : outputPattern schema' = outputPattern schema

/-- What is found asks a rule for its pattern at most. -/
theorem findsAlike_adjust {name : Text} {change : Rule → Rule}
    (h : ∀ rule, (change rule).pattern = rule.pattern) :
    FindsAlike schema (schema.adjust name change) where
  sections := rfl
  nodeTypes := rfl
  dataTypes := rfl
  outputPattern := by
    have hpattern : ((schema.adjust name change).rule? "output_references".toList).bind Rule.pattern =
        (schema.rule? "output_references".toList).bind Rule.pattern := by
      rw [Schema.rule?_adjust]
      split
      · next heq =>
          rw [← heq, Option.bind_some, h]
          cases schema.rule? "output_references".toList <;> rfl
      · rfl
    simp only [Lint.outputPattern, hpattern]

/-- Switching a rule off changes nothing that is found. -/
theorem findsAlike_disable (name : Text) : FindsAlike schema (schema.disable name) :=
  findsAlike_adjust fun _ => rfl

/-- Another severity of a rule changes nothing that is found. -/
theorem findsAlike_regrade (name : Text) (severity : Severity) :
    FindsAlike schema (schema.regrade name severity) :=
  findsAlike_adjust fun _ => rfl

/-- Schemas that find alike find the same in a value. -/
theorem checkValue_congr (h : FindsAlike schema schema') (m : Model) :
    checkValue schema' m = checkValue schema m := by
  have hconforms : conforms schema' = conforms schema := by
    funext type value
    simp only [conforms, Schema.conforms?, h.dataTypes]
  funext node spec p
  unfold checkValue checkValueWith
  cases spec.type <;>
    simp only [sayAnew, Expression.messages_node_congr h.nodeTypes, hconforms, checkNumber,
      checkInteger, checkSequence]

/-- Schemas that find alike find the same in a parameter. -/
theorem checkParameter_congr (h : FindsAlike schema schema') (m : Model) :
    checkParameter schema' m = checkParameter schema m := by
  have hvalue : checkValueWith sayAnew schema' m = checkValueWith sayAnew schema m :=
    checkValue_congr h m
  funext node type p
  simp only [checkParameter, checkParameterWith, hvalue]

/-- Schemas that find alike find the same in a node. -/
theorem checkNode_congr (h : FindsAlike schema schema') (m : Model) :
    checkNode schema' m = checkNode schema m := by
  have htyped : checkTypedWith sayAnew schema' m = checkTypedWith sayAnew schema m := by
    funext node type
    simp only [checkTypedWith_eq saysAlone_sayAnew, checkParameter_congr h]
  funext node
  simp only [checkNode, checkNodeWith, Schema.nodeType?, h.nodeTypes, htyped]

/-- What a check finds does not depend on the rules. -/
theorem find_congr (h : FindsAlike schema schema') (m : Model) (check : Check) :
    check.find schema' m = check.find schema m := by
  have houtput : checkOutput schema' m = checkOutput schema m := by
    funext pattern entry
    simp only [checkOutput, Expression.resolve_congr h.nodeTypes]
  cases check with
  | sections => simp only [Check.find, findSections, h.sections]
  | nodes => simp only [Check.find, findNodes_eq, checkNode_congr h]
  | references =>
      simp only [Check.find, findReferences, findOutputs, h.outputPattern, houtput]
  | duplicateProperties | uniqueNodeNames | nodeOrdering | inputFiles => rfl

/-! ## What governs an issue -/

/-- An entry of `[outputs]` stands at this line. -/
def OnOutput (m : Model) (line : Nat) : Prop := ∃ entry ∈ m.outputs, entry.line = line

instance (m : Model) (line : Nat) : Decidable (OnOutput m line) :=
  inferInstanceAs (Decidable (∃ entry ∈ m.outputs, entry.line = line))

/-- The rule that governs an issue: the one of its code, but for files that are missing, and for
what is wrong with an output or a link at the line of one. -/
def ruleOf (m : Model) (i : Issue) : Text :=
  if i.rule = "file_not_found".toList then "file_paths".toList
  else if (i.rule = "invalid_output_reference".toList ∨ i.rule = "invalid_node_reference".toList) ∧
      OnOutput m i.line then "output_references".toList
  else if i.rule = "invalid_node_reference".toList ∧ OnLink m i.line then
    "dsnode_references".toList
  else i.rule

/-- The finding stands where the rule that governs it has it: the code of a property's form can be
any that starts with `invalid_`, the codes of outputs and links among them. -/
def Placed (m : Model) (l : Located) : Prop :=
  match l.finding with
  | .invalidProperty name => ∃ s ∈ m.sections, ∃ p ∈ s.occurrences, p.key = name ∧ p.line = l.line
  | .invalidOutput _ | .unknownOutputNode _ => OnOutput m l.line
  | .unknownLinkTarget _ => OnLink m l.line
  | _ => True

section Placed

variable {l : Located}

/-- A property of a wrong form stands on its line, in one of the sections. -/
theorem placed_of_mem_checkProperty {spec : PropertySpec} {s : Section} (hs : s ∈ m.sections)
    (h : l ∈ checkProperty spec s) : Placed m l := by
  unfold checkProperty at h
  cases hproperty : s.property? spec.name with
  | none =>
      simp only [hproperty, List.mem_ite_nil_right, List.mem_singleton] at h
      rw [h.2]
      trivial
  | some p =>
      obtain ⟨hkey, hp⟩ := lastWith?_eq_some_iff.mp hproperty
      simp only [hproperty, List.mem_append, List.mem_ite_nil_left, List.mem_ite_nil_right,
        List.mem_singleton] at h
      rcases h with ⟨-, rfl⟩ | ⟨-, rfl⟩
      · exact ⟨s, hs, p, hp.mem, hkey, rfl⟩
      · trivial

/-- Whatever is found in the sections is placed. -/
theorem placed_of_mem_findSections (h : l ∈ findSections schema m) : Placed m l := by
  obtain ⟨spec, -, h⟩ := List.mem_flatMap.mp h
  unfold checkSection at h
  cases hsection : m.section? spec.name with
  | none =>
      simp only [hsection, List.mem_ite_nil_right, List.mem_singleton] at h
      rw [h.2]
      trivial
  | some s =>
      simp only [hsection] at h
      obtain ⟨property, -, h⟩ := List.mem_flatMap.mp h
      exact placed_of_mem_checkProperty (lastWith?_eq_some_iff.mp hsection).2.mem h

theorem placed_of_mem_checkBounds {spec : ParameterSpec} {p : Property} {value : Binary64}
    (h : l ∈ checkBounds spec p value) : Placed m l := by
  unfold checkBounds at h
  grind [Placed]

/-- What is found in a value is governed by a rule of its own name. -/
theorem placed_of_mem_checkValue {node : Node} {spec : ParameterSpec} {p : Property}
    (h : l ∈ checkValue schema m node spec p) : Placed m l := by
  unfold checkValue checkValueWith at h
  cases htype : spec.type <;> simp only [htype, checkNumber, checkInteger, checkSequence] at h <;>
    grind [Placed, placed_of_mem_checkBounds, Id.run_pure]

theorem placed_of_mem_checkParameter {node : Node} {type : Text × NodeType} {p : Property}
    (h : l ∈ checkParameter schema m node type p) : Placed m l := by
  unfold checkParameter checkParameterWith at h
  have hvalue : ∀ spec, l ∈ (checkValueWith sayAnew schema m node spec p).run → Placed m l :=
    fun _ => placed_of_mem_checkValue
  grind [Placed, Id.run_pure]

/-- What is found in a node is governed by a rule of its own name. -/
theorem placed_of_mem_checkNode {node : Node} (h : l ∈ checkNode schema m node) : Placed m l := by
  unfold checkNode checkNodeWith at h
  have htyped : ∀ type, l ∈ (checkTypedWith sayAnew schema m node type).run → Placed m l := by
    intro type h
    rw [checkTypedWith_eq saysAlone_sayAnew, Id.run_pure] at h
    rcases List.mem_append.mp h with h | h
    · obtain ⟨name, -, h⟩ := List.mem_flatMap.mp h
      unfold checkRequired at h
      grind [Placed]
    · obtain ⟨p, -, h⟩ := List.mem_flatMap.mp h
      exact placed_of_mem_checkParameter h
  grind [Placed, Id.run_pure]

/-- What is found of references stands on an output or on a link. -/
theorem placed_of_mem_findReferences (h : l ∈ findReferences schema m) : Placed m l := by
  rcases List.mem_append.mp h with h | h
  · obtain ⟨entry, hentry, h⟩ := List.mem_flatMap.mp h
    have hline : OnOutput m entry.line := ⟨entry, hentry, rfl⟩
    rcases eq_of_mem_checkOutput h with rfl | ⟨name, rfl⟩ <;> exact hline
  · obtain ⟨node, hnode, h⟩ := List.mem_flatMap.mp h
    obtain ⟨p, hp, rfl⟩ := List.mem_map.mp h
    obtain ⟨hp, hlink⟩ := List.mem_filter.mp hp
    have hlink' : isLink p = true := by grind
    exact ⟨node, p, isLinkOf_iff.mpr ⟨hnode, hp, hlink'⟩, rfl⟩

/-- Every check finds things where they are placed. -/
theorem placed_of_mem_find {check : Check} (h : l ∈ check.find schema m) : Placed m l := by
  cases check with
  | sections => exact placed_of_mem_findSections h
  | nodes =>
      rw [Check.find, findNodes_eq] at h
      obtain ⟨node, -, h⟩ := List.mem_flatMap.mp h
      exact placed_of_mem_checkNode h
  | duplicateProperties =>
      obtain ⟨s, -, h⟩ := List.mem_flatMap.mp h
      obtain ⟨p, -, rfl⟩ := List.mem_map.mp h
      trivial
  | uniqueNodeNames =>
      obtain ⟨node, -, rfl⟩ := List.mem_map.mp h
      trivial
  | references => exact placed_of_mem_findReferences h
  | nodeOrdering =>
      obtain ⟨node, -, h⟩ := List.mem_flatMap.mp h
      obtain ⟨p, -, rfl⟩ := List.mem_map.mp h
      trivial
  | inputFiles => cases h

end Placed

/-! ## Lines of a text that was read -/

section Lines

variable {content : Text} {s : Section} {p : Property}

/-- No property stands on the line of an output. -/
theorem not_onOutput_of_mem (hs : s ∈ (Model.read content).sections) (hp : p ∈ s.occurrences) :
    ¬OnOutput (Model.read content) p.line := by
  rintro ⟨entry, hentry, hline⟩
  obtain ⟨i, hi⟩ := Lines.exists_propertyAt? hs hp
  obtain ⟨j, hj⟩ : ∃ j, Lines.entryAt? (Text.lines content) j = some entry :=
    Lines.exists_entryAt? hentry
  exact Lines.line_ne_of_propertyAt? hi hj hline.symm

/-- The property that stands on the line of a link is that link. -/
theorem isLink_of_onLink (hs : s ∈ (Model.read content).sections) (hp : p ∈ s.occurrences)
    (h : OnLink (Model.read content) p.line) : isLink p = true := by
  obtain ⟨node, link, hlink, hline⟩ := h
  obtain ⟨i, hi⟩ := Lines.exists_propertyAt? hs hp
  obtain ⟨j, hj⟩ := Lines.exists_propertyAt? (body_mem_of_declared hlink.node_latest.mem)
    hlink.property_latest.mem
  rw [← Lines.eq_of_propertyAt? hj hi hline]
  exact (isLinkOf_iff.mp hlink).2.2

end Lines

/-! ## Codes -/

theorem toList_ne {a b : String} (h : a ≠ b) : a.toList ≠ b.toList := mt String.toList_inj.mp h

/-- A code that begins otherwise is no code of a property of a wrong form. -/
theorem code_invalidProperty_ne {name : Text} {code : String} (h : code.toList.head? ≠ some 'i') :
    (Finding.invalidProperty name).code ≠ code.toList :=
  fun heq => h (heq ▸ rfl)

/-- The code of a property's form is the code of a link for one name only. -/
theorem code_invalidProperty_eq_iff {name : Text} :
    (Finding.invalidProperty name).code = "invalid_node_reference".toList ↔
      name = "node_reference".toList := by
  have hcode : "invalid_node_reference".toList = "invalid_".toList ++ "node_reference".toList := by
    decide
  constructor
  · intro h
    exact List.append_cancel_left (h.trans hcode)
  · intro h
    exact (congrArg ("invalid_".toList ++ ·) h).trans hcode.symm

/-! ## The rule of a finding -/

/-- An issue of another code is governed by the rule of that name. -/
theorem ruleOf_of_ne {i : Issue} (hfile : i.rule ≠ "file_not_found".toList)
    (houtput : i.rule ≠ "invalid_output_reference".toList)
    (hnode : i.rule ≠ "invalid_node_reference".toList) : ruleOf m i = i.rule := by
  rw [ruleOf, if_neg hfile, if_neg (fun h => h.1.elim houtput hnode), if_neg (fun h => hnode h.1)]

/-- A wrong reference on an output is governed by the rule for outputs. -/
theorem ruleOf_of_onOutput {i : Issue} (hcode : i.rule = "invalid_output_reference".toList ∨
    i.rule = "invalid_node_reference".toList) (hline : OnOutput m i.line) :
    ruleOf m i = "output_references".toList := by
  have hfile : i.rule ≠ "file_not_found".toList := by
    rcases hcode with hcode | hcode
    · rw [hcode]
      exact toList_ne (by decide)
    · rw [hcode]
      exact toList_ne (by decide)
  rw [ruleOf, if_neg hfile, if_pos ⟨hcode, hline⟩]

/-- One on a link is governed by the rule for links. -/
theorem ruleOf_of_onLink {i : Issue} (hcode : i.rule = "invalid_node_reference".toList)
    (hline : OnLink m i.line) (houtput : ¬OnOutput m i.line) :
    ruleOf m i = "dsnode_references".toList := by
  have hfile : i.rule ≠ "file_not_found".toList := by
    rw [hcode]
    exact toList_ne (by decide)
  rw [ruleOf, if_neg hfile, if_neg (fun h => houtput h.2), if_pos ⟨hcode, hline⟩]

/-- A property of a wrong form is governed by the rule of its own code, even where that reads like
one of a reference, since it does not stand where these do. -/
theorem ruleOf_invalidProperty {content : Text} {line : Nat} {name : Text}
    (h : Placed (Model.read content) ⟨line, .invalidProperty name⟩) (message : Text)
    (severity : Severity) :
    ruleOf (Model.read content) ⟨line, message, severity, (Finding.invalidProperty name).code⟩ =
      (Finding.invalidProperty name).code := by
  obtain ⟨s, hs, p, hp, rfl, rfl⟩ := h
  have hfile : (Finding.invalidProperty p.key).code ≠ "file_not_found".toList :=
    code_invalidProperty_ne (by decide)
  have hlink : ¬((Finding.invalidProperty p.key).code = "invalid_node_reference".toList ∧
      OnLink (Model.read content) p.line) := by
    rintro ⟨hcode, hline⟩
    have hkey := isLink_of_onLink hs hp hline
    rw [isLink, code_invalidProperty_eq_iff.mp hcode] at hkey
    contradiction
  rw [ruleOf, if_neg hfile, if_neg (fun h => not_onOutput_of_mem hs hp h.2), if_neg hlink]

/-- An issue tells which rule governs the finding that it comes from. -/
theorem ruleOf_of_placed {content : Text} {l : Located} (h : Placed (Model.read content) l)
    (message : Text) (severity : Severity) :
    ruleOf (Model.read content) ⟨l.line, message, severity, l.finding.code⟩ = l.finding.governor := by
  obtain ⟨line, finding⟩ := l
  cases finding with
  | invalidProperty name => exact ruleOf_invalidProperty h message severity
  | invalidOutput reference => exact ruleOf_of_onOutput (.inl rfl) h
  | unknownOutputNode node => exact ruleOf_of_onOutput (.inr rfl) h
  | unknownLinkTarget node =>
      refine ruleOf_of_onLink rfl h ?_
      rintro ⟨entry, hentry, rfl⟩
      exact not_onLink_of_mem_outputs hentry h
  | missingFile path => exact if_pos rfl
  | _ =>
      exact ruleOf_of_ne (toList_ne (by decide)) (toList_ne (by decide)) (toList_ne (by decide))

/-! ## Reports under other rules -/

/-- The issue with the severity of its rule changed. What is found in an expression has a severity of
its own. -/
def regraded (m : Model) (rule : Text) (severity : Severity) (i : Issue) : Issue :=
  if ruleOf m i = rule ∧ i.rule ≠ "function_expression_error".toList then
    { i with severity := severity }
  else i

/-- A finding has the severity of its rule, unless it is about an expression. -/
theorem severityUnder_of_ne {f : Finding} (h : f.code ≠ "function_expression_error".toList)
    (ruled : Severity) : f.severityUnder ruled = ruled := by
  cases f with
  | invalidExpression message => exact absurd rfl h
  | _ => rfl

/-- One about an expression has its own, whatever the rule says. -/
theorem severityUnder_of_eq {f : Finding} (h : f.code = "function_expression_error".toList)
    (ruled other : Severity) : f.severityUnder ruled = f.severityUnder other := by
  cases f with
  | invalidExpression message => rfl
  | invalidProperty name => exact absurd h (code_invalidProperty_ne (by decide))
  | _ => exact absurd h (toList_ne (by decide))

section Reports

variable {content : Text} {rule : Text}

/-- Without the rule, the issues of a finding are those that it does not govern. -/
theorem issues_disable {l : Located} (h : Placed (Model.read content) l) :
    l.finding.issues (schema.disable rule) l.line =
      (l.finding.issues schema l.line).filter (ruleOf (Model.read content) · ≠ rule) := by
  have hrule := ruleOf_of_placed h l.finding.message
  unfold Finding.issues
  rw [Schema.severity?_disable]
  cases hseverity : schema.severity? l.finding.governor l.finding.defaultSeverity with
  | none => simp
  | some ruled =>
      by_cases hsame : l.finding.governor = rule
      · simp [hrule, hsame]
      · simp [hrule, hsame]

/-- With another severity, the issues of a finding are the same, or regraded where the rule governs
them. -/
theorem issues_regrade {l : Located} (h : Placed (Model.read content) l) (severity : Severity) :
    l.finding.issues (schema.regrade rule severity) l.line =
      (l.finding.issues schema l.line).map (regraded (Model.read content) rule severity) := by
  have hrule := ruleOf_of_placed h l.finding.message
  unfold Finding.issues
  rw [Schema.severity?_regrade]
  cases hseverity : schema.severity? l.finding.governor l.finding.defaultSeverity with
  | none => simp
  | some ruled =>
      by_cases hsame : l.finding.governor = rule
      · by_cases hcode : l.finding.code = "function_expression_error".toList
        · have hkept : regraded (Model.read content) rule severity
              ⟨l.line, l.finding.message, l.finding.severityUnder ruled, l.finding.code⟩ =
                ⟨l.line, l.finding.message, l.finding.severityUnder ruled, l.finding.code⟩ :=
            if_neg fun hchanges => hchanges.2 hcode
          simp only [if_pos hsame, Option.map_some, List.map_cons, List.map_nil, hkept,
            severityUnder_of_eq hcode severity ruled]
        · have hchanged : regraded (Model.read content) rule severity
              ⟨l.line, l.finding.message, l.finding.severityUnder ruled, l.finding.code⟩ =
                ⟨l.line, l.finding.message, severity, l.finding.code⟩ :=
            if_pos ⟨(hrule _).trans hsame, hcode⟩
          simp only [if_pos hsame, Option.map_some, List.map_cons, List.map_nil, hchanged,
            severityUnder_of_ne hcode severity]
      · have hkept : regraded (Model.read content) rule severity
            ⟨l.line, l.finding.message, l.finding.severityUnder ruled, l.finding.code⟩ =
              ⟨l.line, l.finding.message, l.finding.severityUnder ruled, l.finding.code⟩ :=
          if_neg fun hchanges => hsame ((hrule _).symm.trans hchanges.1)
        simp only [if_neg hsame, List.map_cons, List.map_nil, hkept]

/-- A whole report loses the issues that the rule governs, and no others. -/
theorem report_disable {found : List Located} (h : ∀ l ∈ found, Placed (Model.read content) l) :
    report (schema.disable rule) found =
      (report schema found).filter (ruleOf (Model.read content) · ≠ rule) := by
  rw [report, report, List.filter_flatMap]
  exact List.flatMap_congr fun l hl => issues_disable (h l hl)

/-- A whole report keeps its issues, and those that the rule governs are regraded. -/
theorem report_regrade {found : List Located} (h : ∀ l ∈ found, Placed (Model.read content) l)
    (severity : Severity) :
    report (schema.regrade rule severity) found =
      (report schema found).map (regraded (Model.read content) rule severity) := by
  rw [report, report, List.map_flatMap]
  exact List.flatMap_congr fun l hl => issues_regrade (h l hl) severity

end Reports

/-! ## Checks under other rules -/

section Files

variable {onDisk : Text → Bool} {clock : Clock} {base : Text} {mem : Memory}

/-- A missing file stands on the line of its entry. -/
theorem exists_of_mem_findMissingFiles {entries : List Entry} {l : Located}
    (h : l ∈ (findMissingFiles onDisk base clock entries mem).1) :
    ∃ entry ∈ entries, l = ⟨entry.line, .missingFile entry.text⟩ := by
  induction entries generalizing clock mem with
  | nil => cases h
  | cons entry entries ih =>
      have hlater (h : l ∈ (findMissingFiles onDisk base (clock.after 1) entries
          (mem.look onDisk clock.first (Path.join base entry.text)).2).1) :
          ∃ other ∈ entry :: entries, l = ⟨other.line, .missingFile other.text⟩ := by
        obtain ⟨other, hother, heq⟩ := ih h
        exact ⟨other, List.mem_cons_of_mem _ hother, heq⟩
      simp only [findMissingFiles] at h
      split at h
      · exact hlater h
      · rcases List.mem_cons.mp h with rfl | h
        · exact ⟨entry, List.mem_cons_self, rfl⟩
        · exact hlater h

/-- That nothing is looked for while the rule is off makes no difference to what is told. -/
theorem checkInputFiles_eq_report :
    (checkInputFiles schema onDisk clock (some base) m mem).1 =
      report schema (findMissingFiles onDisk base clock m.inputs mem).1 := by
  unfold checkInputFiles
  cases hseverity : schema.severity? "file_paths".toList .error with
  | some ruled => rfl
  | none =>
      refine (List.flatMap_eq_nil_iff.mpr fun l hl => ?_).symm
      obtain ⟨entry, -, rfl⟩ := exists_of_mem_findMissingFiles hl
      have hoff : schema.severity? (Finding.missingFile entry.text).governor
          (Finding.missingFile entry.text).defaultSeverity = none := hseverity
      rw [Finding.issues, hoff]

end Files

end Lint

namespace Linter

open Lint

variable {around : Surroundings} {base? : Option Text} {l : Linter}

/-- What a check tells comes from findings that the rules have no part in, each of them placed. -/
theorem exists_found (around : Surroundings) (base? : Option Text) (l : Linter) (m : Model)
    (check : Check) :
    ∃ found : List Located, (∀ located ∈ found, Placed m located) ∧
      ∀ schema, FindsAlike l.schema schema →
        (({ l with schema := schema } : Linter).runCheck around m base? check).1 =
          report schema found := by
  by_cases hcheck : check = .inputFiles
  · subst hcheck
    cases base? with
    | none => exact ⟨[], by simp, fun schema _ => rfl⟩
    | some base =>
        refine ⟨(findMissingFiles around.onDisk base around.clock m.inputs l.memory).1, ?_,
          fun schema _ => checkInputFiles_eq_report⟩
        intro located hlocated
        obtain ⟨entry, -, rfl⟩ := exists_of_mem_findMissingFiles hlocated
        trivial
  · refine ⟨check.find l.schema m, fun _ => placed_of_mem_find, fun schema halike => ?_⟩
    rw [runCheck_of_ne hcheck, Check.issues, find_congr halike]

/-- Each check, in any linter and around any document. With a rule switched off it tells what it told
before but for the issues that this rule governs; with another severity for a rule it tells the same
issues in the same order, and no more than the severities of those of this rule change. -/
theorem runCheck_switched (around : Surroundings) (base? : Option Text) (l : Linter)
    (content : Text) (check : Check) (rule : Text) :
    let m := Model.read content
    let issues := (l.runCheck around m base? check).1
    (({ l with schema := l.schema.disable rule } : Linter).runCheck around m base? check).1 =
        issues.filter (ruleOf m · ≠ rule) ∧
      ∀ severity,
        (({ l with schema := l.schema.regrade rule severity } : Linter).runCheck around m base?
          check).1 = issues.map (regraded m rule severity) := by
  intro m issues
  obtain ⟨found, hplaced, hfound⟩ := exists_found around base? l m check
  have hissues : issues = report l.schema found := hfound l.schema ⟨rfl, rfl, rfl, rfl⟩
  rw [hissues]
  constructor
  · rw [hfound _ (findsAlike_disable rule)]
    exact report_disable hplaced
  · intro severity
    rw [hfound _ (findsAlike_regrade rule severity)]
    exact report_regrade hplaced severity

end Linter

end CatchmentLint
