import CatchmentLint.Proofs.Expression.Wording
import CatchmentLint.Proofs.Json.Report
import CatchmentLint.Proofs.Lint.Rules
import CatchmentLint.Proofs.Lint.Session
import CatchmentLint.Schema.Default

/-!
# CatchmentLint.Proofs.Lint.ReportLines

A report has one line for each issue, and one more: nothing that is told of a document brings a line
feed into it.

* `Finding.unbroken_message` — a message stays on one line if what it quotes does;
* `quotesUnbroken_of_mem_find` — what the checks quote comes from the names, the keys, the values and
  the entries of the model, from its expressions and from the schema;
* `render_validate` — so the lines of a report are those of its issues and the summary.
-/

namespace CatchmentLint

open Text

/-! ## Findings -/

namespace Finding

/-- What a finding quotes from the document and the schema. -/
def quoted : Finding → List Text
  | .missingSection name | .missingProperty name | .invalidProperty name => [name]
  | .missingNodeType node => [node]
  | .unknownNodeType type => [type]
  | .missingParameter node parameter => [node, parameter]
  | .unknownParameter parameter type => [parameter, type]
  | .invalidExpression message => [message]
  | .invalidNumber value | .invalidInteger value | .integerOutOfRange value
  | .belowMinimum _ value | .aboveMaximum _ value => [value]
  | .wrongCount parameter _ _ => [parameter]
  | .duplicateProperty key sectionName => [key, sectionName]
  | .duplicateNode name _ => [name]
  | .invalidOutput reference => [reference]
  | .unknownOutputNode node | .unknownLinkTarget node => [node]
  | .missingFile path => [path]
  | .invalidVersion | .invalidCoordinates | .invalidSequence | .linkUpwards => []

variable {f : Finding} (h : ∀ s ∈ f.quoted, s.Unbroken)

include h

/-- A message adds no line feed to what it quotes. -/
theorem unbroken_message : f.message.Unbroken := by
  cases f with
  | missingSection name =>
      exact (Unbroken.append (by decide) (List.forall_mem_singleton.mp h)).append (by decide)
  | invalidProperty name =>
      exact (Unbroken.append (by decide) (List.forall_mem_singleton.mp h)).append (by decide)
  | missingProperty | missingNodeType | unknownNodeType | invalidNumber | invalidInteger
  | integerOutOfRange | invalidOutput | unknownOutputNode | unknownLinkTarget | missingFile =>
      exact Unbroken.append (by decide) (List.forall_mem_singleton.mp h)
  | missingParameter node parameter =>
      obtain ⟨hnode, hparameter⟩ := List.forall_mem_cons.mp h
      exact ((Unbroken.append (by decide) hnode).append (by decide)).append
        (List.forall_mem_singleton.mp hparameter)
  | unknownParameter parameter type =>
      obtain ⟨hparameter, htype⟩ := List.forall_mem_cons.mp h
      exact (((Unbroken.append (by decide) hparameter).append (by decide)).append
        (List.forall_mem_singleton.mp htype)).append (by decide)
  | invalidExpression message => exact List.forall_mem_singleton.mp h
  | belowMinimum min value | aboveMaximum max value =>
      exact ((Unbroken.append (by decide) (Binary64.unbroken_toText _)).append (by decide)).append
        (List.forall_mem_singleton.mp h)
  | wrongCount parameter expected got =>
      have hparameter := List.forall_mem_singleton.mp h
      exact ((((Unbroken.append (by decide) hparameter).append (by decide)).append
        (unbroken_ofNat expected)).append (by decide)).append (unbroken_ofNat got)
  | duplicateProperty key sectionName =>
      obtain ⟨hkey, hname⟩ := List.forall_mem_cons.mp h
      exact (((Unbroken.append (by decide) hkey).append (by decide)).append
        (List.forall_mem_singleton.mp hname)).append (by decide)
  | duplicateNode name otherLines =>
      have hlines : (join ", ".toList (otherLines.map ofNat)).Unbroken :=
        unbroken_join (by decide) (List.forall_mem_map.mpr fun n _ => unbroken_ofNat n)
      exact (((Unbroken.append (by decide) (List.forall_mem_singleton.mp h)).append
        (by decide)).append hlines).append (by decide)
  | invalidVersion | invalidCoordinates | invalidSequence | linkUpwards => exact of_decide_eq_true rfl

theorem unbroken_code : f.code.Unbroken := by
  cases f with
  | invalidProperty name => exact Unbroken.append (by decide) (List.forall_mem_singleton.mp h)
  | _ => exact of_decide_eq_true rfl

end Finding

/-! ## Schemas -/

/-- The names that a schema asks for, and its outputs, stay on one line. -/
structure Schema.IsUnbroken (schema : Schema) : Prop where
  sections : ∀ spec ∈ schema.sections,
    spec.name.Unbroken ∧ ∀ property ∈ spec.properties, property.name.Unbroken
  required : ∀ type ∈ schema.nodeTypes, ∀ name ∈ type.2.required, name.Unbroken
  outputs : schema.HasUnbrokenOutputs

/-- The default schema has no line feed in its names. -/
theorem Schema.isUnbroken_default : Schema.default.IsUnbroken :=
  ⟨by decide +kernel, by decide +kernel, by decide +kernel⟩

namespace Lint

/-! ## Checks -/

/-- What is found quotes nothing with a line feed in it. -/
def QuotesUnbroken (l : Located) : Prop := ∀ s ∈ l.finding.quoted, s.Unbroken

variable {schema : Schema} {m : Model} {l : Located}

/-- What is found in the sections quotes their names and keys. -/
theorem quotesUnbroken_of_mem_findSections (hschema : schema.IsUnbroken)
    (h : l ∈ findSections schema m) : QuotesUnbroken l := by
  obtain ⟨spec, hspec, h⟩ := List.mem_flatMap.mp h
  obtain ⟨hname, hproperties⟩ := hschema.sections spec hspec
  unfold checkSection at h
  split at h
  · obtain ⟨property, hproperty, h⟩ := List.mem_flatMap.mp h
    have hproperty := hproperties property hproperty
    unfold checkProperty at h
    split at h
    · simp only [List.mem_ite_nil_right, List.mem_singleton] at h
      exact h.2 ▸ List.forall_mem_singleton.mpr hproperty
    · simp only [List.mem_append, List.mem_ite_nil_left, List.mem_ite_nil_right,
        List.mem_singleton] at h
      rcases h with ⟨-, rfl⟩ | ⟨-, rfl⟩
      · exact List.forall_mem_singleton.mpr hproperty
      · exact List.forall_mem_nil _
  · simp only [List.mem_ite_nil_right, List.mem_singleton] at h
    exact h.2 ▸ List.forall_mem_singleton.mpr hname

section Nodes

variable {node : Node} {p : Property} (hp : p.key.Unbroken ∧ p.value.Unbroken)

include hp

/-- A value beyond a bound is quoted with the bound. -/
theorem quotesUnbroken_of_mem_checkBounds {spec : ParameterSpec} {value : Binary64}
    (h : l ∈ checkBounds spec p value) : QuotesUnbroken l := by
  have hvalue := List.forall_mem_singleton.mpr hp.2
  rcases List.mem_append.mp h with h | h
  · split at h
    · simp only [List.mem_ite_nil_right, List.mem_singleton] at h
      exact h.2 ▸ hvalue
    · cases h
  · split at h
    · simp only [List.mem_ite_nil_right, List.mem_singleton] at h
      exact h.2 ▸ hvalue
    · cases h

theorem quotesUnbroken_of_mem_checkNumber {spec : ParameterSpec}
    (h : l ∈ checkNumber schema spec p) : QuotesUnbroken l := by
  unfold checkNumber at h
  split at h
  · exact List.mem_singleton.mp h ▸ List.forall_mem_singleton.mpr hp.2
  · split at h
    · exact quotesUnbroken_of_mem_checkBounds hp h
    · cases h

theorem quotesUnbroken_of_mem_checkInteger {spec : ParameterSpec}
    (h : l ∈ checkInteger schema spec p) : QuotesUnbroken l := by
  unfold checkInteger at h
  split at h
  · exact List.mem_singleton.mp h ▸ List.forall_mem_singleton.mpr hp.2
  · split at h
    · exact quotesUnbroken_of_mem_checkBounds hp h
    · exact List.mem_singleton.mp h ▸ List.forall_mem_singleton.mpr hp.2

theorem quotesUnbroken_of_mem_checkSequence {spec : ParameterSpec}
    (h : l ∈ checkSequence schema spec p) : QuotesUnbroken l := by
  rcases List.mem_append.mp h with h | h
  · simp only [List.mem_ite_nil_left, List.mem_singleton] at h
    exact h.2 ▸ List.forall_mem_nil _
  · split at h
    · simp only [List.mem_ite_nil_left, List.mem_singleton] at h
      exact h.2 ▸ List.forall_mem_singleton.mpr hp.1
    · cases h

variable (hschema : schema.IsUnbroken) (hm : m.IsUnbroken) (hnode : node.body.IsUnbroken)

include hschema hm hnode

/-- What is found in a value quotes the value, or a message for its expression. -/
theorem quotesUnbroken_of_mem_checkValue {spec : ParameterSpec}
    (h : l ∈ checkValue schema m node spec p) : QuotesUnbroken l := by
  unfold checkValue checkValueWith at h
  split at h
  · obtain ⟨message, hmessage, rfl⟩ := List.mem_map.mp h
    have hcontext : (Context.node m schema node.body).IsUnbroken :=
      .node hm hschema.outputs hnode
    exact List.forall_mem_singleton.mpr
      (Expression.unbroken_messages hcontext hp.2 message hmessage)
  · simp only [Id.run_pure, List.mem_ite_nil_left, List.mem_singleton] at h
    exact h.2 ▸ List.forall_mem_nil _
  · exact quotesUnbroken_of_mem_checkNumber hp h
  · exact quotesUnbroken_of_mem_checkInteger hp h
  · exact quotesUnbroken_of_mem_checkSequence hp h
  all_goals cases h

/-- What is found in a parameter quotes its key, its value and the type of its node. -/
theorem quotesUnbroken_of_mem_checkParameter {type : Text × NodeType} (htype : type.1.Unbroken)
    (h : l ∈ checkParameter schema m node type p) : QuotesUnbroken l := by
  unfold checkParameter checkParameterWith at h
  split at h
  · cases h
  split at h
  · rw [Id.run_pure, List.mem_singleton] at h
    exact h ▸ List.forall_mem_cons.mpr ⟨hp.1, List.forall_mem_singleton.mpr htype⟩
  split at h
  · cases h
  · exact quotesUnbroken_of_mem_checkValue hp hschema hm hnode h

end Nodes

/-- What is found in a node quotes its name as well. -/
theorem quotesUnbroken_of_mem_checkNode {node : Node} (hschema : schema.IsUnbroken)
    (hm : m.IsUnbroken) (hnode : node.name.Unbroken ∧ node.body.IsUnbroken)
    (h : l ∈ checkNode schema m node) : QuotesUnbroken l := by
  unfold checkNode checkNodeWith at h
  split at h
  · rw [Id.run_pure, List.mem_singleton] at h
    exact h ▸ List.forall_mem_singleton.mpr hnode.1
  · next type htype =>
      have htype := hnode.2.nodeType? htype
      split at h
      · rw [Id.run_pure, List.mem_singleton] at h
        exact h ▸ List.forall_mem_singleton.mpr htype
      · next t ht =>
          rw [checkTypedWith_eq saysAlone_sayAnew, Id.run_pure] at h
          rcases List.mem_append.mp h with h | h
          · obtain ⟨name, hname, h⟩ := List.mem_flatMap.mp h
            simp only [checkRequired, List.mem_ite_nil_left, List.mem_singleton] at h
            have hname := hschema.required _ (Schema.mem_of_nodeType? ht) name hname
            exact h.2 ▸ List.forall_mem_cons.mpr ⟨hnode.1, List.forall_mem_singleton.mpr hname⟩
          · obtain ⟨p, hp, h⟩ := List.mem_flatMap.mp h
            have hp := hnode.2.property p (mem_latestBy_iff.mp hp).mem
            exact quotesUnbroken_of_mem_checkParameter hp hschema hm hnode.2 htype h

/-- What is found of outputs quotes them, or the name of a node in them. -/
theorem quotesUnbroken_of_mem_findOutputs (hschema : schema.IsUnbroken) (hm : m.IsUnbroken)
    (h : l ∈ findOutputs schema m) : QuotesUnbroken l := by
  obtain ⟨entry, hentry, h⟩ := List.mem_flatMap.mp h
  have htext := hm.output entry hentry
  unfold checkOutput at h
  split at h
  · exact List.mem_singleton.mp h ▸ List.forall_mem_singleton.mpr htext
  · split at h
    · next hresolve =>
        have hquoted := Reference.unbroken_of_resolve htext hm hschema.outputs hresolve
        exact List.mem_singleton.mp h ▸ hquoted
    · cases h

/-- So are the links of a node, whichever of them are wrong. -/
theorem quotesUnbroken_of_mem_links (hm : m.IsUnbroken) {isWrong : Node → Property → Bool}
    {finding : Property → Finding} (hfinding : ∀ p, ∀ s ∈ (finding p).quoted, s = p.value)
    (h : l ∈ m.nodes.flatMap fun node =>
      (node.body.properties.filter fun p => isLink p && isWrong node p).map fun p =>
        ⟨p.line, finding p⟩) : QuotesUnbroken l := by
  obtain ⟨node, hnode, h⟩ := List.mem_flatMap.mp h
  obtain ⟨p, hp, rfl⟩ := List.mem_map.mp h
  have hbody := (hm.node (mem_latestBy_iff.mp hnode).mem).2
  have hvalue := (hbody.property p (mem_latestBy_iff.mp (List.mem_filter.mp hp).1).mem).2
  exact fun s hs => hfinding p s hs ▸ hvalue

/-- Every check of a model quotes what stays on one line. -/
theorem quotesUnbroken_of_mem_find (hschema : schema.IsUnbroken) (hm : m.IsUnbroken) {check : Check}
    (h : l ∈ check.find schema m) : QuotesUnbroken l := by
  cases check with
  | sections => exact quotesUnbroken_of_mem_findSections hschema h
  | nodes =>
      rw [Check.find, findNodes_eq] at h
      obtain ⟨node, hnode, h⟩ := List.mem_flatMap.mp h
      exact quotesUnbroken_of_mem_checkNode hschema hm (hm.node (mem_latestBy_iff.mp hnode).mem) h
  | duplicateProperties =>
      obtain ⟨s, hs, h⟩ := List.mem_flatMap.mp h
      obtain ⟨p, hp, rfl⟩ := List.mem_map.mp h
      have hbody := hm.body s hs
      have hkey := (hbody.property p (List.mem_filter.mp hp).1).1
      exact List.forall_mem_cons.mpr ⟨hkey, List.forall_mem_singleton.mpr hbody.name⟩
  | uniqueNodeNames =>
      obtain ⟨node, hnode, rfl⟩ := List.mem_map.mp h
      exact List.forall_mem_singleton.mpr (hm.node (List.mem_filter.mp hnode).1).1
  | references =>
      rcases List.mem_append.mp h with h | h
      · exact quotesUnbroken_of_mem_findOutputs hschema hm h
      · exact quotesUnbroken_of_mem_links hm (fun p s => List.mem_singleton.mp) h
  | nodeOrdering => exact quotesUnbroken_of_mem_links hm (fun p s hs => by cases hs) h
  | inputFiles => cases h

/-! ## Issues -/

/-- The message and the rule stay on one line. -/
structure IsOneLine (i : Issue) : Prop where
  message : i.message.Unbroken
  rule : i.rule.Unbroken

/-- An issue of a finding that quotes no line feed stays on one line. -/
theorem isOneLine_of_mem_report {found : List Located} (h : ∀ l ∈ found, QuotesUnbroken l)
    {i : Issue} (hi : i ∈ report schema found) : IsOneLine i := by
  obtain ⟨l, hl, -, hmessage, hrule⟩ := exists_located_of_mem hi
  exact ⟨hmessage ▸ Finding.unbroken_message (h l hl), hrule ▸ Finding.unbroken_code (h l hl)⟩

end Lint

/-! ## Reports -/

namespace Report

open Lint

/-- The line of an issue: where it is and how grave, whatever it says, and the rule. -/
def IsLineOf (path : Text) (i : Issue) (line : Text) : Prop :=
  path ++ ':' :: ofNat i.line ++ ": ".toList ++ i.severity.toText ++ ": ".toList <+: line ∧
    " [".toList ++ i.rule ++ [']'] <:+ line

/-- The line that a report has of an issue is such a line. -/
theorem isLineOf_line (path : Text) (i : Issue) : IsLineOf path i (line path i) := by
  constructor
  · exact ⟨i.message ++ (" [".toList ++ i.rule ++ [']']), by simp only [line, Issue.detail, List.append_assoc]⟩
  · exact ⟨path ++ ':' :: ofNat i.line ++ ": ".toList ++ i.severity.toText ++ ": ".toList ++ i.message,
      by simp only [line, Issue.detail, List.append_assoc]⟩

/-- The line of an issue has no line feed if the path of the document has none. -/
theorem unbroken_line {path : Text} (hpath : path.Unbroken) {i : Issue} (hi : IsOneLine i) :
    (line path i).Unbroken := by
  have hseverity : i.severity.toText.Unbroken := by cases i.severity <;> decide
  have hdetail : i.detail.Unbroken :=
    ((((hseverity.append (by decide)).append hi.message).append (by decide)).append hi.rule).append
      (by decide)
  exact ((hpath.append (unbroken_cons (by decide) (unbroken_ofNat _))).append (by decide)).append
    hdetail

/-- The line with the counts has no line feed if the path of the document has none. -/
theorem unbroken_lastLine {path : Text} (hpath : path.Unbroken) (issues : List Issue) :
    (lastLine path issues).Unbroken :=
  (hpath.append (by decide)).append
    ((((unbroken_ofNat _).append (by decide)).append (unbroken_ofNat _)).append (by decide))

/-- The lines of a report are where its text is split, and nothing stands behind the last one. -/
theorem splitOn_render {path : Text} (hpath : path.Unbroken) {issues : List Issue}
    (h : ∀ i ∈ issues, IsOneLine i) :
    splitOn '\n' (render .lines path issues) = lines path issues ++ [[]] := by
  refine splitOn_ofLines fun line hline => ?_
  cases List.mem_append.mp hline with
  | inl hissue =>
      obtain ⟨i, hi, rfl⟩ := List.mem_map.mp hissue
      exact unbroken_line hpath (h i hi)
  | inr hlast => exact List.mem_singleton.mp hlast ▸ unbroken_lastLine hpath issues

end Report

/-! ## Linters -/

namespace Linter

open Lint

/-- Checking a document anew gives issues that stay on one line. -/
theorem isOneLine_anew {schema : Schema} (hschema : schema.IsUnbroken) :
    GoodAnew (fun _ issues => ∀ i ∈ issues, IsOneLine i) schema := by
  intro content base? onDisk clock mem i hi
  have hm := Model.isUnbroken_read content
  cases List.mem_append.mp hi with
  | inl hmodel =>
      obtain ⟨check, -, hi⟩ := List.mem_flatMap.mp hmodel
      exact isOneLine_of_mem_report (fun _ => quotesUnbroken_of_mem_find hschema hm) hi
  | inr hfiles =>
      cases base? with
      | none => cases hfiles
      | some base =>
          rw [checkInputFiles_eq_report] at hfiles
          refine isOneLine_of_mem_report (fun l hl => ?_) hfiles
          obtain ⟨entry, hentry, rfl⟩ := exists_of_mem_findMissingFiles hl
          exact List.forall_mem_singleton.mpr (hm.input entry hentry)

/-- Whatever a linter with the default schema has been asked before, and whatever stands in a
document, its report has one line for each issue, in the order of the issues, and then the counts of
errors and warnings, which add up to the number of issues. -/
theorem render_validate (capacity lifetime : Nat) (expressions : Expression.Cache)
    (history : List Step) (around : Surroundings) (content : Text) (base? : Option Text)
    {path : Text} (hpath : '\n' ∉ path) :
    let l := (withCaches .default capacity lifetime expressions).after history
    let issues := (l.validate around content base?).1
    ∃ (told : List Text) (errors warnings : Nat),
      splitOn '\n' (Report.render .lines path issues) =
          told ++ [path ++ ": ".toList ++ ofNat errors ++ " errors, ".toList ++ ofNat warnings ++
            " warnings".toList, []] ∧
        List.Forall₂ (Report.IsLineOf path) issues told ∧
        errors = issues.countP Issue.isError ∧ warnings = issues.countP Issue.isWarning ∧
        errors + warnings = issues.length := by
  intro l issues
  have hissues : ∀ i ∈ issues, IsOneLine i := by
    have hanew := isOneLine_anew Schema.isUnbroken_default
    have hl := keepsGood_after hanew capacity lifetime expressions history
    cases henabled : l.enabled with
    | false =>
        have hnone : issues = [] := by simp only [issues, validate_of_disabled henabled]
        exact hnone ▸ List.forall_mem_nil _
    | true => exact hl.validate hanew henabled around content base?
  refine ⟨issues.map (Report.line path), _, _, ?_, ?_, rfl, rfl,
    Report.countP_isError_add_isWarning issues⟩
  · rw [Report.splitOn_render hpath hissues, Report.lines, List.append_assoc]
    simp only [Report.lastLine, Issue.summary, List.append_assoc, List.singleton_append]
  · exact List.forall₂_map_right_iff.mpr (List.forall₂_same.mpr fun i _ => Report.isLineOf_line path i)

/-- A carriage return and a line separator of another kind stay where they are in the message about a
type that is not known, and three sections are missing: that makes five lines. -/
theorem render_validate_returns :
    let content := "[node.a]\r\ntype = b\r\u2028c\n".toList
    let l := (withCaches .default 1 1 (.empty 1)).after []
    let issues := (l.validate ⟨0, fun _ => false⟩ content none).1
    '\n' ∉ "a.ini".toList ∧ issues.length = 4 ∧
      ∃ told errors warnings, errors + warnings = issues.length ∧ told.length = issues.length ∧
        splitOn '\n' (Report.render .lines "a.ini".toList issues) =
          told ++ ["a.ini: ".toList ++ ofNat errors ++ " errors, ".toList ++ ofNat warnings ++
            " warnings".toList, []] := by
  intro content l issues
  have hpath : '\n' ∉ "a.ini".toList := by decide
  obtain ⟨told, errors, warnings, hlines, htold, -, -, hsum⟩ :=
    render_validate 1 1 (.empty 1) [] ⟨0, fun _ => false⟩ content none hpath
  exact ⟨hpath, by decide +kernel, told, errors, warnings, hsum, htold.length_eq.symm, hlines⟩

end Linter

end CatchmentLint
