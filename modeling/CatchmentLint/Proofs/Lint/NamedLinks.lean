import CatchmentLint.Proofs.Lint.Rules
import CatchmentLint.Proofs.Model.Comments
import CatchmentLint.Proofs.Model.Layout
import CatchmentLint.Proofs.Model.Views

/-!
# CatchmentLint.Proofs.Lint.NamedLinks

Links that name a node just as its header does.

* `kept_of_read_header` — what a header keeps of a name is kept wherever a scan starts with it, so that
  a link keeps it too;
* `read_linkLine` — the line of a link says the name, without the blank characters before it;
* `references_quiet_of_hasNode` — the check of references tells nothing of a link to a node that is
  declared;
* `link_by_name` — a link leads to the node that its header names, but where that name starts with a
  blank character, which is no part of any value.
-/

namespace CatchmentLint

namespace Line

/-! ## Names in headers -/

/-- What a header says behind a first part that neither quotes nor escapes is kept by a scan, and
does not end blank. -/
theorem kept_of_read_header {raw lead name : Text} (h : read raw = .header (lead ++ name))
    (hquote : '"' ∉ lead) (hescape : '\\' ∉ lead) :
    stripComment name = name ∧ StartsOutside isBlank name.reverse := by
  have hheader := Lines.headerName?_of_header h
  obtain ⟨inner, hinner, -⟩ := isSome_headerName?_iff.mp (Option.isSome_of_eq_some hheader)
  have htrim : Text.trim inner = lead ++ name := by
    rw [hinner, headerName?_bracketed] at hheader
    split at hheader
    · contradiction
    · exact Option.some.inj hheader
  constructor
  · obtain ⟨before, after, hstripped, hbefore, -⟩ := Text.exists_eq_append_trim (stripComment raw)
    obtain ⟨before', after', hinner', hbefore', -⟩ := Text.exists_eq_append_trim inner
    have hsplit : stripComment raw =
        (before ++ '[' :: (before' ++ lead)) ++ (name ++ (after' ++ ']' :: after)) := by
      rw [hstripped, hinner, bracketed, hinner', htrim]
      simp
    have hkept : stripComment (stripComment raw) = stripComment raw := stripFrom_stripFrom .start raw
    rw [hsplit, stripComment, stripFrom_append_eq_iff, foldl_step_start] at hkept
    · exact (stripFrom_append_eq_iff.mp hkept.2).1
    · have hblank : ∀ s : Text, (∀ c ∈ s, isBlank c = true) → '"' ∉ s :=
        fun s hs hmem => absurd (hs _ hmem) (by decide)
      simp [hblank _ hbefore, hblank _ hbefore', hquote]
    · have hblank : ∀ s : Text, (∀ c ∈ s, isBlank c = true) → '\\' ∉ s :=
        fun s hs hmem => absurd (hs _ hmem) (by decide)
      simp [hblank _ hbefore, hblank _ hbefore', hescape]
  · have hends := (Text.trimmed_trim inner).ends
    rw [htrim, List.reverse_append] at hends
    exact hends.of_isPrefix (List.prefix_append _ _)

/-! ## Lines of links -/

/-- The line that links to a node of this name. -/
def linkLine (name : Text) : Text := "ds_1 = ".toList ++ name

theorem isContinuation_linkLine (name : Text) : isContinuation (linkLine name) = false := rfl

/-- The line says the name without the blank characters before it. -/
theorem read_linkLine {name : Text} (hkept : stripComment name = name) (hne : name ≠ [])
    (hends : StartsOutside isBlank name.reverse) :
    read (linkLine name) = .keyValue "ds_1".toList (Text.trim name) := by
  have hscan : "ds_1 = ".toList.foldl Scan.step .start = .start := by decide
  have hstrip : stripComment (linkLine name) = linkLine name := by
    refine stripFrom_append_eq_iff.mpr ⟨by decide, ?_⟩
    rw [hscan]
    exact hkept
  have hstarts : StartsOutside isBlank "ds_1 = ".toList := by decide
  have htrim : Text.trim (linkLine name) = linkLine name :=
    Text.trim_of_trimmed (Text.trimmed_append hstarts (by decide) hends hne)
  have hheader : headerName? (linkLine name) = none := rfl
  have hcut : Text.cut? '=' (linkLine name) = some ("ds_1 ".toList, ' ' :: name) :=
    Text.cut?_eq_some_iff.mpr ⟨rfl, by decide⟩
  have hkey : Text.trim "ds_1 ".toList = "ds_1".toList := by decide
  have hvalue : Text.trim (' ' :: name) = Text.trim name := rfl
  have hnonempty : linkLine name ≠ [] := List.cons_ne_nil _ _
  rw [read, hstrip, classify]
  simp only [htrim, hnonempty, hheader, hcut, if_false]
  rw [hkey, hvalue, if_neg (by decide)]

end Line

/-! ## Statements that are continued -/

namespace Statement

/-- A statement says what its first line says just where nothing is added to it. -/
theorem fullText_eq_iff {text : Text} {continuations : List Text} :
    fullText text continuations = text ↔
      ∀ raw ∈ continuations, Line.continuationText raw = [] := by
  have hadded : ∀ (parts : List Text) (text : Text),
      text.length ≤ (parts.foldl addContinuation text).length ∧
        ((parts.foldl addContinuation text).length = text.length → ∀ part ∈ parts, part = []) := by
    intro parts
    induction parts with
    | nil => exact fun text => ⟨Nat.le_refl _, fun _ => List.forall_mem_nil _⟩
    | cons part parts ih =>
        intro text
        obtain ⟨hle, hnil⟩ := ih (addContinuation text part)
        have hpart : text.length + part.length ≤ (addContinuation text part).length := by
          unfold addContinuation
          grind
        rw [List.foldl_cons]
        refine ⟨by omega, fun heq => List.forall_mem_cons.mpr ⟨?_, hnil (by omega)⟩⟩
        exact List.eq_nil_of_length_eq_zero (by omega)
  constructor
  · intro h raw hraw
    exact (hadded _ text).2 (congrArg List.length h) _ (List.mem_map_of_mem hraw)
  · intro h
    have hparts : continuations.map Line.continuationText = continuations.map fun _ => [] :=
      List.map_congr_left h
    rw [fullText, hparts]
    clear h hparts
    induction continuations with
    | nil => rfl
    | cons raw continuations ih => exact ih

end Statement

namespace Lines

variable {lines : List Text}

/-! ## Statements where they stand -/

theorem isConsumed_of_isContinuation {i : Nat} (h : Line.isContinuation (rawAt lines i) = false) :
    isConsumed lines i = false := by
  cases i with
  | zero => rfl
  | succ i => rw [isConsumed_succ, h, Bool.false_and]

/-- A property that continues nothing is recorded under a header, with what is added to it. -/
theorem propertyAt?_of_read {above below : List Text} {raw key value : Text} {header : Nat × Text}
    (hlines : lines = above ++ raw :: below) (hread : Line.read raw = .keyValue key value)
    (hfree : Line.isContinuation raw = false)
    (habove : headerAbove? lines above.length = some header) :
    propertyAt? lines above.length =
      some ⟨key, Statement.fullText value (below.takeWhile Line.isContinuation),
        above.length + 1⟩ := by
  have hsaid : saidAt lines above.length = .keyValue key value := by
    rw [saidAt, rawAt_length hlines, hread]
  have hconsumed : isConsumed lines above.length = false :=
    isConsumed_of_isContinuation (by rw [rawAt_length hlines, hfree])
  have hrecorded : isRecorded lines above.length = true := by
    rw [isRecorded, hconsumed, isStatement_of_keyValue hsaid, habove]
    rfl
  rw [propertyAt?, hrecorded, hsaid]
  simp only [fullText_eq hlines hrecorded]

/-- Each header opens a section, in which all properties stand that it is the nearest header of. -/
theorem exists_section_of_headerAt? {content : Text} {i : Nat} {name : Text}
    (hi : i < (Text.lines content).length) (h : headerAt? (Text.lines content) i = some name) :
    ∃ s ∈ (Model.read content).sections, s.name = name ∧ s.startLine = i + 1 ∧
      s.occurrences = propertiesUnder (Text.lines content) i := by
  have hparts : (name, i + 1, propertiesUnder (Text.lines content) i) ∈
      (Model.read content).sections.map sectionParts := by
    rw [Model.read, Model.ofStatements, ofLines_lines, sections_eq (Nat.zero_add _)]
    exact List.mem_filterMap.mpr ⟨i, List.mem_range'_1.mpr (by omega), by rw [h]; rfl⟩
  obtain ⟨s, hs, heq⟩ := List.mem_map.mp hparts
  simp only [sectionParts, Prod.mk.injEq] at heq
  exact ⟨s, hs, heq⟩

theorem mem_propertiesUnder {i : Nat} {header : Nat × Text} {p : Property}
    (hi : i < lines.length) (habove : headerAbove? lines i = some header)
    (h : propertyAt? lines i = some p) : p ∈ propertiesUnder lines header.1 :=
  List.mem_filterMap.mpr ⟨i, List.mem_range.mpr hi, by rw [habove, Option.map_some, if_pos rfl, h]⟩

end Lines

/-! ## What is told of a link -/

namespace Lint

/-- The check of references tells nothing at a property that names a node that is declared. -/
theorem references_quiet_of_hasNode {schema : Schema} {content : Text} {s : Section} {p : Property}
    (hs : s ∈ (Model.read content).sections) (hp : p ∈ s.occurrences)
    (h : (Model.read content).hasNode p.value = true) :
    ∀ i ∈ Check.references.issues schema (Model.read content), i.line ≠ p.line := by
  intro i hi hline
  obtain ⟨l, hl, hline', -⟩ := exists_located_of_mem hi
  obtain ⟨j, hj⟩ := Lines.exists_propertyAt? hs hp
  rw [hline'] at hline
  rcases List.mem_append.mp hl with hl | hl
  · obtain ⟨entry, hentry, hentryLine⟩ := line_of_mem_findOutputs hl
    exact not_onOutput_of_mem hs hp ⟨entry, hentry, hentryLine ▸ hline⟩
  · obtain ⟨node, hnode, hl⟩ := List.mem_flatMap.mp hl
    obtain ⟨q, hq, rfl⟩ := List.mem_map.mp hl
    obtain ⟨hq, hdangling⟩ := List.mem_filter.mp hq
    have hbody := body_mem_of_declared (mem_latestBy_iff.mp hnode).mem
    obtain ⟨k, hk⟩ := Lines.exists_propertyAt? hbody (mem_latestBy_iff.mp hq).mem
    rw [Lines.eq_of_propertyAt? hk hj hline, h] at hdangling
    simp at hdangling

end Lint

/-! ## Links by name -/

/-- Under a header of the node `carrier`, behind `above`, a line of the document links to `name`. -/
structure HasLinkLine (document carrier name : Text) (above below : List Text) : Prop where
  lines_eq : Text.lines document = above ++ Line.linkLine name :: below
  header : ∃ header, Lines.headerAbove? (Text.lines document) above.length = some header ∧
    Section.declaredNode? header.2 = some carrier

/-- No line that continues the one above `below` adds something to it. -/
def AddsNothing (below : List Text) : Prop :=
  ∀ raw ∈ below.takeWhile Line.isContinuation, Line.continuationText raw = []

theorem mem_declaredNodes_iff {m : Model} {node : Node} : node ∈ m.declaredNodes ↔
    node.body ∈ m.sections ∧ Section.declaredNode? node.body.name = some node.name := by
  constructor
  · intro h
    obtain ⟨s, hs, hnode⟩ := List.mem_filterMap.mp h
    obtain ⟨name, hname, rfl⟩ := Option.map_eq_some_iff.mp hnode
    exact ⟨hs, hname⟩
  · rintro ⟨hs, hname⟩
    refine List.mem_filterMap.mpr ⟨node.body, hs, ?_⟩
    rw [Section.nodeName?, hname]
    rfl

/-- What a header says behind `node.` is the name of a node. -/
theorem kept_of_mem_declaredNodes {content : Text} {node : Node}
    (h : node ∈ (Model.read content).declaredNodes) :
    Line.stripComment node.name = node.name ∧ node.name ≠ [] ∧
      StartsOutside isBlank node.name.reverse := by
  obtain ⟨hs, hname⟩ := mem_declaredNodes_iff.mp h
  obtain ⟨hne, hsection⟩ := IndexedSection.declaredNode?_eq_some_iff.mp hname
  obtain ⟨i, -, hheader, -⟩ := Lines.exists_headerAt? hs
  have hsaid := Lines.saidAt_of_headerAt? hheader
  rw [hsection, Lines.saidAt] at hsaid
  obtain ⟨hkept, hends⟩ := Line.kept_of_read_header hsaid (by decide) (by decide)
  exact ⟨hkept, hne, hends⟩

/-- A line that links to a node by the name that a header declares is a property of the node that
carries it, and leads to the node of that name just where the name starts with no blank character
and nothing is added to the line by those below it.  Where it leads there, and the node is declared,
the check of references finds the node and tells nothing of the link. -/
theorem link_by_name {content document carrier : Text} {node : Node} {above below : List Text}
    (hnode : node ∈ (Model.read content).declaredNodes)
    (hlink : HasLinkLine document carrier node.name above below) :
    let m := Model.read document
    ∃ upstream ∈ m.declaredNodes, upstream.name = carrier ∧
      ∃ p ∈ upstream.body.occurrences, p.key = "ds_1".toList ∧ p.line = above.length + 1 ∧
        (p.value = node.name ↔ StartsOutside isBlank node.name ∧ AddsNothing below) ∧
        (p.value = node.name → (∃ target ∈ m.declaredNodes, target.name = node.name) →
          (∃ found, m.node? p.value = some found ∧ found.name = node.name) ∧
            ∀ (l : Linter) around base?,
              ∀ i ∈ (l.runCheck around m base? .references).1, i.line ≠ p.line) := by
  intro m
  obtain ⟨hkept, hne, hends⟩ := kept_of_mem_declaredNodes hnode
  obtain ⟨header, habove, hcarrier⟩ := hlink.header
  -- The line is read by itself, and the header above it says whose property it is.
  have hp := Lines.propertyAt?_of_read hlink.lines_eq (Line.read_linkLine hkept hne hends)
    (Line.isContinuation_linkLine _) habove
  have hlength : above.length < (Text.lines document).length := by
    rw [hlink.lines_eq, List.length_append, List.length_cons]
    omega
  have hheader := Lines.headerAbove?_lt habove
  obtain ⟨s, hs, hname, -, hoccurrences⟩ :=
    Lines.exists_section_of_headerAt? (by omega) (Lines.headerAt?_of_headerAbove? habove)
  have hmem := Lines.mem_propertiesUnder hlength habove hp
  rw [← hoccurrences] at hmem
  refine ⟨⟨carrier, s⟩, mem_declaredNodes_iff.mpr ⟨hs, hname ▸ hcarrier⟩, rfl, _, hmem, rfl, rfl,
    ?_, fun hvalue hdeclared => ?_⟩
  · have htrimmed := (Lines.isTrimmed_of_propertyAt? hp).value
    constructor
    · intro hvalue
      rw [hvalue] at htrimmed
      rw [Text.trim_of_trimmed htrimmed] at hvalue
      exact ⟨htrimmed.starts, Statement.fullText_eq_iff.mp hvalue⟩
    · rintro ⟨hstarts, hnothing⟩
      rw [Text.trim_of_trimmed ⟨hstarts, hends⟩]
      exact Statement.fullText_eq_iff.mpr hnothing
  · rw [← hvalue] at hdeclared
    obtain ⟨found, hfound⟩ := Lint.exists_node?_iff.mp hdeclared
    refine ⟨⟨found, hfound, (lastWith?_eq_some_iff.mp hfound).1.trans hvalue⟩, fun l around base? => ?_⟩
    rw [Linter.runCheck_of_ne (by decide : Lint.Check.references ≠ .inputFiles)]
    exact Lint.references_quiet_of_hasNode hs hmem (Option.isSome_of_eq_some hfound)

/-- A link to a node whose name holds an equals sign, quotes and comment signs, with a comment on a
line that continues it. -/
theorem link_by_name_quoted :
    let document := "[node.b]\nds_1 = a = \"x;y\" \\# z\n  ; last\n[ node.a = \"x;y\" \\# z ] # end".toList
    let name := "a = \"x;y\" \\# z".toList
    ∃ upstream ∈ (Model.read document).declaredNodes, upstream.name = "b".toList ∧
      ∃ p ∈ upstream.body.occurrences, p.line = 2 ∧ p.value = name ∧
        ∀ (l : Linter) around base?,
          ∀ i ∈ (l.runCheck around (Model.read document) base? .references).1, i.line ≠ p.line := by
  intro document name
  have hnode : ⟨name, ⟨"node.".toList ++ name, 4, 4, []⟩⟩ ∈ (Model.read document).declaredNodes := by
    decide +kernel
  have hlink : HasLinkLine document "b".toList name ["[node.b]".toList]
      ["  ; last".toList, "[ node.a = \"x;y\" \\# z ] # end".toList] :=
    ⟨by decide +kernel, (0, "node.b".toList), by decide +kernel, by decide +kernel⟩
  obtain ⟨upstream, hupstream, hcarrier, p, hp, -, hline, hvalue, hquiet⟩ := link_by_name hnode hlink
  have hreached : p.value = name := hvalue.mpr ⟨by decide, by unfold AddsNothing; decide +kernel⟩
  exact ⟨upstream, hupstream, hcarrier, p, hp, hline, hreached, (hquiet hreached ⟨_, hnode, rfl⟩).2⟩

/-- A header whose name starts with a blank character declares a node that the line with its name
does not lead to, and the check of references tells of it. -/
theorem unreached_leading_blank :
    let document := "[node.b]\nds_1 =  a\n[node. a]\n".toList
    let m := Model.read document
    (∃ node ∈ m.declaredNodes, node.name = " a".toList) ∧
      HasLinkLine document "b".toList " a".toList ["[node.b]".toList] ["[node. a]".toList] ∧
      (∀ node ∈ m.declaredNodes, ∀ p ∈ node.body.occurrences, p.value ≠ " a".toList) ∧
      Lint.Check.references.issues Schema.default m =
        [⟨2, "Link points to non-existent node: a".toList, .error,
          "invalid_node_reference".toList⟩] := by
  intro document m
  have hlink : HasLinkLine document "b".toList " a".toList ["[node.b]".toList]
      ["[node. a]".toList] :=
    ⟨by decide +kernel, (0, "node.b".toList), by decide +kernel, by decide +kernel⟩
  exact ⟨by decide +kernel, hlink, by decide +kernel, by decide +kernel⟩

end CatchmentLint
