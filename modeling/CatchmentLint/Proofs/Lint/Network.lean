import CatchmentLint.Proofs.Lint.Clean
import CatchmentLint.Proofs.Model.Reading
import Mathlib.Logic.Relation

/-!
# CatchmentLint.Proofs.Lint.Network

The links of a model as a network: each node leads to the nodes that its links name.

* `links_quiet_iff` — the checks tell no issue on a link just where every link leads down the file to
  a node that is declared;
* `headerAt_of_transGen` — so following links leads down the file too, however many of them;
* `not_transGen_self` — and no node is its own descendant.
-/

namespace CatchmentLint.Lint

variable {schema : Schema} {m : Model}

/-! ## The network -/

/-- A link that counts: the latest property of its key, in the latest section of its node. -/
structure IsLinkOf (m : Model) (node : Node) (p : Property) : Prop where
  node_latest : IsLatest Node.name node m.declaredNodes
  property_latest : IsLatest Property.key p node.body.occurrences
  key : "ds_".toList <+: p.key

/-- An edge of the network. -/
def Feeds (m : Model) (upper lower : Text) : Prop :=
  ∃ node p, IsLinkOf m node p ∧ node.name = upper ∧ p.value = lower

theorem isLinkOf_iff {node : Node} {p : Property} : IsLinkOf m node p ↔
    node ∈ m.nodes ∧ p ∈ node.body.properties ∧ isLink p = true := by
  rw [Model.nodes, Section.properties, mem_latestBy_iff, mem_latestBy_iff, isLink_iff]
  exact ⟨fun h => ⟨h.node_latest, h.property_latest, h.key⟩, fun h => ⟨h.1, h.2.1, h.2.2⟩⟩

instance (upper lower : Text) : Decidable (Feeds m upper lower) :=
  decidable_of_iff (∃ node ∈ m.nodes, ∃ p ∈ node.body.properties,
    isLink p = true ∧ node.name = upper ∧ p.value = lower) <| by
      simp only [Feeds, isLinkOf_iff, and_assoc, exists_and_left]

/-- The header that counts for a node stands at this line. -/
def HeaderAt (m : Model) (name : Text) (line : Nat) : Prop :=
  ∃ node, IsLatest Node.name node m.declaredNodes ∧ node.name = name ∧ node.body.startLine = line

/-- Every edge stays among the nodes that are declared, and leads down the file. -/
def LeadsDown (m : Model) : Prop :=
  ∀ upper lower, Feeds m upper lower →
    ∃ above below, HeaderAt m upper above ∧ HeaderAt m lower below ∧ above < below

theorem HeaderAt.unique {name : Text} {line line' : Nat} (h : HeaderAt m name line)
    (h' : HeaderAt m name line') : line = line' := by
  obtain ⟨node, hnode, hname, rfl⟩ := h
  obtain ⟨node', hnode', hname', rfl⟩ := h'
  have hfound := lastWith?_eq_some_iff.mpr ⟨hname, hnode⟩
  have hfound' := lastWith?_eq_some_iff.mpr ⟨hname', hnode'⟩
  rw [hfound] at hfound'
  rw [Option.some.inj hfound']

/-- All links that count are clean just where the edges lead down. -/
theorem leadsDown_iff :
    LeadsDown m ↔ ∀ node p, IsLinkOf m node p → LinkClean m node p := by
  constructor
  · intro h node p hlink
    obtain ⟨above, below, habove, ⟨target, htarget, hname, rfl⟩, hlt⟩ :=
      h node.name p.value ⟨node, p, hlink, rfl, rfl⟩
    have hline : above = node.body.startLine :=
      habove.unique ⟨node, hlink.node_latest, rfl, rfl⟩
    exact ⟨target, htarget, hname, hline ▸ hlt⟩
  · rintro h upper lower ⟨node, p, hlink, rfl, rfl⟩
    obtain ⟨target, htarget, hname, hlt⟩ := h node p hlink
    exact ⟨node.body.startLine, target.body.startLine, ⟨node, hlink.node_latest, rfl, rfl⟩,
      ⟨target, htarget, hname, rfl⟩, hlt⟩

/-- Following links, one or more of them, leads down the file. -/
theorem headerAt_of_transGen (h : LeadsDown m) {upper lower : Text}
    (hpath : Relation.TransGen (Feeds m) upper lower) :
    ∃ above below, HeaderAt m upper above ∧ HeaderAt m lower below ∧ above < below := by
  induction hpath with
  | single hedge => exact h _ _ hedge
  | tail _ hedge ih =>
      obtain ⟨above, between, habove, hbetween, hlt⟩ := ih
      obtain ⟨between', below, hbetween', hbelow, hlt'⟩ := h _ _ hedge
      have heq := hbetween.unique hbetween'
      exact ⟨above, below, habove, hbelow, by omega⟩

/-- Where every link leads down there is no cycle. -/
theorem not_transGen_self (h : LeadsDown m) (name : Text) : ¬Relation.TransGen (Feeds m) name name := by
  intro hcycle
  obtain ⟨above, below, habove, hbelow, hlt⟩ := headerAt_of_transGen h hcycle
  have heq := habove.unique hbelow
  omega

/-! ## Issues on links -/

/-- A link that counts stands at this line. -/
def OnLink (m : Model) (line : Nat) : Prop := ∃ node p, IsLinkOf m node p ∧ p.line = line

instance (line : Nat) : Decidable (OnLink m line) :=
  decidable_of_iff (∃ node ∈ m.nodes, ∃ p ∈ node.body.properties, isLink p = true ∧ p.line = line) <| by
    simp only [OnLink, isLinkOf_iff, and_assoc, exists_and_left]

/-- None of these issues is about a link. -/
def QuietOnLinks (m : Model) (issues : List Issue) : Prop := ∀ i ∈ issues, ¬OnLink m i.line

instance (issues : List Issue) : Decidable (QuietOnLinks m issues) :=
  inferInstanceAs (Decidable (∀ i ∈ issues, ¬OnLink m i.line))

theorem exists_issue_of_mem {found : List Located} {l : Located} (hl : l ∈ found)
    (h : LeavesEnabled schema l.finding.governor) :
    ∃ i ∈ report schema found,
      i.line = l.line ∧ i.message = l.finding.message ∧ i.rule = l.finding.code := by
  obtain ⟨severity, hissues⟩ := exists_issues_eq h l.line
  exact ⟨_, List.mem_flatMap.mpr ⟨l, hl, hissues ▸ List.mem_singleton_self _⟩, rfl, rfl, rfl⟩

/-- What is told was found, at its line and with its message and code. -/
theorem exists_located_of_mem {found : List Located} {i : Issue} (hi : i ∈ report schema found) :
    ∃ l ∈ found, i.line = l.line ∧ i.message = l.finding.message ∧ i.rule = l.finding.code := by
  obtain ⟨l, hl, hmem⟩ := List.mem_flatMap.mp hi
  unfold Finding.issues at hmem
  split at hmem
  · rw [List.mem_singleton.mp hmem]
    exact ⟨l, hl, rfl, rfl, rfl⟩
  · contradiction

theorem line_of_mem_findOutputs {l : Located} (hl : l ∈ findOutputs schema m) :
    ∃ entry ∈ m.outputs, l.line = entry.line := by
  obtain ⟨entry, hentry, hmem⟩ := List.mem_flatMap.mp hl
  rcases eq_of_mem_checkOutput hmem with rfl | ⟨name, rfl⟩ <;> exact ⟨entry, hentry, rfl⟩

/-- A link that counts is looked at, and what is wrong with it is found at its line. -/
theorem mem_found_of_isLinkOf {node : Node} {p : Property} (hlink : IsLinkOf m node p)
    {isWrong : Node → Property → Bool} (finding : Property → Finding)
    (h : isWrong node p = true) :
    (⟨p.line, finding p⟩ : Located) ∈ m.nodes.flatMap fun node =>
      (node.body.properties.filter fun p => isLink p && isWrong node p).map fun p =>
        ⟨p.line, finding p⟩ := by
  obtain ⟨hnode, hp, hkey⟩ := isLinkOf_iff.mp hlink
  have hwrong : p ∈ node.body.properties.filter fun p => isLink p && isWrong node p :=
    List.mem_filter.mpr ⟨hp, by rw [hkey, h]; rfl⟩
  exact List.mem_flatMap_of_mem hnode (List.mem_map_of_mem hwrong)

/-- Where the two checks are quiet on links, every edge leads down. -/
theorem leadsDown_of_quiet (hreferences : LeavesEnabled schema "dsnode_references".toList)
    (hordering : LeavesEnabled schema "node_ordering".toList)
    (hquiet : QuietOnLinks m
      (Check.references.issues schema m ++ Check.nodeOrdering.issues schema m)) : LeadsDown m := by
  rw [leadsDown_iff]
  intro node p hlink
  rw [linkClean_iff]
  constructor
  · cases hnode : m.hasNode p.value with
    | true => rfl
    | false =>
        have hfound : _ ∈ findDanglingLinks m :=
          mem_found_of_isLinkOf hlink (fun p => .unknownLinkTarget p.value) (by rw [hnode]; rfl)
        obtain ⟨i, hi, hline, -⟩ :=
          exists_issue_of_mem (List.mem_append_right (findOutputs schema m) hfound) hreferences
        exact absurd ⟨node, p, hlink, hline.symm⟩ (hquiet i (List.mem_append_left _ hi))
  · cases hupwards : leadsUpwards m node p with
    | false => rfl
    | true =>
        have hfound : _ ∈ findUpwardLinks m :=
          mem_found_of_isLinkOf hlink (fun _ => .linkUpwards) hupwards
        obtain ⟨i, hi, hline, -⟩ := exists_issue_of_mem hfound hordering
        exact absurd ⟨node, p, hlink, hline.symm⟩ (hquiet i (List.mem_append_right _ hi))

/-! ## Links that lead down -/

theorem body_mem_of_declared {node : Node} (h : node ∈ m.declaredNodes) : node.body ∈ m.sections := by
  obtain ⟨s, hs, hnode⟩ := List.mem_filterMap.mp h
  obtain ⟨name, -, rfl⟩ := Option.map_eq_some_iff.mp hnode
  exact hs

/-- No output stands on the line of a link. -/
theorem not_onLink_of_mem_outputs {content : Text} {entry : Entry}
    (hentry : entry ∈ (Model.read content).outputs) : ¬OnLink (Model.read content) entry.line := by
  rintro ⟨node, p, hlink, hline⟩
  have hs := body_mem_of_declared hlink.node_latest.mem
  obtain ⟨i, hi⟩ := Lines.exists_propertyAt? hs hlink.property_latest.mem
  obtain ⟨j, hj⟩ : ∃ j, Lines.entryAt? (Text.lines content) j = some entry :=
    Lines.exists_entryAt? hentry
  exact Lines.line_ne_of_propertyAt? hi hj hline

/-- Where every edge leads down, the two checks are quiet on links. -/
theorem quiet_of_leadsDown {content : Text} (h : LeadsDown (Model.read content)) :
    QuietOnLinks (Model.read content) (Check.references.issues schema (Model.read content) ++
      Check.nodeOrdering.issues schema (Model.read content)) := by
  obtain ⟨hdangling, hupwards⟩ := findLinks_eq_nil_iff.mpr fun node hnode p hp hkey =>
    leadsDown_iff.mp h node p ⟨hnode, hp, hkey⟩
  have hordering : Check.nodeOrdering.issues schema (Model.read content) = [] := by
    rw [Check.issues, Check.find, hupwards]
    rfl
  rw [hordering, List.append_nil, Check.issues, Check.find, findReferences, hdangling,
    List.append_nil]
  intro i hi
  obtain ⟨l, hl, hline, -⟩ := exists_located_of_mem hi
  obtain ⟨entry, hentry, hline'⟩ := line_of_mem_findOutputs hl
  rw [hline, hline']
  exact not_onLink_of_mem_outputs hentry

/-! ## Linters -/

/-- The checks of references and of order, where their rules are on, tell no issue on a link just
where every link leads down the file to a node that is declared; and then no node leads back to
itself, through however many others. -/
theorem links_quiet_iff (around : Surroundings) (base? : Option Text) (l : Linter) (content : Text)
    (hreferences : LeavesEnabled l.schema "dsnode_references".toList)
    (hordering : LeavesEnabled l.schema "node_ordering".toList) :
    let m := Model.read content
    let issues := (l.runCheck around m base? .references).1 ++
      (l.runCheck around m base? .nodeOrdering).1
    (QuietOnLinks m issues ↔ LeadsDown m) ∧
      (QuietOnLinks m issues → ∀ name, ¬Relation.TransGen (Feeds m) name name) := by
  intro m issues
  have hissues : issues = Check.references.issues l.schema m ++ Check.nodeOrdering.issues l.schema m := by
    simp only [issues, Linter.runCheck_of_ne (by decide : Check.references ≠ .inputFiles),
      Linter.runCheck_of_ne (by decide : Check.nodeOrdering ≠ .inputFiles)]
  rw [hissues]
  have hdown := leadsDown_of_quiet (m := m) hreferences hordering
  exact ⟨⟨hdown, quiet_of_leadsDown⟩, fun hquiet => not_transGen_self (hdown hquiet)⟩

/-- Two nodes upstream of a third; what is hidden of them would lead upwards. -/
def hiddenLoop : Text :=
  ("[node.a]\nds_1 = a\n[node.b]\nds_1 = b\nds_1 = a\n[node.a]\nds_1 = c\nds_2 = c\n" ++
    "[node.c]\n[outputs]\nnowhere\n").toList

theorem links_quiet_hiddenLoop :
    let m := Model.read hiddenLoop
    LeavesEnabled Schema.default "dsnode_references".toList ∧
      LeavesEnabled Schema.default "node_ordering".toList ∧
      Feeds m "b".toList "a".toList ∧ Feeds m "a".toList "c".toList ∧
      ∀ name, ¬Relation.TransGen (Feeds m) name name := by
  intro m
  have hreferences := allEnabled_default "dsnode_references".toList
  have hordering := allEnabled_default "node_ordering".toList
  have hread : m =
      ⟨[⟨"node.a".toList, 1, 2, [⟨"ds_1".toList, "a".toList, 2⟩]⟩,
        ⟨"node.b".toList, 3, 5,
          [⟨"ds_1".toList, "b".toList, 4⟩, ⟨"ds_1".toList, "a".toList, 5⟩]⟩,
        ⟨"node.a".toList, 6, 8,
          [⟨"ds_1".toList, "c".toList, 7⟩, ⟨"ds_2".toList, "c".toList, 8⟩]⟩,
        ⟨"node.c".toList, 9, 9, []⟩, ⟨"outputs".toList, 10, 11, []⟩],
        [], [⟨"nowhere".toList, 11⟩]⟩ := by
    decide +kernel
  have hquiet : QuietOnLinks m
      (((Linter.fresh Schema.default).runCheck ⟨0, fun _ => false⟩ m none .references).1 ++
        ((Linter.fresh Schema.default).runCheck ⟨0, fun _ => false⟩ m none .nodeOrdering).1) := by
    rw [hread]
    decide +kernel
  have hba : Feeds m "b".toList "a".toList := by
    rw [hread]
    decide +kernel
  have hac : Feeds m "a".toList "c".toList := by
    rw [hread]
    decide +kernel
  exact ⟨hreferences, hordering, hba, hac,
    (links_quiet_iff _ none (.fresh Schema.default) hiddenLoop hreferences hordering).2 hquiet⟩

end CatchmentLint.Lint
