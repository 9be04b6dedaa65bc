import CatchmentLint.Proofs.Lint.Network
import CatchmentLint.Proofs.Lint.Session

/-!
# CatchmentLint.Proofs.Lint.Hidden

What the views of the latest elements hide, and that it is told.

* `mem_findDuplicateNodes`, `mem_findDuplicateProperties` — where a node or a property is hidden,
  all that have its name or key are found, the one that hides it among them;
* `nodes_eq_declaredNodes`, `properties_eq_occurrences` — and where none of them is told, none is
  hidden;
* `hidden_told` — so a linter that tells of neither lets its other checks see everything.
-/

namespace CatchmentLint.Lint

variable {schema : Schema} {m : Model}

/-! ## What is told -/

/-- One of the issues is that of the finding. -/
def Tells (issues : List Issue) (l : Located) : Prop :=
  ∃ i ∈ issues, i.line = l.line ∧ i.message = l.finding.message ∧ i.rule = l.finding.code

theorem Tells.of_subset {issues others : List Issue} {l : Located} (h : Tells issues l)
    (hsubset : issues ⊆ others) : Tells others l := by
  obtain ⟨i, hi, htold⟩ := h
  exact ⟨i, hsubset hi, htold⟩

theorem tells_of_mem_find (check : Check) {l : Located} (hcheck : check ∈ Check.all)
    (hl : l ∈ check.find schema m) (h : LeavesEnabled schema l.finding.governor) :
    Tells (modelIssues schema m) l := by
  have htold : Tells (check.issues schema m) l := exists_issue_of_mem hl h
  exact htold.of_subset fun i hi => List.mem_flatMap_of_mem hcheck hi

/-- What is told of a node whose name others have too. -/
def sharedName (m : Model) (node : Node) : Located :=
  ⟨node.body.startLine, .duplicateNode node.name
    ((declarationLines m node.name).filter (· != node.body.startLine))⟩

/-- What is told of a property whose key others in its section have too. -/
def sharedKey (s : Section) (p : Property) : Located := ⟨p.line, .duplicateProperty p.key s.name⟩

/-! ## What is hidden -/

/-- Where a node is hidden, all that have its name are found. -/
theorem mem_findDuplicateNodes {node other : Node}
    (h : m.nodes.count node < m.declaredNodes.count node) (hother : other ∈ m.declaredNodes)
    (hname : other.name = node.name) :
    sharedName m other ∈ findDuplicateNodes m := by
  have hshared := one_lt_countP_of_count_latestBy_lt h
  refine List.mem_map.mpr ⟨other, List.mem_filter.mpr ⟨hother, ?_⟩, rfl⟩
  rw [decide_eq_true_eq, declarationLines, List.length_map, ← List.countP_eq_length_filter, hname]
  exact hshared

/-- Where a property is hidden, all in its section that have its key are found. -/
theorem mem_findDuplicateProperties {s : Section} {p q : Property} (hs : s ∈ m.sections)
    (h : s.properties.count p < s.occurrences.count p) (hq : q ∈ s.occurrences)
    (hkey : q.key = p.key) : sharedKey s q ∈ findDuplicateProperties m := by
  have hshared := one_lt_countP_of_count_latestBy_lt h
  refine List.mem_flatMap_of_mem hs (List.mem_map.mpr ⟨q, List.mem_filter.mpr ⟨hq, ?_⟩, rfl⟩)
  rw [decide_eq_true_eq, hkey]
  exact hshared

theorem tells_of_mem_findDuplicateNodes {l : Located}
    (h : LeavesEnabled schema "duplicate_node_name".toList) (hl : l ∈ findDuplicateNodes m) :
    Tells (modelIssues schema m) l := by
  have hrule : l.finding.governor = "duplicate_node_name".toList := by
    obtain ⟨node, -, rfl⟩ := List.mem_map.mp hl
    rfl
  exact tells_of_mem_find .uniqueNodeNames (by decide) hl (hrule ▸ h)

theorem tells_of_mem_findDuplicateProperties {l : Located}
    (h : LeavesEnabled schema "duplicate_property".toList) (hl : l ∈ findDuplicateProperties m) :
    Tells (modelIssues schema m) l := by
  have hrule : l.finding.governor = "duplicate_property".toList := by
    obtain ⟨s, -, hs⟩ := List.mem_flatMap.mp hl
    obtain ⟨p, -, rfl⟩ := List.mem_map.mp hs
    rfl
  exact tells_of_mem_find .duplicateProperties (by decide) hl (hrule ▸ h)

/-- Where nothing is told of the names of nodes, none is hidden. -/
theorem nodes_eq_declaredNodes {issues : List Issue}
    (htold : ∀ l ∈ findDuplicateNodes m, Tells issues l)
    (h : ∀ i ∈ issues, i.rule ≠ "duplicate_node_name".toList) : m.nodes = m.declaredNodes := by
  rw [Model.nodes, latestBy_eq_self_iff, ← findDuplicateNodes_eq_nil_iff,
    List.eq_nil_iff_forall_not_mem]
  intro l hl
  obtain ⟨node, -, rfl⟩ := List.mem_map.mp hl
  obtain ⟨i, hi, -, -, hrule⟩ := htold _ hl
  exact h i hi hrule

/-- Where nothing is told of the keys of properties, none is hidden. -/
theorem properties_eq_occurrences {issues : List Issue}
    (htold : ∀ l ∈ findDuplicateProperties m, Tells issues l)
    (h : ∀ i ∈ issues, i.rule ≠ "duplicate_property".toList) :
    ∀ s ∈ m.sections, s.properties = s.occurrences := by
  have hnone : findDuplicateProperties m = [] := by
    rw [List.eq_nil_iff_forall_not_mem]
    intro l hl
    obtain ⟨s, -, hs⟩ := List.mem_flatMap.mp hl
    obtain ⟨p, -, rfl⟩ := List.mem_map.mp hs
    obtain ⟨i, hi, -, -, hrule⟩ := htold _ hl
    exact h i hi hrule
  intro s hs
  exact latestBy_eq_self_iff.mpr (findDuplicateProperties_eq_nil_iff.mp hnone s hs)

end CatchmentLint.Lint

/-! ## Linters -/

namespace CatchmentLint.Linter

open Lint

/-- All that a model has by itself is told of its document. -/
theorem tellsModel_anew (schema : Schema) :
    GoodAnew (fun key issues => modelIssues schema (Model.read key.content) ⊆ issues) schema :=
  fun _ _ _ _ _ => List.subset_append_left _ _

/-- Where a linter that is switched on, whatever it has been asked before, tells of no key and no
name that occurs twice, the views that the other checks go through show all nodes and all
properties.  Where one of these is hidden, it tells of every node with that name, the others named
in the message, or of every property with that key. -/
theorem hidden_told (schema : Schema) (capacity lifetime : Nat) (expressions : Expression.Cache)
    (history : List Step) (around : Surroundings) (content : Text) (base? : Option Text)
    (hkeys : LeavesEnabled schema "duplicate_property".toList)
    (hnames : LeavesEnabled schema "duplicate_node_name".toList)
    (henabled : ((withCaches schema capacity lifetime expressions).after history).enabled = true) :
    let l := (withCaches schema capacity lifetime expressions).after history
    let issues := (l.validate around content base?).1
    let m := Model.read content
    ((∀ i ∈ issues, i.rule ≠ "duplicate_property".toList ∧ i.rule ≠ "duplicate_node_name".toList) →
        m.nodes = m.declaredNodes ∧ ∀ s ∈ m.sections, s.properties = s.occurrences) ∧
      (∀ node, m.nodes.count node < m.declaredNodes.count node →
        ∀ other ∈ m.declaredNodes, other.name = node.name → Tells issues (sharedName m other)) ∧
      ∀ s ∈ m.sections, ∀ p, s.properties.count p < s.occurrences.count p →
        ∀ q ∈ s.occurrences, q.key = p.key → Tells issues (sharedKey s q) := by
  intro l issues m
  have hmodel : modelIssues schema m ⊆ issues :=
    (keepsGood_after (tellsModel_anew schema) capacity lifetime expressions history).validate
      (tellsModel_anew schema) henabled around content base?
  have htoldNodes : ∀ l ∈ findDuplicateNodes m, Tells issues l := fun l hl =>
    (tells_of_mem_findDuplicateNodes hnames hl).of_subset hmodel
  have htoldProperties : ∀ l ∈ findDuplicateProperties m, Tells issues l := fun l hl =>
    (tells_of_mem_findDuplicateProperties hkeys hl).of_subset hmodel
  refine ⟨fun hquiet => ⟨?_, ?_⟩, fun node hhidden other hother hname => ?_,
    fun s hs p hhidden q hq hkey => ?_⟩
  · exact nodes_eq_declaredNodes htoldNodes fun i hi => (hquiet i hi).2
  · exact properties_eq_occurrences htoldProperties fun i hi => (hquiet i hi).1
  · exact htoldNodes _ (mem_findDuplicateNodes hhidden hother hname)
  · exact htoldProperties _ (mem_findDuplicateProperties hs hhidden hq hkey)

/-- A schema that knows no section, no type and no rule. -/
def bareSchema : Schema := ⟨none, [], [], [], []⟩

theorem hidden_told_bareSchema :
    let l := (withCaches bareSchema 1 1 (.empty 1)).after [⟨⟨0, fun _ => false⟩, .clear⟩]
    let issues := (l.validate ⟨1, fun _ => false⟩
      "[node.a]\nds_1 = b\nds_1 = c\n[node.a]\n".toList none).1
    let apart := Model.read "[node.a]\n[node.b]\n".toList
    Tells issues ⟨1, .duplicateNode ['a'] [4]⟩ ∧ Tells issues ⟨4, .duplicateNode ['a'] [1]⟩ ∧
      Tells issues ⟨2, .duplicateProperty "ds_1".toList "node.a".toList⟩ ∧
      Tells issues ⟨3, .duplicateProperty "ds_1".toList "node.a".toList⟩ ∧
      apart.nodes = apart.declaredNodes := by
  intro l issues apart
  have hrules : ∀ rule, LeavesEnabled bareSchema rule := fun rule r hr => by cases hr
  let above : Section := ⟨"node.a".toList, 1, 3,
    [⟨"ds_1".toList, ['b'], 2⟩, ⟨"ds_1".toList, ['c'], 3⟩]⟩
  let below : Section := ⟨"node.a".toList, 4, 4, []⟩
  have hread : Model.read "[node.a]\nds_1 = b\nds_1 = c\n[node.a]\n".toList =
      ⟨[above, below], [], []⟩ := by
    decide +kernel
  obtain ⟨-, hnode, hproperty⟩ := hidden_told bareSchema 1 1 (.empty 1)
    [⟨⟨0, fun _ => false⟩, .clear⟩] ⟨1, fun _ => false⟩
    "[node.a]\nds_1 = b\nds_1 = c\n[node.a]\n".toList none (hrules _) (hrules _) rfl
  obtain ⟨hquiet, -⟩ := hidden_told bareSchema 1 1 (.empty 1) [] ⟨1, fun _ => false⟩
    "[node.a]\n[node.b]\n".toList none (hrules _) (hrules _) rfl
  rw [hread] at hnode hproperty
  have hnode := hnode ⟨['a'], above⟩ (by decide)
  have hproperty := hproperty above (by decide) ⟨"ds_1".toList, ['b'], 2⟩ (by decide)
  refine ⟨hnode ⟨['a'], above⟩ (by decide) rfl, hnode ⟨['a'], below⟩ (by decide) rfl,
    hproperty ⟨"ds_1".toList, ['b'], 2⟩ (by decide) rfl,
    hproperty ⟨"ds_1".toList, ['c'], 3⟩ (by decide) rfl, (hquiet ?_).1⟩
  decide +kernel

end CatchmentLint.Linter
