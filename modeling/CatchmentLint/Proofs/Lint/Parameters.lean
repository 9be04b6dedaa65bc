import CatchmentLint.Proofs.Lint.IssueLines
import CatchmentLint.Proofs.Model.Layout
import Mathlib.Data.List.Pairwise

/-!
# CatchmentLint.Proofs.Lint.Parameters

What is told of one parameter of a node.

* `Model.section_unique` — no line belongs to two sections;
* `IsParameter` — a property that counts, in a node that counts, and how its value is checked;
* `filter_findNodes` — of all that is found in the nodes, only what is found in the value of a
  parameter stands on its line, and `issues_at_parameter` — so it is told.
-/

namespace CatchmentLint

theorem Model.section_unique {content : Text} {s t : Section} {line : Nat}
    (hs : s ∈ (Model.read content).sections) (ht : t ∈ (Model.read content).sections)
    (hsline : s.startLine ≤ line ∧ line ≤ s.endLine)
    (htline : t.startLine ≤ line ∧ line ≤ t.endLine) : s = t := by
  by_contra hne
  have happart : (Model.read content).sections.Pairwise fun s t =>
      s.endLine < t.startLine ∨ t.endLine < s.startLine :=
    (stacked_read content).pairwise_sections.imp .inl
  have : Std.Symm fun s t : Section => s.endLine < t.startLine ∨ t.endLine < s.startLine :=
    ⟨fun _ _ => Or.symm⟩
  have hordered := happart.forall hs ht hne
  omega

namespace Lint

variable {schema : Schema} {content : Text} {node : Node} {p : Property} {spec : ParameterSpec}

/-- The property counts, in a node that counts and whose type is known; its value is checked as the
type says of the parameter. -/
structure IsParameter (schema : Schema) (m : Model) (node : Node) (p : Property)
    (spec : ParameterSpec) : Prop where
  node_mem : node ∈ m.nodes
  property_mem : p ∈ node.body.properties
  key_ne : p.key ≠ "type".toList
  known : ∃ typeName t, node.body.nodeType? = some typeName ∧ schema.nodeType? typeName = some t ∧
    t.allowsParameter p.key = true ∧ t.parameter? p.key = some spec

/-- A node is declared by one section only. -/
theorem eq_of_body_eq {m : Model} {node other : Node} (hnode : node ∈ m.declaredNodes)
    (hother : other ∈ m.declaredNodes) (h : other.body = node.body) : other = node := by
  obtain ⟨s, -, hs⟩ := List.mem_filterMap.mp hnode
  obtain ⟨name, hname, rfl⟩ := Option.map_eq_some_iff.mp hs
  obtain ⟨s', -, hs'⟩ := List.mem_filterMap.mp hother
  obtain ⟨name', hname', rfl⟩ := Option.map_eq_some_iff.mp hs'
  obtain rfl : s' = s := h
  rw [hname, Option.some.injEq] at hname'
  rw [hname']

/-- Only the parameters of a node stand on their lines, each on its own. -/
theorem filter_checkNode (h : IsParameter schema (Model.read content) node p spec) :
    (checkNode schema (Model.read content) node).filter (·.line == p.line) =
      checkValue schema (Model.read content) node spec p := by
  obtain ⟨typeName, t, htype, ht, hallowed, hspec⟩ := h.known
  have hbody := body_mem_of_declared (mem_latestBy_iff.mp h.node_mem).mem
  have hp := (mem_latestBy_iff.mp h.property_mem).mem
  have hinside := (((Model.stacked_read content).isLaidOut hbody).inside p hp).1
  have hchecked : checkNode schema (Model.read content) node =
      t.required.flatMap (checkRequired node) ++
        node.body.properties.flatMap
          (checkParameter schema (Model.read content) node (typeName, t)) := by
    unfold checkNode checkNodeWith
    simp only [htype, ht, checkTypedWith_eq saysAlone_sayAnew, Id.run_pure]
  have hrequired : (t.required.flatMap (checkRequired node)).filter (·.line == p.line) = [] := by
    rw [List.filter_eq_nil_iff]
    intro found hfound
    obtain ⟨name, -, hfound⟩ := List.mem_flatMap.mp hfound
    rw [line_of_mem_checkRequired hfound, beq_iff_eq]
    omega
  have hproperties : node.body.properties.Nodup := (nodup_map_latestBy _ _).of_map
  have hothers : ∀ q ∈ node.body.properties, q ≠ p →
      ∀ found ∈ checkParameter schema (Model.read content) node (typeName, t) q,
        (found.line == p.line) = false := by
    intro q hq hne found hfound
    obtain ⟨i, hi⟩ := Lines.exists_propertyAt? hbody (mem_latestBy_iff.mp hq).mem
    obtain ⟨j, hj⟩ := Lines.exists_propertyAt? hbody hp
    rw [line_of_mem_checkParameter hfound, beq_eq_false_iff_ne]
    exact fun hline => hne (Lines.eq_of_propertyAt? hi hj hline)
  have hparameter : checkParameter schema (Model.read content) node (typeName, t) p =
      checkValue schema (Model.read content) node spec p := by
    rw [checkParameter, checkParameterWith, if_neg h.key_ne, if_neg (by simp [hallowed])]
    simp only [hspec]
    rfl
  rw [hchecked, List.filter_append, hrequired, List.nil_append,
    filter_flatMap_of_unique hproperties h.property_mem hothers, hparameter,
    List.filter_eq_self]
  exact fun found hfound => beq_iff_eq.mpr (line_of_mem_checkValue hfound)

/-- Of all that is found in the nodes, only what is found in its value stands on the line of a
parameter. -/
theorem filter_findNodes (h : IsParameter schema (Model.read content) node p spec) :
    (findNodes schema (Model.read content)).filter (·.line == p.line) =
      checkValue schema (Model.read content) node spec p := by
  have hdeclared := (mem_latestBy_iff.mp h.node_mem).mem
  have hbody := body_mem_of_declared hdeclared
  have hinside := ((Model.stacked_read content).isLaidOut hbody).inside p
    (mem_latestBy_iff.mp h.property_mem).mem
  have hnodes : (Model.read content).nodes.Nodup := (nodup_map_latestBy _ _).of_map
  have hothers : ∀ other ∈ (Model.read content).nodes, other ≠ node →
      ∀ found ∈ checkNode schema (Model.read content) other, (found.line == p.line) = false := by
    intro other hother hne found hfound
    have hdeclared' := (mem_latestBy_iff.mp hother).mem
    have hbody' := body_mem_of_declared hdeclared'
    have hlaid := (Model.stacked_read content).isLaidOut hbody'
    have hle := hlaid.start_le_end
    rw [beq_eq_false_iff_ne]
    intro hline
    refine hne (eq_of_body_eq hdeclared hdeclared' ?_)
    refine Model.section_unique hbody' hbody ?_ ⟨Nat.le_of_lt hinside.1, hinside.2⟩
    rcases line_of_mem_checkNode hfound with hstart | ⟨q, hq, hqline⟩
    · omega
    · have hinside' := hlaid.inside q hq
      omega
  rw [findNodes_eq, filter_flatMap_of_unique hnodes h.node_mem hothers, filter_checkNode h]

theorem filter_report (found : List Located) (line : Nat) :
    (report schema found).filter (·.line == line) =
      report schema (found.filter (·.line == line)) := by
  induction found with
  | nil => rfl
  | cons l found ih =>
    have hissues : ∀ i ∈ l.finding.issues schema l.line, i.line = l.line := by
      intro i hi
      unfold Finding.issues at hi
      split at hi
      · rw [List.mem_singleton.mp hi]
      · cases hi
    have hfirst : (l.finding.issues schema l.line).filter (·.line == line) =
        if l.line == line then l.finding.issues schema l.line else [] := by
      split
      · next hline =>
        exact List.filter_eq_self.mpr fun i hi => by rw [hissues i hi, hline]
      · next hline =>
        exact List.filter_eq_nil_iff.mpr fun i hi => by rwa [hissues i hi]
    rw [report, List.flatMap_cons, List.filter_append, ← report, ih, hfirst, List.filter_cons]
    split
    · rfl
    · rfl

/-- What the check of nodes tells at the line of a parameter is what it finds in its value. -/
theorem issues_at_parameter {l : Linter} {around : Surroundings} {base? : Option Text}
    (h : IsParameter l.schema (Model.read content) node p spec) :
    ((l.runCheck around (Model.read content) base? .nodes).1).filter (·.line == p.line) =
      report l.schema (checkValue l.schema (Model.read content) node spec p) := by
  rw [Linter.runCheck_nodes, ← filter_findNodes h, ← filter_report]
  rfl

end Lint

end CatchmentLint
