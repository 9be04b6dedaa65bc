import CatchmentLint.Proofs.Lint.Checks
import CatchmentLint.Proofs.Model.Reading
import CatchmentLint.Schema.Default
import Mathlib.Data.List.Nodup

/-!
# CatchmentLint.Proofs.Lint.NodeNames

Node names that are declared more than once, in terms of the lines of a document.

* `HasNodeHeader` — a line, read on its own, is the header of a node;
* `map_header_declaredNodes` — these are the nodes that a model declares, line by line, so that no two
  of them stand on one line;
* `length_declarationLines` — so the header itself is all that is left out where its line is;
* `runCheck_uniqueNodeNames` — each header whose name another one has too is told of at its line, and
  the message lists the lines of all the others.
-/

namespace CatchmentLint

/-! ## Headers of nodes -/

/-- The header of a node: the name that it declares, and its line. -/
structure NodeHeader where
  name : Text
  line : Nat
  deriving DecidableEq, Repr

def Node.header (node : Node) : NodeHeader := ⟨node.name, node.body.startLine⟩

namespace Lines

variable {lines : List Text} {i : Nat} {header : NodeHeader}

/-- The header of a node on line `i`, where the first one is line 0. -/
def nodeHeaderAt? (lines : List Text) (i : Nat) : Option NodeHeader :=
  (headerAt? lines i).bind fun sectionName =>
    (Section.declaredNode? sectionName).map fun name => ⟨name, i + 1⟩

theorem line_of_nodeHeaderAt? (h : nodeHeaderAt? lines i = some header) : header.line = i + 1 := by
  obtain ⟨sectionName, -, hname⟩ := Option.bind_eq_some_iff.mp h
  obtain ⟨name, -, rfl⟩ := Option.map_eq_some_iff.mp hname
  rfl

theorem lt_length_of_nodeHeaderAt? (h : nodeHeaderAt? lines i = some header) : i < lines.length := by
  obtain ⟨sectionName, hsection, -⟩ := Option.bind_eq_some_iff.mp h
  exact lt_length_of_headerAt? hsection

end Lines

/-- A line of the document, read on its own, is this header of a node. -/
def HasNodeHeader (content : Text) (header : NodeHeader) : Prop :=
  ∃ i, Lines.nodeHeaderAt? (Text.lines content) i = some header

section Headers

variable {content : Text} {header other : NodeHeader}

/-- The nodes that a document declares are the headers of nodes among its lines. -/
theorem map_header_declaredNodes (content : Text) :
    (Model.read content).declaredNodes.map Node.header =
      (List.range (Text.lines content).length).filterMap
        (Lines.nodeHeaderAt? (Text.lines content)) := by
  let ofParts : Text × Nat × List Property → Option NodeHeader := fun parts =>
    (Section.declaredNode? parts.1).map fun name => ⟨name, parts.2.1⟩
  have hparts : (Model.read content).declaredNodes.map Node.header =
      ((Model.read content).sections.map Lines.sectionParts).filterMap ofParts := by
    rw [Model.declaredNodes, List.map_filterMap, List.filterMap_map]
    congr 1
    funext s
    simp [ofParts, Lines.sectionParts, Section.nodeName?, Node.header, Function.comp_def]
  rw [hparts, Model.read, Model.ofStatements, Lines.ofLines_lines,
    Lines.sections_eq (Nat.zero_add _), List.filterMap_filterMap, List.range_eq_range']
  congr 1
  funext i
  cases hheader : Lines.headerAt? (Text.lines content) i <;>
    simp [Lines.nodeHeaderAt?, hheader, ofParts]

/-- The nodes of a model that has been read are the headers of nodes among its lines. -/
theorem mem_headers_iff :
    header ∈ (Model.read content).declaredNodes.map Node.header ↔ HasNodeHeader content header := by
  rw [map_header_declaredNodes, List.mem_filterMap]
  constructor
  · rintro ⟨i, -, hi⟩
    exact ⟨i, hi⟩
  · rintro ⟨i, hi⟩
    exact ⟨i, List.mem_range.mpr (Lines.lt_length_of_nodeHeaderAt? hi), hi⟩

/-- Later nodes have later headers. -/
theorem pairwise_headers (content : Text) :
    ((Model.read content).declaredNodes.map Node.header).Pairwise (·.line < ·.line) := by
  rw [map_header_declaredNodes]
  refine List.Pairwise.filterMap _ (fun i j hij a ha b hb => ?_) List.pairwise_lt_range
  rw [Lines.line_of_nodeHeaderAt? ha, Lines.line_of_nodeHeaderAt? hb]
  exact Nat.succ_lt_succ hij

/-- No line is the header of two nodes. -/
theorem HasNodeHeader.eq_of_line_eq (h : HasNodeHeader content header)
    (hother : HasNodeHeader content other) (hline : header.line = other.line) : header = other := by
  obtain ⟨i, hi⟩ := h
  obtain ⟨j, hj⟩ := hother
  rw [Lines.line_of_nodeHeaderAt? hi, Lines.line_of_nodeHeaderAt? hj] at hline
  obtain rfl := Nat.succ.inj hline
  exact Option.some.inj (hi.symm.trans hj)

end Headers

/-! ## Names that others have too -/

namespace Lint

variable {content : Text} {header : NodeHeader}

/-- Another header declares the same name. -/
structure Shares (header other : NodeHeader) : Prop where
  name_eq : other.name = header.name
  ne : other ≠ header

/-- The lines of the headers with the same name, without those that stand on its line. -/
def otherLines (headers : List NodeHeader) (header : NodeHeader) : List Nat :=
  ((headers.filter (·.name == header.name)).map NodeHeader.line).filter (· != header.line)

theorem declarationLines_eq (m : Model) (name : Text) :
    declarationLines m name =
      ((m.declaredNodes.map Node.header).filter (·.name == name)).map NodeHeader.line := by
  rw [declarationLines, List.filter_map, List.map_map]
  rfl

theorem pairwise_declarationLines (content name : Text) :
    (declarationLines (Model.read content) name).Pairwise (· < ·) := by
  rw [declarationLines_eq]
  exact List.pairwise_map.mpr ((pairwise_headers content).filter _)

theorem mem_declarationLines_iff {name : Text} {line : Nat} :
    line ∈ declarationLines (Model.read content) name ↔
      ∃ header, HasNodeHeader content header ∧ header.name = name ∧ header.line = line := by
  simp only [declarationLines_eq, List.mem_map, List.mem_filter, beq_iff_eq, ← mem_headers_iff,
    and_assoc]

/-- Where the line of a header is left out, no other header with its name is. -/
theorem mem_otherLines_iff (h : HasNodeHeader content header) {line : Nat} :
    line ∈ otherLines ((Model.read content).declaredNodes.map Node.header) header ↔
      ∃ other, HasNodeHeader content other ∧ Shares header other ∧ other.line = line := by
  rw [otherLines, ← declarationLines_eq, List.mem_filter, mem_declarationLines_iff, bne_iff_ne]
  constructor
  · rintro ⟨⟨other, hother, hname, rfl⟩, hline⟩
    refine ⟨other, hother, ⟨hname, ?_⟩, rfl⟩
    rintro rfl
    exact hline rfl
  · rintro ⟨other, hother, hshares, rfl⟩
    exact ⟨⟨other, hother, hshares.name_eq, rfl⟩,
      fun hline => hshares.ne (hother.eq_of_line_eq h hline)⟩

/-- A name is declared once more often than on other lines. -/
theorem length_declarationLines (h : HasNodeHeader content header) :
    (declarationLines (Model.read content) header.name).length =
      (otherLines ((Model.read content).declaredNodes.map Node.header) header).length + 1 := by
  have hnodup : (declarationLines (Model.read content) header.name).Nodup :=
    (pairwise_declarationLines content header.name).imp Nat.ne_of_lt
  have hself := mem_declarationLines_iff.mpr ⟨header, h, rfl, rfl⟩
  have hpos := List.length_pos_of_mem hself
  rw [otherLines, ← declarationLines_eq, ← hnodup.erase_eq_filter, List.length_erase_of_mem hself]
  omega

/-- The headers that are told of. -/
def sharedHeaders (m : Model) : List NodeHeader :=
  (m.declaredNodes.map Node.header).filter fun header => 1 < (declarationLines m header.name).length

/-- Every header that shares its name is told of, with the lines of the others. -/
theorem findDuplicateNodes_eq (m : Model) :
    findDuplicateNodes m = (sharedHeaders m).map fun header =>
      ⟨header.line,
        .duplicateNode header.name (otherLines (m.declaredNodes.map Node.header) header)⟩ := by
  rw [findDuplicateNodes, sharedHeaders, List.filter_map, List.map_map]
  simp only [otherLines, ← declarationLines_eq]
  rfl

/-- A header is told of where another one declares the same name. -/
theorem mem_sharedHeaders_iff : header ∈ sharedHeaders (Model.read content) ↔
    HasNodeHeader content header ∧ ∃ other, HasNodeHeader content other ∧ Shares header other := by
  rw [sharedHeaders, List.mem_filter, mem_headers_iff, decide_eq_true_eq]
  refine and_congr_right fun h => ?_
  rw [length_declarationLines h, Nat.lt_add_left_iff_pos, List.length_pos_iff_exists_mem]
  constructor
  · rintro ⟨line, hline⟩
    obtain ⟨other, hother, hshares, -⟩ := (mem_otherLines_iff h).mp hline
    exact ⟨other, hother, hshares⟩
  · rintro ⟨other, hother, hshares⟩
    exact ⟨other.line, (mem_otherLines_iff h).mpr ⟨other, hother, hshares, rfl⟩⟩

theorem issues_duplicateNode {schema : Schema} {ruled : Severity}
    (hrule : schema.severity? "duplicate_node_name".toList .error = some ruled) (line : Nat)
    (name : Text) (otherLines : List Nat) :
    (Finding.duplicateNode name otherLines).issues schema line =
      [⟨line,
        "Duplicate node name '".toList ++ name ++ "' (also defined on line ".toList ++
          Text.join ", ".toList (otherLines.map Text.ofNat) ++ [')'],
        ruled, "duplicate_node_name".toList⟩] := by
  have hgoverned : schema.severity? (Finding.duplicateNode name otherLines).governor
      (Finding.duplicateNode name otherLines).defaultSeverity = some ruled := hrule
  rw [Finding.issues, hgoverned]
  rfl

end Lint

/-! ## What is told -/

namespace Linter

open Lint

/-- The check of node names tells of each header of a node whose name another header has too, in the
order of the lines, each at its line; the message lists the lines of all the other headers with that
name, of which there is one at least, the first one first.  It tells of no other header. -/
theorem runCheck_uniqueNodeNames {l : Linter} {ruled : Severity}
    (hrule : l.schema.severity? "duplicate_node_name".toList .error = some ruled)
    (around : Surroundings) (content : Text) (base? : Option Text) :
    ∃ (shared : List NodeHeader) (others : NodeHeader → List Nat),
      shared.Pairwise (·.line < ·.line) ∧
        (∀ header, header ∈ shared ↔ HasNodeHeader content header ∧
          ∃ other, HasNodeHeader content other ∧ Shares header other) ∧
        (∀ header ∈ shared, others header ≠ [] ∧ (others header).Pairwise (· < ·) ∧
          ∀ line, line ∈ others header ↔
            ∃ other, HasNodeHeader content other ∧ Shares header other ∧ other.line = line) ∧
        l.runCheck around (Model.read content) base? .uniqueNodeNames =
          (shared.map fun header =>
            ⟨header.line,
              "Duplicate node name '".toList ++ header.name ++
                "' (also defined on line ".toList ++
                Text.join ", ".toList ((others header).map Text.ofNat) ++ [')'],
              ruled, "duplicate_node_name".toList⟩, l) := by
  refine ⟨sharedHeaders (Model.read content),
    otherLines ((Model.read content).declaredNodes.map Node.header),
    (pairwise_headers content).filter _, fun header => mem_sharedHeaders_iff,
    fun header hshared => ?_, ?_⟩
  · obtain ⟨h, other, hother, hshares⟩ := mem_sharedHeaders_iff.mp hshared
    have hmem := (mem_otherLines_iff h).mpr ⟨other, hother, hshares, rfl⟩
    refine ⟨List.ne_nil_of_mem hmem, ?_, fun line => mem_otherLines_iff h⟩
    rw [otherLines, ← declarationLines_eq]
    exact (pairwise_declarationLines content header.name).filter _
  · rw [runCheck_of_ne (by decide : Check.uniqueNodeNames ≠ .inputFiles), Check.issues, Check.find,
      findDuplicateNodes_eq, report, List.flatMap_map]
    simp only [issues_duplicateNode hrule]
    rw [← List.map_eq_flatMap]

/-- Of two headers of one node, between which other sections stand, the indented one is told of too,
with the line of the first one. -/
theorem runCheck_uniqueNodeNames_apart :
    let document := "[node.a]\n[inputs]\nrain.csv\n[node.b]\n  [node.a] ; again\n".toList
    let l := fresh .default
    l.schema.severity? "duplicate_node_name".toList .error = some .error ∧
      ∃ (shared : List NodeHeader) (others : NodeHeader → List Nat),
        ⟨['a'], 5⟩ ∈ shared ∧ ⟨['b'], 4⟩ ∉ shared ∧ 1 ∈ others ⟨['a'], 5⟩ ∧
          (l.runCheck ⟨0, fun _ => false⟩ (Model.read document) none .uniqueNodeNames).1 =
            shared.map fun header =>
              ⟨header.line,
                "Duplicate node name '".toList ++ header.name ++
                  "' (also defined on line ".toList ++
                  Text.join ", ".toList ((others header).map Text.ofNat) ++ [')'],
                .error, "duplicate_node_name".toList⟩ := by
  intro document l
  have hrule : l.schema.severity? "duplicate_node_name".toList .error = some .error := by
    decide +kernel
  have hfirst : HasNodeHeader document ⟨['a'], 1⟩ := ⟨0, by decide +kernel⟩
  have hlast : HasNodeHeader document ⟨['a'], 5⟩ := ⟨4, by decide +kernel⟩
  have hshares : Shares ⟨['a'], 5⟩ ⟨['a'], 1⟩ := ⟨rfl, by decide⟩
  have hnone : ∀ node ∈ (Model.read document).declaredNodes, node.name = ['b'] →
      node.header = ⟨['b'], 4⟩ := by decide +kernel
  obtain ⟨shared, others, -, hmem, hothers, htold⟩ :=
    runCheck_uniqueNodeNames hrule ⟨0, fun _ => false⟩ document none
  have hshared := (hmem ⟨['a'], 5⟩).mpr ⟨hlast, _, hfirst, hshares⟩
  refine ⟨hrule, shared, others, hshared, fun hb => ?_, ?_, congrArg Prod.fst htold⟩
  · obtain ⟨-, other, hother, hother'⟩ := (hmem _).mp hb
    obtain ⟨node, hnode, rfl⟩ := List.mem_map.mp (mem_headers_iff.mpr hother)
    exact hother'.ne (hnone node hnode hother'.name_eq)
  · exact ((hothers _ hshared).2.2 1).mpr ⟨_, hfirst, hshares, rfl⟩

end Linter

end CatchmentLint
