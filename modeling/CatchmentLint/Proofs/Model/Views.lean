import CatchmentLint.Proofs.Model.Index

/-!
# CatchmentLint.Proofs.Model.Views

What a model and its sections answer out of their tables:

1. looking up a name or a key finds its latest occurrence in the flat lists, and nothing where there
   is none;
2. the lists of the latest sections, nodes and properties have each of these once, in the order of
   the file;
3. no table leads to a place where nothing stands;
4. a model without tables answers the same (`Agrees`).
-/

namespace CatchmentLint

/-! ## Sections -/

namespace IndexedSection

variable {s : IndexedSection}

/-- What the views of a section tell of the properties that were written into it. -/
structure Consistent (s : IndexedSection) : Prop where
  key_found_iff : ∀ key p,
    s.property? key = some p ↔ p.key = key ∧ IsLatest Property.key p s.occurrences
  key_missing_iff : ∀ key, s.property? key = none ↔ ∀ p ∈ s.occurrences, p.key ≠ key
  containsProperty_iff : ∀ key, s.containsProperty key = true ↔ ∃ p ∈ s.occurrences, p.key = key
  properties_eq : s.properties = latestBy Property.key s.occurrences
  properties_nodup : (s.properties.map Property.key).Nodup
  nodeName?_iff : ∀ name,
    s.nodeName? = some name ↔ name ≠ [] ∧ s.name = "node.".toList ++ name
  nodeType?_of_node : ∀ name, s.nodeName? = some name →
    s.nodeType? = (s.property? "type".toList).map Property.value
  nodeType?_of_plain : s.nodeName? = none → s.nodeType? = none
  latest_lt : ∀ (key : Text) place, s.latest[key]? = some place → place < s.occurrences.length

/-- A section declares a node by the name behind `node.`, which must not be empty. -/
theorem declaredNode?_eq_some_iff {sectionName name : Text} :
    Section.declaredNode? sectionName = some name ↔
      name ≠ [] ∧ sectionName = "node.".toList ++ name := by
  rw [← Text.dropLead?_eq_some_iff, Section.declaredNode?]
  cases hrest : Text.dropLead? "node.".toList sectionName with
  | none => simp
  | some rest =>
      cases rest with
      | nil => simp +contextual [eq_comm]
      | cons c rest =>
          constructor
          · intro h
            cases h
            exact ⟨List.cons_ne_nil c rest, rfl⟩
          · exact And.right

/-- The name of a section that declares a node. -/
def DeclaresNode (sectionName : Text) : Prop :=
  ∃ name, name ≠ [] ∧ sectionName = "node.".toList ++ name

/-- Whether a section declares a node shows in its name. -/
theorem isSome_declaredNode?_iff {sectionName : Text} :
    (Section.declaredNode? sectionName).isSome = true ↔ DeclaresNode sectionName := by
  rw [Option.isSome_iff_exists]
  exact exists_congr fun name => declaredNode?_eq_some_iff

instance (sectionName : Text) : Decidable (DeclaresNode sectionName) :=
  decidable_of_iff _ isSome_declaredNode?_iff

/-- The views of a section that keeps its tables tell the truth about its properties. -/
theorem Valid.consistent (h : s.Valid) : s.Consistent where
  key_found_iff key p := by rw [property?_eq h, Section.property?, lastWith?_eq_some_iff]
  key_missing_iff key := by rw [property?_eq h, Section.property?, lastWith?_eq_none_iff]
  containsProperty_iff key := by
    rw [containsProperty_eq h, Section.property?, isSome_lastWith?_iff]
  properties_eq := properties_eq h
  properties_nodup := by
    rw [properties_eq h]
    exact nodup_map_latestBy Property.key s.occurrences
  nodeName?_iff name := by
    rw [nodeName?_eq h, Section.nodeName?, declaredNode?_eq_some_iff]
  nodeType?_of_node name hname := by
    rw [nodeName?_eq h] at hname
    rw [nodeType?_eq h, Section.nodeType?, hname, property?_eq h]
  nodeType?_of_plain hname := by
    rw [nodeName?_eq h] at hname
    rw [nodeType?_eq h, Section.nodeType?, hname]
  latest_lt _ _ := h.latest.lt_length

end IndexedSection

/-! ## Models -/

namespace IndexedModel

open IndexedSection

variable {m : IndexedModel}

/-! ### Views -/

/-- A name is looked up as the latest section of that name. -/
theorem section?_eq (h : m.Valid) (name : Text) :
    m.section? name = lastWith? (fun s => s.name) name m.sections := by
  rw [section?, h.sectionPlaces.bind_getElem?, lastWith?_some]

/-- The table has the latest section of each name, in the order of the file. -/
theorem latestSections_eq (h : m.Valid) :
    m.latestSections = latestBy (fun s => s.name) m.sections :=
  h.sectionPlaces.filter_zipIdx

/-- A node is looked up as the latest section that declares it. -/
theorem node?_eq (h : m.Valid) (name : Text) :
    m.node? name = lastWith? IndexedSection.nodeName? (some name) m.sections :=
  h.nodePlaces.bind_getElem? name

/-- There is a node just if a section declares it. -/
theorem hasNode_eq (h : m.Valid) (name : Text) :
    m.hasNode name = (lastWith? IndexedSection.nodeName? (some name) m.sections).isSome :=
  h.nodePlaces.contains_eq name

/-- The table of nodes has every section that declares one, also those that later ones hide. -/
theorem allNodeSections_eq (h : m.Valid) :
    m.allNodeSections = m.sections.filter fun s => s.nodeName?.isSome := by
  rw [allNodeSections, h.nodeSections, filterMap_noted]

/-- The nodes are the latest ones of each name. -/
theorem nodes_eq (h : m.Valid) :
    m.nodes = latestBy IndexedSection.nodeName? m.allNodeSections := by
  rw [allNodeSections_eq h, nodes, h.nodeSections]
  exact h.nodePlaces.filter_noted

/-- The nodes are counted by their names. -/
theorem nodeCount_eq (h : m.Valid) :
    m.nodeCount = (m.sections.filterMap IndexedSection.nodeName?).toFinset.card := by
  rw [nodeCount, h.nodePlaces.size, filterMap_places]

/-- The latest section of a node is the latest one of the name that declares the node. -/
theorem node?_eq_section? (h : m.Valid) {name : Text} (hname : name ≠ []) :
    m.node? name = m.section? ("node.".toList ++ name) := by
  rw [node?_eq h, section?_eq h]
  refine lastWith?_congr fun s hs => ?_
  rw [(h.sections s hs).consistent.nodeName?_iff name, and_iff_right hname]

theorem entries_valid (h : m.Valid) (list : EntryList) : (m.entries list).Valid := by
  cases list with
  | inputs => exact h.inputs
  | outputs => exact h.outputs

/-- What the views of a model tell of its sections and its entries. -/
structure Consistent (m : IndexedModel) : Prop where
  sections : ∀ s ∈ m.sections, s.Consistent
  name_found_iff : ∀ name s,
    m.section? name = some s ↔ s.name = name ∧ IsLatest (fun s => s.name) s m.sections
  name_missing_iff : ∀ name, m.section? name = none ↔ ∀ s ∈ m.sections, s.name ≠ name
  latestSections_eq : m.latestSections = latestBy (fun s => s.name) m.sections
  latestSections_nodup : (m.latestSections.map fun s => s.name).Nodup
  node_found_iff : ∀ name s, m.node? name = some s ↔
    s.nodeName? = some name ∧ IsLatest IndexedSection.nodeName? s m.sections
  node_missing_iff : ∀ name,
    m.node? name = none ↔ ∀ s ∈ m.sections, s.nodeName? ≠ some name
  hasNode_iff : ∀ name, m.hasNode name = true ↔ ∃ s ∈ m.sections, s.nodeName? = some name
  allNodeSections_eq : m.allNodeSections = m.sections.filter fun s => DeclaresNode s.name
  nodes_eq : m.nodes = latestBy IndexedSection.nodeName? m.allNodeSections
  nodes_nodup : (m.nodes.map IndexedSection.nodeName?).Nodup
  node?_eq_section? : ∀ name, name ≠ [] → m.node? name = m.section? ("node.".toList ++ name)
  nodeCount_eq : m.nodeCount = (m.sections.filterMap IndexedSection.nodeName?).toFinset.card
  text_found_iff : ∀ list text line, (m.entries list).line? text = some line ↔
    ∃ entry, entry.text = text ∧ entry.line = line ∧
      IsLatest Entry.text entry (m.entries list).entries
  text_missing_iff : ∀ list text,
    (m.entries list).line? text = none ↔ ∀ entry ∈ (m.entries list).entries, entry.text ≠ text
  sectionPlaces_lt : ∀ (name : Text) place,
    m.sectionPlaces[name]? = some place → place < m.sections.length
  nodePlaces_lt : ∀ (name : Text) place, m.nodePlaces[name]? = some place → place < m.sections.length
  nodeSections_lt : ∀ place ∈ m.nodeSections, place < m.sections.length

/-- The views of a model that keeps its tables tell the truth about its sections and entries. -/
theorem Valid.consistent (h : m.Valid) : m.Consistent where
  sections s hs := (h.sections s hs).consistent
  name_found_iff name s := by rw [section?_eq h, lastWith?_eq_some_iff]
  name_missing_iff name := by rw [section?_eq h, lastWith?_eq_none_iff]
  latestSections_eq := latestSections_eq h
  latestSections_nodup := by
    rw [latestSections_eq h]
    exact nodup_map_latestBy (fun s : IndexedSection => s.name) m.sections
  node_found_iff name s := by rw [node?_eq h, lastWith?_eq_some_iff]
  node_missing_iff name := by rw [node?_eq h, lastWith?_eq_none_iff]
  hasNode_iff name := by rw [hasNode_eq h, isSome_lastWith?_iff]
  allNodeSections_eq := by
    rw [allNodeSections_eq h]
    refine List.filter_congr fun s hs => ?_
    rw [nodeName?_eq (h.sections s hs), Bool.eq_iff_iff, decide_eq_true_iff]
    exact isSome_declaredNode?_iff
  nodes_eq := nodes_eq h
  nodes_nodup := by
    rw [nodes_eq h]
    exact nodup_map_latestBy IndexedSection.nodeName? m.allNodeSections
  node?_eq_section? _ := node?_eq_section? h
  nodeCount_eq := nodeCount_eq h
  text_found_iff list text line := by
    rw [IndexedEntries.line?_eq (entries_valid h list), Model.lineOf?, Option.map_eq_some_iff]
    simp only [lastWith?_eq_some_iff, and_comm, and_left_comm]
  text_missing_iff list text := by
    rw [IndexedEntries.line?_eq (entries_valid h list), Model.lineOf?, Option.map_eq_none_iff,
      lastWith?_eq_none_iff]
  sectionPlaces_lt _ _ := h.sectionPlaces.lt_length
  nodePlaces_lt _ _ := h.nodePlaces.lt_length
  nodeSections_lt place hplace := by
    rw [h.nodeSections] at hplace
    exact lt_length_of_mem_noted hplace

/-! ### The same views without the tables -/

/-- A node section as a model without tables lists it. -/
def toNode (s : IndexedSection) : Node := ⟨s.nodeName?.getD [], s.toSection⟩

theorem name_toNode_iff (h : m.Valid) {s : IndexedSection} (hs : s ∈ m.allNodeSections) (name : Text) :
    (toNode s).name = name ↔ s.nodeName? = some name := by
  rw [allNodeSections_eq h] at hs
  obtain ⟨declared, hdeclared⟩ := Option.isSome_iff_exists.mp (List.mem_filter.mp hs).2
  simp [toNode, hdeclared]

/-- Without tables, the model declares the same nodes in the same order. -/
theorem declaredNodes_toModel (h : m.Valid) :
    m.toModel.declaredNodes = m.allNodeSections.map toNode := by
  rw [allNodeSections_eq h, Model.declaredNodes, toModel, List.filterMap_map, ← List.filterMap_eq_map,
    ← List.filterMap_eq_filter, List.filterMap_filterMap]
  refine List.filterMap_congr fun s hs => ?_
  have hname : s.nodeName? = s.toSection.nodeName? := nodeName?_eq (h.sections s hs)
  cases hnode : s.toSection.nodeName? <;> simp [hname, hnode, toNode, Option.guard]

/-- Without tables, the model finds the same section under a name. -/
theorem section?_toModel (h : m.Valid) (name : Text) :
    (m.section? name).map (·.toSection) = m.toModel.section? name := by
  rw [section?_eq h, Model.section?, toModel, lastWith?_map]

/-- Without tables, the model has the same latest sections. -/
theorem latestSections_toModel (h : m.Valid) :
    m.latestSections.map (·.toSection) = m.toModel.latestSections := by
  rw [latestSections_eq h, Model.latestSections, toModel, latestBy_map]

/-- Without tables, the model finds the same node under a name. -/
theorem node?_toModel (h : m.Valid) (name : Text) :
    (m.node? name).map toNode = m.toModel.node? name := by
  have hkey : ∀ s ∈ m.allNodeSections, s.nodeName? = some name ↔ (toNode s).name = name :=
    fun s hs => (name_toNode_iff h hs name).symm
  rw [Model.node?, declaredNodes_toModel h, lastWith?_map, ← lastWith?_congr hkey,
    allNodeSections_eq h, lastWith?_filter, node?_eq h]
  intro s _ hname
  rw [hname]
  rfl

/-- Without tables, the model has the same nodes. -/
theorem nodes_toModel (h : m.Valid) : m.nodes.map toNode = m.toModel.nodes := by
  have hkey : ∀ s ∈ m.allNodeSections, ∀ other ∈ m.allNodeSections,
      s.nodeName? = other.nodeName? ↔ (toNode s).name = (toNode other).name := by
    intro s hs other hother
    rw [allNodeSections_eq h] at hother
    obtain ⟨declared, hdeclared⟩ := Option.isSome_iff_exists.mp (List.mem_filter.mp hother).2
    have hname : (toNode other).name = declared := by simp [toNode, hdeclared]
    rw [hdeclared, hname, name_toNode_iff h hs]
  rw [nodes_eq h, Model.nodes, declaredNodes_toModel h, latestBy_map, ← latestBy_congr hkey]

theorem names_declaredNodes (h : m.Valid) :
    m.toModel.declaredNodes.map Node.name = m.sections.filterMap IndexedSection.nodeName? := by
  rw [Model.declaredNodes, toModel, List.map_filterMap, List.filterMap_map]
  refine List.filterMap_congr fun s hs => ?_
  rw [nodeName?_eq (h.sections s hs), Function.comp_apply, Option.map_map]
  cases s.toSection.nodeName? <;> rfl

/-- Without tables, the model counts as many nodes. -/
theorem nodeCount_toModel (h : m.Valid) : m.nodeCount = m.toModel.nodeCount := by
  have hnodup : (m.toModel.nodes.map Node.name).Nodup :=
    nodup_map_latestBy Node.name m.toModel.declaredNodes
  have hnames : (m.toModel.nodes.map Node.name).toFinset =
      (m.sections.filterMap IndexedSection.nodeName?).toFinset := by
    ext name
    rw [List.mem_toFinset, List.mem_toFinset, Model.nodes, mem_map_latestBy_iff, names_declaredNodes h]
  rw [nodeCount_eq h, ← hnames, List.toFinset_card_of_nodup hnodup, List.length_map, Model.nodeCount]

/-- The views of a model with tables are those of the model without them. -/
structure Agrees (m : IndexedModel) (flat : Model) : Prop where
  model_eq : m.toModel = flat
  find_eq : ∀ name, (m.section? name).map (·.toSection) = flat.section? name
  latest_eq : m.latestSections.map (·.toSection) = flat.latestSections
  node?_eq : ∀ name, (m.node? name).map toNode = flat.node? name
  nodes_eq : m.nodes.map toNode = flat.nodes
  declared_eq : m.allNodeSections.map toNode = flat.declaredNodes
  nodeCount_eq : m.nodeCount = flat.nodeCount
  inputs_eq : ∀ text, m.inputs.line? text = Model.lineOf? flat.inputs text
  outputs_eq : ∀ text, m.outputs.line? text = Model.lineOf? flat.outputs text
  properties_eq : ∀ s ∈ m.sections, s.properties = s.toSection.properties
  property?_eq : ∀ s ∈ m.sections, ∀ key, s.property? key = s.toSection.property? key
  nodeName?_eq : ∀ s ∈ m.sections, s.nodeName? = s.toSection.nodeName?
  nodeType?_eq : ∀ s ∈ m.sections, s.nodeType? = s.toSection.nodeType?

/-- A model that keeps its tables answers as it does without them, whatever it is asked. -/
theorem Valid.agrees (h : m.Valid) : m.Agrees m.toModel where
  model_eq := rfl
  find_eq := section?_toModel h
  latest_eq := latestSections_toModel h
  node?_eq := node?_toModel h
  nodes_eq := nodes_toModel h
  declared_eq := (declaredNodes_toModel h).symm
  nodeCount_eq := nodeCount_toModel h
  inputs_eq := IndexedEntries.line?_eq h.inputs
  outputs_eq := IndexedEntries.line?_eq h.outputs
  properties_eq s hs := IndexedSection.properties_eq (h.sections s hs)
  property?_eq s hs := IndexedSection.property?_eq (h.sections s hs)
  nodeName?_eq s hs := IndexedSection.nodeName?_eq (h.sections s hs)
  nodeType?_eq s hs := IndexedSection.nodeType?_eq (h.sections s hs)

/-- Every view of a model that was read, and of each of its sections, tells the latest elements of the
flat lists, as the views without tables do.  A section keeps doing so however it is changed. -/
theorem consistent_read (content : Text) :
    (read content).Consistent ∧ (read content).Agrees (Model.read content) ∧
      ∀ name line (edits : List IndexedSection.Edit),
        (edits.foldl IndexedSection.edit (opened name line)).Consistent := by
  have hread : (read content).Valid := valid_read content
  have hagrees : (read content).Agrees (Model.read content) := by
    rw [← toModel_read]
    exact hread.agrees
  refine ⟨hread.consistent, hagrees, fun name line edits => ?_⟩
  exact ((valid_opened name line).foldl_edit edits).consistent

end IndexedModel

end CatchmentLint
