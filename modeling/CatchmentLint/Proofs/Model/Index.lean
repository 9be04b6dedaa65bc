import CatchmentLint.Model.Index
import CatchmentLint.Proofs.Lists
import CatchmentLint.Proofs.Model.Tables

/-!
# CatchmentLint.Proofs.Model.Index

The tables of a model are kept up to date while it is read:

* `Valid` — the tables of a section, of a list of entries and of a model are those of their elements;
* `Valid.step`, `valid_read` — each statement keeps them so, and then all of them do;
* `toModel_read` — without the tables, the model is the one that is read without them.
-/

namespace CatchmentLint

/-! ## Sections -/

/-- The kind that a section has by its name and its properties. -/
def Section.kind (s : Section) : SectionKind :=
  match s.nodeName? with
  | some name => .node name ((s.property? "type".toList).map Property.value)
  | none => .plain

namespace IndexedSection

variable {s : IndexedSection}

/-- What is kept beside the properties is what can be told from them. -/
structure Valid (s : IndexedSection) : Prop where
  kind_eq : s.kind = s.toSection.kind
  latest : Tabulates s.latest (places (fun p => some p.key) s.occurrences)

/-- A section that has just been opened has nothing in it to be told. -/
theorem valid_opened (name : Text) (line : Nat) : (opened name line).Valid := ⟨rfl, .empty⟩

/-- A property that is written into a section hides those of the same key above it. -/
theorem property?_record (p : Property) (s : Section) (key : Text) :
    (s.record p).property? key = if p.key = key then some p else s.property? key := by
  rw [Section.property?, Section.record, lastWith?_append_singleton]
  simp [Section.property?]

/-- Writing a property keeps the tables, also where it changes the type of a node. -/
theorem Valid.addProperty (h : s.Valid) (p : Property) : (s.addProperty p).Valid := by
  constructor
  · rw [IndexedSection.addProperty, h.kind_eq, Section.kind, Section.kind, property?_record]
    have hname : (s.toSection.record p).nodeName? = s.toSection.nodeName? := rfl
    rw [hname]
    cases s.toSection.nodeName? with
    | none => rfl
    | some name =>
        have hvalue := apply_ite (Option.map Property.value) (p.key = "type".toList) (some p)
          (s.toSection.property? "type".toList)
        rw [hvalue]
        rfl
  · have hnote := h.latest.note p.key s.occurrences.length
    rwa [← places_append_singleton (fun p : Property => some p.key)] at hnote

theorem Valid.touch (h : s.Valid) (line : Nat) : (s.touch line).Valid := ⟨h.kind_eq, h.latest⟩

/-- A key is looked up alike with the table and without. -/
theorem property?_eq (h : s.Valid) (key : Text) : s.property? key = s.toSection.property? key := by
  rw [property?, h.latest.bind_getElem?, lastWith?_some]
  rfl

/-- The table has the latest property of each key, in the order of the lines. -/
theorem properties_eq (h : s.Valid) : s.properties = s.toSection.properties :=
  h.latest.filter_zipIdx

/-- Whether there is a property is asked of the table alone. -/
theorem containsProperty_eq (h : s.Valid) (key : Text) :
    s.containsProperty key = (s.toSection.property? key).isSome := by
  rw [containsProperty, h.latest.contains_eq, lastWith?_some]
  rfl

/-- The name of a node is kept with its section. -/
theorem nodeName?_eq (h : s.Valid) : s.nodeName? = s.toSection.nodeName? := by
  rw [nodeName?, h.kind_eq, Section.kind]
  cases s.toSection.nodeName? <;> rfl

/-- The type of a node is kept with its section. -/
theorem nodeType?_eq (h : s.Valid) : s.nodeType? = s.toSection.nodeType? := by
  rw [nodeType?, h.kind_eq, Section.kind, Section.nodeType?]
  cases s.toSection.nodeName? <;> rfl

/-- A change of a section: a property is put in, or the section reaches to a line. -/
inductive Edit where
  | add (p : Property)
  | touch (line : Nat)

/-- What may be done to a section while it is read. -/
def edit (s : IndexedSection) : Edit → IndexedSection
  | .add p => s.addProperty p
  | .touch line => s.touch line

/-- Each edit keeps the tables. -/
theorem Valid.edit (h : s.Valid) (e : Edit) : (s.edit e).Valid := by
  cases e with
  | add p => exact h.addProperty p
  | touch line => exact h.touch line

/-- Any edits one after another keep the tables. -/
theorem Valid.foldl_edit (h : s.Valid) (edits : List Edit) :
    (edits.foldl IndexedSection.edit s).Valid := by
  induction edits generalizing s with
  | nil => exact h
  | cons e edits ih => exact ih (h.edit e)

end IndexedSection

/-! ## Bare entries -/

namespace IndexedEntries

variable {list : IndexedEntries}

/-- The table of a list of entries leads from each text to its latest entry. -/
def Valid (list : IndexedEntries) : Prop :=
  Tabulates list.lines (list.entries.map fun entry => (some entry.text, entry.line))

/-- One entry more keeps the table. -/
theorem Valid.add (h : list.Valid) (entry : Entry) : (list.add entry).Valid := by
  have hnote := h.note entry.text entry.line
  rw [Valid, IndexedEntries.add, List.map_append]
  exact hnote

/-- The line of an entry is looked up alike with the table and without. -/
theorem line?_eq (h : list.Valid) (text : Text) :
    list.line? text = Model.lineOf? list.entries text := by
  rw [line?, h.find, lastWith?_map, lastWith?_some, Option.map_map]
  rfl

end IndexedEntries

/-! ## Models -/

namespace IndexedModel

open IndexedSection

variable {m : IndexedModel}

/-- The tables of a model are those of its sections, their names, its nodes and its entries. -/
structure Valid (m : IndexedModel) : Prop where
  sections : ∀ s ∈ m.sections, s.Valid
  sectionPlaces : Tabulates m.sectionPlaces (places (fun s => some s.name) m.sections)
  nodePlaces : Tabulates m.nodePlaces (places IndexedSection.nodeName? m.sections)
  nodeSections : m.nodeSections = noted IndexedSection.nodeName? m.sections
  inputs : m.inputs.Valid
  outputs : m.outputs.Valid

/-- An empty model has empty tables. -/
theorem valid_empty : IndexedModel.empty.Valid where
  sections := by simp [IndexedModel.empty]
  sectionPlaces := .empty
  nodePlaces := .empty
  nodeSections := rfl
  inputs := .empty
  outputs := .empty

/-- Opening a section keeps the tables: its name leads to it from now on. -/
theorem Valid.openSection (h : m.Valid) (name : Text) (line : Nat) :
    (m.openSection name line).Valid := by
  have hsections : ∀ s ∈ m.sections ++ [opened name line], s.Valid := by
    simpa [or_imp, forall_and] using ⟨h.sections, valid_opened name line⟩
  have hsectionPlaces : Tabulates (m.sectionPlaces.insert name m.sections.length)
      (places (fun s => some s.name) (m.sections ++ [opened name line])) := by
    rw [places_append_singleton]
    exact h.sectionPlaces.note name m.sections.length
  have hplaces := places_append_singleton IndexedSection.nodeName? m.sections (opened name line)
  have hnoted := noted_append_singleton IndexedSection.nodeName? m.sections (opened name line)
  cases hnode : (opened name line).nodeName? with
  | none =>
      have hnodePlaces := h.nodePlaces.note_none m.sections.length
      rw [← hnode, ← hplaces] at hnodePlaces
      rw [hnode, ← h.nodeSections] at hnoted
      simp only [IndexedModel.openSection, hnode]
      exact ⟨hsections, hsectionPlaces, hnodePlaces, by simp [hnoted], h.inputs, h.outputs⟩
  | some node =>
      have hnodePlaces := h.nodePlaces.note node m.sections.length
      rw [← hnode, ← hplaces] at hnodePlaces
      rw [hnode, ← h.nodeSections] at hnoted
      simp only [IndexedModel.openSection, hnode]
      exact ⟨hsections, hsectionPlaces, hnodePlaces, by simp [hnoted], h.inputs, h.outputs⟩

/-- A change of a section that leaves its names as they are. -/
structure KeepsNames (f : IndexedSection → IndexedSection) : Prop where
  valid : ∀ s : IndexedSection, s.Valid → (f s).Valid
  name : ∀ s, (f s).name = s.name
  nodeName? : ∀ s, (f s).nodeName? = s.nodeName?

theorem keepsNames_touch (line : Nat) : KeepsNames (IndexedSection.touch line) :=
  ⟨fun _ h => h.touch line, fun _ => rfl, fun _ => rfl⟩

/-- A property never changes the name of its section. -/
theorem keepsNames_addProperty (p : Property) : KeepsNames (IndexedSection.addProperty p) where
  valid _ h := h.addProperty p
  name _ := rfl
  nodeName? s := by
    rw [IndexedSection.nodeName?, IndexedSection.nodeName?, IndexedSection.addProperty]
    cases s.kind <;> rfl

/-- One change after the other. -/
theorem KeepsNames.comp {f g : IndexedSection → IndexedSection} (hf : KeepsNames f)
    (hg : KeepsNames g) : KeepsNames fun s => f (g s) where
  valid s h := hf.valid _ (hg.valid s h)
  name s := (hf.name _).trans (hg.name s)
  nodeName? s := (hf.nodeName? _).trans (hg.nodeName? s)

/-- A change that keeps the names keeps the tables of names as they are. -/
theorem Valid.updateSection (h : m.Valid) (place? : Option Nat)
    {f : IndexedSection → IndexedSection} (hf : KeepsNames f) : (m.updateSection place? f).Valid := by
  cases place? with
  | none => exact h
  | some place =>
      have hsections : ∀ s ∈ m.sections.modify place f, s.Valid := by
        intro s hs
        obtain ⟨i, hi⟩ := List.getElem?_of_mem hs
        rw [List.getElem?_modify] at hi
        obtain ⟨before, hbefore, rfl⟩ := Option.map_eq_some_iff.mp hi
        have hvalid : before.Valid := h.sections before (List.mem_of_getElem? hbefore)
        by_cases hplace : place = i
        · simpa [hplace] using hf.valid before hvalid
        · simpa [hplace] using hvalid
      have hname : ∀ s, some (f s).name = some s.name := fun s => by rw [hf.name]
      have hsectionPlaces := h.sectionPlaces
      have hnodePlaces := h.nodePlaces
      have hnodeSections := h.nodeSections
      rw [← places_modify hname m.sections place] at hsectionPlaces
      rw [← places_modify hf.nodeName? m.sections place] at hnodePlaces
      rw [← noted_modify hf.nodeName? m.sections place] at hnodeSections
      exact ⟨hsections, hsectionPlaces, hnodePlaces, hnodeSections, h.inputs, h.outputs⟩

/-- An entry goes into one of the lists, and leaves the sections alone. -/
theorem Valid.addEntry (h : m.Valid) (list : EntryList) (entry : Entry) :
    (m.addEntry list entry).Valid := by
  cases list with
  | inputs => exact { h with inputs := h.inputs.add entry }
  | outputs => exact { h with outputs := h.outputs.add entry }

/-! ### Reading -/

/-- Every statement keeps the tables of the model. -/
theorem Valid.step {r : Reading} (h : r.model.Valid) (statement : Statement) :
    (r.step statement).model.Valid := by
  cases statement with
  | header name line => exact h.openSection name line
  | property key value line last =>
      exact h.updateSection r.current
        ((keepsNames_touch last).comp (keepsNames_addProperty ⟨key, value, line⟩))
  | entry list text line last =>
      exact (h.updateSection r.current (keepsNames_touch last)).addEntry list ⟨text, line⟩

/-- Any statements one after another keep the tables of the model. -/
theorem Valid.foldl_step {r : Reading} (h : r.model.Valid) (statements : List Statement) :
    (statements.foldl Reading.step r).model.Valid := by
  induction statements generalizing r with
  | nil => exact h
  | cons statement statements ih => exact ih (h.step statement)

/-- The tables of a model that has been read are those of its sections and entries. -/
theorem valid_read (content : Text) : (read content).Valid := valid_empty.foldl_step (r := .start) _

/-! ### Without the tables -/

/-- A section is opened behind all others. -/
@[simp] theorem sections_openSection (name : Text) (line : Nat) :
    (m.openSection name line).sections = m.sections ++ [opened name line] := by
  rw [openSection]
  cases (opened name line).nodeName? <;> rfl

/-- Entries are no part of the sections. -/
@[simp] theorem sections_addEntry (list : EntryList) (entry : Entry) :
    (m.addEntry list entry).sections = m.sections := by
  cases list <;> rfl

/-- The section that is open is the last one. -/
theorem sections_updateSection {before : List IndexedSection} {s : IndexedSection}
    (h : m.sections = before ++ [s]) (f : IndexedSection → IndexedSection) :
    (m.updateSection (some before.length) f).sections = before ++ [f s] := by
  have hmodify : ∀ before : List IndexedSection,
      (before ++ [s]).modify before.length f = before ++ [f s] := by
    intro before
    induction before with
    | nil => rfl
    | cons other before ih =>
        rw [List.cons_append, List.length_cons, List.modify_succ_cons, ih, List.cons_append]
  rw [updateSection, h]
  exact hmodify before

/-- The statements below a header go into its section, up to the next header. -/
theorem sections_foldl_step {r : Reading} {before : List IndexedSection} {s : IndexedSection}
    (hsections : r.model.sections = before ++ [s]) (hcurrent : r.current = some before.length)
    (statements : List Statement) :
    (statements.foldl Reading.step r).model.sections.map (·.toSection) =
      before.map (·.toSection) ++
        (statements.takeWhile (!·.isHeader)).foldl Statement.addTo s.toSection ::
          Statement.sections statements := by
  induction statements generalizing r before s with
  | nil => simp [hsections, Statement.sections]
  | cons statement statements ih =>
      cases statement with
      | header name line =>
          have hopened : (r.step (.header name line)).model.sections =
              r.model.sections ++ [opened name line] := sections_openSection name line
          rw [List.foldl_cons, ih hopened rfl, hsections, Statement.sections]
          simp [Statement.isHeader, opened]
      | property key value line last =>
          have hupdated : (r.step (.property key value line last)).model.sections =
              before ++ [(s.addProperty ⟨key, value, line⟩).touch last] := by
            rw [Reading.step, hcurrent]
            exact sections_updateSection hsections _
          rw [List.foldl_cons, ih hupdated hcurrent]
          rfl
      | entry list text line last =>
          have hupdated : (r.step (.entry list text line last)).model.sections =
              before ++ [s.touch last] := by
            rw [Reading.step, hcurrent, sections_addEntry]
            exact sections_updateSection hsections _
          rw [List.foldl_cons, ih hupdated hcurrent]
          rfl

/-- Read from the start, the sections are those that the statements make up without tables. -/
theorem sections_foldl_step_start {r : Reading} (hsections : r.model.sections = [])
    (hcurrent : r.current = none) (statements : List Statement) :
    (statements.foldl Reading.step r).model.sections.map (·.toSection) =
      Statement.sections statements := by
  induction statements generalizing r with
  | nil => simp [hsections, Statement.sections]
  | cons statement statements ih =>
      cases statement with
      | header name line =>
          have hopened : (r.step (.header name line)).model.sections = [] ++ [opened name line] := by
            rw [Reading.step, sections_openSection, hsections]
          have hplace : (r.step (.header name line)).current = some 0 := by
            rw [Reading.step, hsections]
            rfl
          exact sections_foldl_step hopened hplace statements
      | property key value line last =>
          have hupdated : (r.step (.property key value line last)).model.sections = [] := by
            rw [Reading.step, hcurrent]
            exact hsections
          exact ih hupdated hcurrent
      | entry list text line last =>
          have hupdated : (r.step (.entry list text line last)).model.sections = [] := by
            rw [Reading.step, hcurrent, sections_addEntry]
            exact hsections
          exact ih hupdated hcurrent

theorem entries_openSection (name : Text) (line : Nat) (list : EntryList) :
    (m.openSection name line).entries list = m.entries list := by
  rw [openSection]
  cases (opened name line).nodeName? <;> cases list <;> rfl

/-- A section that changes leaves the entries alone. -/
theorem entries_updateSection (place? : Option Nat) (f : IndexedSection → IndexedSection)
    (list : EntryList) : (m.updateSection place? f).entries list = m.entries list := by
  cases place? <;> cases list <;> rfl

/-- An entry goes behind the others of its list, and leaves the other list alone. -/
theorem entries_addEntry (list' list : EntryList) (entry : Entry) :
    (m.addEntry list' entry).entries list =
      if list' = list then (m.entries list).add entry else m.entries list := by
  cases list' <;> cases list <;> rfl

/-- The entries are those that the statements hold for the list, in their order. -/
theorem entries_foldl_step (list : EntryList) (r : Reading) (statements : List Statement) :
    ((statements.foldl Reading.step r).model.entries list).entries =
      (r.model.entries list).entries ++ Statement.entries list statements := by
  induction statements generalizing r with
  | nil => simp [Statement.entries]
  | cons statement statements ih =>
      rw [List.foldl_cons, ih]
      cases statement with
      | header name line =>
          rw [Reading.step, entries_openSection]
          rfl
      | property key value line last =>
          rw [Reading.step, entries_updateSection]
          rfl
      | entry list' text line last =>
          rw [Reading.step, entries_addEntry, entries_updateSection, Statement.entries]
          by_cases hlist : list' = list <;> simp [hlist, IndexedEntries.add]

/-- Without the tables, the model is the one that the reader makes of the statements. -/
theorem toModel_read (content : Text) : (read content).toModel = Model.read content := by
  have hsections := sections_foldl_step_start (r := .start) rfl rfl
    (Statement.ofLines none 0 (Text.lines content))
  have hinputs := entries_foldl_step .inputs .start (Statement.ofLines none 0 (Text.lines content))
  have houtputs := entries_foldl_step .outputs .start (Statement.ofLines none 0 (Text.lines content))
  rw [toModel, read, hsections]
  exact congrArg₂ (Model.mk _) hinputs houtputs

end IndexedModel

end CatchmentLint
