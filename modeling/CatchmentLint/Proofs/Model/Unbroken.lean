import CatchmentLint.Proofs.Model.Latest
import CatchmentLint.Proofs.Model.Reading
import CatchmentLint.Proofs.Text.Unbroken

/-!
# CatchmentLint.Proofs.Model.Unbroken

No line feed gets from a file into its model: every name, key, value and entry is taken from lines,
and a statement that goes on over several lines is put together with spaces between them.

* `Line.isUnbroken_read` — what a line says;
* `isUnbroken_read` — what a model holds.
-/

namespace CatchmentLint

open Text

/-! ## Lines -/

namespace Line

/-- What the line says has no line feed. -/
def IsUnbroken : Line → Prop
  | .blank => True
  | .header name => name.Unbroken
  | .keyValue key value => key.Unbroken ∧ value.Unbroken
  | .bare entry => entry.Unbroken

variable {raw : Text}

/-- A line without its comment is a part of the line. -/
theorem stripFrom_subset (scan : Scan) (raw : Text) : stripFrom scan raw ⊆ raw := by
  induction raw generalizing scan with
  | nil => exact List.Subset.refl _
  | cons c raw ih =>
      rw [stripFrom]
      split
      · exact List.nil_subset _
      · exact List.cons_subset_cons c (ih _)

/-- What a line adds to a statement above it is a part of the line. -/
theorem unbroken_continuationText (h : raw.Unbroken) : (continuationText raw).Unbroken :=
  (h.mono (stripFrom_subset _ raw)).trim

/-- The name in a header is a part of the line. -/
theorem unbroken_of_headerName? {trimmed name : Text} (h : trimmed.Unbroken)
    (hname : headerName? trimmed = some name) : name.Unbroken := by
  unfold headerName? at hname
  split at hname
  · contradiction
  · next hlead =>
      split at hname
      · contradiction
      · next htail =>
          simp only [Option.ite_none_left_eq_some, Option.some.injEq] at hname
          exact hname.2 ▸ ((h.dropLead? hlead).dropTail? htail).trim

/-- Whatever a line says, read by itself, is a part of the line. -/
theorem isUnbroken_read (h : raw.Unbroken) : (read raw).IsUnbroken := by
  have htrimmed : (trim (stripComment raw)).Unbroken := unbroken_continuationText h
  simp only [read, classify]
  split
  · trivial
  · split
    · next hname => exact unbroken_of_headerName? htrimmed hname
    · split
      · exact htrimmed
      · next hcut =>
          obtain ⟨hkey, hvalue⟩ := htrimmed.cut? hcut
          split
          · exact htrimmed
          · exact ⟨hkey.trim, hvalue.trim⟩

end Line

namespace Lines

variable {lines : List Text} (hlines : ∀ line ∈ lines, line.Unbroken)

include hlines

/-- A line of a file says nothing with a line feed; beyond the end nothing is said. -/
theorem isUnbroken_saidAt (i : Nat) : (saidAt lines i).IsUnbroken := by
  refine Line.isUnbroken_read ?_
  rw [rawAt, List.getD_eq_getElem?_getD]
  cases h : lines[i]? with
  | none => exact List.not_mem_nil
  | some raw => exact hlines raw (List.mem_of_getElem? h)

/-- A text that goes on over lines is put together with spaces, so that no line feed comes in
between. -/
theorem unbroken_fullText {text : Text} (htext : text.Unbroken) (i : Nat) :
    (fullText lines text i).Unbroken := by
  refine unbroken_join (by decide) fun piece hpiece => ?_
  cases List.mem_cons.mp (List.mem_filter.mp hpiece).1 with
  | inl heq => exact heq ▸ htext
  | inr hmem =>
      obtain ⟨raw, hraw, rfl⟩ := List.mem_map.mp hmem
      exact Line.unbroken_continuationText
        (hlines raw (List.mem_of_mem_drop (List.mem_of_mem_take hraw)))

/-- A header stands on one line, and never goes on. -/
theorem unbroken_of_headerAt? {i : Nat} {name : Text} (h : headerAt? lines i = some name) :
    name.Unbroken := by
  have hsaid := isUnbroken_saidAt hlines i
  rwa [saidAt_of_headerAt? h] at hsaid

/-- The key of a property stands on its line, and its value goes on below. -/
theorem unbroken_of_propertyAt? {i : Nat} {p : Property} (h : propertyAt? lines i = some p) :
    p.key.Unbroken ∧ p.value.Unbroken := by
  have hsaid := isUnbroken_saidAt hlines i
  unfold propertyAt? at h
  split at h
  · next hkeyValue =>
      rw [hkeyValue] at hsaid
      rw [← Option.some.inj h]
      exact ⟨hsaid.1, unbroken_fullText hlines hsaid.2 i⟩
  · contradiction

/-- An entry goes on like a value. -/
theorem unbroken_of_entryAt? {i : Nat} {entry : Entry} (h : entryAt? lines i = some entry) :
    entry.text.Unbroken := by
  have hsaid := isUnbroken_saidAt hlines i
  unfold entryAt? at h
  split at h
  · next hbare =>
      rw [hbare] at hsaid
      rw [← Option.some.inj h]
      exact unbroken_fullText hlines hsaid i
  · contradiction

end Lines

/-! ## Sections -/

namespace Section

/-- No name, key or value of the section has a line feed. -/
structure IsUnbroken (s : Section) : Prop where
  name : s.name.Unbroken
  property : ∀ p ∈ s.occurrences, p.key.Unbroken ∧ p.value.Unbroken

variable {s : Section} (h : s.IsUnbroken)

include h

/-- The name of the node is a part of the section's name. -/
theorem IsUnbroken.nodeName? {name : Text} (hname : s.nodeName? = some name) : name.Unbroken := by
  unfold Section.nodeName? declaredNode? at hname
  split at hname
  · next c rest hlead => exact Option.some.inj hname ▸ h.name.dropLead? hlead
  · contradiction

/-- The type of the node is one of the values. -/
theorem IsUnbroken.nodeType? {type : Text} (htype : s.nodeType? = some type) : type.Unbroken := by
  unfold Section.nodeType? at htype
  split at htype
  · obtain ⟨p, hp, rfl⟩ := Option.map_eq_some_iff.mp htype
    exact (h.property p (lastWith?_eq_some_iff.mp hp).2.mem).2
  · contradiction

end Section

/-! ## Models -/

namespace Model

/-- No section and no list of the model has a line feed in it. -/
structure IsUnbroken (m : Model) : Prop where
  body : ∀ s ∈ m.sections, s.IsUnbroken
  input : ∀ entry ∈ m.inputs, entry.text.Unbroken
  output : ∀ entry ∈ m.outputs, entry.text.Unbroken

/-- No node that the model declares has a line feed. -/
theorem IsUnbroken.node {m : Model} (h : m.IsUnbroken) {node : Node} (hnode : node ∈ m.declaredNodes) :
    node.name.Unbroken ∧ node.body.IsUnbroken := by
  obtain ⟨s, hs, hnode⟩ := List.mem_filterMap.mp hnode
  obtain ⟨name, hname, rfl⟩ := Option.map_eq_some_iff.mp hnode
  exact ⟨(h.body s hs).nodeName? hname, h.body s hs⟩

/-- No line feed of a file gets into the model that is read of it: every part of the model stands on
a line or is put together from lines. -/
theorem isUnbroken_read (content : Text) : (read content).IsUnbroken := by
  have hlines := unbroken_of_mem_lines content
  have hentries : ∀ list, ∀ entry ∈ Statement.entries list (Statement.ofLines none 0 (lines content)),
      entry.text.Unbroken := by
    intro list entry hentry
    obtain ⟨i, hi⟩ := Lines.exists_entryAt? hentry
    exact Lines.unbroken_of_entryAt? hlines hi
  refine ⟨fun s hs => ⟨?_, fun p hp => ?_⟩, hentries .inputs, hentries .outputs⟩
  · obtain ⟨i, -, hheader, -⟩ := Lines.exists_headerAt? hs
    exact Lines.unbroken_of_headerAt? hlines hheader
  · obtain ⟨i, hi⟩ := Lines.exists_propertyAt? hs hp
    exact Lines.unbroken_of_propertyAt? hlines hi

end Model

end CatchmentLint
