import CatchmentLint.Proofs.Model.LineForms
import CatchmentLint.Proofs.Model.Reading

/-!
# CatchmentLint.Proofs.Model.Layout

How a model lies on the lines of its text, and what its texts look like.

* `Stacked` — the statements of a text stand one below another, and none reaches into the next;
* `Stacked.isLaidOut` — so a section ends below all that it holds, and `Stacked.pairwise_sections` —
  above the next header;
* `Filed` — an entry stands under the header of its list, and `Stacked.exists_section` — the section
  of that header reaches to it;
* `read_isLaidOut` — all this of the model of a text, and no name, key, value or entry has blank ends.
-/

namespace CatchmentLint

/-! ## Statements on their lines -/

namespace Statement

/-- The line that a statement begins on. -/
def line : Statement → Nat
  | .header _ line => line
  | .property _ _ line _ => line
  | .entry _ _ line _ => line

/-- The last line that belongs to the statement. -/
def last : Statement → Nat
  | .header _ line => line
  | .property _ _ _ last => last
  | .entry _ _ _ last => last

/-- The statements stand one below another, with all their lines, and end at line `high` at the
latest. -/
structure Stacked (high : Nat) (statements : List Statement) : Prop where
  span : ∀ statement ∈ statements, statement.line ≤ statement.last ∧ statement.last ≤ high
  apart : statements.Pairwise fun above below => above.last < below.line

variable {high : Nat} {statements : List Statement}

/-- Some of the statements are stacked as all of them are. -/
theorem Stacked.of_sublist {part : List Statement} (h : Stacked high statements)
    (hpart : part.Sublist statements) : Stacked high part :=
  ⟨fun statement hmem => h.span statement (hpart.subset hmem), h.apart.sublist hpart⟩

/-- Statements begin one below another. -/
theorem Stacked.ascends (h : Stacked high statements) :
    statements.Pairwise fun above below => above.line < below.line :=
  h.apart.imp_of_mem fun hmem _ hlt => Nat.lt_of_le_of_lt (h.span _ hmem).1 hlt

end Statement

namespace Lines

variable {lines : List Text} {i j : Nat} {statement : Statement}

/-- A statement begins on its line, and ends with the lines that go on with it. -/
theorem bounds_of_statementAt? (h : statementAt? lines i = some statement) :
    isConsumed lines i = false ∧ statement.line = i + 1 ∧ i + 1 ≤ statement.last ∧
      statement.last ≤ i + 1 + consumedAfter lines i := by
  unfold statementAt? at h
  split at h
  · contradiction
  · next hconsumed =>
      refine ⟨by simpa using hconsumed, ?_⟩
      split at h
      · contradiction
      · cases h
        simp [Statement.line, Statement.last]
      · obtain ⟨_, -, rfl⟩ := Option.map_eq_some_iff.mp h
        simp [Statement.line, Statement.last]
      · obtain ⟨_, -, rfl⟩ := Option.map_eq_some_iff.mp h
        simp [Statement.line, Statement.last]

/-- A line that is not consumed stands below all that a line above it consumes. -/
theorem lt_of_isConsumed_eq_false (hij : i < j) (hj : j < lines.length)
    (h : isConsumed lines j = false) : i + consumedAfter lines i < j := by
  refine Nat.lt_of_not_le fun hle => ?_
  have htaken : (List.range' (i + 1) (lines.length - (i + 1))).takeWhile (isConsumed lines) =
      (List.range' (i + 1) (lines.length - (i + 1))).take (consumedAfter lines i) :=
    List.prefix_iff_eq_take.mp (List.takeWhile_prefix _)
  have hmem : j ∈ (List.range' (i + 1) (lines.length - (i + 1))).takeWhile (isConsumed lines) := by
    rw [htaken, List.mem_take_iff_getElem]
    exact ⟨j - (i + 1), by simp; omega, by simp; omega⟩
  have hconsumed : isConsumed lines j = true := of_mem_takeWhile hmem
  rw [h] at hconsumed
  contradiction

/-- The statements of a text are stacked. -/
theorem stacked_statements (lines : List Text) : Statement.Stacked lines.length
    ((List.range' 0 lines.length).filterMap (statementAt? lines)) where
  span statement hmem := by
    obtain ⟨i, hi, hstatement⟩ := List.mem_filterMap.mp hmem
    obtain ⟨-, hline, hle, hlast⟩ := bounds_of_statementAt? hstatement
    have hcount : consumedAfter lines i ≤ (List.range' (i + 1) (lines.length - (i + 1))).length :=
      (List.takeWhile_prefix (isConsumed lines)).length_le
    rw [List.length_range'] at hcount
    have hlt := (List.mem_range'_1.mp hi).2
    omega
  apart := by
    refine List.pairwise_filterMap.mpr ((List.pairwise_lt_range' _).imp_of_mem ?_)
    intro i j _ hj hij above habove below hbelow
    obtain ⟨-, -, -, hlast⟩ := bounds_of_statementAt? habove
    obtain ⟨hconsumed, hline, -, -⟩ := bounds_of_statementAt? hbelow
    have hjlt : j < lines.length := by simpa using (List.mem_range'_1.mp hj).2
    have hlt := lt_of_isConsumed_eq_false hij hjlt hconsumed
    omega

end Lines

/-! ## Sections -/

/-- The section lies on some of `count` lines: its properties stand one below another, under its
header, and it ends with the last of them or further down. -/
structure Section.IsLaidOut (count : Nat) (s : Section) : Prop where
  start_le_end : s.startLine ≤ s.endLine
  end_le : s.endLine ≤ count
  ascend : s.occurrences.Pairwise fun p q => p.line < q.line
  inside : ∀ p ∈ s.occurrences, s.startLine < p.line ∧ p.line ≤ s.endLine

namespace Statement

variable {high : Nat} {statements rest : List Statement} {s : Section} {name : Text} {line : Nat}

/-- The section that a header opens and the statements after it fill. -/
def sectionOf (name : Text) (line : Nat) (rest : List Statement) : Section :=
  (rest.takeWhile (!·.isHeader)).foldl addTo (.opened name line)

/-- Every section is filled by what follows its header. -/
theorem exists_of_mem_sections (h : s ∈ sections statements) :
    ∃ name line rest, .header name line :: rest <:+ statements ∧ s = sectionOf name line rest := by
  induction statements with
  | nil => cases h
  | cons statement rest ih =>
      have hrest : s ∈ sections rest → ∃ name line rest',
          .header name line :: rest' <:+ statement :: rest ∧ s = sectionOf name line rest' := by
        intro hmem
        obtain ⟨name, line, rest', hsuffix, hs⟩ := ih hmem
        exact ⟨name, line, rest', hsuffix.trans (List.suffix_cons statement rest), hs⟩
      cases statement with
      | header name line =>
          cases List.mem_cons.mp h with
          | inl heq => exact ⟨name, line, rest, List.suffix_rfl, heq⟩
          | inr hmem => exact hrest hmem
      | property key value line last => exact hrest h
      | entry list text line last => exact hrest h

/-- A section ends where the last of its statements ends. -/
theorem endLine_foldl_addTo_le_iff {bound : Nat}
    (h : ∀ statement ∈ statements, statement.isHeader = false ∧ statement.line ≤ statement.last) :
    (statements.foldl addTo s).endLine ≤ bound ↔
      s.endLine ≤ bound ∧ ∀ statement ∈ statements, statement.last ≤ bound := by
  induction statements generalizing s with
  | nil => simp
  | cons statement statements ih =>
      obtain ⟨⟨hheader, hspan⟩, hothers⟩ := List.forall_mem_cons.mp h
      have hadded : (addTo s statement).endLine = max s.endLine statement.last := by
        cases statement with
        | header name line => contradiction
        | property key value line last =>
            have hle : line ≤ last := hspan
            simp only [addTo, Section.extend, Section.record, Statement.last]
            omega
        | entry list text line last => rfl
      rw [List.foldl_cons, ih hothers, hadded, Nat.max_le, List.forall_mem_cons, and_assoc]

/-- Where the section of a header ends: below all that it holds, and where the last of this ends. -/
structure Reaches (line : Nat) (run : List Statement) (s : Section) : Prop where
  start_eq : s.startLine = line
  start_le_end : line ≤ s.endLine
  inside : ∀ statement ∈ run, line < statement.line ∧ statement.last ≤ s.endLine
  least : ∀ bound, line ≤ bound → (∀ statement ∈ run, statement.last ≤ bound) → s.endLine ≤ bound

/-- A section reaches to the end of its last statement. -/
theorem Stacked.reaches (h : Stacked high (.header name line :: rest)) :
    Reaches line (rest.takeWhile (!·.isHeader)) (sectionOf name line rest) := by
  have hrun : ∀ statement ∈ rest.takeWhile (!·.isHeader),
      statement.isHeader = false ∧ statement.line ≤ statement.last := by
    intro statement hmem
    refine ⟨by simpa using of_mem_takeWhile hmem, ?_⟩
    exact (h.span statement (List.mem_cons_of_mem _ ((List.takeWhile_prefix _).mem hmem))).1
  have hend : ∀ bound, (sectionOf name line rest).endLine ≤ bound ↔
      line ≤ bound ∧ ∀ statement ∈ rest.takeWhile (!·.isHeader), statement.last ≤ bound :=
    fun _ => endLine_foldl_addTo_le_iff hrun
  obtain ⟨hstart, hlast⟩ := (hend _).mp (Nat.le_refl _)
  constructor
  · exact (Lines.foldl_addTo _ _).2.1
  · exact hstart
  · intro statement hmem
    refine ⟨?_, hlast statement hmem⟩
    exact (List.pairwise_cons.mp h.apart).1 statement ((List.takeWhile_prefix _).mem hmem)
  · intro bound hline hbound
    exact (hend bound).mpr ⟨hline, hbound⟩

theorem line_of_propertyFor? {statement : Statement} {p : Property}
    (h : Lines.propertyFor? statement = some p) : p.line = statement.line := by
  cases statement <;> cases h
  rfl

/-- Every section ends below all that it holds. -/
theorem Stacked.isLaidOut (h : Stacked high statements) (hs : s ∈ sections statements) :
    s.IsLaidOut high := by
  obtain ⟨name, line, rest, hsuffix, rfl⟩ := exists_of_mem_sections hs
  have hstacked : Stacked high (.header name line :: rest) := h.of_sublist hsuffix.sublist
  have hreaches := hstacked.reaches
  have hrun : (rest.takeWhile (!·.isHeader)).Sublist (.header name line :: rest) :=
    (List.takeWhile_prefix _).sublist.cons _
  have hoccurrences : (sectionOf name line rest).occurrences =
      (rest.takeWhile (!·.isHeader)).filterMap Lines.propertyFor? := (Lines.foldl_addTo _ _).2.2
  constructor
  · rw [hreaches.start_eq]
    exact hreaches.start_le_end
  · refine hreaches.least high ?_ fun statement hmem => ?_
    · exact (hstacked.span _ List.mem_cons_self).2
    · exact (hstacked.span statement (hrun.subset hmem)).2
  · rw [hoccurrences]
    refine List.pairwise_filterMap.mpr ((hstacked.of_sublist hrun).ascends.imp ?_)
    intro above below hlt p hp q hq
    rwa [line_of_propertyFor? hp, line_of_propertyFor? hq]
  · intro p hp
    rw [hoccurrences] at hp
    obtain ⟨statement, hmem, hproperty⟩ := List.mem_filterMap.mp hp
    obtain ⟨hstart, hend⟩ := hreaches.inside statement hmem
    have hspan := (hstacked.span statement (hrun.subset hmem)).1
    rw [line_of_propertyFor? hproperty, hreaches.start_eq]
    omega

/-- A section ends above the next header. -/
theorem Stacked.pairwise_sections (h : Stacked high statements) :
    (sections statements).Pairwise fun s t => s.endLine < t.startLine := by
  induction statements with
  | nil => exact .nil
  | cons statement rest ih =>
      have hrest : Stacked high rest := h.of_sublist (List.sublist_cons_self statement rest)
      cases statement with
      | header name line =>
          refine List.pairwise_cons.mpr ⟨fun t ht => ?_, ih hrest⟩
          obtain ⟨name', line', rest', hsuffix, rfl⟩ := exists_of_mem_sections ht
          have hstart := (hrest.of_sublist hsuffix.sublist).reaches.start_eq
          have hmem : .header name' line' ∈ rest := hsuffix.subset List.mem_cons_self
          -- The next header is the end of what fills this section.
          have hbelow : .header name' line' ∈ rest.dropWhile (!·.isHeader) :=
            mem_dropWhile_of_mem hmem rfl
          have happart := hrest.apart
          rw [← List.takeWhile_append_dropWhile (p := (!·.isHeader)) (l := rest)] at happart
          have hline : line < line' := (List.pairwise_cons.mp h.apart).1 _ hmem
          have hbound : (sectionOf name line rest).endLine ≤ line' - 1 := by
            refine h.reaches.least _ (by omega) fun statement hrun => ?_
            have hlt : statement.last < line' :=
              (List.pairwise_append.mp happart).2.2 statement hrun _ hbelow
            omega
          change (sectionOf name line rest).endLine < _
          omega
      | property key value line last => exact ih hrest
      | entry list text line last => exact ih hrest

/-! ## Entries -/

/-- An entry is a statement of its own. -/
theorem exists_of_entryFor? {list : EntryList} {statement : Statement} {entry : Entry}
    (h : Lines.entryFor? list statement = some entry) :
    ∃ last, statement = .entry list entry.text entry.line last := by
  cases statement with
  | header name line => contradiction
  | property key value line last => contradiction
  | entry list' text line last =>
      by_cases hlist : list' = list
      · rw [Lines.entryFor?, if_pos hlist] at h
        cases h
        exact ⟨last, by rw [hlist]⟩
      · rw [Lines.entryFor?, if_neg hlist] at h
        contradiction

/-- The entries of a list stand one below another. -/
theorem Stacked.pairwise_entries (h : Stacked high statements) (list : EntryList) :
    (entries list statements).Pairwise fun above below => above.line < below.line := by
  rw [Lines.entries_eq_filterMap]
  refine List.pairwise_filterMap.mpr (h.ascends.imp ?_)
  intro above below hlt a ha b hb
  obtain ⟨_, rfl⟩ := exists_of_entryFor? ha
  obtain ⟨_, rfl⟩ := exists_of_entryFor? hb
  exact hlt

/-- Every entry of the list comes from a statement. -/
theorem exists_of_mem_entries {list : EntryList} {entry : Entry} (h : entry ∈ entries list statements) :
    ∃ last, .entry list entry.text entry.line last ∈ statements := by
  rw [Lines.entries_eq_filterMap] at h
  obtain ⟨statement, hmem, hentry⟩ := List.mem_filterMap.mp h
  obtain ⟨last, rfl⟩ := exists_of_entryFor? hentry
  exact ⟨last, hmem⟩

/-- Every entry stands under a header of its list; `current` is the header above the first
statement. -/
def Filed : Option Text → List Statement → Prop
  | _, [] => True
  | _, .header name _ :: rest => Filed (some name) rest
  | current, .property _ _ _ _ :: rest => Filed current rest
  | current, .entry list _ _ _ :: rest =>
    current.bind EntryList.ofSection? = some list ∧ Filed current rest

/-- Every entry is filed under the header above it. -/
theorem filed_ofLines (current : Option Text) (read : Nat) (lines : List Text) :
    Filed current (ofLines current read lines) := by
  fun_induction ofLines current read lines with
  | case1 => trivial
  | case2 current read raw rest hsaid ih => exact ih
  | case3 current read raw rest name hsaid ih => exact ih
  | case4 read raw rest key value hsaid ih => exact ih
  | case5 read raw rest continuations last key value hsaid name ih => exact ih
  | case6 current read raw rest text hsaid hlist ih => exact ih
  | case7 current read raw rest continuations last text hsaid list hlist ih => exact ⟨hlist, ih⟩

/-- The section of the header above an entry reaches to the entry. -/
theorem Stacked.exists_section {current : Option Text} {list : EntryList} {text : Text}
    {last : Nat} (h : Stacked high statements) (hfiled : Filed current statements)
    (hentry : .entry list text line last ∈ statements) :
    (.entry list text line last ∈ statements.takeWhile (!·.isHeader) ∧
        current.bind EntryList.ofSection? = some list) ∨
      ∃ s ∈ sections statements, s.startLine < line ∧ last ≤ s.endLine ∧
        EntryList.ofSection? s.name = some list := by
  -- Up to the next header an entry is filed under the open one, and behind it in a section.
  induction statements generalizing current with
  | nil => cases hentry
  | cons statement rest ih =>
      have hrest : Stacked high rest := h.of_sublist (List.sublist_cons_self statement rest)
      cases statement with
      | header name' line' =>
          have hmem := (List.mem_cons.mp hentry).resolve_left nofun
          refine .inr ?_
          cases ih hrest hfiled hmem with
          | inl hrun =>
              have hreaches := h.reaches
              obtain ⟨hstart, hend⟩ := hreaches.inside _ hrun.1
              have hname : (sectionOf name' line' rest).name = name' := (Lines.foldl_addTo _ _).1
              refine ⟨sectionOf name' line' rest, List.mem_cons_self, ?_, hend, ?_⟩
              · rw [hreaches.start_eq]
                exact hstart
              · rw [hname]
                exact hrun.2
          | inr hlater =>
              obtain ⟨s, hs, hreached⟩ := hlater
              exact ⟨s, List.mem_cons_of_mem _ hs, hreached⟩
      | property key value line' last' =>
          have hmem := (List.mem_cons.mp hentry).resolve_left nofun
          exact (ih hrest hfiled hmem).imp_left fun hrun =>
            ⟨List.mem_cons_of_mem _ hrun.1, hrun.2⟩
      | entry list' text' line' last' =>
          cases List.mem_cons.mp hentry with
          | inl heq =>
              cases heq
              exact .inl ⟨List.mem_cons_self, hfiled.1⟩
          | inr hmem =>
              exact (ih hrest hfiled.2 hmem).imp_left fun hrun =>
                ⟨List.mem_cons_of_mem _ hrun.1, hrun.2⟩

end Statement

/-! ## Texts -/

/-- A text that is not empty and has no blank ends. -/
structure Text.IsWord (s : Text) : Prop where
  nonempty : s ≠ []
  trimmed : Text.Trimmed s

/-- The key and the value have no blank ends. -/
structure Property.IsTrimmed (p : Property) : Prop where
  key : Text.IsWord p.key
  no_equals : '=' ∉ p.key
  value : Text.Trimmed p.value

namespace Line

/-- What a line says has no blank ends, and only a value may be empty. -/
def IsTrimmed : Line → Prop
  | .blank => True
  | .header name => Text.IsWord name
  | .keyValue key value => Text.IsWord key ∧ '=' ∉ key ∧ Text.Trimmed value
  | .bare entry => Text.IsWord entry

/-- The name in a header is not empty and has no blank ends. -/
theorem isWord_of_headerName? {s name : Text} (h : headerName? s = some name) : Text.IsWord name := by
  obtain ⟨inner, rfl, -⟩ := isSome_headerName?_iff.mp (by rw [h]; rfl)
  rw [headerName?_bracketed] at h
  split at h
  · contradiction
  · next hname =>
      cases h
      exact ⟨fun hnil => hname (.inl hnil), Text.trimmed_trim inner⟩

/-- What a line says has no blank ends. -/
theorem isTrimmed_read (raw : Text) : (read raw).IsTrimmed := by
  have hword : ∀ {s : Text}, Text.trim s ≠ [] → Text.IsWord (Text.trim s) :=
    fun hne => ⟨hne, Text.trimmed_trim _⟩
  unfold read classify
  simp only
  split
  · trivial
  · next hne =>
      split
      · next name hname => exact isWord_of_headerName? hname
      · split
        · exact hword hne
        · next before after hcut =>
            split
            · exact hword hne
            · next hkey =>
                have hbefore : '=' ∉ before := (Text.cut?_eq_some_iff.mp hcut).2
                exact ⟨hword hkey, fun hmem => hbefore (Text.mem_of_mem_trim hmem),
                  Text.trimmed_trim after⟩

end Line

namespace Lines

variable {lines : List Text} {i : Nat}

/-- Continuation lines leave the ends of a text as they are, or put their own there. -/
theorem trimmed_fullText {text : Text} (h : Text.Trimmed text) :
    Text.Trimmed (fullText lines text i) := by
  refine Text.trimmed_join fun piece hpiece => ?_
  obtain ⟨hmem, hne⟩ := List.mem_filter.mp hpiece
  refine ⟨by simpa using hne, ?_⟩
  cases List.mem_cons.mp hmem with
  | inl heq => rwa [heq]
  | inr hcontinued =>
      obtain ⟨raw, -, rfl⟩ := List.mem_map.mp hcontinued
      exact Text.trimmed_trim _

/-- A text that goes on is not empty if its first line is not. -/
theorem fullText_ne_nil {text : Text} (h : text ≠ []) : fullText lines text i ≠ [] := by
  refine Text.join_ne_nil ?_ fun piece hpiece => by simpa using (List.mem_filter.mp hpiece).2
  simp [h]

/-- A property has no blank ends, however many lines it goes on over. -/
theorem isTrimmed_of_propertyAt? {p : Property} (h : propertyAt? lines i = some p) :
    p.IsTrimmed := by
  have hsaid := Line.isTrimmed_read (rawAt lines i)
  rw [← saidAt] at hsaid
  unfold propertyAt? at h
  split at h
  · next key value _ hkey =>
      cases h
      rw [hkey] at hsaid
      obtain ⟨hword, hequals, hvalue⟩ := hsaid
      exact ⟨hword, hequals, trimmed_fullText hvalue⟩
  · contradiction

/-- An entry is not empty and has no blank ends. -/
theorem isWord_of_entryAt? {entry : Entry} (h : entryAt? lines i = some entry) :
    Text.IsWord entry.text := by
  have hsaid := Line.isTrimmed_read (rawAt lines i)
  rw [← saidAt] at hsaid
  unfold entryAt? at h
  split at h
  · next text _ hbare =>
      cases h
      rw [hbare] at hsaid
      exact ⟨fullText_ne_nil hsaid.nonempty, trimmed_fullText hsaid.trimmed⟩
  · contradiction

/-- A section has the name that the header on its first line says. -/
theorem isWord_sectionName {content : Text} {s : Section}
    (hs : s ∈ (Model.read content).sections) : Text.IsWord s.name := by
  obtain ⟨i, -, hname, -⟩ := exists_headerAt? hs
  have hsaid := Line.isTrimmed_read (rawAt (Text.lines content) i)
  rwa [← saidAt, saidAt_of_headerAt? hname] at hsaid

end Lines

/-! ## Models -/

namespace Model

/-- The entries of one of the lists. -/
def entriesOf (m : Model) : EntryList → List Entry
  | .inputs => m.inputs
  | .outputs => m.outputs

/-- The line stands under the header of the section: no header above it is nearer. -/
structure IsUnder (m : Model) (s : Section) (line : Nat) : Prop where
  mem : s ∈ m.sections
  above : s.startLine < line
  nearest : ∀ t ∈ m.sections, t.startLine < line → t.startLine ≤ s.startLine

/-- The model lies on some of `count` lines: a section ends above the next one and holds what stands
under its header, one below another. -/
structure IsLaidOut (count : Nat) (m : Model) : Prop where
  sections_apart : m.sections.Pairwise fun s t => s.startLine < t.startLine ∧ s.endLine < t.startLine
  sections : ∀ s ∈ m.sections, s.IsLaidOut count
  entries_ascend : ∀ list, (m.entriesOf list).Pairwise fun a b => a.line < b.line
  entries_inside : ∀ list, ∀ entry ∈ m.entriesOf list, ∃ s, m.IsUnder s entry.line ∧
    s.name = Lines.listName list ∧ entry.line ≤ s.endLine
  entries_apart : ∀ list, ∀ entry ∈ m.entriesOf list, ∀ s ∈ m.sections, ∀ p ∈ s.occurrences,
    p.line ≠ entry.line

/-- No text of the model has blank ends, only values may be empty, and no key holds the sign that ends
it. -/
structure IsTrimmed (m : Model) : Prop where
  names : ∀ s ∈ m.sections, Text.IsWord s.name
  properties : ∀ s ∈ m.sections, ∀ p ∈ s.occurrences, p.IsTrimmed
  entries : ∀ list, ∀ entry ∈ m.entriesOf list, Text.IsWord entry.text

variable {content : Text} {list : EntryList} {entry : Entry}

/-- The entries of a text are those of its statements. -/
theorem entriesOf_read (content : Text) (list : EntryList) : (read content).entriesOf list =
    Statement.entries list (Statement.ofLines none 0 (Text.lines content)) := by
  cases list <;> rfl

/-- Every entry stands on a line of the text. -/
theorem exists_entryAt? (h : entry ∈ (read content).entriesOf list) :
    ∃ i, Lines.entryAt? (Text.lines content) i = some entry := by
  rw [entriesOf_read] at h
  exact Lines.exists_entryAt? h

/-- The statements of a text are stacked on its lines. -/
theorem stacked_read (content : Text) : Statement.Stacked (Text.lines content).length
    (Statement.ofLines none 0 (Text.lines content)) := by
  rw [Lines.ofLines_lines]
  exact Lines.stacked_statements _

/-- A section that reaches to a line below its header is the one that the line stands under. -/
theorem isUnder_of_le_endLine {m : Model} {s : Section} {line : Nat}
    (happart : m.sections.Pairwise fun s t => s.startLine < t.startLine ∧ s.endLine < t.startLine)
    (hs : s ∈ m.sections) (habove : s.startLine < line) (hend : line ≤ s.endLine) :
    m.IsUnder s line := by
  refine ⟨hs, habove, fun t ht htline => ?_⟩
  obtain ⟨before, after, hsplit⟩ := List.append_of_mem hs
  rw [hsplit] at happart ht
  obtain ⟨-, hafter, hbefore⟩ := List.pairwise_append.mp happart
  cases List.mem_append.mp ht with
  | inl hmem => exact Nat.le_of_lt (hbefore t hmem s List.mem_cons_self).1
  | inr hmem =>
      cases List.mem_cons.mp hmem with
      | inl heq => exact Nat.le_of_eq (by rw [heq])
      | inr hlater =>
          have hbelow := ((List.pairwise_cons.mp hafter).1 t hlater).2
          omega

/-- The model of a text lies on the lines of the text: its headers stand one below another, each
section ends on a line of the text above the next header, and its properties and the entries under it
stand between, one below another.  Names, keys and entries are not empty, and they and all values are
without blank ends; no key holds an equals sign. -/
theorem read_isLaidOut (content : Text) :
    (read content).IsLaidOut (Text.lines content).length ∧ (read content).IsTrimmed := by
  have hstacked := stacked_read content
  have hlaid : ∀ s ∈ (read content).sections, s.IsLaidOut (Text.lines content).length :=
    fun s hs => hstacked.isLaidOut hs
  have happart : (read content).sections.Pairwise fun s t =>
      s.startLine < t.startLine ∧ s.endLine < t.startLine :=
    hstacked.pairwise_sections.imp_of_mem fun hs _ hlt =>
      ⟨Nat.lt_of_le_of_lt (hlaid _ hs).start_le_end hlt, hlt⟩
  constructor
  · constructor
    · exact happart
    · exact hlaid
    · intro list
      rw [entriesOf_read]
      exact hstacked.pairwise_entries list
    · intro list entry hentry
      rw [entriesOf_read] at hentry
      obtain ⟨last, hmem⟩ := Statement.exists_of_mem_entries hentry
      have hspan : entry.line ≤ last := (hstacked.span _ hmem).1
      -- Above the first header no list is open, and so the entry stands in a section.
      obtain ⟨s, hs, hstart, hend, hlist⟩ :=
        (hstacked.exists_section (Statement.filed_ofLines none 0 _) hmem).resolve_left nofun
      have hreached : entry.line ≤ s.endLine := Nat.le_trans hspan hend
      exact ⟨s, isUnder_of_le_endLine happart hs hstart hreached,
        Lines.ofSection?_eq_some_iff.mp hlist, hreached⟩
    · intro list entry hentry s hs p hp
      obtain ⟨i, hi⟩ := Lines.exists_propertyAt? hs hp
      obtain ⟨j, hj⟩ := exists_entryAt? hentry
      exact Lines.line_ne_of_propertyAt? hi hj
  · constructor
    · exact fun s hs => Lines.isWord_sectionName hs
    · intro s hs p hp
      obtain ⟨i, hi⟩ := Lines.exists_propertyAt? hs hp
      exact Lines.isTrimmed_of_propertyAt? hi
    · intro list entry hentry
      obtain ⟨i, hi⟩ := exists_entryAt? hentry
      exact Lines.isWord_of_entryAt? hi

/-- A continuation line that says nothing belongs to the section all the same. -/
example : (read "[a]\nk = v\n  ; nothing\n\n[b]".toList).sections =
    [⟨['a'], 1, 3, [⟨['k'], ['v'], 2⟩]⟩, ⟨['b'], 5, 5, []⟩] := by decide +kernel

end Model

end CatchmentLint
