import CatchmentLint.Proofs.Model.Reading
import CatchmentLint.Proofs.Text.Lines

/-!
# CatchmentLint.Proofs.Model.Joining

A model file that is cut in front of a header reads as its two parts, one after the other:

1. no statement reaches past a header, and a header forgets what stands above it
   (`ofLines_append`);
2. lines count from the start of the file, so those of the second part stand further down by the
   number of lines of the first (`ofLines_add`);
3. sections and entries are made of statements, and are joined and moved down as they are
   (`ofStatements_append`, `ofStatements_down`).
-/

namespace CatchmentLint

/-! ## Further down -/

/-- The property on a line further down. -/
def Property.down (count : Nat) (p : Property) : Property := { p with line := p.line + count }

/-- The entry on a line further down. -/
def Entry.down (count : Nat) (e : Entry) : Entry := { e with line := e.line + count }

/-- The section with all of its lines further down. -/
def Section.down (count : Nat) (s : Section) : Section :=
  { s with
    startLine := s.startLine + count
    endLine := s.endLine + count
    occurrences := s.occurrences.map (.down count) }

/-- The statement on a line further down. -/
def Statement.down (count : Nat) : Statement → Statement
  | .header name line => .header name (line + count)
  | .property key value line last => .property key value (line + count) (last + count)
  | .entry list text line last => .entry list text (line + count) (last + count)

namespace Model

/-- The model of a text that stands below `count` lines. -/
def down (count : Nat) (m : Model) : Model :=
  ⟨m.sections.map (.down count), m.inputs.map (.down count), m.outputs.map (.down count)⟩

/-- What two models hold, one after the other. -/
def append (above below : Model) : Model :=
  ⟨above.sections ++ below.sections, above.inputs ++ below.inputs, above.outputs ++ below.outputs⟩

end Model

/-! ## Statements -/

namespace Statement

/-- The first of the lines, if there is one, is a header. -/
def StartsWithHeader (lines : List Text) : Prop :=
  ∀ raw ∈ lines.head?, ∃ name, Line.read raw = .header name

/-- A header goes on with nothing above it. -/
theorem StartsWithHeader.startsOutside {lines : List Text} (h : StartsWithHeader lines) :
    StartsOutside Line.isContinuation lines := by
  intro raw hraw
  obtain ⟨name, hname⟩ := h raw hraw
  exact Lines.isContinuation_of_header hname

/-- The statements below a header belong to no section above it. -/
theorem StartsWithHeader.statements {lines : List Text} (h : StartsWithHeader lines)
    (current : Option Text) (read : Nat) :
    StartsOutside (!·.isHeader) (ofLines current read lines) := by
  cases lines with
  | nil => simp [ofLines, StartsOutside]
  | cons raw rest =>
      obtain ⟨name, hname⟩ := h raw rfl
      simp [ofLines, hname, StartsOutside, isHeader]

/-- From a header on it does not matter which section is open. -/
theorem ofLines_of_startsWithHeader {lines : List Text} (h : StartsWithHeader lines)
    (current current' : Option Text) (read : Nat) :
    ofLines current read lines = ofLines current' read lines := by
  cases lines with
  | nil => simp [ofLines]
  | cons raw rest =>
      obtain ⟨name, hname⟩ := h raw rfl
      rw [ofLines, ofLines, hname]

/-- The lines above a line that continues nothing give the statements that they give by themselves,
and leave the same section open, whatever is below. -/
theorem exists_ofLines_append (current : Option Text) (read : Nat) (above : List Text) :
    ∃ current', ∀ below, StartsOutside Line.isContinuation below →
      ofLines current read (above ++ below) =
        ofLines current read above ++ ofLines current' (read + above.length) below := by
  have hlast : ∀ (read : Nat) (rest : List Text),
      read + 1 + (rest.takeWhile Line.isContinuation).length +
        (rest.dropWhile Line.isContinuation).length = read + (rest.length + 1) := by
    intro read rest
    have hlength := length_takeWhile_add_dropWhile Line.isContinuation rest
    omega
  have hnext : ∀ read count : Nat, read + 1 + count = read + (count + 1) := by omega
  -- Properties and entries alone look at the lines behind them, and what is below continues
  -- nothing.
  fun_induction ofLines current read above with
  | case1 current read => exact ⟨current, fun below _ => rfl⟩
  | case2 current read raw rest hsaid ih =>
      obtain ⟨current', ih⟩ := ih
      refine ⟨current', fun below hbelow => ?_⟩
      simp only [List.cons_append, ofLines, hsaid, ih below hbelow, List.length_cons, hnext]
  | case3 current read raw rest name hsaid ih =>
      obtain ⟨current', ih⟩ := ih
      refine ⟨current', fun below hbelow => ?_⟩
      simp only [List.cons_append, ofLines, hsaid, ih below hbelow, List.length_cons, hnext]
  | case4 read raw rest key value hsaid ih =>
      obtain ⟨current', ih⟩ := ih
      refine ⟨current', fun below hbelow => ?_⟩
      simp only [List.cons_append, ofLines, hsaid, ih below hbelow, List.length_cons, hnext]
  | case5 read raw rest continuations last key value hsaid name ih =>
      obtain ⟨current', ih⟩ := ih
      refine ⟨current', fun below hbelow => ?_⟩
      simp only [last, continuations, hlast] at ih ⊢
      simp only [List.cons_append, ofLines, hsaid, takeWhile_append_eq hbelow,
        dropWhile_append_eq hbelow, ih below hbelow, List.length_cons]
  | case6 current read raw rest text hsaid hlist ih =>
      obtain ⟨current', ih⟩ := ih
      refine ⟨current', fun below hbelow => ?_⟩
      simp only [List.cons_append, ofLines, hsaid, hlist, ih below hbelow, List.length_cons, hnext]
  | case7 current read raw rest continuations last text hsaid list hlist ih =>
      obtain ⟨current', ih⟩ := ih
      refine ⟨current', fun below hbelow => ?_⟩
      simp only [last, continuations, hlast] at ih ⊢
      simp only [List.cons_append, ofLines, hsaid, hlist, takeWhile_append_eq hbelow,
        dropWhile_append_eq hbelow, ih below hbelow, List.length_cons]

/-- The lines above a header give the statements that they give by themselves. -/
theorem ofLines_append {current : Option Text} {read : Nat} {above below : List Text}
    (h : StartsWithHeader below) : ofLines current read (above ++ below) =
      ofLines current read above ++ ofLines none (read + above.length) below := by
  obtain ⟨current', happend⟩ := exists_ofLines_append current read above
  rw [happend below h.startsOutside, ofLines_of_startsWithHeader h current' none]

/-- Below more lines the statements are the same, further down. -/
theorem ofLines_add (count : Nat) (current : Option Text) (read : Nat) (lines : List Text) :
    ofLines current (read + count) lines = (ofLines current read lines).map (.down count) := by
  fun_induction ofLines current read lines with
  | case1 current read => simp [ofLines]
  | case2 current read raw rest hsaid ih =>
      rw [ofLines, hsaid, Nat.add_right_comm]
      exact ih
  | case3 current read raw rest name hsaid ih =>
      rw [ofLines, hsaid, Nat.add_right_comm, List.map_cons, ← ih]
      rfl
  | case4 read raw rest key value hsaid ih =>
      rw [ofLines, hsaid, Nat.add_right_comm]
      exact ih
  | case5 read raw rest continuations last key value hsaid name ih =>
      rw [ofLines, hsaid, Nat.add_right_comm, List.map_cons, ← ih]
      simp only [last, continuations, Statement.down, Nat.add_right_comm _ count]
  | case6 current read raw rest text hsaid hlist ih =>
      rw [ofLines, hsaid, Nat.add_right_comm]
      simp only [hlist]
      exact ih
  | case7 current read raw rest continuations last text hsaid list hlist ih =>
      rw [ofLines, hsaid, Nat.add_right_comm, List.map_cons, ← ih]
      simp only [last, continuations, hlist, Statement.down, Nat.add_right_comm _ count]

/-! ## Sections -/

@[simp] theorem isHeader_down (count : Nat) (statement : Statement) :
    (statement.down count).isHeader = statement.isHeader := by
  cases statement <;> rfl

/-- A statement adds to a section what it adds further up. -/
theorem addTo_down (count : Nat) (s : Section) (statement : Statement) :
    addTo (s.down count) (statement.down count) = (addTo s statement).down count := by
  cases statement with
  | header name line => rfl
  | property key value line last =>
      simp [addTo, Section.record, Section.extend, Section.down, down, Property.down,
        Nat.add_max_add_right]
  | entry list text line last =>
      simp [addTo, Section.extend, Section.down, down, Nat.add_max_add_right]

theorem foldl_addTo_down (count : Nat) (s : Section) (statements : List Statement) :
    (statements.map (.down count)).foldl addTo (s.down count) =
      (statements.foldl addTo s).down count := by
  induction statements generalizing s with
  | nil => rfl
  | cons statement statements ih => simp [addTo_down, ih]

/-- Statements further down make up the same sections there. -/
theorem sections_down (count : Nat) (statements : List Statement) :
    sections (statements.map (.down count)) = (sections statements).map (.down count) := by
  induction statements with
  | nil => rfl
  | cons statement rest ih =>
      cases statement with
      | header name line =>
          have htakeWhile : (rest.map (Statement.down count)).takeWhile (!·.isHeader) =
              (rest.takeWhile (!·.isHeader)).map (Statement.down count) := by
            simp [List.takeWhile_map, Function.comp_def]
          have hopened : Section.opened name (line + count) = (Section.opened name line).down count :=
            rfl
          rw [List.map_cons, down, sections, htakeWhile, hopened, foldl_addTo_down, ih, sections,
            List.map_cons]
      | property key value line last => exact ih
      | entry list text line last => exact ih

/-- Sections are joined where a header follows. -/
theorem sections_append {above below : List Statement} (h : StartsOutside (!·.isHeader) below) :
    sections (above ++ below) = sections above ++ sections below := by
  induction above with
  | nil => rfl
  | cons statement rest ih =>
      cases statement with
      | header name line =>
          rw [List.cons_append, sections, takeWhile_append_eq h, ih, sections, List.cons_append]
      | property key value line last => exact ih
      | entry list text line last => exact ih

/-! ## Entries -/

/-- The entries of two texts stand one behind the other. -/
theorem entries_append (list : EntryList) (above below : List Statement) :
    entries list (above ++ below) = entries list above ++ entries list below := by
  simp only [Lines.entries_eq_filterMap, List.filterMap_append]

/-- Statements further down make up the same entries there. -/
theorem entries_down (list : EntryList) (count : Nat) (statements : List Statement) :
    entries list (statements.map (.down count)) = (entries list statements).map (.down count) := by
  induction statements with
  | nil => rfl
  | cons statement rest ih =>
      cases statement with
      | header name line => exact ih
      | property key value line last => exact ih
      | entry list' text line last =>
          by_cases hlist : list' = list
          · simp [entries, down, hlist, ih, Entry.down]
          · simp [entries, down, hlist, ih]

end Statement

/-! ## Models -/

namespace Model

/-- Statements that begin with a header make up a model that is joined to the one above. -/
theorem ofStatements_append {above below : List Statement}
    (h : StartsOutside (!·.isHeader) below) :
    ofStatements (above ++ below) = (ofStatements above).append (ofStatements below) := by
  simp only [ofStatements, append, Statement.sections_append h, Statement.entries_append]

/-- Statements further down make up the same model there. -/
theorem ofStatements_down (count : Nat) (statements : List Statement) :
    ofStatements (statements.map (.down count)) = (ofStatements statements).down count := by
  simp only [ofStatements, down, Statement.sections_down, Statement.entries_down]

/-- A file that is cut in front of a header reads as its two parts, the second one further down by
the number of lines of the first. -/
theorem read_append {above below raw name : Text} (habove : Text.EndsLine above)
    (hfirst : (Text.lines below).head? = some raw) (hheader : Line.read raw = .header name) :
    read (above ++ below) = (read above).append ((read below).down (Text.lines above).length) := by
  have hbelow : Statement.StartsWithHeader (Text.lines below) := by
    intro other hother
    rw [hfirst] at hother
    exact ⟨name, Option.some.inj hother ▸ hheader⟩
  have hdown := Statement.ofLines_add (Text.lines above).length none 0 (Text.lines below)
  calc read (above ++ below)
      = ofStatements (Statement.ofLines none 0 (Text.lines above ++ Text.lines below)) := by
        rw [read, Text.lines_append habove]
    _ = ofStatements (Statement.ofLines none 0 (Text.lines above) ++
          Statement.ofLines none (0 + (Text.lines above).length) (Text.lines below)) := by
        rw [Statement.ofLines_append hbelow]
    _ = (read above).append (ofStatements
          (Statement.ofLines none (0 + (Text.lines above).length) (Text.lines below))) :=
        ofStatements_append (hbelow.statements none _)
    _ = (read above).append ((read below).down (Text.lines above).length) := by
        rw [hdown, ofStatements_down]
        rfl

/-- An indented header ends the statement above it. -/
theorem read_append_indented :
    let above := "[node.a]\nds_1 = b,\n  c\n".toList
    let below := "\t[outputs] ; indented\n\nnode.a.dsflow,\n c\n".toList
    Text.EndsLine above ∧ (Text.lines below).head? = some "\t[outputs] ; indented".toList ∧
      Line.read "\t[outputs] ; indented".toList = .header "outputs".toList ∧
      (read (above ++ below)).sections =
        [⟨"node.a".toList, 1, 3, [⟨"ds_1".toList, "b, c".toList, 2⟩]⟩, ⟨"outputs".toList, 4, 7, []⟩] ∧
      (read (above ++ below)).outputs = [⟨"node.a.dsflow, c".toList, 6⟩] := by
  intro above below
  have habove : Text.EndsLine above := .inr (by decide)
  have hfirst : (Text.lines below).head? = some "\t[outputs] ; indented".toList := by decide
  have hheader : Line.read "\t[outputs] ; indented".toList = .header "outputs".toList := by decide
  have hread := read_append habove hfirst hheader
  refine ⟨habove, hfirst, hheader, ?_, ?_⟩
  · rw [hread]
    decide +kernel
  · rw [hread]
    decide +kernel

end Model

end CatchmentLint
