import CatchmentLint.Proofs.Model.Joining
import CatchmentLint.Proofs.Model.LineForms

/-!
# CatchmentLint.Proofs.Model.Printing

Model files written out of what they say.

1. A section is written as `[name]`, a property as `key = value` and a bare entry as it stands, one
   below the other.
2. A value and an entry may go on over several lines: the text is cut at single spaces, and each
   piece but the first stands on a line of its own, behind spaces and tabs.
3. Reading such a file gives back the sections and the entries, all of them, with their full texts
   and with the lines that they were written on (`read_print`).
-/

namespace CatchmentLint

open Line

/-! ## Texts over several lines -/

/-- A line that goes on with a text: spaces and tabs, then a piece of it, which is no header. -/
structure Continuation where
  margin : Text
  piece : Text
  indented : margin ≠ []
  spaces : ∀ c ∈ margin, c = ' ' ∨ c = '\t'
  clear : IsClear piece
  no_header : ¬IsHeaderShaped piece

namespace Continuation

/-- The line that goes on with a statement: its margin and its piece. -/
def line (c : Continuation) : Text := c.margin ++ c.piece

/-- A line that goes on has no comment. -/
theorem plain_line (c : Continuation) : Plain c.line := by
  have hmargin : Plain c.margin := by
    intro d hd
    cases c.spaces d hd with
    | inl h => rw [h]; decide
    | inr h => rw [h]; decide
  exact hmargin.append c.clear.plain

/-- What such a line adds is its piece. -/
theorem continuationText_line (c : Continuation) : continuationText c.line = c.piece := by
  have hmargin : ∀ d ∈ c.margin, isBlank d = true := by
    intro d hd
    cases c.spaces d hd with
    | inl h => rw [h]; decide
    | inr h => rw [h]; decide
  have htrim := Text.trim_between hmargin c.clear.trimmed (List.forall_mem_nil _)
  rw [continuationText, stripComment_of_plain c.plain_line, line]
  simpa using htrim

/-- Such a line is read as going on, since it begins with its margin. -/
theorem isContinuation_line (c : Continuation) : isContinuation c.line = true := by
  have hheader : headerName? (Text.trim (stripComment c.line)) = none := by
    have htext := c.continuationText_line
    rw [continuationText] at htext
    rw [htext, headerName?_eq_none c.no_header]
  cases hmargin : c.margin with
  | nil => exact absurd hmargin c.indented
  | cons d margin =>
      have hd := c.spaces d (by simp [hmargin])
      have hline : c.line = d :: (margin ++ c.piece) := by simp [line, hmargin]
      rw [hline] at hheader ⊢
      simpa [isContinuation, hheader] using hd

end Continuation

/-- A text cut at single spaces over a first line and lines that go on with it.  No other white space
stands beside a cut, since it could not be told from the margin of the line.  A line may be left
empty, and adds nothing then. -/
structure Layout (text : Text) where
  first : Text
  continuations : List Continuation
  clear : IsClear first
  joined : Text.join [' '] ((first :: continuations.map (·.piece)).filter (!·.isEmpty)) = text

namespace Layout

variable {text : Text}

/-- The lines below the first one of a text. -/
def moreLines (layout : Layout text) : List Text := layout.continuations.map (·.line)

theorem isContinuation_of_mem {layout : Layout text} :
    ∀ line ∈ layout.moreLines, isContinuation line = true := by
  intro line hline
  obtain ⟨c, -, rfl⟩ := List.mem_map.mp hline
  exact c.isContinuation_line

/-- The pieces are put together again. -/
theorem fullText_eq (layout : Layout text) :
    Statement.fullText layout.first layout.moreLines = text := by
  have hpieces : layout.moreLines.map continuationText = layout.continuations.map (·.piece) := by
    simp [moreLines, Function.comp_def, Continuation.continuationText_line]
  rw [Statement.fullText, hpieces, Lines.foldl_addContinuation, layout.joined]

end Layout

/-! ## Documents -/

/-- What stands in a section. -/
inductive Item where
  | property (key value : Text) (layout : Layout value) (isKey : IsKey key)
  | entry (text : Text) (layout : Layout text) (isStart : IsEntryStart layout.first)

namespace Item

/-- The lines that an item is written on. -/
def lines : Item → List Text
  | .property key _ layout _ => (key ++ " = ".toList ++ layout.first) :: layout.moreLines
  | .entry _ layout _ => layout.first :: layout.moreLines

/-- The property on the line below the `above` first ones. -/
def property? (above : Nat) : Item → Option Property
  | .property key value _ _ => some ⟨key, value, above + 1⟩
  | .entry _ _ _ => none

/-- The entry that an item is, placed where so many lines stand above. -/
def listed? (above : Nat) : Item → Option Entry
  | .property _ _ _ _ => none
  | .entry text _ _ => some ⟨text, above + 1⟩

/-- A bare entry can stand only where there is a list for it. -/
def Fits (list? : Option EntryList) : Item → Prop
  | .property _ _ _ _ => True
  | .entry _ _ _ => list?.isSome = true

end Item

/-- Each element, with the number of lines above it. -/
def placed {α : Type} (height : α → Nat) : Nat → List α → List (Nat × α)
  | _, [] => []
  | above, a :: rest => (above, a) :: placed height (above + height a) rest

/-- A section with all that stands in it. -/
structure Block where
  name : Text
  items : List Item
  isName : IsName name
  fits : ∀ item ∈ items, item.Fits (EntryList.ofSection? name)

namespace Block

/-- The lines of a section, its header first. -/
def lines (b : Block) : List Text := bracketed b.name :: b.items.flatMap Item.lines

/-- The items with the numbers of lines above each. -/
def placedItems (above : Nat) (b : Block) : List (Nat × Item) :=
  placed (fun item => item.lines.length) (above + 1) b.items

/-- The section that the block stands for. -/
def toSection (above : Nat) (b : Block) : Section where
  name := b.name
  startLine := above + 1
  endLine := above + b.lines.length
  occurrences := (b.placedItems above).filterMap fun place => place.2.property? place.1

/-- The entries of a list that the block stands for. -/
def entries (list : EntryList) (above : Nat) (b : Block) : List Entry :=
  if EntryList.ofSection? b.name = some list then
    (b.placedItems above).filterMap fun place => place.2.listed? place.1
  else []

end Block

/-- A model file, section by section. -/
abbrev Document := List Block

namespace Document

/-- The text of a document. -/
def print (doc : Document) : Text := Text.ofLines (doc.flatMap Block.lines)

/-- The blocks with the numbers of lines above each. -/
def placedBlocks (doc : Document) : List (Nat × Block) := placed (fun b => b.lines.length) 0 doc

/-- What a document says, on the lines on which it is printed. -/
def model (doc : Document) : Model where
  sections := doc.placedBlocks.map fun place => place.2.toSection place.1
  inputs := doc.placedBlocks.flatMap fun place => place.2.entries .inputs place.1
  outputs := doc.placedBlocks.flatMap fun place => place.2.entries .outputs place.1

end Document

/-! ## The statements of a document -/

/-- A line that begins with no blank does not go on with another. -/
theorem isContinuation_of_trimmed {s : Text} (h : Text.Trimmed s) (hs : s ≠ []) (rest : Text) :
    isContinuation (s ++ rest) = false := by
  cases s with
  | nil => contradiction
  | cons c s =>
      have hc : isBlank c = false := h.starts c rfl
      have hspace : c ≠ ' ' := fun heq => by
        rw [heq] at hc
        contradiction
      have htab : c ≠ '\t' := fun heq => by
        rw [heq] at hc
        contradiction
      simp [isContinuation, hspace, htab]

namespace Item

/-- The statement that is read of an item, where bare entries go to the list `list?`. -/
def statement? (list? : Option EntryList) (above : Nat) (item : Item) : Option Statement :=
  match item with
  | .property key value _ _ =>
    some (.property key value (above + 1) (above + item.lines.length))
  | .entry text _ _ =>
    list?.map fun list => .entry list text (above + 1) (above + item.lines.length)

/-- The first line of an item does not go on with what stands above. -/
theorem startsOutside (item : Item) (rest : List Text) :
    StartsOutside isContinuation (item.lines ++ rest) := by
  intro line hline
  cases item with
  | property key value layout isKey =>
      cases hline
      rw [List.append_assoc]
      exact isContinuation_of_trimmed isKey.clear.trimmed isKey.nonempty _
  | entry text layout isStart =>
      cases hline
      simpa using isContinuation_of_trimmed isStart.clear.trimmed isStart.nonempty []

/-- An item is read as one statement, whatever is written below it. -/
theorem ofLines_item {name : Text} {item : Item} {rest : List Text}
    (hfits : item.Fits (EntryList.ofSection? name)) (hrest : StartsOutside isContinuation rest)
    (above : Nat) : Statement.ofLines (some name) above (item.lines ++ rest) =
      (item.statement? (EntryList.ofSection? name) above).toList ++
        Statement.ofLines (some name) (above + item.lines.length) rest := by
  cases item with
  | property key value layout isKey =>
      have hmore := layout.isContinuation_of_mem
      have hlast : above + 1 + layout.moreLines.length = above + (layout.moreLines.length + 1) := by
        omega
      rw [lines, List.cons_append, Statement.ofLines, read_property isKey layout.clear]
      simp only [takeWhile_append_of_startsOutside hmore hrest,
        dropWhile_append_of_startsOutside hmore hrest, layout.fullText_eq, statement?, lines,
        List.length_cons, hlast, Option.toList_some, List.singleton_append]
  | entry text layout isStart =>
      have hmore := layout.isContinuation_of_mem
      have hlast : above + 1 + layout.moreLines.length = above + (layout.moreLines.length + 1) := by
        omega
      obtain ⟨list, hlist⟩ := Option.isSome_iff_exists.mp hfits
      rw [lines, List.cons_append, Statement.ofLines, read_entry isStart]
      simp only [Option.bind_some, hlist, takeWhile_append_of_startsOutside hmore hrest,
        dropWhile_append_of_startsOutside hmore hrest, layout.fullText_eq, statement?, lines,
        List.length_cons, hlast, Option.map_some, Option.toList_some, List.singleton_append]

end Item

/-- So are several items, one after another. -/
theorem ofLines_items {name : Text} {items : List Item} {rest : List Text}
    (hfits : ∀ item ∈ items, item.Fits (EntryList.ofSection? name))
    (hrest : StartsOutside isContinuation rest) (above : Nat) :
    Statement.ofLines (some name) above (items.flatMap Item.lines ++ rest) =
      (placed (fun item => item.lines.length) above items).filterMap
          (fun place => place.2.statement? (EntryList.ofSection? name) place.1) ++
        Statement.ofLines (some name) (above + (items.flatMap Item.lines).length) rest := by
  induction items generalizing above with
  | nil => rfl
  | cons item items ih =>
      obtain ⟨hitem, hitems⟩ := List.forall_mem_cons.mp hfits
      have hbelow : StartsOutside isContinuation (items.flatMap Item.lines ++ rest) := by
        cases items with
        | nil => exact hrest
        | cons next items =>
            rw [List.flatMap_cons, List.append_assoc]
            exact next.startsOutside _
      rw [List.flatMap_cons, List.append_assoc, Item.ofLines_item hitem hbelow, ih hitems, placed,
        List.length_append, Nat.add_assoc]
      cases hstatement : item.statement? (EntryList.ofSection? name) above <;> simp [hstatement]

namespace Block

/-- The statements that a block is read as. -/
def statements (above : Nat) (b : Block) : List Statement :=
  .header b.name (above + 1) :: (b.placedItems above).filterMap fun place =>
    place.2.statement? (EntryList.ofSection? b.name) place.1

/-- A block is read as its statements, whatever stands below that does not go on with it. -/
theorem ofLines_block (b : Block) {rest : List Text} (hrest : StartsOutside isContinuation rest)
    (current : Option Text) (above : Nat) :
    Statement.ofLines current above (b.lines ++ rest) =
      b.statements above ++ Statement.ofLines (some b.name) (above + b.lines.length) rest := by
  have hlength : above + 1 + (b.items.flatMap Item.lines).length = above + b.lines.length := by
    rw [lines, List.length_cons]
    omega
  rw [lines, List.cons_append, Statement.ofLines, read_header b.isName]
  simp only [ofLines_items b.fits hrest, hlength]
  rfl

/-- The first line of a block does not go on with what stands above either. -/
theorem startsOutside (b : Block) (rest : List Text) :
    StartsOutside isContinuation (b.lines ++ rest) := by
  intro line hline
  cases hline
  exact Lines.isContinuation_of_header (read_header b.isName)

end Block

/-- Blocks are read one after another, each at its own lines. -/
theorem ofLines_blocks (blocks : List Block) (current : Option Text) (above : Nat) :
    Statement.ofLines current above (blocks.flatMap Block.lines) =
      (placed (fun b => b.lines.length) above blocks).flatMap fun place =>
        place.2.statements place.1 := by
  induction blocks generalizing current above with
  | nil => simp [Statement.ofLines, placed]
  | cons b blocks ih =>
      have hrest : StartsOutside isContinuation (blocks.flatMap Block.lines) := by
        cases blocks with
        | nil => exact startsOutside_nil
        | cons next blocks => exact next.startsOutside _
      rw [List.flatMap_cons, b.ofLines_block hrest, ih, placed, List.flatMap_cons]

/-! ## What the statements add up to -/

namespace Item

/-- An item that fits the section is one statement. -/
theorem exists_statement? {list? : Option EntryList} {item : Item} (h : item.Fits list?)
    (above : Nat) : ∃ statement, item.statement? list? above = some statement := by
  cases item with
  | property key value layout isKey => exact ⟨_, rfl⟩
  | entry text layout isStart =>
      obtain ⟨list, hlist⟩ := Option.isSome_iff_exists.mp h
      exact ⟨_, by rw [statement?, hlist]; rfl⟩

theorem isHeader_of_statement? {list? : Option EntryList} {item : Item} {above : Nat}
    {statement : Statement} (h : item.statement? list? above = some statement) :
    statement.isHeader = false := by
  cases item with
  | property key value layout isKey =>
      cases h
      rfl
  | entry text layout isStart =>
      obtain ⟨list, -, rfl⟩ := Option.map_eq_some_iff.mp h
      rfl

theorem lines_ne_nil (item : Item) : item.lines.length ≠ 0 := by
  cases item <;> simp [lines]

/-- A section that ends right above an item grows by the lines of the item. -/
theorem addTo_of_statement? {list? : Option EntryList} {item : Item} {s : Section}
    {statement : Statement} (h : item.statement? list? s.endLine = some statement) :
    Statement.addTo s statement =
      { s with
        endLine := s.endLine + item.lines.length
        occurrences := s.occurrences ++ (item.property? s.endLine).toList } := by
  have hheight := item.lines_ne_nil
  cases item with
  | property key value layout isKey =>
      cases h
      simp [Statement.addTo, Section.record, Section.extend, property?]
      omega
  | entry text layout isStart =>
      obtain ⟨list, -, rfl⟩ := Option.map_eq_some_iff.mp h
      simp [Statement.addTo, Section.extend, property?]

end Item

/-- Item by item, a section grows down to the last line that is printed of it. -/
theorem foldl_addTo_items {list? : Option EntryList} {items : List Item}
    (hfits : ∀ item ∈ items, item.Fits list?) (s : Section) :
    ((placed (fun item => item.lines.length) s.endLine items).filterMap
        fun place => place.2.statement? list? place.1).foldl Statement.addTo s =
      { s with
        endLine := s.endLine + (items.flatMap Item.lines).length
        occurrences := s.occurrences ++
          (placed (fun item => item.lines.length) s.endLine items).filterMap
            fun place => place.2.property? place.1 } := by
  induction items generalizing s with
  | nil => simp [placed]
  | cons item items ih =>
      obtain ⟨hitem, hitems⟩ := List.forall_mem_cons.mp hfits
      obtain ⟨statement, hstatement⟩ := Item.exists_statement? hitem s.endLine
      have hadd := Item.addTo_of_statement? hstatement
      have hrest := ih hitems (Statement.addTo s statement)
      rw [hadd] at hrest
      simp only [placed, List.filterMap_cons, hstatement, List.foldl_cons, hadd, hrest]
      cases hproperty : item.property? s.endLine <;> simp [Nat.add_assoc]

/-- What is read of an item for one of the two lists. -/
theorem Item.bind_entryFor? (list : EntryList) (list? : Option EntryList) (item : Item) (above : Nat) :
    (item.statement? list? above).bind (Lines.entryFor? list) =
      if list? = some list then item.listed? above else none := by
  cases item with
  | property key value layout isKey => simp [statement?, Lines.entryFor?, listed?]
  | entry text layout isStart => cases list? <;> simp [statement?, Lines.entryFor?, listed?]

theorem sections_eq_nil {statements : List Statement}
    (h : ∀ statement ∈ statements, statement.isHeader = false) :
    Statement.sections statements = [] := by
  induction statements with
  | nil => rfl
  | cons statement statements ih =>
      obtain ⟨hstatement, hstatements⟩ := List.forall_mem_cons.mp h
      rw [Lines.sections_of_not_isHeader hstatement, ih hstatements]

namespace Block

/-- The statements of a block make up its section. -/
theorem sections_statements (b : Block) (above : Nat) :
    Statement.sections (b.statements above) = [b.toSection above] := by
  have hitems : ∀ statement ∈ (b.placedItems above).filterMap fun place =>
      place.2.statement? (EntryList.ofSection? b.name) place.1, statement.isHeader = false := by
    intro statement hmem
    obtain ⟨place, -, hplace⟩ := List.mem_filterMap.mp hmem
    exact Item.isHeader_of_statement? hplace
  have hnone : ∀ statement ∈ (b.placedItems above).filterMap fun place =>
      place.2.statement? (EntryList.ofSection? b.name) place.1, (!statement.isHeader) = true := by
    simpa using hitems
  have hall := takeWhile_append_of_startsOutside hnone startsOutside_nil
  have hlength : above + 1 + (b.items.flatMap Item.lines).length = above + b.lines.length := by
    rw [lines, List.length_cons]
    omega
  have hfold := foldl_addTo_items b.fits (.opened b.name (above + 1))
  simp only [Section.opened, List.nil_append, hlength] at hfold
  rw [List.append_nil] at hall
  rw [statements, Statement.sections, sections_eq_nil hitems, hall]
  exact congrArg (fun s => [s]) hfold

/-- The statements of a block make up its entries. -/
theorem entries_statements (list : EntryList) (b : Block) (above : Nat) :
    Statement.entries list (b.statements above) = b.entries list above := by
  rw [statements, Lines.entries_eq_filterMap, List.filterMap_cons_none rfl, List.filterMap_filterMap]
  simp only [Item.bind_entryFor?]
  by_cases hlist : EntryList.ofSection? b.name = some list <;> simp [entries, hlist]

theorem statements_startsOutside (b : Block) (above : Nat) (below : List Statement) :
    StartsOutside (!·.isHeader) (b.statements above ++ below) := by
  intro statement hstatement
  cases hstatement
  rfl

end Block

/-- The statements of blocks make up their sections, in their order. -/
theorem sections_blocks (blocks : List Block) (above : Nat) :
    Statement.sections ((placed (fun b => b.lines.length) above blocks).flatMap fun place =>
        place.2.statements place.1) =
      (placed (fun b => b.lines.length) above blocks).map fun place => place.2.toSection place.1 := by
  induction blocks generalizing above with
  | nil => rfl
  | cons b blocks ih =>
      have hbelow : StartsOutside (!·.isHeader)
          ((placed (fun b => b.lines.length) (above + b.lines.length) blocks).flatMap fun place =>
            place.2.statements place.1) := by
        cases blocks with
        | nil => exact startsOutside_nil
        | cons next blocks => exact next.statements_startsOutside _ _
      rw [placed, List.flatMap_cons, Statement.sections_append hbelow, b.sections_statements, ih]
      rfl

/-- The statements of blocks make up their entries, in their order. -/
theorem entries_blocks (list : EntryList) (blocks : List Block) (above : Nat) :
    Statement.entries list ((placed (fun b => b.lines.length) above blocks).flatMap fun place =>
        place.2.statements place.1) =
      (placed (fun b => b.lines.length) above blocks).flatMap fun place =>
        place.2.entries list place.1 := by
  induction blocks generalizing above with
  | nil => rfl
  | cons b blocks ih =>
      rw [placed, List.flatMap_cons, Statement.entries_append, b.entries_statements, ih]
      rfl

/-! ## The lines of a document -/

/-- A line without a line feed, and without a carriage return at its end, is a line of a text. -/
theorem isLine_of_plain {line : Text} (hplain : Plain line) (hend : line.getLast? ≠ some '\r') :
    Text.IsLine line := by
  constructor
  · intro hmem
    exact hplain _ hmem (by decide)
  · exact hend

/-- A line may end in a text that has no blank character at its end. -/
theorem isLine_append {s t : Text} (hs : Plain s) (hend : s.getLast? ≠ some '\r') (ht : IsClear t) :
    Text.IsLine (s ++ t) := by
  have hlast : t.getLast? ≠ some '\r' := by
    intro heq
    have hblank : isBlank '\r' = false :=
      ht.trimmed.ends '\r' (by rw [List.head?_reverse]; exact heq)
    contradiction
  refine isLine_of_plain (hs.append ht.plain) ?_
  rw [List.getLast?_append]
  cases hcase : t.getLast? with
  | none => simpa using hend
  | some c => simpa [hcase] using hlast

/-- A line that goes on is a line of a text. -/
theorem Continuation.isLine (c : Continuation) : Text.IsLine c.line := by
  have hmargin : ∀ d ∈ c.margin, d ∉ special ∧ d ≠ '\r' := by
    intro d hd
    cases c.spaces d hd with
    | inl h => rw [h]; decide
    | inr h => rw [h]; decide
  have hend : c.margin.getLast? ≠ some '\r' := fun heq =>
    (hmargin '\r' (List.mem_of_getLast? heq)).2 rfl
  exact isLine_append (fun d hd => (hmargin d hd).1) hend c.clear

/-- Each line of an item is a line of a text. -/
theorem Item.isLine {item : Item} {line : Text} (h : line ∈ item.lines) : Text.IsLine line := by
  cases item with
  | property key value layout isKey =>
      cases List.mem_cons.mp h with
      | inl hfirst =>
          have hplain : Plain (key ++ " = ".toList) := isKey.clear.plain.append (by decide)
          rw [hfirst]
          exact isLine_append hplain (by simp) layout.clear
      | inr hmore =>
          obtain ⟨c, -, rfl⟩ := List.mem_map.mp hmore
          exact c.isLine
  | entry text layout isStart =>
      cases List.mem_cons.mp h with
      | inl hfirst =>
          rw [hfirst]
          exact isLine_append (s := []) (by decide) (by simp) layout.clear
      | inr hmore =>
          obtain ⟨c, -, rfl⟩ := List.mem_map.mp hmore
          exact c.isLine

/-- Each line of a block is a line of a text. -/
theorem Block.isLine {b : Block} {line : Text} (h : line ∈ b.lines) : Text.IsLine line := by
  cases List.mem_cons.mp h with
  | inl hheader =>
      rw [hheader]
      refine isLine_of_plain b.isName.plain_header ?_
      rw [bracketed, ← List.cons_append, List.getLast?_concat]
      decide
  | inr hitems =>
      obtain ⟨item, -, hline⟩ := List.mem_flatMap.mp hitems
      exact item.isLine hline

namespace Document

/-- A document is read back as it was written. -/
theorem read_print (doc : Document) : Model.read doc.print = doc.model := by
  have hlines : Text.lines doc.print = doc.flatMap Block.lines := by
    refine Text.lines_ofLines fun line hline => ?_
    obtain ⟨b, -, hb⟩ := List.mem_flatMap.mp hline
    exact b.isLine hb
  rw [Model.read, hlines, ofLines_blocks, Model.ofStatements, sections_blocks, entries_blocks,
    entries_blocks]
  rfl

example :
    let name : IsClear "inputs".toList := ⟨by decide, by decide, by decide⟩
    let piece : IsClear "b".toList := ⟨by decide, by decide, by decide⟩
    let first : IsClear "[a]".toList := ⟨by decide, by decide, by decide⟩
    let more : Continuation :=
      ⟨"\t ".toList, "b".toList, by decide, by simp, piece, by decide⟩
    let value : Layout "[a] b".toList := ⟨"[a]".toList, [more], first, by decide⟩
    let entry : Layout "b".toList := ⟨"b".toList, [], piece, by decide⟩
    let inputs : Block := ⟨"inputs".toList,
      [.property "b".toList "[a] b".toList value ⟨piece, by decide, by decide, by decide⟩,
        .entry "b".toList entry ⟨piece, by decide, by decide, by decide⟩],
      ⟨name, by decide, by decide, by decide⟩, by simp [Item.Fits]; decide⟩
    print [inputs] = "[inputs]\nb = [a]\n\t b\nb\n".toList ∧
      model [inputs] = ⟨[⟨"inputs".toList, 1, 4, [⟨"b".toList, "[a] b".toList, 2⟩]⟩],
        [⟨"b".toList, 4⟩], []⟩ := by
  decide

end Document

end CatchmentLint
