import CatchmentLint.Proofs.Lists
import CatchmentLint.Text.Basic
import Mathlib.Data.List.TakeWhile

/-!
# CatchmentLint.Proofs.Text.Lines

The lines of a text, and the blank characters at the ends of a line:

* `exists_lines_append_feed` — a line feed ends a line, and takes a carriage return away;
* `lines_append` — where the first of two texts ends its last line, their lines stand one after
  another;
* `lines_ofLines` — and the lines that a text is put together from are those that it has;
* `trim_between` — trimming takes away the blank characters around a text that has none at its ends;
* `trim_append_blank` — and blank characters at the end make no difference to it.
-/

namespace CatchmentLint.Text

/-! ## Lines -/

/-- Nothing stands after the last line feed. -/
def EndsLine (s : Text) : Prop := s = [] ∨ s.getLast? = some '\n'

/-- The rest of a text ends its last line as the text does. -/
theorem EndsLine.tail {c : Char} {s : Text} (h : EndsLine (c :: s)) : EndsLine s := by
  cases s with
  | nil => exact .inl rfl
  | cons d s => simpa [EndsLine] using h

theorem lines_ne_nil {s : Text} (h : s ≠ []) : lines s ≠ [] := by
  fun_cases lines s <;> simp_all

/-- The lines of a text below another that ends its last line come behind that one's. -/
theorem lines_append {above : Text} (h : EndsLine above) (below : Text) :
    lines (above ++ below) = lines above ++ lines below := by
  fun_induction lines above with
  | case1 => rfl
  | case2 s ih => rw [List.cons_append, lines, ih h.tail, List.cons_append]
  | case3 s ih =>
      rw [List.cons_append, List.cons_append, lines, ih h.tail.tail, List.cons_append]
  | case4 c s hlf hcr hnil ih =>
      cases s with
      | nil =>
          have hc : c = '\n' := by simpa [EndsLine] using h
          exact absurd hc hlf
      | cons d s => exact absurd hnil (lines_ne_nil (List.cons_ne_nil d s))
  | case5 c s hlf hcr line rest hlines ih =>
      cases s with
      | nil => contradiction
      | cons d s =>
          rw [List.cons_append, lines, ih h.tail, hlines]
          · rfl
          · exact hlf
          · simpa using hcr

/-- A text that can be a line: no line feed breaks it, and no carriage return at its end gets lost. -/
structure IsLine (line : Text) : Prop where
  unbroken : '\n' ∉ line
  open_ended : line.getLast? ≠ some '\r'

/-- The text in which these lines stand, each of them ended. -/
def ofLines (ls : List Text) : Text := ls.flatMap (· ++ ['\n'])

/-- A line feed after a line ends it, and a carriage return before it belongs to the line feed. -/
theorem exists_lines_append_feed {line : Text} (h : '\n' ∉ line) (rest : Text) :
    ∃ shown, (line = shown ∨ line = shown ++ ['\r']) ∧
      lines (line ++ '\n' :: rest) = shown :: lines rest := by
  induction line with
  | nil => exact ⟨[], .inl rfl, rfl⟩
  | cons c line ih =>
      obtain ⟨hc, hline⟩ := not_or.mp (mt List.mem_cons.mpr h)
      by_cases hlast : c = '\r' ∧ line = []
      · obtain ⟨rfl, rfl⟩ := hlast
        exact ⟨[], .inr rfl, rfl⟩
      · obtain ⟨shown, hshown, hlines⟩ := ih hline
        refine ⟨c :: shown, by simpa using hshown, ?_⟩
        rw [List.cons_append, lines, hlines]
        · exact Ne.symm hc
        · -- A carriage return here stands before another character of the line.
          intro s hcr hs
          cases line with
          | nil => exact hlast ⟨hcr, rfl⟩
          | cons d line => simp_all

/-- A line and its line feed are the first line. -/
theorem lines_cons_line {line : Text} (h : IsLine line) (rest : Text) :
    lines (line ++ '\n' :: rest) = line :: lines rest := by
  obtain ⟨shown, hshown, hlines⟩ := exists_lines_append_feed h.unbroken rest
  cases hshown with
  | inl heq => rw [hlines, heq]
  | inr hreturn => exact absurd (by simp [hreturn]) h.open_ended

/-- A text without a line feed is one line. -/
theorem lines_of_notMem {line : Text} (h : '\n' ∉ line) (hne : line ≠ []) : lines line = [line] := by
  induction line with
  | nil => contradiction
  | cons c line ih =>
      obtain ⟨hc, hline⟩ := not_or.mp (mt List.mem_cons.mpr h)
      rw [lines]
      · cases line with
        | nil => rfl
        | cons d line => rw [ih hline (List.cons_ne_nil d line)]
      · exact Ne.symm hc
      · exact fun s _ hs => hline (by simp [hs])

/-- Lines that are put together are found again. -/
theorem lines_ofLines {ls : List Text} (h : ∀ line ∈ ls, IsLine line) : lines (ofLines ls) = ls := by
  induction ls with
  | nil => rfl
  | cons line ls ih =>
      have hrest : lines (ofLines ls) = ls := ih fun other hmem => h other (List.mem_cons_of_mem _ hmem)
      have hofLines : ofLines (line :: ls) = line ++ '\n' :: ofLines ls := by simp [ofLines]
      rw [hofLines, lines_cons_line (h line List.mem_cons_self), hrest]

/-! ## Blank ends -/

/-- The text neither starts nor ends with a blank character. -/
structure Trimmed (s : Text) : Prop where
  starts : StartsOutside isBlank s
  ends : StartsOutside isBlank s.reverse

/-- Two texts are trimmed together if their outer ends are. -/
theorem trimmed_append {s t : Text} (hs : StartsOutside isBlank s) (hs' : s ≠ [])
    (ht : StartsOutside isBlank t.reverse) (ht' : t ≠ []) : Trimmed (s ++ t) := by
  constructor
  · exact hs.append hs' t
  · rw [List.reverse_append]
    exact ht.append (by simpa using ht') s.reverse

/-- Blanks before a text are taken away. -/
theorem trimStart_append {before s : Text} (hbefore : ∀ c ∈ before, isBlank c = true)
    (hs : StartsOutside isBlank s) : trimStart (before ++ s) = s :=
  dropWhile_append_of_startsOutside hbefore hs

/-- Blanks behind a text are taken away. -/
theorem trimEnd_append {s after : Text} (hs : StartsOutside isBlank s.reverse)
    (hafter : ∀ c ∈ after, isBlank c = true) : trimEnd (s ++ after) = s := by
  have hreverse : ∀ c ∈ after.reverse, isBlank c = true := by simpa using hafter
  rw [trimEnd, List.reverse_append, dropWhile_append_of_startsOutside hreverse hs, List.reverse_reverse]

/-- Trimming takes away what is blank before and after. -/
theorem trimEnd_of_blank {s : Text} (h : ∀ c ∈ s, isBlank c = true) : trimEnd s = [] :=
  trimEnd_append (s := []) startsOutside_nil h

theorem trimEnd_cons {c : Char} {s : Text} (h : ¬∀ d ∈ c :: s, isBlank d = true) :
    trimEnd (c :: s) = c :: trimEnd s := by
  rw [trimEnd, trimEnd, List.reverse_cons, List.dropWhile_append]
  split
  · next hnil =>
    have hblank : ∀ d ∈ s, isBlank d = true := by simpa using hnil
    have hc : isBlank c = false :=
      Bool.eq_false_iff.mpr fun hc => h (List.forall_mem_cons.mpr ⟨hc, hblank⟩)
    have hnil : s.reverse.dropWhile isBlank = [] := by simpa using hnil
    simp [hc, hnil]
  · simp

/-- Blanks around a trimmed text are taken away, and nothing else. -/
theorem trim_between {before s after : Text} (hbefore : ∀ c ∈ before, isBlank c = true)
    (hs : Trimmed s) (hafter : ∀ c ∈ after, isBlank c = true) : trim (before ++ s ++ after) = s := by
  cases s with
  | nil =>
      have hblank : ∀ c ∈ before ++ after, isBlank c = true := by
        simpa [or_imp, forall_and] using ⟨hbefore, hafter⟩
      have hstart : trimStart (before ++ after) = [] := by
        simpa using trimStart_append hblank startsOutside_nil
      simp [trim, hstart, trimEnd]
  | cons c s =>
      have hstart : StartsOutside isBlank (c :: s ++ after) :=
        hs.starts.append (List.cons_ne_nil c s) after
      rw [trim, List.append_assoc, trimStart_append hbefore hstart, trimEnd_append hs.ends hafter]

/-- What is blank at the end makes no difference. -/
theorem trim_append_blank {s after : Text} (hafter : ∀ c ∈ after, isBlank c = true) :
    trim (s ++ after) = trim s := by
  have htrimEnd : ∀ t : Text, trimEnd (t ++ after) = trimEnd t := by
    intro t
    rw [trimEnd, List.reverse_append, List.dropWhile_append_of_pos (by simpa using hafter), trimEnd]
  rw [trim, trim, trimStart, trimStart, List.dropWhile_append]
  cases hrest : s.dropWhile isBlank with
  | nil =>
      rw [if_pos List.isEmpty_nil, ← List.append_nil after, List.dropWhile_append_of_pos hafter]
      rfl
  | cons c rest => exact htrimEnd (c :: rest)

/-- Of a blank text nothing is left. -/
theorem trim_of_blank {s : Text} (h : ∀ c ∈ s, isBlank c = true) : trim s = [] := by
  have hnil : Trimmed [] := ⟨startsOutside_nil, startsOutside_nil⟩
  simpa using trim_between h hnil (List.forall_mem_nil _)

/-- Trimming takes away nothing but blank characters. -/
theorem mem_trim {s : Text} {c : Char} (hc : c ∈ s) (h : isBlank c = false) : c ∈ trim s := by
  have hstart : c ∈ trimStart s := mem_dropWhile_of_mem hc h
  have hend : c ∈ (trimStart s).reverse.dropWhile isBlank :=
    mem_dropWhile_of_mem (List.mem_reverse.mpr hstart) h
  exact List.mem_reverse.mpr hend

theorem isEmpty_trimStart (s : Text) : (trimStart s).isEmpty = s.all isBlank := by
  rw [Bool.eq_iff_iff, List.isEmpty_iff, List.all_eq_true, trimStart, List.dropWhile_eq_nil_iff]

theorem isEmpty_trimEnd (s : Text) : (trimEnd s).isEmpty = s.all isBlank := by
  rw [Bool.eq_iff_iff, List.isEmpty_iff, List.all_eq_true, trimEnd, List.reverse_eq_nil_iff,
    List.dropWhile_eq_nil_iff]
  simp

/-- Nothing is left of a text just where all of it is blank. -/
theorem isEmpty_trim (s : Text) : (trim s).isEmpty = s.all isBlank := by
  rw [Bool.eq_iff_iff, List.isEmpty_iff, List.all_eq_true]
  refine ⟨fun htrim c hc => Classical.byContradiction fun hfilled => ?_, trim_of_blank⟩
  have hmem := mem_trim hc (Bool.eq_false_iff.mpr hfilled)
  rw [htrim] at hmem
  cases hmem

/-- Trimming adds no character. -/
theorem mem_of_mem_trim {s : Text} {c : Char} (h : c ∈ trim s) : c ∈ s := by
  have hend : c ∈ (trimStart s).reverse :=
    (List.dropWhile_suffix isBlank).mem (List.mem_reverse.mp h)
  exact (List.dropWhile_suffix isBlank).mem (List.mem_reverse.mp hend)

/-- A trimmed text stays as it is. -/
theorem trim_of_trimmed {s : Text} (h : Trimmed s) : trim s = s := by
  simpa using trim_between (List.forall_mem_nil _) h (List.forall_mem_nil _)

/-- What is left after trimming is trimmed. -/
theorem trimmed_trim (s : Text) : Trimmed (trim s) where
  starts := by
    have hprefix : trimEnd (trimStart s) <+: trimStart s := by
      rw [← List.reverse_suffix, trimEnd, List.reverse_reverse]
      exact List.dropWhile_suffix isBlank
    exact (startsOutside_dropWhile isBlank s).of_isPrefix hprefix
  ends := by
    rw [trim, trimEnd, List.reverse_reverse]
    exact startsOutside_dropWhile isBlank _

/-- Pieces that are not empty make a text that is not. -/
theorem join_ne_nil {separator : Text} {pieces : List Text} (hne : pieces ≠ [])
    (h : ∀ piece ∈ pieces, piece ≠ []) : join separator pieces ≠ [] := by
  fun_cases join separator pieces <;> simp_all

/-- Pieces without blank ends are put together to a text without blank ends. -/
theorem trimmed_join {separator : Text} {pieces : List Text}
    (h : ∀ piece ∈ pieces, piece ≠ [] ∧ Trimmed piece) : Trimmed (join separator pieces) := by
  fun_induction join separator pieces with
  | case1 => exact ⟨startsOutside_nil, startsOutside_nil⟩
  | case2 piece => exact (h piece List.mem_cons_self).2
  | case3 piece rest hrest ih =>
      obtain ⟨⟨hne, htrimmed⟩, hothers⟩ := List.forall_mem_cons.mp h
      have hjoin : join separator rest ≠ [] := join_ne_nil hrest fun other hmem => (hothers other hmem).1
      exact trimmed_append (htrimmed.starts.append hne separator) (by simp [hne]) (ih hothers).ends hjoin

/-- What trimming takes away is blank. -/
theorem exists_eq_append_trim (s : Text) : ∃ before after, s = before ++ trim s ++ after ∧
    (∀ c ∈ before, isBlank c = true) ∧ ∀ c ∈ after, isBlank c = true := by
  refine ⟨s.takeWhile isBlank, ((trimStart s).reverse.takeWhile isBlank).reverse, ?_,
    fun c hc => of_mem_takeWhile hc, fun c hc => of_mem_takeWhile (List.mem_reverse.mp hc)⟩
  have hend : trim s ++ ((trimStart s).reverse.takeWhile isBlank).reverse = trimStart s := by
    rw [trim, trimEnd, ← List.reverse_append, List.takeWhile_append_dropWhile, List.reverse_reverse]
  rw [List.append_assoc, hend, trimStart, List.takeWhile_append_dropWhile]

/-- Trimming twice is trimming once. -/
theorem trim_trim (s : Text) : trim (trim s) = trim s := trim_of_trimmed (trimmed_trim s)

end CatchmentLint.Text
