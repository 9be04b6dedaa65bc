import CatchmentLint.Model.Line
import Mathlib.Algebra.Ring.Parity
import Mathlib.Data.List.DropRight

/-!
# CatchmentLint.Proofs.Model.CommentScan

Where the comment of a line starts, and what the scan for it keeps.

1. A character is escaped if an odd number of backslashes stands right before it.
2. It is quoted if an odd number of double quotes stands before it that are not escaped.
3. The first `;` or `#` that is neither starts the comment.

* `foldl_step_eq` — the two marks of a scan that goes from left to right are these two parities;
* `stripFrom_append_eq_iff` — a scan keeps a text just where it keeps each part of it;
* `stripComment_maximal` — what is left of a line is its longest start without a comment.
-/

namespace CatchmentLint

namespace Line

/-! ## Escapes, quotes and comments -/

/-- The character behind the text is escaped: the text ends in an odd number of backslashes. -/
def EscapesNext (s : Text) : Prop := Odd (s.rtakeWhile (· == '\\')).length

instance (s : Text) : Decidable (EscapesNext s) :=
  inferInstanceAs (Decidable (Odd (s.rtakeWhile (· == '\\')).length))

/-- How many double quotes of the text are not escaped. -/
def quoteCount (s : Text) : Nat :=
  (List.range s.length).countP fun i => s[i]? = some '"' ∧ ¬EscapesNext (s.take i)

/-- The character behind the text is quoted. -/
def QuotesNext (s : Text) : Prop := Odd (quoteCount s)

instance (s : Text) : Decidable (QuotesNext s) := inferInstanceAs (Decidable (Odd (quoteCount s)))

/-- Behind the text `s`, the character `c` starts a comment. -/
def StartsComment (s : Text) (c : Char) : Prop :=
  (c = ';' ∨ c = '#') ∧ ¬QuotesNext s ∧ ¬EscapesNext s

instance (s : Text) (c : Char) : Decidable (StartsComment s c) :=
  inferInstanceAs (Decidable ((c = ';' ∨ c = '#') ∧ ¬QuotesNext s ∧ ¬EscapesNext s))

/-- No comment starts in the text. -/
def Uncommented (s : Text) : Prop :=
  ∀ before c after, s = before ++ c :: after → ¬StartsComment before c

/-! ## From left to right -/

section Concat

variable (s : Text) (c : Char)

/-- A backslash escapes what comes next, unless it is escaped itself. -/
theorem escapesNext_concat : EscapesNext (s ++ [c]) ↔ c = '\\' ∧ ¬EscapesNext s := by
  by_cases hc : c = '\\'
  · have hrun : (s ++ [c]).rtakeWhile (· == '\\') = s.rtakeWhile (· == '\\') ++ [c] :=
      List.rtakeWhile_concat_pos _ _ c (by simp [hc])
    rw [EscapesNext, hrun, List.length_append, List.length_singleton, Nat.odd_add_one]
    simp [EscapesNext, hc]
  · have hrun : (s ++ [c]).rtakeWhile (· == '\\') = [] :=
      List.rtakeWhile_concat_neg _ _ c (by simp [hc])
    simp [EscapesNext, hrun, hc]

theorem quoteCount_concat :
    quoteCount (s ++ [c]) = quoteCount s + if c = '"' ∧ ¬EscapesNext s then 1 else 0 := by
  have hbefore : (List.range s.length).countP
      (fun i => (s ++ [c])[i]? = some '"' ∧ ¬EscapesNext ((s ++ [c]).take i)) = quoteCount s := by
    refine List.countP_congr fun i hi => ?_
    have hlt : i < s.length := List.mem_range.mp hi
    rw [List.getElem?_append_left hlt, List.take_append_of_le_length hlt.le]
  rw [quoteCount, List.length_append, List.length_singleton, List.range_succ, List.countP_append,
    hbefore, List.countP_singleton]
  simp

/-- A double quote opens or closes a quotation, unless it is escaped. -/
theorem quotesNext_concat :
    QuotesNext (s ++ [c]) ↔ (QuotesNext s ↔ ¬(c = '"' ∧ ¬EscapesNext s)) := by
  rw [QuotesNext, quoteCount_concat]
  split
  · next hquote => simp [QuotesNext, Nat.odd_add_one, hquote]
  · next hother => simp [QuotesNext, hother]

end Concat

/-- The scan counts double quotes and backslashes by their parity. -/
theorem foldl_step_eq (s : Text) :
    s.foldl Scan.step .start = ⟨decide (QuotesNext s), decide (EscapesNext s)⟩ := by
  induction s using List.reverseRecOn with
  | nil => rfl
  | append_singleton s c ih =>
      rw [List.foldl_append, ih, List.foldl_cons, List.foldl_nil]
      simp only [Scan.step, quotesNext_concat, escapesNext_concat]
      by_cases hescaped : EscapesNext s
      · simp [hescaped]
      · by_cases hbackslash : c = '\\'
        · simp [hescaped, hbackslash]
        · by_cases hquote : c = '"'
          · simp [hescaped, hquote]
          · simp [hescaped, hbackslash, hquote]

theorem opensComment_foldl_iff {s : Text} {c : Char} :
    (s.foldl Scan.step .start).opensComment c = true ↔ StartsComment s c := by
  simp [foldl_step_eq, Scan.opensComment, StartsComment, and_assoc]

/-! ## What a scan keeps -/

/-- A scan that comes to the end of a text goes on behind it. -/
theorem stripFrom_append (scan : Scan) (s t : Text) : stripFrom scan (s ++ t) =
    if stripFrom scan s = s then s ++ stripFrom (s.foldl Scan.step scan) t else stripFrom scan s := by
  induction s generalizing scan with
  | nil => simp [stripFrom]
  | cons c s ih =>
      cases hopens : scan.opensComment c with
      | true => simp [stripFrom_cons, hopens]
      | false =>
          by_cases hs : stripFrom (scan.step c) s = s
          · simp [stripFrom_cons, hopens, ih, hs]
          · simp [stripFrom_cons, hopens, ih, hs]

/-- A scan cuts a text where it comes to a comment, and nowhere else. -/
theorem exists_eq_stripFrom_append (scan : Scan) (s : Text) : ∃ rest, s = stripFrom scan s ++ rest ∧
    (rest = [] ∨ ∃ c text, rest = c :: text ∧
      ((stripFrom scan s).foldl Scan.step scan).opensComment c = true) := by
  induction s generalizing scan with
  | nil => exact ⟨[], rfl, .inl rfl⟩
  | cons c s ih =>
      cases hopens : scan.opensComment c with
      | true =>
          have hkept : stripFrom scan (c :: s) = [] := by simp [stripFrom_cons, hopens]
          exact ⟨c :: s, by rw [hkept, List.nil_append], .inr ⟨c, s, rfl, by rwa [hkept]⟩⟩
      | false =>
          obtain ⟨rest, hs, hrest⟩ := ih (scan.step c)
          have hkept : stripFrom scan (c :: s) = c :: stripFrom (scan.step c) s := by
            simp [stripFrom_cons, hopens]
          exact ⟨rest, by rw [hkept, List.cons_append, ← hs], by rwa [hkept]⟩

theorem stripFrom_isPrefix (scan : Scan) (s : Text) : stripFrom scan s <+: s := by
  obtain ⟨rest, hs, -⟩ := exists_eq_stripFrom_append scan s
  exact ⟨rest, hs.symm⟩

/-- What a scan has kept it keeps again. -/
theorem stripFrom_stripFrom (scan : Scan) (s : Text) :
    stripFrom scan (stripFrom scan s) = stripFrom scan s := by
  induction s generalizing scan with
  | nil => rfl
  | cons c s ih =>
      cases hopens : scan.opensComment c with
      | true => simp [stripFrom, hopens]
      | false => simp [stripFrom_cons, hopens, ih]

/-- A text is kept where both parts of it are, the second one as the scan comes to it. -/
theorem stripFrom_append_eq_iff {scan : Scan} {s t : Text} :
    stripFrom scan (s ++ t) = s ++ t ↔
      stripFrom scan s = s ∧ stripFrom (s.foldl Scan.step scan) t = t := by
  rw [stripFrom_append]
  constructor
  · intro h
    by_cases hs : stripFrom scan s = s
    · rw [if_pos hs, List.append_cancel_left_eq] at h
      exact ⟨hs, h⟩
    · rw [if_neg hs] at h
      have hle := (stripFrom_isPrefix scan s).length_le
      rw [h, List.length_append] at hle
      obtain rfl : t = [] := List.eq_nil_of_length_eq_zero (by omega)
      rw [List.append_nil] at h
      contradiction
  · rintro ⟨hs, ht⟩
    rw [if_pos hs, ht]

/-- A scan passes over a text that neither quotes nor escapes. -/
theorem foldl_step_start {s : Text} (hquote : '"' ∉ s) (hescape : '\\' ∉ s) :
    s.foldl Scan.step .start = .start := by
  induction s with
  | nil => rfl
  | cons c s ih =>
      obtain ⟨hc, hs⟩ := not_or.mp (mt List.mem_cons.mpr hquote)
      obtain ⟨hc', hs'⟩ := not_or.mp (mt List.mem_cons.mpr hescape)
      have hstep : Scan.start.step c = .start := by
        simp [Scan.step, Scan.start, Ne.symm hc, Ne.symm hc']
      rw [List.foldl_cons, hstep, ih hs hs']

/-! ## What is left of a line -/

/-- The scan keeps the texts that it meets no comment in. -/
theorem stripComment_eq_self_iff {s : Text} : stripComment s = s ↔ Uncommented s := by
  constructor
  · rintro hkept before c after rfl hstarts
    have hafter := (stripFrom_append_eq_iff.mp hkept).2
    rw [stripFrom_cons, if_pos (opensComment_foldl_iff.mpr hstarts)] at hafter
    contradiction
  · intro hnone
    obtain ⟨rest, hs, rfl | ⟨c, text, rfl, hopens⟩⟩ := exists_eq_stripFrom_append .start s
    · rw [List.append_nil] at hs
      exact hs.symm
    · exact absurd (opensComment_foldl_iff.mp hopens) (hnone _ c text hs)

theorem isPrefix_stripComment_iff {s line : Text} :
    s <+: stripComment line ↔ s <+: line ∧ Uncommented s := by
  constructor
  · rintro ⟨t, hline⟩
    have hkept : stripComment (s ++ t) = s ++ t := by
      rw [hline]
      exact stripFrom_stripFrom .start line
    have hs : s <+: line := (hline ▸ List.prefix_append s t).trans (stripFrom_isPrefix .start line)
    exact ⟨hs, stripComment_eq_self_iff.mp (stripFrom_append_eq_iff.mp hkept).1⟩
  · rintro ⟨⟨t, rfl⟩, hnone⟩
    rw [stripComment, stripFrom_append, ← stripComment, if_pos (stripComment_eq_self_iff.mpr hnone)]
    exact List.prefix_append s _

theorem stripComment_append_cons_eq_iff {s text : Text} {c : Char} :
    stripComment (s ++ c :: text) = s ↔ Uncommented s ∧ StartsComment s c := by
  rw [← stripComment_eq_self_iff, ← opensComment_foldl_iff, stripComment, stripComment,
    stripFrom_append]
  by_cases hs : stripFrom .start s = s
  · simp [hs, stripFrom_cons]
  · simp [hs]

/-- What is left of a line is its longest start without a comment: behind it the line ends or a comment
starts, and stripped again it stays the same. A text is what is left of a longer line just where it has
no comment in it and one starts behind it. -/
theorem stripComment_maximal (line : Text) :
    (∃ rest, line = stripComment line ++ rest ∧
      (rest = [] ∨ ∃ c text, rest = c :: text ∧ StartsComment (stripComment line) c)) ∧
    Uncommented (stripComment line) ∧
    (∀ s, s <+: stripComment line ↔ s <+: line ∧ Uncommented s) ∧
    stripComment (stripComment line) = stripComment line ∧
    ∀ s c text, stripComment (s ++ c :: text) = s ↔ Uncommented s ∧ StartsComment s c := by
  have hkept : stripComment (stripComment line) = stripComment line := stripFrom_stripFrom .start line
  refine ⟨?_, stripComment_eq_self_iff.mp hkept, fun s => isPrefix_stripComment_iff, hkept,
    fun s c text => stripComment_append_cons_eq_iff⟩
  obtain ⟨rest, hline, hrest⟩ := exists_eq_stripFrom_append .start line
  refine ⟨rest, hline, hrest.imp_right ?_⟩
  rintro ⟨c, text, hcut, hopens⟩
  exact ⟨c, text, hcut, opensComment_foldl_iff.mp hopens⟩

-- An escaped quote closes nothing, and an escaped backslash escapes nothing.
example : stripComment "\"\\\";\" # c".toList = "\"\\\";\" ".toList ∧
    stripComment "\"\\\\\"; c".toList = "\"\\\\\"".toList := by decide

end Line

end CatchmentLint
