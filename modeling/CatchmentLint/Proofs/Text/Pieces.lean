import CatchmentLint.Text.Basic

/-!
# CatchmentLint.Proofs.Text.Pieces

Cutting and splitting of texts, in terms of the library's lists:

* `cut?_eq_some_iff` — a cut is made at the first occurrence of the character;
* `dropTail?_eq_some_iff` — what closes a text is dropped where it stands at the end;
* `splitOn_eq` — splitting is the splitting of lists, whose lemmas hold for it;
* `length_splitOn` — there is one piece more than there are occurrences of the character;
* `nil_mem_splitOn_iff` — where splitting leaves an empty piece;
* `hasPart_iff` — a part of a text is an infix of it.
-/

namespace CatchmentLint.Text

/-! ## Cutting at a character -/

/-- No cut is made just if the character is not there. -/
theorem cut?_eq_none_iff {c : Char} {s : Text} : cut? c s = none ↔ c ∉ s := by
  induction s with
  | nil => simp [cut?]
  | cons d s ih =>
      by_cases h : d = c
      · subst h; simp [cut?]
      · simp [cut?, h, ih, Ne.symm h]

/-- A cut is made at the first occurrence. -/
theorem cut?_eq_some_iff {c : Char} {s before after : Text} :
    cut? c s = some (before, after) ↔ s = before ++ c :: after ∧ c ∉ before := by
  induction s generalizing before with
  | nil => simp [cut?]
  | cons d s ih =>
      by_cases h : d = c
      · subst h
        cases before with
        | nil => simp [cut?]
        | cons e before => grind [cut?]
      · cases before with
        | nil => simp [cut?, h]
        | cons e before =>
            simp only [cut?, if_neg h, Option.map_eq_some_iff, Prod.mk.injEq, Prod.exists,
              List.cons_append, List.cons.injEq, List.mem_cons, not_or]
            constructor
            · rintro ⟨before', after', hcut, ⟨rfl, rfl⟩, rfl⟩
              obtain ⟨hs, hc⟩ := ih.mp hcut
              exact ⟨⟨rfl, hs⟩, Ne.symm h, hc⟩
            · rintro ⟨⟨rfl, hs⟩, -, hc⟩
              exact ⟨before, after, ih.mpr ⟨hs, hc⟩, ⟨rfl, rfl⟩, rfl⟩

/-! ## Cutting at an end -/

/-- A tail is dropped just if the text ends in it. -/
theorem dropTail?_eq_some_iff {tail s rest : Text} :
    dropTail? tail s = some rest ↔ s = rest ++ tail := by
  simp only [dropTail?, Option.map_eq_some_iff, dropLead?_eq_some_iff]
  constructor
  · rintro ⟨reversed, hs, rfl⟩
    simpa using congrArg List.reverse hs
  · rintro rfl
    exact ⟨rest.reverse, by simp, by simp⟩

/-! ## Splitting at a character -/

/-- Splitting a text is splitting a list. -/
theorem splitOn_eq (c : Char) (s : Text) : splitOn c s = List.splitOn c s := by
  induction s with
  | nil => simp [splitOn]
  | cons d s ih =>
      rw [splitOn, ih, List.splitOn_cons_eq_if_modifyHead]
      by_cases h : d = c
      · rw [if_pos h, if_pos (beq_iff_eq.mpr h)]
      · rw [if_neg h, if_neg (by simpa using h)]
        cases hs : List.splitOn c s with
        | nil => exact absurd hs (List.splitOn_ne_nil c s)
        | cons piece pieces => rfl

/-- A separator in the middle divides the pieces before it from those behind. -/
theorem splitOn_append_cons (c : Char) (s t : Text) :
    splitOn c (s ++ c :: t) = splitOn c s ++ splitOn c t := by
  rw [splitOn_eq, splitOn_eq, splitOn_eq, List.splitOn_append_cons_self]

/-- Without a separator the text is its only piece. -/
theorem splitOn_of_notMem {c : Char} {s : Text} (h : c ∉ s) : splitOn c s = [s] := by
  rw [splitOn_eq, List.splitOn_eq_singleton h]

/-- There is one piece more than there are separators. -/
theorem length_splitOn (c : Char) (s : Text) : (splitOn c s).length = s.count c + 1 := by
  induction s with
  | nil => rfl
  | cons d s ih =>
      rw [splitOn]
      by_cases h : d = c
      · subst h
        rw [if_pos rfl, List.length_cons, ih, List.count_cons_self]
      · rw [if_neg h, List.count_cons_of_ne h, ← ih]
        cases hpieces : splitOn c s with
        | nil => exact absurd hpieces (by rw [splitOn_eq]; exact List.splitOn_ne_nil c s)
        | cons piece pieces => rfl

/-- The pieces with the separators between them are the text. -/
theorem intercalate_splitOn (c : Char) (s : Text) : [c].intercalate (splitOn c s) = s := by
  rw [splitOn_eq]
  exact List.intercalate_splitOn c

/-- A text of one piece is that piece. -/
theorem eq_of_splitOn_eq_singleton {c : Char} {s piece : Text} (h : splitOn c s = [piece]) : s = piece := by
  rw [← intercalate_splitOn c s, h, List.intercalate_singleton]

/-- Every character stands in a piece, but for those that the text is split at. -/
theorem exists_mem_splitOn {c d : Char} {s : Text} (hd : d ∈ s) (hne : d ≠ c) :
    ∃ piece ∈ splitOn c s, d ∈ piece := by
  induction s with
  | nil => cases hd
  | cons e s ih =>
      rw [splitOn]
      by_cases he : e = c
      · subst he
        rw [if_pos rfl]
        have hs : d ∈ s := (List.mem_cons.mp hd).resolve_left hne
        obtain ⟨piece, hpiece, hmem⟩ := ih hs
        exact ⟨piece, List.mem_cons_of_mem _ hpiece, hmem⟩
      · rw [if_neg he]
        cases hpieces : splitOn c s with
        | nil => exact absurd hpieces (by rw [splitOn_eq]; exact List.splitOn_ne_nil c s)
        | cons first others =>
            cases List.mem_cons.mp hd with
            | inl heq => exact ⟨e :: first, List.mem_cons_self, by rw [heq]; exact List.mem_cons_self⟩
            | inr hs =>
                obtain ⟨piece, hpiece, hmem⟩ := ih hs
                rw [hpieces] at hpiece
                cases List.mem_cons.mp hpiece with
                | inl h => exact ⟨e :: first, List.mem_cons_self, List.mem_cons_of_mem _ (h ▸ hmem)⟩
                | inr h => exact ⟨piece, List.mem_cons_of_mem _ h, hmem⟩

/-- A piece is empty just where the text is, where it starts or ends with the character, or where two
of these stand in a row. -/
theorem nil_mem_splitOn_iff {c : Char} {s : Text} :
    [] ∈ splitOn c s ↔ s = [] ∨ s.head? = some c ∨ [c, c] <:+: s ∨ s.getLast? = some c := by
  constructor
  · -- The induction is on the length, since what follows a cut is shorter.
    induction hlength : s.length using Nat.strongRecOn generalizing s with
    | ind n ih =>
        subst hlength
        intro h
        cases hcut : cut? c s with
        | none =>
            rw [splitOn_of_notMem (cut?_eq_none_iff.mp hcut), List.mem_singleton] at h
            exact .inl h.symm
        | some parts =>
            obtain ⟨rfl, hbefore⟩ := cut?_eq_some_iff.mp hcut
            rw [splitOn_append_cons, splitOn_of_notMem hbefore, List.singleton_append, List.mem_cons] at h
            rcases h with hnil | h
            · exact .inr (.inl (by rw [← hnil]; rfl))
            · have hshorter : parts.2.length < (parts.1 ++ c :: parts.2).length := by simp; omega
              rcases ih _ hshorter rfl h with hnil | hhead | hpair | hlast
              · exact .inr (.inr (.inr (by simp [hnil])))
              · obtain ⟨rest, hrest⟩ := List.head?_eq_some_iff.mp hhead
                exact .inr (.inr (.inl ⟨parts.1, rest, by simp [hrest]⟩))
              · exact .inr (.inr (.inl (hpair.trans ⟨parts.1 ++ [c], [], by simp⟩)))
              · exact .inr (.inr (.inr (by simp [List.getLast?_cons, hlast])))
  · rintro (rfl | hhead | ⟨a, b, rfl⟩ | hlast)
    · exact List.mem_singleton_self []
    · obtain ⟨rest, rfl⟩ := List.head?_eq_some_iff.mp hhead
      rw [splitOn, if_pos rfl]
      exact List.mem_cons_self
    · have happend : a ++ [c, c] ++ b = a ++ c :: c :: b := by simp
      rw [happend, splitOn_append_cons, splitOn, if_pos rfl]
      simp
    · obtain ⟨a, rfl⟩ := List.getLast?_eq_some_iff.mp hlast
      rw [splitOn_append_cons]
      simp [splitOn]

/-! ## Parts -/

/-- A text has a part just if the part stands somewhere in it. -/
theorem hasPart_iff {part s : Text} : hasPart part s = true ↔ part <:+: s := by
  induction s with
  | nil => simp [hasPart]
  | cons c s ih => simp [hasPart, ih, List.infix_cons_iff]

end CatchmentLint.Text
