import CatchmentLint.Proofs.Model.CommentScan
import CatchmentLint.Proofs.Text.Lines
import CatchmentLint.Proofs.Text.Pieces

/-!
# CatchmentLint.Proofs.Model.LineForms

The lines of a model file by their forms:

* `read_header`, `read_property`, `read_entry` — a name in brackets, a key with a value and a bare entry
  are read as what they say;
* `isSome_headerName?_iff` — and nothing but a name in brackets is read as a header.

The structures of this module hold what keeps a text from being misread.
-/

namespace CatchmentLint

/-! ## Lines without comments -/

namespace Line

/-- The characters that quote, escape or end a text where it stands. -/
def special : List Char := ['"', '\\', ';', '#', '\n']

/-- Nothing in the text is special. -/
def Plain (s : Text) : Prop := ∀ c ∈ s, c ∉ special

-- The characters of the text are tried, and not all there are.
instance (s : Text) : Decidable (Plain s) := List.decidableBAll _ s

/-- Two texts without special characters have none together. -/
theorem Plain.append {s t : Text} (hs : Plain s) (ht : Plain t) : Plain (s ++ t) := by
  intro c hc
  cases List.mem_append.mp hc with
  | inl hmem => exact hs c hmem
  | inr hmem => exact ht c hmem

/-- A line without special characters has no comment. -/
theorem stripComment_of_plain {s : Text} (h : Plain s) : stripComment s = s := by
  refine stripComment_eq_self_iff.mpr fun before c after hs hstarts => ?_
  have hplain : c ∉ special := h c (by simp [hs])
  obtain rfl | rfl := hstarts.1
  · exact hplain (by decide)
  · exact hplain (by decide)

/-! ## Headers -/

/-- The text in brackets, as a header has its name. -/
def bracketed (inner : Text) : Text := '[' :: (inner ++ [']'])

/-- No blanks stand outside of the brackets. -/
theorem trimmed_bracketed (inner : Text) : Text.Trimmed (bracketed inner) := by
  constructor
  · intro c hc
    cases hc
    decide
  · intro c hc
    rw [bracketed, ← List.cons_append, List.reverse_concat] at hc
    cases hc
    decide

/-- `[x]`, where `x` is not blank and holds no bracket. -/
def IsHeaderShaped (s : Text) : Prop :=
  ∃ inner, s = bracketed inner ∧ (∃ c ∈ inner, isBlank c = false) ∧
    '[' ∉ inner ∧ ']' ∉ inner

/-- A header is read by what stands between its brackets, without the blanks around it. -/
theorem headerName?_bracketed (inner : Text) : headerName? (bracketed inner) =
    if Text.trim inner = [] ∨ '[' ∈ Text.trim inner ∨ ']' ∈ Text.trim inner then none
    else some (Text.trim inner) := by
  have hlead : Text.dropLead? ['['] (bracketed inner) = some (inner ++ [']']) :=
    Text.dropLead?_eq_some_iff.mpr rfl
  have htail : Text.dropTail? [']'] (inner ++ [']']) = some inner :=
    Text.dropTail?_eq_some_iff.mpr rfl
  rw [headerName?, hlead]
  simp only [htail]

/-- Nothing but a name in brackets, without brackets inside, is read as a header. -/
theorem isSome_headerName?_iff {s : Text} : (headerName? s).isSome = true ↔ IsHeaderShaped s := by
  constructor
  · intro hsome
    cases hlead : Text.dropLead? ['['] s with
    | none => simp [headerName?, hlead] at hsome
    | some rest =>
        cases htail : Text.dropTail? [']'] rest with
        | none => simp [headerName?, hlead, htail] at hsome
        | some inner =>
            have hs : s = bracketed inner := by
              rw [Text.dropLead?_eq_some_iff.mp hlead, Text.dropTail?_eq_some_iff.mp htail]
              rfl
            rw [hs, headerName?_bracketed] at hsome
            split at hsome
            · contradiction
            · next hname =>
                simp only [not_or] at hname
                obtain ⟨hnonempty, hopening, hclosing⟩ := hname
                have hsolid : ∃ c ∈ inner, isBlank c = false := by
                  refine Decidable.byContradiction fun hnone => hnonempty (Text.trim_of_blank ?_)
                  simpa using hnone
                exact ⟨inner, hs, hsolid, fun hmem => hopening (Text.mem_trim hmem (by decide)),
                  fun hmem => hclosing (Text.mem_trim hmem (by decide))⟩
  · rintro ⟨inner, rfl, ⟨c, hc, hsolid⟩, hopening, hclosing⟩
    have hnonempty : Text.trim inner ≠ [] := List.ne_nil_of_mem (Text.mem_trim hc hsolid)
    have hopening' : '[' ∉ Text.trim inner := fun hmem => hopening (Text.mem_of_mem_trim hmem)
    have hclosing' : ']' ∉ Text.trim inner := fun hmem => hclosing (Text.mem_of_mem_trim hmem)
    rw [headerName?_bracketed, if_neg (by simp [hnonempty, hopening', hclosing'])]
    rfl

instance (s : Text) : Decidable (IsHeaderShaped s) :=
  decidable_of_iff ((headerName? s).isSome = true) isSome_headerName?_iff

/-- A text of another shape is no header. -/
theorem headerName?_eq_none {s : Text} (h : ¬IsHeaderShaped s) : headerName? s = none := by
  cases hname : headerName? s with
  | none => rfl
  | some name => exact absurd (isSome_headerName?_iff.mp (by rw [hname]; rfl)) h

/-! ## What a line can say -/

/-- A text that is read as it stands: nothing quotes, escapes or ends it, and no blank character
stands at its ends. -/
structure IsClear (s : Text) : Prop where
  plain : Plain s
  trimmed : Text.Trimmed s

/-- A name that is read back as it is from a header. -/
structure IsName (name : Text) : Prop where
  clear : IsClear name
  nonempty : name ≠ []
  no_opening : '[' ∉ name
  no_closing : ']' ∉ name

/-- A key that is read back as it is from a property. -/
structure IsKey (key : Text) : Prop where
  clear : IsClear key
  nonempty : key ≠ []
  no_equals : '=' ∉ key
  no_bracket : key.head? ≠ some '['

/-- The first line of an entry. -/
structure IsEntryStart (s : Text) : Prop where
  clear : IsClear s
  nonempty : s ≠ []
  no_equals : '=' ∉ s
  no_header : ¬IsHeaderShaped s

/-- The brackets of a header are not special. -/
theorem IsName.plain_header {name : Text} (h : IsName name) : Plain (bracketed name) := by
  have hopening : Plain ['['] := by decide
  have hclosing : Plain [']'] := by decide
  exact hopening.append (h.clear.plain.append hclosing)

/-- A name in brackets is read as a header with that name. -/
theorem read_header {name : Text} (h : IsName name) :
    Line.read (bracketed name) = .header name := by
  have htrim : Text.trim (bracketed name) = bracketed name :=
    Text.trim_of_trimmed (trimmed_bracketed name)
  have hname : headerName? (bracketed name) = some name := by
    rw [headerName?_bracketed, Text.trim_of_trimmed h.clear.trimmed, if_neg]
    simp [h.nonempty, h.no_opening, h.no_closing]
  have hstrip : stripComment (bracketed name) = bracketed name :=
    stripComment_of_plain h.plain_header
  have hnonempty : bracketed name ≠ [] := List.cons_ne_nil _ _
  rw [Line.read, hstrip, classify]
  simp [htrim, hnonempty, hname]

/-- No line that starts with a key is a header. -/
theorem IsKey.not_isHeaderShaped {key rest : Text} (h : IsKey key) :
    ¬IsHeaderShaped (key ++ rest) := by
  rintro ⟨inner, heq, -⟩
  cases key with
  | nil => exact h.nonempty rfl
  | cons c key =>
      have hc : c = '[' := (List.cons.inj heq).1
      exact h.no_bracket (by simp [hc])

/-- A property is read whole, but for the space before a value that is empty. -/
theorem exists_trim_property {key first : Text} (hkey : IsKey key) (hfirst : IsClear first) :
    ∃ after, Text.trim (key ++ " = ".toList ++ first) = key ++ ' ' :: '=' :: after ∧
      Text.trim after = first := by
  have hspace : ∀ c ∈ [' '], isBlank c = true := List.forall_mem_singleton.mpr (by decide)
  cases hfirst' : first with
  | nil =>
      have htrimmed : Text.Trimmed (key ++ [' ', '=']) :=
        Text.trimmed_append hkey.clear.trimmed.starts hkey.nonempty (by simp [StartsOutside]; decide)
          (by decide)
      have htrim := Text.trim_between (List.forall_mem_nil _) htrimmed hspace
      exact ⟨[], by simpa using htrim, rfl⟩
  | cons c rest =>
      rw [← hfirst']
      have hfirst'' : first ≠ [] := by simp [hfirst']
      have hends : StartsOutside isBlank (" = ".toList ++ first).reverse := by
        rw [List.reverse_append]
        exact hfirst.trimmed.ends.append (by simpa using hfirst'') _
      have htrimmed : Text.Trimmed (key ++ (" = ".toList ++ first)) :=
        Text.trimmed_append hkey.clear.trimmed.starts hkey.nonempty hends (by simp)
      have hafter := Text.trim_between hspace hfirst.trimmed (List.forall_mem_nil _)
      refine ⟨' ' :: first, ?_, by simpa using hafter⟩
      rw [List.append_assoc, Text.trim_of_trimmed htrimmed]
      rfl

/-- A key with a value is read as a property of both. -/
theorem read_property {key first : Text} (hkey : IsKey key) (hfirst : IsClear first) :
    Line.read (key ++ " = ".toList ++ first) = .keyValue key first := by
  have hplain : Plain (key ++ " = ".toList ++ first) :=
    (hkey.clear.plain.append (by decide)).append hfirst.plain
  obtain ⟨after, htrim, hafter⟩ := exists_trim_property hkey hfirst
  have hheader : headerName? (key ++ ' ' :: '=' :: after) = none :=
    headerName?_eq_none hkey.not_isHeaderShaped
  have hcut : Text.cut? '=' (key ++ ' ' :: '=' :: after) = some (key ++ [' '], after) :=
    Text.cut?_eq_some_iff.mpr ⟨by simp, by simp [hkey.no_equals]⟩
  have htrimKey : Text.trim (key ++ [' ']) = key := by
    simpa using Text.trim_between (List.forall_mem_nil _) hkey.clear.trimmed
      (List.forall_mem_singleton.mpr (by decide))
  rw [Line.read, stripComment_of_plain hplain, classify]
  simp only [htrim]
  simp [hheader, hcut, htrimKey, hkey.nonempty, hafter]

/-- A text that starts no other statement is read as an entry. -/
theorem read_entry {first : Text} (h : IsEntryStart first) : Line.read first = .bare first := by
  have htrim : Text.trim first = first := Text.trim_of_trimmed h.clear.trimmed
  have hcut : Text.cut? '=' first = none := Text.cut?_eq_none_iff.mpr h.no_equals
  rw [Line.read, stripComment_of_plain h.clear.plain, classify]
  simp [htrim, h.nonempty, headerName?_eq_none h.no_header, hcut]

end Line

end CatchmentLint
