import CatchmentLint.Binary64.Shortest
import CatchmentLint.Proofs.Text.Lines
import CatchmentLint.Proofs.Text.Pieces

/-!
# CatchmentLint.Proofs.Text.Unbroken

Texts without a line feed, which stay on one line wherever they are put:

* `unbroken_append_iff`, `unbroken_join` — texts that are put together from such texts;
* `Unbroken.mono` — and what is taken from one, `Unbroken.trim` among others;
* `unbroken_of_mem_lines` — the lines of a text;
* `unbroken_ofNat`, `Binary64.unbroken_toText` — and numbers;
* `splitOn_ofLines` — such texts, each ended by a line feed, are what the whole is split into there.
-/

namespace CatchmentLint

namespace Text

/-- The text has no line feed. -/
def Unbroken (s : Text) : Prop := '\n' ∉ s

instance (s : Text) : Decidable s.Unbroken := inferInstanceAs (Decidable (¬ ('\n' ∈ s)))

variable {s t : Text}

/-! ## Texts put together -/

/-- Two texts stay on one line together just if each does. -/
theorem unbroken_append_iff : (s ++ t).Unbroken ↔ s.Unbroken ∧ t.Unbroken := by
  simp only [Unbroken, List.mem_append, not_or]

theorem Unbroken.append (hs : s.Unbroken) (ht : t.Unbroken) : Unbroken (s ++ t) :=
  unbroken_append_iff.mpr ⟨hs, ht⟩

/-- One more character, if it is none that ends the line. -/
theorem unbroken_cons {c : Char} (hc : c ≠ '\n') (hs : s.Unbroken) : Unbroken (c :: s) := fun hmem =>
  (List.mem_cons.mp hmem).elim (fun heq => hc heq.symm) hs

/-- Texts that are joined stay on one line if their separator does. -/
theorem unbroken_join {separator : Text} {pieces : List Text} (hseparator : separator.Unbroken)
    (h : ∀ piece ∈ pieces, piece.Unbroken) : (join separator pieces).Unbroken := by
  fun_induction join separator pieces with
  | case1 => exact List.not_mem_nil
  | case2 piece => exact h piece List.mem_cons_self
  | case3 piece pieces _ ih =>
      obtain ⟨hpiece, hpieces⟩ := List.forall_mem_cons.mp h
      exact (hpiece.append hseparator).append (ih hpieces)

/-- No capital letter becomes a line feed in lower case. -/
theorem unbroken_lowerAscii (hs : s.Unbroken) : (lowerAscii s).Unbroken := by
  intro hmem
  obtain ⟨c, hc, hlower⟩ := List.mem_map.mp hmem
  unfold Char.toLower at hlower
  split at hlower
  -- A capital letter goes up from codes that are above the line feed's.
  · next hupper =>
      have hcode : c.val + ('a'.val - 'A'.val) = '\n'.val := congrArg Char.val hlower
      have hle : c.val ≥ 'A'.val := hupper.1
      grind
  · exact hs (hlower ▸ hc)

/-! ## Parts of texts -/

/-- Whatever has its characters from a text that stays on one line does so as well. -/
theorem Unbroken.mono (ht : t.Unbroken) (h : s ⊆ t) : s.Unbroken := fun hmem => ht (h hmem)

/-- What is left without the blanks around it. -/
theorem Unbroken.trim (hs : s.Unbroken) : (Text.trim s).Unbroken :=
  hs.mono fun _ => mem_of_mem_trim

/-- What stands behind a lead. -/
theorem Unbroken.dropLead? {lead rest : Text} (hs : s.Unbroken) (h : dropLead? lead s = some rest) :
    rest.Unbroken := by
  rw [dropLead?_eq_some_iff.mp h] at hs
  exact (unbroken_append_iff.mp hs).2

/-- What stands before a tail. -/
theorem Unbroken.dropTail? {tail rest : Text} (hs : s.Unbroken) (h : dropTail? tail s = some rest) :
    rest.Unbroken := by
  rw [dropTail?_eq_some_iff.mp h] at hs
  exact (unbroken_append_iff.mp hs).1

/-- What stands before a character, and what stands behind it. -/
theorem Unbroken.cut? {c : Char} {before after : Text} (hs : s.Unbroken)
    (h : cut? c s = some (before, after)) : before.Unbroken ∧ after.Unbroken := by
  rw [(cut?_eq_some_iff.mp h).1] at hs
  obtain ⟨hbefore, hafter⟩ := unbroken_append_iff.mp hs
  exact ⟨hbefore, fun hmem => hafter (List.mem_cons_of_mem c hmem)⟩

/-! ## Lines -/

/-- No line of a text has the line feed that ends it. -/
theorem unbroken_of_mem_lines (s : Text) : ∀ line ∈ lines s, line.Unbroken := by
  fun_induction lines s with
  | case1 => exact List.forall_mem_nil _
  | case2 s ih => exact List.forall_mem_cons.mpr ⟨List.not_mem_nil, ih⟩
  | case3 s ih => exact List.forall_mem_cons.mpr ⟨List.not_mem_nil, ih⟩
  | case4 c s hlf => exact List.forall_mem_singleton.mpr (unbroken_cons hlf List.not_mem_nil)
  | case5 c s hlf _ first rest hlines ih =>
      obtain ⟨hfirst, hrest⟩ := List.forall_mem_cons.mp (hlines ▸ ih)
      exact List.forall_mem_cons.mpr ⟨unbroken_cons hlf hfirst, hrest⟩

/-- Lines that are put together are found again by their line feeds, with an empty text behind the
last one. -/
theorem splitOn_ofLines {ls : List Text} (h : ∀ line ∈ ls, line.Unbroken) :
    splitOn '\n' (ofLines ls) = ls ++ [[]] := by
  induction ls with
  | nil => rfl
  | cons line ls ih =>
      obtain ⟨hline, hls⟩ := List.forall_mem_cons.mp h
      have hcons : ofLines (line :: ls) = line ++ '\n' :: ofLines ls := by simp [ofLines]
      rw [hcons, splitOn_append_cons, splitOn_of_notMem hline, ih hls]
      rfl

/-! ## Numbers -/

/-- A number has digits only. -/
theorem unbroken_ofNat (n : Nat) : (ofNat n).Unbroken := fun hmem =>
  absurd (Nat.isDigit_of_mem_toDigits (by decide) (by decide) hmem) (by decide)

end Text

namespace Binary64

/-- Digits with zeros before or behind them, or a point in between. -/
theorem unbroken_positional (digits : Nat) (k : Int) : (positional digits k).Unbroken := by
  have hdigits := Text.unbroken_ofNat digits
  have hzeros : ∀ n, Text.Unbroken (List.replicate n '0') := fun n hmem =>
    absurd (List.eq_of_mem_replicate hmem) (by decide)
  simp only [positional]
  split
  · exact hdigits.append (hzeros _)
  · split
    · refine (hdigits.mono (List.take_subset _ _)).append (Text.unbroken_cons (by decide) ?_)
      exact hdigits.mono (List.drop_subset _ _)
    · exact Text.unbroken_cons (by decide) (Text.unbroken_cons (by decide) ((hzeros _).append hdigits))

/-- However a number of 64 bits is written, it stays on one line. -/
theorem unbroken_toText (x : Binary64) : x.toText.Unbroken := by
  cases x with
  | finite negative mantissa exponent =>
      have hmagnitude : Text.Unbroken (if mantissa = 0 then ['0']
          else positional (shortest mantissa exponent).1 (shortest mantissa exponent).2) := by
        split
        · decide
        · exact unbroken_positional _ _
      cases negative with
      | true => exact Text.unbroken_cons (by decide) hmagnitude
      | false => exact hmagnitude
  | infinity negative => cases negative <;> decide
  | nan => exact show Text.Unbroken "NaN".toList by decide

end Binary64

end CatchmentLint
