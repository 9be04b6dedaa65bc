import CatchmentLint.Proofs.Pattern.Whole

/-!
# CatchmentLint.Proofs.Pattern.Languages

What regular expressions match that look at nothing around them.

`Denotes r L` says that `r` matches the texts of the language `L`, wherever they stand.  There is a
rule for each way to put expressions together, so that the language of a pattern is found part by
part; `Pattern.accepts_iff_of_denotes` says what the whole pattern then accepts.
-/

namespace CatchmentLint.Regex

/-- Wherever it stands, a stretch is matched just where it belongs to the language. -/
def Denotes (r : Regex) (L : Text → Prop) : Prop := ∀ before s after, r.Spans before s after ↔ L s

variable {r a b : Regex} {A B L : Text → Prop} {lazy : Bool}

theorem denotes_empty : Regex.empty.Denotes fun s => s = [] := fun _ _ _ => Iff.rfl

theorem denotes_set (ranges : CharRanges) :
    (Regex.set ranges).Denotes fun s => ∃ c, s = [c] ∧ ranges.contains c = true :=
  fun _ _ _ => Iff.rfl

theorem denotes_single (c : Char) : (Regex.set (.single c.toNat)).Denotes fun s => s = [c] := by
  intro before s after
  constructor
  · rintro ⟨d, rfl, hd⟩
    rw [contains_single_iff.mp hd]
  · rintro rfl
    exact ⟨c, rfl, contains_single_iff.mpr rfl⟩

namespace Denotes

/-- A language may be given in other words. -/
theorem congr (h : r.Denotes A) (hA : ∀ s, A s ↔ L s) : r.Denotes L := fun before s after =>
  (h before s after).trans (hA s)

/-- What one denotes, and behind it what the other does. -/
theorem seq (ha : a.Denotes A) (hb : b.Denotes B) :
    (Regex.seq a b).Denotes fun s => ∃ u v, s = u ++ v ∧ A u ∧ B v := by
  intro before s after
  constructor
  · rintro ⟨u, v, rfl, hu, hv⟩
    exact ⟨u, v, rfl, (ha _ _ _).mp hu, (hb _ _ _).mp hv⟩
  · rintro ⟨u, v, rfl, hu, hv⟩
    exact ⟨u, v, rfl, (ha _ _ _).mpr hu, (hb _ _ _).mpr hv⟩

/-- The last part of a sequence. -/
theorem last (ha : a.Denotes A) : (Regex.seq a .empty).Denotes A := by
  refine (ha.seq denotes_empty).congr fun s => ?_
  simp

/-- A character that stands for itself, and the rest. -/
theorem single (c : Char) (ha : a.Denotes A) :
    (Regex.seq (.set (.single c.toNat)) a).Denotes fun s => ∃ t, s = c :: t ∧ A t := by
  refine ((denotes_single c).seq ha).congr fun s => ?_
  constructor
  · rintro ⟨_, t, rfl, rfl, ht⟩
    exact ⟨t, rfl, ht⟩
  · rintro ⟨t, rfl, ht⟩
    exact ⟨[c], t, rfl, rfl, ht⟩

theorem capture (ha : a.Denotes A) : (Regex.capture a).Denotes A := ha

/-- An alternation of two. -/
theorem alt (ha : a.Denotes A) (hb : b.Denotes B) :
    (Regex.alt a (.alt b (.set []))).Denotes fun s => A s ∨ B s := by
  intro before s after
  have hnone : ¬(Regex.set []).Spans before s after := by
    rintro ⟨c, -, hc⟩
    contradiction
  exact or_congr (ha before s after) ((or_iff_left hnone).trans (hb before s after))

/-- Turns are stretches one behind the other. -/
theorem turns_iff (ha : a.Denotes A) {n : Nat} {before after : Option Char} {s : Text} :
    Turns a.Spans n before s after ↔
      ∃ parts : List Text, parts.length = n ∧ s = parts.flatten ∧ ∀ part ∈ parts, A part := by
  induction n generalizing before s with
  | zero => simp [Turns]
  | succ n ih =>
    constructor
    · rintro ⟨u, v, rfl, hu, hv⟩
      obtain ⟨parts, rfl, rfl, hparts⟩ := ih.mp hv
      exact ⟨u :: parts, rfl, rfl, List.forall_mem_cons.mpr ⟨(ha _ _ _).mp hu, hparts⟩⟩
    · rintro ⟨parts, hlength, rfl, hparts⟩
      obtain ⟨u, parts, rfl⟩ := List.exists_cons_of_length_eq_add_one hlength
      obtain ⟨hu, hparts⟩ := List.forall_mem_cons.mp hparts
      exact ⟨u, parts.flatten, rfl, (ha _ _ _).mpr hu,
        ih.mpr ⟨parts, Nat.succ.inj hlength, rfl, hparts⟩⟩

/-- Nothing, or what the body denotes. -/
theorem optional (ha : a.Denotes A) :
    (Regex.loop 0 (some 1) lazy a).Denotes fun s => s = [] ∨ A s := by
  intro before s after
  constructor
  · rintro ⟨n, -, hn, hturns⟩
    obtain ⟨parts, rfl, rfl, hparts⟩ := ha.turns_iff.mp hturns
    have hlength := hn 1 rfl
    match parts with
    | [] => exact .inl rfl
    | [u] => exact .inr (by simpa using hparts)
    | _ :: _ :: _ => simp at hlength
  · rintro (rfl | hs)
    · exact ⟨0, Nat.le_refl 0, by simp, rfl⟩
    · exact ⟨1, Nat.zero_le 1, by simp, ha.turns_iff.mpr ⟨[s], rfl, by simp, by simpa using hs⟩⟩

/-- Any number of turns. -/
theorem many (ha : a.Denotes A) :
    (Regex.loop 0 none lazy a).Denotes fun s =>
      ∃ parts : List Text, s = parts.flatten ∧ ∀ part ∈ parts, A part := by
  intro before s after
  constructor
  · rintro ⟨n, -, -, hturns⟩
    obtain ⟨parts, -, rfl, hparts⟩ := ha.turns_iff.mp hturns
    exact ⟨parts, rfl, hparts⟩
  · rintro ⟨parts, rfl, hparts⟩
    exact ⟨parts.length, Nat.zero_le _, nofun, ha.turns_iff.mpr ⟨parts, rfl, rfl, hparts⟩⟩

end Denotes

/-- Characters of one set, `min` of them at least. -/
theorem denotes_loop_set (min : Nat) (ranges : CharRanges) :
    (Regex.loop min none lazy (.set ranges)).Denotes fun s =>
      min ≤ s.length ∧ ∀ c ∈ s, ranges.contains c = true := by
  intro before s after
  constructor
  · rintro ⟨n, hmin, -, hturns⟩
    obtain ⟨rfl, hall⟩ := turns_set_iff.mp hturns
    exact ⟨hmin, hall⟩
  · rintro ⟨hmin, hall⟩
    exact ⟨s.length, hmin, nofun, turns_set_iff.mpr ⟨rfl, hall⟩⟩

end CatchmentLint.Regex

namespace CatchmentLint.Pattern

/-- A pattern accepts the language that its text denotes by itself. -/
theorem accepts_iff_of_denotes {text : Text} {pattern : Pattern} {regex : Regex} {L : Text → Prop}
    (hcompile : compile? text = some pattern) (halone : alone? text = some regex)
    (h : regex.Denotes L) (value : Text) : pattern.accepts value = true ↔ L value := by
  rw [accepts_iff_matchesWhole hcompile (by rw [halone]; rfl), MatchesWhole, halone]
  simp only [Option.some.injEq, exists_eq_left']
  exact h none value none

end CatchmentLint.Pattern
