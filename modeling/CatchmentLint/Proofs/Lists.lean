import Mathlib.Data.List.Flatten

/-!
# CatchmentLint.Proofs.Lists

Prefixes of lists that a predicate holds of, how many elements it holds of, and what the elements
give that it does not hold of:

* `takeWhile_append_of_startsOutside`, `takeWhile_append_eq` — such a prefix ends at the latest where
  the rest starts outside;
* `apply_getD_of_lt` and `apply_getD_length` — the same, element by element;
* `countP_lt_countP` — a predicate that is stronger somewhere holds of fewer elements;
* `flatMap_filter_eq_iff` — elements that are left out show where they would have given something;
* `filter_flatMap_of_unique` — what is asked for comes from the one element that gives it.
-/

namespace CatchmentLint

variable {α : Type} {p : α → Bool} {s t : List α}

/-- The predicate holds of all that it takes. -/
theorem of_mem_takeWhile {a : α} (h : a ∈ s.takeWhile p) : p a = true :=
  List.all_eq_true.mp List.all_takeWhile a h

/-- What the predicate does not hold of is not dropped. -/
theorem mem_dropWhile_of_mem {a : α} (ha : a ∈ s) (h : p a = false) : a ∈ s.dropWhile p := by
  rw [← List.takeWhile_append_dropWhile (p := p) (l := s)] at ha
  cases List.mem_append.mp ha with
  | inl htake =>
      rw [of_mem_takeWhile htake] at h
      contradiction
  | inr hdrop => exact hdrop

/-- The list is empty or starts with an element outside of `p`. -/
def StartsOutside (p : α → Bool) (s : List α) : Prop := ∀ a ∈ s.head?, p a = false

instance (p : α → Bool) (s : List α) : Decidable (StartsOutside p s) :=
  inferInstanceAs (Decidable (∀ a ∈ s.head?, p a = false))

theorem startsOutside_nil : StartsOutside p [] := by simp [StartsOutside]

/-- What starts outside goes on doing so, whatever stands behind it. -/
theorem StartsOutside.append (h : StartsOutside p s) (hs : s ≠ []) (t : List α) :
    StartsOutside p (s ++ t) := by
  cases s with
  | nil => contradiction
  | cons a s => exact h

/-- A prefix starts as the whole does. -/
theorem StartsOutside.of_isPrefix (h : StartsOutside p t) (hs : s <+: t) : StartsOutside p s := by
  obtain ⟨rest, rfl⟩ := hs
  cases s with
  | nil => exact startsOutside_nil
  | cons a s => exact h

/-- Where the predicate stops taking, the rest starts outside. -/
theorem startsOutside_dropWhile (p : α → Bool) (s : List α) : StartsOutside p (s.dropWhile p) := by
  intro a ha
  have hhead := List.head?_dropWhile_not p s
  rwa [Option.mem_def.mp ha] at hhead

/-- The predicate takes a list that it holds of and stops where the next starts. -/
theorem takeWhile_append_of_startsOutside (hs : ∀ a ∈ s, p a = true) (ht : StartsOutside p t) :
    (s ++ t).takeWhile p = s := by
  rw [List.takeWhile_append_of_pos hs]
  cases t with
  | nil => simp
  | cons a t => simp [ht a rfl]

/-- What the predicate leaves of both is the list that starts outside. -/
theorem dropWhile_append_of_startsOutside (hs : ∀ a ∈ s, p a = true) (ht : StartsOutside p t) :
    (s ++ t).dropWhile p = t := by
  rw [List.dropWhile_append_of_pos hs]
  cases t with
  | nil => simp
  | cons a t => simp [ht a rfl]

/-- What starts outside adds nothing to such a prefix. -/
theorem takeWhile_append_eq (ht : StartsOutside p t) : (s ++ t).takeWhile p = s.takeWhile p := by
  induction s with
  | nil => exact takeWhile_append_of_startsOutside (s := []) (by simp) ht
  | cons a s ih => cases ha : p a <;> simp [ha, ih]

/-- A list that starts outside is not touched, be the list before it dropped as a whole. -/
theorem dropWhile_append_eq (ht : StartsOutside p t) : (s ++ t).dropWhile p = s.dropWhile p ++ t := by
  induction s with
  | nil => exact dropWhile_append_of_startsOutside (s := []) (by simp) ht
  | cons a s ih => cases ha : p a <;> simp [ha, ih]

theorem length_takeWhile_add_dropWhile (p : α → Bool) (s : List α) :
    (s.takeWhile p).length + (s.dropWhile p).length = s.length := by
  rw [← List.length_append, List.takeWhile_append_dropWhile]

/-- The predicate holds at every place that it takes. -/
theorem apply_getD_of_lt {i : Nat} (d : α) (h : i < (s.takeWhile p).length) :
    p (s.getD i d) = true := by
  induction s generalizing i with
  | nil => simp at h
  | cons a s ih =>
      cases ha : p a with
      | false => simp [ha] at h
      | true =>
          cases i with
          | zero => exact ha
          | succ i =>
              rw [List.getD_cons_succ]
              exact ih (by simpa [ha] using h)

/-- The predicate does not hold at the place behind those that it takes. -/
theorem apply_getD_length {d : α} (hd : p d = false) :
    p (s.getD (s.takeWhile p).length d) = false := by
  induction s with
  | nil => simpa using hd
  | cons a s ih =>
      cases ha : p a with
      | false => simp [ha]
      | true => simpa [ha] using ih

/-- One element more, and none less, makes a greater count. -/
theorem countP_lt_countP {q : α → Bool} {a : α} (himp : ∀ b ∈ s, q b = true → p b = true)
    (ha : a ∈ s) (hp : p a = true) (hq : q a = false) : s.countP q < s.countP p := by
  induction s with
  | nil => cases ha
  | cons b s ih =>
      have hrest := List.countP_mono_left fun c hc => himp c (List.mem_cons_of_mem _ hc)
      rw [List.countP_cons, List.countP_cons]
      rcases List.mem_cons.mp ha with rfl | hmem
      · rw [if_pos hp, hq]
        simp only [Bool.false_eq_true, if_false]
        omega
      · have hless := ih (fun c hc => himp c (List.mem_cons_of_mem _ hc)) hmem
        have hb := himp b List.mem_cons_self
        cases hqb : q b with
        | false => simp only [Bool.false_eq_true, if_false]; omega
        | true => simp only [hb hqb, if_true]; omega

/-- An element that is left out gives nothing. -/
theorem flatMap_filter_not {β : Type} (c : α → Prop) [DecidablePred c] (f : α → List β)
    (xs : List α) :
    (xs.filter fun x => ¬c x).flatMap f = xs.flatMap fun x => if c x then [] else f x := by
  induction xs with
  | nil => rfl
  | cons x xs ih =>
    by_cases hx : c x
    · rw [List.filter_cons_of_neg (by simp [hx]), List.flatMap_cons, if_pos hx, ih,
        List.nil_append]
    · rw [List.filter_cons_of_pos (by simp [hx]), List.flatMap_cons, List.flatMap_cons,
        if_neg hx, ih]

/-- What is left out shows where it would have given something. -/
theorem flatMap_filter_eq_iff {β : Type} {f : α → List β} {xs : List α}
    (h : ∀ x, p x = false → f x ≠ []) :
    (xs.filter p).flatMap f = xs.flatMap f ↔ ∀ x ∈ xs, p x = true := by
  induction xs with
  | nil => simp
  | cons x xs ih =>
    rw [List.flatMap_cons, List.forall_mem_cons]
    cases hx : p x with
    | true =>
      rw [List.filter_cons_of_pos hx, List.flatMap_cons, List.append_cancel_left_eq, ih,
        and_iff_right rfl]
    | false =>
      refine iff_of_false (fun heq => ?_) fun hall => Bool.false_ne_true hall.1
      have hle := (List.Sublist.flatMap (List.filter_sublist (p := p) (l := xs)) f).length_le
      have hpos : 0 < (f x).length := List.length_pos_iff.mpr (h x hx)
      rw [List.filter_cons_of_neg (by simp [hx])] at heq
      have hlength := congrArg List.length heq
      rw [List.length_append] at hlength
      omega

/-- What only one element gives is filtered out of all that the elements give. -/
theorem filter_flatMap_of_unique {β : Type} {f : α → List β} {q : β → Bool} {xs : List α} {x : α}
    (hnodup : xs.Nodup) (hx : x ∈ xs) (h : ∀ y ∈ xs, y ≠ x → ∀ b ∈ f y, q b = false) :
    (xs.flatMap f).filter q = (f x).filter q := by
  induction xs with
  | nil => cases hx
  | cons z zs ih =>
    obtain ⟨hz, hnodup⟩ := List.nodup_cons.mp hnodup
    obtain ⟨hfirst, hrest⟩ := List.forall_mem_cons.mp h
    rw [List.flatMap_cons, List.filter_append]
    rcases List.mem_cons.mp hx with rfl | hx
    · have hnone : (zs.flatMap f).filter q = [] := by
        rw [List.filter_flatMap, List.flatMap_eq_nil_iff]
        intro y hy
        exact List.filter_eq_nil_iff.mpr fun b hb =>
          Bool.eq_false_iff.mp (hrest y hy (fun heq => hz (heq ▸ hy)) b hb)
      rw [hnone, List.append_nil]
    · have hnone : (f z).filter q = [] := List.filter_eq_nil_iff.mpr fun b hb =>
        Bool.eq_false_iff.mp (hfirst (fun heq => hz (heq ▸ hx)) b hb)
      rw [hnone, List.nil_append, ih hnodup hx hrest]

end CatchmentLint
