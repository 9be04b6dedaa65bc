import CatchmentLint.Model.Basic

/-!
# CatchmentLint.Proofs.Model.Latest

Elements that no later element hides:

* `mem_latestBy_iff` — these are what the view of the latest elements lists;
* `lastWith?_eq_some_iff` — and what looking up a key finds;
* `nodup_map_latestBy` — the view lists each key once, and `latestBy_eq_self_iff` — it lists all
  elements just where no key occurs twice;
* `lastWith?_congr`, `latestBy_congr` — only which keys are equal matters.
-/

namespace CatchmentLint

variable {α β : Type} [BEq β] [LawfulBEq β] {key : α → β} {k : β} {a : α} {l : List α}

/-- The element stands in the list, and none after it has its key. -/
def IsLatest (key : α → β) (a : α) (l : List α) : Prop :=
  ∃ before after, l = before ++ a :: after ∧ ∀ b ∈ after, key b ≠ key a

omit [BEq β] [LawfulBEq β] in
theorem IsLatest.mem (h : IsLatest key a l) : a ∈ l := by
  obtain ⟨before, after, rfl, -⟩ := h
  simp

omit [BEq β] [LawfulBEq β] in
theorem isLatest_cons_iff {b : α} :
    IsLatest key a (b :: l) ↔ (a = b ∧ ∀ c ∈ l, key c ≠ key b) ∨ IsLatest key a l := by
  constructor
  · rintro ⟨before, after, heq, hafter⟩
    cases before with
    | nil =>
        cases heq
        exact .inl ⟨rfl, hafter⟩
    | cons c before =>
        cases heq
        exact .inr ⟨before, after, rfl, hafter⟩
  · rintro (⟨rfl, hlater⟩ | ⟨before, after, rfl, hafter⟩)
    · exact ⟨[], l, rfl, hlater⟩
    · exact ⟨b :: before, after, rfl, hafter⟩

/-- The view of the latest elements lists those, and no others. -/
theorem mem_latestBy_iff : a ∈ latestBy key l ↔ IsLatest key a l := by
  induction l with
  | nil => simp [latestBy, IsLatest]
  | cons b l ih =>
      rw [latestBy_cons, isLatest_cons_iff, ← ih]
      split
      · next hany =>
          obtain ⟨c, hc, heq⟩ := List.any_eq_true.mp hany
          constructor
          · exact .inr
          · rintro (⟨-, hlater⟩ | hmem)
            · exact absurd (eq_of_beq heq) (hlater c hc)
            · exact hmem
      · next hany =>
          have hlater : ∀ c ∈ l, key c ≠ key b := fun c hc heq =>
            hany (List.any_eq_true.mpr ⟨c, hc, beq_iff_eq.mpr heq⟩)
          rw [List.mem_cons, and_iff_left hlater]

/-- Looking up a key finds nothing where no element has it. -/
theorem lastWith?_eq_none_iff : lastWith? key k l = none ↔ ∀ a ∈ l, key a ≠ k := by
  induction l with
  | nil => simp [lastWith?]
  | cons b l ih =>
      rw [lastWith?_cons]
      cases hrest : lastWith? key k l with
      | some c =>
          have hsome : ¬∀ a ∈ l, key a ≠ k := by rw [← ih, hrest]; simp
          simp only [List.mem_cons, forall_eq_or_imp, hsome, and_false, reduceCtorEq]
      | none =>
          have hnone := ih.mp hrest
          by_cases hb : key b = k
          · simp [hb]
          · simpa [hb] using hnone

/-- Looking up a key finds the latest element that has it. -/
theorem lastWith?_eq_some_iff : lastWith? key k l = some a ↔ key a = k ∧ IsLatest key a l := by
  induction l generalizing a with
  | nil => simp [lastWith?, IsLatest]
  | cons b l ih =>
      rw [lastWith?_cons, isLatest_cons_iff]
      cases hrest : lastWith? key k l with
      | some c =>
          obtain ⟨hkey, hc⟩ := ih.mp hrest
          simp only [Option.some.injEq]
          constructor
          · rintro rfl
            exact ⟨hkey, .inr hc⟩
          · rintro ⟨hk, ⟨rfl, hlater⟩ | hlatest⟩
            · exact absurd (hkey.trans hk.symm) (hlater c hc.mem)
            · exact Option.some.inj (hrest.symm.trans (ih.mpr ⟨hk, hlatest⟩))
      | none =>
          have hnone := lastWith?_eq_none_iff.mp hrest
          by_cases hb : key b = k
          · simp only [beq_iff_eq.mpr hb, if_true, Option.some.injEq]
            constructor
            · rintro rfl
              exact ⟨hb, .inl ⟨rfl, fun c hc heq => hnone c hc (heq.trans hb)⟩⟩
            · rintro ⟨hk, ⟨rfl, -⟩ | hlatest⟩
              · rfl
              · exact absurd hk (hnone a hlatest.mem)
          · simp only [beq_eq_false_iff_ne.mpr hb, Bool.false_eq_true, if_false]
            constructor
            · intro h
              contradiction
            · rintro ⟨hk, ⟨rfl, -⟩ | hlatest⟩
              · exact absurd hk hb
              · exact absurd hk (hnone a hlatest.mem)

theorem isSome_lastWith?_iff : (lastWith? key k l).isSome = true ↔ ∃ a ∈ l, key a = k := by
  cases hfound : lastWith? key k l with
  | none =>
      have hnone := lastWith?_eq_none_iff.mp hfound
      exact iff_of_false (by simp) fun ⟨a, ha, hkey⟩ => hnone a ha hkey
  | some a =>
      obtain ⟨hkey, hlatest⟩ := lastWith?_eq_some_iff.mp hfound
      exact iff_of_true rfl ⟨a, hlatest.mem, hkey⟩

/-- A key that is not found may be asked for where that asks nothing. -/
theorem asked_iff_of_none {asked : Bool} (h : lastWith? key k l = none) :
    (asked = true → ∃ a ∈ l, key a = k) ↔ asked = false := by
  have hnone : ¬∃ a ∈ l, key a = k := by rw [← isSome_lastWith?_iff, h]; simp
  rw [imp_iff_not hnone, Bool.not_eq_true]

/-- A key that is found has one latest element. -/
theorem forall_isLatest_iff {P : α → Prop} (h : lastWith? key k l = some a) :
    (∀ b, IsLatest key b l → key b = k → P b) ↔ P a := by
  obtain ⟨hkey, hlatest⟩ := lastWith?_eq_some_iff.mp h
  constructor
  · intro hall
    exact hall a hlatest hkey
  · intro ha b hb hbkey
    have hfound := lastWith?_eq_some_iff.mpr ⟨hbkey, hb⟩
    rw [h] at hfound
    exact Option.some.inj hfound ▸ ha

/-- A key that is not found has none. -/
theorem forall_isLatest_of_none {P : α → Prop} (h : lastWith? key k l = none) :
    ∀ b, IsLatest key b l → key b = k → P b := fun b hb hkey =>
  absurd hkey (lastWith?_eq_none_iff.mp h b hb.mem)

/-! ## Lists that are put together -/

omit [LawfulBEq β] in
theorem lastWith?_append_singleton :
    lastWith? key k (l ++ [a]) = if key a == k then some a else lastWith? key k l := by
  induction l with
  | nil => rfl
  | cons b l ih =>
      rw [List.cons_append, lastWith?_cons, ih, lastWith?_cons]
      cases ha : key a == k <;> simp

omit [LawfulBEq β] in
theorem lastWith?_map {γ : Type} {f : γ → α} {l : List γ} :
    lastWith? key k (l.map f) = (lastWith? (fun c => key (f c)) k l).map f := by
  induction l with
  | nil => rfl
  | cons c l ih =>
      rw [List.map_cons, lastWith?_cons, ih, lastWith?_cons]
      cases lastWith? (fun c => key (f c)) k l with
      | some d => rfl
      | none => by_cases hc : key (f c) == k <;> simp [hc]

/-- Two keys that are found in the same elements are found in the same place. -/
theorem lastWith?_congr {γ : Type} [BEq γ] [LawfulBEq γ] {key' : α → γ} {k' : γ}
    (h : ∀ a ∈ l, key a = k ↔ key' a = k') : lastWith? key k l = lastWith? key' k' l := by
  induction l with
  | nil => rfl
  | cons b l ih =>
      obtain ⟨hb, hl⟩ := List.forall_mem_cons.mp h
      have hbeq : (key b == k) = (key' b == k') := by
        rw [Bool.eq_iff_iff, beq_iff_eq, beq_iff_eq, hb]
      rw [lastWith?_cons, lastWith?_cons, ih hl, hbeq]

/-- Elements without the key can be left out. -/
theorem lastWith?_filter {p : α → Bool} (h : ∀ a ∈ l, key a = k → p a = true) :
    lastWith? key k (l.filter p) = lastWith? key k l := by
  induction l with
  | nil => rfl
  | cons b l ih =>
      obtain ⟨hb, hl⟩ := List.forall_mem_cons.mp h
      cases hpb : p b with
      | true => rw [List.filter_cons_of_pos hpb, lastWith?_cons, lastWith?_cons, ih hl]
      | false =>
          have hkey : key b ≠ k := fun heq => by
            rw [hb heq] at hpb
            contradiction
          rw [List.filter_cons_of_neg (by simp [hpb]), ih hl, lastWith?_cons]
          cases lastWith? key k l <;> simp [hkey]

/-! ## The list of the latest elements -/

omit [LawfulBEq β] in
theorem latestBy_sublist (key : α → β) (l : List α) : (latestBy key l).Sublist l := by
  induction l with
  | nil => exact .slnil
  | cons b l ih =>
      rw [latestBy_cons]
      split
      · exact ih.cons b
      · exact ih.cons_cons b

/-- Each key is listed once. -/
theorem nodup_map_latestBy (key : α → β) (l : List α) : ((latestBy key l).map key).Nodup := by
  induction l with
  | nil => exact List.nodup_nil
  | cons b l ih =>
      rw [latestBy_cons]
      split
      · exact ih
      · next hany =>
          rw [List.map_cons, List.nodup_cons]
          constructor
          · intro hmem
            obtain ⟨c, hc, heq⟩ := List.mem_map.mp hmem
            exact hany (List.any_eq_true.mpr
              ⟨c, (latestBy_sublist key l).subset hc, beq_iff_eq.mpr heq⟩)
          · exact ih

/-- It depends on the keys only through which of them are equal. -/
theorem latestBy_congr {γ : Type} [BEq γ] [LawfulBEq γ] {key' : α → γ}
    (h : ∀ a ∈ l, ∀ b ∈ l, key a = key b ↔ key' a = key' b) : latestBy key l = latestBy key' l := by
  induction l with
  | nil => rfl
  | cons b l ih =>
      have hrest := ih fun c hc d hd => h c (List.mem_cons_of_mem b hc) d (List.mem_cons_of_mem b hd)
      have hlater : (l.any (key · == key b) = true) ↔ (l.any (key' · == key' b) = true) := by
        simp only [List.any_eq_true, beq_iff_eq]
        refine exists_congr fun c => and_congr_right fun hc => ?_
        exact h c (List.mem_cons_of_mem b hc) b List.mem_cons_self
      rw [latestBy_cons, latestBy_cons, hrest, Bool.eq_iff_iff.mpr hlater]

omit [LawfulBEq β] in
theorem latestBy_map {γ : Type} {f : γ → α} {l : List γ} :
    latestBy key (l.map f) = (latestBy (fun c => key (f c)) l).map f := by
  induction l with
  | nil => rfl
  | cons c l ih =>
      rw [List.map_cons, latestBy_cons, ih, latestBy_cons, List.any_map, apply_ite (List.map f)]
      rfl

/-- Nothing is hidden just where no two elements have one key. -/
theorem latestBy_eq_self_iff : latestBy key l = l ↔ (l.map key).Nodup := by
  constructor
  · intro h
    exact h ▸ nodup_map_latestBy key l
  · intro h
    induction l with
    | nil => rfl
    | cons b l ih =>
        rw [List.map_cons, List.nodup_cons] at h
        have hlater : ¬l.any (key · == key b) = true := fun hany => by
          obtain ⟨c, hc, heq⟩ := List.any_eq_true.mp hany
          exact h.1 (List.mem_map.mpr ⟨c, hc, eq_of_beq heq⟩)
        rw [latestBy_cons, if_neg hlater, ih h.2]

/-- What is hidden, once or more often, shares its key with another element. -/
theorem one_lt_countP_of_count_latestBy_lt [BEq α] [LawfulBEq α]
    (h : (latestBy key l).count a < l.count a) : 1 < l.countP (key · == key a) := by
  have hcount : l.count a ≤ l.countP (key · == key a) := by
    rw [List.count]
    refine List.countP_mono_left fun b _ hb => ?_
    rw [eq_of_beq hb, beq_self_eq_true]
  refine Nat.lt_of_not_le fun hone => ?_
  obtain ⟨before, after, rfl⟩ := List.append_of_mem (List.count_pos_iff.mp (Nat.zero_lt_of_lt h))
  have hlatest : IsLatest key a (before ++ a :: after) := by
    refine ⟨before, after, rfl, fun b hb heq => ?_⟩
    have hpos : 0 < after.countP (key · == key a) :=
      List.countP_pos_iff.mpr ⟨b, hb, beq_iff_eq.mpr heq⟩
    rw [List.countP_append, List.countP_cons_of_pos (by simp)] at hone
    omega
  have hshown := List.count_pos_iff.mpr (mem_latestBy_iff.mpr hlatest)
  omega
theorem mem_map_latestBy_iff : k ∈ (latestBy key l).map key ↔ k ∈ l.map key := by
  constructor
  · intro hk
    exact ((latestBy_sublist key l).map key).subset hk
  · intro hk
    obtain ⟨a, ha, hkey⟩ := List.mem_map.mp hk
    obtain ⟨b, hb⟩ := Option.isSome_iff_exists.mp (isSome_lastWith?_iff.mpr ⟨a, ha, hkey⟩)
    obtain ⟨hbkey, hlatest⟩ := lastWith?_eq_some_iff.mp hb
    exact List.mem_map.mpr ⟨b, mem_latestBy_iff.mpr hlatest, hbkey⟩

end CatchmentLint
