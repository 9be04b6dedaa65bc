import CatchmentLint.Proofs.Model.Latest
import Mathlib.Data.Finset.Dedup
import Mathlib.Data.Finset.Card
import Std.Data.HashMap.Lemmas

/-!
# CatchmentLint.Proofs.Model.Tables

Tables in which the latest element of a key is looked up.  A table tabulates a log when it holds, for
each key, the value that was noted last:

* `Tabulates.note` — the table goes on doing so when a value is noted;
* `Tabulates.bind_getElem?` — a table of places leads to the latest element of a key;
* `Tabulates.filter_zipIdx`, `Tabulates.filter_noted` — and the elements that stand where it leads
  are the latest ones.
-/

namespace CatchmentLint

/-! ## Places -/

section Places

variable {α β : Type}

/-- The keys of a list with the places where they stand; an element may have no key. -/
def places (key : α → Option β) (l : List α) : List (Option β × Nat) := (l.map key).zipIdx

/-- The places of the elements that have a key. -/
def noted (key : α → Option β) (l : List α) : List Nat :=
  ((places key l).filter fun place => place.1.isSome).map Prod.snd

/-- One element more is placed at the end. -/
theorem places_append_singleton (key : α → Option β) (l : List α) (a : α) :
    places key (l ++ [a]) = places key l ++ [(key a, l.length)] := by
  simp [places, List.zipIdx_append]

theorem places_eq_map (key : α → Option β) (l : List α) :
    places key l = l.zipIdx.map fun place => (key place.1, place.2) := by
  rw [places, List.zipIdx_map]
  rfl

/-- The places have the keys of the elements that have one, in their order. -/
theorem filterMap_places (key : α → Option β) (l : List α) :
    (places key l).filterMap Prod.fst = l.filterMap key := by
  have hlist : l.zipIdx.map Prod.fst = l := List.zipIdx_map_fst 0 l
  rw [places_eq_map, List.filterMap_map]
  conv_rhs => rw [← hlist, List.filterMap_map]
  rfl

/-- One element more is noted if it has a key. -/
theorem noted_append_singleton (key : α → Option β) (l : List α) (a : α) :
    noted key (l ++ [a]) = noted key l ++ if (key a).isSome then [l.length] else [] := by
  rw [noted, noted, places_append_singleton, List.filter_append, List.map_append]
  cases key a <;> rfl

theorem noted_eq_map (key : α → Option β) (l : List α) :
    noted key l = (l.zipIdx.filter fun place => (key place.1).isSome).map Prod.snd := by
  rw [noted, places_eq_map, List.filter_map, List.map_map]
  rfl

theorem nodup_zipIdx (l : List α) : (l.zipIdx.map Prod.snd).Nodup := by
  rw [List.zipIdx_map_snd]
  exact List.nodup_range'

/-- From places back to the elements that stand there. -/
theorem filterMap_getElem? {l : List α} {placed : List (α × Nat)} (h : placed ⊆ l.zipIdx) :
    (placed.map Prod.snd).filterMap (l[·]?) = placed.map Prod.fst := by
  rw [List.filterMap_map, ← List.filterMap_eq_map]
  refine List.filterMap_congr fun place hplace => ?_
  exact List.mem_zipIdx_iff_getElem?.mp (h hplace)

/-- What stands at the places that are noted are the elements that have a key. -/
theorem filterMap_noted (key : α → Option β) (l : List α) :
    (noted key l).filterMap (l[·]?) = l.filter fun a => (key a).isSome := by
  have hlist : l.zipIdx.map Prod.fst = l := List.zipIdx_map_fst 0 l
  rw [noted_eq_map, filterMap_getElem? (List.filter_subset_self _)]
  conv_rhs => rw [← hlist, List.filter_map]
  rfl

/-- A change that keeps the keys keeps the places. -/
theorem places_modify {key : α → Option β} {f : α → α} (h : ∀ a, key (f a) = key a)
    (l : List α) (i : Nat) : places key (l.modify i f) = places key l := by
  have hmap : (l.modify i f).map key = l.map key := by
    refine List.ext_getElem? fun j => ?_
    rw [List.getElem?_map, List.getElem?_modify, List.getElem?_map]
    cases l[j]? <;> simp [apply_ite key, h]
  rw [places, hmap, places]

/-- A change that keeps the keys keeps the places that are noted. -/
theorem noted_modify {key : α → Option β} {f : α → α} (h : ∀ a, key (f a) = key a) (l : List α)
    (i : Nat) : noted key (l.modify i f) = noted key l := by
  rw [noted, places_modify h, noted]

theorem lt_length_of_mem_noted {key : α → Option β} {l : List α} {i : Nat} (h : i ∈ noted key l) :
    i < l.length := by
  rw [noted_eq_map] at h
  obtain ⟨place, hplace, rfl⟩ := List.mem_map.mp h
  have hmem : place ∈ l.zipIdx := (List.mem_filter.mp hplace).1
  exact (List.getElem?_eq_some_iff.mp (List.mem_zipIdx_iff_getElem?.mp hmem)).1

variable [BEq β] [LawfulBEq β]

/-- Where every element has a key, it can be asked for as it is. -/
theorem lastWith?_some (key : α → β) (k : β) (l : List α) :
    lastWith? (fun a => some (key a)) (some k) l = lastWith? key k l :=
  lastWith?_congr (by simp)

omit [LawfulBEq β] in
/-- The latest element of a key has the latest of its places. -/
theorem lastWith?_zipIdx (key : α → β) (k : β) (l : List α) :
    (lastWith? (fun place => key place.1) k l.zipIdx).map Prod.fst = lastWith? key k l := by
  rw [← lastWith?_map, List.zipIdx_map_fst]

/-- Elements that stand where the latest place of their key is are the latest ones. -/
theorem filter_latest (key : α → β) {placed : List (α × Nat)} (h : (placed.map Prod.snd).Nodup) :
    (placed.filter fun place =>
      (lastWith? (fun other => key other.1) (key place.1) placed).map Prod.snd ==
        some place.2).map Prod.fst = latestBy key (placed.map Prod.fst) := by
  induction placed with
  | nil => rfl
  | cons place placed ih =>
      obtain ⟨hfresh, hrest⟩ := List.nodup_cons.mp h
      -- The other elements have their latest places among themselves.
      have htail : placed.filter (fun other =>
            (lastWith? (fun other => key other.1) (key other.1) (place :: placed)).map Prod.snd ==
              some other.2) =
          placed.filter fun other =>
            (lastWith? (fun other => key other.1) (key other.1) placed).map Prod.snd ==
              some other.2 := by
        refine List.filter_congr fun other hother => ?_
        have hsome : (lastWith? (fun other => key other.1) (key other.1) placed).isSome = true :=
          isSome_lastWith?_iff.mpr ⟨other, hother, rfl⟩
        obtain ⟨found, hfound⟩ := Option.isSome_iff_exists.mp hsome
        rw [lastWith?_cons, hfound]
      rw [List.filter_cons, htail, List.map_cons, latestBy_cons, ← ih hrest, lastWith?_cons]
      cases hfound : lastWith? (fun other => key other.1) (key place.1) placed with
      | some other =>
          obtain ⟨hkey, hlatest⟩ := lastWith?_eq_some_iff.mp hfound
          have hne : other.2 ≠ place.2 := fun heq =>
            hfresh (List.mem_map.mpr ⟨other, hlatest.mem, heq⟩)
          have hlater : (placed.map Prod.fst).any (key · == key place.1) = true :=
            List.any_eq_true.mpr
              ⟨other.1, List.mem_map_of_mem hlatest.mem, beq_iff_eq.mpr hkey⟩
          rw [if_pos hlater]
          simp [hne]
      | none =>
          have hnone := lastWith?_eq_none_iff.mp hfound
          have hlater : (placed.map Prod.fst).any (key · == key place.1) = false := by
            simpa using hnone
          rw [hlater]
          simp

end Places

/-! ## Tables -/

section Tables

variable {α β γ : Type} [BEq β] [LawfulBEq β] [DecidableEq β] [Hashable β]

/-- The table holds the latest value that was noted for each key.  Values without a key count for
nothing. -/
structure Tabulates (t : Std.HashMap β γ) (log : List (Option β × γ)) : Prop where
  find : ∀ k, t[k]? = (lastWith? Prod.fst (some k) log).map Prod.snd
  size : t.size = (log.filterMap Prod.fst).toFinset.card

namespace Tabulates

variable {t : Std.HashMap β γ} {log : List (Option β × γ)} {k : β} {v : γ}

/-- An empty table tabulates an empty log. -/
theorem empty : Tabulates (∅ : Std.HashMap β γ) [] := by
  constructor
  · intro k
    simp [lastWith?]
  · simp

/-- A key is in the table just if it has been noted. -/
theorem mem_iff (h : Tabulates t log) : k ∈ t ↔ k ∈ log.filterMap Prod.fst := by
  rw [Std.HashMap.mem_iff_isSome_getElem?, h.find, Option.isSome_map, isSome_lastWith?_iff]
  simp

theorem note (h : Tabulates t log) (k : β) (v : γ) :
    Tabulates (t.insert k v) (log ++ [(some k, v)]) := by
  constructor
  · intro k'
    rw [Std.HashMap.getElem?_insert, lastWith?_append_singleton]
    by_cases hk : k = k' <;> simp [hk, h.find]
  · have hkeys : ((log ++ [(some k, v)]).filterMap Prod.fst).toFinset =
        insert k (log.filterMap Prod.fst).toFinset := by
      ext k'
      simp
    rw [Std.HashMap.size_insert, hkeys, h.size]
    by_cases hmem : k ∈ log.filterMap Prod.fst
    · rw [if_pos (h.mem_iff.mpr hmem), Finset.insert_eq_of_mem (List.mem_toFinset.mpr hmem)]
    · rw [if_neg (mt h.mem_iff.mp hmem),
        Finset.card_insert_of_notMem (mt List.mem_toFinset.mp hmem)]

omit [LawfulBEq β] in
/-- Noting a value without a key leaves the table. -/
theorem note_none (h : Tabulates t log) (v : γ) : Tabulates t (log ++ [(none, v)]) := by
  constructor
  · intro k
    rw [h.find, lastWith?_append_singleton]
    simp
  · rw [h.size]
    simp

end Tabulates

/-! ### Tables of places -/

namespace Tabulates

variable {t : Std.HashMap β Nat} {l : List α}

section

variable {key : α → Option β}

omit [LawfulBEq β] in
/-- A table of places leads to the place of the latest element. -/
theorem getElem?_eq (h : Tabulates t (places key l)) (k : β) :
    t[k]? = (lastWith? (fun place => key place.1) (some k) l.zipIdx).map Prod.snd := by
  rw [h.find, places_eq_map, lastWith?_map, Option.map_map]
  rfl

/-- A table of places leads to the latest element of a key. -/
theorem bind_getElem? (h : Tabulates t (places key l)) (k : β) :
    t[k]?.bind (l[·]?) = lastWith? key (some k) l := by
  rw [h.getElem?_eq, ← lastWith?_zipIdx key]
  cases hplace : lastWith? (fun place : α × Nat => key place.1) (some k) l.zipIdx with
  | none => rfl
  | some place =>
      have hmem := (lastWith?_eq_some_iff.mp hplace).2.mem
      exact List.mem_zipIdx_iff_getElem?.mp hmem

/-- It leads to no other place. -/
theorem lt_length (h : Tabulates t (places key l)) {k : β} {i : Nat} (hi : t[k]? = some i) :
    i < l.length := by
  rw [h.getElem?_eq] at hi
  obtain ⟨place, hplace, rfl⟩ := Option.map_eq_some_iff.mp hi
  have hmem : place ∈ l.zipIdx := (lastWith?_eq_some_iff.mp hplace).2.mem
  exact (List.getElem?_eq_some_iff.mp (List.mem_zipIdx_iff_getElem?.mp hmem)).1

/-- A table of places has a key just if an element has it. -/
theorem contains_eq (h : Tabulates t (places key l)) (k : β) :
    t.contains k = (lastWith? key (some k) l).isSome := by
  rw [Std.HashMap.contains_eq_isSome_getElem?, h.getElem?_eq, ← lastWith?_zipIdx key,
    Option.isSome_map, Option.isSome_map]

end

/-- Where every element has a key, a table of places tells which ones are the latest. -/
theorem filter_zipIdx {key : α → β} (h : Tabulates t (places (fun a => some (key a)) l)) :
    (l.zipIdx.filter fun place => t[key place.1]? == some place.2).map Prod.fst =
      latestBy key l := by
  have hlatest := filter_latest key (nodup_zipIdx l)
  rw [List.zipIdx_map_fst] at hlatest
  rw [← hlatest]
  simp only [h.getElem?_eq, lastWith?_some (fun place : α × Nat => key place.1)]

/-- Where only some have one, it tells so of those. -/
theorem filter_noted {key : α → Option β} (h : Tabulates t (places key l)) :
    ((noted key l).filter fun place => (l[place]?.bind key).bind (t[·]?) == some place).filterMap
        (l[·]?) =
      latestBy key (l.filter fun a => (key a).isSome) := by
  let placed := l.zipIdx.filter fun place => (key place.1).isSome
  have hplaced : placed ⊆ l.zipIdx := List.filter_subset_self _
  have hfst : placed.map Prod.fst = l.filter fun a => (key a).isSome := by
    rw [← filterMap_noted, noted_eq_map, filterMap_getElem? hplaced]
  -- The table leads to the latest place among those of the elements that have a key.
  have hlatest : ∀ place ∈ placed, (l[place.2]?.bind key).bind (t[·]?) =
      (lastWith? (fun other => key other.1) (key place.1) placed).map Prod.snd := by
    intro place hplace
    obtain ⟨k, hk⟩ := Option.isSome_iff_exists.mp (List.mem_filter.mp hplace).2
    have hsolid : ∀ other ∈ l.zipIdx, key other.1 = some k → (key other.1).isSome = true :=
      fun other _ hkey => by rw [hkey]; rfl
    rw [List.mem_zipIdx_iff_getElem?.mp (hplaced hplace), Option.bind_some, hk, Option.bind_some,
      h.getElem?_eq, ← lastWith?_filter hsolid]
  have hnodup : (placed.map Prod.snd).Nodup :=
    (nodup_zipIdx l).sublist (List.filter_sublist.map Prod.snd)
  rw [noted_eq_map, List.filter_map, filterMap_getElem?, ← hfst, ← filter_latest key hnodup]
  · refine congrArg _ (List.filter_congr fun place hplace => ?_)
    rw [Function.comp_apply, hlatest place hplace]
  · exact List.Subset.trans (List.filter_subset_self _) hplaced

end Tabulates

end Tables

end CatchmentLint
