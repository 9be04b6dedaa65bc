import CatchmentLint.Lint.DocumentCache
import Mathlib.Data.Finset.Card
import Mathlib.Data.List.DropRight
import Mathlib.Data.List.Nodup

/-!
# CatchmentLint.Proofs.Lint.Retention

How long a cache keeps the issues of a document.

* `latest` — what a cache without limits would hold after a sequence of requests: the latest
  insertion of every document, the oldest first;
* `Tracks` — at every later moment a cache shows the last of these, as many as it has room for,
  less what is too old by then; `Tracks.serve` says that each request keeps it so;
* `get_after_eq_some_iff` — so a lookup succeeds just where the insertion is recent enough, and not
  enough other documents have come after it.
-/

namespace CatchmentLint.Lint

/-! ## The last elements of a list -/

section Last

variable {α : Type} {p : α → Bool} {s t : List α}

/-- One element more in front is taken if there are too few. -/
theorem rtake_cons (a : α) (s : List α) (n : Nat) :
    (a :: s).rtake n = if s.length < n then a :: s else s.rtake n := by
  unfold List.rtake
  split
  · next h => rw [List.length_cons, Nat.sub_eq_zero_of_le h, List.drop_zero]
  · next h =>
      have hlength : (a :: s).length - n = s.length - n + 1 := by rw [List.length_cons]; omega
      rw [hlength, List.drop_succ_cons]

theorem rtake_of_length_le {n : Nat} (h : s.length ≤ n) : s.rtake n = s := by
  rw [List.rtake, Nat.sub_eq_zero_of_le h, List.drop_zero]

theorem mem_of_mem_rtake {a : α} {n : Nat} (h : a ∈ s.rtake n) : a ∈ s := List.mem_of_mem_drop h

/-- Filtering away elements from the front, it does not matter whether the last are taken before or
after. -/
theorem filter_rtake {n : Nat} (h : s.Pairwise fun a b => p a = true → p b = true) :
    (s.rtake n).filter p = (s.filter p).rtake n := by
  induction s with
  | nil => simp
  | cons a s ih =>
      obtain ⟨hhead, htail⟩ := List.pairwise_cons.mp h
      cases ha : p a with
      | true =>
          have hall : ∀ b ∈ a :: s, p b = true := by simpa [ha] using fun b hb => hhead b hb ha
          rw [List.filter_eq_self.mpr hall,
            List.filter_eq_self.mpr fun b hb => hall b (mem_of_mem_rtake hb)]
      | false =>
          have hne : ¬p a = true := by simp [ha]
          rw [List.filter_cons_of_neg hne, ← ih htail, rtake_cons]
          split
          · next hlength =>
              rw [List.filter_cons_of_neg hne, rtake_of_length_le (Nat.le_of_lt hlength)]
          · rfl

/-- An element is among the last `n` if there are fewer than `n` behind it. -/
theorem mem_rtake_append_cons_iff {a : α} {n : Nat} (h : (s ++ a :: t).Nodup) :
    a ∈ (s ++ a :: t).rtake n ↔ t.length < n := by
  induction s with
  | nil =>
      rw [List.nil_append, rtake_cons]
      split
      · next hlength => exact iff_of_true List.mem_cons_self hlength
      · next hlength =>
          refine iff_of_false (fun hmem => ?_) hlength
          exact (List.nodup_cons.mp h).1 (mem_of_mem_rtake hmem)
  | cons b s ih =>
      rw [List.cons_append] at h
      have htail := ih (List.nodup_cons.mp h).2
      rw [List.cons_append, rtake_cons]
      split
      · next hlength =>
          refine iff_of_true (by simp) ?_
          rw [List.length_append, List.length_cons] at hlength
          omega
      · exact htail

end Last

/-! ## Requests -/

/-- Documents are the same if their texts are, and their directories are the same path or both not
known. -/
theorem DocumentKey.of_eq_of_iff {content other : Text} {base? otherBase? : Option Text} :
    DocumentKey.of content base? = DocumentKey.of other otherBase? ↔
      content = other ∧ base?.map Path.components = otherBase?.map Path.components := by
  simp [DocumentKey.of]

namespace DocumentCache

/-- What may be asked of a cache of documents. -/
inductive Request where
  | get (content : Text) (base? : Option Text)
  | insert (content : Text) (base? : Option Text) (issues : List Issue)
  | clear
  deriving DecidableEq, Repr

/-- A request and the moment at which it is made. -/
structure Event where
  moment : Moment
  request : Request
  deriving DecidableEq, Repr

namespace Event

/-- The entry that a request makes. -/
def stored? : Event → Option CachedDocument
  | ⟨moment, .insert content base? issues⟩ => some ⟨.of content base?, issues, moment⟩
  | _ => none

/-- The document that a request inserts. -/
def inserted? (e : Event) : Option DocumentKey := e.stored?.map CachedDocument.key

theorem storedAt_of_stored? {e : Event} {d : CachedDocument} (h : e.stored? = some d) :
    d.storedAt = e.moment := by
  unfold stored? at h
  split at h
  · rw [← Option.some.inj h]
  · contradiction

end Event

/-- The cache after a request. -/
def serve (c : DocumentCache) (e : Event) : DocumentCache :=
  match e.request with
  | .get content base? => (c.get e.moment (.of content base?)).2
  | .insert content base? issues => c.insert e.moment (.of content base?) issues
  | .clear => c.clear

/-- The cache after a sequence of requests. -/
def after (history : List Event) (c : DocumentCache) : DocumentCache := history.foldl serve c

/-! ## Without limits -/

/-- What an unlimited cache holds after a request. -/
def remember (held : List CachedDocument) (e : Event) : List CachedDocument :=
  match e.request with
  | .get .. => held
  | .insert content base? issues =>
    held.filter (·.key ≠ .of content base?) ++ [⟨.of content base?, issues, e.moment⟩]
  | .clear => []

/-- The latest insertion of every document since the last clearing, the oldest first. -/
def latest (history : List Event) : List CachedDocument := history.foldl remember []

/-- One request more is remembered last. -/
theorem latest_concat (history : List Event) (e : Event) :
    latest (history ++ [e]) = remember (latest history) e := by
  rw [latest, List.foldl_append]
  rfl

/-- What is stored goes behind the others, in place of what there was under its key. -/
theorem remember_of_stored {held : List CachedDocument} {e : Event} {d : CachedDocument}
    (h : e.stored? = some d) : remember held e = held.filter (·.key ≠ d.key) ++ [d] := by
  unfold Event.stored? at h
  split at h
  · rw [← Option.some.inj h]
    rfl
  · contradiction

/-- A request that stores nothing changes nothing, unless it clears. -/
theorem remember_of_none {held : List CachedDocument} {e : Event} (h : e.stored? = none)
    (hclear : e.request ≠ .clear) : remember held e = held := by
  obtain ⟨moment, request⟩ := e
  cases request with
  | get content base? => rfl
  | insert content base? issues => contradiction
  | clear => contradiction

/-- The request leaves the entry of this document as it is. -/
def Spares (key : DocumentKey) (e : Event) : Prop := e.request ≠ .clear ∧ e.inserted? ≠ some key

/-- What is held after a request was held before it and spared, or has been made by it. -/
theorem spared_of_mem_remember {held : List CachedDocument} {e : Event} {d : CachedDocument}
    (h : d ∈ remember held e) : d ∈ held ∧ Spares d.key e ∨ e.stored? = some d := by
  obtain ⟨moment, request⟩ := e
  cases request with
  | get content base? => exact .inl ⟨h, nofun, nofun⟩
  | clear => cases h
  | insert content base? issues =>
      refine (List.mem_append.mp h).imp (fun hold => ?_) fun hnew => ?_
      · obtain ⟨hmem, hkey⟩ := List.mem_filter.mp hold
        have hne : d.key ≠ .of content base? := by simpa using hkey
        exact ⟨hmem, nofun, fun heq => hne (Option.some.inj heq).symm⟩
      · rw [List.mem_singleton.mp hnew]
        rfl

/-- What is held has been stored, and every request since has spared it. -/
theorem exists_of_mem_latest {history : List Event} {d : CachedDocument} (h : d ∈ latest history) :
    ∃ before e after, history = before ++ e :: after ∧ e.stored? = some d ∧
      ∀ x ∈ after, Spares d.key x := by
  induction history using List.reverseRecOn with
  | nil => cases h
  | append_singleton history x ih =>
      rw [latest_concat] at h
      cases spared_of_mem_remember h with
      | inl hspared =>
          obtain ⟨before, e, after, rfl, hstored, hafter⟩ := ih hspared.1
          refine ⟨before, e, after ++ [x], by simp, hstored, fun y hy => ?_⟩
          cases List.mem_append.mp hy with
          | inl hmem => exact hafter y hmem
          | inr hlast => exact List.mem_singleton.mp hlast ▸ hspared.2
      | inr hstored => exact ⟨history, x, [], rfl, hstored, by simp⟩

/-- What was inserted and spared since is held, and behind it stands one entry for each document
that has been inserted since. -/
theorem latest_of_spared (before : List Event) {e : Event} {after : List Event} {d : CachedDocument}
    (hstored : e.stored? = some d) (hafter : ∀ x ∈ after, Spares d.key x) :
    ∃ older newer, latest (before ++ e :: after) = older ++ d :: newer ∧
      ∀ key, key ∈ newer.map CachedDocument.key ↔ key ∈ after.filterMap Event.inserted? := by
  -- The last request is put aside, as it is the last one that is remembered.
  induction after using List.reverseRecOn with
  | nil =>
      refine ⟨(latest before).filter (·.key ≠ d.key), [], ?_, by simp⟩
      rw [latest_concat, remember_of_stored hstored]
  | append_singleton after x ih =>
      obtain ⟨older, newer, hlatest, hkeys⟩ := ih fun y hy => hafter y (by simp [hy])
      have hx : Spares d.key x := hafter x (by simp)
      rw [← List.cons_append, ← List.append_assoc, latest_concat, hlatest]
      cases hnew : x.stored? with
      | none =>
          refine ⟨older, newer, remember_of_none hnew hx.1, fun key => ?_⟩
          simp [hkeys, Event.inserted?, hnew]
      | some new =>
          have hne : d.key ≠ new.key := by
            intro heq
            exact hx.2 (by rw [Event.inserted?, hnew, heq]; rfl)
          refine ⟨older.filter (·.key ≠ new.key), newer.filter (·.key ≠ new.key) ++ [new], ?_, ?_⟩
          · rw [remember_of_stored hnew, List.filter_append,
              List.filter_cons_of_pos (by simpa using hne)]
            simp
          · intro key
            have hmem : key ∈ (newer.filter (·.key ≠ new.key)).map CachedDocument.key ↔
                key ∈ newer.map CachedDocument.key ∧ key ≠ new.key := by
              simp only [List.mem_map, List.mem_filter, decide_eq_true_eq]
              constructor
              · rintro ⟨a, ⟨ha, hane⟩, rfl⟩
                exact ⟨⟨a, ha, rfl⟩, hane⟩
              · rintro ⟨⟨a, ha, rfl⟩, hane⟩
                exact ⟨a, ⟨ha, hane⟩, rfl⟩
            have hinserted : x.inserted? = some new.key := by rw [Event.inserted?, hnew]; rfl
            rw [List.map_append, List.mem_append, hmem, hkeys, List.filterMap_append,
              List.mem_append, List.map_singleton, List.mem_singleton, List.filterMap_cons_some hinserted,
              List.filterMap_nil, List.mem_singleton]
            by_cases hkey : key = new.key <;> simp [hkey]

/-- Without its entry for a document, and with a new one behind the rest, a list has still no two
entries for one document. -/
theorem nodup_filter_concat {held : List CachedDocument} (d : CachedDocument)
    (h : (held.map CachedDocument.key).Nodup) :
    ((held.filter (·.key ≠ d.key) ++ [d]).map CachedDocument.key).Nodup := by
  rw [List.map_append, List.map_singleton, ← List.concat_eq_append, List.nodup_concat]
  refine ⟨fun hmem => ?_, h.sublist (List.filter_sublist.map _)⟩
  obtain ⟨a, ha, hkey⟩ := List.mem_map.mp hmem
  simpa [hkey] using (List.mem_filter.mp ha).2

/-- No key is held twice. -/
theorem latest_nodup (history : List Event) :
    ((latest history).map CachedDocument.key).Nodup := by
  induction history using List.reverseRecOn with
  | nil => exact List.nodup_nil
  | append_singleton history e ih =>
      obtain ⟨moment, request⟩ := e
      rw [latest_concat]
      cases request with
      | get content base? => exact ih
      | insert content base? issues => exact nodup_filter_concat ⟨_, issues, moment⟩ ih
      | clear => exact List.nodup_nil

/-- Where the clock never stands still, the latest insertions are in the order of their moments. -/
theorem latest_pairwise {history : List Event} (h : (history.map Event.moment).Pairwise (· < ·)) :
    (latest history).Pairwise fun a b => a.storedAt < b.storedAt := by
  induction history using List.reverseRecOn with
  | nil => exact List.Pairwise.nil
  | append_singleton history e ih =>
      rw [List.map_append, List.pairwise_append] at h
      obtain ⟨hhistory, -, hlast⟩ := h
      have hbefore : ∀ d ∈ latest history, d.storedAt < e.moment := by
        intro d hd
        obtain ⟨before, x, after, rfl, hstored, -⟩ := exists_of_mem_latest hd
        rw [Event.storedAt_of_stored? hstored]
        exact hlast _ (by simp) _ (by simp)
      rw [latest_concat]
      obtain ⟨moment, request⟩ := e
      cases request with
      | get content base? => exact ih hhistory
      | clear => exact List.Pairwise.nil
      | insert content base? issues =>
          refine List.pairwise_append.mpr ⟨(ih hhistory).filter _, by simp, fun a ha b hb => ?_⟩
          rw [List.mem_singleton.mp hb]
          exact hbefore a (List.mem_filter.mp ha).1

/-! ## What each request does to the entries -/

variable {c : DocumentCache} {now later : Moment} {key : DocumentKey}

/-- An entry that is good at some moment was so before. -/
theorem isGood_of_le {d : CachedDocument} (hle : now ≤ later) (h : c.isGood later d = true) :
    c.isGood now d = true := by
  simp only [isGood, decide_eq_true_eq] at h ⊢
  exact Nat.lt_of_le_of_lt (Nat.sub_le_sub_right hle _) h

/-- A lookup removes what is not good any more. -/
theorem filter_entries_get (hnodup : (c.entries.map CachedDocument.key).Nodup) (hle : now ≤ later) :
    (c.get now key).2.entries.filter (c.isGood later) = c.entries.filter (c.isGood later) := by
  unfold get
  split
  · next d hd =>
      split
      · rfl
      · next hold =>
          have hkey : d.key = key := by simpa using List.find?_some hd
          rw [List.filter_filter]
          refine List.filter_congr fun a ha => ?_
          by_cases hsame : a.key = key
          · have had : a = d :=
              List.inj_on_of_nodup_map hnodup ha (List.mem_of_find?_eq_some hd)
                (hsame.trans hkey.symm)
            have hgone : ¬c.isGood later d = true := fun h => hold (isGood_of_le hle h)
            simp [had, hgone]
          · simp [hsame]
  · rfl

theorem filter_key_eq_self {held : List CachedDocument}
    (h : key ∉ held.map CachedDocument.key) : held.filter (·.key ≠ key) = held := by
  refine List.filter_eq_self.mpr fun d hd => decide_eq_true fun heq => h ?_
  exact heq ▸ List.mem_map_of_mem hd

theorem length_le_filter (key : DocumentKey) {held : List CachedDocument}
    (hnodup : (held.map CachedDocument.key).Nodup) :
    held.length ≤ (held.filter (·.key ≠ key)).length + 1 := by
  induction held with
  | nil => exact Nat.zero_le _
  | cons d held ih =>
      obtain ⟨hd, htail⟩ := List.nodup_cons.mp hnodup
      by_cases hkey : d.key = key
      · rw [List.filter_cons_of_neg (by simpa using hkey), filter_key_eq_self (hkey ▸ hd)]
        exact Nat.le_refl _
      · rw [List.filter_cons_of_pos (by simpa using hkey)]
        exact Nat.succ_le_succ (ih htail)

/-- Where no more entries are good than a full cache holds, all stay but the one that the new one
replaces, or else the first one if there is no room for both. -/
theorem filter_makeRoom {good : List CachedDocument} {room : Nat} (h : good.length ≤ room + 1) :
    (if good.any (·.key = key) then good
      else if room + 1 ≤ good.length then good.drop 1 else good).filter (·.key ≠ key) =
        (good.filter (·.key ≠ key)).rtake room := by
  split
  · next hany =>
      obtain ⟨d, hd, hkey⟩ := List.any_eq_true.mp hany
      have hless : (good.filter (·.key ≠ key)).length < good.length :=
        List.length_filter_lt_length_iff_exists.mpr ⟨d, hd, by simpa using hkey⟩
      rw [rtake_of_length_le (by omega)]
  · next hnone =>
      have hkey : key ∉ good.map CachedDocument.key := by simpa using hnone
      have hkept := filter_key_eq_self hkey
      split
      · next hfull =>
          have hlength : good.length - room = 1 := by omega
          have hdrop : key ∉ (good.drop 1).map CachedDocument.key := fun hmem =>
            hkey (List.map_subset _ (List.drop_subset 1 good) hmem)
          rw [hkept, List.rtake, hlength, filter_key_eq_self hdrop]
      · next hroom => rw [hkept, rtake_of_length_le (by omega)]

/-- The entries that stay are the last of those that are good: a full cache makes room for a new
document, and the old entry of one that it has makes room by itself. -/
theorem filter_kept (key : DocumentKey) {good : List CachedDocument} {room : Nat}
    (hcapacity : c.capacity = room + 1)
    (hnodup : (good.map CachedDocument.key).Nodup)
    (hgood : c.entries.filter (c.isGood now) = good.rtake (room + 1)) :
    (c.kept now key).filter (·.key ≠ key) = (good.filter (·.key ≠ key)).rtake room := by
  unfold kept
  simp only [hgood, hcapacity]
  clear hgood
  induction good with
  | nil => simp
  | cons a good ih =>
      rw [rtake_cons]
      split
      · next hlength => exact filter_makeRoom (Nat.succ_le_of_lt hlength)
      · next hlength =>
          obtain ⟨-, htail⟩ := List.nodup_cons.mp hnodup
          rw [ih htail]
          by_cases hkey : a.key = key
          · rw [List.filter_cons_of_neg (by simpa using hkey)]
          · have hroom := length_le_filter key htail
            rw [List.filter_cons_of_pos (by simpa using hkey), rtake_cons, if_neg (by omega)]

/-! ## What a cache shows -/

/-- At every moment from `now` on, the good entries of the cache are the last ones, as many as it
has room for, of the good ones among those that are held without limits. -/
structure Tracks (held : List CachedDocument) (now : Moment) (c : DocumentCache) : Prop where
  nodup : (c.entries.map CachedDocument.key).Nodup
  shows : ∀ later, now ≤ later →
    c.entries.filter (c.isGood later) = (held.filter (c.isGood later)).rtake c.capacity

/-- A fresh cache tracks nothing held. -/
theorem tracks_fresh (capacity lifetime : Nat) : Tracks [] 0 (fresh capacity lifetime) where
  nodup := List.nodup_nil
  shows _ _ := by simp [fresh]

section Tracks

variable {held : List CachedDocument}

theorem get_limits : (c.get now key).2.capacity = c.capacity ∧
    (c.get now key).2.lifetime = c.lifetime := by
  unfold get
  split
  · split <;> exact ⟨rfl, rfl⟩
  · exact ⟨rfl, rfl⟩

theorem insert_limits {issues : List Issue} : (c.insert now key issues).capacity = c.capacity ∧
    (c.insert now key issues).lifetime = c.lifetime := by
  unfold insert
  split <;> exact ⟨rfl, rfl⟩

theorem isGood_congr {c' : DocumentCache} (h : c'.lifetime = c.lifetime) :
    c'.isGood later = c.isGood later := by
  funext d
  simp only [isGood, h]

/-- As time goes on, a cache tracks what it did. -/
theorem Tracks.mono (h : Tracks held now c) (hle : now ≤ later) : Tracks held later c where
  nodup := h.nodup
  shows latest hlatest := h.shows latest (Nat.le_trans hle hlatest)

/-- A lookup takes away only what is too old. -/
theorem Tracks.get (h : Tracks held now c) : Tracks held now (c.get now key).2 where
  nodup := by
    refine h.nodup.sublist (List.Sublist.map _ ?_)
    unfold DocumentCache.get
    split
    · split
      · exact List.Sublist.refl _
      · exact List.filter_sublist
    · exact List.Sublist.refl _
  shows later hlater := by
    rw [isGood_congr get_limits.2, get_limits.1, filter_entries_get h.nodup hlater]
    exact h.shows later hlater

/-- A cache that has been cleared tracks nothing held. -/
theorem tracks_clear : Tracks [] now c.clear where
  nodup := List.nodup_nil
  shows _ _ := by simp [DocumentCache.clear]

/-- A later entry is good as long as an earlier one is. -/
theorem isGood_of_pairwise (h : held.Pairwise fun a b => a.storedAt < b.storedAt) :
    held.Pairwise fun a b => c.isGood now a = true → c.isGood now b = true := by
  refine h.imp fun {a b} hlt hgood => ?_
  simp only [isGood, decide_eq_true_eq] at hgood ⊢
  exact Nat.lt_of_le_of_lt (Nat.sub_le_sub_left (Nat.le_of_lt hlt) _) hgood

/-- An insertion puts what is new last, and drives out the oldest if there is no room. -/
theorem Tracks.insert {d : CachedDocument} (h : Tracks held d.storedAt c)
    (hnodup : (held.map CachedDocument.key).Nodup)
    (hsorted : (held.filter (·.key ≠ d.key) ++ [d]).Pairwise fun a b => a.storedAt < b.storedAt) :
    Tracks (held.filter (·.key ≠ d.key) ++ [d]) d.storedAt
      (c.insert d.storedAt d.key d.issues) := by
  cases hcapacity : c.capacity with
  | zero =>
      -- A cache without room never shows anything.
      have hsame : c.insert d.storedAt d.key d.issues = c := by
        rw [DocumentCache.insert, if_pos hcapacity]
      rw [hsame]
      refine ⟨h.nodup, fun later hlater => ?_⟩
      rw [h.shows later hlater, hcapacity, List.rtake_zero, List.rtake_zero]
  | succ room =>
      have hgood : ((held.filter (c.isGood d.storedAt)).map CachedDocument.key).Nodup :=
        hnodup.sublist (List.filter_sublist.map _)
      have hkept := filter_kept d.key hcapacity hgood
        (hcapacity ▸ h.shows d.storedAt (Nat.le_refl _))
      have hentries : (c.insert d.storedAt d.key d.issues).entries =
          ((held.filter (c.isGood d.storedAt)).filter (·.key ≠ d.key) ++ [d]).rtake (room + 1) := by
        rw [List.rtake_concat_succ, ← hkept, DocumentCache.insert, if_neg (by omega)]
      have hsublist : ((held.filter (c.isGood d.storedAt)).filter (·.key ≠ d.key) ++ [d]).Sublist
          (held.filter (·.key ≠ d.key) ++ [d]) :=
        (List.filter_sublist.filter _).append (List.Sublist.refl _)
      refine ⟨?_, fun later hlater => ?_⟩
      · rw [hentries]
        exact (nodup_filter_concat d hgood).sublist ((List.drop_sublist _ _).map _)
      · rw [isGood_congr insert_limits.2, insert_limits.1, hentries, hcapacity,
          filter_rtake (isGood_of_pairwise (hsorted.sublist hsublist)), List.filter_append,
          List.filter_append, List.filter_filter, List.filter_filter, List.filter_filter]
        congr 2
        refine List.filter_congr fun a _ => ?_
        by_cases hlaterGood : c.isGood later a = true
        · simp [hlaterGood, isGood_of_le hlater hlaterGood]
        · simp [hlaterGood]

end Tracks

/-! ## Sequences of requests -/

/-- One request more is served last. -/
theorem after_concat (history : List Event) (e : Event) (c : DocumentCache) :
    c.after (history ++ [e]) = (c.after history).serve e := by
  rw [after, List.foldl_append]
  rfl

variable {capacity lifetime : Nat} {history : List Event}

/-- Every request keeps a cache in step with one that has no limits. -/
theorem tracks_after (capacity lifetime : Nat) (hclock : (history.map Event.moment ++ [now]).Pairwise (· < ·)) :
    Tracks (latest history) now ((fresh capacity lifetime).after history) := by
  induction history using List.reverseRecOn generalizing now with
  | nil => exact (tracks_fresh capacity lifetime).mono (Nat.zero_le _)
  | append_singleton history e ih =>
      obtain ⟨hmoments, -, hnow⟩ := List.pairwise_append.mp hclock
      have hbefore := ih (by simpa using hmoments)
      have hle : e.moment ≤ now := Nat.le_of_lt (hnow e.moment (by simp) now (by simp))
      have hsorted := latest_pairwise hmoments
      rw [after_concat]
      refine Tracks.mono ?_ hle
      rw [latest_concat] at hsorted ⊢
      obtain ⟨moment, request⟩ := e
      cases request with
      | get content base? => exact hbefore.get
      | clear => exact tracks_clear
      | insert content base? issues =>
          exact hbefore.insert (d := ⟨.of content base?, issues, moment⟩) (latest_nodup history)
            hsorted

/-- No request changes the limits of a cache. -/
theorem limits_after (history : List Event) (c : DocumentCache) :
    (c.after history).capacity = c.capacity ∧ (c.after history).lifetime = c.lifetime := by
  induction history using List.reverseRecOn with
  | nil => exact ⟨rfl, rfl⟩
  | append_singleton history e ih =>
      obtain ⟨moment, request⟩ := e
      rw [after_concat]
      cases request with
      | get content base? => exact ⟨get_limits.1.trans ih.1, get_limits.2.trans ih.2⟩
      | insert content base? issues =>
          exact ⟨insert_limits.1.trans ih.1, insert_limits.2.trans ih.2⟩
      | clear => exact ih

/-- A lookup succeeds by an entry that is good. -/
theorem get_eq_some_iff_mem {issues : List Issue} (h : (c.entries.map CachedDocument.key).Nodup) :
    (c.get now key).1 = some issues ↔
      ∃ d ∈ c.entries.filter (c.isGood now), d.key = key ∧ d.issues = issues := by
  unfold get
  cases hfind : c.entries.find? (·.key = key) with
  | none =>
      refine iff_of_false nofun ?_
      rintro ⟨d, hd, hkey, -⟩
      have hnone := List.find?_eq_none.mp hfind d (List.mem_filter.mp hd).1
      exact hnone (decide_eq_true hkey)
  | some found =>
      have hkey : found.key = key := by simpa using List.find?_some hfind
      have hunique : ∀ d ∈ c.entries, d.key = key → d = found := fun d hd hdkey =>
        List.inj_on_of_nodup_map h hd (List.mem_of_find?_eq_some hfind) (hdkey.trans hkey.symm)
      by_cases hgood : c.isGood now found = true
      · simp only [hgood, if_true, Option.some.injEq]
        constructor
        · intro hissues
          have hmem := List.mem_filter.mpr ⟨List.mem_of_find?_eq_some hfind, hgood⟩
          exact ⟨found, hmem, hkey, hissues⟩
        · rintro ⟨d, hd, hdkey, rfl⟩
          rw [hunique d (List.mem_filter.mp hd).1 hdkey]
      · simp only [hgood]
        refine iff_of_false nofun ?_
        rintro ⟨d, hd, hdkey, -⟩
        obtain ⟨hmem, hdgood⟩ := List.mem_filter.mp hd
        exact hgood (hunique d hmem hdkey ▸ hdgood)

/-- An insertion that was spared is among the latest ones just where few enough other documents
have been inserted since. -/
theorem mem_rtake_latest_iff {before after : List Event} {e : Event} {d : CachedDocument}
    (hstored : e.stored? = some d) (hafter : ∀ x ∈ after, Spares d.key x) :
    d ∈ (latest (before ++ e :: after)).rtake capacity ↔
      (after.filterMap Event.inserted?).toFinset.card < capacity := by
  obtain ⟨older, newer, hlatest, hkeys⟩ := latest_of_spared before hstored hafter
  have hnodup := latest_nodup (before ++ e :: after)
  rw [hlatest] at hnodup ⊢
  have hnewer : (newer.map CachedDocument.key).Nodup := by
    refine hnodup.sublist (List.Sublist.map _ ?_)
    exact (List.sublist_cons_self d newer).trans (List.sublist_append_right older _)
  have hsame : (after.filterMap Event.inserted?).toFinset =
      (newer.map CachedDocument.key).toFinset := by
    ext key
    simp only [List.mem_toFinset, hkeys]
  rw [mem_rtake_append_cons_iff (hnodup.of_map _), hsame, List.toFinset_card_of_nodup hnewer,
    List.length_map]

/-- A lookup gives just the issues that were inserted for the document last and have not been
cleared since, provided that this is less than the lifetime ago and that fewer other documents have
been inserted since than the cache has room for. -/
theorem get_after_eq_some_iff (capacity lifetime : Nat) (history : List Event) (now : Moment)
    (hclock : (history.map Event.moment ++ [now]).Pairwise (· < ·)) (content : Text)
    (base? : Option Text) (issues : List Issue) :
    (((fresh capacity lifetime).after history).get now (.of content base?)).1 = some issues ↔
      ∃ before moment otherBase? after,
        history = before ++ ⟨moment, .insert content otherBase? issues⟩ :: after ∧
        otherBase?.map Path.components = base?.map Path.components ∧
        (∀ e ∈ after, e.request ≠ .clear ∧ e.inserted? ≠ some (.of content base?)) ∧
        now - moment < lifetime ∧ (after.filterMap Event.inserted?).toFinset.card < capacity := by
  have htracks := tracks_after capacity lifetime hclock
  obtain ⟨hcapacity, hlifetime⟩ := limits_after history (fresh capacity lifetime)
  have hsorted := latest_pairwise (List.pairwise_append.mp hclock).1
  rw [get_eq_some_iff_mem htracks.nodup, htracks.shows now (Nat.le_refl _),
    ← filter_rtake (isGood_of_pairwise hsorted), hcapacity, isGood_congr hlifetime]
  -- What is shown are the latest of all entries that were ever made, as many as there is room for.
  constructor
  · rintro ⟨d, hd, hkey, rfl⟩
    obtain ⟨hmem, hgood⟩ := List.mem_filter.mp hd
    obtain ⟨before, e, after, rfl, hstored, hafter⟩ :=
      exists_of_mem_latest (mem_of_mem_rtake hmem)
    have hcard := (mem_rtake_latest_iff hstored hafter).mp hmem
    obtain ⟨moment, request⟩ := e
    cases request with
    | get other otherBase? => contradiction
    | clear => contradiction
    | insert other otherBase? issues =>
        obtain rfl := Option.some.inj hstored
        obtain ⟨rfl, hbase⟩ := DocumentKey.of_eq_of_iff.mp hkey
        refine ⟨before, moment, otherBase?, after, rfl, hbase, fun x hx => ?_,
          of_decide_eq_true hgood, hcard⟩
        exact hkey ▸ hafter x hx
  · rintro ⟨before, moment, otherBase?, after, rfl, hbase, hafter, hage, hcard⟩
    have hkey : DocumentKey.of content otherBase? = .of content base? :=
      DocumentKey.of_eq_of_iff.mpr ⟨rfl, hbase⟩
    refine ⟨⟨.of content otherBase?, issues, moment⟩, List.mem_filter.mpr ⟨?_, ?_⟩, hkey, rfl⟩
    · refine (mem_rtake_latest_iff rfl fun x hx => ?_).mpr hcard
      rw [Spares, hkey]
      exact hafter x hx
    · exact decide_eq_true hage

/-- Of three documents the first is inserted anew, so that the second is the one to go; it makes no
difference that its entry has been looked up since, nor how the directory is written. -/
theorem get_after_renewed :
    let base? := some "models/./a".toList
    let history : List Event :=
      [⟨0, .insert ['x'] base? []⟩, ⟨1, .insert ['y'] none []⟩,
        ⟨2, .insert ['x'] base? [⟨1, [], .error, []⟩]⟩, ⟨3, .get ['y'] none⟩,
        ⟨4, .insert ['z'] none []⟩]
    (history.map Event.moment ++ [9]).Pairwise (· < ·) ∧
      (((fresh 2 10).after history).get 9 (.of ['x'] (some "models/a/".toList))).1 =
        some [⟨1, [], .error, []⟩] ∧
      (((fresh 2 10).after history).get 9 (.of ['y'] none)).1 = none := by
  intro base? history
  have hclock : (history.map Event.moment ++ [9]).Pairwise (· < ·) := by decide
  refine ⟨hclock, (get_after_eq_some_iff 2 10 history 9 hclock _ _ _).mpr ?_, by decide +kernel⟩
  exact ⟨history.take 2, 2, base?, history.drop 3, rfl, by decide +kernel, by decide +kernel,
    by decide, by decide +kernel⟩

end DocumentCache

end CatchmentLint.Lint
