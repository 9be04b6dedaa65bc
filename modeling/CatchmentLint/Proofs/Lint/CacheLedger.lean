import CatchmentLint.Lint.Readings
import CatchmentLint.Proofs.Lint.Retention

/-!
# CatchmentLint.Proofs.Lint.CacheLedger

The counts of a cache of documents, whatever the clock says at each of its readings.

* `created`, `expired`, `drivenOut`, `cleared` — how many entries one request makes, finds too old,
  drives out and clears away, read off the cache before it;
* `Balanced` — the counts and the number of entries after a request differ by these from before;
  `balanced_serveBy` says so of every request;
* `counts_afterBy` — so the counts of all requests add up, and a cache never holds more than its
  capacity; where the clock stands still during each request, and never goes back, this is the cache
  that a linter has.
-/

namespace CatchmentLint.Lint.DocumentCache

/-! ## Requests -/

/-- A request, and what the clock says while it is served. -/
structure Visit where
  readings : Readings
  request : Request

/-- A request that takes no time. -/
def Event.visit (e : Event) : Visit := ⟨.still e.moment, e.request⟩

def serveBy (c : DocumentCache) (v : Visit) : DocumentCache :=
  match v.request with
  | .get content base? => (c.getBy v.readings (.of content base?)).2
  | .insert content base? issues => c.insertBy v.readings (.of content base?) issues
  | .clear => c.clear

/-- The cache after a sequence of requests. -/
def afterBy (history : List Visit) (c : DocumentCache) : DocumentCache := history.foldl serveBy c

/-! ## What one request does -/

section Counts

variable (c : DocumentCache) (v : Visit)

def Visit.isLookup : Bool :=
  match v.request with
  | .get .. => true
  | _ => false

/-- Whether a good entry for the document is found. -/
def isLive (r : Readings) (key : DocumentKey) : Bool := (c.found r true).any (·.key = key)

/-- The entry is too old both times that a lookup reads the clock. -/
def isStale (r : Readings) (e : CachedDocument) : Bool :=
  !c.isGood (r.clock.reading 0) e && !c.isGood (r.clock.reading 1) e

def holds (key : DocumentKey) : Bool := c.entries.any (·.key = key)

/-- An insertion makes an entry where it finds no good one for the document, and there is one
afterwards. -/
def created : Nat :=
  match v.request with
  | .insert content base? _ =>
    (!c.isLive v.readings (.of content base?) && (c.serveBy v).holds (.of content base?)).toNat
  | _ => 0

/-- A lookup finds one entry too old at most, an insertion looks at all of them. -/
def expired : Nat :=
  match v.request with
  | .get content base? =>
    c.entries.countP fun e => e.key = .of content base? && c.isStale v.readings e
  | .insert .. => (c.found v.readings false).length
  | .clear => 0

/-- The entries that an insertion finds good, and that are gone afterwards. -/
def drivenOut : Nat :=
  match v.request with
  | .insert .. => (c.found v.readings true).countP fun e => !(c.serveBy v).holds e.key
  | _ => 0

def cleared : Nat :=
  match v.request with
  | .clear => c.size
  | _ => 0

end Counts

/-- What the requests of a history amount to, each by what it finds. -/
def total (count : DocumentCache → Visit → Nat) : List Visit → DocumentCache → Nat
  | [], _ => 0
  | v :: history, c => count c v + total count history (c.serveBy v)

/-! ## Entries -/

variable {c : DocumentCache} {r : Readings} {key : DocumentKey} {s : List CachedDocument}

/-- Each entry is found good or too old. -/
theorem length_found (c : DocumentCache) (r : Readings) :
    (c.found r true).length + (c.found r false).length = c.entries.length := by
  have hparts := List.length_eq_countP_add_countP
    (fun x : CachedDocument × Nat => c.isGood (r.clock.reading x.2) x.1 == true)
    (l := (r.order c.entries).zipIdx)
  rw [List.length_zipIdx, (r.order_perm c.entries).length_eq] at hparts
  simp only [found, List.length_map, ← List.countP_eq_length_filter]
  simpa using hparts.symm

/-- The good entries, and the old ones, stand in the order in which the table is gone through. -/
theorem found_sublist (c : DocumentCache) (r : Readings) (good : Bool) :
    (c.found r good).Sublist (r.order c.entries) := by
  have h : ((r.order c.entries).zipIdx.map Prod.fst) = r.order c.entries := List.zipIdx_map_fst 0 _
  rw [← h, found]
  exact List.filter_sublist.map _

theorem nodup_found (hnodup : (c.entries.map CachedDocument.key).Nodup) (good : Bool) :
    ((c.found r good).map CachedDocument.key).Nodup :=
  (((r.order_perm c.entries).map _).nodup_iff.mpr hnodup).sublist ((found_sublist c r good).map _)

theorem mem_of_oldest? {e : CachedDocument} (h : oldest? s = some e) : e ∈ s := by
  induction s generalizing e with
  | nil => contradiction
  | cons d s ih =>
      rw [oldest?] at h
      split at h
      · exact Option.some.inj h ▸ List.mem_cons_self
      · next found hfound =>
          split at h
          · exact Option.some.inj h ▸ List.mem_cons_of_mem _ (ih hfound)
          · exact Option.some.inj h ▸ List.mem_cons_self

/-- There is an oldest of any entries, unless there are none. -/
theorem isSome_oldest? (h : s ≠ []) : (oldest? s).isSome = true := by
  cases s with
  | nil => contradiction
  | cons e s =>
      rw [oldest?]
      split
      · rfl
      · split <;> rfl

/-- One entry goes with its key. -/
theorem length_filter_key (hnodup : (s.map CachedDocument.key).Nodup)
    (h : key ∈ s.map CachedDocument.key) : (s.filter (·.key ≠ key)).length + 1 = s.length := by
  have hle := length_le_filter key hnodup
  have hlt : (s.filter (·.key ≠ key)).length < s.length := by
    obtain ⟨e, he, hkey⟩ := List.mem_map.mp h
    exact List.length_filter_lt_length_iff_exists.mpr ⟨e, he, by simpa using hkey⟩
  omega

/-- There is one entry at most to look at. -/
theorem countP_key (hnodup : (s.map CachedDocument.key).Nodup) (p : CachedDocument → Bool) :
    s.countP (fun e => e.key = key && p e) = ((s.find? (·.key = key)).any p).toNat := by
  induction s with
  | nil => rfl
  | cons e s ih =>
      obtain ⟨he, htail⟩ := List.nodup_cons.mp hnodup
      by_cases hkey : e.key = key
      · have hrest : s.countP (fun e => e.key = key && p e) = 0 := by
          refine List.countP_eq_zero.mpr fun d hd hp => he ?_
          have hsame : d.key = key := by simpa using (Bool.and_eq_true_iff.mp hp).1
          exact hkey ▸ hsame ▸ List.mem_map_of_mem hd
        rw [List.countP_cons, hrest, List.find?_cons_of_pos (by simpa using hkey)]
        cases hp : p e <;> simp [hkey, hp]
      · rw [List.countP_cons_of_neg (by simp [hkey]), List.find?_cons_of_neg (by simpa using hkey),
          ih htail]

/-! ## One request -/

/-- No document has two entries, and there are no more entries than the cache has room for. -/
structure Fits (c : DocumentCache) : Prop where
  nodup : (c.entries.map CachedDocument.key).Nodup
  size_le : c.size ≤ c.capacity

/-- The counts, and the number of entries, are those of before and what the request amounts to. -/
structure Balanced (v : Visit) (c next : DocumentCache) : Prop where
  fits : next.Fits
  capacity_eq : next.capacity = c.capacity
  lookups_eq : next.hits + next.misses = c.hits + c.misses + v.isLookup.toNat
  evictions_eq : next.evictions = c.evictions + expired c v + drivenOut c v
  size_eq : c.size + created c v = next.size + expired c v + drivenOut c v + cleared c v

/-- A lookup that finds nothing too old counts as one, and that is all. -/
theorem balanced_get_of_kept (h : c.Fits) {content : Text} {base? : Option Text}
    {next : DocumentCache} (hentries : next.entries = c.entries)
    (hcapacity : next.capacity = c.capacity)
    (hlookups : next.hits + next.misses = c.hits + c.misses + 1)
    (hevictions : next.evictions = c.evictions)
    (hexpired : expired c ⟨r, .get content base?⟩ = 0) :
    Balanced ⟨r, .get content base?⟩ c next where
  fits := ⟨hentries ▸ h.nodup, by rw [size, hentries, hcapacity]; exact h.size_le⟩
  capacity_eq := hcapacity
  lookups_eq := hlookups
  evictions_eq := by rw [hevictions, hexpired]; rfl
  size_eq := by rw [hexpired, size, size, hentries]; rfl

/-- A lookup counts once, and drops one entry at most, which it has found too old twice. -/
theorem balanced_get (h : c.Fits) (content : Text) (base? : Option Text) :
    Balanced ⟨r, .get content base?⟩ c (c.getBy r (.of content base?)).2 := by
  have hexpired : expired c ⟨r, .get content base?⟩ =
      ((c.entries.find? (·.key = .of content base?)).any (c.isStale r)).toNat :=
    countP_key h.nodup (c.isStale r)
  -- The entry goes only if both readings of the clock find it too old.
  unfold getBy
  split
  · next hfind =>
      rw [hfind] at hexpired
      exact balanced_get_of_kept h rfl rfl rfl rfl hexpired
  · next e hfind =>
      rw [hfind, Option.any_some] at hexpired
      split
      · next hgood =>
          have hstale : c.isStale r e = false := by simp [isStale, hgood]
          rw [hstale] at hexpired
          exact balanced_get_of_kept h rfl rfl (Nat.add_right_comm ..) rfl hexpired
      · next hold =>
          split
          · next hgood =>
              have hstale : c.isStale r e = false := by simp [isStale, hgood]
              rw [hstale] at hexpired
              exact balanced_get_of_kept h rfl rfl rfl rfl hexpired
          · next hstill =>
              have hstale : c.isStale r e = true := by simp [isStale, hold, hstill]
              rw [hstale] at hexpired
              have hkey : .of content base? ∈ c.entries.map CachedDocument.key := by
                have hsame := List.find?_some hfind
                exact List.mem_map.mpr ⟨e, List.mem_of_find?_eq_some hfind, by simpa using hsame⟩
              have hlength := length_filter_key h.nodup hkey
              have hsize := h.size_le
              rw [size] at hsize
              refine ⟨⟨h.nodup.sublist (List.filter_sublist.map _), ?_⟩, rfl, rfl, ?_, ?_⟩
              · exact Nat.le_trans (Nat.le_of_succ_le (Nat.le_of_eq hlength)) hsize
              · rw [hexpired]
                rfl
              · rw [hexpired, size, size, ← hlength]
                rfl

/-- Clearing takes all entries away, and evicts none of them. -/
theorem balanced_clear : Balanced ⟨r, .clear⟩ c c.clear := by
  refine ⟨⟨List.nodup_nil, Nat.zero_le _⟩, rfl, rfl, rfl, ?_⟩
  exact (Nat.zero_add c.size).symm

section Insert

variable {good : List CachedDocument}

/-- Where one is driven out, it is a good one, and there is none for the new document. -/
theorem of_mem_victim? {e : CachedDocument} (h : c.victim? key good = some e) :
    e ∈ good ∧ key ∉ good.map CachedDocument.key ∧ c.capacity ≤ good.length := by
  unfold victim? at h
  split at h
  · next hfull =>
      rw [Bool.and_eq_true] at hfull
      exact ⟨mem_of_oldest? h, by simpa using hfull.1, by simpa using hfull.2⟩
  · contradiction

/-- One is driven out just where the good ones fill the cache and there is none for the new
document. -/
theorem isSome_victim?_iff (hroom : c.capacity ≠ 0) : (c.victim? key good).isSome = true ↔
    key ∉ good.map CachedDocument.key ∧ c.capacity ≤ good.length := by
  refine ⟨fun h => ?_, fun ⟨hkey, hfull⟩ => ?_⟩
  · obtain ⟨e, he⟩ := Option.isSome_iff_exists.mp h
    exact (of_mem_victim? he).2
  · have hnone : good.any (·.key = key) = false := by simpa using hkey
    rw [victim?, hnone, if_pos (by simpa using hfull)]
    exact isSome_oldest? (List.ne_nil_of_length_pos (by omega))

/-- A good entry is gone afterwards if it is the one to go, or makes way for the new one. -/
theorem holds_of_mem {next : DocumentCache} {new : CachedDocument}
    (hentries : next.entries = (c.spared new.key good).filter (·.key ≠ new.key) ++ [new])
    {e : CachedDocument} (he : e ∈ good) :
    next.holds e.key = true ↔
      e.key = new.key ∨ (c.victim? new.key good).any (·.key = e.key) = false := by
  rw [holds, hentries, List.any_append, Bool.or_eq_true]
  constructor
  · rintro (hold | hnew)
    · obtain ⟨d, hd, hkey⟩ := List.any_eq_true.mp hold
      have hstays := (List.mem_filter.mp (List.mem_filter.mp hd).1).2
      exact .inr (of_decide_eq_true hkey ▸ by simpa using hstays)
    · exact .inl (by simpa [eq_comm] using hnew)
  · intro h
    by_cases hkey : e.key = new.key
    · exact .inr (by simp [hkey])
    · have hstays : e ∈ c.spared new.key good :=
        List.mem_filter.mpr ⟨he, by simpa using h.resolve_left hkey⟩
      exact .inl (List.any_eq_true.mpr
        ⟨e, List.mem_filter.mpr ⟨hstays, decide_eq_true hkey⟩, decide_eq_true rfl⟩)

variable (hnodup : (good.map CachedDocument.key).Nodup)

include hnodup

variable (c key) in
/-- Of the good entries all stay but the one that is driven out and the one that is overwritten. -/
theorem length_spared :
    ((c.spared key good).filter (·.key ≠ key)).length + (c.victim? key good).isSome.toNat +
      (good.any (·.key = key)).toNat = good.length := by
  cases hvictim : c.victim? key good with
  | none =>
      have hspared : c.spared key good = good := by simp [spared, hvictim]
      rw [hspared]
      cases hlive : good.any (·.key = key) with
      | true => exact length_filter_key hnodup (by simpa using hlive)
      | false =>
          rw [filter_key_eq_self (by simpa using hlive)]
          rfl
  | some e =>
      obtain ⟨hmem, hkey, -⟩ := of_mem_victim? hvictim
      have hlive : good.any (·.key = key) = false := by simpa using hkey
      have hspared : c.spared key good = good.filter (·.key ≠ e.key) := by
        simp [spared, hvictim, eq_comm]
      have hothers : key ∉ (good.filter (·.key ≠ e.key)).map CachedDocument.key := fun hin =>
        hkey (List.map_subset _ (List.filter_subset_self _) hin)
      rw [hlive, hspared, filter_key_eq_self hothers]
      exact length_filter_key hnodup (List.mem_map_of_mem hmem)

/-- There is room for the new entry. -/
theorem length_spared_lt (hroom : c.capacity ≠ 0) (hle : good.length ≤ c.capacity) :
    ((c.spared key good).filter (·.key ≠ key)).length < c.capacity := by
  have hspared := length_spared c key hnodup
  by_cases hlive : key ∈ good.map CachedDocument.key
  · have hone : (good.any (·.key = key)).toNat = 1 := by
      rw [List.any_eq_true.mpr (by simpa using hlive)]
      rfl
    rw [hone] at hspared
    omega
  · by_cases hfull : c.capacity ≤ good.length
    · rw [(isSome_victim?_iff hroom).mpr ⟨hlive, hfull⟩, Bool.toNat_true] at hspared
      omega
    · omega

/-- What is gone of the good entries is the one that is driven out. -/
theorem countP_not_holds {next : DocumentCache} {new : CachedDocument}
    (hentries : next.entries = (c.spared new.key good).filter (·.key ≠ new.key) ++ [new]) :
    good.countP (fun e => !next.holds e.key) = (c.victim? new.key good).isSome.toNat := by
  cases hvictim : c.victim? new.key good with
  | none =>
      refine List.countP_eq_zero.mpr fun e he => ?_
      simp [(holds_of_mem hentries he).mpr, hvictim]
  | some d =>
      obtain ⟨hmem, hkey, -⟩ := of_mem_victim? hvictim
      have hgone : ∀ e ∈ good, (!next.holds e.key) = true ↔ (e.key = d.key && true) = true := by
        intro e he
        have hne : e.key ≠ new.key := fun heq => hkey (heq ▸ List.mem_map_of_mem he)
        have hholds := holds_of_mem hentries he
        rw [hvictim, Option.any_some] at hholds
        rw [Bool.not_eq_true', Bool.and_true, decide_eq_true_iff, ← Bool.not_eq_true, hholds]
        simp [hne, eq_comm]
      have hfound : (good.find? (·.key = d.key)).isSome = true :=
        List.find?_isSome.mpr ⟨d, hmem, decide_eq_true rfl⟩
      obtain ⟨e, he⟩ := Option.isSome_iff_exists.mp hfound
      rw [List.countP_congr hgone, countP_key hnodup fun _ => true, he]
      rfl

end Insert

/-- An insertion evicts the entries that are too old and at most one good one.  A cache without room
stays as it is. -/
theorem balanced_insert (h : c.Fits) (content : Text) (base? : Option Text) (issues : List Issue) :
    Balanced ⟨r, .insert content base? issues⟩ c (c.insertBy r (.of content base?) issues) := by
  by_cases hroom : c.capacity = 0
  · -- No entry has ever come into a cache without room.
    have hnone : c.entries = [] :=
      List.eq_nil_of_length_eq_zero (Nat.le_zero.mp (hroom ▸ h.size_le))
    have hsame : c.insertBy r (.of content base?) issues = c := by rw [insertBy, if_pos hroom]
    have hserved : c.serveBy ⟨r, .insert content base? issues⟩ = c := hsame
    have hfound (good : Bool) : c.found r good = [] := by
      have := (found_sublist c r good).length_le
      rw [(r.order_perm c.entries).length_eq, hnone] at this
      exact List.eq_nil_of_length_eq_zero (Nat.le_zero.mp this)
    rw [hsame]
    refine ⟨h, rfl, rfl, ?_, ?_⟩
    · simp [expired, drivenOut, hfound]
    · simp [created, expired, drivenOut, cleared, hfound, hserved, holds, hnone]
  · let key := DocumentKey.of content base?
    let good := c.found r true
    let next := c.insertBy r key issues
    let new : CachedDocument := ⟨key, issues, r.clock.reading c.entries.length⟩
    have hgood : (good.map CachedDocument.key).Nodup := nodup_found h.nodup true
    have hnext : next = { c with
        entries := (c.spared key good).filter (·.key ≠ key) ++ [new]
        evictions := c.evictions + (c.entries.length - good.length) +
          (c.victim? key good).isSome.toNat } := if_neg hroom
    have hentries : next.entries = (c.spared key good).filter (·.key ≠ key) ++ [new] := by
      rw [hnext]
    have hgone : good.countP (fun e => !next.holds e.key) = (c.victim? new.key good).isSome.toNat :=
      countP_not_holds hgood hentries
    have hdriven : drivenOut c ⟨r, .insert content base? issues⟩ =
        (c.victim? key good).isSome.toNat := hgone
    have hholds : next.holds key = true := by simp [holds, hentries, new]
    have hcreated : created c ⟨r, .insert content base? issues⟩ =
        (!good.any (·.key = key)).toNat := by
      change (!good.any (·.key = key) && next.holds key).toNat = _
      rw [hholds, Bool.and_true]
    have hexpired : expired c ⟨r, .insert content base? issues⟩ = (c.found r false).length := rfl
    have hsize : next.size = ((c.spared key good).filter (·.key ≠ key)).length + 1 := by
      rw [size, hentries, List.length_append, List.length_singleton]
    have hcounted : good.length + (c.found r false).length = c.size := length_found c r
    have hspared := length_spared c key hgood
    have hevictions : next.evictions = c.evictions + (c.size - good.length) +
        (c.victim? key good).isSome.toNat := by rw [hnext]; rfl
    have hlimit : next.capacity = c.capacity := by rw [hnext]
    have hfits := h.size_le
    refine ⟨⟨?_, ?_⟩, hlimit, ?_, ?_, ?_⟩
    · rw [hentries]
      exact nodup_filter_concat new (hgood.sublist (List.filter_sublist.map _))
    · change next.size ≤ next.capacity
      rw [hsize, hlimit]
      exact length_spared_lt hgood hroom (by omega)
    · change next.hits + next.misses = _
      rw [hnext]
      rfl
    · change next.evictions = _
      rw [hevictions, hexpired, hdriven]
      omega
    · have hlive : (!good.any (·.key = key)).toNat + (good.any (·.key = key)).toNat = 1 := by
        cases good.any (·.key = key) <;> rfl
      change c.size + _ = next.size + _ + _ + 0
      rw [hcreated, hexpired, hdriven, hsize]
      omega

/-! ## A clock that stands still during a request -/

/-- The entries stand in the order in which they have been stored. -/
structure Ordered (now : Moment) (c : DocumentCache) : Prop where
  nodup : (c.entries.map CachedDocument.key).Nodup
  sorted : c.entries.Pairwise fun a b => a.storedAt ≤ b.storedAt
  past : ∀ e ∈ c.entries, e.storedAt ≤ now

variable {now : Moment}

theorem found_still : c.found (.still now) true = c.entries.filter (c.isGood now) := by
  have hsame : (fun (x : CachedDocument × Nat) => c.isGood now x.1 == true) =
      c.isGood now ∘ Prod.fst := by
    funext x
    exact beq_true _
  simp only [found, Readings.still, id_eq, hsame]
  rw [← List.filter_map, List.zipIdx_map_fst]

theorem oldest?_eq_head? (h : s.Pairwise fun a b => a.storedAt ≤ b.storedAt) :
    oldest? s = s.head? := by
  induction s with
  | nil => rfl
  | cons e s ih =>
      obtain ⟨hfirst, htail⟩ := List.pairwise_cons.mp h
      rw [oldest?, ih htail]
      cases s with
      | nil => rfl
      | cons d s => exact if_neg (Nat.not_lt.mpr (hfirst d List.mem_cons_self))

/-- Where the clock stands still, a lookup that reads it twice is one that reads it once. -/
theorem getBy_still : c.getBy (.still now) key = c.get now key := by
  unfold getBy get
  cases c.entries.find? (·.key = key) with
  | none => rfl
  | some e =>
      by_cases hgood : c.isGood now e = true <;> simp [Readings.still, hgood]

/-- The one that is driven out is the first of the good entries. -/
theorem spared_still (h : c.Ordered now) (key : DocumentKey) :
    let good := c.found (.still now) true
    c.spared key good = c.kept now key ∧
      good.length = (c.kept now key).length + (c.victim? key good).isSome.toNat := by
  intro good
  have hgood : good = c.entries.filter (c.isGood now) := found_still
  have hsub : good.Sublist c.entries := hgood ▸ List.filter_sublist
  have holdest := oldest?_eq_head? (h.sorted.sublist hsub)
  have hnodup := h.nodup.sublist (hsub.map _)
  rw [kept, ← hgood]
  clear_value good
  by_cases hfull : (!good.any (·.key = key) && c.capacity ≤ good.length) = true
  · have hvictim : c.victim? key good = good.head? := by rw [victim?, if_pos hfull, holdest]
    rw [Bool.and_eq_true, Bool.not_eq_true'] at hfull
    rw [spared, hvictim, if_neg (by simp [hfull.1]), if_pos (by simpa using hfull.2)]
    cases good with
    | nil => exact ⟨rfl, rfl⟩
    | cons e rest =>
        have hrest : e.key ∉ rest.map CachedDocument.key := (List.nodup_cons.mp hnodup).1
        refine ⟨?_, rfl⟩
        simpa [eq_comm] using filter_key_eq_self hrest
  · have hvictim : c.victim? key good = none := by rw [victim?, if_neg hfull]
    have hkept : (if good.any (·.key = key) = true then good
        else if c.capacity ≤ good.length then good.drop 1 else good) = good := by
      split
      · rfl
      · next hnone => rw [if_neg fun hle => hfull (by simp [hle, Bool.eq_false_iff.mpr hnone])]
    rw [hkept, spared, hvictim]
    simp

/-- Where the clock stands still, and the entries are in the order of their times, the oldest one is
the first. -/
theorem insertBy_still (h : c.Ordered now) (key : DocumentKey) (issues : List Issue) :
    c.insertBy (.still now) key issues = c.insert now key issues := by
  by_cases hroom : c.capacity = 0
  · rw [insertBy, insert, if_pos hroom, if_pos hroom]
  · obtain ⟨hspared, hlength⟩ := spared_still h key
    have hcounted := length_found c (.still now)
    rw [insertBy, insert, if_neg hroom, if_neg hroom]
    simp only [hspared]
    congr 1
    omega

/-- A request that takes no time is served as the cache of a linter serves it. -/
theorem serveBy_visit {e : Event} (h : c.Ordered e.moment) : c.serveBy e.visit = c.serve e := by
  obtain ⟨now, request⟩ := e
  cases request with
  | get content base? => exact congrArg Prod.snd getBy_still
  | insert content base? issues => exact insertBy_still h _ issues
  | clear => rfl

theorem Ordered.mono {later : Moment} (h : c.Ordered now) (hle : now ≤ later) : c.Ordered later :=
  ⟨h.nodup, h.sorted, fun e he => Nat.le_trans (h.past e he) hle⟩

theorem Ordered.sublist {next : DocumentCache} (h : c.Ordered now)
    (hsub : next.entries.Sublist c.entries) : next.Ordered now :=
  ⟨h.nodup.sublist (hsub.map _), h.sorted.sublist hsub, fun e he => h.past e (hsub.subset he)⟩

theorem get_sublist : (c.get now key).2.entries.Sublist c.entries := by
  unfold get
  split
  · split
    · exact .refl _
    · exact List.filter_sublist
  · exact .refl _

theorem kept_sublist : (c.kept now key).Sublist c.entries := by
  simp only [kept]
  split
  · exact List.filter_sublist
  · split
    · exact (List.drop_sublist 1 _).trans List.filter_sublist
    · exact List.filter_sublist

theorem Ordered.insert (h : c.Ordered now) (key : DocumentKey) (issues : List Issue) :
    (c.insert now key issues).Ordered now := by
  unfold DocumentCache.insert
  split
  · exact h
  · have hsub : ((c.kept now key).filter (·.key ≠ key)).Sublist c.entries :=
      List.filter_sublist.trans kept_sublist
    refine ⟨?_, List.pairwise_append.mpr ⟨h.sorted.sublist hsub, by simp, ?_⟩, ?_⟩
    · exact nodup_filter_concat ⟨key, issues, now⟩ (h.nodup.sublist (kept_sublist.map _))
    · intro e he d hd
      exact List.mem_singleton.mp hd ▸ h.past e (hsub.subset he)
    · intro e he
      cases List.mem_append.mp he with
      | inl hold => exact h.past e (hsub.subset hold)
      | inr hnew => exact Nat.le_of_eq (congrArg CachedDocument.storedAt (List.mem_singleton.mp hnew))

theorem Ordered.serve {e : Event} (h : c.Ordered e.moment) : (c.serve e).Ordered e.moment := by
  obtain ⟨now, request⟩ := e
  cases request with
  | get content base? => exact h.sublist get_sublist
  | insert content base? issues => exact h.insert _ issues
  | clear => exact ⟨List.nodup_nil, .nil, nofun⟩

/-- Where the clock never goes back, and stands still during each request, this is the cache that a
linter has. -/
theorem afterBy_visit (h : c.Ordered now) {events : List Event}
    (hclock : (now :: events.map Event.moment).Pairwise (· ≤ ·)) :
    c.afterBy (events.map Event.visit) = c.after events := by
  induction events generalizing c now with
  | nil => rfl
  | cons e events ih =>
      obtain ⟨hnow, hlater⟩ := List.pairwise_cons.mp hclock
      have hordered := h.mono (hnow e.moment List.mem_cons_self)
      change (c.serveBy e.visit).afterBy _ = (c.serve e).after events
      rw [serveBy_visit hordered]
      exact ih hordered.serve hlater

/-! ## Sequences of requests -/

/-- Every request leaves the counts in balance, whatever it asks. -/
theorem balanced_serveBy (h : c.Fits) (v : Visit) : Balanced v c (c.serveBy v) := by
  obtain ⟨r, request⟩ := v
  cases request with
  | get content base? => exact balanced_get h content base?
  | insert content base? issues => exact balanced_insert h content base? issues
  | clear => exact balanced_clear

/-- What single requests amount to adds up. -/
theorem ledger_afterBy (h : c.Fits) (history : List Visit) :
    let next := c.afterBy history
    next.size ≤ c.capacity ∧
      next.hits + next.misses = c.hits + c.misses + history.countP Visit.isLookup ∧
      next.evictions = c.evictions + total expired history c + total drivenOut history c ∧
      c.size + total created history c =
        next.size + total expired history c + total drivenOut history c +
          total cleared history c := by
  induction history generalizing c with
  | nil => exact ⟨h.size_le, rfl, rfl, rfl⟩
  | cons v history ih =>
      have hstep := balanced_serveBy h v
      obtain ⟨hsize, hlookups, hevictions, hcreated⟩ := ih hstep.fits
      have hnext : c.afterBy (v :: history) = (c.serveBy v).afterBy history := rfl
      have hone := hstep.lookups_eq
      have hgone := hstep.evictions_eq
      have hmade := hstep.size_eq
      have hcount : (v :: history).countP Visit.isLookup =
          history.countP Visit.isLookup + v.isLookup.toNat := by
        cases hv : v.isLookup <;> simp [hv]
      rw [hstep.capacity_eq] at hsize
      simp only [hnext, total, hcount]
      exact ⟨hsize, by omega, by omega, by omega⟩

theorem fits_fresh (capacity lifetime : Nat) : (fresh capacity lifetime).Fits :=
  ⟨List.nodup_nil, Nat.zero_le _⟩

/-- The cache never outgrows its capacity, every lookup is a hit or a miss, and every entry that has
been made is still there, or has been evicted, or cleared away.  An eviction is of an entry that a
lookup or an insertion found too old, or that was driven out. -/
theorem counts_afterBy (capacity lifetime : Nat) (history : List Visit) :
    let new := fresh capacity lifetime
    let c := new.afterBy history
    c.size ≤ capacity ∧ c.hits + c.misses = history.countP Visit.isLookup ∧
      total created history new = c.size + c.evictions + total cleared history new ∧
      c.evictions = total expired history new + total drivenOut history new ∧
      ∀ events : List Event, history = events.map Event.visit →
        (events.map Event.moment).Pairwise (· ≤ ·) → c = new.after events := by
  intro new c
  obtain ⟨hsize, hlookups, hevictions, hcreated⟩ :=
    ledger_afterBy (fits_fresh capacity lifetime) history
  change c.hits + c.misses = 0 + 0 + history.countP Visit.isLookup at hlookups
  change c.evictions = 0 + total expired history new + total drivenOut history new at hevictions
  change 0 + total created history new =
    c.size + total expired history new + total drivenOut history new + total cleared history new
    at hcreated
  refine ⟨hsize, by omega, by omega, by omega, ?_⟩
  rintro events rfl hclock
  have hordered : new.Ordered 0 := ⟨List.nodup_nil, .nil, nofun⟩
  exact afterBy_visit hordered (List.pairwise_cons.mpr ⟨fun _ _ => Nat.zero_le _, hclock⟩)

/-- A document that has just expired is inserted again into a full cache: its old entry is evicted,
once, as too old, and nothing is driven out. -/
theorem counts_afterBy_expired :
    let events : List Event :=
      [⟨0, .insert ['x'] none []⟩, ⟨9, .get ['x'] none⟩, ⟨10, .insert ['x'] none []⟩]
    let history := events.map Event.visit
    let new := fresh 1 10
    (events.map Event.moment).Pairwise (· ≤ ·) ∧ new.afterBy history = new.after events ∧
      total created history new = 2 ∧ total expired history new = 1 ∧
      total drivenOut history new = 0 ∧ (new.after events).evictions = 1 := by
  intro events history new
  have hclock : (events.map Event.moment).Pairwise (· ≤ ·) := by decide
  obtain ⟨-, -, -, -, hsame⟩ := counts_afterBy 1 10 history
  exact ⟨hclock, hsame events rfl hclock, by decide +kernel, by decide +kernel, by decide +kernel,
    by decide +kernel⟩

end CatchmentLint.Lint.DocumentCache
