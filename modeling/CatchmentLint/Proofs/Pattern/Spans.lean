import CatchmentLint.Pattern.CharRanges
import CatchmentLint.Pattern.Regex

/-!
# CatchmentLint.Proofs.Pattern.Spans

What a regular expression matches, and that the matcher finds just that.

`Spans r before s after` says that `r` matches the stretch `s` where it stands between the
characters `before` and `after`.  The matcher goes through a text character by character; each of
its steps is a step of the stretches that are matched (`spans_cons_iff`), so that it finds a
stretch exactly where there is one (`isFoundIn_iff`).  What a text that is written out matches is
that text (`spans_spelling_iff`).
-/

namespace CatchmentLint.Regex

/-! ## Stretches that are matched -/

/-- `n` turns of a body, one behind the other. -/
def Turns (body : Option Char → Text → Option Char → Prop) :
    Nat → Option Char → Text → Option Char → Prop
  | 0, _, s, _ => s = []
  | n + 1, before, s, after =>
    ∃ u v, s = u ++ v ∧ body before u (v.head?.or after) ∧
      Turns body n (u.getLast?.or before) v after

/-- Whether the stretch `s` between two characters is matched. -/
def Spans : Regex → (before : Option Char) → (s : Text) → (after : Option Char) → Prop
  | .empty, _, s, _ => s = []
  | .condition c, before, s, after => s = [] ∧ c.holds ⟨before, after⟩
  | .set ranges, _, s, _ => ∃ c, s = [c] ∧ ranges.contains c
  | .seq a b, before, s, after =>
    ∃ u v, s = u ++ v ∧ a.Spans before u (v.head?.or after) ∧ b.Spans (u.getLast?.or before) v after
  | .alt a b, before, s, after => a.Spans before s after ∨ b.Spans before s after
  | .loop min max _ body, before, s, after =>
    ∃ n, min ≤ n ∧ (∀ m ∈ max, n ≤ m) ∧ Turns body.Spans n before s after
  | .capture body, before, s, after => body.Spans before s after

/-- Whether the bounds of every repetition can be met. -/
def Ordered : Regex → Prop
  | .empty | .condition _ | .set _ => True
  | .seq a b | .alt a b => a.Ordered ∧ b.Ordered
  | .loop min max _ body => (∀ m ∈ max, min ≤ m) ∧ body.Ordered
  | .capture body => body.Ordered

variable {r a b : Regex} {before after : Option Char} {c : Char} {s : Text}

theorem spans_andThen :
    (a.andThen b).Spans before s after ↔ (Regex.seq a b).Spans before s after := by
  unfold andThen
  split
  · next h =>
      subst h
      constructor
      · exact fun hb => ⟨[], s, rfl, rfl, hb⟩
      · rintro ⟨u, v, rfl, rfl, hb⟩
        exact hb
  · exact Iff.rfl

theorem Ordered.andThen (ha : a.Ordered) (hb : b.Ordered) : (a.andThen b).Ordered := by
  unfold Regex.andThen
  split
  · exact hb
  · exact ⟨ha, hb⟩

/-! ## Stretches without characters -/

section Turns

variable {body : Option Char → Text → Option Char → Prop} {n : Nat}

theorem turns_nil_iff : Turns body n before [] after ↔ n = 0 ∨ body before [] after := by
  induction n with
  | zero => simp [Turns]
  | succ n ih =>
      simp only [Turns, List.nil_eq_append_iff]
      constructor
      · rintro ⟨u, v, ⟨rfl, rfl⟩, hbody, -⟩
        exact .inr hbody
      · rintro (h | h)
        · contradiction
        · exact ⟨[], [], ⟨rfl, rfl⟩, h, ih.mpr (.inr h)⟩

theorem getLast?_cons_or (c : Char) (u : Text) (before : Option Char) :
    (c :: u).getLast?.or before = u.getLast?.or (some c) := by
  rw [List.getLast?_cons]
  cases u.getLast? <;> rfl

/-- The turn that takes the first character; the turns before it match nothing. -/
theorem turns_cons_iff :
    Turns body n before (c :: s) after ↔
      ∃ k m, k + m + 1 = n ∧ (k = 0 ∨ body before [] (some c)) ∧
        ∃ u v, s = u ++ v ∧ body before (c :: u) (v.head?.or after) ∧
          Turns body m (u.getLast?.or (some c)) v after := by
  induction n with
  | zero => simp [Turns]
  | succ n ih =>
      simp only [Turns]
      constructor
      · rintro ⟨_ | ⟨d, u⟩, v, hs, hbody, hturns⟩
        · cases hs
          obtain ⟨k, m, rfl, -, hrest⟩ := ih.mp hturns
          exact ⟨k + 1, m, by omega, .inr hbody, hrest⟩
        · cases hs
          rw [getLast?_cons_or] at hturns
          exact ⟨0, n, by omega, .inl rfl, u, v, rfl, hbody, hturns⟩
      · rintro ⟨_ | k, m, hn, hempty, u, v, rfl, hbody, hturns⟩
        · obtain rfl : m = n := by omega
          rw [← getLast?_cons_or c u before] at hturns
          exact ⟨c :: u, v, rfl, hbody, hturns⟩
        · have hempty := hempty.resolve_left (Nat.succ_ne_zero k)
          exact ⟨[], c :: (u ++ v), rfl, hempty,
            ih.mpr ⟨k, m, by omega, .inr hempty, u, v, rfl, hbody, hturns⟩⟩

end Turns

/-- What matches nothing at a place matches the stretch without characters there. -/
theorem matchesNothing_iff (h : r.Ordered) :
    r.matchesNothing ⟨before, after⟩ = true ↔ r.Spans before [] after := by
  induction r generalizing before after with
  | empty => simp [matchesNothing, Spans]
  | condition c => simp [matchesNothing, Spans]
  | set ranges => simp [matchesNothing, Spans]
  | seq a b iha ihb =>
      simp only [matchesNothing, Bool.and_eq_true, iha h.1, ihb h.2, Spans, List.nil_eq_append_iff]
      constructor
      · rintro ⟨ha, hb⟩
        exact ⟨[], [], ⟨rfl, rfl⟩, ha, hb⟩
      · rintro ⟨u, v, ⟨rfl, rfl⟩, ha, hb⟩
        exact ⟨ha, hb⟩
  | alt a b iha ihb => simp only [matchesNothing, Bool.or_eq_true, iha h.1, ihb h.2, Spans]
  | loop min max lazy body ih =>
      simp only [matchesNothing, Bool.or_eq_true, beq_iff_eq, ih h.2, Spans, turns_nil_iff]
      constructor
      · rintro (rfl | hbody)
        · exact ⟨0, Nat.le_refl _, fun _ _ => Nat.zero_le _, .inl rfl⟩
        · exact ⟨min, Nat.le_refl _, h.1, .inr hbody⟩
      · rintro ⟨n, hmin, -, rfl | hbody⟩
        · exact .inl (Nat.le_zero.mp hmin)
        · exact .inr hbody
  | capture body ih => exact ih h

/-! ## Stretches with a first character -/

/-- A loop steps by a step of its body, after which it has one turn less to make. -/
theorem mem_steps_loop {min : Nat} {max : Option Nat} {lazy : Bool} {body q : Regex}
    {place : Between} :
    q ∈ (Regex.loop min max lazy body).steps place c ↔
      max ≠ some 0 ∧ ∃ p ∈ body.steps place c,
        p.andThen (.loop (if body.matchesNothing place then 0 else min - 1) (max.map (· - 1))
          lazy body) = q := by
  simp only [steps]
  split
  · simp
  · next hmax =>
      have hne : max ≠ some 0 := fun e => hmax e
      simp [hne]

theorem Ordered.of_mem_steps {place : Between} {q : Regex} (h : r.Ordered)
    (hq : q ∈ r.steps place c) : q.Ordered := by
  induction r generalizing q with
  | empty => contradiction
  | condition _ => contradiction
  | set ranges =>
      simp only [steps] at hq
      split at hq
      · rw [List.mem_singleton.mp hq]
        exact True.intro
      · contradiction
  | seq a b iha ihb =>
      simp only [steps, List.mem_append, List.mem_map] at hq
      rcases hq with ⟨p, hp, rfl⟩ | hq
      · exact (iha h.1 hp).andThen h.2
      · split at hq
        · exact ihb h.2 hq
        · contradiction
  | alt a b iha ihb =>
      simp only [steps, List.mem_append] at hq
      exact hq.elim (iha h.1) (ihb h.2)
  | loop min max lazy body ih =>
      obtain ⟨hmax, p, hp, rfl⟩ := mem_steps_loop.mp hq
      refine (ih h.2 hp).andThen ⟨fun m hm => ?_, h.2⟩
      obtain ⟨n, hn, rfl⟩ := Option.map_eq_some_iff.mp hm
      have hmin := h.1 n hn
      split <;> omega
  | capture body ih => exact ih h hq

/-- The first character is matched by the first part, or by the second after nothing. -/
theorem spans_seq_cons_iff :
    (Regex.seq a b).Spans before (c :: s) after ↔
      a.Spans before [] (some c) ∧ b.Spans before (c :: s) after ∨
        ∃ u v, s = u ++ v ∧ a.Spans before (c :: u) (v.head?.or after) ∧
          b.Spans (u.getLast?.or (some c)) v after := by
  simp only [Spans]
  constructor
  · rintro ⟨_ | ⟨d, u⟩, v, hs, ha, hb⟩
    · cases hs
      exact .inl ⟨ha, hb⟩
    · cases hs
      rw [getLast?_cons_or] at hb
      exact .inr ⟨u, v, rfl, ha, hb⟩
  · rintro (⟨ha, hb⟩ | ⟨u, v, rfl, ha, hb⟩)
    · exact ⟨[], c :: s, rfl, ha, hb⟩
    · rw [← getLast?_cons_or c u before] at hb
      exact ⟨c :: u, v, rfl, ha, hb⟩

section Loop

variable {min : Nat} {max : Option Nat} {lazy : Bool} {body : Regex}

/-- The turn that takes the first character, and the turns that are left after it. -/
theorem spans_loop_cons_iff (h : (Regex.loop min max lazy body).Ordered) :
    (Regex.loop min max lazy body).Spans before (c :: s) after ↔
      max ≠ some 0 ∧ ∃ u v, s = u ++ v ∧ body.Spans before (c :: u) (v.head?.or after) ∧
        (Regex.loop (if body.matchesNothing ⟨before, some c⟩ then 0 else min - 1)
          (max.map (· - 1)) lazy body).Spans (u.getLast?.or (some c)) v after := by
  have hnothing : body.matchesNothing ⟨before, some c⟩ = true ↔ body.Spans before [] (some c) :=
    matchesNothing_iff h.2
  constructor
  · rintro ⟨n, hmin, hmax, hturns⟩
    obtain ⟨k, m, rfl, hempty, u, v, rfl, hbody, hrest⟩ := turns_cons_iff.mp hturns
    have hne : max ≠ some 0 := fun e => absurd (hmax 0 e) (by omega)
    refine ⟨hne, u, v, rfl, hbody, m, ?_, fun x hx => ?_, hrest⟩
    · split
      · exact Nat.zero_le _
      · next hno =>
          have hk : k = 0 := hempty.resolve_right fun e => hno (hnothing.mpr e)
          omega
    · obtain ⟨y, hy, rfl⟩ := Option.map_eq_some_iff.mp hx
      have hle := hmax y hy
      omega
  · rintro ⟨hne, u, v, rfl, hbody, m, hmin, hmax, hrest⟩
    have hturns {k : Nat} (hk : k = 0 ∨ body.Spans before [] (some c)) :
        Turns body.Spans (k + m + 1) before (c :: (u ++ v)) after :=
      turns_cons_iff.mpr ⟨k, m, rfl, hk, u, v, rfl, hbody, hrest⟩
    have hle : ∀ x ∈ max, m + 1 ≤ x := fun x hx => by
      have hm := hmax (x - 1) (Option.map_eq_some_iff.mpr ⟨x, hx, rfl⟩)
      have hpos : x ≠ 0 := fun e => hne (e ▸ hx)
      omega
    by_cases hempty : body.matchesNothing ⟨before, some c⟩
    · -- turns that match nothing make up what is missing from the least number
      refine ⟨min - (m + 1) + m + 1, by omega, fun x hx => ?_,
        hturns (.inr (hnothing.mp hempty))⟩
      have hmin := h.1 x hx
      have hlast := hle x hx
      omega
    · rw [if_neg hempty] at hmin
      refine ⟨0 + m + 1, by omega, fun x hx => ?_, hturns (.inl rfl)⟩
      have hlast := hle x hx
      omega

end Loop

/-- A stretch is matched exactly if what is left of it is matched after one of the steps. -/
theorem spans_cons_iff (h : r.Ordered) :
    r.Spans before (c :: s) after ↔
      ∃ q ∈ r.steps ⟨before, some c⟩ c, q.Spans (some c) s after := by
  induction r generalizing s after with
  | empty => simp [Spans, steps]
  | condition _ => simp [Spans, steps]
  | set ranges =>
      simp only [Spans, steps]
      constructor
      · rintro ⟨d, hs, hd⟩
        cases hs
        exact ⟨.empty, by simp [hd], rfl⟩
      · rintro ⟨q, hq, hspans⟩
        split at hq
        · next hc =>
            rw [List.mem_singleton.mp hq] at hspans
            exact ⟨c, congrArg _ hspans, hc⟩
        · contradiction
  | seq a b iha ihb =>
      -- The first part takes the character, or matches nothing and leaves it to the second.
      rw [spans_seq_cons_iff, ← matchesNothing_iff h.1, ihb h.2]
      simp only [iha h.1, steps, List.mem_append, List.mem_map]
      constructor
      · rintro (⟨hnothing, q, hq, hspans⟩ | ⟨u, v, rfl, ⟨p, hp, ha⟩, hb⟩)
        · exact ⟨q, .inr ((if_pos hnothing).symm ▸ hq), hspans⟩
        · exact ⟨_, .inl ⟨p, hp, rfl⟩, spans_andThen.mpr ⟨u, v, rfl, ha, hb⟩⟩
      · rintro ⟨q, ⟨p, hp, rfl⟩ | hq, hspans⟩
        · obtain ⟨u, v, rfl, ha, hb⟩ := spans_andThen.mp hspans
          exact .inr ⟨u, v, rfl, ⟨p, hp, ha⟩, hb⟩
        · split at hq
          · next hnothing => exact .inl ⟨hnothing, q, hq, hspans⟩
          · contradiction
  | alt a b iha ihb =>
      simp only [Spans, steps, List.mem_append, iha h.1, ihb h.2, or_and_right, exists_or]
  | loop min max lazy body ih =>
      rw [spans_loop_cons_iff h]
      simp only [ih h.2, mem_steps_loop]
      constructor
      · rintro ⟨hne, u, v, rfl, ⟨p, hp, hfirst⟩, hrest⟩
        exact ⟨_, ⟨hne, p, hp, rfl⟩, spans_andThen.mpr ⟨u, v, rfl, hfirst, hrest⟩⟩
      · rintro ⟨q, ⟨hne, p, hp, rfl⟩, hspans⟩
        obtain ⟨u, v, rfl, hfirst, hrest⟩ := spans_andThen.mp hspans
        exact ⟨hne, u, v, rfl, ⟨p, hp, hfirst⟩, hrest⟩
  | capture body ih => exact ih h

/-! ## Finding -/

/-- Whether a stretch from the start of `s` on is matched. -/
def Reaches (r : Regex) (before : Option Char) (s : Text) : Prop :=
  ∃ u v, s = u ++ v ∧ r.Spans before u v.head?

/-- Whether a stretch of `s` is matched. -/
def Occurs (r : Regex) (before : Option Char) (s : Text) : Prop :=
  ∃ passed rest, s = passed ++ rest ∧ r.Reaches (passed.getLast?.or before) rest

theorem reaches_nil_iff (h : r.Ordered) :
    r.Reaches before [] ↔ r.matchesNothing ⟨before, none⟩ = true := by
  rw [matchesNothing_iff h]
  constructor
  · rintro ⟨u, v, hs, hspans⟩
    obtain ⟨rfl, rfl⟩ := List.nil_eq_append_iff.mp hs
    exact hspans
  · exact fun hspans => ⟨[], [], rfl, hspans⟩

/-- A match is reached here, or beyond the next character. -/
theorem reaches_cons_iff (h : r.Ordered) :
    r.Reaches before (c :: s) ↔ r.matchesNothing ⟨before, some c⟩ = true ∨
      ∃ q ∈ r.steps ⟨before, some c⟩ c, q.Reaches (some c) s := by
  constructor
  · rintro ⟨_ | ⟨d, u⟩, v, hs, hspans⟩
    · cases hs
      exact .inl ((matchesNothing_iff h).mpr hspans)
    · cases hs
      obtain ⟨q, hq, hspans⟩ := (spans_cons_iff h).mp hspans
      exact .inr ⟨q, hq, u, v, rfl, hspans⟩
  · rintro (hnothing | ⟨q, hq, u, v, rfl, hspans⟩)
    · exact ⟨[], c :: s, rfl, (matchesNothing_iff h).mp hnothing⟩
    · exact ⟨c :: u, v, rfl, (spans_cons_iff h).mpr ⟨q, hq, hspans⟩⟩

theorem occurs_nil_iff : r.Occurs before [] ↔ r.Reaches before [] := by
  constructor
  · rintro ⟨passed, rest, hs, hreaches⟩
    obtain ⟨rfl, rfl⟩ := List.nil_eq_append_iff.mp hs
    exact hreaches
  · exact fun hreaches => ⟨[], [], rfl, hreaches⟩

/-- A match begins here, or beyond the next character. -/
theorem occurs_cons_iff :
    r.Occurs before (c :: s) ↔ r.Reaches before (c :: s) ∨ r.Occurs (some c) s := by
  constructor
  · rintro ⟨_ | ⟨d, passed⟩, rest, hs, hreaches⟩
    · cases hs
      exact .inl hreaches
    · cases hs
      rw [getLast?_cons_or] at hreaches
      exact .inr ⟨passed, rest, rfl, hreaches⟩
  · rintro (hreaches | ⟨passed, rest, rfl, hreaches⟩)
    · exact ⟨[], c :: s, rfl, hreaches⟩
    · rw [← getLast?_cons_or c passed before] at hreaches
      exact ⟨c :: passed, rest, rfl, hreaches⟩

/-- The search finds a match just where one of the matches under way ends in one, or a new one
begins further on. -/
theorem foundFrom_iff {start : Regex} (hstart : start.Ordered) {pending : List Regex}
    (hpending : ∀ p ∈ pending, p.Ordered) :
    foundFrom start before pending s = true ↔
      (∃ p ∈ pending, p.Reaches before s) ∨ start.Occurs before s := by
  induction s generalizing before pending with
  | nil =>
      have hany : (∃ p ∈ pending, p.Reaches before []) ↔
          ∃ p ∈ pending, p.matchesNothing ⟨before, none⟩ = true :=
        exists_congr fun p => and_congr_right fun hp => reaches_nil_iff (hpending p hp)
      simp only [foundFrom, List.any_cons, Bool.or_eq_true, List.any_eq_true, occurs_nil_iff,
        reaches_nil_iff hstart, hany, or_comm]
  | cons c s ih =>
      -- A new match begins at every place, beside those that are under way.
      have htried : ∀ p ∈ start :: pending, p.Ordered := by
        simpa using ⟨hstart, hpending⟩
      have hnext : ∀ q ∈ ((start :: pending).flatMap (·.steps ⟨before, some c⟩ c)).eraseDups,
          q.Ordered := by
        intro q hq
        obtain ⟨p, hp, hq⟩ := List.mem_flatMap.mp (List.mem_eraseDups.mp hq)
        exact (htried p hp).of_mem_steps hq
      have hreaches : (∃ p ∈ start :: pending, p.Reaches before (c :: s)) ↔
          (∃ p ∈ start :: pending, p.matchesNothing ⟨before, some c⟩ = true) ∨
            ∃ q ∈ ((start :: pending).flatMap (·.steps ⟨before, some c⟩ c)).eraseDups,
              q.Reaches (some c) s := by
        constructor
        · rintro ⟨p, hp, hreaches⟩
          rcases (reaches_cons_iff (htried p hp)).mp hreaches with hnothing | ⟨q, hq, hreaches⟩
          · exact .inl ⟨p, hp, hnothing⟩
          · exact .inr ⟨q, List.mem_eraseDups.mpr (List.mem_flatMap.mpr ⟨p, hp, hq⟩), hreaches⟩
        · rintro (⟨p, hp, hnothing⟩ | ⟨q, hq, hreaches⟩)
          · exact ⟨p, hp, (reaches_cons_iff (htried p hp)).mpr (.inl hnothing)⟩
          · obtain ⟨p, hp, hq⟩ := List.mem_flatMap.mp (List.mem_eraseDups.mp hq)
            exact ⟨p, hp, (reaches_cons_iff (htried p hp)).mpr (.inr ⟨q, hq, hreaches⟩)⟩
      calc foundFrom start before pending (c :: s) = true
        _ ↔ (∃ p ∈ start :: pending, p.matchesNothing ⟨before, some c⟩ = true) ∨
              ((∃ q ∈ ((start :: pending).flatMap (·.steps ⟨before, some c⟩ c)).eraseDups,
                q.Reaches (some c) s) ∨ start.Occurs (some c) s) := by
            rw [foundFrom, Bool.or_eq_true, List.any_eq_true, ih hnext]
        _ ↔ (∃ p ∈ start :: pending, p.Reaches before (c :: s)) ∨ start.Occurs (some c) s := by
            rw [hreaches, or_assoc]
        _ ↔ (∃ p ∈ pending, p.Reaches before (c :: s)) ∨ start.Occurs before (c :: s) := by
            rw [occurs_cons_iff]
            simp only [List.mem_cons, exists_eq_or_imp, or_assoc, or_left_comm]

/-- The matcher finds a stretch exactly if the text has one that is matched. -/
theorem isFoundIn_iff (h : r.Ordered) :
    r.isFoundIn s = true ↔
      ∃ passed u v, s = passed ++ (u ++ v) ∧ r.Spans passed.getLast? u v.head? := by
  rw [isFoundIn, foundFrom_iff h (by simp)]
  constructor
  · rintro (⟨p, hp, -⟩ | ⟨passed, rest, rfl, u, v, rfl, hspans⟩)
    · contradiction
    · rw [Option.or_none] at hspans
      exact ⟨passed, u, v, rfl, hspans⟩
  · rintro ⟨passed, u, v, rfl, hspans⟩
    rw [← Option.or_none (o := passed.getLast?)] at hspans
    exact .inr ⟨passed, u ++ v, rfl, u, v, rfl, hspans⟩

/-! ## Texts that stand for themselves -/

/-- The text itself, and then what `r` matches. -/
def spelling (t : Text) (r : Regex) : Regex :=
  t.foldr (fun c r => .seq (.set (.single c.toNat)) r) r

theorem contains_single_iff {c d : Char} :
    (CharRanges.single c.toNat).contains d = true ↔ d = c := by
  simp only [CharRanges.contains, CharRanges.has, CharRanges.single, List.any_cons, List.any_nil,
    Bool.or_false, Bool.and_eq_true, decide_eq_true_eq]
  constructor
  · rintro ⟨hle, hge⟩
    exact Char.toNat_inj.mp (Nat.le_antisymm hge hle)
  · rintro rfl
    exact ⟨Nat.le_refl _, Nat.le_refl _⟩

/-- A spelled-out text stands first, and the rest is matched behind it. -/
theorem spans_spelling_iff {t : Text} :
    (spelling t r).Spans before s after ↔
      ∃ v, s = t ++ v ∧ r.Spans (t.getLast?.or before) v after := by
  induction t generalizing before s with
  | nil =>
      constructor
      · exact fun h => ⟨s, rfl, h⟩
      · rintro ⟨v, rfl, h⟩
        exact h
  | cons c t ih =>
      constructor
      · rintro ⟨_, v, rfl, ⟨d, rfl, hd⟩, h⟩
        obtain rfl := contains_single_iff.mp hd
        obtain ⟨w, rfl, hw⟩ := ih.mp h
        exact ⟨w, rfl, by rw [getLast?_cons_or]; exact hw⟩
      · rintro ⟨v, rfl, h⟩
        rw [getLast?_cons_or] at h
        exact ⟨[c], t ++ v, rfl, ⟨c, rfl, contains_single_iff.mpr rfl⟩, ih.mpr ⟨v, rfl, h⟩⟩

/-- A repetition of one set matches the texts of its characters. -/
theorem turns_set_iff {ranges : CharRanges} {n : Nat} :
    Turns (Regex.set ranges).Spans n before s after ↔
      s.length = n ∧ ∀ c ∈ s, ranges.contains c = true := by
  induction n generalizing before s with
  | zero =>
    constructor
    · rintro rfl
      exact ⟨rfl, List.forall_mem_nil _⟩
    · exact fun h => List.length_eq_zero_iff.mp h.1
  | succ n ih =>
    constructor
    · rintro ⟨_, v, rfl, ⟨c, rfl, hc⟩, h⟩
      obtain ⟨rfl, hv⟩ := ih.mp h
      exact ⟨rfl, List.forall_mem_cons.mpr ⟨hc, hv⟩⟩
    · rintro ⟨hlength, hall⟩
      obtain ⟨c, v, rfl⟩ := List.exists_cons_of_length_eq_add_one hlength
      obtain ⟨hc, hv⟩ := List.forall_mem_cons.mp hall
      exact ⟨[c], v, rfl, ⟨c, rfl, hc⟩, ih.mpr ⟨Nat.succ.inj hlength, hv⟩⟩

/-- One of the texts. -/
def oneOf (texts : List Text) : Regex :=
  texts.foldr (fun t r => .alt (spelling t .empty) r) (.set [])

theorem spans_oneOf_iff {texts : List Text} : (oneOf texts).Spans before s after ↔ s ∈ texts := by
  induction texts with
  | nil => simp [oneOf, Spans, CharRanges.contains, CharRanges.has]
  | cons t texts ih =>
    have ht : (spelling t .empty).Spans before s after ↔ s = t := by
      rw [spans_spelling_iff]
      simp [Spans]
    rw [List.mem_cons, ← ih, ← ht]
    rfl

end CatchmentLint.Regex
