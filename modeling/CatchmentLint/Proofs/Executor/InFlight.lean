import CatchmentLint.Proofs.Executor.Freshness

/-!
# CatchmentLint.Proofs.Executor.InFlight

One request is in flight at most, and the slot says which.

* `SlotInvariant` — the slot holds the latest generation as long as that is the one of an unfinished
  run, and the runs of all other generations that are unfinished are cancelled;
* `SlotInvariant.step` — every step keeps this, also the late end of a run that was superseded;
* `StartsNoMore`, `startsNoMore_of_cancelled` — after its cancellation no task of a run is started;
* `slot_holds_latest_unfinished` — the slot after every run of the executor.
-/

namespace CatchmentLint.Executor

/-! ## Tickets and generations -/

/-- Runs are told apart by their tickets, and by their generations. -/
structure Distinct (runs : List Run) : Prop where
  eq_of_ticket : ∀ r ∈ runs, ∀ r' ∈ runs, r.ticket = r'.ticket → r = r'
  eq_of_generation : ∀ r ∈ runs, ∀ r' ∈ runs, r.generation = r'.generation → r = r'

theorem Distinct.map {runs : List Run} {f : Run → Run} (h : Distinct runs)
    (hf : ∀ r ∈ runs, (f r).ticket = r.ticket ∧ (f r).generation = r.generation) :
    Distinct (runs.map f) where
  eq_of_ticket := by
    intro _ hmem _ hmem' heq
    obtain ⟨r, hr, rfl⟩ := List.mem_map.mp hmem
    obtain ⟨r', hr', rfl⟩ := List.mem_map.mp hmem'
    rw [(hf r hr).1, (hf r' hr').1] at heq
    rw [h.eq_of_ticket r hr r' hr' heq]
  eq_of_generation := by
    intro _ hmem _ hmem' heq
    obtain ⟨r, hr, rfl⟩ := List.mem_map.mp hmem
    obtain ⟨r', hr', rfl⟩ := List.mem_map.mp hmem'
    rw [(hf r hr).2, (hf r' hr').2] at heq
    rw [h.eq_of_generation r hr r' hr' heq]

theorem Distinct.concat {runs : List Run} {run : Run} (h : Distinct runs)
    (hticket : ∀ r ∈ runs, r.ticket < run.ticket)
    (hgeneration : ∀ r ∈ runs, r.generation < run.generation) : Distinct (runs ++ [run]) where
  eq_of_ticket := by
    intro r hr r' hr' heq
    rw [List.mem_append, List.mem_singleton] at hr hr'
    rcases hr with hr | rfl <;> rcases hr' with hr' | rfl
    · exact h.eq_of_ticket r hr r' hr' heq
    · exact absurd heq (Nat.ne_of_lt (hticket r hr))
    · exact absurd heq.symm (Nat.ne_of_lt (hticket r' hr'))
    · rfl
  eq_of_generation := by
    intro r hr r' hr' heq
    rw [List.mem_append, List.mem_singleton] at hr hr'
    rcases hr with hr | rfl <;> rcases hr' with hr' | rfl
    · exact h.eq_of_generation r hr r' hr' heq
    · exact absurd heq (Nat.ne_of_lt (hgeneration r hr))
    · exact absurd heq.symm (Nat.ne_of_lt (hgeneration r' hr'))
    · rfl

section Replace

variable {runs : List Run} {r moved : Run}

/-- What has the ticket of the moved run after a move is the moved run. -/
theorem eq_of_mem_replaced {r' : Run}
    (hr' : r' ∈ runs.map fun old => if old.ticket = moved.ticket then moved else old)
    (hticket : r'.ticket = moved.ticket) : r' = moved := by
  obtain ⟨old, -, rfl⟩ := List.mem_map.mp hr'
  by_cases heq : old.ticket = moved.ticket
  · rw [if_pos heq]
  · rw [if_neg heq] at hticket
    exact absurd hticket heq

/-- A run after a move is the moved one, or an old one with another generation. -/
theorem Distinct.eq_or_mem_of_mem_replaced (h : Distinct runs) (hr : r ∈ runs)
    (hticket : moved.ticket = r.ticket) {r' : Run}
    (hr' : r' ∈ runs.map fun old => if old.ticket = moved.ticket then moved else old) :
    r' = moved ∨ r' ∈ runs ∧ r'.generation ≠ r.generation := by
  by_cases heq : r'.ticket = moved.ticket
  · exact .inl (eq_of_mem_replaced hr' heq)
  · obtain ⟨old, hold, rfl⟩ := List.mem_map.mp hr'
    by_cases hold' : old.ticket = moved.ticket
    · rw [if_pos hold'] at heq
      exact absurd rfl heq
    · rw [if_neg hold']
      refine .inr ⟨hold, fun hsame => hold' ?_⟩
      rw [h.eq_of_generation old hold r hr hsame, hticket]

theorem Distinct.replaced (h : Distinct runs) (hr : r ∈ runs) (hticket : moved.ticket = r.ticket)
    (hgeneration : moved.generation = r.generation) :
    Distinct (runs.map fun old => if old.ticket = moved.ticket then moved else old) := by
  refine h.map fun old hold => ?_
  split
  · next heq =>
      rw [h.eq_of_ticket old hold r hr (heq.trans hticket)]
      exact ⟨hticket, hgeneration⟩
  · exact ⟨rfl, rfl⟩

end Replace

/-! ## The slot -/

/-- What the slot and the cancellations say of the runs that are unfinished. -/
structure SlotInvariant (s : State) : Prop where
  distinct : Distinct s.runs
  /-- What the slot holds is the latest generation, whose run is unfinished. -/
  holder : ∀ generation, s.slot = some generation →
    generation = s.latest ∧ ∃ r ∈ s.runs, r.generation = generation ∧ r.isUnfinished = true
  /-- The run of the latest generation has the slot and goes on. -/
  latest : ∀ r ∈ s.runs, r.isUnfinished = true → r.generation = s.latest →
    s.slot = some r.generation ∧ r.cancelled = false
  others : ∀ r ∈ s.runs, r.isUnfinished = true → r.generation ≠ s.latest → r.cancelled = true

theorem slotInvariant_start : SlotInvariant .start where
  distinct := ⟨by simp [State.start], by simp [State.start]⟩
  holder := by simp [State.start]
  latest := by simp [State.start]
  others := by simp [State.start]

section SlotInvariant

variable {workers : Nat} {labels : List Label} {label : Label} {s s' : State}

theorem cancelSlot_distinct (h : Distinct s.runs) : Distinct s.cancelSlot.runs := by
  refine h.map fun r _ => ?_
  split <;> exact ⟨rfl, rfl⟩

/-- Once the run in the slot is cancelled, all unfinished ones are. -/
theorem SlotInvariant.cancelSlot (h : SlotInvariant s) :
    ∀ r ∈ s.cancelSlot.runs, r.isUnfinished = true → r.cancelled = true := by
  intro r hr hunfinished
  obtain ⟨old, hold, rfl⟩ := List.mem_map.mp hr
  by_cases hslot : s.slot = some old.generation
  · rw [if_pos hslot]
  · rw [if_neg hslot] at hunfinished ⊢
    exact h.others old hold hunfinished fun hlatest =>
      hslot (h.latest old hold hunfinished hlatest).1

/-- A cancellation leaves the slot empty, and no run with the generation that it takes. -/
theorem SlotInvariant.cancel (h : SlotInvariant s) (htraced : Traced labels s) :
    SlotInvariant s.cancel where
  distinct := cancelSlot_distinct h.distinct
  holder := nofun
  latest := by
    intro r hr _ hlatest
    obtain ⟨old, hold, -, hgeneration⟩ := cancelSlot_origins r hr
    have hle := (htraced.runs_dated old hold).le_latest
    rw [hgeneration] at hlatest
    simp only [State.cancel] at hlatest
    omega
  others := fun r hr hunfinished _ => h.cancelSlot r hr hunfinished

theorem SlotInvariant.accept (h : SlotInvariant s) (htraced : Traced labels s) (debounced : Bool) :
    SlotInvariant (s.accept debounced) := by
  have hle : ∀ r ∈ s.cancelSlot.runs, r.ticket < s.tickets ∧ r.generation ≤ s.latest := by
    intro r hr
    obtain ⟨old, hold, hticket, hgeneration⟩ := cancelSlot_origins r hr
    rw [hticket, hgeneration]
    exact ⟨(htraced.runs_dated old hold).ticket_lt, (htraced.runs_dated old hold).le_latest⟩
  constructor
  case distinct =>
    exact (cancelSlot_distinct h.distinct).concat (fun r hr => (hle r hr).1)
      fun r hr => Nat.lt_succ_of_le (hle r hr).2
  case holder =>
    intro generation hslot
    cases hslot
    refine ⟨rfl, _, List.mem_append_right _ (List.mem_singleton_self _), rfl, ?_⟩
    cases debounced <;> rfl
  case latest =>
    intro r hr _ hlatest
    cases List.mem_append.mp hr with
    | inl hold =>
        have := (hle r hold).2
        simp only [State.accept] at hlatest
        omega
    | inr hnew =>
        rw [List.mem_singleton.mp hnew]
        exact ⟨rfl, rfl⟩
  case others =>
    intro r hr hunfinished hlatest
    cases List.mem_append.mp hr with
    | inl hold => exact h.cancelSlot r hold hunfinished
    | inr hnew =>
        rw [List.mem_singleton.mp hnew] at hlatest
        exact absurd rfl hlatest

/-- The run in the slot is neither cancelled nor dropped, so that only giving up the slot ends it. -/
theorem SlotInvariant.isUnfinished_of_held (h : SlotInvariant s) (htraced : Traced labels s)
    {r moved : Run} {free : Bool} {m : Move} (hr : r ∈ s.runs) (hheld : s.slot = some r.generation)
    (hmoved : r.move? s.down free m = some moved) (hm : m ≠ .release) : moved.isUnfinished = true := by
  obtain ⟨hlatest, holder, hholder, hsame, hunfinished⟩ := h.holder _ hheld
  rw [h.distinct.eq_of_generation holder hholder r hr hsame] at hunfinished
  rcases Run.move?_unfinished hmoved with ⟨hkept, -⟩ | ⟨-, hrelease | hcancelled | hdown⟩
  · rw [hkept, hunfinished]
  · exact absurd hrelease hm
  · rw [(h.latest r hr hunfinished hlatest).2] at hcancelled
    contradiction
  · exact absurd hlatest ((htraced.runs_dated r hr).ne_latest_of_down hdown)

/-- A move of a run that is not in the slot leaves the slot, and one that ends the run in the slot
empties it. -/
theorem SlotInvariant.move (h : SlotInvariant s) (htraced : Traced labels s) {ticket : Nat} {m : Move}
    (hstep : s.move? workers ticket m = some s') : SlotInvariant s' := by
  obtain ⟨r, hr, -, moved, hmoved, rfl⟩ := State.move?_eq_some hstep
  obtain ⟨hticket, hgeneration, hcancelled⟩ := Run.move?_kept hmoved
  -- The slot stays as it is, or the move takes this run out of it.
  have hslot := s.slotAfter_cases r m
  constructor
  case distinct => exact h.distinct.replaced hr hticket hgeneration
  case holder =>
    intro generation hholds
    rcases hslot with ⟨hsame, hgives⟩ | ⟨-, -, hnone⟩
    · have hheld : s.slot = some generation := hsame ▸ hholds
      obtain ⟨hlatest, holder, hholder, rfl, hunfinished⟩ := h.holder generation hheld
      refine ⟨hlatest, _, List.mem_map_of_mem hholder, ?_⟩
      by_cases heq : holder.ticket = moved.ticket
      · obtain rfl := h.distinct.eq_of_ticket holder hholder r hr (heq.trans hticket)
        rw [if_pos heq]
        exact ⟨hgeneration,
          h.isUnfinished_of_held htraced hr hheld hmoved fun hm => hgives hm hheld⟩
      · rw [if_neg heq]
        exact ⟨rfl, hunfinished⟩
    · rw [show _ = none from hnone] at hholds
      contradiction
  case latest =>
    intro r' hr' hunfinished hlatest
    rcases h.distinct.eq_or_mem_of_mem_replaced hr hticket hr' with rfl | ⟨hold, hother⟩
    · obtain ⟨hbefore, hrelease⟩ := Run.isUnfinished_of_move? hmoved hunfinished
      rw [hgeneration] at hlatest ⊢
      rw [hcancelled]
      obtain ⟨hheld, hgoesOn⟩ := h.latest r hr hbefore hlatest
      rcases hslot with ⟨hsame, -⟩ | ⟨hreleased, -⟩
      · exact ⟨hsame.trans hheld, hgoesOn⟩
      · exact absurd hreleased hrelease
    · obtain ⟨hheld, hgoesOn⟩ := h.latest r' hold hunfinished hlatest
      rcases hslot with ⟨hsame, -⟩ | ⟨-, hgivenUp, -⟩
      · exact ⟨hsame.trans hheld, hgoesOn⟩
      · exact absurd (Option.some.inj (hheld.symm.trans hgivenUp)) hother
  case others =>
    intro r' hr' hunfinished hlatest
    rcases h.distinct.eq_or_mem_of_mem_replaced hr hticket hr' with rfl | ⟨hold, -⟩
    · obtain ⟨hbefore, -⟩ := Run.isUnfinished_of_move? hmoved hunfinished
      rw [hgeneration] at hlatest
      rw [hcancelled]
      exact h.others r hr hbefore hlatest
    · exact h.others r' hold hunfinished hlatest

/-- Every step keeps what the slot and the cancellations say. -/
theorem SlotInvariant.step (h : SlotInvariant s) (htraced : Traced labels s)
    (hstep : step? workers s label = some s') : SlotInvariant s' := by
  cases steps_of_step? hstep with
  | accept => exact h.accept htraced _
  | cancel => exact h.cancel htraced
  | shutdown =>
      have hcancel := h.cancel htraced
      exact ⟨hcancel.distinct, hcancel.holder, hcancel.latest, hcancel.others⟩
  | stayDown => exact h
  | refuse | dispatch => exact ⟨h.distinct, h.holder, h.latest, h.others⟩
  | move => exact h.move htraced hstep

end SlotInvariant

/-! ## Cancelled runs -/

/-- However the executor goes on, a task that the run has not started by now is never started. -/
def StartsNoMore (workers : Nat) (s : State) (r : Run) : Prop :=
  ∀ later s', execute? workers s later = some s' → ∀ r' ∈ s'.runs, r'.ticket = r.ticket →
    r'.task.hasStarted = true → r.task.hasStarted = true

/-- The run with the ticket of `r` is cancelled, and has no task started that `r` has not. -/
structure HeldBack (r : Run) (s : State) : Prop where
  ticket_lt : r.ticket < s.tickets
  held : ∀ r' ∈ s.runs, r'.ticket = r.ticket → r'.cancelled = true ∧
    (r'.task.hasStarted = true → r.task.hasStarted = true)

section HeldBack

variable {workers : Nat} {label : Label} {s s' : State} {r : Run}

/-- A run that is cancelled stays so, and no step starts its task. -/
theorem HeldBack.step (h : HeldBack r s) (hstep : step? workers s label = some s') :
    HeldBack r s' where
  ticket_lt := Nat.lt_of_lt_of_le h.ticket_lt (tickets_le_of_step? hstep)
  held := by
    intro r' hr' hticket
    cases origin_of_step? hstep r' hr' with
    | kept hold => exact h.held r' hold hticket
    | cancelled hold _ heq =>
        subst heq
        exact ⟨rfl, (h.held _ hold hticket).2⟩
    | moved hold hmoved =>
        obtain ⟨hkept, -, hcancelled⟩ := Run.move?_kept hmoved
        obtain ⟨holdCancelled, hstarted⟩ := h.held _ hold (hkept ▸ hticket)
        refine ⟨hcancelled.trans holdCancelled, fun hnow => ?_⟩
        exact hstarted (Run.move?_hasStarted hmoved holdCancelled hnow)
    | accepted hnew _ =>
        rw [hnew] at hticket
        exact absurd hticket.symm (Nat.ne_of_lt h.ticket_lt)

theorem HeldBack.startsNoMore (h : HeldBack r s) : StartsNoMore workers s r := by
  intro later s' hlater r' hr' hticket
  have hlast := execute?_keeps (fun _ _ _ h hstep => HeldBack.step h hstep) h hlater
  exact (hlast.held r' hr' hticket).2

end HeldBack

/-! ## After every run of the executor -/

section

variable {workers : Nat} {labels : List Label} {s : State}

theorem slotInvariant_of_execute? (h : execute? workers .start labels = some s) :
    SlotInvariant s :=
  (execute?_induction (P := fun labels s => Traced labels s ∧ SlotInvariant s)
    ⟨traced_start, slotInvariant_start⟩
    (fun _ _ _ _ h hstep => ⟨h.1.step hstep, h.2.step h.1 hstep⟩) h).2

/-- From its cancellation on, the task of a run does not start. -/
theorem startsNoMore_of_cancelled (h : execute? workers .start labels = some s) {r : Run}
    (hr : r ∈ s.runs) (hcancelled : r.cancelled = true) : StartsNoMore workers s r := by
  have hself : ∀ r' ∈ s.runs, r'.ticket = r.ticket → r' = r := fun r' hr' =>
    (slotInvariant_of_execute? h).distinct.eq_of_ticket r' hr' r hr
  refine HeldBack.startsNoMore ⟨((traced_of_execute? h).runs_dated r hr).ticket_lt, ?_⟩
  intro r' hr' hticket
  rw [hself r' hr' hticket]
  exact ⟨hcancelled, id⟩

/-- A current request is the last one. -/
theorem ticket_eq_of_isCurrent (htraced : Traced labels s) {ticket : Nat}
    (hcurrent : IsCurrent labels ticket) : ticket + 1 = s.tickets := by
  obtain ⟨before, debounced, after, rfl, rfl, hafter⟩ := hcurrent
  have hnone : after.countP Label.isSubmit = 0 := by
    rw [List.countP_eq_zero]
    intro label hlabel
    have := hafter label hlabel
    cases label with
    | submit _ => simp [Label.supersedes] at this
    | _ => simp [Label.isSubmit]
  rw [htraced.tickets_eq, List.countP_append, List.countP_cons, hnone]
  rfl

/-- The slot holds the latest generation just as long as that is the one of an unfinished run, which
is not cancelled; all other unfinished runs are, and start nothing more.  A run that gives up the
slot after it was superseded leaves it, and there is something in flight just as long as the last
request is unfinished and not cancelled. -/
theorem slot_holds_latest_unfinished (h : execute? workers .start labels = some s) :
    (∀ generation, s.slot = some generation ↔ generation = s.latest ∧
      ∃ r ∈ s.runs, r.generation = generation ∧ r.isUnfinished = true) ∧
    (∀ r ∈ s.runs, s.slot = some r.generation → r.cancelled = false) ∧
    (∀ r ∈ s.runs, r.isUnfinished = true → r.generation ≠ s.latest →
      r.cancelled = true ∧ StartsNoMore workers s r) ∧
    (∀ r ∈ s.runs, r.generation ≠ s.latest →
      ∀ s', step? workers s (.move r.ticket .release) = some s' → s'.slot = s.slot) ∧
    (s.isRunning = true ↔
      ∃ r ∈ s.runs, r.ticket + 1 = s.tickets ∧ r.isUnfinished = true ∧ r.cancelled = false) := by
  have hslot := slotInvariant_of_execute? h
  have htraced := traced_of_execute? h
  have hholds : ∀ generation, s.slot = some generation ↔ generation = s.latest ∧
      ∃ r ∈ s.runs, r.generation = generation ∧ r.isUnfinished = true := by
    intro generation
    refine ⟨hslot.holder generation, ?_⟩
    rintro ⟨hlatest, r, hr, rfl, hunfinished⟩
    exact (hslot.latest r hr hunfinished hlatest).1
  have hgoesOn : ∀ r ∈ s.runs, s.slot = some r.generation → r.cancelled = false := by
    intro r hr hheld
    obtain ⟨hlatest, r', hr', hsame, hunfinished⟩ := hslot.holder _ hheld
    rw [hslot.distinct.eq_of_generation r' hr' r hr hsame] at hunfinished
    exact (hslot.latest r hr hunfinished hlatest).2
  refine ⟨hholds, hgoesOn, ?_, ?_, ?_⟩
  · intro r hr hunfinished hlatest
    have hcancelled := hslot.others r hr hunfinished hlatest
    exact ⟨hcancelled, startsNoMore_of_cancelled h hr hcancelled⟩
  · intro r hr hlatest s' hstep
    obtain ⟨mover, hmover, hticket, moved, -, rfl⟩ := State.move?_eq_some hstep
    obtain rfl := hslot.distinct.eq_of_ticket mover hmover r hr hticket
    exact if_neg fun hheld => hlatest (hslot.holder _ hheld).1
  -- The latest generation is that of the last request just as long as nothing cancels it.
  · rw [State.isRunning, Option.isSome_iff_exists]
    constructor
    · rintro ⟨generation, hheld⟩
      obtain ⟨hlatest, r, hr, rfl, hunfinished⟩ := hslot.holder _ hheld
      have hcurrent := (htraced.runs_dated r hr).eq_latest_iff.mp hlatest
      exact ⟨r, hr, ticket_eq_of_isCurrent htraced hcurrent, hunfinished, hgoesOn r hr hheld⟩
    · rintro ⟨r, hr, -, hunfinished, hcancelled⟩
      have hlatest : r.generation = s.latest := Decidable.by_contra fun hlatest => by
        rw [hslot.others r hr hunfinished hlatest] at hcancelled
        contradiction
      exact ⟨r.generation, (hholds _).mpr ⟨hlatest, r, hr, rfl, hunfinished⟩⟩

end

/-- A second request while the first one runs, which then gives up the slot that is not its own. -/
def overtaken : List Label :=
  [.submit false, .move 0 .begin, .move 0 .startTask, .submit false,
    .move 0 (.endTask (.completed [])), .move 0 .observeTask, .move 0 .release]

theorem overtaken_holds_second :
    ∃ s, execute? 1 .start overtaken = some s ∧ s.slot = some 2 ∧ s.isRunning = true := by
  have hrun : execute? 1 .start overtaken = some ⟨2, 2, some 2,
      [⟨0, 1, true, .released (.completed []), .ended (.completed [])⟩,
        ⟨1, 2, false, .ready, .absent⟩], [], [], false⟩ := by decide
  obtain ⟨hholds, -, -, -, hrunning⟩ := slot_holds_latest_unfinished hrun
  refine ⟨_, hrun, (hholds 2).mpr ⟨rfl, ?_⟩, hrunning.mpr ?_⟩
  · exact ⟨_, List.mem_cons_of_mem _ List.mem_cons_self, rfl, rfl⟩
  · exact ⟨_, List.mem_cons_of_mem _ List.mem_cons_self, rfl, rfl, rfl⟩

end CatchmentLint.Executor
