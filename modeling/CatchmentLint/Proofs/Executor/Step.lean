import CatchmentLint.Executor.State

/-!
# CatchmentLint.Proofs.Executor.Step

What one step of the executor does, and how that carries over to runs of it:

* `Run.Moves`, `Run.moves_of_move?` — everything that a move can do to its run;
* `Run.move?_kept` — a move keeps the ticket and the generation of its run, and does not cancel it;
* `Run.move?_unfinished`, `Run.move?_hasStarted` — how a run comes to be finished, and that a move
  starts no task of a cancelled one;
* `State.move?_eq_some` — a move changes one run, and the slot or the queue beside it;
* `Steps`, `steps_of_step?` — everything that a step can do to the state;
* `origin_of_step?`, `queue_of_step?` — where the runs and the deliveries after a step come from;
* `execute?_keeps` — what every step keeps is kept by runs of the executor;
* `execute?_induction`, `execute?_induction_from`, `execute?_induction_after`,
  `execute?_induction_reached` — what holds at first and is kept by each step, given the labels so far,
  holds after every run.
-/

namespace CatchmentLint.Executor

/-! ## Moves -/

/-- What a move needs of its run, and what it makes of it. -/
inductive Run.Moves (down free : Bool) (r : Run) : Move → Run → Prop where
  | expire (hphase : r.phase = .waiting) : Moves down free r .expire { r with phase := .ready }
  | abandon (hphase : r.phase = .waiting) (hcancelled : r.cancelled = true) :
      Moves down free r .abandon { r with phase := .abandoned }
  | giveUp (hphase : r.phase = .ready) (hcancelled : r.cancelled = true) :
      Moves down free r .begin { r with phase := .decided .cancelled }
  | begin (hphase : r.phase = .ready) (hcancelled : r.cancelled = false) :
      Moves down free r .begin { r with phase := .racing, task := .queued }
  | startTask (htask : r.task = .queued) (hfree : free = true) :
      Moves down free r .startTask { r with task := if r.cancelled then .skipped else .running }
  | endTask {result : TaskResult} (htask : r.task = .running) :
      Moves down free r (.endTask result) { r with task := .ended result }
  | observeTask {o : Outcome} (hphase : r.phase = .racing) (htask : r.task.outcome? = some o) :
      Moves down free r .observeTask { r with phase := .decided o }
  | observeCancellation (hphase : r.phase = .racing) (hcancelled : r.cancelled = true) :
      Moves down free r .observeCancellation { r with phase := .decided .cancelled }
  | timeOut (hphase : r.phase = .racing) (htask : r.task.outcome? = none) :
      Moves down free r .timeOut { r with phase := .decided .cancelled }
  | release {o : Outcome} (hphase : r.phase = .decided o) :
      Moves down free r .release { r with phase := .released o }
  | deliver {o : Outcome} (hphase : r.phase = .released o) :
      Moves down free r .deliver { r with phase := .delivered }
  | drop (hdown : down = true) (hundecided : r.isUndecided = true) :
      Moves down free r .drop { r with phase := .dropped }
  | discardTask (hdown : down = true) (htask : r.task = .queued) :
      Moves down free r .discardTask { r with task := .discarded }

/-- What decides a run needs it to be racing, and changes its phase only. -/
theorem Run.decide?_eq_some {r moved : Run} {outcome : Option Outcome}
    (h : r.decide? outcome = some moved) :
    r.phase = .racing ∧ ∃ o, outcome = some o ∧ moved = { r with phase := .decided o } := by
  unfold Run.decide? at h
  split at h
  · next hphase =>
      obtain ⟨o, ho, rfl⟩ := Option.map_eq_some_iff.mp h
      exact ⟨hphase, o, ho, rfl⟩
  · contradiction

theorem Run.moves_of_move? {r moved : Run} {down free : Bool} {m : Move}
    (h : r.move? down free m = some moved) : r.Moves down free m moved := by
  -- Moves whose guards have one form are taken together.
  cases m with
  | observeTask =>
      obtain ⟨hphase, o, ho, rfl⟩ := Run.decide?_eq_some h
      exact .observeTask hphase ho
  | observeCancellation =>
      obtain ⟨hphase, o, ho, rfl⟩ := Run.decide?_eq_some h
      split at ho
      · next hcancelled =>
          cases ho
          exact .observeCancellation hphase hcancelled
      · contradiction
  | timeOut =>
      obtain ⟨hphase, o, ho, rfl⟩ := Run.decide?_eq_some h
      split at ho
      · next htask =>
          cases ho
          exact .timeOut hphase (Option.isNone_iff_eq_none.mp htask)
      · contradiction
  | begin =>
      simp only [Run.move?] at h
      split at h
      · next hphase =>
          cases h
          cases hcancelled : r.cancelled with
          | true => simpa [Run.begin, hcancelled] using Run.Moves.giveUp hphase hcancelled
          | false => simpa [Run.begin, hcancelled] using Run.Moves.begin hphase hcancelled
      · contradiction
  | release | deliver =>
      simp only [Run.move?] at h
      split at h
      · next o hphase =>
          cases h
          constructor
          exact hphase
      · contradiction
  | expire | endTask =>
      simp only [Run.move?] at h
      split at h
      · next hneeds =>
          cases h
          constructor
          exact hneeds
      · contradiction
  | abandon | startTask | drop | discardTask =>
      simp only [Run.move?] at h
      split at h
      · next hneeds =>
          cases h
          constructor
          · exact hneeds.1
          · exact hneeds.2
      · contradiction

theorem Run.Moves.move?_eq_some {r moved : Run} {down free : Bool} {m : Move}
    (h : r.Moves down free m moved) : r.move? down free m = some moved := by
  cases h <;> simp_all [Run.move?, Run.begin, Run.decide?]

/-- No move gives its run another ticket or generation, or cancels it. -/
theorem Run.move?_kept {r moved : Run} {down free : Bool} {m : Move}
    (h : r.move? down free m = some moved) :
    moved.ticket = r.ticket ∧ moved.generation = r.generation ∧ moved.cancelled = r.cancelled := by
  cases Run.moves_of_move? h <;> exact ⟨rfl, rfl, rfl⟩

/-- A run is finished by giving up the slot, by being given up after its cancellation, or by being
dropped while the executor is down; every other move leaves it as it is in this. -/
theorem Run.move?_unfinished {r moved : Run} {down free : Bool} {m : Move}
    (h : r.move? down free m = some moved) :
    moved.isUnfinished = r.isUnfinished ∧ m ≠ .release ∨
      moved.isUnfinished = false ∧ (m = .release ∨ r.cancelled = true ∨ down = true) := by
  cases Run.moves_of_move? h with
  | release => exact .inr ⟨rfl, .inl rfl⟩
  | abandon _ hcancelled => exact .inr ⟨rfl, .inr (.inl hcancelled)⟩
  | drop hdown => exact .inr ⟨rfl, .inr (.inr hdown)⟩
  | startTask | endTask | discardTask => exact .inl ⟨rfl, nofun⟩
  | expire hphase | giveUp hphase | begin hphase | observeTask hphase | observeCancellation hphase
  | timeOut hphase | deliver hphase =>
      refine .inl ⟨?_, nofun⟩
      rw [Run.isUnfinished, Run.isUnfinished, hphase]

/-- A run that is unfinished after a move was so before, and the move was another one than giving up
the slot. -/
theorem Run.isUnfinished_of_move? {r moved : Run} {down free : Bool} {m : Move}
    (h : r.move? down free m = some moved) (hunfinished : moved.isUnfinished = true) :
    r.isUnfinished = true ∧ m ≠ .release := by
  rcases Run.move?_unfinished h with ⟨hkept, hm⟩ | ⟨hfinished, -⟩
  · exact ⟨hkept ▸ hunfinished, hm⟩
  · rw [hfinished] at hunfinished
    contradiction

/-- A task of a cancelled run is not started by any move. -/
theorem Run.move?_hasStarted {r moved : Run} {down free : Bool} {m : Move}
    (h : r.move? down free m = some moved) (hcancelled : r.cancelled = true)
    (hstarted : moved.task.hasStarted = true) : r.task.hasStarted = true := by
  cases Run.moves_of_move? h with
  | begin | discardTask => contradiction
  | startTask => simp [hcancelled, Task.hasStarted] at hstarted
  | endTask htask => rw [htask]; rfl
  | _ => exact hstarted

/-- What a move puts into the queue. -/
def Run.sent (r : Run) : Move → List Delivery
  | .deliver =>
    match r.phase with
    | .released outcome => [⟨r.ticket, r.generation, outcome⟩]
    | _ => []
  | _ => []

/-- Only its delivery makes a run a delivered one, and nothing else is sent. -/
theorem Run.move?_delivered {r moved : Run} {down free : Bool} {m : Move}
    (h : r.move? down free m = some moved) :
    (moved.phase = .delivered ↔ r.phase = .delivered) ∧ r.sent m = [] ∨
      moved.phase = .delivered ∧ r.phase ≠ .delivered ∧
        ∃ o, r.phase = .released o ∧ r.sent m = [⟨r.ticket, r.generation, o⟩] := by
  cases Run.moves_of_move? h with
  | @deliver o hphase => exact .inr ⟨rfl, by simp [hphase], o, hphase, by simp only [Run.sent, hphase]⟩
  | drop _ hundecided =>
      refine .inl ⟨iff_of_false (by simp) fun hdelivered => ?_, rfl⟩
      simp [Run.isUndecided, hdelivered] at hundecided
  | startTask | endTask | discardTask => exact .inl ⟨Iff.rfl, rfl⟩
  | expire hphase | abandon hphase | giveUp hphase | begin hphase | observeTask hphase
  | observeCancellation hphase | timeOut hphase | release hphase =>
      exact .inl ⟨by simp [hphase], rfl⟩

namespace State

/-- The slot after a move of the run, which only gives up what it holds itself. -/
def slotAfter (s : State) (r : Run) : Move → Option Nat
  | .release => if s.slot = some r.generation then none else s.slot
  | _ => s.slot

theorem slotAfter_cases (s : State) (r : Run) (m : Move) :
    s.slotAfter r m = s.slot ∧ (m = .release → s.slot ≠ some r.generation) ∨
      m = .release ∧ s.slot = some r.generation ∧ s.slotAfter r m = none := by
  cases m with
  | release =>
      by_cases hholds : s.slot = some r.generation
      · exact .inr ⟨rfl, hholds, if_pos hholds⟩
      · exact .inl ⟨if_neg hholds, fun _ => hholds⟩
  | _ => exact .inl ⟨rfl, nofun⟩

/-- A move gives up the slot or adds to the queue, and changes nothing else beside its run. -/
theorem effect_eq (s : State) (r : Run) (m : Move) :
    s.effect r m = { s with slot := s.slotAfter r m, queue := s.queue ++ r.sent m } := by
  have hnone : s = { s with slot := s.slot, queue := s.queue ++ [] } := by rw [List.append_nil]
  cases m with
  | release =>
      by_cases hslot : s.slot = some r.generation
      · simp [effect, releaseSlot, slotAfter, hslot, Run.sent]
      · simp [effect, releaseSlot, slotAfter, hslot, Run.sent]
  | deliver =>
      simp only [effect, enqueue, Run.sent]
      cases r.phase with
      | released outcome => rfl
      | _ => exact hnone
  | _ => exact hnone

/-- A move is one of a run of the state, which it puts in the place of what has its ticket. -/
theorem move?_eq_some {workers ticket : Nat} {m : Move} {s s' : State}
    (h : s.move? workers ticket m = some s') :
    ∃ r ∈ s.runs, r.ticket = ticket ∧ ∃ moved, r.move? s.down (s.busy < workers) m = some moved ∧
      s' = { s with
        slot := s.slotAfter r m
        runs := s.runs.map fun old => if old.ticket = moved.ticket then moved else old
        queue := s.queue ++ r.sent m } := by
  obtain ⟨r, hr, h⟩ := Option.bind_eq_some_iff.mp h
  obtain ⟨moved, hmoved, rfl⟩ := Option.map_eq_some_iff.mp h
  refine ⟨r, List.mem_of_find?_eq_some hr, by simpa using List.find?_some hr, moved, hmoved, ?_⟩
  rw [s.effect_eq r m]
  rfl

theorem dispatch?_eq_some {s s' : State} (h : s.dispatch? = some s') :
    ∃ d queue, s.queue = d :: queue ∧
      s' = { s with queue := queue, calls := s.calls ++ [d.call s.latest] } := by
  unfold dispatch? at h
  split at h
  · contradiction
  · next d queue hqueue => exact ⟨d, queue, hqueue, (Option.some.inj h).symm⟩

end State

/-! ## Steps -/

/-- What a step needs of the state, and what it makes of it. -/
inductive Steps (workers : Nat) (s : State) : Label → State → Prop where
  | accept {debounced : Bool} (hup : s.down = false) :
      Steps workers s (.submit debounced) (s.accept debounced)
  | refuse {debounced : Bool} (hdown : s.down = true) : Steps workers s (.submit debounced) s.refuse
  | cancel : Steps workers s .cancel s.cancel
  | shutdown (hup : s.down = false) : Steps workers s .shutdown { s.cancel with down := true }
  /-- The executor was down before. -/
  | stayDown (hdown : s.down = true) : Steps workers s .shutdown s
  | dispatch {d : Delivery} {queue : List Delivery} (hqueue : s.queue = d :: queue) :
      Steps workers s .dispatch { s with queue := queue, calls := s.calls ++ [d.call s.latest] }
  | move {r moved : Run} {m : Move} (hr : r ∈ s.runs)
      (hmoved : r.move? s.down (s.busy < workers) m = some moved) :
      Steps workers s (.move r.ticket m)
        { s with
          slot := s.slotAfter r m
          runs := s.runs.map fun old => if old.ticket = moved.ticket then moved else old
          queue := s.queue ++ r.sent m }

theorem steps_of_step? {workers : Nat} {label : Label} {s s' : State}
    (h : step? workers s label = some s') : Steps workers s label s' := by
  cases label with
  | submit debounced =>
      rw [← Option.some.inj h, State.submit]
      split
      · next hdown => exact .refuse hdown
      · next hup => exact .accept (Bool.eq_false_iff.mpr hup)
  | cancel =>
      rw [← Option.some.inj h]
      exact .cancel
  | shutdown =>
      rw [← Option.some.inj h, State.shutdown]
      split
      · next hdown => exact .stayDown hdown
      · next hup => exact .shutdown (Bool.eq_false_iff.mpr hup)
  | dispatch =>
      obtain ⟨d, queue, hqueue, rfl⟩ := State.dispatch?_eq_some h
      exact .dispatch hqueue
  | move ticket m =>
      obtain ⟨r, hr, rfl, moved, hmoved, rfl⟩ := State.move?_eq_some h
      exact .move hr hmoved

/-- Where a run comes from that there is after a step. -/
inductive Origin (s : State) (r : Run) : Prop where
  | kept (h : r ∈ s.runs)
  | cancelled {old : Run} (hold : old ∈ s.runs) (hslot : s.slot = some old.generation)
    (h : r = { old with cancelled := true })
  | moved {old : Run} {m : Move} {free : Bool} (hold : old ∈ s.runs)
    (h : old.move? s.down free m = some r)
  | accepted (hticket : r.ticket = s.tickets) (htask : r.task = .absent)
      (hphase : r.phase = .waiting ∨ r.phase = .ready) (hgeneration : r.generation = s.latest + 1)

section Origin

variable {workers : Nat} {label : Label} {s s' : State}

theorem origin_of_cancelSlot : ∀ r ∈ s.cancelSlot.runs, Origin s r := by
  intro r hr
  obtain ⟨old, hold, rfl⟩ := List.mem_map.mp hr
  by_cases hslot : s.slot = some old.generation
  · rw [if_pos hslot]
    exact .cancelled hold hslot rfl
  · rw [if_neg hslot]
    exact .kept hold

/-- In one step the run in the slot is cancelled, one run moves or one is accepted. -/
theorem origin_of_step? (h : step? workers s label = some s') : ∀ r ∈ s'.runs, Origin s r := by
  intro r hr
  cases steps_of_step? h with
  | @accept debounced =>
      cases List.mem_append.mp hr with
      | inl hold => exact origin_of_cancelSlot r hold
      | inr hnew =>
          rw [List.mem_singleton.mp hnew]
          refine .accepted rfl rfl ?_ rfl
          cases debounced with
          | false => exact .inr rfl
          | true => exact .inl rfl
  | cancel | shutdown => exact origin_of_cancelSlot r hr
  | refuse | stayDown | dispatch => exact .kept hr
  | move hmover hmoved =>
      obtain ⟨old, hold, rfl⟩ := List.mem_map.mp hr
      split
      · exact .moved hmover hmoved
      · exact .kept hold

theorem tickets_le_of_step? (h : step? workers s label = some s') : s.tickets ≤ s'.tickets := by
  cases steps_of_step? h with
  | accept | refuse => exact Nat.le_succ _
  | _ => exact Nat.le_refl _

theorem latest_le_of_step? (h : step? workers s label = some s') : s.latest ≤ s'.latest := by
  cases steps_of_step? h with
  | accept | cancel | shutdown => exact Nat.le_succ _
  | _ => exact Nat.le_refl _

/-- What a step puts into the queue is the delivery of a run or the refusal of a request. -/
theorem queue_of_step? (hstep : step? workers s label = some s') {d : Delivery}
    (hd : d ∈ s'.queue) :
    d ∈ s.queue ∨ (∃ r ∈ s.runs, ∃ o, r.phase = .released o ∧ label = .move r.ticket .deliver ∧
      d = ⟨r.ticket, r.generation, o⟩) ∨
        d = ⟨s.tickets, 0, .cancelled⟩ ∧ s' = s.refuse := by
  cases steps_of_step? hstep with
  | refuse =>
      rcases List.mem_append.mp hd with hold | hnew
      · exact .inl hold
      · exact .inr (.inr ⟨List.mem_singleton.mp hnew, rfl⟩)
  | dispatch hqueue => exact .inl (by rw [hqueue]; exact List.mem_cons_of_mem _ hd)
  | @move r moved m hr hmoved =>
      rcases List.mem_append.mp hd with hold | hnew
      · exact .inl hold
      · cases Run.moves_of_move? hmoved with
        | @deliver o hphase =>
            rw [Run.sent, hphase] at hnew
            exact .inr (.inl ⟨r, hr, o, hphase, rfl, List.mem_singleton.mp hnew⟩)
        | _ => contradiction
  | accept | cancel | shutdown | stayDown => exact .inl hd

end Origin

/-! ## Runs of the executor -/

theorem execute?_cons (workers : Nat) (label : Label) (labels : List Label) (s : State) :
    execute? workers s (label :: labels) =
      (step? workers s label).bind (execute? workers · labels) := rfl

theorem execute?_cons_eq_some {workers : Nat} {label : Label} {labels : List Label} {s s' : State} :
    execute? workers s (label :: labels) = some s' ↔
      ∃ next, step? workers s label = some next ∧ execute? workers next labels = some s' :=
  Option.bind_eq_some_iff

theorem execute?_append_eq_some {workers : Nat} {before after : List Label} {s s' : State} :
    execute? workers s (before ++ after) = some s' ↔
      ∃ next, execute? workers s before = some next ∧ execute? workers next after = some s' := by
  rw [execute?, List.foldlM_append]
  exact Option.bind_eq_some_iff

theorem execute?_concat {workers : Nat} {labels : List Label} {label : Label} {s next s' : State}
    (h : execute? workers s labels = some next) (hstep : step? workers next label = some s') :
    execute? workers s (labels ++ [label]) = some s' :=
  execute?_append_eq_some.mpr ⟨next, h, execute?_cons_eq_some.mpr ⟨s', hstep, rfl⟩⟩

/-- What is kept by every step is kept by all steps together. -/
theorem execute?_keeps {workers : Nat} {P : State → Prop}
    (hstep : ∀ s label s', P s → step? workers s label = some s' → P s') {labels : List Label}
    {s s' : State} (hs : P s) (h : execute? workers s labels = some s') : P s' := by
  induction labels generalizing s with
  | nil =>
      rw [← Option.some.inj h]
      exact hs
  | cons label labels ih =>
      obtain ⟨next, hnext, h⟩ := execute?_cons_eq_some.mp h
      exact ih (hstep s label next hs hnext) h

/-- What holds of a state before any labels, and is kept by every step whatever the labels before it,
holds after every run from that state. -/
theorem execute?_induction_from {workers : Nat} {P : List Label → State → Prop} {s s' : State}
    (hs : P [] s)
    (hstep : ∀ labels s label s', P labels s → step? workers s label = some s' →
      P (labels ++ [label]) s')
    {labels : List Label} (h : execute? workers s labels = some s') : P labels s' := by
  have hrun : ∀ labels before s s', P before s → execute? workers s labels = some s' →
      P (before ++ labels) s' := by
    intro labels
    induction labels with
    | nil =>
        intro before s s' hP h
        rw [List.append_nil, ← Option.some.inj h]
        exact hP
    | cons label labels ih =>
        intro before s s' hP h
        obtain ⟨next, hnext, h⟩ := execute?_cons_eq_some.mp h
        rw [List.append_cons]
        exact ih _ _ _ (hstep before s label next hP hnext) h
  exact hrun labels [] s s' hs h

theorem execute?_induction {workers : Nat} {P : List Label → State → Prop} (hstart : P [] .start)
    (hstep : ∀ labels s label s', P labels s → step? workers s label = some s' →
      P (labels ++ [label]) s')
    {labels : List Label} {s : State} (h : execute? workers .start labels = some s) : P labels s :=
  execute?_induction_from hstart hstep h

/-- What holds of a state that a run of the executor has come to, and is kept by every step from
there, holds however the executor goes on. -/
theorem execute?_induction_after {workers : Nat} {P : List Label → State → Prop}
    {before : List Label} {s s' : State} (hbefore : execute? workers .start before = some s)
    (hs : P [] s)
    (hstep : ∀ labels s label s', execute? workers .start (before ++ labels) = some s → P labels s →
      step? workers s label = some s' → P (labels ++ [label]) s')
    {after : List Label} (h : execute? workers s after = some s') : P after s' := by
  refine (execute?_induction_from
    (P := fun labels s => execute? workers .start (before ++ labels) = some s ∧ P labels s)
    ⟨by rw [List.append_nil, hbefore], hs⟩ ?_ h).2
  rintro labels s label s' ⟨hreached, hP⟩ hnext
  refine ⟨?_, hstep labels s label s' hreached hP hnext⟩
  rw [← List.append_assoc]
  exact execute?_concat hreached hnext

/-- The same from the start. -/
theorem execute?_induction_reached {workers : Nat} {P : List Label → State → Prop}
    (hstart : P [] .start)
    (hstep : ∀ labels s label s', execute? workers .start labels = some s → P labels s →
      step? workers s label = some s' → P (labels ++ [label]) s')
    {labels : List Label} {s : State} (h : execute? workers .start labels = some s) : P labels s :=
  have hbefore : execute? workers .start [] = some .start := rfl
  execute?_induction_after hbefore hstart hstep h

end CatchmentLint.Executor
