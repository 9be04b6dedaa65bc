import CatchmentLint.Proofs.Executor.Cancellation
import CatchmentLint.Proofs.Executor.Following

/-!
# CatchmentLint.Proofs.Executor.Accounting

No callback is lost, and none is called twice.

* `Conserved` — for each request that was made there is one delivery, or one run that still owes it;
* `exists_delivered` — such a run can come to its delivery by its own moves;
* `DelayTold` — how the delay of a request stands, by the moves of its run;
* `callbacks_accounted` — so a request has one delivery once its run is over, but none if it was given
  up in its delay.
-/

namespace CatchmentLint.Executor

/-! ## Deliveries -/

namespace State

/-- The deliveries for the request with this ticket: those that wait and those that were dispatched. -/
def deliveries (s : State) (ticket : Nat) : Nat :=
  s.queue.countP (·.ticket = ticket) + s.calls.countP (·.ticket = ticket)

/-- The runs of this request that are not delivered. -/
def owing (s : State) (ticket : Nat) : Nat :=
  s.runs.countP fun r => r.ticket = ticket ∧ r.phase ≠ .delivered

end State

/-- For each request that was made there is one delivery, or one run that is not delivered. -/
def Conserved (s : State) : Prop :=
  ∀ ticket, s.deliveries ticket + s.owing ticket = if ticket < s.tickets then 1 else 0

theorem conserved_start : Conserved .start := by simp [Conserved, State.deliveries, State.owing, State.start]

namespace State

theorem owing_cancelSlot (s : State) (ticket : Nat) : s.cancelSlot.owing ticket = s.owing ticket := by
  rw [owing, cancelSlot, List.countP_map]
  refine List.countP_congr fun r _ => ?_
  by_cases hslot : s.slot = some r.generation <;> simp [hslot]

theorem owing_accept (s : State) (debounced : Bool) (ticket : Nat) :
    (s.accept debounced).owing ticket = s.owing ticket + if s.tickets = ticket then 1 else 0 := by
  rw [← s.owing_cancelSlot ticket, owing, accept, List.countP_append, List.countP_singleton]
  cases debounced <;> simp [owing]

theorem deliveries_refuse (s : State) (ticket : Nat) :
    s.refuse.deliveries ticket = s.deliveries ticket + if s.tickets = ticket then 1 else 0 := by
  simp only [deliveries, refuse, List.countP_append, List.countP_singleton, decide_eq_true_eq]
  omega

theorem deliveries_dispatched {s : State} {d : Delivery} {queue : List Delivery}
    (hqueue : s.queue = d :: queue) (ticket : Nat) :
    ({ s with queue := queue, calls := s.calls ++ [d.call s.latest] } : State).deliveries ticket =
      s.deliveries ticket := by
  simp only [deliveries, hqueue, List.countP_append, List.countP_cons, List.countP_nil,
    Delivery.call_ticket]
  omega

end State

section Conserved

variable {workers : Nat} {labels : List Label} {label : Label} {s s' : State} {r : Run}

theorem Conserved.le_one (h : Conserved s) (ticket : Nat) :
    s.deliveries ticket + s.owing ticket ≤ 1 := by
  rw [h ticket]
  split <;> omega

/-- The ticket that is given out is the only one that becomes the one of a request. -/
theorem made_succ (ticket tickets : Nat) :
    (if ticket < tickets + 1 then 1 else 0) =
      (if ticket < tickets then 1 else 0) + if tickets = ticket then 1 else 0 := by
  grind

theorem Conserved.accept (h : Conserved s) (debounced : Bool) : Conserved (s.accept debounced) := by
  intro ticket
  have hticket := h ticket
  have hmade := made_succ ticket s.tickets
  rw [s.owing_accept, show (s.accept debounced).deliveries ticket = s.deliveries ticket from rfl,
    show (s.accept debounced).tickets = s.tickets + 1 from rfl]
  omega

theorem Conserved.refuse (h : Conserved s) : Conserved s.refuse := by
  intro ticket
  have hticket := h ticket
  have hmade := made_succ ticket s.tickets
  rw [s.deliveries_refuse, show s.refuse.owing ticket = s.owing ticket from rfl,
    show s.refuse.tickets = s.tickets + 1 from rfl]
  omega

/-- A run that moves counts as it did where the move does not change what is counted. -/
theorem Distinct.countP_replaced {runs : List Run} {moved : Run} {p : Run → Bool} (h : Distinct runs)
    (hr : r ∈ runs) (hticket : moved.ticket = r.ticket) (hp : p moved = p r) :
    (runs.map fun old => if old.ticket = moved.ticket then moved else old).countP p = runs.countP p := by
  rw [List.countP_map]
  refine List.countP_congr fun old hold => ?_
  by_cases heq : old.ticket = moved.ticket
  · simp [h.eq_of_ticket old hold r hr (heq.trans hticket), hticket, hp]
  · simp [heq]

/-- A move that is no delivery leaves what is owed; a delivery makes good what its run owed. -/
theorem Conserved.move (h : Conserved s) (hdistinct : Distinct s.runs) {moved : Run} {m : Move}
    {free : Bool} (hr : r ∈ s.runs) (hmoved : r.move? s.down free m = some moved) :
    Conserved { s with
      slot := s.slotAfter r m
      runs := s.runs.map fun old => if old.ticket = moved.ticket then moved else old
      queue := s.queue ++ r.sent m } := by
  have hkept := (Run.move?_kept hmoved).1
  intro ticket'
  have hticket := h ticket'
  have hle := h.le_one ticket'
  rw [State.deliveries, State.owing] at hticket hle
  show (s.queue ++ r.sent m).countP _ + s.calls.countP _ + (s.runs.map _).countP _ = _
  rw [List.countP_append]
  rcases Run.move?_delivered hmoved with ⟨hphase, hsent⟩ | ⟨hdelivered, howed, o, -, hsent⟩
  · rw [hsent, hdistinct.countP_replaced hr hkept (by simp [hkept, hphase])]
    exact hticket
  rw [hsent, List.countP_singleton]
  by_cases hown : r.ticket = ticket'
  · have howes : 0 < s.runs.countP fun old => old.ticket = ticket' ∧ old.phase ≠ .delivered :=
      List.countP_pos_iff.mpr ⟨r, hr, by simp [hown, howed]⟩
    have hnone : (s.runs.map fun old => if old.ticket = moved.ticket then moved else old).countP
        (fun old => decide (old.ticket = ticket' ∧ old.phase ≠ .delivered)) = 0 := by
      refine List.countP_eq_zero.mpr fun r' hr' => ?_
      by_cases heq : r'.ticket = ticket'
      · simp [eq_of_mem_replaced hr' (heq.trans (hown.symm.trans hkept.symm)), hdelivered]
      · simp [heq]
    simp only [hnone, hown, decide_true, if_true]
    omega
  · rw [hdistinct.countP_replaced hr hkept (by simp [hkept, hown])]
    simpa [hown] using hticket

theorem Conserved.step (h : Conserved s) (hdistinct : Distinct s.runs)
    (hstep : step? workers s label = some s') : Conserved s' := by
  cases steps_of_step? hstep with
  | accept => exact h.accept _
  | refuse => exact h.refuse
  | cancel | shutdown => exact fun ticket => s.owing_cancelSlot ticket ▸ h ticket
  | stayDown => exact h
  | dispatch hqueue => exact fun ticket => s.deliveries_dispatched hqueue ticket ▸ h ticket
  | move hr hmoved => exact h.move hdistinct hr hmoved

theorem conserved_of_execute? (h : execute? workers .start labels = some s) : Conserved s := by
  refine execute?_induction_reached (P := fun _ s => Conserved s) conserved_start ?_ h
  intro labels s label s' hs hconserved hstep
  exact hconserved.step (slotInvariant_of_execute? hs).distinct hstep

/-- A run that there is has one delivery if it is delivered, and else none. -/
theorem deliveries_of_mem (h : execute? workers .start labels = some s) (hr : r ∈ s.runs) :
    s.deliveries r.ticket = if r.phase = .delivered then 1 else 0 := by
  have hconserved := conserved_of_execute? h
  by_cases hdelivered : r.phase = .delivered
  · have hnone : s.owing r.ticket = 0 := by
      refine List.countP_eq_zero.mpr fun r' hr' => ?_
      by_cases heq : r'.ticket = r.ticket
      · simp [(slotInvariant_of_execute? h).distinct.eq_of_ticket r' hr' r hr heq, hdelivered]
      · simp [heq]
    have hmade := hconserved r.ticket
    rw [hnone, if_pos ((traced_of_execute? h).runs_dated r hr).ticket_lt] at hmade
    rwa [if_pos hdelivered]
  · have howes : 0 < s.owing r.ticket := List.countP_pos_iff.mpr ⟨r, hr, by simp [hdelivered]⟩
    have hle := hconserved.le_one r.ticket
    rw [if_neg hdelivered]
    omega

/-- A request that was refused has its delivery. -/
theorem deliveries_of_refused {ticket : Nat} (h : execute? workers .start labels = some s)
    (hrefused : Refused ticket s) : s.deliveries ticket = 1 := by
  have hnone : s.owing ticket = 0 := by
    refine List.countP_eq_zero.mpr fun r hr => ?_
    simp [hrefused.ticket_ne r hr]
  have hmade := conserved_of_execute? h ticket
  rwa [hnone, if_pos hrefused.ticket_lt] at hmade

end Conserved

/-! ## The way to the delivery -/

namespace Run

/-- Whether nothing more comes of the run. -/
def isOver (r : Run) : Bool :=
  match r.phase with
  | .delivered | .abandoned | .dropped => true
  | _ => false

/-- How many moves it takes the run to be over, at most. -/
def ahead (r : Run) : Nat :=
  match r.phase with
  | .waiting => 5
  | .ready => 4
  | .racing => 3
  | .decided _ => 2
  | .released _ => 1
  | .delivered | .abandoned | .dropped => 0

/-- A run that is not over can come nearer to its delivery, whatever the others do. -/
theorem exists_nearer {r : Run} (down free : Bool) (h : r.isOver = false) :
    ∃ m moved, r.Moves down free m moved ∧ moved.ahead < r.ahead ∧
      (moved.isOver = false ∨ moved.phase = .delivered) := by
  cases hphase : r.phase with
  | waiting => exact ⟨_, _, .expire hphase, by simp [ahead, hphase], .inl rfl⟩
  | ready =>
      cases hcancelled : r.cancelled with
      | true => exact ⟨_, _, .giveUp hphase hcancelled, by simp [ahead, hphase], .inl rfl⟩
      | false => exact ⟨_, _, .begin hphase hcancelled, by simp [ahead, hphase], .inl rfl⟩
  | racing =>
      cases htask : r.task.outcome? with
      | none => exact ⟨_, _, .timeOut hphase htask, by simp [ahead, hphase], .inl rfl⟩
      | some o => exact ⟨_, _, .observeTask hphase htask, by simp [ahead, hphase], .inl rfl⟩
  | decided o => exact ⟨_, _, .release hphase, by simp [ahead, hphase], .inl rfl⟩
  | released o => exact ⟨_, _, .deliver hphase, by simp [ahead, hphase], .inr rfl⟩
  | delivered | abandoned | dropped => simp [isOver, hphase] at h

end Run

/-- A run that is not over can come to its delivery by its own moves. -/
theorem exists_delivered {workers : Nat} {labels : List Label} {s : State} {r : Run}
    (h : execute? workers .start labels = some s) (hr : r ∈ s.runs)
    (hgoesOn : r.isOver = false ∨ r.phase = .delivered) :
    ∃ (moves : List Move) (s' : State), execute? workers s (moves.map (.move r.ticket)) = some s' ∧
      s'.deliveries r.ticket = 1 := by
  induction hahead : r.ahead using Nat.strongRecOn generalizing labels s r with
  | _ ahead ih =>
      subst hahead
      rcases hgoesOn with hover | hdelivered
      · obtain ⟨m, moved, hmoves, hnearer, hgoesOn⟩ := Run.exists_nearer s.down (s.busy < workers) hover
        have hmoved := hmoves.move?_eq_some
        have hkept := (Run.move?_kept hmoved).1
        have hstep : step? workers s (.move r.ticket m) = _ :=
          State.move?_of_mem (slotInvariant_of_execute? h).distinct hr hmoved
        have hmem : moved ∈ ((s.effect r m).replaceRun moved).runs := by
          rw [State.effect_eq]
          exact List.mem_map.mpr ⟨r, hr, if_pos hkept.symm⟩
        obtain ⟨moves, s', hrest, hone⟩ :=
          ih moved.ahead hnearer (execute?_concat h hstep) hmem hgoesOn rfl
        rw [hkept] at hrest hone
        exact ⟨m :: moves, s', execute?_cons_eq_some.mpr ⟨_, hstep, hrest⟩, hone⟩
      · refine ⟨[], s, rfl, ?_⟩
        rw [deliveries_of_mem h hr, if_pos hdelivered]

/-! ## Delays -/

namespace Run

/-- The run has not come to the end of its delay, and has no task. -/
def InDelay (r : Run) : Prop :=
  (r.phase = .waiting ∨ r.phase = .abandoned ∨ r.phase = .dropped) ∧ r.task = .absent

variable {r moved : Run} {down free : Bool} {m : Move}

/-- Only the end of the delay leads out of it. -/
theorem InDelay.move? (h : r.InDelay) (hm : m ≠ .expire) (hmoved : r.move? down free m = some moved) :
    moved.InDelay := by
  obtain ⟨hwaits, habsent⟩ := h
  cases Run.moves_of_move? hmoved with
  | expire => contradiction
  | abandon => exact ⟨.inr (.inl rfl), habsent⟩
  | drop => exact ⟨.inr (.inr rfl), habsent⟩
  | startTask htask | endTask htask | discardTask _ htask =>
      rw [habsent] at htask
      contradiction
  | giveUp hphase | begin hphase | observeTask hphase | observeCancellation hphase | timeOut hphase
  | release hphase | deliver hphase => simp [hphase] at hwaits

/-- A run that is over without a task has no moves. -/
theorem move?_of_isOver (hover : r.isOver = true) (habsent : r.task = .absent) :
    r.move? down free m = none := by
  refine Option.eq_none_iff_forall_ne_some.mpr fun moved hmoved => ?_
  cases Run.moves_of_move? hmoved with
  | drop _ hundecided =>
      cases hphase : r.phase <;> simp [isOver, isUndecided, hphase] at hover hundecided
  | startTask htask | endTask htask | discardTask _ htask =>
      rw [habsent] at htask
      contradiction
  | expire hphase | abandon hphase | giveUp hphase | begin hphase | observeTask hphase
  | observeCancellation hphase | timeOut hphase | release hphase | deliver hphase =>
      simp [isOver, hphase] at hover

end Run

/-- What the moves of a request say of its delay. -/
structure DelayTold (debounced : Bool) (moves : List Move) (r : Run) : Prop where
  inDelay : debounced = true → .expire ∉ moves → r.InDelay
  pastDelay : debounced = false ∨ .expire ∈ moves → r.phase ≠ .waiting ∧ r.phase ≠ .abandoned
  abandoned : .abandon ∈ moves → r.phase = .abandoned ∧ r.task = .absent

section DelayTold

variable {debounced : Bool} {moves : List Move} {r moved : Run}

theorem delayTold_start (debounced : Bool) (ticket generation : Nat) :
    DelayTold debounced []
      ⟨ticket, generation, false, if debounced then .waiting else .ready, .absent⟩ := by
  cases debounced with
  | false => exact ⟨by simp, by simp, by simp⟩
  | true => exact ⟨by simp [Run.InDelay], by simp, by simp⟩

theorem DelayTold.move? {down free : Bool} {m : Move} (h : DelayTold debounced moves r)
    (hmoved : r.move? down free m = some moved) : DelayTold debounced (moves ++ [m]) moved where
  inDelay := by
    intro hdebounced hexpire
    rw [List.mem_append, List.mem_singleton, not_or] at hexpire
    exact (h.inDelay hdebounced hexpire.1).move? (Ne.symm hexpire.2) hmoved
  pastDelay := by
    intro hended
    rw [List.mem_append, List.mem_singleton, ← or_assoc] at hended
    cases Run.moves_of_move? hmoved with
    | abandon hphase =>
        have hpast := h.pastDelay (hended.resolve_right (by simp))
        exact absurd hphase hpast.1
    | startTask | endTask | discardTask => exact h.pastDelay (hended.resolve_right (by simp))
    | _ => simp
  abandoned := by
    intro habandon
    rw [List.mem_append, List.mem_singleton] at habandon
    rcases habandon with hbefore | rfl
    · obtain ⟨hphase, habsent⟩ := h.abandoned hbefore
      rw [Run.move?_of_isOver (by simp [Run.isOver, hphase]) habsent] at hmoved
      contradiction
    · cases Run.moves_of_move? hmoved with
      | abandon hphase =>
          refine ⟨rfl, (h.inDelay ?_ ?_).2⟩
          · exact Bool.of_not_eq_false fun hnot => (h.pastDelay (.inl hnot)).1 hphase
          · exact fun hexpire => (h.pastDelay (.inr hexpire)).1 hphase

end DelayTold

/-! ## Callbacks -/

section

variable {workers ticket : Nat} {debounced : Bool} {before after labels : List Label}
  {label : Label} {s : State} {r : Run}

theorem startsNoMore_of_isOver (h : execute? workers .start labels = some s) (hr : r ∈ s.runs)
    (hover : r.isOver = true) (habsent : r.task = .absent) : StartsNoMore workers s r := by
  intro later s' hlater r' hr' hticket hstarted
  obtain ⟨last, hlast, hsame, -, hstill⟩ := exists_run_after
    (P := fun _ r => r.isOver = true ∧ r.task = .absent) (fun _ _ h => h)
    (fun _ _ _ _ _ _ h hmoved => by rw [Run.move?_of_isOver h.1 h.2] at hmoved; contradiction)
    h hr ⟨hover, habsent⟩ hlater
  have hreached := execute?_append_eq_some.mpr ⟨s, h, hlater⟩
  rw [(slotInvariant_of_execute? hreached).distinct.eq_of_ticket r' hr' last hlast
    (hticket.trans hsame.symm), hstill] at hstarted
  contradiction

/-- What supersedes a run in its delay keeps its task from starting. -/
theorem startsNoMore_of_inDelay (h : execute? workers .start (labels ++ [label]) = some s)
    (hlabel : label.supersedes = true) (hr : r ∈ s.runs) (hdelay : r.InDelay)
    (hticket : r.ticket < labels.countP Label.isSubmit) : StartsNoMore workers s r := by
  obtain ⟨hwaits | habandoned | hdropped, habsent⟩ := hdelay
  · have hunfinished : r.isUnfinished = true := by rw [Run.isUnfinished, hwaits]
    refine startsNoMore_of_cancelled h hr ?_
    exact (cancelled_iff_of_isUnfinished h hr hunfinished).mpr (not_isCurrent_append hlabel hticket)
  · exact startsNoMore_of_isOver h hr (by rw [Run.isOver, habandoned]) habsent
  · exact startsNoMore_of_isOver h hr (by rw [Run.isOver, hdropped]) habsent

theorem shutdown_mem_of_dropped (h : execute? workers .start labels = some s) :
    ∀ r ∈ s.runs, r.phase = .dropped → .shutdown ∈ labels := by
  refine execute?_induction_reached
    (P := fun labels s => ∀ r ∈ s.runs, r.phase = .dropped → .shutdown ∈ labels)
    (by simp [State.start]) ?_ h
  intro labels s label s' hs hdropped hstep r hr hphase
  cases origin_of_step? hstep r hr with
  | kept hold => exact List.mem_append_left _ (hdropped r hold hphase)
  | cancelled hold _ heq =>
      subst heq
      exact List.mem_append_left _ (hdropped _ hold hphase)
  | moved hold hmoved =>
      refine List.mem_append_left _ ?_
      cases Run.moves_of_move? hmoved with
      | drop hdown => exact (down_iff_of_execute? hs).mp hdown
      | startTask | endTask | discardTask => exact hdropped _ hold hphase
      | _ => contradiction
  | accepted _ _ hnew _ =>
      rw [hphase] at hnew
      rcases hnew with hnew | hnew <;> contradiction

/-- A request before any shutdown has a run, of which its moves say how its delay stands. -/
theorem exists_run_delayTold
    (h : execute? workers .start (before ++ .submit debounced :: after) = some s)
    (hup : .shutdown ∉ before) (hticket : before.countP Label.isSubmit = ticket) :
    ∃ r ∈ s.runs, r.ticket = ticket ∧ DelayTold debounced (ownMoves ticket after) r := by
  subst hticket
  exact exists_run_of_submit (fun _ _ h => ⟨h.inDelay, h.pastDelay, h.abandoned⟩)
    (fun _ _ _ _ _ _ h hmoved => h.move? hmoved) (delayTold_start debounced) h hup

/-- What supersedes a request before the end of its delay keeps its task from starting ever after. -/
theorem hasStarted_eq_false_of_superseded {first rest : List Label}
    (h : execute? workers .start (before ++ .submit true :: (first ++ label :: rest)) = some s)
    (hup : .shutdown ∉ before) (hlabel : label.supersedes = true)
    (hexpire : .move (before.countP Label.isSubmit) .expire ∉ first) (hr : r ∈ s.runs)
    (hticket : r.ticket = before.countP Label.isSubmit) : r.task.hasStarted = false := by
  rw [List.append_cons first, ← List.cons_append, ← List.append_assoc] at h
  obtain ⟨superseded, hsuperseded, hrest⟩ := execute?_append_eq_some.mp h
  obtain ⟨old, hold, hsame, htold⟩ := exists_run_delayTold hsuperseded hup rfl
  have hdelay : old.InDelay := by
    refine htold.inDelay rfl fun hmem => ?_
    rw [mem_ownMoves, List.mem_append, List.mem_singleton] at hmem
    rcases hmem with hmem | rfl
    · exact hexpire hmem
    · contradiction
  rw [← List.cons_append, ← List.append_assoc] at hsuperseded
  have hnoMore := startsNoMore_of_inDelay hsuperseded hlabel hold hdelay (by simp [hsame, Label.isSubmit])
  refine Bool.eq_false_iff.mpr fun hstarted => ?_
  have := hnoMore rest s hrest r hr (hticket.trans hsame.symm) hstarted
  rw [hdelay.2] at this
  contradiction

/-- The callback of a request is called once at most.  A request after a shutdown has its delivery at
once.  One before any shutdown can always come to its delivery while its run is not over, and when it
is, and no shutdown has come, there is exactly one delivery, unless the run was given up in its delay.
What supersedes a request in its delay keeps its task from starting; and from its callback, too, unless
the delay comes to its end before the run is given up. -/
theorem callbacks_accounted
    (h : execute? workers .start (before ++ .submit debounced :: after) = some s)
    (hticket : before.countP Label.isSubmit = ticket) :
    s.calls.countP (·.ticket = ticket) ≤ 1 ∧
      (.shutdown ∈ before → s.deliveries ticket = 1) ∧
      (.shutdown ∉ before → ∃ r, s.run? ticket = some r ∧
        (r.isOver = false → ∃ (moves : List Move) (s' : State),
          execute? workers s (moves.map (.move ticket)) = some s' ∧ s'.deliveries ticket = 1) ∧
        (.shutdown ∉ after → debounced = false ∨ .move ticket .expire ∈ after →
          s.deliveries ticket = if r.isOver then 1 else 0) ∧
        ∀ first label rest, after = first ++ label :: rest → label.supersedes = true →
          debounced = true → .move ticket .expire ∉ first →
          r.task.hasStarted = false ∧
            (.move ticket .expire ∉ rest ∨ .move ticket .abandon ∈ rest →
              s.deliveries ticket = 0)) := by
  refine ⟨?_, fun hdown => deliveries_of_refused h (hticket ▸ refused_of_submit h hdown), fun hup => ?_⟩
  · have hle := (conserved_of_execute? h).le_one ticket
    rw [State.deliveries] at hle
    omega
  obtain ⟨r, hr, rfl, htold⟩ := exists_run_delayTold h hup hticket
  have hdeliveries := deliveries_of_mem h hr
  refine ⟨r, State.run?_of_mem (slotInvariant_of_execute? h).distinct hr,
    fun hover => exists_delivered h hr (.inl hover), ?_, ?_⟩
  · intro hstays hended
    have hpast := htold.pastDelay (hended.imp_right mem_ownMoves.mpr)
    have hdropped : r.phase ≠ .dropped := by
      intro hphase
      have hdown := shutdown_mem_of_dropped h r hr hphase
      simp [hup, hstays] at hdown
    rw [hdeliveries]
    cases hphase : r.phase <;> simp_all [Run.isOver]
  · rintro first label rest rfl hlabel rfl hexpire
    refine ⟨hasStarted_eq_false_of_superseded h hup hlabel (hticket ▸ hexpire) hr hticket.symm, ?_⟩
    intro hgivenUp
    rw [hdeliveries, if_neg]
    intro hdelivered
    -- The delay has not come to its end, or the run was given up all the same.
    rcases hgivenUp with hrest | habandon
    · have hdelay := htold.inDelay rfl fun hmem => by
        rw [mem_ownMoves, List.mem_append, List.mem_cons] at hmem
        rcases hmem with hmem | rfl | hmem
        · exact hexpire hmem
        · contradiction
        · exact hrest hmem
      simp [Run.InDelay, hdelivered] at hdelay
    · have habandoned := htold.abandoned (mem_ownMoves.mpr (by simp [habandon]))
      simp [hdelivered] at habandoned

end

/-- A request that replaces another one in its delay, from its acceptance to its callback. -/
def replacement : List Label :=
  [.submit false, .move 0 .abandon, .move 1 .begin, .move 1 .startTask,
    .move 1 (.endTask (.completed [])), .move 1 .observeTask, .move 1 .release, .move 1 .deliver,
    .dispatch]

theorem replacement_accounted :
    ∃ s, execute? 1 .start (.submit true :: replacement) = some s ∧ s.calls = [⟨1, .completed []⟩] ∧
      s.deliveries 0 = 0 ∧ s.deliveries 1 = 1 := by
  have hrun : execute? 1 .start (.submit true :: replacement) = some
      ⟨2, 2, none, [⟨0, 1, true, .abandoned, .absent⟩,
        ⟨1, 2, false, .delivered, .ended (.completed [])⟩], [], [⟨1, .completed []⟩], false⟩ := by decide
  obtain ⟨-, -, hfirst⟩ := callbacks_accounted (show execute? 1 .start
    ([] ++ .submit true :: replacement) = _ from hrun) rfl
  obtain ⟨-, -, hsecond⟩ := callbacks_accounted (show execute? 1 .start
    ([.submit true] ++ .submit false :: replacement.tail) = _ from hrun) rfl
  obtain ⟨waited, -, -, -, hgivenUp⟩ := hfirst (by decide)
  obtain ⟨r, hr, -, honce, -⟩ := hsecond (by decide)
  cases hr
  refine ⟨_, hrun, rfl, ?_, honce (by decide) (.inl rfl)⟩
  exact (hgivenUp [] _ _ rfl rfl rfl (by decide)).2 (.inl (by decide))

end CatchmentLint.Executor
