import CatchmentLint.Proofs.Executor.InFlight
import CatchmentLint.Proofs.Lists

/-!
# CatchmentLint.Proofs.Executor.Cancellation

What keeps a queued task from being started.

* `exists_running_of_queued` — nothing does, as long as its run is not cancelled: the workers that are
  busy become free again;
* `GivenUp` — a run that has given up the slot is not cancelled any more;
* `Run.CancelledWhileQueued` — what is decided while its task is queued is decided as cancelled;
* `startsNoMore_iff_superseded` — so the task of a request that is delivered before it starts is kept
  back only if another request, a cancellation or a shutdown came in time.
-/

namespace CatchmentLint.Executor

/-! ## Queued tasks -/

section Queued

variable {workers : Nat} {labels : List Label} {s s' : State} {r moved : Run} {m : Move}

theorem State.run?_of_mem (h : Distinct s.runs) (hr : r ∈ s.runs) : s.run? r.ticket = some r := by
  cases hfind : s.run? r.ticket with
  | none => simpa using List.find?_eq_none.mp hfind r hr
  | some found =>
      have hticket : found.ticket = r.ticket := by simpa using List.find?_some hfind
      rw [h.eq_of_ticket found (List.mem_of_find?_eq_some hfind) r hr hticket]

/-- A move that is possible for a run is a step. -/
theorem State.move?_of_mem (h : Distinct s.runs) (hr : r ∈ s.runs)
    (hmoved : r.move? s.down (s.busy < workers) m = some moved) :
    s.move? workers r.ticket m = some ((s.effect r m).replaceRun moved) := by
  rw [State.move?, State.run?_of_mem h hr, Option.bind_some, hmoved, Option.map_some]

/-- A busy worker can become free while all queued tasks stay in the queue. -/
theorem exists_less_busy (workers : Nat) (h : Distinct s.runs) (hbusy : 0 < s.busy) :
    ∃ label s', step? workers s label = some s' ∧ s'.busy < s.busy ∧
      ∀ r ∈ s.runs, r.task = .queued → r ∈ s'.runs := by
  obtain ⟨runner, hrunner, hrunning⟩ := List.countP_pos_iff.mp hbusy
  rw [decide_eq_true_iff] at hrunning
  refine ⟨.move runner.ticket (.endTask .crashed), _,
    State.move?_of_mem h hrunner (if_pos hrunning), ?_, ?_⟩
  · show List.countP _ (List.map _ s.runs) < s.runs.countP _
    rw [List.countP_map]
    refine countP_lt_countP ?_ hrunner (by simpa using hrunning) (by simp)
    intro old _ hold
    by_cases heq : old.ticket = runner.ticket
    · simp [heq] at hold
    · simpa [heq] using hold
  · intro r hr hqueued
    refine List.mem_map.mpr ⟨r, hr, if_neg fun heq => ?_⟩
    rw [h.eq_of_ticket r hr runner hrunner heq, hrunning] at hqueued
    contradiction

/-- A queued task of a run that is not cancelled can start in the end. -/
theorem exists_running_of_queued (hworkers : 0 < workers)
    (h : execute? workers .start labels = some s) (hr : r ∈ s.runs) (hqueued : r.task = .queued)
    (hcancelled : r.cancelled = false) :
    ∃ later s', execute? workers s later = some s' ∧ { r with task := .running } ∈ s'.runs := by
  -- One busy worker after the other becomes free, until one takes the task.
  induction hbusy : s.busy using Nat.strongRecOn generalizing labels s with
  | _ busy ih =>
      subst hbusy
      have hdistinct := (slotInvariant_of_execute? h).distinct
      by_cases hfree : s.busy < workers
      · have hmoved : r.move? s.down (s.busy < workers) .startTask =
            some { r with task := .running } := by
          simp [Run.move?, hqueued, hfree, hcancelled]
        refine ⟨[.move r.ticket .startTask], (s.effect r .startTask).replaceRun _,
          execute?_cons_eq_some.mpr ⟨_, State.move?_of_mem hdistinct hr hmoved, rfl⟩, ?_⟩
        exact List.mem_map.mpr ⟨r, hr, if_pos rfl⟩
      · obtain ⟨label, next, hstep, hless, hkept⟩ :=
          exists_less_busy workers hdistinct (by omega)
        obtain ⟨later, s', hlater, hmem⟩ :=
          ih next.busy hless (execute?_concat h hstep) (hkept r hr hqueued) rfl
        exact ⟨label :: later, s', execute?_cons_eq_some.mpr ⟨next, hstep, hlater⟩, hmem⟩

/-- Only its cancellation keeps a queued task from starting. -/
theorem startsNoMore_iff_of_queued (hworkers : 0 < workers)
    (h : execute? workers .start labels = some s) (hr : r ∈ s.runs) (hqueued : r.task = .queued) :
    StartsNoMore workers s r ↔ r.cancelled = true := by
  refine ⟨fun hnoMore => ?_, startsNoMore_of_cancelled h hr⟩
  cases hcancelled : r.cancelled with
  | true => rfl
  | false =>
      obtain ⟨later, s', hlater, hmem⟩ := exists_running_of_queued hworkers h hr hqueued hcancelled
      have hstarted := hnoMore later s' hlater _ hmem rfl rfl
      rw [hqueued] at hstarted
      contradiction

end Queued

/-! ## Runs that gave up the slot -/

/-- The run with this ticket is over, and whether it is cancelled is settled. -/
structure GivenUp (ticket : Nat) (cancelled : Bool) (s : State) : Prop where
  ticket_lt : ticket < s.tickets
  kept : ∀ r ∈ s.runs, r.ticket = ticket → r.isUnfinished = false ∧ r.cancelled = cancelled

section GivenUp

variable {workers ticket : Nat} {cancelled : Bool} {labels : List Label} {label : Label}
  {s s' : State}

/-- The run in the slot is an unfinished one, so that no other is cancelled. -/
theorem GivenUp.step (h : GivenUp ticket cancelled s) (hslot : SlotInvariant s)
    (hstep : step? workers s label = some s') : GivenUp ticket cancelled s' where
  ticket_lt := Nat.lt_of_lt_of_le h.ticket_lt (tickets_le_of_step? hstep)
  kept := by
    intro r hr hticket
    cases origin_of_step? hstep r hr with
    | kept hold => exact h.kept r hold hticket
    | @cancelled old hold hheld heq =>
        subst heq
        obtain ⟨-, holder, hholder, hsame, hunfinished⟩ := hslot.holder _ hheld
        rw [hslot.distinct.eq_of_generation holder hholder old hold hsame,
          (h.kept old hold hticket).1] at hunfinished
        contradiction
    | moved hold hmoved =>
        obtain ⟨hkept, -, hcancelled⟩ := Run.move?_kept hmoved
        obtain ⟨hfinished, hsettled⟩ := h.kept _ hold (hkept ▸ hticket)
        refine ⟨Bool.eq_false_iff.mpr fun hunfinished => ?_, hcancelled.trans hsettled⟩
        rw [(Run.isUnfinished_of_move? hmoved hunfinished).1] at hfinished
        contradiction
    | accepted hnew _ =>
        rw [hnew] at hticket
        exact absurd hticket.symm (Nat.ne_of_lt h.ticket_lt)

theorem GivenUp.after {before later : List Label} (h : GivenUp ticket cancelled s)
    (hbefore : execute? workers .start before = some s) (hlater : execute? workers s later = some s') :
    GivenUp ticket cancelled s' := by
  refine execute?_induction_after (P := fun _ s => GivenUp ticket cancelled s) hbefore h ?_ hlater
  intro labels s label s' hs hgivenUp hstep
  exact hgivenUp.step (slotInvariant_of_execute? hs) hstep

end GivenUp

/-! ## Outcomes of queued tasks -/

def Run.CancelledWhileQueued (r : Run) : Prop :=
  r.task = .queued → ∀ outcome, r.phase = .decided outcome ∨ r.phase = .released outcome →
    outcome = .cancelled

/-- No outcome but the cancellation is decided without a task that is over. -/
theorem Run.CancelledWhileQueued.move? {r moved : Run} {down free : Bool} {m : Move}
    (h : r.CancelledWhileQueued) (hmoved : r.move? down free m = some moved) :
    moved.CancelledWhileQueued := by
  cases Run.moves_of_move? hmoved with
  | giveUp | observeCancellation | timeOut =>
      intro _ o ho
      rcases ho with ho | ho
      · exact (Phase.decided.inj ho).symm
      · contradiction
  | observeTask _ htask =>
      intro hqueued
      rw [show r.task = .queued from hqueued] at htask
      contradiction
  | startTask =>
      intro hqueued
      simp only at hqueued
      split at hqueued <;> contradiction
  | endTask | discardTask =>
      intro hqueued
      contradiction
  | release hphase =>
      intro hqueued o ho
      refine h hqueued o (.inl ?_)
      rcases ho with ho | ho
      · contradiction
      · rw [hphase, Phase.released.inj ho]
  | begin | expire | abandon | deliver | drop =>
      intro _ o ho
      rcases ho with ho | ho <;> contradiction

theorem cancelledWhileQueued_of_execute? {workers : Nat} {labels : List Label} {s : State}
    (h : execute? workers .start labels = some s) : ∀ r ∈ s.runs, r.CancelledWhileQueued := by
  refine execute?_keeps (P := fun s => ∀ r ∈ s.runs, r.CancelledWhileQueued) ?_ (by simp [State.start]) h
  intro s label s' hs hstep r hr
  cases origin_of_step? hstep r hr with
  | kept hold => exact hs r hold
  | @cancelled old hold _ heq =>
      subst heq
      exact hs old hold
  | moved hold hmoved => exact (hs _ hold).move? hmoved
  | accepted _ htask =>
      intro hqueued
      rw [htask] at hqueued
      contradiction

/-! ## Delivered requests -/

section Delivered

variable {workers ticket : Nat} {before between : List Label} {s s' : State} {r : Run}

/-- An unfinished run is cancelled as soon as it is superseded. -/
theorem cancelled_iff_of_isUnfinished {labels : List Label}
    (h : execute? workers .start labels = some s) (hr : r ∈ s.runs)
    (hunfinished : r.isUnfinished = true) : r.cancelled = true ↔ ¬IsCurrent labels r.ticket := by
  have hslot := slotInvariant_of_execute? h
  rw [← ((traced_of_execute? h).runs_dated r hr).eq_latest_iff]
  refine ⟨fun hcancelled hlatest => ?_, hslot.others r hr hunfinished⟩
  rw [(hslot.latest r hr hunfinished hlatest).2] at hcancelled
  contradiction

theorem givenUp_of_release (h : execute? workers .start before = some s)
    (hstep : step? workers s (.move ticket .release) = some s') :
    ∃ cancelled, (cancelled = true ↔ ¬IsCurrent before ticket) ∧ GivenUp ticket cancelled s' := by
  obtain ⟨r, hr, rfl, moved, hmoved, rfl⟩ := State.move?_eq_some hstep
  obtain ⟨hticket, -, hcancelled⟩ := Run.move?_kept hmoved
  have hunfinished : r.isUnfinished = true := by
    cases Run.moves_of_move? hmoved with
    | release hphase => rw [Run.isUnfinished, hphase]
  have hfinished : moved.isUnfinished = false :=
    Bool.eq_false_iff.mpr fun hafter => (Run.isUnfinished_of_move? hmoved hafter).2 rfl
  refine ⟨r.cancelled, cancelled_iff_of_isUnfinished h hr hunfinished, ?_, ?_⟩
  · exact ((traced_of_execute? h).runs_dated r hr).ticket_lt
  · intro r' hr' hticket'
    rw [eq_of_mem_replaced hr' (hticket'.trans hticket.symm)]
    exact ⟨hfinished, hcancelled⟩

/-- What the delivery of a run puts into the queue. -/
theorem queue_of_deliver (hstep : step? workers s (.move ticket .deliver) = some s')
    (hr : r ∈ s'.runs) (hticket : r.ticket = ticket) :
    ∃ old ∈ s.runs, ∃ outcome, old.phase = .released outcome ∧ r.task = old.task ∧
      s'.queue = s.queue ++ [⟨ticket, r.generation, outcome⟩] := by
  obtain ⟨old, hold, rfl, moved, hmoved, rfl⟩ := State.move?_eq_some hstep
  have hkept := (Run.move?_kept hmoved).1
  obtain rfl := eq_of_mem_replaced hr (hticket.trans hkept.symm)
  cases Run.moves_of_move? hmoved with
  | @deliver outcome hphase =>
      refine ⟨old, hold, outcome, hphase, rfl, ?_⟩
      simp only [Run.sent, hphase]

/-- A request whose task is still queued is delivered as cancelled.  From then on its task starts no
more exactly if something had superseded it before it gave up the slot: that its time was up does
not keep the task back. -/
theorem startsNoMore_iff_superseded (hworkers : 0 < workers)
    (h : execute? workers .start
      (before ++ .move ticket .release :: (between ++ [.move ticket .deliver])) = some s)
    (hr : r ∈ s.runs) (hticket : r.ticket = ticket) (hqueued : r.task = .queued) :
    (∃ queue, s.queue = queue ++ [⟨ticket, r.generation, .cancelled⟩]) ∧
      (StartsNoMore workers s r ↔ ¬IsCurrent before ticket) := by
  obtain ⟨decided, hdecided, hfrom⟩ := execute?_append_eq_some.mp h
  obtain ⟨released, hrelease, hafter⟩ := execute?_cons_eq_some.mp hfrom
  have hreleased := execute?_concat hdecided hrelease
  constructor
  · obtain ⟨undelivered, hbetween, hlast⟩ := execute?_append_eq_some.mp hafter
    obtain ⟨_, hdeliver, hend⟩ := execute?_cons_eq_some.mp hlast
    cases hend
    obtain ⟨old, hold, outcome, hphase, htask, hqueue⟩ := queue_of_deliver hdeliver hr hticket
    have hundelivered := execute?_append_eq_some.mpr ⟨released, hreleased, hbetween⟩
    have hcancelled := cancelledWhileQueued_of_execute? hundelivered old hold
      (htask.symm.trans hqueued) outcome (.inr hphase)
    exact ⟨undelivered.queue, by rw [hqueue, hcancelled]⟩
  · obtain ⟨cancelled, hcancelled, hgivenUp⟩ := givenUp_of_release hdecided hrelease
    rw [startsNoMore_iff_of_queued hworkers h hr hqueued, ← hcancelled,
      ((hgivenUp.after hreleased hafter).kept r hr hticket).2]

end Delivered

/-- One task runs while another one waits for the only worker. -/
def queuedBehind : List Label :=
  [.submit false, .move 0 .begin, .move 0 .startTask, .submit false, .move 1 .begin]

/-- A third request keeps the waiting task back. -/
theorem queuedBehind_superseded :
    ∃ s, execute? 1 .start (queuedBehind ++ [.submit false] ++ [.move 1 .observeCancellation] ++
        [.move 1 .release, .move 1 .deliver]) = some s ∧
      s.queue = [⟨1, 2, .cancelled⟩] ∧ ∃ r ∈ s.runs, r.task = .queued ∧ StartsNoMore 1 s r := by
  have hrun : execute? 1 .start (queuedBehind ++ [.submit false] ++ [.move 1 .observeCancellation] ++
      .move 1 .release :: ([] ++ [.move 1 .deliver])) = some ⟨3, 3, some 3,
        [⟨0, 1, true, .racing, .running⟩, ⟨1, 2, true, .delivered, .queued⟩,
          ⟨2, 3, false, .ready, .absent⟩], [⟨1, 2, .cancelled⟩], [], false⟩ := by decide
  have hmem : (⟨1, 2, true, .delivered, .queued⟩ : Run) ∈
      [⟨0, 1, true, .racing, .running⟩, ⟨1, 2, true, .delivered, .queued⟩,
        ⟨2, 3, false, .ready, .absent⟩] := List.mem_cons_of_mem _ List.mem_cons_self
  have hsuperseded : ¬IsCurrent (queuedBehind ++ [.submit false] ++ [.move 1 .observeCancellation]) 1 := by
    rw [isCurrent_append_iff rfl]
    exact not_isCurrent_append rfl (by decide)
  obtain ⟨-, hiff⟩ := startsNoMore_iff_superseded Nat.zero_lt_one hrun hmem rfl rfl
  exact ⟨_, hrun, rfl, _, hmem, rfl, hiff.mpr hsuperseded⟩

/-- That the time of the waiting request is up does not: its task starts once the worker is free. -/
theorem queuedBehind_timedOut :
    ∃ s, execute? 1 .start (queuedBehind ++ [.move 1 .timeOut, .move 1 .release, .move 1 .deliver]) =
        some s ∧
      s.queue = [⟨1, 2, .cancelled⟩] ∧ ∃ r ∈ s.runs, r.task = .queued ∧ ¬StartsNoMore 1 s r := by
  refine ⟨⟨2, 2, none, [⟨0, 1, true, .racing, .running⟩, ⟨1, 2, false, .delivered, .queued⟩],
    [⟨1, 2, .cancelled⟩], [], false⟩, by decide, rfl, ⟨1, 2, false, .delivered, .queued⟩,
    List.mem_cons_of_mem _ List.mem_cons_self, rfl, fun hnoMore => ?_⟩
  have hstarted := hnoMore [.move 0 (.endTask (.completed [])), .move 1 .startTask]
    ⟨2, 2, none, [⟨0, 1, true, .racing, .ended (.completed [])⟩, ⟨1, 2, false, .delivered, .running⟩],
      [⟨1, 2, .cancelled⟩], [], false⟩ (by decide) ⟨1, 2, false, .delivered, .running⟩
    (List.mem_cons_of_mem _ List.mem_cons_self) rfl rfl
  contradiction

end CatchmentLint.Executor
