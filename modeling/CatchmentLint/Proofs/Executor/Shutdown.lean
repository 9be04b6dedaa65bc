import CatchmentLint.Proofs.Executor.Accounting
import CatchmentLint.Proofs.Executor.Failures

/-!
# CatchmentLint.Proofs.Executor.Shutdown

What a shutdown leaves of the executor: deliveries that are told, and no result among them.

* `Delivery.lateCall` — what is told of a delivery when its request is not current;
* `isRunning_eq_false_of_down`, `call_eq_lateCall` — while the executor is down nothing is in flight,
  and every dispatch tells this;
* `HandedOn` — deliveries are told in the order in which they were queued, each of them once;
* `execute?_replicate_dispatch` — all that wait can be dispatched;
* `outcome_of_refused` — a request that was refused is told as cancelled;
* `shutdown_final` — so it is after a shutdown, however the executor goes on.
-/

namespace CatchmentLint.Executor

/-! ## Late calls -/

/-- What is told of a delivery whose request is not current. -/
def Delivery.lateCall (d : Delivery) : Call :=
  ⟨d.ticket, match d.outcome with
    | .completed _ => .cancelled
    | outcome => outcome⟩

theorem Delivery.lateCall_ne_completed (d : Delivery) (issues : List Issue) :
    d.lateCall.outcome ≠ .completed issues := by
  unfold Delivery.lateCall
  cases d.outcome <;> simp

section Down

variable {workers : Nat} {labels : List Label} {s : State}

theorem isRunning_eq_false_of_down (h : execute? workers .start labels = some s)
    (hdown : s.down = true) : s.isRunning = false := by
  refine Option.isSome_eq_false_iff.mpr (Option.isNone_iff_eq_none.mpr ?_)
  refine Option.eq_none_iff_forall_ne_some.mpr fun generation hheld => ?_
  obtain ⟨hlatest, r, hr, rfl, -⟩ := (slotInvariant_of_execute? h).holder generation hheld
  exact ((traced_of_execute? h).runs_dated r hr).ne_latest_of_down hdown hlatest

theorem call_eq_lateCall (h : execute? workers .start labels = some s) (hdown : s.down = true)
    {d : Delivery} (hd : d ∈ s.queue) : d.call s.latest = d.lateCall := by
  cases houtcome : d.outcome with
  | completed issues =>
      have hdated := (traced_of_execute? h).queue_dated d hd issues houtcome
      simp [Delivery.call, Delivery.lateCall, houtcome, hdated.ne_latest_of_down hdown]
  | cancelled | failed _ => simp [Delivery.call, Delivery.lateCall, houtcome]

end Down

/-! ## The order of the deliveries -/

/-- From the state `past` on, the deliveries that waited then and those that were queued later have
been told in their order, up to those that wait now. -/
def HandedOn (past s : State) (told : List Call) (later : List Delivery) : Prop :=
  s.calls = past.calls ++ told ∧
    told ++ s.queue.map Delivery.lateCall = (past.queue ++ later).map Delivery.lateCall

section HandedOn

variable {workers : Nat} {before after : List Label} {past s s' : State} {label : Label}

/-- A step tells the first delivery or queues others behind the last. -/
theorem exists_handedOn_of_step? (h : execute? workers .start before = some s)
    (hdown : s.down = true) (hstep : step? workers s label = some s') :
    ∃ told later, HandedOn s s' told later := by
  cases steps_of_step? hstep with
  | @dispatch d queue hqueue =>
      have hcall := call_eq_lateCall h hdown (by rw [hqueue]; exact List.mem_cons_self : d ∈ s.queue)
      exact ⟨[d.call s.latest], [], rfl, by simp [hqueue, hcall]⟩
  | refuse => exact ⟨[], [⟨s.tickets, 0, .cancelled⟩], by simp [State.refuse], by simp [State.refuse]⟩
  | @move r moved m => exact ⟨[], r.sent m, by simp, by simp⟩
  | accept | cancel | shutdown | stayDown => exact ⟨[], [], (List.append_nil _).symm, by simp [
      State.accept, State.cancel, State.cancelSlot]⟩

theorem HandedOn.trans {told told' : List Call} {later later' : List Delivery}
    (h : HandedOn past s told later) (h' : HandedOn s s' told' later') :
    HandedOn past s' (told ++ told') (later ++ later') := by
  obtain ⟨hcalls, horder⟩ := h
  obtain ⟨hcalls', horder'⟩ := h'
  refine ⟨by rw [hcalls', hcalls, List.append_assoc], ?_⟩
  rw [List.append_assoc, horder', List.map_append, ← List.append_assoc, horder, ← List.map_append,
    List.append_assoc]

theorem exists_handedOn (h : execute? workers .start before = some past) (hdown : past.down = true)
    (hafter : execute? workers past after = some s) :
    ∃ told later, HandedOn past s told later := by
  refine execute?_induction_after (P := fun _ s => ∃ told later, HandedOn past s told later) h
    ⟨[], [], by simp [HandedOn]⟩ ?_ hafter
  rintro labels s label s' hs ⟨told, later, hpast⟩ hstep
  have hstays : s.down = true := by
    obtain ⟨_, hbefore, -⟩ := execute?_append_eq_some.mp hs
    rw [hbefore] at h
    cases h
    rw [down_iff_of_execute? hbefore] at hdown
    rw [down_iff_of_execute? hs]
    exact List.mem_append_left _ hdown
  obtain ⟨told', later', hnext⟩ := exists_handedOn_of_step? hs hstays hstep
  exact ⟨_, _, hpast.trans hnext⟩

/-- What waited is dispatched once. -/
theorem HandedOn.deliveries_eq_one {told : List Call} {later : List Delivery}
    (h : HandedOn past s told later) (hs : execute? workers .start before = some s) {d : Delivery}
    (hd : d ∈ past.queue) : s.deliveries d.ticket = 1 := by
  have hle := (conserved_of_execute? hs).le_one d.ticket
  obtain ⟨hcalls, horder⟩ := h
  have hmem : d.lateCall ∈ told ++ s.queue.map Delivery.lateCall := by
    rw [horder]
    exact List.mem_map_of_mem (List.mem_append_left _ hd)
  have hpos : 0 < s.deliveries d.ticket := by
    rw [State.deliveries, hcalls, List.countP_append]
    rcases List.mem_append.mp hmem with htold | hwaits
    · have : 0 < told.countP (·.ticket = d.ticket) :=
        List.countP_pos_iff.mpr ⟨_, htold, by simp [Delivery.lateCall]⟩
      omega
    · obtain ⟨d', hd', hsame⟩ := List.mem_map.mp hwaits
      have hticket : d'.ticket = d.ticket := congrArg Call.ticket hsame
      have : 0 < s.queue.countP (·.ticket = d.ticket) :=
        List.countP_pos_iff.mpr ⟨d', hd', by simpa using hticket⟩
      omega
  omega

end HandedOn

/-- All deliveries that wait can be dispatched, one after the other. -/
theorem execute?_replicate_dispatch (workers : Nat) (s : State) :
    execute? workers s (List.replicate s.queue.length .dispatch) =
      some { s with queue := [], calls := s.calls ++ s.queue.map (·.call s.latest) } := by
  obtain ⟨tickets, latest, slot, runs, queue, calls, down⟩ := s
  induction queue generalizing calls with
  | nil => simp [execute?]
  | cons d queue ih =>
      rw [List.length_cons, List.replicate_succ, execute?_cons]
      show execute? workers ⟨tickets, latest, slot, runs, queue, calls ++ [d.call latest], down⟩
        (List.replicate queue.length .dispatch) = _
      rw [ih]
      simp

/-! ## Refused requests -/

section Refused

variable {workers ticket : Nat} {labels : List Label} {label : Label} {s s' : State}

/-- A request that has been made and has no run after a step has had none before. -/
theorem Refused.of_step (h : Refused ticket s') (hmade : ticket < s.tickets)
    (hs : execute? workers .start labels = some s) (hstep : step? workers s label = some s') :
    Refused ticket s where
  ticket_lt := hmade
  ticket_ne := by
    intro r hr
    obtain ⟨r', hr', hsuccessor⟩ :=
      exists_successor (slotInvariant_of_execute? hs).distinct hstep hr
    rw [← hsuccessor.ticket_eq]
    exact h.ticket_ne r' hr'

/-- Only of requests that have been made there is a delivery. -/
theorem ticket_lt_of_deliveries (h : execute? workers .start labels = some s)
    (hdelivered : 0 < s.deliveries ticket) : ticket < s.tickets := by
  refine Decidable.by_contra fun hnot => ?_
  have hmade := conserved_of_execute? h ticket
  rw [if_neg hnot] at hmade
  omega

theorem outcome_of_mem_queue (h : execute? workers .start labels = some s) {d : Delivery}
    (hd : d ∈ s.queue) (hrefused : Refused d.ticket s) : d.outcome = .cancelled := by
  rcases reported_of_execute? h d hd with ⟨r, hr, hticket, -⟩ | ⟨hcancelled, -⟩
  · exact absurd hticket (hrefused.ticket_ne r hr)
  · exact hcancelled

theorem outcome_of_mem_calls (h : execute? workers .start labels = some s) :
    ∀ c ∈ s.calls, Refused c.ticket s → c.outcome = .cancelled := by
  refine execute?_induction_reached
    (P := fun _ s => ∀ c ∈ s.calls, Refused c.ticket s → c.outcome = .cancelled)
    (by simp [State.start]) ?_ h
  intro labels s label s' hs hcalls hstep c hc hrefused
  have hold : c ∈ s.calls → c.outcome = .cancelled := by
    intro hc
    have htold : 0 < s.calls.countP (·.ticket = c.ticket) :=
      List.countP_pos_iff.mpr ⟨c, hc, decide_eq_true rfl⟩
    have hmade := ticket_lt_of_deliveries hs (Nat.lt_of_lt_of_le htold (Nat.le_add_left _ _))
    exact hcalls c hc (hrefused.of_step hmade hs hstep)
  cases steps_of_step? hstep with
  | @dispatch d queue hqueue =>
      rcases List.mem_append.mp hc with hc | hnew
      · exact hold hc
      · obtain rfl := List.mem_singleton.mp hnew
        have hd : d ∈ s.queue := by rw [hqueue]; exact List.mem_cons_self
        have hwaits : 0 < s.queue.countP (·.ticket = d.ticket) :=
          List.countP_pos_iff.mpr ⟨d, hd, decide_eq_true rfl⟩
        have hmade := ticket_lt_of_deliveries hs (Nat.lt_of_lt_of_le hwaits (Nat.le_add_right _ _))
        rw [Delivery.call_ticket] at hrefused
        have hcancelled := outcome_of_mem_queue hs hd (hrefused.of_step hmade hs hstep)
        simp [Delivery.call, hcancelled]
  | accept | refuse | cancel | shutdown | stayDown | move => exact hold hc

/-- Whatever is told of a request that was refused, or will be, is that it is cancelled. -/
theorem outcome_of_refused (h : execute? workers .start labels = some s)
    (hrefused : Refused ticket s) {c : Call} (hc : c ∈ s.calls ++ s.queue.map Delivery.lateCall)
    (hticket : c.ticket = ticket) : c.outcome = .cancelled := by
  subst hticket
  rcases List.mem_append.mp hc with htold | hwaits
  · exact outcome_of_mem_calls h c htold hrefused
  · obtain ⟨d, hd, rfl⟩ := List.mem_map.mp hwaits
    simp [Delivery.lateCall, outcome_of_mem_queue h hd hrefused]

end Refused

/-! ## After a shutdown -/

/-- After a shutdown nothing is in flight any more, and no result is told as completed.  What waited
then is told once each, in its order and before what is queued later, and all that waits can be
dispatched.  A later request gets no run, so that no task of it starts, and one delivery, which is told
as cancelled. -/
theorem shutdown_final {workers : Nat} {before after : List Label} {s : State}
    (h : execute? workers .start (before ++ .shutdown :: after) = some s) :
    s.isRunning = false ∧
      (∃ past told later, execute? workers .start before = some past ∧
        s.calls = past.calls ++ told ∧
        told ++ s.queue.map Delivery.lateCall = (past.queue ++ later).map Delivery.lateCall ∧
        (∀ c ∈ told, ∀ issues, c.outcome ≠ .completed issues) ∧
        ∀ d ∈ past.queue, s.deliveries d.ticket = 1) ∧
      execute? workers s (List.replicate s.queue.length .dispatch) =
        some { s with queue := [], calls := s.calls ++ s.queue.map Delivery.lateCall } ∧
      ∀ first debounced rest ticket, after = first ++ .submit debounced :: rest →
        (before ++ .shutdown :: first).countP Label.isSubmit = ticket →
        s.run? ticket = none ∧ s.deliveries ticket = 1 ∧
          ∀ c ∈ s.calls ++ s.queue.map Delivery.lateCall, c.ticket = ticket →
            c.outcome = .cancelled := by
  have hdown : s.down = true := (down_iff_of_execute? h).mpr (by simp)
  refine ⟨isRunning_eq_false_of_down h hdown, ?_, ?_, ?_⟩
  · obtain ⟨past, hpast, hfrom⟩ := execute?_append_eq_some.mp h
    obtain ⟨shut, hshutdown, hafter⟩ := execute?_cons_eq_some.mp hfrom
    have hshut := execute?_concat hpast hshutdown
    have hshutDown : shut.down = true := (down_iff_of_execute? hshut).mpr (by simp)
    obtain ⟨told, later, hhanded⟩ := exists_handedOn hshut hshutDown hafter
    -- The shutdown itself neither tells nor queues anything.
    have hsame : shut.calls = past.calls ∧ shut.queue = past.queue := by
      cases steps_of_step? hshutdown <;> exact ⟨rfl, rfl⟩
    refine ⟨past, told, later, hpast, hsame.1 ▸ hhanded.1, hsame.2 ▸ hhanded.2, ?_, ?_⟩
    · intro c hc issues
      have hmem : c ∈ (shut.queue ++ later).map Delivery.lateCall := by
        rw [← hhanded.2]
        exact List.mem_append_left _ hc
      obtain ⟨d, -, rfl⟩ := List.mem_map.mp hmem
      exact d.lateCall_ne_completed issues
    · intro d hd
      exact hhanded.deliveries_eq_one h (hsame.2 ▸ hd)
  · rw [execute?_replicate_dispatch, List.map_congr_left fun d hd => call_eq_lateCall h hdown hd]
  · rintro first debounced rest ticket rfl rfl
    rw [← List.cons_append, ← List.append_assoc] at h
    have hrefused := refused_of_submit h (List.mem_append_right _ List.mem_cons_self)
    refine ⟨?_, deliveries_of_refused h hrefused, fun c hc => outcome_of_refused h hrefused hc⟩
    exact List.find?_eq_none.mpr fun r hr => by simpa using hrefused.ticket_ne r hr

/-- A result that waits at the shutdown, and two requests after it. -/
def afterUndisturbed : List Label :=
  [.submit true, .shutdown, .dispatch, .submit false, .dispatch]

theorem shutdown_undisturbed :
    ∃ s, execute? 1 .start (undisturbed ++ .shutdown :: afterUndisturbed) = some s ∧
      s.calls = [⟨0, .cancelled⟩, ⟨1, .cancelled⟩] ∧ s.isRunning = false ∧ s.deliveries 2 = 1 := by
  have hrun : execute? 1 .start (undisturbed ++ .shutdown :: afterUndisturbed) = some
      ⟨3, 2, none, [⟨0, 1, false, .delivered, .ended (.completed [])⟩], [⟨2, 0, .cancelled⟩],
        [⟨0, .cancelled⟩, ⟨1, .cancelled⟩], true⟩ := by decide
  obtain ⟨hidle, -, -, hrefused⟩ := shutdown_final hrun
  obtain ⟨-, honce, -⟩ := hrefused [.submit true, .shutdown, .dispatch] false [.dispatch] 2 rfl rfl
  exact ⟨_, hrun, rfl, hidle, honce⟩

end CatchmentLint.Executor
