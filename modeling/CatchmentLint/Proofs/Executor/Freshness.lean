import CatchmentLint.Proofs.Executor.Step

/-!
# CatchmentLint.Proofs.Executor.Freshness

No result is told to the caller that anything has superseded.

* `IsCurrent` — by the labels of a run of the executor: nothing has superseded a request since.
* `Dated.step` — the generation of a request is the latest one just as long as it is current.
* `traced_of_execute?` — after every run that is so of all requests whose results can come yet.
-/

namespace CatchmentLint.Executor

/-! ## Requests and what supersedes them -/

def Label.isSubmit : Label → Bool
  | .submit _ => true
  | _ => false

/-- Whether a label leaves no earlier request current. -/
def Label.supersedes : Label → Bool
  | .submit _ | .cancel | .shutdown => true
  | .dispatch | .move .. => false

/-- The request with this ticket is the most recent one, and neither a cancellation nor a shutdown
has come after it.  Tickets count the requests before. -/
def IsCurrent (labels : List Label) (ticket : Nat) : Prop :=
  ∃ before debounced after, labels = before ++ .submit debounced :: after ∧
    before.countP Label.isSubmit = ticket ∧ ∀ label ∈ after, label.supersedes = false

/-- What supersedes leaves no earlier request current. -/
theorem not_isCurrent_append {labels : List Label} {label : Label} {ticket : Nat}
    (hlabel : label.supersedes = true) (hticket : ticket < labels.countP Label.isSubmit) :
    ¬IsCurrent (labels ++ [label]) ticket := by
  rintro ⟨before, debounced, after, heq, hcount, hafter⟩
  rcases List.eq_nil_or_concat after with rfl | ⟨after, last, rfl⟩
  · obtain ⟨rfl, -⟩ := List.append_inj' heq rfl
    omega
  · rw [List.concat_eq_append, ← List.cons_append, ← List.append_assoc] at heq
    obtain ⟨-, hlast⟩ := List.append_inj' heq rfl
    have hlast' := hafter last (by simp)
    rw [← List.head_eq_of_cons_eq hlast, hlabel] at hlast'
    contradiction

theorem isCurrent_append_iff {labels : List Label} {label : Label} {ticket : Nat}
    (hlabel : label.supersedes = false) :
    IsCurrent (labels ++ [label]) ticket ↔ IsCurrent labels ticket := by
  constructor
  · rintro ⟨before, debounced, after, heq, hcount, hafter⟩
    rcases List.eq_nil_or_concat after with rfl | ⟨after, last, rfl⟩
    · obtain ⟨-, hlast⟩ := List.append_inj' heq rfl
      rw [List.head_eq_of_cons_eq hlast] at hlabel
      contradiction
    · rw [List.concat_eq_append, ← List.cons_append, ← List.append_assoc] at heq
      obtain ⟨rfl, -⟩ := List.append_inj' heq rfl
      exact ⟨before, debounced, after, rfl, hcount, fun l hl => hafter l (by simp [hl])⟩
  · rintro ⟨before, debounced, after, rfl, hcount, hafter⟩
    refine ⟨before, debounced, after ++ [label], by simp, hcount, fun l hl => ?_⟩
    cases List.mem_append.mp hl with
    | inl hmem => exact hafter l hmem
    | inr hmem => rw [List.mem_singleton.mp hmem]; exact hlabel

theorem isCurrent_append_submit (labels : List Label) (debounced : Bool) :
    IsCurrent (labels ++ [.submit debounced]) (labels.countP Label.isSubmit) :=
  ⟨labels, debounced, [], rfl, rfl, by simp⟩

/-! ## Generations -/

/-- The generation of a request that was accepted, as the labels and the state have it. -/
structure Dated (labels : List Label) (s : State) (ticket generation : Nat) : Prop where
  ticket_lt : ticket < s.tickets
  le_latest : generation ≤ s.latest
  eq_latest_iff : generation = s.latest ↔ IsCurrent labels ticket
  /-- The shutdown was a cancellation too, and no generation comes after it but by others. -/
  ne_latest_of_down : s.down = true → generation ≠ s.latest

section Dated

variable {labels : List Label} {label : Label} {s s' : State} {ticket generation : Nat}

/-- A step that supersedes nothing leaves the dates of requests. -/
theorem Dated.kept (h : Dated labels s ticket generation) (hlabel : label.supersedes = false)
    (htickets : s'.tickets = s.tickets) (hlatest : s'.latest = s.latest) (hdown : s'.down = s.down) :
    Dated (labels ++ [label]) s' ticket generation where
  ticket_lt := by rw [htickets]; exact h.ticket_lt
  le_latest := by rw [hlatest]; exact h.le_latest
  eq_latest_iff := by rw [hlatest, isCurrent_append_iff hlabel]; exact h.eq_latest_iff
  ne_latest_of_down := by rw [hdown, hlatest]; exact h.ne_latest_of_down

/-- A step that supersedes has to make the generations of all earlier requests old ones. -/
theorem Dated.superseded (h : Dated labels s ticket generation) (hlabel : label.supersedes = true)
    (hcount : s.tickets = labels.countP Label.isSubmit) (htickets : s.tickets ≤ s'.tickets)
    (hlatest : generation < s'.latest) : Dated (labels ++ [label]) s' ticket generation where
  ticket_lt := Nat.lt_of_lt_of_le h.ticket_lt htickets
  le_latest := Nat.le_of_lt hlatest
  eq_latest_iff :=
    iff_of_false (Nat.ne_of_lt hlatest) (not_isCurrent_append hlabel (hcount ▸ h.ticket_lt))
  ne_latest_of_down := fun _ => Nat.ne_of_lt hlatest

/-- Every step keeps the dates of earlier requests right. -/
theorem Dated.step {workers : Nat} (h : Dated labels s ticket generation)
    (hcount : s.tickets = labels.countP Label.isSubmit) (hstep : step? workers s label = some s') :
    Dated (labels ++ [label]) s' ticket generation := by
  have hle := h.le_latest
  -- While the executor is down no step takes a generation, but then none is the latest any more.
  have hdown : s.down = true → generation < s.latest := fun hdown =>
    Nat.lt_of_le_of_ne hle (h.ne_latest_of_down hdown)
  have htickets := tickets_le_of_step? hstep
  cases steps_of_step? hstep with
  | accept | cancel | shutdown => exact h.superseded rfl hcount htickets (Nat.lt_succ_of_le hle)
  | refuse hs | stayDown hs => exact h.superseded rfl hcount htickets (hdown hs)
  | dispatch | move => exact h.kept rfl rfl rfl rfl

end Dated

/-! ## Runs of the executor -/

/-- What the labels of a run of the executor say of the state after it. -/
structure Traced (labels : List Label) (s : State) : Prop where
  tickets_eq : s.tickets = labels.countP Label.isSubmit
  runs_dated : ∀ r ∈ s.runs, Dated labels s r.ticket r.generation
  queue_dated : ∀ d ∈ s.queue, ∀ issues, d.outcome = .completed issues →
    Dated labels s d.ticket d.generation

theorem traced_start : Traced [] .start where
  tickets_eq := rfl
  runs_dated := by simp [State.start]
  queue_dated := by simp [State.start]

section Traced

variable {workers : Nat} {labels : List Label} {label : Label} {s s' : State}

/-- A step keeps what is traced where its runs are old ones or dated anew, and what it queues comes
from a run or is no result. -/
theorem Traced.of_origins (h : Traced labels s) (hstep : step? workers s label = some s')
    (htickets : s'.tickets = (labels ++ [label]).countP Label.isSubmit)
    (hruns : ∀ r ∈ s'.runs, (∃ old ∈ s.runs, r.ticket = old.ticket ∧ r.generation = old.generation) ∨
      Dated (labels ++ [label]) s' r.ticket r.generation)
    (hqueue : ∀ d ∈ s'.queue, d ∈ s.queue ∨
      (∃ r ∈ s.runs, d.ticket = r.ticket ∧ d.generation = r.generation) ∨ d.outcome = .cancelled) :
    Traced (labels ++ [label]) s' where
  tickets_eq := htickets
  runs_dated := by
    intro r hr
    rcases hruns r hr with ⟨old, hold, hticket, hgeneration⟩ | hdated
    · rw [hticket, hgeneration]
      exact (h.runs_dated old hold).step h.tickets_eq hstep
    · exact hdated
  queue_dated := by
    intro d hd issues houtcome
    rcases hqueue d hd with hold | ⟨r, hr, hticket, hgeneration⟩ | hcancelled
    · exact (h.queue_dated d hold issues houtcome).step h.tickets_eq hstep
    · rw [hticket, hgeneration]
      exact (h.runs_dated r hr).step h.tickets_eq hstep
    · rw [hcancelled] at houtcome
      contradiction

theorem cancelSlot_origins : ∀ r ∈ s.cancelSlot.runs,
    ∃ old ∈ s.runs, r.ticket = old.ticket ∧ r.generation = old.generation := by
  intro r hr
  obtain ⟨old, hold, rfl⟩ := List.mem_map.mp hr
  refine ⟨old, hold, ?_⟩
  split <;> exact ⟨rfl, rfl⟩

theorem Traced.submit {debounced : Bool} (h : Traced labels s)
    (hstep : step? workers s (.submit debounced) = some s') :
    Traced (labels ++ [.submit debounced]) s' := by
  have hcount : s.tickets + 1 = (labels ++ [Label.submit debounced]).countP Label.isSubmit := by
    rw [List.countP_append, ← h.tickets_eq]
    rfl
  by_cases hdown : s.down = true
  · have hs' : s' = s.refuse := by rw [← Option.some.inj hstep, State.submit, if_pos hdown]
    subst hs'
    refine h.of_origins hstep hcount (fun r hr => .inl ⟨r, hr, rfl, rfl⟩) ?_
    intro d hd
    cases List.mem_append.mp hd with
    | inl hold => exact .inl hold
    | inr hnew => rw [List.mem_singleton.mp hnew]; exact .inr (.inr rfl)
  · have hs' : s' = s.accept debounced := by rw [← Option.some.inj hstep, State.submit, if_neg hdown]
    subst hs'
    refine h.of_origins hstep hcount ?_ (fun d hd => .inl hd)
    intro r hr
    cases List.mem_append.mp hr with
    | inl hold => exact .inl (cancelSlot_origins r hold)
    | inr hnew =>
        rw [List.mem_singleton.mp hnew]
        refine .inr ⟨Nat.lt_succ_self _, Nat.le_refl _, ?_, fun hd => absurd hd hdown⟩
        refine iff_of_true rfl ?_
        rw [h.tickets_eq]
        exact isCurrent_append_submit labels debounced

theorem Traced.move {ticket : Nat} {m : Move} (h : Traced labels s)
    (hstep : step? workers s (.move ticket m) = some s') :
    Traced (labels ++ [.move ticket m]) s' := by
  obtain ⟨r, hr, -, moved, hmoved, hs'⟩ := State.move?_eq_some hstep
  subst hs'
  obtain ⟨hticket, hgeneration, -⟩ := Run.move?_kept hmoved
  refine h.of_origins hstep (by simp [h.tickets_eq, Label.isSubmit]) ?_ ?_
  · intro r' hr'
    obtain ⟨old, hold, rfl⟩ := List.mem_map.mp hr'
    split
    · exact .inl ⟨r, hr, hticket, hgeneration⟩
    · exact .inl ⟨old, hold, rfl, rfl⟩
  · intro d hd
    cases List.mem_append.mp hd with
    | inl hold => exact .inl hold
    | inr hnew =>
        unfold Run.sent at hnew
        split at hnew
        · split at hnew
          · rw [List.mem_singleton.mp hnew]
            exact .inr (.inl ⟨r, hr, rfl, rfl⟩)
          · cases hnew
        · cases hnew

/-- What the labels say of the state is kept by every step. -/
theorem Traced.step (h : Traced labels s) (hstep : step? workers s label = some s') :
    Traced (labels ++ [label]) s' := by
  have hcount : label.isSubmit = false →
      s.tickets = (labels ++ [label]).countP Label.isSubmit := by
    intro hlabel
    simp [h.tickets_eq, hlabel]
  cases label with
  | submit debounced => exact h.submit hstep
  | cancel =>
      have hs' := Option.some.inj hstep
      subst hs'
      exact h.of_origins hstep (hcount rfl) (fun r hr => .inl (cancelSlot_origins r hr))
        (fun d hd => .inl hd)
  | shutdown =>
      have hs' := Option.some.inj hstep
      subst hs'
      refine h.of_origins hstep ?_ ?_ ?_
      · rw [← hcount rfl, State.shutdown]
        split <;> rfl
      · intro r hr
        rw [State.shutdown] at hr
        split at hr
        · exact .inl ⟨r, hr, rfl, rfl⟩
        · exact .inl (cancelSlot_origins r hr)
      · intro d hd
        rw [State.shutdown] at hd
        split at hd <;> exact .inl hd
  | dispatch =>
      obtain ⟨first, queue, hqueue, rfl⟩ := State.dispatch?_eq_some hstep
      exact h.of_origins hstep (hcount rfl) (fun r hr => .inl ⟨r, hr, rfl, rfl⟩)
        (fun d hd => .inl (by rw [hqueue]; exact List.mem_cons_of_mem _ hd))
  | move ticket m => exact h.move hstep

end Traced

/-- What the labels say of the state holds after every run of the executor. -/
theorem traced_of_execute? {workers : Nat} {labels : List Label} {s : State}
    (h : execute? workers .start labels = some s) : Traced labels s :=
  execute?_induction traced_start (fun _ _ _ _ => Traced.step) h

/-! ## Dispatches -/

@[simp] theorem Delivery.call_ticket (latest : Nat) (d : Delivery) : (d.call latest).ticket = d.ticket := by
  unfold Delivery.call
  split <;> rfl

theorem Delivery.call_completed_iff {latest : Nat} {d : Delivery} {issues : List Issue} :
    (d.call latest).outcome = .completed issues ↔
      d.outcome = .completed issues ∧ d.generation = latest := by
  unfold Delivery.call
  cases d.outcome with
  | completed found =>
      by_cases hlatest : d.generation = latest
      · simp [hlatest]
      · simp [hlatest]
  | cancelled => simp
  | failed message => simp

theorem Delivery.call_stale {latest : Nat} {d : Delivery} {issues : List Issue}
    (houtcome : d.outcome = .completed issues) (hlatest : d.generation ≠ latest) :
    (d.call latest).outcome = .cancelled := by
  simp [Delivery.call, houtcome, hlatest]

/-- A delivery is told to the caller as completed if it is completed and its request is current;
a completed delivery of any other request is told as cancelled. -/
theorem dispatch_completed_iff {workers : Nat} {labels : List Label} {s s' : State}
    (hrun : execute? workers .start labels = some s)
    (hdispatch : step? workers s .dispatch = some s') :
    ∃ d queue c, s.queue = d :: queue ∧
      s' = { s with queue := queue, calls := s.calls ++ [c] } ∧ c.ticket = d.ticket ∧
      (∀ issues, c.outcome = .completed issues ↔
        d.outcome = .completed issues ∧ IsCurrent labels d.ticket) ∧
      (∀ issues, d.outcome = .completed issues → ¬IsCurrent labels d.ticket →
        c.outcome = .cancelled) := by
  obtain ⟨d, queue, hqueue, rfl⟩ := State.dispatch?_eq_some hdispatch
  have hd : d ∈ s.queue := by rw [hqueue]; exact List.mem_cons_self
  have hlatest : ∀ issues, d.outcome = .completed issues →
      (d.generation = s.latest ↔ IsCurrent labels d.ticket) := fun issues houtcome =>
    ((traced_of_execute? hrun).queue_dated d hd issues houtcome).eq_latest_iff
  refine ⟨d, queue, d.call s.latest, hqueue, rfl, d.call_ticket s.latest, ?_, ?_⟩
  · intro issues
    rw [Delivery.call_completed_iff]
    exact and_congr_right (hlatest issues)
  · intro issues houtcome hcurrent
    exact Delivery.call_stale houtcome fun heq => hcurrent ((hlatest issues houtcome).mp heq)

/-- A request that nothing disturbs, up to its delivery. -/
def undisturbed : List Label :=
  [.submit false, .move 0 .begin, .move 0 .startTask, .move 0 (.endTask (.completed [])),
    .move 0 .observeTask, .move 0 .release, .move 0 .deliver]

/-- The state in which its delivery waits. -/
def undispatched : State :=
  ⟨1, 1, none, [⟨0, 1, false, .delivered, .ended (.completed [])⟩], [⟨0, 1, .completed []⟩], [],
    false⟩

theorem dispatch_undisturbed :
    execute? 1 .start undisturbed = some undispatched ∧
      (step? 1 undispatched .dispatch).map State.calls = some [⟨0, .completed []⟩] ∧
      IsCurrent undisturbed 0 := by
  have hrun : execute? 1 .start undisturbed = some undispatched := by decide
  obtain ⟨d, queue, c, hqueue, hs', hticket, hcompleted, -⟩ := dispatch_completed_iff hrun rfl
  cases hqueue
  cases hs'
  exact ⟨hrun, rfl, ((hcompleted []).mp rfl).2⟩

end CatchmentLint.Executor
