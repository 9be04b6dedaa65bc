import CatchmentLint.Proofs.Executor.Following

/-!
# CatchmentLint.Proofs.Executor.Failures

A failure is told to the caller just as the run of its request has found it, also of a request that
has been superseded.

* `OutcomeTold` — the outcome of a run is that of its task where it has observed the task, and else
  the cancellation;
* `Reported` — so is what is delivered of it;
* `dispatch_failed_iff` — a failure is told just when the run has observed a task that failed.
-/

namespace CatchmentLint.Executor

/-! ## Outcomes of runs -/

/-- The outcome that a run has by its moves: the one of its task if it has observed that. -/
def Told (moves : List Move) (r : Run) (o : Outcome) : Prop :=
  if .observeTask ∈ moves then r.task.outcome? = some o else o = .cancelled

/-- What is decided of a run is what its moves tell, and nothing is observed before. -/
structure OutcomeTold (moves : List Move) (r : Run) : Prop where
  undecided : r.isUndecided = true → .observeTask ∉ moves
  settled : ∀ o, r.phase = .decided o ∨ r.phase = .released o → Told moves r o

section Told

variable {moves : List Move} {r moved : Run} {down free : Bool} {m : Move} {o : Outcome}

/-- A task that is over stays as it is. -/
theorem Run.move?_outcome (hmoved : r.move? down free m = some moved) (hphase : r.phase ≠ .ready)
    (h : r.task.outcome? = some o) : moved.task.outcome? = some o := by
  cases Run.moves_of_move? hmoved with
  | begin hready => exact absurd hready hphase
  | startTask htask | endTask htask | discardTask _ htask =>
      rw [htask] at h
      contradiction
  | _ => exact h

/-- What the moves tell of the outcome is settled once the race is over. -/
theorem Told.move? (h : Told moves r o) (hmoved : r.move? down free m = some moved)
    (hphase : r.phase ≠ .ready) (hracing : r.phase ≠ .racing) : Told (moves ++ [m]) moved o := by
  have hm : m ≠ .observeTask := by
    rintro rfl
    cases Run.moves_of_move? hmoved with
    | observeTask hrace => exact hracing hrace
  unfold Told at h ⊢
  by_cases hobserved : .observeTask ∈ moves
  · rw [if_pos hobserved] at h
    rw [if_pos (List.mem_append_left _ hobserved)]
    exact Run.move?_outcome hmoved hphase h
  · rw [if_neg hobserved] at h
    rwa [if_neg]
    simp [hobserved, hm.symm]

/-- Without the task, the race ends with the cancellation. -/
theorem told_cancelled (hobserved : .observeTask ∉ moves) (hm : m ≠ .observeTask) :
    Told (moves ++ [m]) r .cancelled := by
  unfold Told
  rw [if_neg]
  simp [hobserved, hm.symm]

theorem OutcomeTold.move? (h : OutcomeTold moves r) (hmoved : r.move? down free m = some moved) :
    OutcomeTold (moves ++ [m]) moved := by
  have hcases := Run.moves_of_move? hmoved
  constructor
  case undecided =>
    intro hundecided
    rw [List.mem_append, List.mem_singleton, not_or]
    cases hcases with
    | expire hphase | begin hphase =>
        exact ⟨h.undecided (by rw [Run.isUndecided, hphase]), by simp⟩
    | startTask | endTask | discardTask => exact ⟨h.undecided hundecided, by simp⟩
    | _ => contradiction
  case settled =>
    intro o ho
    have hkept : r.phase = .decided o ∨ r.phase = .released o → Told (moves ++ [m]) moved o := by
      intro hphase
      refine (h.settled o hphase).move? hmoved ?_ ?_ <;> rintro heq <;> simp [heq] at hphase
    cases hcases with
    | startTask | endTask | discardTask => exact hkept ho
    | release hphase =>
        obtain rfl : _ = o := by simpa using ho
        exact hkept (.inl hphase)
    | observeTask hphase htask =>
        obtain rfl : _ = o := by simpa using ho
        unfold Told
        rwa [if_pos (List.mem_append_right _ (List.mem_singleton_self _))]
    | giveUp hphase | observeCancellation hphase | timeOut hphase =>
        obtain rfl : _ = o := by simpa using ho
        exact told_cancelled (h.undecided (by rw [Run.isUndecided, hphase])) (by simp)
    | _ => simp at ho

end Told

/-! ## Deliveries that wait -/

/-- What waits for the caller is the outcome of a run, or that of a request that was refused. -/
def Reported (labels : List Label) (s : State) (d : Delivery) : Prop :=
  (∃ r ∈ s.runs, r.ticket = d.ticket ∧ r.phase = .delivered ∧
      Told (ownMoves d.ticket labels) r d.outcome) ∨
    d.outcome = .cancelled ∧ Refused d.ticket s

section Reported

variable {workers : Nat} {labels : List Label} {label : Label} {s s' : State} {d : Delivery}

theorem outcomeTold_of_execute? (h : execute? workers .start labels = some s) :
    ∀ r ∈ s.runs, OutcomeTold (ownMoves r.ticket labels) r := by
  refine forall_runs_ownMoves (fun _ _ h => ⟨h.undecided, h.settled⟩)
    (fun _ _ _ _ _ _ h hmoved => h.move? hmoved) ?_ h
  intro r _ hphase
  refine ⟨by simp, fun o ho => ?_⟩
  rcases hphase with hphase | hphase <;> simp [hphase] at ho

/-- Every step leaves what it says of a delivery that waits. -/
theorem Reported.step (h : Reported labels s d) (hs : execute? workers .start labels = some s)
    (hstep : step? workers s label = some s') : Reported (labels ++ [label]) s' d := by
  rcases h with ⟨r, hr, hticket, hphase, htold⟩ | ⟨hcancelled, hrefused⟩
  · obtain ⟨r', hr', hsuccessor⟩ :=
      exists_successor (slotInvariant_of_execute? hs).distinct hstep hr
    refine .inl ⟨r', hr', hsuccessor.ticket_eq.trans hticket, ?_⟩
    rw [ownMoves_concat, ← hticket] at *
    cases hsuccessor with
    | kept hlabel => simpa [hlabel] using ⟨hphase, htold⟩
    | cancelled hlabel => simpa [hlabel] using ⟨hphase, htold⟩
    | moved hlabel hmoved =>
        rcases Run.move?_delivered hmoved with ⟨hstill, -⟩ | ⟨-, hnot, -⟩
        · have htold' := htold.move? hmoved (by simp [hphase]) (by simp [hphase])
          simpa [hlabel] using ⟨hstill.mpr hphase, htold'⟩
        · exact absurd hphase hnot
  · exact .inr ⟨hcancelled, hrefused.step hstep⟩

theorem reported_of_execute? (h : execute? workers .start labels = some s) :
    ∀ d ∈ s.queue, Reported labels s d := by
  refine execute?_induction_reached (P := fun labels s => ∀ d ∈ s.queue, Reported labels s d)
    (by simp [State.start]) ?_ h
  intro labels s label s' hs hqueue hstep d hd
  rcases queue_of_step? hstep hd with hold | ⟨r, hr, o, hphase, rfl, rfl⟩ | ⟨rfl, rfl⟩
  · exact (hqueue d hold).step hs hstep
  · obtain ⟨r', hr', hsuccessor⟩ :=
      exists_successor (slotInvariant_of_execute? hs).distinct hstep hr
    have htold := (outcomeTold_of_execute? hs r hr).settled o (.inr hphase)
    refine .inl ⟨r', hr', hsuccessor.ticket_eq, ?_⟩
    cases hsuccessor with
    | kept hlabel | cancelled hlabel => simp [Label.moveOf?] at hlabel
    | moved hlabel hmoved =>
        obtain rfl : Move.deliver = _ := by simpa [Label.moveOf?] using hlabel
        have htold' := htold.move? hmoved (by simp [hphase]) (by simp [hphase])
        refine ⟨?_, by simpa [ownMoves_concat, Label.moveOf?] using htold'⟩
        cases Run.moves_of_move? hmoved with
        | deliver => rfl
  · exact .inr ⟨rfl, (traced_of_execute? hs).refused_refuse⟩

end Reported

/-! ## Failures that are told -/

theorem Delivery.call_failed_iff {latest : Nat} {d : Delivery} {message : Text} :
    (d.call latest).outcome = .failed message ↔ d.outcome = .failed message := by
  unfold Delivery.call
  cases d.outcome with
  | completed issues => by_cases hlatest : d.generation = latest <;> simp [hlatest]
  | cancelled => simp
  | failed message' => simp

/-- A delivery is told as a failure if the run of its request has observed that its task had failed,
and whether that request is current does not matter.  Every other delivery of a request that is not
current is told as cancelled. -/
theorem dispatch_failed_iff {workers : Nat} {labels : List Label} {s s' : State}
    (hrun : execute? workers .start labels = some s)
    (hdispatch : step? workers s .dispatch = some s') :
    ∃ d queue c, s.queue = d :: queue ∧
      s' = { s with queue := queue, calls := s.calls ++ [c] } ∧ c.ticket = d.ticket ∧
      (∀ message, c.outcome = .failed message ↔
        .move d.ticket .observeTask ∈ labels ∧
          ∃ r ∈ s.runs, r.ticket = d.ticket ∧ r.task.outcome? = some (.failed message)) ∧
      (¬IsCurrent labels d.ticket → (∀ message, c.outcome ≠ .failed message) →
        c.outcome = .cancelled) := by
  obtain ⟨d, queue, hqueue, rfl⟩ := State.dispatch?_eq_some hdispatch
  have hd : d ∈ s.queue := by rw [hqueue]; exact List.mem_cons_self
  refine ⟨d, queue, d.call s.latest, hqueue, rfl, d.call_ticket s.latest, ?_, ?_⟩
  · intro message
    rw [Delivery.call_failed_iff, ← mem_ownMoves]
    -- What is delivered was reported by a run, or the request was refused and has none.
    rcases reported_of_execute? hrun d hd with ⟨r, hr, hticket, -, htold⟩ | ⟨hcancelled, hrefused⟩
    · have hdistinct := (slotInvariant_of_execute? hrun).distinct
      unfold Told at htold
      split at htold
      · next hobserved =>
          refine ⟨fun hfailed => ⟨hobserved, r, hr, hticket, hfailed ▸ htold⟩, ?_⟩
          rintro ⟨-, r', hr', hticket', htask⟩
          rw [hdistinct.eq_of_ticket r' hr' r hr (hticket'.trans hticket.symm), htold] at htask
          exact Option.some.inj htask
      · next hobserved =>
          refine iff_of_false ?_ fun h => hobserved h.1
          simp [htold]
    · refine iff_of_false ?_ fun h => ?_
      · simp [hcancelled]
      · obtain ⟨-, r, hr, hticket, -⟩ := h
        exact hrefused.ticket_ne r hr hticket
  · intro hcurrent hfailed
    cases houtcome : (d.call s.latest).outcome with
    | cancelled => rfl
    | failed message => exact absurd houtcome (hfailed message)
    | completed issues =>
        obtain ⟨hcompleted, hlatest⟩ := Delivery.call_completed_iff.mp houtcome
        have hdated := (traced_of_execute? hrun).queue_dated d hd issues hcompleted
        exact absurd (hdated.eq_latest_iff.mp hlatest) hcurrent

/-- A request whose task fails, up to its delivery. -/
def failing : List Label :=
  [.submit false, .move 0 .begin, .move 0 .startTask, .move 0 (.endTask (.failed "boom".toList)),
    .move 0 .observeTask, .move 0 .release, .move 0 .deliver]

/-- It is told as it is where it is dispatched at once. -/
theorem dispatch_failing :
    ∃ s s', execute? 1 .start failing = some s ∧ step? 1 s .dispatch = some s' ∧
      s'.calls = [⟨0, .failed "boom".toList⟩] ∧ .move 0 .observeTask ∈ failing := by
  have hrun : execute? 1 .start failing = some ⟨1, 1, none,
      [⟨0, 1, false, .delivered, .ended (.failed "boom".toList)⟩],
      [⟨0, 1, .failed "boom".toList⟩], [], false⟩ := by decide
  obtain ⟨d, queue, c, hqueue, hs', hticket, hfailed, -⟩ := dispatch_failed_iff hrun rfl
  cases hqueue
  cases hs'
  exact ⟨_, _, hrun, rfl, rfl, ((hfailed _).mp rfl).1⟩

/-- And also where another request has superseded it before. -/
theorem dispatch_failing_superseded :
    ∃ s s', execute? 1 .start (failing ++ [.submit false]) = some s ∧
      step? 1 s .dispatch = some s' ∧ ¬IsCurrent (failing ++ [.submit false]) 0 ∧
      s'.calls = [⟨0, .failed "boom".toList⟩] := by
  refine ⟨⟨2, 2, some 2, [⟨0, 1, false, .delivered, .ended (.failed "boom".toList)⟩,
    ⟨1, 2, false, .ready, .absent⟩], [⟨0, 1, .failed "boom".toList⟩], [], false⟩, _, by decide, rfl, ?_,
    by decide⟩
  exact not_isCurrent_append rfl (by decide)

end CatchmentLint.Executor
