import CatchmentLint.Proofs.Executor.InFlight

/-!
# CatchmentLint.Proofs.Executor.Following

One request, followed through a run of the executor.

* `ownMoves` — the moves of one request among the labels;
* `exists_successor` — what a step makes of one run;
* `exists_run_after` — what is kept by its cancellation and by its own moves holds of a run ever after;
* `forall_runs_ownMoves` — the same from the start, for all runs;
* `down_iff_of_execute?` — the executor is down after a shutdown;
* `refused_of_submit`, `exists_run_of_submit` — a request that comes then has no run, and one that
  comes before has.
-/

namespace CatchmentLint.Executor

/-! ## Moves of one request -/

def Label.moveOf? (ticket : Nat) : Label → Option Move
  | .move mover m => if mover = ticket then some m else none
  | _ => none

/-- The moves of one request, in their order. -/
def ownMoves (ticket : Nat) (labels : List Label) : List Move :=
  labels.filterMap (Label.moveOf? ticket)

theorem Label.moveOf?_eq_some {ticket : Nat} {label : Label} {m : Move} :
    label.moveOf? ticket = some m ↔ label = .move ticket m := by
  cases label with
  | move mover m' =>
      by_cases heq : mover = ticket
      · simp [moveOf?, heq]
      · simp [moveOf?, heq]
  | _ => simp [moveOf?]

/-- The moves of a run are those that bear its ticket. -/
theorem mem_ownMoves {ticket : Nat} {labels : List Label} {m : Move} :
    m ∈ ownMoves ticket labels ↔ .move ticket m ∈ labels := by
  simp [ownMoves, Label.moveOf?_eq_some]

theorem ownMoves_concat (ticket : Nat) (labels : List Label) (label : Label) :
    ownMoves ticket (labels ++ [label]) = ownMoves ticket labels ++ (label.moveOf? ticket).toList := by
  cases hlabel : label.moveOf? ticket <;> simp [ownMoves, hlabel]

/-! ## Runs that go on -/

/-- What a step makes of a run. -/
inductive Successor (s : State) (label : Label) (r : Run) : Run → Prop where
  | kept (hlabel : label.moveOf? r.ticket = none) : Successor s label r r
  | cancelled (hlabel : label.moveOf? r.ticket = none) :
      Successor s label r { r with cancelled := true }
  | moved {m : Move} {free : Bool} {moved : Run} (hlabel : label.moveOf? r.ticket = some m)
      (h : r.move? s.down free m = some moved) : Successor s label r moved

theorem Successor.ticket_eq {s : State} {label : Label} {r r' : Run} (h : Successor s label r r') :
    r'.ticket = r.ticket := by
  cases h with
  | moved _ hmoved => exact (Run.move?_kept hmoved).1
  | _ => rfl

section Successor

variable {workers : Nat} {label : Label} {before after labels : List Label} {s s' : State} {r : Run}

theorem exists_successor_cancelSlot (hr : r ∈ s.runs) (hlabel : label.moveOf? r.ticket = none) :
    ∃ r' ∈ s.cancelSlot.runs, Successor s label r r' := by
  refine ⟨_, List.mem_map_of_mem hr, ?_⟩
  split
  · exact .cancelled hlabel
  · exact .kept hlabel

/-- Every run is there after a step, be it kept, cancelled or moved. -/
theorem exists_successor (hdistinct : Distinct s.runs) (hstep : step? workers s label = some s')
    (hr : r ∈ s.runs) : ∃ r' ∈ s'.runs, Successor s label r r' := by
  cases steps_of_step? hstep with
  | @accept debounced =>
      obtain ⟨r', hr', hsuccessor⟩ :
          ∃ r' ∈ s.cancelSlot.runs, Successor s (.submit debounced) r r' :=
        exists_successor_cancelSlot hr rfl
      exact ⟨r', List.mem_append_left _ hr', hsuccessor⟩
  | cancel | shutdown => exact exists_successor_cancelSlot hr rfl
  | refuse | stayDown | dispatch => exact ⟨r, hr, .kept rfl⟩
  | @move mover moved m hmover hmoved =>
      have hkept := (Run.move?_kept hmoved).1
      refine ⟨_, List.mem_map_of_mem hr, ?_⟩
      by_cases heq : r.ticket = moved.ticket
      · obtain rfl := hdistinct.eq_of_ticket r hr mover hmover (heq.trans hkept)
        rw [if_pos heq]
        exact .moved (if_pos rfl) hmoved
      · rw [if_neg heq]
        exact .kept (if_neg fun hsame => heq (hsame.symm.trans hkept.symm))

/-- What is kept by its cancellation and by its own moves holds of a run however the executor goes on. -/
theorem exists_run_after {P : List Move → Run → Prop}
    (hcancel : ∀ moves r, P moves r → P moves { r with cancelled := true })
    (hmove : ∀ moves r down free m moved, P moves r → r.move? down free m = some moved →
      P (moves ++ [m]) moved)
    (hbefore : execute? workers .start before = some s) (hr : r ∈ s.runs) (hP : P [] r)
    (h : execute? workers s after = some s') :
    ∃ r' ∈ s'.runs, r'.ticket = r.ticket ∧ P (ownMoves r.ticket after) r' := by
  refine execute?_induction_after
    (P := fun labels s => ∃ r' ∈ s.runs, r'.ticket = r.ticket ∧ P (ownMoves r.ticket labels) r')
    hbefore ⟨r, hr, rfl, hP⟩ ?_ h
  rintro labels s label s' hs ⟨old, hold, hticket, hP⟩ hstep
  obtain ⟨r', hr', hsuccessor⟩ := exists_successor (slotInvariant_of_execute? hs).distinct hstep hold
  refine ⟨r', hr', hsuccessor.ticket_eq.trans hticket, ?_⟩
  rw [ownMoves_concat, ← hticket] at *
  cases hsuccessor with
  | kept hlabel => simpa [hlabel] using hP
  | cancelled hlabel => simpa [hlabel] using hcancel _ _ hP
  | moved hlabel hmoved => simpa [hlabel] using hmove _ _ _ _ _ _ hP hmoved

/-- A run after a step comes from one before it, or is the one that the step accepts. -/
theorem successor_or_accepted (h : execute? workers .start labels = some s)
    (hstep : step? workers s label = some s') (hr : r ∈ s'.runs) :
    (∃ old ∈ s.runs, Successor s label old r) ∨
      r.ticket = s.tickets ∧ r.task = .absent ∧ (r.phase = .waiting ∨ r.phase = .ready) ∧
        label.moveOf? r.ticket = none := by
  have hsuccessor : ∀ old ∈ s.runs, r.ticket = old.ticket → Successor s label old r := by
    intro old hold hticket
    obtain ⟨r', hr', hsuccessor⟩ :=
      exists_successor (slotInvariant_of_execute? h).distinct hstep hold
    have hdistinct := (slotInvariant_of_execute? (execute?_concat h hstep)).distinct
    rwa [hdistinct.eq_of_ticket r hr r' hr' (hticket.trans hsuccessor.ticket_eq.symm)]
  cases origin_of_step? hstep r hr with
  | kept hold => exact .inl ⟨r, hold, hsuccessor r hold rfl⟩
  | @cancelled old hold _ heq => exact .inl ⟨old, hold, hsuccessor old hold (by rw [heq])⟩
  | @moved old m free hold hmoved =>
      exact .inl ⟨old, hold, hsuccessor old hold (Run.move?_kept hmoved).1⟩
  | accepted hticket habsent hphase =>
      refine .inr ⟨hticket, habsent, hphase, ?_⟩
      cases label with
      | move ticket m =>
          obtain ⟨mover, hmover, rfl, -⟩ := State.move?_eq_some hstep
          have hlt := ((traced_of_execute? h).runs_dated mover hmover).ticket_lt
          exact if_neg fun heq => Nat.ne_of_lt hlt (heq.trans hticket)
      | _ => rfl

/-- A request that has not been made has no moves. -/
theorem ownMoves_eq_nil (h : execute? workers .start labels = some s) :
    ∀ ticket, s.tickets ≤ ticket → ownMoves ticket labels = [] := by
  refine execute?_induction_reached
    (P := fun labels s => ∀ ticket, s.tickets ≤ ticket → ownMoves ticket labels = [])
    (fun _ _ => rfl) ?_ h
  intro labels s label s' hs hnone hstep ticket hle
  have hlabel : label.moveOf? ticket = none := by
    refine Option.eq_none_iff_forall_ne_some.mpr fun m hm => ?_
    rw [Label.moveOf?_eq_some] at hm
    subst hm
    obtain ⟨mover, hmover, rfl, moved, -, rfl⟩ := State.move?_eq_some hstep
    exact absurd ((traced_of_execute? hs).runs_dated mover hmover).ticket_lt (Nat.not_lt.mpr hle)
  rw [ownMoves_concat, hlabel, hnone ticket (Nat.le_trans (tickets_le_of_step? hstep) hle)]
  rfl

/-- What holds of new runs and is kept by cancellations and by moves holds of every run, by its moves
so far. -/
theorem forall_runs_ownMoves {P : List Move → Run → Prop}
    (hcancel : ∀ moves r, P moves r → P moves { r with cancelled := true })
    (hmove : ∀ moves r down free m moved, P moves r → r.move? down free m = some moved →
      P (moves ++ [m]) moved)
    (hnew : ∀ r : Run, r.task = .absent → r.phase = .waiting ∨ r.phase = .ready → P [] r)
    (h : execute? workers .start labels = some s) : ∀ r ∈ s.runs, P (ownMoves r.ticket labels) r := by
  refine execute?_induction_reached (P := fun labels s => ∀ r ∈ s.runs, P (ownMoves r.ticket labels) r)
    (by simp [State.start]) ?_ h
  intro labels s label s' hs hruns hstep r hr
  rw [ownMoves_concat]
  rcases successor_or_accepted hs hstep hr with ⟨old, hold, hsuccessor⟩ | ⟨hticket, habsent, hphase, hlabel⟩
  · rw [hsuccessor.ticket_eq]
    cases hsuccessor with
    | kept hlabel => simpa [hlabel] using hruns _ hold
    | cancelled hlabel => simpa [hlabel] using hcancel _ _ (hruns _ hold)
    | moved hlabel hmoved => simpa [hlabel] using hmove _ _ _ _ _ _ (hruns _ hold) hmoved
  · rw [hlabel, ownMoves_eq_nil hs r.ticket (Nat.le_of_eq hticket.symm)]
    exact hnew r habsent hphase

/-! ## Accepted requests -/

/-- The executor is down just where a shutdown has been asked for. -/
theorem down_iff_of_execute? (h : execute? workers .start labels = some s) :
    s.down = true ↔ .shutdown ∈ labels := by
  refine execute?_induction (P := fun labels s => s.down = true ↔ .shutdown ∈ labels)
    (by simp [State.start]) ?_ h
  intro labels s label s' hs hstep
  cases steps_of_step? hstep with
  | shutdown | stayDown => simp_all
  | _ => simpa [State.accept, State.refuse, State.cancel, State.cancelSlot] using hs

/-- The request with this ticket was refused, so that it has no run. -/
structure Refused (ticket : Nat) (s : State) : Prop where
  ticket_lt : ticket < s.tickets
  ticket_ne : ∀ r ∈ s.runs, r.ticket ≠ ticket

theorem Traced.refused_refuse (h : Traced labels s) : Refused s.tickets s.refuse where
  ticket_lt := Nat.lt_succ_self _
  ticket_ne r hr := Nat.ne_of_lt (h.runs_dated r hr).ticket_lt

/-- A request that was refused gets no run later. -/
theorem Refused.step {ticket : Nat} (h : Refused ticket s) (hstep : step? workers s label = some s') :
    Refused ticket s' where
  ticket_lt := Nat.lt_of_lt_of_le h.ticket_lt (tickets_le_of_step? hstep)
  ticket_ne := by
    intro r hr
    cases origin_of_step? hstep r hr with
    | kept hold => exact h.ticket_ne r hold
    | @cancelled old hold _ heq =>
        subst heq
        exact h.ticket_ne old hold
    | moved hold hmoved =>
        rw [(Run.move?_kept hmoved).1]
        exact h.ticket_ne _ hold
    | accepted hticket _ _ _ =>
        rw [hticket]
        exact (Nat.ne_of_lt h.ticket_lt).symm

/-- A request that comes after a shutdown is refused. -/
theorem refused_of_submit {debounced : Bool}
    (h : execute? workers .start (before ++ .submit debounced :: after) = some s)
    (hdown : .shutdown ∈ before) : Refused (before.countP Label.isSubmit) s := by
  obtain ⟨past, hpast, h⟩ := execute?_append_eq_some.mp h
  obtain ⟨next, hnext, hafter⟩ := execute?_cons_eq_some.mp h
  have hrefuse : next = past.refuse := by
    rw [← Option.some.inj hnext, State.submit, if_pos ((down_iff_of_execute? hpast).mpr hdown)]
  subst hrefuse
  have htraced := traced_of_execute? hpast
  rw [← htraced.tickets_eq]
  exact execute?_keeps (fun _ _ _ => Refused.step) htraced.refused_refuse hafter

/-- A request that comes before any shutdown has a run, of which that holds which holds of its run at
first and is kept. -/
theorem exists_run_of_submit {P : List Move → Run → Prop} {debounced : Bool}
    (hcancel : ∀ moves r, P moves r → P moves { r with cancelled := true })
    (hmove : ∀ moves r down free m moved, P moves r → r.move? down free m = some moved →
      P (moves ++ [m]) moved)
    (hnew : ∀ ticket generation,
      P [] ⟨ticket, generation, false, if debounced then .waiting else .ready, .absent⟩)
    (h : execute? workers .start (before ++ .submit debounced :: after) = some s)
    (hup : .shutdown ∉ before) :
    ∃ r ∈ s.runs, r.ticket = before.countP Label.isSubmit ∧
      P (ownMoves (before.countP Label.isSubmit) after) r := by
  obtain ⟨past, hpast, h⟩ := execute?_append_eq_some.mp h
  obtain ⟨next, hnext, h⟩ := execute?_cons_eq_some.mp h
  have haccept : next = past.accept debounced := by
    rw [← Option.some.inj hnext, State.submit, if_neg]
    rwa [down_iff_of_execute? hpast]
  subst haccept
  rw [← (traced_of_execute? hpast).tickets_eq]
  exact exists_run_after hcancel hmove (execute?_concat hpast hnext)
    (List.mem_append_right _ (List.mem_singleton_self _)) (hnew _ _) h

end Successor

end CatchmentLint.Executor
