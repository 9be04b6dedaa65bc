import CatchmentLint.Proofs.Executor.Accounting

/-!
# CatchmentLint.Proofs.Executor.IdleCancel

What a cancellation does while nothing is in flight.

* `State.raised` — the state whose later generations are one higher each;
* `step?_raised` — a step does the same in it, but for what a dispatch tells;
* `Divided` — which generations were there at the cancellation, by the tickets;
* `calls_after_idle_cancel` — so a cancellation without a run in flight changes nothing but what is
  told of a result that waits.
-/

namespace CatchmentLint.Executor

/-! ## Higher generations -/

/-- The generation where one more has been taken after `base`. -/
def raise (base generation : Nat) : Nat :=
  if base < generation then generation + 1 else generation

/-- Generations up to the base stay. -/
theorem raise_of_le {base g : Nat} (h : g ≤ base) : raise base g = g := if_neg (Nat.not_lt.mpr h)

/-- Generations from the base on go up by one, and so do the next ones. -/
theorem raise_succ {base g : Nat} (h : base ≤ g) : raise base (g + 1) = g + 1 + 1 :=
  if_pos (Nat.lt_succ_of_le h)

@[simp] theorem raise_inj {base g g' : Nat} : raise base g = raise base g' ↔ g = g' := by
  refine ⟨fun h => ?_, fun h => by rw [h]⟩
  unfold raise at h
  split at h <;> split at h <;> omega

/-- The run with its generation raised. -/
def Run.raised (base : Nat) (r : Run) : Run := { r with generation := raise base r.generation }

/-- The delivery with its generation raised. -/
def Delivery.raised (base : Nat) (d : Delivery) : Delivery :=
  { d with generation := raise base d.generation }

namespace State

/-- The state with the generations after `base` one higher, and with other calls. -/
def raised (base : Nat) (calls : List Call) (s : State) : State :=
  { s with
    latest := s.latest + 1
    slot := s.slot.map (raise base)
    runs := s.runs.map (Run.raised base)
    queue := s.queue.map (Delivery.raised base)
    calls := calls }

end State

section Raised

variable {base : Nat} {calls : List Call} {s : State} {r moved : Run} {down free : Bool} {m : Move}

@[simp] theorem Run.raised_ticket : (r.raised base).ticket = r.ticket := rfl

@[simp] theorem Run.raised_generation : (r.raised base).generation = raise base r.generation := rfl

@[simp] theorem Run.raised_cancelled : (r.raised base).cancelled = r.cancelled := rfl

@[simp] theorem Run.raised_phase : (r.raised base).phase = r.phase := rfl

@[simp] theorem Run.raised_task : (r.raised base).task = r.task := rfl

/-- No move depends on the generation of its run. -/
theorem Run.Moves.raised (h : r.Moves down free m moved) :
    (r.raised base).Moves down free m (moved.raised base) := by
  cases h with
  | begin hphase hcancelled => exact .begin hphase hcancelled
  | _ => constructor <;> assumption

theorem Run.Moves.of_raised (h : (r.raised base).Moves down free m moved) :
    ∃ moved, r.Moves down free m moved := by
  cases h with
  | begin hphase hcancelled => exact ⟨_, .begin hphase hcancelled⟩
  | _ => exact ⟨_, by constructor <;> assumption⟩

/-- A run moves regardless of its generation. -/
theorem Run.move?_raised :
    (r.raised base).move? down free m = (r.move? down free m).map (Run.raised base) := by
  cases hmoved : r.move? down free m with
  | some moved => exact (Run.moves_of_move? hmoved).raised.move?_eq_some
  | none =>
      refine Option.eq_none_iff_forall_ne_some.mpr fun moved hraised => ?_
      obtain ⟨moved, hmoves⟩ := (Run.moves_of_move? hraised).of_raised
      rw [hmoves.move?_eq_some] at hmoved
      contradiction

namespace State

/-- The slot and the runs agree on generations as before. -/
theorem cancelSlot_raised : (s.raised base calls).cancelSlot = s.cancelSlot.raised base calls := by
  have hruns : (s.raised base calls).cancelSlot.runs = (s.cancelSlot.raised base calls).runs := by
    simp only [cancelSlot, raised, List.map_map]
    refine List.map_congr_left fun r _ => ?_
    by_cases hslot : s.slot = some r.generation <;> simp [hslot, Run.raised]
  simpa [cancelSlot, raised] using hruns

/-- A request takes the next generation, which is one higher. -/
theorem submit_raised (hbase : base ≤ s.latest) (debounced : Bool) :
    (s.raised base calls).submit debounced = (s.submit debounced).raised base calls := by
  by_cases hdown : s.down = true
  · have hrefused : raise base 0 = 0 := raise_of_le (Nat.zero_le _)
    simp [submit, raised, hdown, refuse, Delivery.raised, hrefused]
  · have hraised : (s.raised base calls).down ≠ true := hdown
    rw [submit, submit, if_neg hdown, if_neg hraised]
    simp only [accept, cancelSlot_raised]
    simp [raised, Run.raised, raise_succ hbase]

/-- A cancellation takes the next generation, which is one higher. -/
theorem cancel_raised : (s.raised base calls).cancel = s.cancel.raised base calls := by
  rw [cancel, cancelSlot_raised]
  rfl

/-- A shutdown takes the next generation, which is one higher. -/
theorem shutdown_raised : (s.raised base calls).shutdown = s.shutdown.raised base calls := by
  unfold shutdown
  rw [cancel_raised, show (s.raised base calls).down = s.down from rfl]
  split <;> rfl

/-- The run of a request is found by its ticket. -/
theorem run?_raised (ticket : Nat) :
    (s.raised base calls).run? ticket = (s.run? ticket).map (Run.raised base) := by
  rw [run?, raised, List.find?_map]
  rfl

theorem busy_raised : (s.raised base calls).busy = s.busy := by
  rw [busy, raised, List.countP_map]
  rfl

/-- A run gives up the slot that it holds, as before. -/
theorem slotAfter_raised :
    (s.raised base calls).slotAfter (r.raised base) m = (s.slotAfter r m).map (raise base) := by
  cases m with
  | release =>
      by_cases hslot : s.slot = some r.generation <;> simp [slotAfter, raised, hslot]
  | _ => rfl

end State

/-- What a run delivers has its generation. -/
theorem Run.sent_raised : (r.raised base).sent m = (r.sent m).map (Delivery.raised base) := by
  cases m with
  | deliver =>
      simp only [Run.sent, Run.raised_phase]
      split <;> rfl
  | _ => rfl

/-- In the raised state a run moves as it does in the state. -/
theorem State.move?_raised (workers ticket : Nat) :
    (s.raised base calls).move? workers ticket m =
      (s.move? workers ticket m).map (State.raised base calls) := by
  rw [State.move?, State.move?, State.run?_raised, State.busy_raised]
  cases s.run? ticket with
  | none => rfl
  | some r =>
      simp only [Option.map_some, Option.bind_some, Run.move?_raised, Option.map_map]
      refine congrArg (Option.map · _) (funext fun moved => ?_)
      simp only [Function.comp, State.effect_eq, State.slotAfter_raised, Run.sent_raised]
      simp only [State.replaceRun, State.raised, List.map_map, List.map_append, Run.raised_ticket]
      congr 1
      refine List.map_congr_left fun old _ => ?_
      by_cases heq : old.ticket = moved.ticket <;> simp [heq]

end Raised

/-! ## What was there at the cancellation -/

/-- The first `n` requests are those whose generations are not after `base`. -/
structure Divided (n base : Nat) (s : State) : Prop where
  le_tickets : n ≤ s.tickets
  le_latest : base ≤ s.latest
  runs : ∀ r ∈ s.runs, (r.generation ≤ base ↔ r.ticket < n)
  queue : ∀ d ∈ s.queue, d.outcome = .cancelled ∨ (d.generation ≤ base ↔ d.ticket < n)

section Divided

variable {workers n base : Nat} {past : List Label} {label : Label} {s s' : State}

/-- What waits for the caller has a generation and a ticket that have been handed out. -/
theorem queue_le_of_execute? (h : execute? workers .start past = some s) :
    ∀ d ∈ s.queue, d.generation ≤ s.latest ∧ d.ticket < s.tickets := by
  refine execute?_induction_reached
    (P := fun _ s => ∀ d ∈ s.queue, d.generation ≤ s.latest ∧ d.ticket < s.tickets)
    (by simp [State.start]) ?_ h
  intro labels s label s' hs hqueue hstep d hd
  have hlatest := latest_le_of_step? hstep
  have htickets := tickets_le_of_step? hstep
  rcases queue_of_step? hstep hd with hold | ⟨r, hr, o, -, -, rfl⟩ | ⟨rfl, rfl⟩
  · have hbounds := hqueue d hold
    omega
  · have hdated := (traced_of_execute? hs).runs_dated r hr
    exact ⟨Nat.le_trans hdated.le_latest hlatest, Nat.lt_of_lt_of_le hdated.ticket_lt htickets⟩
  · exact ⟨Nat.zero_le _, Nat.lt_succ_self _⟩

/-- At any point, what has been handed out can be told from what will be. -/
theorem divided_of_execute? (h : execute? workers .start past = some s) :
    Divided s.tickets s.latest s where
  le_tickets := Nat.le_refl _
  le_latest := Nat.le_refl _
  runs := by
    intro r hr
    have hdated := (traced_of_execute? h).runs_dated r hr
    exact iff_of_true hdated.le_latest hdated.ticket_lt
  queue := by
    intro d hd
    have hbounds := queue_le_of_execute? h d hd
    exact .inr (iff_of_true hbounds.1 hbounds.2)

/-- Later requests have later generations. -/
theorem Divided.step (h : Divided n base s) (hstep : step? workers s label = some s') :
    Divided n base s' where
  le_tickets := Nat.le_trans h.le_tickets (tickets_le_of_step? hstep)
  le_latest := Nat.le_trans h.le_latest (latest_le_of_step? hstep)
  runs := by
    intro r hr
    cases origin_of_step? hstep r hr with
    | kept hold => exact h.runs r hold
    | @cancelled old hold _ heq =>
        subst heq
        exact h.runs old hold
    | moved hold hmoved =>
        obtain ⟨hticket, hgeneration, -⟩ := Run.move?_kept hmoved
        rw [hticket, hgeneration]
        exact h.runs _ hold
    | accepted hticket _ _ hgeneration =>
        have hle := h.le_tickets
        have hlatest := h.le_latest
        refine iff_of_false ?_ ?_ <;> omega
  queue := by
    intro d hd
    rcases queue_of_step? hstep hd with hold | ⟨r, hr, o, -, -, rfl⟩ | ⟨rfl, -⟩
    · exact h.queue d hold
    · exact .inr (h.runs r hr)
    · exact .inl rfl

end Divided

/-! ## What is withheld -/

/-- The call without a result, if it is the one for the last of `n` requests. -/
def Call.withheld (n : Nat) (c : Call) : Call :=
  match c.outcome with
  | .completed _ => if c.ticket + 1 = n then { c with outcome := .cancelled } else c
  | _ => c

/-- Only results are withheld, and only those of the last request. -/
theorem Call.completed_of_withheld {n : Nat} {c : Call} (h : c.withheld n ≠ c) :
    (∃ issues, c.outcome = .completed issues) ∧ c.ticket + 1 = n := by
  unfold Call.withheld at h
  split at h
  · next issues houtcome =>
      split at h
      · next hlast => exact ⟨⟨issues, houtcome⟩, hlast⟩
      · exact absurd rfl h
  · exact absurd rfl h

/-- A result that was the latest at the cancellation is withheld; all others are told as they are. -/
theorem Delivery.call_raised {n base latest : Nat} {d : Delivery} (hbase : base ≤ latest)
    (hdivided : d.outcome = .cancelled ∨ (d.generation ≤ base ↔ d.ticket < n))
    (hlast : ∀ issues, d.outcome = .completed issues → d.generation = latest → n ≤ d.ticket + 1) :
    (d.raised base).call (latest + 1) = (d.call latest).withheld n := by
  obtain ⟨ticket, generation, outcome⟩ := d
  cases outcome with
  | cancelled => rfl
  | failed message => rfl
  | completed issues =>
      have hticket : generation ≤ base ↔ ticket < n := hdivided.resolve_left (by simp)
      by_cases hlatest : generation = latest
      · subst hlatest
        have hn : n ≤ ticket + 1 := hlast issues rfl rfl
        by_cases hlater : base < generation
        · have hother : ticket + 1 ≠ n := by omega
          simp [Delivery.raised, Delivery.call, Call.withheld, raise, hlater, hother]
        · have hsame : ticket + 1 = n := by omega
          simp [Delivery.raised, Delivery.call, Call.withheld, raise, hlater, hsame]
      · have hstale : raise base generation ≠ latest + 1 := by
          unfold raise
          split <;> omega
        simp [Delivery.raised, Delivery.call, Call.withheld, hstale, hlatest]

section Withheld

variable {workers n base : Nat} {before past later : List Label} {label : Label} {s : State}

/-- An earlier request that is current after a step was so before it. -/
theorem isCurrent_of_concat {ticket : Nat} (hticket : ticket < past.countP Label.isSubmit)
    (h : IsCurrent (past ++ [label]) ticket) : IsCurrent past ticket := by
  cases hlabel : label.supersedes with
  | true => exact absurd h (not_isCurrent_append hlabel hticket)
  | false => exact (isCurrent_append_iff hlabel).mp h

/-- The state after some steps with higher generations, told from the one without: what is told since
may be withheld, but only of a request that is current after the labels `past`. -/
def RaisedFrom (n base : Nat) (past : List Label) (calls : List Call) (s s' t' : State) : Prop :=
  ∃ new, s'.calls = s.calls ++ new ∧ t' = s'.raised base (calls ++ new.map (Call.withheld n)) ∧
    ∀ c ∈ new, c.withheld n ≠ c → IsCurrent past c.ticket

/-- A step that tells nothing. -/
theorem RaisedFrom.of_calls {calls : List Call} {s' : State} (h : s'.calls = s.calls) :
    RaisedFrom n base past calls s s' (s'.raised base calls) :=
  ⟨[], by simp [h], by simp, by simp⟩

/-- What is told of a delivery with higher generations, and that it is current where it is withheld. -/
theorem call_raised_of_mem {d : Delivery} (hs : execute? workers .start past = some s)
    (hdivided : Divided n base s) (hd : d ∈ s.queue) :
    (d.raised base).call (s.latest + 1) = (d.call s.latest).withheld n ∧
      ((d.call s.latest).withheld n ≠ d.call s.latest → IsCurrent past d.ticket) := by
  have htraced := traced_of_execute? hs
  have hcurrent : ∀ issues, d.outcome = .completed issues → d.generation = s.latest →
      IsCurrent past d.ticket := fun issues houtcome =>
    (htraced.queue_dated d hd issues houtcome).eq_latest_iff.mp
  constructor
  · refine Delivery.call_raised hdivided.le_latest (hdivided.queue d hd) ?_
    intro issues houtcome hlatest
    rw [ticket_eq_of_isCurrent htraced (hcurrent issues houtcome hlatest)]
    exact hdivided.le_tickets
  · intro hwithheld
    obtain ⟨⟨issues, houtcome⟩, -⟩ := Call.completed_of_withheld hwithheld
    obtain ⟨hcompleted, hlatest⟩ := Delivery.call_completed_iff.mp houtcome
    exact hcurrent issues hcompleted hlatest

/-- With higher generations a step is possible just when it is without, and does the same but for
what it tells. -/
theorem step?_raised (hs : execute? workers .start past = some s) (hdivided : Divided n base s)
    (calls : List Call) :
    (step? workers s label = none → step? workers (s.raised base calls) label = none) ∧
      ∀ s', step? workers s label = some s' → ∃ t',
        step? workers (s.raised base calls) label = some t' ∧ RaisedFrom n base past calls s s' t' := by
  cases label with
  | submit debounced =>
      refine ⟨by simp [step?], fun s' hstep => ⟨_, congrArg some (s.submit_raised hdivided.le_latest _), ?_⟩⟩
      rw [← Option.some.inj hstep]
      refine .of_calls ?_
      rw [State.submit]
      split <;> rfl
  | cancel =>
      refine ⟨by simp [step?], fun s' hstep => ⟨_, congrArg some s.cancel_raised, ?_⟩⟩
      rw [← Option.some.inj hstep]
      exact .of_calls rfl
  | shutdown =>
      refine ⟨by simp [step?], fun s' hstep => ⟨_, congrArg some s.shutdown_raised, ?_⟩⟩
      rw [← Option.some.inj hstep]
      refine .of_calls ?_
      rw [State.shutdown]
      split <;> rfl
  -- The generations show in a dispatch, which may tell a completed result or withhold it.
  | dispatch =>
      cases hqueue : s.queue with
      | nil => simp [step?, State.dispatch?, State.raised, hqueue]
      | cons d queue =>
          obtain ⟨hcall, hcurrent⟩ := call_raised_of_mem hs hdivided (by simp [hqueue] : d ∈ s.queue)
          refine ⟨by simp [step?, State.dispatch?, hqueue], fun s' hstep => ?_⟩
          simp only [step?, State.dispatch?, hqueue, Option.some.injEq] at hstep
          subst hstep
          refine ⟨_, by simp [step?, State.dispatch?, State.raised, hqueue, hcall],
            [d.call s.latest], rfl, rfl, ?_⟩
          intro c hc hwithheld
          rw [List.mem_singleton.mp hc] at hwithheld ⊢
          rw [Delivery.call_ticket]
          exact hcurrent hwithheld
  | move ticket m =>
      simp only [step?, State.move?_raised]
      refine ⟨fun hnone => by rw [hnone]; rfl, fun s' hstep => ⟨_, by rw [hstep]; rfl, .of_calls ?_⟩⟩
      obtain ⟨r, -, -, moved, -, rfl⟩ := State.move?_eq_some hstep
      rfl

/-- The same for all later steps, by induction on them. -/
theorem execute?_raised (hs : execute? workers .start past = some s) (hdivided : Divided n base s)
    (hn : n ≤ past.countP Label.isSubmit) (calls : List Call) :
    (execute? workers s later = none → execute? workers (s.raised base calls) later = none) ∧
      ∀ s', execute? workers s later = some s' → ∃ t',
        execute? workers (s.raised base calls) later = some t' ∧
          RaisedFrom n base past calls s s' t' := by
  induction later generalizing past s calls with
  | nil =>
      refine ⟨by simp [execute?], fun s' h => ⟨_, rfl, ?_⟩⟩
      rw [← Option.some.inj h]
      exact .of_calls rfl
  | cons label later ih =>
      obtain ⟨hnone, hsome⟩ := step?_raised hs hdivided calls
      cases hstep : step? workers s label with
      | none =>
          rw [execute?_cons, execute?_cons, hstep, hnone hstep]
          exact ⟨fun _ => rfl, by simp⟩
      | some next =>
          obtain ⟨_, hraised, new, hnew, rfl, hcurrent⟩ := hsome next hstep
          have hmore : n ≤ (past ++ [label]).countP Label.isSubmit := by
            rw [List.countP_append]
            omega
          obtain ⟨hnone, hsome⟩ := ih (execute?_concat hs hstep) (hdivided.step hstep) hmore
            (calls ++ new.map (Call.withheld n))
          rw [execute?_cons, execute?_cons, hstep, hraised]
          refine ⟨hnone, fun s' h => ?_⟩
          obtain ⟨t', ht', rest, hrest, rfl, hlater⟩ := hsome s' h
          refine ⟨_, ht', new ++ rest, by rw [hrest, hnew, List.append_assoc], by simp, ?_⟩
          intro c hc hwithheld
          rcases List.mem_append.mp hc with hc | hc
          · exact hcurrent c hc hwithheld
          · have hticket := (Call.completed_of_withheld hwithheld).2
            exact isCurrent_of_concat (by omega) (hlater c hc hwithheld)

/-- While nothing is in flight, a cancellation only makes later generations higher. -/
theorem cancel_eq_raised (hs : execute? workers .start past = some s) (hidle : s.slot = none) :
    s.cancel = s.raised s.latest s.calls := by
  have hruns : s.runs.map (Run.raised s.latest) = s.runs := by
    have hsame : ∀ r ∈ s.runs, Run.raised s.latest r = id r := by
      intro r hr
      rw [Run.raised, raise_of_le ((traced_of_execute? hs).runs_dated r hr).le_latest]
      rfl
    rw [List.map_congr_left hsame, List.map_id]
  have hqueue : s.queue.map (Delivery.raised s.latest) = s.queue := by
    have hsame : ∀ d ∈ s.queue, Delivery.raised s.latest d = id d := by
      intro d hd
      rw [Delivery.raised, raise_of_le (queue_le_of_execute? hs d hd).1]
      rfl
    rw [List.map_congr_left hsame, List.map_id]
  simp [State.cancel, State.cancelSlot, State.raised, hidle, hruns, hqueue]

/-- With nothing in flight, the run of the current request is over. -/
theorem isUnfinished_eq_false_of_idle {r : Run} (hs : execute? workers .start past = some s)
    (hidle : s.slot = none) (hr : r ∈ s.runs) (hcurrent : IsCurrent past r.ticket) :
    r.isUnfinished = false := by
  refine Bool.eq_false_iff.mpr fun hunfinished => ?_
  have hlatest := ((traced_of_execute? hs).runs_dated r hr).eq_latest_iff.mpr hcurrent
  have hheld := ((slotInvariant_of_execute? hs).latest r hr hunfinished hlatest).1
  rw [hidle] at hheld
  contradiction

/-- Whatever comes after it, a cancellation while nothing is in flight leaves which steps are possible
and what the caller is told, but for one result: that of the current request, which is finished then,
is withheld if it has not been told before. -/
theorem calls_after_idle_cancel (h : execute? workers .start before = some s)
    (hidle : s.isRunning = false) (later : List Label) :
    (execute? workers s later = none → execute? workers s.cancel later = none) ∧
      ∀ s', execute? workers s later = some s' → ∃ t' new,
        execute? workers s.cancel later = some t' ∧ s'.calls = s.calls ++ new ∧
          t'.calls = s.calls ++ new.map (Call.withheld s.tickets) ∧
          ∀ c ∈ new, c.withheld s.tickets ≠ c → IsCurrent before c.ticket ∧
            (∀ r ∈ s.runs, r.ticket = c.ticket → r.isUnfinished = false) ∧
            ∀ told ∈ s.calls, told.ticket ≠ c.ticket := by
  have hslot : s.slot = none := by simpa [State.isRunning] using hidle
  have htickets := (traced_of_execute? h).tickets_eq
  obtain ⟨hnone, hsome⟩ := execute?_raised h (divided_of_execute? h) (Nat.le_of_eq htickets) s.calls
  rw [cancel_eq_raised h hslot]
  refine ⟨hnone, fun s' hs' => ?_⟩
  obtain ⟨t', ht', new, hnew, rfl, hcurrent⟩ := hsome s' hs'
  refine ⟨_, new, ht', hnew, rfl, fun c hc hwithheld => ?_⟩
  have hlast := hcurrent c hc hwithheld
  refine ⟨hlast, fun r hr heq => isUnfinished_eq_false_of_idle h hslot hr (heq ▸ hlast), ?_⟩
  intro told htold hticket
  have honce := (conserved_of_execute? (execute?_append_eq_some.mpr ⟨s, h, hs'⟩)).le_one c.ticket
  have hbefore : 0 < s.calls.countP (·.ticket = c.ticket) :=
    List.countP_pos_iff.mpr ⟨told, htold, by simp [hticket]⟩
  have hafter : 0 < new.countP (·.ticket = c.ticket) := List.countP_pos_iff.mpr ⟨c, hc, by simp⟩
  rw [State.deliveries, hnew, List.countP_append] at honce
  omega

end Withheld

/-- The result that nothing has told yet is withheld. -/
theorem undisturbed_withheld :
    ∃ t' new, execute? 1 undispatched.cancel [.dispatch] = some t' ∧
      [⟨0, .completed []⟩] = undispatched.calls ++ new ∧
      t'.calls = undispatched.calls ++ new.map (Call.withheld undispatched.tickets) := by
  have hrun : execute? 1 .start undisturbed = some undispatched := by decide
  obtain ⟨-, hsome⟩ := calls_after_idle_cancel hrun rfl [.dispatch]
  obtain ⟨t', new, ht', hnew, hcalls, -⟩ := hsome _ rfl
  exact ⟨t', new, ht', hnew, hcalls⟩

/-- So a cancellation with nothing to cancel can change what the caller is told. -/
theorem undisturbed_cancelled :
    execute? 1 .start undisturbed = some undispatched ∧ undispatched.isRunning = false ∧
      (execute? 1 undispatched [.dispatch]).map State.calls = some [⟨0, .completed []⟩] ∧
      (execute? 1 undispatched.cancel [.dispatch]).map State.calls = some [⟨0, .cancelled⟩] := by
  decide

end CatchmentLint.Executor
