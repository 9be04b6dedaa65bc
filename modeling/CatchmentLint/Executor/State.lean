import CatchmentLint.Executor.Run

/-!
# CatchmentLint.Executor.State

At most one request is in flight: a new one cancels the one before it.

1. Every accepted request and every cancellation takes a new generation.  The slot holds the
   generation of the request in flight.
2. Deliveries queue up for the caller.  When one is dispatched, a completed outcome is told as it is
   only if its generation is still the latest; else it is told as cancelled.
3. When the executor is down, a request is delivered as cancelled at once, with the generation 0,
   which no request that was accepted has.
-/

namespace CatchmentLint.Executor

/-- The outcome of a request, on its way to the caller. -/
structure Delivery where
  ticket : Nat
  generation : Nat
  outcome : Outcome
  deriving DecidableEq, Repr

/-- What the caller is told about a request. -/
structure Call where
  ticket : Nat
  outcome : Outcome
  deriving DecidableEq, Repr

/-- What the caller is told where `latest` is the latest generation. -/
def Delivery.call (latest : Nat) (d : Delivery) : Call :=
  match d.outcome with
  | .completed issues =>
    ⟨d.ticket, if d.generation = latest then .completed issues else .cancelled⟩
  | outcome => ⟨d.ticket, outcome⟩

/-- The executor as the caller and the runs see it. -/
structure State where
  /-- How many requests there were. -/
  tickets : Nat
  latest : Nat
  slot : Option Nat
  runs : List Run
  queue : List Delivery
  calls : List Call
  down : Bool
  deriving DecidableEq, Repr

namespace State

/-- No request has been made. -/
def start : State := ⟨0, 0, none, [], [], [], false⟩

/-- Whether a request is in flight. -/
def isRunning (s : State) : Bool := s.slot.isSome

/-! ## What the caller does -/

/-- Cancels the run in the slot. -/
def cancelSlot (s : State) : State :=
  { s with
    slot := none
    runs := s.runs.map fun r =>
      if s.slot = some r.generation then { r with cancelled := true } else r }

/-- Accepts a request. -/
def accept (debounced : Bool) (s : State) : State :=
  let run : Run := ⟨s.tickets, s.latest + 1, false, if debounced then .waiting else .ready, .absent⟩
  { s.cancelSlot with
    tickets := s.tickets + 1
    latest := run.generation
    slot := some run.generation
    runs := s.cancelSlot.runs ++ [run] }

/-- Answers a request by a cancellation, without a run. -/
def refuse (s : State) : State :=
  { s with tickets := s.tickets + 1, queue := s.queue ++ [⟨s.tickets, 0, .cancelled⟩] }

/-- A request is accepted until the executor is down. -/
def submit (debounced : Bool) (s : State) : State :=
  if s.down then s.refuse else s.accept debounced

/-- Cancels what is in flight; that there was something is what `isRunning` said before. -/
def cancel (s : State) : State := { s.cancelSlot with latest := s.latest + 1 }

/-- Cancels what is in flight, and takes no more requests. -/
def shutdown (s : State) : State := if s.down then s else { s.cancel with down := true }

/-- Tells the caller of the delivery that has waited longest. -/
def dispatch? (s : State) : Option State :=
  match s.queue with
  | [] => none
  | d :: queue => some { s with queue := queue, calls := s.calls ++ [d.call s.latest] }

/-! ## What the runs do -/

/-- The run of a request. -/
def run? (s : State) (ticket : Nat) : Option Run := s.runs.find? (·.ticket = ticket)

/-- The tasks that occupy a worker. -/
def busy (s : State) : Nat := s.runs.countP (·.task = .running)

def replaceRun (r : Run) (s : State) : State :=
  { s with runs := s.runs.map fun old => if old.ticket = r.ticket then r else old }

/-- Empties the slot if the run holds it. -/
def releaseSlot (r : Run) (s : State) : State :=
  if s.slot = some r.generation then { s with slot := none } else s

/-- Puts the outcome of a run before the caller. -/
def enqueue (r : Run) (s : State) : State :=
  match r.phase with
  | .released outcome => { s with queue := s.queue ++ [⟨r.ticket, r.generation, outcome⟩] }
  | _ => s

/-- What a move of the run does beside it. -/
def effect (r : Run) (move : Move) (s : State) : State :=
  match move with
  | .release => s.releaseSlot r
  | .deliver => s.enqueue r
  | _ => s

/-- A run moves, and what that does to the slot and to the queue. -/
def move? (workers : Nat) (s : State) (ticket : Nat) (move : Move) : Option State :=
  (s.run? ticket).bind fun r =>
    (r.move? s.down (s.busy < workers) move).map fun moved => (s.effect r move).replaceRun moved

end State

/-! ## Steps -/

/-- A step, of the caller or of a run. -/
inductive Label where
  | submit (debounced : Bool)
  | cancel
  | shutdown
  | dispatch
  | move (ticket : Nat) (m : Move)
  deriving DecidableEq, Repr

/-- The state after a step, if it is possible. -/
def step? (workers : Nat) (s : State) : Label → Option State
  | .submit debounced => some (s.submit debounced)
  | .cancel => some s.cancel
  | .shutdown => some s.shutdown
  | .dispatch => s.dispatch?
  | .move ticket m => s.move? workers ticket m

/-- The state after the labels, where each of them is possible in its turn. -/
def execute? (workers : Nat) (s : State) (labels : List Label) : Option State :=
  labels.foldlM (step? workers) s

/-- With one worker, a task whose time is up while another one is running starts nonetheless. -/
example :
    let queued : List Label :=
      [.submit false, .move 0 .begin, .move 0 .startTask, .submit false, .move 1 .begin,
        .move 1 .timeOut, .move 1 .release, .move 1 .deliver, .dispatch]
    let resumed : List Label := [.move 0 (.endTask (.completed [])), .move 1 .startTask]
    ((execute? 1 .start (queued ++ resumed)).map fun s => (s.calls, s.runs.map Run.task)) =
      some ([⟨1, .cancelled⟩], [.ended (.completed []), .running]) := by decide

end CatchmentLint.Executor
