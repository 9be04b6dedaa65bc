import CatchmentLint.Executor.State

/-!
# CatchmentLint.Executor.Schedule

An executor whose tasks and delays are known, under one schedule.

1. Nothing moves until the caller waits.  Then every run moves as far as it can without the clock,
   the earliest request first.
2. Only when that brings no delivery does the clock go on: first delays end, then the time of runs
   is up, as far as the patience of the caller goes.
3. A gated task does not end before the gate is open.
-/

namespace CatchmentLint.Executor

/-- What a request asks for; its delay is in milliseconds. -/
structure Job where
  delay : Option Nat
  gated : Bool
  result : TaskResult
  deriving DecidableEq, Repr

/-- The job of a request stands at the place of its ticket. -/
structure Schedule where
  workers : Nat
  timeout : Nat
  jobs : List Job
  gateOpen : Bool
  state : State
  deriving DecidableEq, Repr

namespace Schedule

/-- The time limit of a task where none is given. -/
def defaultTimeout : Nat := 5000

/-- How long the caller waits for a delivery that is due. -/
def patience : Nat := 59999

/-- How long the caller waits to see that no delivery comes. -/
def shortPatience : Nat := 100

/-- An executor has one worker at least. -/
def start (workers timeout : Nat) : Schedule := ⟨max workers 1, timeout, [], false, .start⟩

/-! ## Moves -/

def taskMove? (c : Schedule) (job : Job) (r : Run) : Option Move :=
  match r.task with
  | .queued => some .startTask
  | .running => if job.gated && !c.gateOpen then none else some (.endTask job.result)
  | _ => none

/-- What a run does without the clock. -/
def promptMove? (c : Schedule) (job : Job) (r : Run) : Option Move :=
  match r.phase with
  | .waiting => if r.cancelled then some .abandon else none
  | .ready => some .begin
  | .racing =>
    if r.task.outcome?.isSome then some .observeTask
    else if r.cancelled then some .observeCancellation
    else c.taskMove? job r
  | .decided _ => some .release
  | .released _ => some .deliver
  | .delivered | .abandoned | .dropped => c.taskMove? job r

/-- The end of a delay. -/
def delayMove? (patience : Nat) (job : Job) (r : Run) : Option Move :=
  if r.phase = .waiting ∧ job.delay.all (· ≤ patience) then some .expire else none

/-- The end of the time of a run. -/
def timeoutMove? (c : Schedule) (patience : Nat) (r : Run) : Option Move :=
  if r.phase = .racing ∧ c.timeout ≤ patience then some .timeOut else none

/-- Takes a step that is possible. -/
def take (c : Schedule) (label : Label) : Schedule :=
  match step? c.workers c.state label with
  | some s => { c with state := s }
  | none => c

/-- The first possible move of a run, in the order of the requests. -/
def firstMove? (c : Schedule) (choose : Job → Run → Option Move) : Option Schedule :=
  c.state.runs.findSome? fun r => do
    let m ← choose (← c.jobs[r.ticket]?) r
    let s ← step? c.workers c.state (.move r.ticket m)
    return { c with state := s }

/-- Moves on without the clock, `n` times at most. -/
def settleUpTo : Nat → Schedule → Schedule
  | 0, c => c
  | n + 1, c =>
    match c.firstMove? c.promptMove? with
    | some c => settleUpTo n c
    | none => c

/-- No run has more than eight moves. -/
def settle (c : Schedule) : Schedule := settleUpTo (8 * c.state.runs.length) c

/-- Lets the delays of runs end. -/
def endDelays (patience : Nat) (c : Schedule) : Schedule :=
  match c.firstMove? (delayMove? patience) with
  | some c => c.settle
  | none => c

/-- Lets the time of a run be up. -/
def endTime (patience : Nat) (c : Schedule) : Schedule :=
  match c.firstMove? fun _ r => c.timeoutMove? patience r with
  | some c => c.settle
  | none => c

/-! ## The caller -/

def submit (job : Job) (c : Schedule) : Schedule :=
  { c.take (.submit job.delay.isSome) with jobs := c.jobs ++ [job] }

def openGate (c : Schedule) : Schedule := { c with gateOpen := true }

/-- Waits until the tasks have started that can. -/
def awaitStart (c : Schedule) : Schedule := c.settle.endDelays patience

/-- A worker has taken up the task of the request. -/
def hasStarted (c : Schedule) (ticket : Nat) : Bool :=
  (c.state.run? ticket).any (·.task.hasStarted)

/-- Waits for a delivery. -/
def awaitDelivery (patience : Nat) (c : Schedule) : Schedule :=
  let c := c.settle
  let c := if c.state.queue.isEmpty then c.endDelays patience else c
  if c.state.queue.isEmpty then c.endTime patience else c

/-- Dispatches what is queued. -/
def dispatchPending (c : Schedule) : Schedule :=
  c.state.queue.foldl (fun c _ => c.take .dispatch) c

/-- Waits for a delivery and dispatches it, if one comes. -/
def dispatchNext (patience : Nat) (c : Schedule) : Schedule := (c.awaitDelivery patience).take .dispatch

/-- Waits for `n` deliveries, one after the other, until one does not come. -/
def dispatchUpTo : Nat → Schedule → Schedule
  | 0, c => c
  | n + 1, c =>
    let next := c.dispatchNext patience
    if next.state.calls.length = c.state.calls.length then next else dispatchUpTo n next

/-- Shuts the executor down, and what still waits is dropped. -/
def shutdown (c : Schedule) : Schedule :=
  let c := c.take .shutdown
  c.state.runs.foldl
    (fun c r => (c.take (.move r.ticket .drop)).take (.move r.ticket .discardTask)) c

end Schedule

end CatchmentLint.Executor
