import CatchmentLint.Lint.Issue

/-!
# CatchmentLint.Executor.Run

One accepted request, from its submission to its delivery, and the task that it hands to the
workers.

1. A debounced run waits first.  While it waits it may be given up without a delivery if it has
   been cancelled; once its delay is over it goes on, cancelled or not.
2. A run that begins after its cancellation is over at once.  Every other one queues its task, and
   then the first of three decides it: the task ends, the run is cancelled, or its time is up.
3. A task that is started after the cancellation does nothing.  Nothing else keeps a queued task
   from being started, also not that its run is decided.
4. A run that is decided gives up the slot first, and delivers its outcome then.
5. When the executor is down, whatever still waits may be dropped at any time.
-/

namespace CatchmentLint.Executor

/-! ## Outcomes -/

/-- What a task comes to. -/
inductive TaskResult where
  | completed (issues : List Issue)
  | failed (message : Text)
  | crashed
  deriving DecidableEq, Repr

/-- What is delivered of a run. -/
inductive Outcome where
  | completed (issues : List Issue)
  | cancelled
  | failed (message : Text)
  deriving DecidableEq, Repr

def TaskResult.outcome : TaskResult → Outcome
  | .completed issues => .completed issues
  | .failed message => .failed message
  | .crashed => .failed "validation task panicked".toList

/-! ## Runs -/

/-- How far the task of a run has come. -/
inductive Task where
  | absent
  | queued
  | running
  | ended (result : TaskResult)
  /-- Started after the cancellation. -/
  | skipped
  /-- Dropped from the queue. -/
  | discarded
  deriving DecidableEq, Repr

/-- The outcome of a task that is over.  The message of a task that is dropped is worded here; the
one that a runtime gives has the number of the task in it. -/
def Task.outcome? : Task → Option Outcome
  | .ended result => some result.outcome
  | .skipped => some .cancelled
  | .discarded => some (.failed "task was cancelled".toList)
  | .absent | .queued | .running => none

/-- A worker has taken the task up and runs it, or has run it. -/
def Task.hasStarted : Task → Bool
  | .running | .ended _ => true
  | _ => false

/-- How far a run has come, apart from its task. -/
inductive Phase where
  | waiting
  | ready
  | racing
  | decided (outcome : Outcome)
  | released (outcome : Outcome)
  | delivered
  /-- Given up while it waited. -/
  | abandoned
  | dropped
  deriving DecidableEq, Repr

/-- The ticket counts all requests, the generation those requests and cancellations that were made
before the executor went down. -/
structure Run where
  ticket : Nat
  generation : Nat
  cancelled : Bool
  phase : Phase
  task : Task
  deriving DecidableEq, Repr

/-- One step of a run or of its task. -/
inductive Move where
  | expire
  | abandon
  | begin
  | startTask
  | endTask (result : TaskResult)
  | observeTask
  | observeCancellation
  | timeOut
  | release
  | deliver
  | drop
  | discardTask
  deriving DecidableEq, Repr

namespace Run

def isUndecided (r : Run) : Bool :=
  match r.phase with
  | .waiting | .ready | .racing => true
  | _ => false

/-- Whether the run has not come to giving up the slot. -/
def isUnfinished (r : Run) : Bool :=
  match r.phase with
  | .waiting | .ready | .racing | .decided _ => true
  | _ => false

/-- The phase after the race, as far as the task decides it. -/
def decide? (r : Run) (outcome : Option Outcome) : Option Run :=
  if r.phase = .racing then outcome.map fun o => { r with phase := .decided o } else none

/-- The run at the end of its wait: over if it has been cancelled, else in the race with its task
queued. -/
def begin (r : Run) : Run :=
  if r.cancelled then { r with phase := .decided .cancelled }
  else { r with phase := .racing, task := .queued }

/-- The run after a move, where the move is possible. -/
def move? (down workerFree : Bool) (r : Run) : Move → Option Run
  | .expire => if r.phase = .waiting then some { r with phase := .ready } else none
  | .abandon =>
    if r.phase = .waiting ∧ r.cancelled then some { r with phase := .abandoned } else none
  | .begin => if r.phase = .ready then some r.begin else none
  | .startTask =>
    if r.task = .queued ∧ workerFree then
      some { r with task := if r.cancelled then .skipped else .running }
    else none
  | .endTask result =>
    if r.task = .running then some { r with task := .ended result } else none
  | .observeTask => r.decide? r.task.outcome?
  | .observeCancellation => r.decide? (if r.cancelled then some .cancelled else none)
  | .timeOut => r.decide? (if r.task.outcome?.isNone then some .cancelled else none)
  | .release =>
    match r.phase with
    | .decided outcome => some { r with phase := .released outcome }
    | _ => none
  | .deliver =>
    match r.phase with
    | .released _ => some { r with phase := .delivered }
    | _ => none
  | .drop => if down ∧ r.isUndecided then some { r with phase := .dropped } else none
  | .discardTask =>
    if down ∧ r.task = .queued then some { r with task := .discarded } else none

end Run

end CatchmentLint.Executor
