import EventScheduler.Error
import EventScheduler.Handle
import EventScheduler.Task.State

/-!
# Faults

A fault ends the program: the queue of pending events overflowed, or an
internal invariant does not hold.  Errors that a caller can act on are in
`EventScheduler.Error`.
-/

namespace EventScheduler

/-- Why the program cannot go on. -/
inductive Fault
  /-- An event became pending while the queue was full. -/
  | queueOverflow
  /-- The buffer for drained events still held some. -/
  | bufferNotDrained
  /-- A drained event was not enabled. -/
  | queuedNotEnabled (event : EventHandle)
  /-- A slot was put on a list while it was on one. -/
  | alreadyLinked (index : Nat)
  /-- A slot was on the run queue without being active. -/
  | queuedNotActive (index : Nat)
  /-- A slot was on the timer list without a deadline. -/
  | timerWithoutDeadline (index : Nat)
  /-- A slot was marked as linked and its list does not reach it. -/
  | linkedNotFound (index : Nat) (list : TaskList)
  /-- A task handle named a slot number that does not exist. -/
  | slotOutOfRange (index : Nat)
  | suspendedInactive
  | retiredTwice (task : TaskHandle)
  /-- More tasks died than were live. -/
  | liveUnderflow
  /-- The slot of a dead task held another one when it was freed. -/
  | reapedAlive (task : TaskHandle)
  /-- A task chosen to run had no body. -/
  | runnableWithoutBody (task : TaskHandle)
  /-- A task was chosen while another one was running. -/
  | nestedRun
  /-- The handler of an event that goes away could not be stopped. -/
  | handlerNotStopped (task : TaskHandle) (error : Error)
  /-- A task could not be killed at shutdown. -/
  | notKilledAtShutdown (task : TaskHandle) (error : Error)
deriving DecidableEq, Inhabited

namespace Fault

def unreachable (detail : String) : String :=
  "internal error: entered unreachable code: " ++ detail

def message : Fault → String
  | .queueOverflow => s!"event queue overflow ({queueDepth} pending)"
  | .bufferNotDrained => "pending buffer not drained"
  | .queuedNotEnabled event =>
      unreachable s!"queued event {event} is not enabled"
  | .alreadyLinked index => s!"task{index} is already linked"
  | .queuedNotActive index =>
      unreachable s!"task{index} queued but not active"
  | .timerWithoutDeadline index =>
      unreachable s!"task{index} on timer list without a deadline"
  | .linkedNotFound index list =>
      unreachable s!"task{index} marked {list.name}-linked but not found"
  | .slotOutOfRange index =>
      s!"index out of bounds: the len is {maxTasks} but the index is {index}"
  | .suspendedInactive =>
      "suspending a task that is not active"
  | .retiredTwice task => s!"{task} retired twice"
  | .liveUnderflow => "attempt to subtract with overflow"
  | .reapedAlive task => unreachable s!"{task} reaped while alive"
  | .runnableWithoutBody task => unreachable s!"runnable {task} has no body"
  | .nestedRun => "nested task run"
  | .handlerNotStopped task error =>
      unreachable s!"stopping handler {task}: {error}"
  | .notKilledAtShutdown task error =>
      unreachable s!"killing {task} at shutdown: {error}"

end Fault

end EventScheduler
