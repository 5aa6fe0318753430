import EventScheduler.Kernel.Perform

/-!
# The parts of a turn

A turn of the scheduler drains the queue of pending events, moves expired
timers to the run queue, puts the task that yielded last behind everything
else, and runs one slice of the task at the head.

This module has the parts of a turn that involve no body.  How they are put
together is in `EventScheduler.Scheduler.Machine`.
-/

namespace EventScheduler

/-- A scheduler between two operations. -/
structure Scheduler (S : Signature) where
  /-- What the tasks act on. -/
  kernel : Kernel S
  /-- The buffer that pending events are drained into. -/
  drained : List EventHandle
  /-- The task that yielded on the last turn. -/
  yielded : Option TaskHandle

namespace Kernel

variable {S : Signature} [Environment S.World]

/-- Wake the watchers of drained events, in the order of the events.  The flag
says whether any was waiting. -/
def dispatchAll (kernel : Kernel S) :
    List EventHandle → Except Fault (Bool × Kernel S)
  | [] => .ok (false, kernel)
  | event :: rest => do
      let kernel := kernel.record (.dispatches event)
      let (first, kernel) ← kernel.resumeWatchers event
      let (later, kernel) ← kernel.dispatchAll rest
      return (first || later, kernel)

/-- Drain the queue of pending events into a buffer, go through it, and read
the clock.  The flag says whether any watcher was waiting. -/
def drain (kernel : Kernel S) (buffer : List EventHandle) :
    Except Fault (Bool × Kernel S) := do
  let (drained, events) ← kernel.events.takeInto buffer
  let (woke, kernel) ← { kernel with events }.dispatchAll drained
  return (woke, { kernel with now := Environment.now kernel.world })

/-- Take the body of a task to run a slice of it. -/
def beginSlice (kernel : Kernel S) (task : TaskHandle) :
    Except Fault (S.Body × Kernel S) :=
  match kernel.tasks.entry task with
  | .ok { body := some body, .. } =>
      if kernel.running.isSome then
        .error .nestedRun
      else
        let tasks := kernel.tasks.update task fun entry =>
          { entry with body := none }
        .ok (body, { kernel with tasks, running := some task })
  | _ => .error (.runnableWithoutBody task)

def endSlice (kernel : Kernel S) (task : TaskHandle) (body : S.Body) :
    Kernel S :=
  let tasks := kernel.tasks.update task fun entry =>
    { entry with body := some body }
  { kernel with tasks, running := none }

end Kernel

namespace Scheduler

variable {S : Signature} [Environment S.World]

def new (world : S.World) : Scheduler S where
  kernel := .new world
  drained := []
  yielded := none

def now (scheduler : Scheduler S) : Tick :=
  Environment.now scheduler.kernel.world

/--
How long the next dispatch may sleep: not at all if a task is ready, otherwise
until the first deadline or for ever.  There is no answer if no task is live.
-/
def patience (scheduler : Scheduler S) : Except Fault (Option Deadline) :=
  let tasks := scheduler.kernel.tasks
  if scheduler.yielded.isSome || tasks.hasRunnable then
    .ok (some .elapsed)
  else do
    match ← tasks.nextDeadline with
    | some deadline => return some deadline
    | none => return if tasks.live = 0 then none else some .never

/-- Complete the run queue of a turn: the expired timers, then the task that
yielded last. -/
def queueUp (scheduler : Scheduler S) : Except Fault (Scheduler S) := do
  let kernel := scheduler.kernel
  let (_, tasks) ← kernel.tasks.promoteExpired kernel.now
  let tasks ←
    match scheduler.yielded with
    | some task => tasks.requeue task
    | none => pure tasks
  return { scheduler with kernel := { kernel with tasks }, yielded := none }

def pop (scheduler : Scheduler S) :
    Except Fault (Option TaskHandle × Scheduler S) := do
  let (task, tasks) ← scheduler.kernel.tasks.popRunnable
  return (task, { scheduler with kernel := { scheduler.kernel with tasks } })

/--
Do to a task what the step at the end of its slice asks for.  Answers the value
of a shutdown, which is still to kill the other tasks.
-/
def apply (scheduler : Scheduler S) (task : TaskHandle) (step : S.Step) :
    Except Fault (Option S.Output × Scheduler S) := do
  let kernel := scheduler.kernel
  match step with
  | .yield => return (none, { scheduler with yielded := some task })
  | .suspend =>
      let tasks ← kernel.tasks.suspend task
      return (none, { scheduler with kernel := { kernel with tasks } })
  | .sleep deadline =>
      let tasks ← kernel.tasks.sleep task deadline
      return (none, { scheduler with kernel := { kernel with tasks } })
  | .finish value =>
      let kernel ← kernel.finish task (.returned value)
      return (none, { scheduler with kernel })
  | .fail failure =>
      let kernel ← (kernel.record (.failed task)).finish task (.failed failure)
      return (none, { scheduler with kernel })
  | .shutdown value =>
      let kernel := kernel.record (.shutdownRequested task)
      let kernel ← kernel.finish task (.returned value)
      return (some value, { scheduler with kernel, yielded := none })

end Scheduler

end EventScheduler
