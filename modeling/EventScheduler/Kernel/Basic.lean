import EventScheduler.Event.Tables
import EventScheduler.Program
import EventScheduler.Task.Table

/-!
# The kernel

The kernel owns the task table, the watchers, the handler tasks and the events.
This module has the operations that finish at once; those that may have to run
the close of a body are in `EventScheduler.Kernel.Kill`.
-/

namespace EventScheduler

/-- Counters of the scheduler.  They are natural numbers: it is assumed that no
counter of 64 bits overflows, which takes more than 10^19 events. -/
structure Stats where
  /-- Dispatch passes begun by the loop. -/
  dispatches : Nat := 0
  /-- Times the loop slept. -/
  waits : Nat := 0
  /-- Waiting tasks made active by a resume, an event or the death of a task
  they joined.  Expired timers are not counted. -/
  resumes : Nat := 0
deriving DecidableEq, Inhabited

/-- Everything that tasks act on. -/
structure Kernel (S : Signature) where
  tasks : TaskTable S
  watchers : WatcherMap
  handlers : Handlers
  events : Events
  /-- The task whose slice is running. -/
  running : Option TaskHandle
  /-- The time that the last dispatch saw. -/
  now : Tick
  stats : Stats
  world : S.World

namespace Kernel

variable {S : Signature}

def new [Environment S.World] (world : S.World) : Kernel S where
  tasks := .empty
  watchers := .empty
  handlers := .empty
  events := .empty
  running := none
  now := Environment.now world
  stats := {}
  world := world

def record [Environment S.World] (kernel : Kernel S) (fact : Record) :
    Kernel S :=
  { kernel with world := Environment.record fact kernel.world }

/-! ### Reading the kernel -/

def isAlive (kernel : Kernel S) (task : TaskHandle) : Bool :=
  match kernel.tasks.state task with
  | .ok state => !state.isDead
  | .error _ => false

def isWaiting (kernel : Kernel S) (task : TaskHandle) : Bool :=
  match kernel.tasks.state task with
  | .ok state => state.isWaiting
  | .error _ => false

def name (kernel : Kernel S) (task : TaskHandle) : Option String :=
  match kernel.tasks.entry task with
  | .ok entry => entry.name
  | .error _ => none

/-- How a task ended, if it has. -/
def outcome (kernel : Kernel S) (task : TaskHandle) :
    Except Error (Readiness S.Exit) :=
  match kernel.tasks.state task with
  | .error error => .error error
  | .ok (.dead exit) => .ok (.ready exit)
  | .ok _ => .ok .pending

/-! ### Starting and resuming tasks -/

/-- Start a task at the tail of the run queue. -/
def start [Environment S.World] (kernel : Kernel S) (body : S.Body)
    (name : Option String) :
    Except Fault (Except Error TaskHandle × Kernel S) := do
  match ← kernel.tasks.insert body name with
  | .error error => return (.error error, kernel)
  | .ok (task, tasks) =>
      return (.ok task, { kernel with tasks }.record (.started task name))

/-- Wake a waiting task.  The flag says whether it was waiting. -/
def resume (kernel : Kernel S) (task : TaskHandle) :
    Except Fault (Bool × Kernel S) := do
  let (resumed, tasks) ← kernel.tasks.activate task
  let kernel := { kernel with tasks }
  if resumed then
    let stats := { kernel.stats with resumes := kernel.stats.resumes + 1 }
    return (true, { kernel with stats })
  else
    return (false, kernel)

/-- Wake every waiting task of a set, in order.  The flag says whether any was
waiting. -/
def resumeAll {capacity : Nat} (kernel : Kernel S)
    (tasks : TaskSet capacity) : Except Fault (Bool × Kernel S) :=
  tasks.visit resume kernel

/-- Wake the watchers of a drained event, in the order in which they began to
watch.  They go on watching. -/
def resumeWatchers (kernel : Kernel S) (event : EventHandle) :
    Except Fault (Bool × Kernel S) :=
  kernel.resumeAll (kernel.watchers.watchers event)

/-- Answer how `task` ended, or let it resume `joiner` when it does. -/
def join (kernel : Kernel S) (task joiner : TaskHandle) :
    Except Error (Readiness S.Exit) × Kernel S :=
  if task = joiner then
    (.error .selfJoin, kernel)
  else
    match kernel.outcome task with
    | .error error => (.error error, kernel)
    | .ok (.ready exit) => (.ok (.ready exit), kernel)
    | .ok .pending =>
        if kernel.isAlive joiner then
          match kernel.tasks.addJoiner task joiner with
          | .error error => (.error error, kernel)
          | .ok (_, tasks) => (.ok .pending, { kernel with tasks })
        else
          (.error .deadTask, kernel)

/-! ### Watching events -/

def watch (kernel : Kernel S) (event : EventHandle) (task : TaskHandle) :
    Except Error Unit × Kernel S :=
  match kernel.tasks.state task with
  | .error error => (.error error, kernel)
  | .ok (.dead _) => (.error .deadTask, kernel)
  | .ok _ =>
      match kernel.watchers.watch kernel.events event task with
      | .error error => (.error error, kernel)
      | .ok (_, watchers) => (.ok (), { kernel with watchers })

/-- Stop a task from watching an event.  The flag says whether it did. -/
def unwatch (kernel : Kernel S) (event : EventHandle) (task : TaskHandle) :
    Bool × Kernel S :=
  let (removed, watchers) := kernel.watchers.unwatch kernel.events event task
  (removed, { kernel with watchers })

/-- Let a task watch several events, up to the first that is refused. -/
def watchAll (kernel : Kernel S) (task : TaskHandle) :
    List EventHandle → Except Error Unit × Kernel S
  | [] => (.ok (), kernel)
  | event :: rest =>
      match kernel.watch event task with
      | (.error error, kernel) => (.error error, kernel)
      | (.ok (), kernel) => kernel.watchAll task rest

def unwatchAll (kernel : Kernel S) (task : TaskHandle) :
    List EventHandle → Kernel S
  | [] => kernel
  | event :: rest => (kernel.unwatch event task).2.unwatchAll task rest

/--
One attempt of a task at waiting on several events for a condition.

If the condition has no answer and the deadline has not passed, the task
watches every event and is to try again when it is resumed.  After any other
result it watches none of them.
-/
def wait [Environment S.World] (kernel : Kernel S) (task : TaskHandle)
    (events : List EventHandle) (deadline : Deadline)
    (poll : S.World → Option S.Answer × S.World) :
    Except Error (Readiness (Option S.Answer)) × Kernel S :=
  match events.find? fun event => !kernel.events.isEnabled event with
  | some disabled =>
      (.error .eventDisabled,
        (kernel.record (.waitsOnDisabled task disabled)).unwatchAll task
          events)
  | none =>
      let (answer, world) := poll kernel.world
      let kernel := { kernel with world }
      match answer with
      | some answer =>
          (.ok (.ready (some answer)), kernel.unwatchAll task events)
      | none =>
          if deadline.reached kernel.now then
            (.ok (.ready none), kernel.unwatchAll task events)
          else
            match kernel.watchAll task events with
            | (.ok (), kernel) => (.ok .pending, kernel)
            | (.error error, kernel) =>
                (.error error, kernel.unwatchAll task events)

/--
Start the handler task of an enabled event that has none.  It watches the event
from the start; if it cannot, it is dropped without being closed.
-/
def handle [Environment S.World] (kernel : Kernel S) (event : EventHandle)
    (body : S.Body) (name : Option String) :
    Except Fault (Except Error TaskHandle × Kernel S) :=
  if !kernel.events.isEnabled event then
    .ok (.error .eventDisabled, kernel)
  else if (kernel.handlers.get? event).isSome then
    .ok (.error .alreadyHandled, kernel)
  else do
    match ← kernel.tasks.insert body name with
    | .error error => return (.error error, kernel)
    | .ok (task, tasks) =>
        match kernel.watchers.watch kernel.events event task with
        | .ok (_, watchers) =>
            let handlers := kernel.handlers.insert event task
            let kernel := { kernel with tasks, watchers, handlers }
            return (.ok task, kernel.record (.handles task event))
        | .error error =>
            let (_, tasks) ← tasks.retire task .cancelled
            match ← tasks.tryReap task with
            | .error stale => return (.error stale, { kernel with tasks })
            | .ok (_, tasks) => return (.error error, { kernel with tasks })

end Kernel

end EventScheduler
