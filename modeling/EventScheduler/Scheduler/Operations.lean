import EventScheduler.Scheduler.Basic

/-!
# Operating a scheduler from outside

What can be done to a scheduler between two runs of its loop without running a
body.  Operations that may have to close a body are calls of
`EventScheduler.Scheduler.Machine`.
-/

namespace EventScheduler

namespace Scheduler

variable {S : Signature} [Environment S.World]

def around {α : Type} (scheduler : Scheduler S) (result : α × Kernel S) :
    α × Scheduler S :=
  (result.1, { scheduler with kernel := result.2 })

def aroundEvents {α : Type} (scheduler : Scheduler S) (result : α × Events) :
    α × Scheduler S :=
  scheduler.around (result.1, { scheduler.kernel with events := result.2 })

def modifyWorld (scheduler : Scheduler S) (change : S.World → S.World) :
    Scheduler S :=
  let kernel := scheduler.kernel
  { scheduler with kernel := { kernel with world := change kernel.world } }

/-! ### Tasks -/

def start (scheduler : Scheduler S) (body : S.Body) (name : Option String) :
    Except Fault (Except Error TaskHandle × Scheduler S) := do
  return scheduler.around (← scheduler.kernel.start body name)

/-- Wake a waiting task.  The flag says whether it was waiting. -/
def resume (scheduler : Scheduler S) (task : TaskHandle) :
    Except Fault (Bool × Scheduler S) := do
  return scheduler.around (← scheduler.kernel.resume task)

/-- How a task ended, if it has.  Nobody is there to be resumed when it
does. -/
def join (scheduler : Scheduler S) (task : TaskHandle) :
    Except Error (Readiness S.Exit) :=
  scheduler.kernel.outcome task

def state (scheduler : Scheduler S) (task : TaskHandle) :
    Except Error S.State :=
  scheduler.kernel.tasks.state task

/-- Free the slot of a dead task.  Answers how it ended, or nothing if it is
alive. -/
def reap (scheduler : Scheduler S) (task : TaskHandle) :
    Except Fault (Except Error (Option S.Exit) × Scheduler S) := do
  match ← scheduler.kernel.tasks.tryReap task with
  | .error error => return (.error error, scheduler)
  | .ok (exit, tasks) =>
      return scheduler.around (.ok exit, { scheduler.kernel with tasks })

def live (scheduler : Scheduler S) : Nat :=
  scheduler.kernel.tasks.live

def runQueue (scheduler : Scheduler S) : List TaskHandle :=
  scheduler.kernel.tasks.runQueue

def timers (scheduler : Scheduler S) : List TaskHandle :=
  scheduler.kernel.tasks.timerList

/-! ### Events -/

def claim (scheduler : Scheduler S) :
    Except Error EventHandle × Scheduler S :=
  match scheduler.kernel.events.claim with
  | .error error => (.error error, scheduler)
  | .ok (event, events) => scheduler.aroundEvents (.ok event, events)

def claimInto (scheduler : Scheduler S) (cell : Option EventHandle) :
    CellClaim × Scheduler S :=
  scheduler.aroundEvents (scheduler.kernel.events.claimInto cell)

/-- Mark an event pending.  The flag says whether it was queued. -/
def setPending (scheduler : Scheduler S) (event : EventHandle) :
    Except Fault (Bool × Scheduler S) := do
  return scheduler.aroundEvents (← scheduler.kernel.events.setPending event)

def releaseAbandoned (scheduler : Scheduler S) (event : EventHandle) :
    Bool × Scheduler S :=
  scheduler.aroundEvents (scheduler.kernel.events.releaseAbandoned event)

def watch (scheduler : Scheduler S) (event : EventHandle)
    (task : TaskHandle) : Except Error Unit × Scheduler S :=
  scheduler.around (scheduler.kernel.watch event task)

def unwatch (scheduler : Scheduler S) (event : EventHandle)
    (task : TaskHandle) : Bool × Scheduler S :=
  scheduler.around (scheduler.kernel.unwatch event task)

def handle (scheduler : Scheduler S) (event : EventHandle) (body : S.Body)
    (name : Option String) :
    Except Fault (Except Error TaskHandle × Scheduler S) := do
  return scheduler.around (← scheduler.kernel.handle event body name)

def handler (scheduler : Scheduler S) (event : EventHandle) :
    Option TaskHandle :=
  scheduler.kernel.handlers.get? event

end Scheduler

end EventScheduler
