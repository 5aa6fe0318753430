import EventScheduler.Kernel.Basic

/-!
# Killing tasks

A kill marks its task dead, drops every relation that names it, runs the close
of its body, and then resumes the tasks that joined it.  The close is a program
that may itself ask for kills, so this module only has the two ends of a kill:
`Kernel.kill` begins one and `Kernel.complete` ends it.

Releasing or abandoning an event begins with a kill if the event has a handler
task, so both are errands that a kill may be run for.
-/

namespace EventScheduler

/-- What a kill is part of, and so what is left to do once it is complete. -/
inductive Errand
  /-- Nothing but the kill. -/
  | kill
  /-- Release the event that the task handled. -/
  | release (event : EventHandle)
  /-- Abandon the event that the task handled. -/
  | abandon (event : EventHandle)
deriving DecidableEq

/-- A kill whose task is dead already and whose close is running. -/
structure Closing where
  /-- The task killed. -/
  task : TaskHandle
  /-- The tasks that had joined it. -/
  joiners : TaskSet maxJoiners
  /-- What the kill is part of. -/
  errand : Errand
deriving DecidableEq

/-- What comes of asking for a kill. -/
inductive Killing (S : Signature)
  /-- The kill is refused. -/
  | refused (error : Error)
  /-- The task was dead already. -/
  | needless
  /-- The task is dead now, and its body, if any, is to be closed. -/
  | begun (joiners : TaskSet maxJoiners) (body : Option S.Body)
      (kernel : Kernel S)

/-- What comes of asking for an errand. -/
inductive Started (S : Signature) (Reply : Type)
  /-- The answer is there at once. -/
  | answered (reply : Reply) (kernel : Kernel S)
  /-- A body, if any, is to be closed first; the verdict of the errand then
  makes the answer. -/
  | underway (closing : Closing) (body : Option S.Body)
      (reply : Bool → Reply) (kernel : Kernel S)

def Started.map {S : Signature} {First Second : Type}
    (change : First → Second) : Started S First → Started S Second
  | .answered reply kernel => .answered (change reply) kernel
  | .underway closing body reply kernel =>
      .underway closing body (fun verdict => change (reply verdict)) kernel

namespace Kernel

variable {S : Signature} [Environment S.World]

/-- Mark a task dead and drop every relation that names it.  Answers the tasks
that had joined it. -/
def retire (kernel : Kernel S) (task : TaskHandle) (exit : S.Exit) :
    Except Fault (TaskSet maxJoiners × Kernel S) := do
  let kernel := kernel.record (.died task exit.name)
  let (joiners, tasks) ← kernel.tasks.retire task exit
  return (joiners, { kernel with
    tasks := tasks.forgetJoiner task
    watchers := kernel.watchers.forget task
    handlers := kernel.handlers.forget task })

def finish (kernel : Kernel S) (task : TaskHandle) (exit : S.Exit) :
    Except Fault (Kernel S) := do
  let (joiners, kernel) ← kernel.retire task exit
  let (_, kernel) ← kernel.resumeAll joiners
  return kernel

/-- Begin to kill a task.  The running task cannot be killed. -/
def kill (kernel : Kernel S) (task : TaskHandle) :
    Except Fault (Killing S) :=
  if kernel.running = some task then
    .ok (.refused .selfKill)
  else
    match kernel.tasks.entry task with
    | .error error => .ok (.refused error)
    | .ok entry =>
        if entry.state.isDead then
          .ok .needless
        else do
          let (joiners, kernel) ← kernel.retire task .cancelled
          return .begun joiners entry.body (kernel.record (.killed task))

/-- Do what is left of an errand once no handler task is in the way.  Answers
the verdict. -/
def settle (kernel : Kernel S) : Errand → Bool × Kernel S
  | .kill => (true, kernel)
  | .release event =>
      match kernel.events.release event with
      | (false, _) => (false, kernel)
      | (true, events) =>
          let (evicted, watchers) := kernel.watchers.evict event
          let kernel := { kernel with events, watchers }
          if evicted.isEmpty then (true, kernel)
          else (true, kernel.record (.evicted event evicted.size))
  | .abandon event =>
      match kernel.events.abandon event with
      | (false, _) => (false, kernel)
      | (true, events) =>
          let watchers := (kernel.watchers.evict event).2
          (true, { kernel with events, watchers })

/-- End a kill whose close has run: resume the joiners, then do what is left of
the errand.  Answers the verdict. -/
def complete (kernel : Kernel S) (closing : Closing) :
    Except Fault (Bool × Kernel S) := do
  let (_, kernel) ← kernel.resumeAll closing.joiners
  return kernel.settle closing.errand

def startKill (kernel : Kernel S) (task : TaskHandle) :
    Except Fault (Started S (Except Error Bool)) := do
  match ← kernel.kill task with
  | .refused error => return .answered (.error error) kernel
  | .needless => return .answered (.ok false) kernel
  | .begun joiners body kernel =>
      return .underway ⟨task, joiners, .kill⟩ body .ok kernel

def startStop (kernel : Kernel S) (event : EventHandle) :
    Except Fault (Started S (Except Error Bool)) :=
  match kernel.handlers.get? event with
  | some task => kernel.startKill task
  | none => .ok (.answered (.ok false) kernel)

/-- Start an errand on an event.  Its handler task is killed first; a handler
that runs the errand itself only loses its place. -/
def startErrand (kernel : Kernel S) (event : EventHandle) (errand : Errand) :
    Except Fault (Started S Bool) := do
  match kernel.handlers.get? event with
  | none =>
      let (verdict, kernel) := kernel.settle errand
      return .answered verdict kernel
  | some task =>
      if kernel.running = some task then
        let handlers := kernel.handlers.forget task
        let (verdict, kernel) := { kernel with handlers }.settle errand
        return .answered verdict kernel
      else
        match ← kernel.kill task with
        | .refused error => throw (.handlerNotStopped task error)
        | .needless =>
            let (verdict, kernel) := kernel.settle errand
            return .answered verdict kernel
        | .begun joiners body kernel =>
            return .underway ⟨task, joiners, errand⟩ body id kernel

def startRelease (kernel : Kernel S) (event : EventHandle) :
    Except Fault (Started S Bool) :=
  kernel.startErrand event (.release event)

def startAbandon (kernel : Kernel S) (event : EventHandle) :
    Except Fault (Started S Bool) :=
  kernel.startErrand event (.abandon event)

end Kernel

end EventScheduler
