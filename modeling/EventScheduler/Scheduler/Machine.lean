import EventScheduler.Scheduler.Basic

/-!
# Running a scheduler

A kill may run a body's close, which may ask for kills in turn, so an operation
can be suspended in the middle of others.  `Machine` is a scheduler in the
middle of an operation: what it is about to do, and the callers that wait for a
verdict.  `Machine.step` does the next thing; every state in which a body can
see the scheduler lies between two steps.
-/

namespace EventScheduler

/-- On whose behalf a program runs. -/
inductive Role
  | slice (task : TaskHandle)
  | close (closing : Closing)
deriving DecidableEq

namespace Role

def task : Role → TaskHandle
  | .slice task => task
  | .close closing => closing.task

abbrev Result (S : Signature) : Role → Type
  | .slice _ => S.Step × S.Body
  | .close _ => Unit

end Role

/-- What waits for the verdict of a kill or errand. -/
inductive Caller (S : Signature)
  /-- A body, with the rest of its program. -/
  | body (role : Role) (rest : Bool → Program S (role.Result S))
  /-- A shutdown, with its value and the tasks still to be killed. -/
  | sweep (value : S.Output) (doomed : List TaskHandle)

/-- How an operation ends. -/
inductive Conclusion (S : Signature)
  /-- A kill or errand was refused, or gave a verdict. -/
  | answered (answer : Except Error Bool)
  /-- The loop ended, with the value of a shutdown or because no task was
  live. -/
  | ended (value : Option S.Output)

/-- What a scheduler is about to do. -/
inductive Control (S : Signature)
  | turn
  /-- Drain the pending events; `woke` says whether the turn must not sleep. -/
  | dispatch (deadline : Deadline) (woke : Bool)
  | sleep (deadline : Deadline)
  | pick
  /-- Go on with the program of a body. -/
  | body (role : Role) (program : Program S (role.Result S))
  /-- Hand a verdict to the innermost caller. -/
  | verdict (verdict : Bool)
  /-- Kill the remaining tasks of a shutdown. -/
  | sweep (value : S.Output) (doomed : List TaskHandle)
  /-- Nothing; the operation is over. -/
  | concluded (conclusion : Conclusion S)
  /-- Nothing; the loop sleeps for ever. -/
  | stalled
  /-- Nothing; the program cannot go on. -/
  | faulted (fault : Fault)

def Control.isFinal {S : Signature} : Control S → Bool
  | .concluded _ | .stalled | .faulted _ => true
  | _ => false

/-- A scheduler in the middle of an operation. -/
structure Machine (S : Signature) extends Scheduler S where
  control : Control S
  /-- What waits for a verdict, innermost first. -/
  callers : List (Caller S)

/-- An operation that may run bodies. -/
inductive Call
  | kill (task : TaskHandle)
  | stopHandler (event : EventHandle)
  | release (event : EventHandle)
  | abandon (event : EventHandle)
  | run
deriving DecidableEq

namespace Machine

variable {S : Signature} [Application S]

def closeProgram : Option S.Body → Program S Unit
  | some body => Application.close body
  | none => .pure ()

/-- Begin to close a killed task, on behalf of the given callers. -/
def close (machine : Machine S) (closing : Closing) (body : Option S.Body)
    (kernel : Kernel S) (callers : List (Caller S)) : Machine S :=
  { machine with
    kernel
    control := .body (.close closing) (closeProgram body)
    callers }

def leaveBody (machine : Machine S) :
    (role : Role) → role.Result S → Except Fault (Machine S)
  | .slice task, (step, body) => do
      let kernel := machine.kernel.endSlice task body
      let (value, scheduler) ←
        { machine.toScheduler with kernel }.apply task step
      match value with
      | none =>
          return { machine with toScheduler := scheduler, control := .turn }
      | some value =>
          let doomed := scheduler.kernel.tasks.liveTasks
          return { machine with
            toScheduler := scheduler
            control := .sweep value doomed }
  | .close closing, () => do
      let (verdict, kernel) ← machine.kernel.complete closing
      return { machine with kernel, control := .verdict verdict }

def advanceBody (machine : Machine S) (role : Role) :
    Program S (role.Result S) → Except Fault (Machine S)
  | .pure result => machine.leaveBody role result
  | .ask request rest => do
      match ← machine.kernel.perform role.task request with
      | .answered reply kernel =>
          return { machine with kernel, control := .body role (rest reply) }
      | .underway closing body reply kernel =>
          let caller := .body role fun verdict => rest (reply verdict)
          return machine.close closing body kernel (caller :: machine.callers)

/-- Do the next thing, unless it is a fault to do it. -/
def advance (machine : Machine S) : Except Fault (Machine S) :=
  let kernel := machine.kernel
  match machine.control with
  | .turn => do
      match ← machine.patience with
      | none =>
          return { machine with
            kernel := kernel.record .noLiveTasks
            control := .concluded (.ended none) }
      | some deadline =>
          let stats :=
            { kernel.stats with dispatches := kernel.stats.dispatches + 1 }
          return { machine with
            kernel := { kernel with stats }
            control := .dispatch deadline (deadline == .elapsed) }
  | .dispatch deadline woke => do
      let (resumed, kernel) ← kernel.drain machine.drained
      if woke || resumed || deadline.reached kernel.now then
        return { machine with kernel, drained := [], control := .pick }
      else
        let kernel := kernel.record (.idles deadline)
        let stats := { kernel.stats with waits := kernel.stats.waits + 1 }
        return { machine with
          kernel := { kernel with stats }
          drained := []
          control := .sleep deadline }
  | .sleep deadline =>
      match Environment.sleepUntil kernel.world deadline with
      | .due world =>
          return { machine with
            kernel := { kernel with world }
            control := .dispatch deadline false }
      | .woken world interrupts => do
          let events ← kernel.events.serve interrupts
          return { machine with
            kernel := { kernel with world, events }
            control := .dispatch deadline false }
      | .stalled world =>
          return { machine with
            kernel := { kernel with world }
            control := .stalled }
  | .pick => do
      let (task, scheduler) ← (← machine.queueUp).pop
      match task with
      | none =>
          return { machine with toScheduler := scheduler, control := .turn }
      | some task =>
          let kernel := scheduler.kernel.record (.runs task)
          let (body, kernel) ← kernel.beginSlice task
          return { machine with
            toScheduler := { scheduler with kernel }
            control := .body (.slice task) (Application.resume body) }
  | .body role program => machine.advanceBody role program
  | .verdict verdict =>
      match machine.callers with
      | [] =>
          return { machine with
            control := .concluded (.answered (.ok verdict)) }
      | .body role rest :: callers =>
          return { machine with control := .body role (rest verdict), callers }
      | .sweep value doomed :: callers =>
          return { machine with control := .sweep value doomed, callers }
  | .sweep value [] =>
      return { machine with control := .concluded (.ended (some value)) }
  | .sweep value (task :: doomed) => do
      match ← kernel.kill task with
      | .refused error => throw (.notKilledAtShutdown task error)
      | .needless => return { machine with control := .sweep value doomed }
      | .begun joiners body kernel =>
          return machine.close ⟨task, joiners, .kill⟩ body kernel
            (.sweep value doomed :: machine.callers)
  | .concluded _ | .stalled | .faulted _ => return machine

/-- Do the next thing.  A fault leaves everything else as it was. -/
def step (machine : Machine S) : Machine S :=
  match machine.advance with
  | .ok machine => machine
  | .error fault => { machine with control := .faulted fault }

/-- Take steps until nothing is left to do, but no more than `budget`. -/
def run : (budget : Nat) → Machine S → Machine S
  | 0, machine => machine
  | budget + 1, machine =>
      if machine.control.isFinal then machine else run budget machine.step

/-- The machine that goes on with an operation once it has been started. -/
def ofStarted (scheduler : Scheduler S) :
    Except Fault (Started S (Except Error Bool)) → Machine S
  | .error fault =>
      { scheduler with control := .faulted fault, callers := [] }
  | .ok (.answered answer kernel) =>
      { scheduler with
        kernel
        control := .concluded (.answered answer)
        callers := [] }
  | .ok (.underway closing body _ kernel) =>
      { scheduler with
        kernel
        control := .body (.close closing) (closeProgram body)
        callers := [] }

def launch (scheduler : Scheduler S) : Call → Machine S
  | .kill task => ofStarted scheduler (scheduler.kernel.startKill task)
  | .stopHandler event => ofStarted scheduler (scheduler.kernel.startStop event)
  | .release event =>
      ofStarted scheduler
        ((scheduler.kernel.startRelease event).map fun started =>
          started.map .ok)
  | .abandon event =>
      ofStarted scheduler
        ((scheduler.kernel.startAbandon event).map fun started =>
          started.map .ok)
  | .run => { scheduler with control := .turn, callers := [] }

end Machine

end EventScheduler
