import EventScheduler.Proofs.Kernel.Requests
import EventScheduler.Scheduler.Machine
import EventScheduler.Scheduler.Operations

/-!
# Runs of a scheduler

What can happen to a scheduler, move by move.  Between two operations any
operation can begin.  In the middle of one the machine takes steps.  Interrupts
and changes of the world outside come at any time.

A run is a sequence of moves; what holds after any number of moves of any run
holds in every state that a scheduler can be in.  Interrupts touch nothing but
the registry, so it is enough to let them come between two steps.
-/

namespace EventScheduler

variable {S : Signature}

/-- An operation from outside the tasks that runs no body and may change the
scheduler. -/
inductive Operation (S : Signature)
  | start (body : S.Body) (name : Option String)
  | resume (task : TaskHandle)
  | reap (task : TaskHandle)
  | claim
  | claimInto (cell : Option EventHandle)
  | setPending (event : EventHandle)
  | releaseAbandoned (event : EventHandle)
  | watch (event : EventHandle) (task : TaskHandle)
  | unwatch (event : EventHandle) (task : TaskHandle)
  | handle (event : EventHandle) (body : S.Body) (name : Option String)

abbrev Operation.Answer : Operation S → Type
  | .start _ _ | .handle _ _ _ => Except Error TaskHandle
  | .resume _ | .setPending _ | .releaseAbandoned _ | .unwatch _ _ => Bool
  | .reap _ => Except Error (Option S.Exit)
  | .claim => Except Error EventHandle
  | .claimInto _ => CellClaim
  | .watch _ _ => Except Error Unit

def Scheduler.operate [Environment S.World] (scheduler : Scheduler S) :
    (operation : Operation S) →
      Except Fault (operation.Answer × Scheduler S)
  | .start body name => scheduler.start body name
  | .resume task => scheduler.resume task
  | .reap task => scheduler.reap task
  | .claim => .ok scheduler.claim
  | .claimInto cell => .ok (scheduler.claimInto cell)
  | .setPending event => scheduler.setPending event
  | .releaseAbandoned event => .ok (scheduler.releaseAbandoned event)
  | .watch event task => .ok (scheduler.watch event task)
  | .unwatch event task => .ok (scheduler.unwatch event task)
  | .handle event body name => scheduler.handle event body name

/-- What can happen to a scheduler next. -/
inductive Move (S : Signature)
  /-- The machine does the next thing. -/
  | step
  /-- An operation begins that may run bodies. -/
  | call (call : Call)
  | operate (operation : Operation S)
  | interrupt (interrupt : Interrupt)
  /-- The world outside changes. -/
  | outside (world : S.World)

/-- Whether an operation from outside can begin. -/
def Control.isIdle : Control S → Bool
  | .concluded _ | .stalled => true
  | _ => false

namespace Machine

variable [Application S]

def new (world : S.World) : Machine S :=
  { Scheduler.new world with control := .concluded (.ended none), callers := [] }

def interrupt (machine : Machine S) (interrupt : Interrupt) : Machine S :=
  match machine.control, machine.kernel.events.interrupt interrupt with
  | .faulted _, _ => machine
  | _, .ok events => { machine with kernel := { machine.kernel with events } }
  | _, .error fault => { machine with control := .faulted fault }

/-- Make a move; one that is not possible now changes nothing. -/
def move (machine : Machine S) : Move S → Machine S
  | .step => machine.step
  | .call call =>
      if machine.control.isIdle then launch machine.toScheduler call
      else machine
  | .operate operation =>
      if machine.control.isIdle then
        match machine.toScheduler.operate operation with
        | .ok (_, scheduler) => { machine with toScheduler := scheduler }
        | .error fault => { machine with control := .faulted fault }
      else machine
  | .interrupt interrupt => machine.interrupt interrupt
  | .outside world => { machine with kernel := { machine.kernel with world } }

theorem move_step_of_ok {machine next : Machine S}
    (done : machine.advance = .ok next) : machine.move .step = next := by
  unfold Machine.move step
  dsimp only
  rw [done]

theorem move_step_of_error {machine : Machine S} {fault : Fault}
    (failed : machine.advance = .error fault) :
    machine.move .step = { machine with control := .faulted fault } := by
  unfold Machine.move step
  dsimp only
  rw [failed]

theorem advance_of_body {machine : Machine S} {role : Role}
    {program : Program S (role.Result S)}
    (control : machine.control = .body role program) :
    machine.advance = machine.advanceBody role program := by
  unfold advance
  dsimp only
  rw [control]

end Machine

/-- A world to begin in and a sequence of moves. -/
structure Run (S : Signature) where
  world : S.World
  moves : Nat → Move S

/-- The scheduler after the first moves of a run. -/
def Run.after [Application S] (run : Run S) : Nat → Machine S
  | 0 => .new run.world
  | count + 1 => (run.after count).move (run.moves count)

theorem Run.after_succ [Application S] {run : Run S} {count : Nat}
    {move : Move S} (moves : run.moves count = move) :
    run.after (count + 1) = (run.after count).move move :=
  congrArg (run.after count).move moves

/-! ### Operations from outside -/

namespace Operation

/-- What may happen while an operation from outside is carried out. -/
def May : (operation : Operation S) → operation.Answer → Deed → Prop
  | .start _ _, answer, deed =>
      deed = .quiet ∨ ∃ task, answer = .ok task ∧ deed = .starts task
  | .resume _, _, deed => deed.Wakes
  | .reap task, _, deed => deed = .reaps task
  | .claim, answer, deed => ∃ event, answer = .ok event ∧ deed = .claims event
  | .claimInto _, grant, deed =>
      ∃ event, grant.answer = .ok event ∧ deed = .claims event
  | .setPending event, _, deed => deed = .occurs event
  | .releaseAbandoned event, _, deed => deed = .givesBack event
  | .watch event task, _, deed => deed = .watches event task
  | .unwatch event task, _, deed => deed = .unwatches event task
  | .handle event _ _, answer, deed =>
      deed = .quiet ∨ (∃ index, deed = .spoils index) ∨
        ∃ task, answer = .ok task ∧ deed = .handles event task

end Operation

namespace Scheduler

variable {scheduler next : Scheduler S}

/-- Only a reap that answers how the task ended changes anything. -/
theorem reap_cases (wellformed : scheduler.kernel.Wellformed)
    {task : TaskHandle} {answer : Except Error (Option S.Exit)}
    (done : scheduler.reap task = .ok (answer, next)) :
    (next = scheduler ∧ ∀ exit, answer ≠ .ok (some exit)) ∨
      next.yielded = scheduler.yielded ∧ (∃ exit, answer = .ok (some exit)) ∧
        Kernel.Change scheduler.kernel (.reaps task) next.kernel := by
  obtain ⟨tasks, reaped, holds⟩ := wellformed.holds.reap task
  unfold reap at done
  rw [bind_of_ok (TaskTable.tryReap_eq _ task), reaped] at done
  cases known : (scheduler.kernel.roster.reap task).1 with
  | error error =>
      rw [known] at done
      cases done
      exact Or.inl ⟨rfl, fun _ impossible => nomatch impossible⟩
  | ok exit =>
      rw [known] at reaped done
      cases done
      cases exit with
      | none =>
          rw [TaskTable.eq_of_reap_none reaped]
          exact Or.inl ⟨rfl, fun _ impossible => nomatch impossible⟩
      | some exit => exact Or.inr ⟨rfl, ⟨exit, rfl⟩, .reap known holds⟩

private theorem reap_evolves (wellformed : scheduler.kernel.Wellformed)
    {task : TaskHandle} {answer : Except Error (Option S.Exit)}
    (done : scheduler.reap task = .ok (answer, next)) :
    next.yielded = scheduler.yielded ∧
      Kernel.Evolves (fun deed => deed = .reaps task) scheduler.kernel
        next.kernel := by
  rcases reap_cases wellformed done with ⟨rfl, _⟩ | ⟨yielded, _, reaps⟩
  · exact ⟨rfl, .refl _⟩
  · exact ⟨yielded, .single reaps rfl⟩

private theorem claim_evolves (scheduler : Scheduler S) :
    scheduler.claim.2.yielded = scheduler.yielded ∧
      Kernel.Evolves (fun deed => ∃ event, scheduler.claim.1 = .ok event ∧
        deed = .claims event) scheduler.kernel scheduler.claim.2.kernel := by
  unfold claim
  cases claimed : scheduler.kernel.events.claim with
  | error error => exact ⟨rfl, .refl _⟩
  | ok result =>
      exact ⟨rfl, .single (.claim claimed) ⟨result.1, rfl, rfl⟩⟩

private theorem claimInto_evolves (scheduler : Scheduler S)
    (cell : Option EventHandle) :
    (scheduler.claimInto cell).2.yielded = scheduler.yielded ∧
      Kernel.Evolves (fun deed => ∃ event,
        (scheduler.claimInto cell).1.answer = .ok event ∧
          deed = .claims event)
        scheduler.kernel (scheduler.claimInto cell).2.kernel := by
  unfold claimInto
  rcases scheduler.kernel.events.claimInto_cases cell with
    ⟨error, kept⟩ | ⟨event, events, claimed, granted⟩
  · rw [kept]
    exact ⟨rfl, .refl _⟩
  · rw [granted]
    exact ⟨rfl, .single (.claim claimed) ⟨event, rfl, rfl⟩⟩

theorem exists_of_claim {event : EventHandle}
    (answered : scheduler.claim.1 = .ok event) :
    ∃ events, scheduler.kernel.events.claim = .ok (event, events) ∧
      scheduler.claim.2.kernel = { scheduler.kernel with events } := by
  unfold claim at answered ⊢
  split at answered
  · cases answered
  · next events claimed =>
      cases answered
      exact ⟨events, claimed, rfl⟩

theorem exists_of_claimInto {cell : Option EventHandle} {event : EventHandle}
    (answered : (scheduler.claimInto cell).1.answer = .ok event) :
    ∃ events, scheduler.kernel.events.claim = .ok (event, events) ∧
      (scheduler.claimInto cell).2.kernel =
        { scheduler.kernel with events } := by
  obtain ⟨events, claimed, granted⟩ := Events.claimInto_eq_of_ok answered
  unfold claimInto
  rw [granted]
  exact ⟨events, claimed, rfl⟩

variable [Environment S.World]

theorem operate_evolves (wellformed : scheduler.kernel.Wellformed)
    {operation : Operation S} {answer : operation.Answer}
    (done : scheduler.operate operation = .ok (answer, next)) :
    next.yielded = scheduler.yielded ∧
      Kernel.Evolves (operation.May answer) scheduler.kernel next.kernel := by
  cases operation with
  | start body name =>
      obtain ⟨⟨known, kernel⟩, started, ended⟩ := exists_ok_of_bind done
      cases ended
      exact ⟨rfl, Kernel.start_evolves wellformed started⟩
  | resume task =>
      obtain ⟨⟨known, kernel⟩, resumed, ended⟩ := exists_ok_of_bind done
      cases ended
      exact ⟨rfl, Kernel.resume_evolves wellformed resumed⟩
  | reap task => exact reap_evolves wellformed done
  | claim =>
      obtain ⟨rfl, rfl⟩ := Prod.mk.inj (Except.ok.inj done)
      exact claim_evolves scheduler
  | claimInto cell =>
      obtain ⟨rfl, rfl⟩ := Prod.mk.inj (Except.ok.inj done)
      exact claimInto_evolves scheduler cell
  | setPending event =>
      obtain ⟨⟨known, events⟩, pending, ended⟩ := exists_ok_of_bind done
      cases ended
      exact ⟨rfl, .single (.occur pending) rfl⟩
  | releaseAbandoned event =>
      cases done
      exact ⟨rfl, .single (.giveBack event) rfl⟩
  | watch event task =>
      cases done
      exact ⟨rfl, Kernel.watch_evolves wellformed event task⟩
  | unwatch event task =>
      cases done
      exact ⟨rfl, Kernel.unwatch_evolves _ event task⟩
  | handle event body name =>
      obtain ⟨⟨known, kernel⟩, handled, ended⟩ := exists_ok_of_bind done
      cases ended
      exact ⟨rfl, Kernel.handle_evolves wellformed handled⟩

/-- An operation from outside does not drain anything. -/
theorem drained_of_operate {operation : Operation S}
    {answer : operation.Answer}
    (done : scheduler.operate operation = .ok (answer, next)) :
    next.drained = scheduler.drained := by
  cases operation with
  | start | resume | setPending | handle =>
      obtain ⟨result, _, ended⟩ := exists_ok_of_bind done
      cases ended
      rfl
  | reap task =>
      obtain ⟨result, _, ended⟩ := exists_ok_of_bind done
      split at ended <;> cases ended <;> rfl
  | claim =>
      obtain ⟨rfl, rfl⟩ := Prod.mk.inj (Except.ok.inj done)
      split <;> rfl
  | claimInto | releaseAbandoned | watch | unwatch =>
      cases done
      rfl

end Scheduler

end EventScheduler
