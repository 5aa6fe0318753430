import EventScheduler.Proofs.Kernel.Watching
import EventScheduler.Proofs.Scheduler.Aside
import EventScheduler.Proofs.Scheduler.Deeds

/-!
# Which event slots a move frees

A release that comes to a good end frees the slot of its event, whether it was
done at once or waited for the close of a handler, and so does the release of an
abandoned event, wherever it comes from.  Here it is read off a move which slots
it frees, and every generation advances just as often.
-/

namespace EventScheduler

variable {S : Signature}

/-! ### What frees slots -/

def Errand.freed : Errand → Bool → List (Fin maxEvents)
  | .release event, verdict => event.freedIf verdict
  | _, _ => []

def Request.freed : (request : Request S) → request.Reply → List (Fin maxEvents)
  | .release event, verdict => event.freedIf verdict
  | .releaseAbandoned event, verdict => event.freedIf verdict
  | _, _ => []

def Operation.freed :
    (operation : Operation S) → operation.Answer → List (Fin maxEvents)
  | .releaseAbandoned event, verdict => event.freedIf verdict
  | _, _ => []

theorem Deed.freedEvent?_of_isAside {deed : Deed} (aside : deed.isAside = true)
    (events : Events) : deed.freedEvent? events = none := by
  cases deed with
  | releases | givesBack => cases aside
  | _ => rfl

namespace Kernel

variable {kernel next : Kernel S}

/-- Changes that free no slot. -/
theorem Evolves.frees {may : Deed → Prop} (evolves : Evolves may kernel next)
    (kept : ∀ deed, may deed → ∀ events, deed.freedEvent? events = none) :
    kernel.events.Frees [] next.events := by
  induction evolves with
  | refl => exact .refl _
  | step before change allowed ih =>
      have frees := change.reshapes.frees
      rw [kept _ allowed] at frees
      exact ih.append frees

private theorem Evolves.frees_of_aside
    (evolves : Evolves (fun deed => deed.isAside = true) kernel next) :
    kernel.events.Frees [] next.events :=
  evolves.frees fun _ => Deed.freedEvent?_of_isAside

variable [Environment S.World]

theorem settle_frees {errand : Errand} {verdict : Bool}
    (settles : kernel.settle errand = (verdict, next)) :
    kernel.events.Frees (errand.freed verdict) next.events := by
  cases errand with
  | kill =>
      cases settles
      exact .refl _
  | release event =>
      unfold settle at settles
      dsimp only at settles
      split at settles
      · cases settles
        exact .refl _
      · next events released =>
          have frees := (Events.release_reshapes released).frees
          split at settles <;> cases settles <;> exact frees
  | abandon event =>
      unfold settle at settles
      dsimp only at settles
      split at settles
      · cases settles
        exact .refl _
      · next events abandoned =>
          cases settles
          exact (Events.abandon_reshapes abandoned).frees

theorem settlesAtOnce_frees {event : EventHandle} {errand : Errand}
    {verdict : Bool}
    (settles : kernel.SettlesAtOnce event errand verdict next) :
    kernel.events.Frees (errand.freed verdict) next.events := by
  obtain ⟨middle, _, same, done⟩ := settles.exists_settle
  exact same ▸ settle_frees done

def freedByErrand (kernel : Kernel S) (event : EventHandle)
    (errand : Errand) : List (Fin maxEvents) :=
  match kernel.startErrand event errand with
  | .ok (.answered verdict _) => errand.freed verdict
  | _ => []

theorem perform_frees (wellformed : kernel.Wellformed) {current : TaskHandle}
    {request : Request S} {reply : request.Reply}
    (done : kernel.perform current request = .ok (.answered reply next)) :
    kernel.events.Frees (request.freed reply) next.events := by
  cases request with
  | release event =>
      have settles : kernel.SettlesAtOnce event (.release event) reply next :=
        startErrand_answered wellformed done
      exact settlesAtOnce_frees settles
  | releaseAbandoned event =>
      cases done
      exact Events.releaseAbandoned_frees _ event
  | _ =>
      have evolves := perform_answered wellformed done
      refine evolves.frees fun deed comes events => ?_
      cases deed with
      | releases | givesBack =>
          simp [Request.May, Deed.Wakes, Deed.Waits, Deed.Settles] at comes
      | _ => rfl

theorem operate_frees {scheduler after : Scheduler S}
    (wellformed : scheduler.kernel.Wellformed) {operation : Operation S}
    {answer : operation.Answer}
    (done : scheduler.operate operation = .ok (answer, after)) :
    scheduler.kernel.events.Frees (operation.freed answer)
      after.kernel.events := by
  cases operation with
  | releaseAbandoned event =>
      cases done
      exact Events.releaseAbandoned_frees _ event
  | _ =>
      have evolves := (Scheduler.operate_evolves wellformed done).2
      refine evolves.frees fun deed comes events => ?_
      cases deed with
      | releases | givesBack => simp [Operation.May, Deed.Wakes] at comes
      | _ => rfl

end Kernel

namespace Machine

variable [Application S]

def freedByStep (machine : Machine S) : List (Fin maxEvents) :=
  match machine.control with
  | .body role (.ask request _) =>
      match machine.kernel.perform role.task request with
      | .ok (.answered reply _) => request.freed reply
      | _ => []
  | .body (.close closing) (.pure _) =>
      match machine.kernel.complete closing with
      | .ok (verdict, _) => closing.errand.freed verdict
      | .error _ => []
  | .sleep deadline =>
      match Environment.sleepUntil machine.kernel.world deadline with
      | .woken _ interrupts =>
          match machine.kernel.events.serve interrupts with
          | .ok _ => machine.kernel.events.freedByAll interrupts
          | .error _ => []
      | _ => []
  | _ => []

/-- The event slots that a call frees before it runs any body. -/
def freedByCall (machine : Machine S) : Call → List (Fin maxEvents)
  | .release event => machine.kernel.freedByErrand event (.release event)
  | .abandon event => machine.kernel.freedByErrand event (.abandon event)
  | _ => []

/-- The event slots that a move frees, each as often as it is freed. -/
def freedEvents (machine : Machine S) : Move S → List (Fin maxEvents)
  | .step => machine.freedByStep
  | .call call =>
      if machine.control.isIdle then machine.freedByCall call else []
  | .operate operation =>
      if machine.control.isIdle then
        match machine.operate operation with
        | .ok (answer, _) => operation.freed answer
        | .error _ => []
      else []
  | .interrupt interrupt =>
      if machine.control.isFaulted then []
      else
        match machine.kernel.events.interrupt interrupt with
        | .ok _ => machine.kernel.events.freedBy interrupt
        | .error _ => []
  | .outside _ => []

def FreesEvents (machine : Machine S) (move : Move S) : Prop :=
  machine.kernel.events.Frees (machine.freedEvents move)
    (machine.move move).kernel.events

variable {machine : Machine S}

/-! ### Steps -/

theorem freedByStep_of_isCalm (calm : machine.control.isCalm = true) :
    machine.freedByStep = [] := by
  unfold freedByStep
  split
  · next control =>
      rw [control] at calm
      cases calm
  · next control =>
      rw [control] at calm
      cases calm
  · next control =>
      rw [control] at calm
      cases calm
  · rfl

private theorem freesEvents_of_asked (steady : machine.Steady) {role : Role}
    {request : Request S} {rest : request.Reply → Program S (role.Result S)}
    (control : machine.control = .body role (.ask request rest)) :
    machine.FreesEvents .step := by
  have wellformed := steady.placed.wellformed
  unfold FreesEvents freedEvents freedByStep
  rw [control]
  dsimp only
  cases performed : machine.kernel.perform role.task request with
  | error fault =>
      have failed : machine.advance = .error fault := by
        rw [advance_of_body control]
        unfold advanceBody
        dsimp only
        rw [performed]
        rfl
      rw [move_step_of_error failed]
      exact .refl _
  | ok started =>
      cases started with
      | answered reply kernel =>
          rw [move_of_answered control performed]
          exact Kernel.perform_frees wellformed performed
      | underway closing body reply kernel =>
          rw [move_of_underway control performed]
          have begins := (Kernel.perform_underway wellformed performed).1
          exact begins.aside.frees_of_aside

private theorem freesEvents_of_closed (steady : machine.Steady)
    {closing : Closing}
    (control : machine.control = .body (.close closing) (.pure ())) :
    machine.FreesEvents .step := by
  unfold FreesEvents freedEvents freedByStep
  rw [control]
  dsimp only
  cases completed : machine.kernel.complete closing with
  | error fault =>
      have failed : machine.advance = .error fault := by
        rw [advance_of_body control]
        unfold advanceBody leaveBody
        dsimp only
        rw [completed]
        rfl
      rw [move_step_of_error failed]
      exact .refl _
  | ok result =>
      obtain ⟨verdict, kernel⟩ := result
      rw [move_of_closed control completed]
      obtain ⟨woke, middle, wakes, _, settles⟩ :=
        Kernel.complete_evolves steady.placed.wellformed completed
      -- Waking the joiners frees nothing, so it is all up to the errand.
      have woken := wakes.mono fun _ fits => Deed.Wakes.isAside fits
      exact woken.frees_of_aside.append (Kernel.settle_frees settles)

private theorem freesEvents_of_asleep {deadline : Deadline}
    (control : machine.control = .sleep deadline) :
    machine.FreesEvents .step := by
  unfold FreesEvents freedEvents freedByStep Machine.move step advance
  rw [control]
  dsimp only
  cases Environment.sleepUntil machine.kernel.world deadline with
  | due world | stalled world => exact .refl _
  | woken world interrupts =>
      dsimp only
      cases served : machine.kernel.events.serve interrupts with
      | error fault => exact .refl _
      | ok events => exact Events.serve_frees served

private theorem freesEvents_of_step (steady : machine.Steady)
    (transition : Transition machine .step (machine.move .step)) :
    machine.FreesEvents .step := by
  by_cases calm : machine.control.isCalm = true
  · have frees := (transition.aside calm).frees_of_aside
    rwa [← freedByStep_of_isCalm calm] at frees
  · cases control : machine.control with
    | body role program =>
        cases program with
        | ask request rest => exact freesEvents_of_asked steady control
        | pure result =>
            cases role with
            | close closing => exact freesEvents_of_closed steady control
            | slice task =>
                rw [control] at calm
                exact absurd rfl calm
    | sleep deadline => exact freesEvents_of_asleep control
    | _ =>
        rw [control] at calm
        exact absurd rfl calm

/-! ### Other moves -/

private theorem frees_of_errand (steady : machine.Steady) (event : EventHandle)
    (errand : Errand) :
    machine.kernel.events.Frees (machine.kernel.freedByErrand event errand)
      (ofStarted machine.toScheduler
        ((machine.kernel.startErrand event errand).map fun started =>
          started.map .ok)).kernel.events := by
  have wellformed := steady.placed.wellformed
  unfold Kernel.freedByErrand
  cases started : machine.kernel.startErrand event errand with
  | error fault => exact .refl _
  | ok result =>
      cases result with
      | answered verdict kernel =>
          exact Kernel.settlesAtOnce_frees
            (Kernel.startErrand_answered wellformed started)
      | underway closing body reply kernel =>
          have begins := (Kernel.startErrand_underway wellformed started).1
          exact begins.aside.frees_of_aside

private theorem freesEvents_of_call (steady : machine.Steady) (call : Call) :
    machine.FreesEvents (.call call) := by
  unfold FreesEvents freedEvents Machine.move
  dsimp only
  split
  · cases call with
    | kill task => exact (aside_of_kill steady task).frees_of_aside
    | stopHandler event =>
        unfold launch Kernel.startStop
        dsimp only
        split
        · exact (aside_of_kill steady _).frees_of_aside
        · exact .refl _
    | release event => exact frees_of_errand steady event (.release event)
    | abandon event => exact frees_of_errand steady event (.abandon event)
    | run => exact .refl _
  · exact .refl _

private theorem freesEvents_of_operation (steady : machine.Steady)
    (operation : Operation S) : machine.FreesEvents (.operate operation) := by
  unfold FreesEvents freedEvents Machine.move
  dsimp only
  split
  · cases done : machine.operate operation with
    | error fault => exact .refl _
    | ok result =>
        exact Kernel.operate_frees steady.placed.wellformed done
  · exact .refl _

private theorem freesEvents_of_interrupt (interrupt : Interrupt) :
    machine.FreesEvents (.interrupt interrupt) := by
  unfold FreesEvents freedEvents Machine.move Machine.interrupt
  dsimp only
  cases control : machine.control with
  | faulted fault => exact .refl _
  | _ =>
      cases served : machine.kernel.events.interrupt interrupt with
      | error fault => exact .refl _
      | ok events => exact Events.interrupt_frees served

end Machine

/-- A move of a run frees the slots that it is read to free. -/
theorem Run.freesEvents [Application S] (run : Run S) (count : Nat) :
    (run.after count).FreesEvents (run.moves count) := by
  have steady := run.steady count
  have transition : Machine.Transition (run.after count) (run.moves count)
    ((run.after count).move (run.moves count)) := run.transition count
  cases moved : run.moves count with
  | step =>
      rw [moved] at transition
      exact Machine.freesEvents_of_step steady transition
  | call call => exact Machine.freesEvents_of_call steady call
  | operate operation => exact Machine.freesEvents_of_operation steady operation
  | interrupt interrupt => exact Machine.freesEvents_of_interrupt interrupt
  | outside world => exact .refl _

end EventScheduler
