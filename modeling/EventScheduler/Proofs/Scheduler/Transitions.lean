import EventScheduler.Proofs.Scheduler.Moves
import EventScheduler.Proofs.Scheduler.Turns

/-!
# What a move can do

`Machine.Transition` lists what a move can do to a scheduler in the middle of
an operation: where the control goes, who waits for a verdict, and through which
changes the kernel goes.  Invariants of runs are proved transition by
transition.
-/

namespace EventScheduler

variable {S : Signature}

namespace Deed

def Outside (deed : Deed) : Prop :=
  deed = .quiet ∨ ∃ event, deed = .occurs event ∨ deed = .givesBack event

end Deed

namespace Kernel

theorem interrupt_evolves {kernel : Kernel S} {interrupt : Interrupt}
    {events : Events} (done : kernel.events.interrupt interrupt = .ok events) :
    Evolves Deed.Outside kernel { kernel with events } := by
  cases interrupt with
  | occurred event =>
      obtain ⟨⟨queued, after⟩, pending, ended⟩ := exists_ok_of_bind done
      cases ended
      exact .single (.occur pending) (Or.inr ⟨event, Or.inl rfl⟩)
  | givenBack event =>
      cases done
      exact .single (.giveBack event) (Or.inr ⟨event, Or.inr rfl⟩)

theorem serve_evolves {kernel : Kernel S} {interrupts : List Interrupt}
    {events : Events} (done : kernel.events.serve interrupts = .ok events) :
    Evolves Deed.Outside kernel { kernel with events } := by
  induction interrupts generalizing kernel with
  | nil =>
      cases done
      exact .refl kernel
  | cons interrupt rest ih =>
      obtain ⟨middle, served, later⟩ := exists_ok_of_bind done
      have after : Evolves Deed.Outside
          { kernel with events := middle } { kernel with events } := ih later
      exact (interrupt_evolves served).trans after

end Kernel

/-- Expired timers and then the task that yielded went to the run queue. -/
def Scheduler.QueuedUp (scheduler next : Scheduler S) : Prop :=
  next.yielded = none ∧ ∃ middle,
    Kernel.Change scheduler.kernel .promotes middle ∧
    match scheduler.yielded with
    | some task => Kernel.Change middle (.requeues task) next.kernel
    | none => next.kernel = middle

namespace Machine

structure BeginsClose (machine : Machine S) (closing : Closing)
    (body : Option S.Body) (kernel : Kernel S) : Prop where
  begins : machine.kernel.Begins closing body kernel
  /-- An errand on an event kills the handler of the event. -/
  handled (event : EventHandle) : closing.errand.event? = some event →
    machine.kernel.handlers.get? event = some closing.task

variable [Application S]

inductive Transition (machine : Machine S) : Move S → Machine S → Prop
  | still {move : Move S}
      (rests : move = .step → machine.control.isFinal = true) :
      Transition machine move machine
  | faults {move : Move S} (fault : Fault)
      (failed : move = .step → machine.advance = .error fault) :
      Transition machine move { machine with control := .faulted fault }
  | outside {move : Move S} {kernel : Kernel S}
      (evolves : Kernel.Evolves Deed.Outside machine.kernel kernel)
      (other : move ≠ .step) :
      Transition machine move { machine with kernel }
  | operates {operation : Operation S} {answer : operation.Answer}
      {scheduler : Scheduler S} (idle : machine.control.isIdle = true)
      (done : machine.operate operation = .ok (answer, scheduler))
      (yielded : scheduler.yielded = machine.yielded)
      (evolves : Kernel.Evolves (operation.May answer) machine.kernel
        scheduler.kernel) :
      Transition machine (.operate operation)
        { machine with toScheduler := scheduler }
  | faultsCall {call : Call} (idle : machine.control.isIdle = true)
      (fault : Fault) :
      Transition machine (.call call) { machine with
        control := .faulted fault
        callers := [] }
  | callsRun (idle : machine.control.isIdle = true) :
      Transition machine (.call .run)
        { machine with control := .turn, callers := [] }
  | callsNothing {call : Call} (idle : machine.control.isIdle = true)
      (answer : Except Error Bool) :
      Transition machine (.call call) { machine with
        control := .concluded (.answered answer)
        callers := [] }
  | callsErrand {call : Call} {event : EventHandle} {errand : Errand}
      {verdict : Bool} {kernel : Kernel S}
      (idle : machine.control.isIdle = true)
      (onEvent : errand.event? = some event)
      (settles : machine.kernel.SettlesAtOnce event errand verdict kernel) :
      Transition machine (.call call) { machine with
        kernel
        control := .concluded (.answered (.ok verdict))
        callers := [] }
  | callsClose {call : Call} {closing : Closing} {kernel : Kernel S}
      (body : Option S.Body) (idle : machine.control.isIdle = true)
      (begins : machine.BeginsClose closing body kernel) :
      Transition machine (.call call) { machine with
        kernel
        control := .body (.close closing) (closeProgram body)
        callers := [] }
  | ends {kernel : Kernel S} (control : machine.control = .turn)
      (patience : machine.patience = .ok none)
      (evolves : Kernel.Evolves (· = .quiet) machine.kernel kernel) :
      Transition machine .step { machine with
        kernel
        control := .concluded (.ended none) }
  | dispatches {deadline : Deadline} (control : machine.control = .turn)
      (patience : machine.patience = .ok (some deadline)) :
      Transition machine .step { machine with
        kernel := machine.kernel.countDispatch
        control := .dispatch deadline (deadline == .elapsed) }
  | drains {deadline : Deadline} {woke : Bool} {kernel : Kernel S}
      (control : machine.control = .dispatch deadline woke)
      (evolves : Kernel.Evolves Deed.Drains machine.kernel kernel) :
      Transition machine .step { machine with
        kernel
        drained := []
        control := .pick }
  | idles {deadline : Deadline} {kernel : Kernel S}
      (control : machine.control = .dispatch deadline false)
      (evolves : Kernel.Evolves Deed.Drains machine.kernel kernel) :
      Transition machine .step { machine with
        kernel := kernel.countWait
        drained := []
        control := .sleep deadline }
  | wakes {deadline : Deadline} {kernel : Kernel S}
      (control : machine.control = .sleep deadline)
      (evolves : Kernel.Evolves Deed.Outside machine.kernel kernel) :
      Transition machine .step { machine with
        kernel
        control := .dispatch deadline false }
  | stalls {deadline : Deadline} {kernel : Kernel S}
      (control : machine.control = .sleep deadline)
      (evolves : Kernel.Evolves Deed.Outside machine.kernel kernel) :
      Transition machine .step { machine with kernel, control := .stalled }
  | picksNothing {scheduler : Scheduler S} (control : machine.control = .pick)
      (queued : machine.toScheduler.QueuedUp scheduler)
      (empty : scheduler.kernel.roster.run = [])
      (drained : scheduler.drained = machine.drained) :
      Transition machine .step { machine with
        toScheduler := scheduler
        control := .turn }
  | picks {scheduler : Scheduler S} {popped recorded kernel : Kernel S}
      {task : TaskHandle} (body : S.Body) (control : machine.control = .pick)
      (queued : machine.toScheduler.QueuedUp scheduler)
      (pops : Kernel.Change scheduler.kernel (.pops task) popped)
      (evolves : Kernel.Evolves (· = .quiet) popped recorded)
      (begins : Kernel.Change recorded (.begins task) kernel) :
      Transition machine .step { machine with
        kernel
        yielded := none
        control := .body (.slice task) (Application.resume body) }
  | answers {role : Role} {request : Request S} {reply : request.Reply}
      {rest : request.Reply → Program S (role.Result S)} {kernel : Kernel S}
      (control : machine.control = .body role (.ask request rest))
      (done : machine.kernel.perform role.task request =
        .ok (.answered reply kernel))
      (evolves : Kernel.Evolves (request.May role.task reply) machine.kernel
        kernel) :
      Transition machine .step { machine with
        kernel
        control := .body role (rest reply) }
  | kills {role : Role} {request : Request S} {reply : Bool → request.Reply}
      {rest : request.Reply → Program S (role.Result S)} {closing : Closing}
      {kernel : Kernel S} (body : Option S.Body)
      (control : machine.control = .body role (.ask request rest))
      (begins : machine.BeginsClose closing body kernel)
      (done : machine.kernel.perform role.task request =
        .ok (.underway closing body reply kernel)) :
      Transition machine .step { machine with
        kernel
        control := .body (.close closing) (closeProgram body)
        callers :=
          .body role (fun verdict => rest (reply verdict)) :: machine.callers }
  | endsSlice {task : TaskHandle} {step : S.Step} {body : S.Body}
      {value : Option S.Output} {scheduler : Scheduler S}
      (control : machine.control = .body (.slice task) (.pure (step, body)))
      (ends : Kernel.Change machine.kernel (.ends task)
        (machine.kernel.endSlice task body))
      (applied : Scheduler.Applied
        { machine.toScheduler with kernel := machine.kernel.endSlice task body }
        task step value scheduler) :
      Transition machine .step { machine with
        toScheduler := scheduler
        control :=
          match value with
          | none => .turn
          | some value => .sweep value scheduler.kernel.tasks.liveTasks }
  | endsClose {closing : Closing} {verdict woke : Bool}
      {middle kernel : Kernel S}
      (control : machine.control = .body (.close closing) (.pure ()))
      (wakes : Kernel.Evolves Deed.Wakes machine.kernel middle)
      (settles : middle.settle closing.errand = (verdict, kernel))
      (resumed : machine.kernel.resumeAll closing.joiners =
        .ok (woke, middle)) :
      Transition machine .step { machine with kernel, control := .verdict verdict }
  | concludes {verdict : Bool} (control : machine.control = .verdict verdict)
      (callers : machine.callers = []) :
      Transition machine .step { machine with
        control := .concluded (.answered (.ok verdict)) }
  | returns {verdict : Bool} {role : Role}
      {rest : Bool → Program S (role.Result S)} {callers : List (Caller S)}
      (control : machine.control = .verdict verdict)
      (waiting : machine.callers = .body role rest :: callers) :
      Transition machine .step { machine with
        control := .body role (rest verdict)
        callers }
  | sweepsOn {verdict : Bool} {value : S.Output} {doomed : List TaskHandle}
      {callers : List (Caller S)} (control : machine.control = .verdict verdict)
      (waiting : machine.callers = .sweep value doomed :: callers) :
      Transition machine .step { machine with
        control := .sweep value doomed
        callers }
  | swept {value : S.Output} (control : machine.control = .sweep value []) :
      Transition machine .step { machine with
        control := .concluded (.ended (some value)) }
  | passes {value : S.Output} {task : TaskHandle} {doomed : List TaskHandle}
      (control : machine.control = .sweep value (task :: doomed))
      (gone : ¬ machine.kernel.roster.Alive task) :
      Transition machine .step { machine with control := .sweep value doomed }
  | sweeps {value : S.Output} {task : TaskHandle} {doomed : List TaskHandle}
      {closing : Closing} {kernel : Kernel S} (body : Option S.Body)
      (control : machine.control = .sweep value (task :: doomed))
      (begins : machine.BeginsClose closing body kernel)
      (killed : closing.task = task) :
      Transition machine .step { machine with
        kernel
        control := .body (.close closing) (closeProgram body)
        callers := .sweep value doomed :: machine.callers }

/-- What it takes to know what a move does: the tasks are linked as they should
be, and a task whose slice is carried out is the running one. -/
structure Sane (machine : Machine S) : Prop where
  wellformed : machine.kernel.Wellformed
  running {task : TaskHandle} {program : Program S (S.Step × S.Body)} :
    machine.control = .body (.slice task) program →
      machine.kernel.running = some task
  alive {task : TaskHandle} :
    machine.kernel.running = some task → machine.kernel.roster.Alive task

variable {machine next : Machine S}

/-! ### What a step does -/

private theorem transition_turn (control : machine.control = .turn)
    (done : machine.advance = .ok next) : Transition machine .step next := by
  simp only [advance, control] at done
  obtain ⟨patience, known, later⟩ := exists_ok_of_bind done
  cases patience with
  | none =>
      cases later
      exact .ends control known (Kernel.record_evolves _ _ rfl)
  | some deadline =>
      cases later
      exact .dispatches control known

private theorem transition_dispatch (sane : machine.Sane) {deadline : Deadline}
    {woke : Bool} (control : machine.control = .dispatch deadline woke)
    (done : machine.advance = .ok next) : Transition machine .step next := by
  simp only [advance, control] at done
  obtain ⟨⟨resumed, kernel⟩, drained, later⟩ := exists_ok_of_bind done
  have evolves := Kernel.drain_evolves sane.wellformed drained
  dsimp only at later
  split at later
  · cases later
    exact .drains control evolves
  · next asleep =>
      cases later
      have quiet : woke = false := by
        cases woke with
        | false => rfl
        | true => exact absurd rfl asleep
      subst quiet
      exact .idles control
        (evolves.trans (Kernel.record_evolves _ _ (Or.inl rfl)))

private theorem transition_sleep {deadline : Deadline}
    (control : machine.control = .sleep deadline)
    (done : machine.advance = .ok next) : Transition machine .step next := by
  simp only [advance, control] at done
  split at done
  · cases done
    exact .wakes control (.single (.world _) (Or.inl rfl))
  · obtain ⟨events, served, ended⟩ := exists_ok_of_bind done
    cases ended
    have serves := Kernel.serve_evolves served
    exact .wakes control (serves.step (.world _) (Or.inl rfl))
  · cases done
    exact .stalls control (.single (.world _) (Or.inl rfl))

private theorem transition_pick (sane : machine.Sane)
    (control : machine.control = .pick)
    (done : machine.advance = .ok next) : Transition machine .step next := by
  simp only [advance, control] at done
  obtain ⟨scheduler, queued, later⟩ := exists_ok_of_bind done
  obtain ⟨⟨task, popped⟩, pop, later⟩ := exists_ok_of_bind later
  have queuedUp := Scheduler.queueUp_evolves sane.wellformed queued
  have wellformed : scheduler.kernel.Wellformed := by
    obtain ⟨_, middle, promotes, requeues⟩ := queuedUp
    have middleToo := promotes.wellformed sane.wellformed
    cases yielded : machine.yielded with
    | none =>
        rw [yielded] at requeues
        rw [requeues]
        exact middleToo
    | some task =>
        rw [yielded] at requeues
        exact requeues.wellformed middleToo
  cases task with
  | none =>
      cases later
      obtain ⟨rfl, empty⟩ := Scheduler.pop_none wellformed pop
      exact .picksNothing control queuedUp empty
        (Scheduler.drained_of_queueUp queued)
  | some task =>
      obtain ⟨⟨body, kernel⟩, began, ended⟩ := exists_ok_of_bind later
      cases ended
      obtain ⟨yielded, pops⟩ := Scheduler.pop_evolves wellformed pop
      have recorded : Kernel.Evolves (· = .quiet) popped.kernel
          (popped.kernel.record (.runs task)) :=
        Kernel.record_evolves _ _ rfl
      have begins := Kernel.beginSlice_evolves
        (recorded.wellformed (pops.wellformed wellformed)) began
      have none : popped.yielded = none := yielded.trans queuedUp.1
      have drained : popped.drained = machine.drained :=
        (Scheduler.drained_of_pop pop).trans
          (Scheduler.drained_of_queueUp queued)
      rw [none, drained]
      exact .picks body control queuedUp pops recorded begins

private theorem transition_body (sane : machine.Sane) {role : Role}
    {program : Program S (role.Result S)}
    (control : machine.control = .body role program)
    (done : machine.advance = .ok next) : Transition machine .step next := by
  simp only [advance, control] at done
  cases program with
  | pure result =>
      cases role with
      | slice task =>
          obtain ⟨step, body⟩ := result
          obtain ⟨⟨value, scheduler⟩, applied, later⟩ := exists_ok_of_bind done
          have running := sane.running control
          have ends := Kernel.endSlice_evolves sane.wellformed body running
          have wellformed := ends.wellformed sane.wellformed
          have alive : (machine.kernel.endSlice task body).roster.Alive task := by
            have held := sane.wellformed.holds.update task fun entry =>
              { entry with body := some body }
            have same : (machine.kernel.endSlice task body).roster =
              machine.kernel.roster.update task _ := held.roster_eq
            rw [same]
            refine (Roster.alive_update_iff task ?_).mpr (sane.alive running)
            exact fun _ => rfl
          have carriedOut :=
            Scheduler.apply_applied wellformed alive rfl applied
          cases value with
          | none =>
              cases later
              exact .endsSlice control ends carriedOut
          | some value =>
              cases later
              exact .endsSlice control ends carriedOut
      | close closing =>
          obtain ⟨⟨verdict, kernel⟩, completed, ended⟩ := exists_ok_of_bind done
          cases ended
          obtain ⟨woke, middle, wakes, resumed, settles⟩ :=
            Kernel.complete_evolves sane.wellformed completed
          exact .endsClose control wakes settles resumed
  | ask request rest =>
      obtain ⟨started, performed, later⟩ := exists_ok_of_bind done
      cases started with
      | answered reply kernel =>
          cases later
          exact .answers control performed
            (Kernel.perform_answered sane.wellformed performed)
      | underway closing body reply kernel =>
          cases later
          obtain ⟨begins, _, handled⟩ :=
            Kernel.perform_underway sane.wellformed performed
          exact .kills body control ⟨begins, handled⟩ performed

private theorem transition_verdict {verdict : Bool}
    (control : machine.control = .verdict verdict)
    (done : machine.advance = .ok next) : Transition machine .step next := by
  simp only [advance, control] at done
  split at done
  · next waiting =>
      cases done
      exact .concludes control waiting
  · next role rest callers waiting =>
      cases done
      exact .returns control waiting
  · next value doomed callers waiting =>
      cases done
      exact .sweepsOn control waiting

private theorem transition_sweep (sane : machine.Sane) {value : S.Output}
    {doomed : List TaskHandle} (control : machine.control = .sweep value doomed)
    (done : machine.advance = .ok next) : Transition machine .step next := by
  simp only [advance, control] at done
  cases doomed with
  | nil =>
      cases done
      exact .swept control
  | cons task doomed =>
      obtain ⟨killing, killed, later⟩ := exists_ok_of_bind done
      cases killing with
      | refused error => cases later
      | needless =>
          cases later
          exact .passes control
            (Kernel.not_alive_of_needless sane.wellformed killed)
      | begun joiners body kernel =>
          cases later
          have begins := Kernel.kill_begins sane.wellformed .kill killed
          exact .sweeps body control
            ⟨begins, fun _ impossible => nomatch impossible⟩ rfl

theorem transition_of_advance (sane : machine.Sane)
    (done : machine.advance = .ok next) : Transition machine .step next := by
  cases control : machine.control with
  | turn => exact transition_turn control done
  | dispatch deadline woke => exact transition_dispatch sane control done
  | sleep deadline => exact transition_sleep control done
  | pick => exact transition_pick sane control done
  | body role program => exact transition_body sane control done
  | verdict verdict => exact transition_verdict control done
  | sweep value doomed => exact transition_sweep sane control done
  | concluded | stalled | faulted =>
      simp only [advance, control] at done
      cases done
      exact .still fun _ => by rw [control]; rfl

theorem transition_step (sane : machine.Sane) :
    Transition machine .step machine.step := by
  unfold step
  split
  · next next done => exact transition_of_advance sane done
  · next fault failed => exact .faults fault fun _ => failed

/-! ### What the other moves do -/

private theorem transition_errand (sane : machine.Sane) {call : Call}
    {event : EventHandle} {errand : Errand}
    (onEvent : errand.event? = some event)
    (idle : machine.control.isIdle = true) :
    Transition machine (.call call) (ofStarted machine.toScheduler
      ((machine.kernel.startErrand event errand).map fun started =>
        started.map .ok)) := by
  cases started : machine.kernel.startErrand event errand with
  | error fault => exact .faultsCall idle fault
  | ok result =>
      cases result with
      | answered verdict kernel =>
          exact .callsErrand idle onEvent
            (Kernel.startErrand_answered sane.wellformed started)
      | underway closing body reply kernel =>
          obtain ⟨begins, same, handled⟩ :=
            Kernel.startErrand_underway sane.wellformed started
          refine .callsClose body idle ⟨begins, fun other sameToo => ?_⟩
          rw [same, onEvent] at sameToo
          cases sameToo
          exact handled

private theorem transition_kill (sane : machine.Sane) {call : Call}
    (task : TaskHandle) (idle : machine.control.isIdle = true) :
    Transition machine (.call call)
      (ofStarted machine.toScheduler (machine.kernel.startKill task)) := by
  cases started : machine.kernel.startKill task with
  | error fault => exact .faultsCall idle fault
  | ok result =>
      cases result with
      | answered answer kernel =>
          rw [Kernel.startKill_answered started]
          exact .callsNothing idle answer
      | underway closing body reply kernel =>
          obtain ⟨begins, same, _⟩ :=
            Kernel.startKill_underway sane.wellformed started
          refine .callsClose body idle ⟨begins, fun event sameToo => ?_⟩
          rw [same] at sameToo
          cases sameToo

theorem transition_call (sane : machine.Sane) (call : Call)
    (idle : machine.control.isIdle = true) :
    Transition machine (.call call) (launch machine.toScheduler call) := by
  cases call with
  | kill task => exact transition_kill sane task idle
  | stopHandler event =>
      unfold launch Kernel.startStop
      dsimp only
      split
      · exact transition_kill sane _ idle
      · exact .callsNothing idle (.ok false)
  | release event | abandon event => exact transition_errand sane rfl idle
  | run => exact .callsRun idle

theorem transition_of_move (sane : machine.Sane) (move : Move S) :
    Transition machine move (machine.move move) := by
  cases move with
  | step => exact transition_step sane
  | call call =>
      unfold Machine.move
      dsimp only
      split
      · next idle => exact transition_call sane call idle
      · exact .still fun impossible => nomatch impossible
  | operate operation =>
      unfold Machine.move
      dsimp only
      split
      · next idle =>
          split
          · next answer scheduler done =>
              obtain ⟨yielded, evolves⟩ :=
                Scheduler.operate_evolves sane.wellformed done
              exact .operates idle done yielded evolves
          · exact .faults _ fun impossible => nomatch impossible
      · exact .still fun impossible => nomatch impossible
  | interrupt interrupt =>
      unfold Machine.move Machine.interrupt
      dsimp only
      split
      · exact .still fun impossible => nomatch impossible
      · next events served _ =>
          exact .outside (Kernel.interrupt_evolves served)
            fun impossible => nomatch impossible
      · exact .faults _ fun impossible => nomatch impossible
  | outside world =>
      exact .outside (.single (.world world) (Or.inl rfl))
        fun impossible => nomatch impossible

end Machine

end EventScheduler
