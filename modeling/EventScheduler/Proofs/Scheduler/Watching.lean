import EventScheduler.Proofs.Kernel.Waiting
import EventScheduler.Proofs.Scheduler.Aside
import EventScheduler.Proofs.Scheduler.Handling

/-!
# Which moves decide who watches an event

A move registers a task on an event, unregisters it, gives up the event, or lets
the task die.  Every other move, whatever it does to other events, to other
tasks or through other handles of the slot, leaves it to watch or not.
-/

namespace EventScheduler

variable {S : Signature}

/-! ### Who asks to watch -/

namespace Request

/-- With that answer to a request of the task `current` the task watches the
event, whether it did before or not. -/
def Registers (current : TaskHandle) :
    (request : Request S) → request.Reply → EventHandle → TaskHandle → Prop
  | .watch known, answer, event, task =>
      answer = .ok () ∧ known = event ∧ current = task
  | .wait events _ _, answer, event, task =>
      answer = .ok .pending ∧ event ∈ events ∧ current = task
  | .handle known _, answer, event, task => answer = .ok task ∧ known = event
  | _, _, _, _ => False

/-- With that answer to a request of the task `current` the task does not watch
the event any more.  A wait that is over leaves all its events. -/
def Unregisters (current : TaskHandle) :
    (request : Request S) → request.Reply → EventHandle → TaskHandle → Prop
  | .unwatch known, _, event, task => known = event ∧ current = task
  | .wait events _ _, answer, event, task =>
      answer ≠ .ok .pending ∧ event ∈ events ∧ current = task
  | _, _, _, _ => False

/-- The request is a release or an abandonment of the event that comes to its
end at once, and the verdict is true. -/
def GivesUp : (request : Request S) → request.Reply → EventHandle → Prop
  | .release known, verdict, event => verdict = true ∧ known = event
  | .abandon known, verdict, event => verdict = true ∧ known = event
  | _, _, _ => False

end Request

namespace Operation

def Registers :
    (operation : Operation S) → operation.Answer → EventHandle → TaskHandle →
      Prop
  | .watch known watcher, answer, event, task =>
      answer = .ok () ∧ known = event ∧ watcher = task
  | .handle known _ _, answer, event, task => answer = .ok task ∧ known = event
  | _, _, _, _ => False

def Unregisters : Operation S → EventHandle → TaskHandle → Prop
  | .unwatch known watcher, event, task => known = event ∧ watcher = task
  | _, _, _ => False

end Operation

namespace Kernel

variable {kernel next : Kernel S} {event : EventHandle} {task : TaskHandle}

/-- Whoever watches is alive. -/
theorem Watches.alive (watches : kernel.Watches event task)
    (related : kernel.Related) : kernel.roster.Alive task :=
  related.watching watches.2

/-- Where nobody asks for anything, those who watch and do not die go on
watching. -/
theorem Evolves.watches_iff_of_aside {may : Deed → Prop}
    (evolves : Evolves may kernel next) (wellformed : kernel.Wellformed)
    (related : kernel.Related)
    (aside : ∀ deed, may deed → deed.isAside = true ∨ deed.Outside) :
    next.Watches event task ↔
      kernel.Watches event task ∧ next.roster.Alive task := by
  induction evolves with
  | refl =>
      exact (and_iff_left_of_imp fun watches => watches.alive related).symm
  | @step middle next deed before change allowed ih =>
      have wellformedToo := before.wellformed wellformed
      have relatedToo := before.related wellformed related
      have nobody : deed.started? ≠ some task ∧ ¬ deed.Enrols event task ∧
          (deed.Expels event task ↔ deed = .dies task) := by
        rcases aside deed allowed with fits | rfl | ⟨other, rfl | rfl⟩
        · cases deed <;> simp [Deed.isAside] at fits <;>
            simp [Deed.started?, Deed.Enrols, Deed.Expels]
        · simp [Deed.started?, Deed.Enrols, Deed.Expels]
        · simp [Deed.started?, Deed.Enrols, Deed.Expels]
        · simp [Deed.started?, Deed.Enrols, Deed.Expels]
      obtain ⟨unstarted, outside, expels⟩ := nobody
      rw [change.watches_iff relatedToo, change.alive_iff wellformedToo, ih,
        expels]
      simp [outside, unstarted, and_assoc]

variable [Environment S.World]

/-- Who watches an event once a request was answered. -/
theorem perform_watches_iff (wellformed : kernel.Wellformed)
    (related : kernel.Related) {current : TaskHandle} {request : Request S}
    {reply : request.Reply}
    (done : kernel.perform current request = .ok (.answered reply next)) :
    next.Watches event task ↔
      request.Registers current reply event task ∨
        kernel.Watches event task ∧
          ¬ request.Unregisters current reply event task ∧
          ¬ request.GivesUp reply event := by
  cases request with
  | watch known =>
      cases done
      rw [watches_watch Prod.mk.eta.symm]
      simp [Request.Registers, Request.Unregisters, Request.GivesUp]
  | unwatch known =>
      cases done
      rw [watches_unwatch]
      simp [Request.Registers, Request.Unregisters, Request.GivesUp]
  | wait events deadline poll =>
      cases done
      by_cases pending :
          (kernel.wait current events deadline poll).1 = .ok .pending
      · rw [watches_wait (Prod.ext pending rfl)]
        simp [Request.Registers, Request.Unregisters, Request.GivesUp, pending]
      · rw [watches_wait_of_over Prod.mk.eta.symm pending]
        simp [Request.Registers, Request.Unregisters, Request.GivesUp, pending]
  | handle known body =>
      obtain ⟨⟨answer, after⟩, handled, ended⟩ := exists_ok_of_bind done
      cases ended
      rw [watches_handle wellformed related handled]
      simp [Request.Registers, Request.Unregisters, Request.GivesUp]
  | release known =>
      have settles : kernel.SettlesAtOnce known (.release known) reply next :=
        startErrand_answered wellformed done
      rw [watches_settlesAtOnce wellformed related settles]
      simp [Request.Registers, Request.Unregisters, Request.GivesUp,
        Errand.event?]
  | abandon known =>
      have settles : kernel.SettlesAtOnce known (.abandon known) reply next :=
        startErrand_answered wellformed done
      rw [watches_settlesAtOnce wellformed related settles]
      simp [Request.Registers, Request.Unregisters, Request.GivesUp,
        Errand.event?]
  | _ =>
      have evolves := perform_answered wellformed done
      rw [evolves.watches_iff wellformed related]
      · simp [Request.Registers, Request.Unregisters, Request.GivesUp]
      · refine fun deed comes => ⟨?_, ?_⟩
        · rintro (rfl | rfl) <;> simp [Request.May, Deed.Wakes] at comes
        · rintro (rfl | rfl | rfl | rfl) <;>
            simp [Request.May, Deed.Wakes] at comes

/-- Who watches an event once an operation from outside was carried out. -/
theorem operate_watches_iff {scheduler after : Scheduler S}
    (wellformed : scheduler.kernel.Wellformed)
    (related : scheduler.kernel.Related) {operation : Operation S}
    {answer : operation.Answer}
    (done : scheduler.operate operation = .ok (answer, after)) :
    after.kernel.Watches event task ↔
      operation.Registers answer event task ∨
        scheduler.kernel.Watches event task ∧
          ¬ operation.Unregisters event task := by
  cases operation with
  | watch known watcher =>
      cases done
      refine Iff.trans (watches_watch Prod.mk.eta.symm) ?_
      simp [Operation.Registers, Operation.Unregisters]
  | unwatch known watcher =>
      cases done
      refine Iff.trans (watches_unwatch scheduler.kernel known watcher) ?_
      simp [Operation.Registers, Operation.Unregisters]
  | handle known body name =>
      obtain ⟨⟨reply, kernel⟩, handled, ended⟩ := exists_ok_of_bind done
      cases ended
      refine Iff.trans (watches_handle wellformed related handled) ?_
      simp [Operation.Registers, Operation.Unregisters]
  | _ =>
      have evolves := (Scheduler.operate_evolves wellformed done).2
      rw [evolves.watches_iff wellformed related]
      · simp [Operation.Registers, Operation.Unregisters]
      · refine fun deed comes => ⟨?_, ?_⟩
        · rintro (rfl | rfl) <;> simp [Operation.May, Deed.Wakes] at comes
        · rintro (rfl | rfl | rfl | rfl) <;>
            simp [Operation.May, Deed.Wakes] at comes

end Kernel

/-! ### Which moves register a task -/

namespace Machine

variable [Application S]

/-- The move lets the task watch the event: it asked to, or waits, or is started
to handle the event. -/
inductive Registers (machine : Machine S) (event : EventHandle)
    (task : TaskHandle) : Move S → Prop
  | operation {operation : Operation S} {answer : operation.Answer}
      {scheduler : Scheduler S} (idle : machine.control.isIdle = true)
      (done : machine.operate operation = .ok (answer, scheduler))
      (registers : operation.Registers answer event task) :
      Registers machine event task (.operate operation)
  | request {role : Role} {request : Request S} {reply : request.Reply}
      {rest : request.Reply → Program S (role.Result S)} {kernel : Kernel S}
      (control : machine.control = .body role (.ask request rest))
      (done : machine.kernel.perform role.task request =
        .ok (.answered reply kernel))
      (registers : request.Registers role.task reply event task) :
      Registers machine event task .step

/-- The move makes the task cease to watch the event: it asked to, or its wait
is over. -/
inductive Unregisters (machine : Machine S) (event : EventHandle)
    (task : TaskHandle) : Move S → Prop
  | operation {operation : Operation S} (idle : machine.control.isIdle = true)
      (unregisters : operation.Unregisters event task) :
      Unregisters machine event task (.operate operation)
  | request {role : Role} {request : Request S} {reply : request.Reply}
      {rest : request.Reply → Program S (role.Result S)} {kernel : Kernel S}
      (control : machine.control = .body role (.ask request rest))
      (done : machine.kernel.perform role.task request =
        .ok (.answered reply kernel))
      (unregisters : request.Unregisters role.task reply event task) :
      Unregisters machine event task .step

def Aloof (machine : Machine S) (move : Move S) : Prop :=
  ∀ event task, ¬ machine.Registers event task move ∧
    ¬ machine.Unregisters event task move ∧ ¬ machine.GivesUp event move

/-- Who watches an event after a move was registered by it, or watched before,
was not unregistered, and lives on, and the event was not given up. -/
def Minds (machine : Machine S) (move : Move S) (next : Machine S) : Prop :=
  ∀ event task, next.kernel.Watches event task ↔
    machine.Registers event task move ∨
      machine.kernel.Watches event task ∧
        ¬ machine.Unregisters event task move ∧
        ¬ machine.GivesUp event move ∧ next.kernel.roster.Alive task

variable {machine next : Machine S} {move : Move S} {event : EventHandle}
  {task : TaskHandle}

private theorem minds_of_aloof {may : Deed → Prop} (steady : machine.Steady)
    (related : machine.kernel.Related) (aloof : machine.Aloof move)
    (evolves : Kernel.Evolves may machine.kernel next.kernel)
    (aside : ∀ deed, may deed → deed.isAside = true ∨ deed.Outside) :
    machine.Minds move next := by
  intro event task
  obtain ⟨registers, unregisters, givesUp⟩ := aloof event task
  rw [evolves.watches_iff_of_aside steady.placed.wellformed related aside]
  simp [registers, unregisters, givesUp]

/-- Nothing happens to the kernel. -/
private theorem minds_of_still (steady : machine.Steady)
    (related : machine.kernel.Related) (aloof : machine.Aloof move)
    (still : next.kernel = machine.kernel) : machine.Minds move next := by
  have evolves : Kernel.Evolves (fun _ => False) machine.kernel next.kernel :=
    still ▸ .refl _
  exact minds_of_aloof steady related aloof evolves fun _ => False.elim

/-- Whoever watches is alive anyway. -/
private theorem minds_of_iff (related : next.kernel.Related)
    (watches : ∀ event task, next.kernel.Watches event task ↔
      machine.Registers event task move ∨
        machine.kernel.Watches event task ∧
          ¬ machine.Unregisters event task move ∧
          ¬ machine.GivesUp event move) : machine.Minds move next := by
  intro event task
  constructor
  · intro after
    have alive := after.alive related
    rcases (watches event task).mp after with registers | ⟨before, stays, kept⟩
    · exact Or.inl registers
    · exact Or.inr ⟨before, stays, kept, alive⟩
  · rintro (registers | ⟨before, stays, kept, _⟩)
    · exact (watches event task).mpr (Or.inl registers)
    · exact (watches event task).mpr (Or.inr ⟨before, stays, kept⟩)

/-! ### Steps -/

/-- A step that neither answers a request nor comes to the end of a close. -/
private theorem aloof_of_unanswered
    (unanswered : ∀ {role : Role} {request : Request S} {reply : request.Reply}
      {rest : request.Reply → Program S (role.Result S)} {kernel : Kernel S},
      machine.control = .body role (.ask request rest) →
        machine.kernel.perform role.task request ≠ .ok (.answered reply kernel))
    (unclosed : ∀ {closing : Closing} {kernel : Kernel S},
      machine.control = .body (.close closing) (.pure ()) →
        machine.kernel.complete closing ≠ .ok (true, kernel)) :
    machine.Aloof .step := by
  refine fun event task => ⟨?_, ?_, ?_⟩
  · rintro (_ | ⟨control, done, _⟩)
    exact unanswered control done
  · rintro (_ | ⟨control, done, _⟩)
    exact unanswered control done
  · intro gives
    cases gives with
    | askedRelease control done | askedAbandon control done =>
        exact unanswered control done
    | closed control _ done => exact unclosed control done

private theorem aloof_of_calm (calm : machine.control.isCalm = true) :
    machine.Aloof .step := by
  refine aloof_of_unanswered (fun control => ?_) fun control => ?_
  · rw [control] at calm
    cases calm
  · rw [control] at calm
    cases calm

private theorem aloof_of_fault {fault : Fault}
    (failed : machine.advance = .error fault) : machine.Aloof .step := by
  have faulted : (machine.move .step).control = .faulted fault :=
    congrArg Machine.control (move_step_of_error failed)
  refine aloof_of_unanswered (fun control done => ?_) fun control done => ?_
  · rw [move_of_answered control done] at faulted
    cases faulted
  · rw [move_of_closed control done] at faulted
    cases faulted

private theorem aloof_of_underway {role : Role} {request : Request S}
    {reply : Bool → request.Reply}
    {rest : request.Reply → Program S (role.Result S)} {closing : Closing}
    {body : Option S.Body} {kernel : Kernel S}
    (control : machine.control = .body role (.ask request rest))
    (done : machine.kernel.perform role.task request =
      .ok (.underway closing body reply kernel)) : machine.Aloof .step := by
  refine aloof_of_unanswered (fun known answered => ?_) fun known => ?_
  · cases control.symm.trans known
    cases done.symm.trans answered
  · cases control.symm.trans known

section Answered

variable {role : Role} {request : Request S} {reply : request.Reply}
  {rest : request.Reply → Program S (role.Result S)} {kernel : Kernel S}

private theorem registers_iff
    (control : machine.control = .body role (.ask request rest))
    (done : machine.kernel.perform role.task request =
      .ok (.answered reply kernel)) :
    machine.Registers event task .step ↔
      request.Registers role.task reply event task := by
  refine ⟨fun registers => ?_, .request control done⟩
  cases registers with
  | request controlToo doneToo registers =>
      cases control.symm.trans controlToo
      cases done.symm.trans doneToo
      exact registers

private theorem unregisters_iff
    (control : machine.control = .body role (.ask request rest))
    (done : machine.kernel.perform role.task request =
      .ok (.answered reply kernel)) :
    machine.Unregisters event task .step ↔
      request.Unregisters role.task reply event task := by
  refine ⟨fun unregisters => ?_, .request control done⟩
  cases unregisters with
  | request controlToo doneToo unregisters =>
      cases control.symm.trans controlToo
      cases done.symm.trans doneToo
      exact unregisters

private theorem givesUp_iff
    (control : machine.control = .body role (.ask request rest))
    (done : machine.kernel.perform role.task request =
      .ok (.answered reply kernel)) :
    machine.GivesUp event .step ↔ request.GivesUp reply event := by
  constructor
  · intro gives
    cases gives with
    | askedRelease controlToo doneToo | askedAbandon controlToo doneToo =>
        cases control.symm.trans controlToo
        cases done.symm.trans doneToo
        exact ⟨rfl, rfl⟩
    | closed controlToo _ _ => cases control.symm.trans controlToo
  · intro gives
    cases request with
    | release known =>
        obtain ⟨rfl, rfl⟩ := gives
        exact .askedRelease control done
    | abandon known =>
        obtain ⟨rfl, rfl⟩ := gives
        exact .askedAbandon control done
    | _ => exact gives.elim

end Answered

private theorem minds_of_closed {closing : Closing} {verdict woke : Bool}
    {middle : Kernel S} (steady : machine.Steady)
    (related : machine.kernel.Related) (relatedAfter : next.kernel.Related)
    (control : machine.control = .body (.close closing) (.pure ()))
    (resumed : machine.kernel.resumeAll closing.joiners = .ok (woke, middle))
    (settles : middle.settle closing.errand = (verdict, next.kernel)) :
    machine.Minds .step next := by
  have wellformed := steady.placed.wellformed
  have wakes := Kernel.resumeAll_evolves wellformed resumed
  have completed : machine.kernel.complete closing =
      .ok (verdict, next.kernel) := by
    unfold Kernel.complete
    rw [bind_of_ok resumed]
    exact congrArg Except.ok settles
  refine minds_of_iff relatedAfter fun event task => ?_
  have registers : ¬ machine.Registers event task .step := by
    rintro (_ | ⟨known, _, _⟩)
    cases control.symm.trans known
  have unregisters : ¬ machine.Unregisters event task .step := by
    rintro (_ | ⟨known, _, _⟩)
    cases control.symm.trans known
  have givesUp : machine.GivesUp event .step ↔
      verdict = true ∧ closing.errand.event? = some event := by
    constructor
    · intro gives
      cases gives with
      | askedRelease known _ | askedAbandon known _ =>
          cases control.symm.trans known
      | closed known onEvent done =>
          cases control.symm.trans known
          cases completed.symm.trans done
          exact ⟨rfl, onEvent⟩
    · rintro ⟨rfl, onEvent⟩
      exact .closed control onEvent completed
  rw [Kernel.watches_settle (wakes.related wellformed related) settles,
    wakes.watches_iff wellformed related, givesUp]
  · simp [registers, unregisters]
  · rintro deed ⟨woken, rfl⟩
    simp [Deed.Enrols, Deed.Expels]

/-- Who watches an event after a step. -/
private theorem Transition.minds (transition : Transition machine .step next)
    (steady : machine.Steady) (related : machine.kernel.Related)
    (relatedAfter : next.kernel.Related) : machine.Minds .step next := by
  by_cases calm : machine.control.isCalm = true
  · exact minds_of_aloof steady related (aloof_of_calm calm)
      (transition.aside calm) fun _ => Or.inl
  have asleep {deadline : Deadline}
      (control : machine.control = .sleep deadline) : machine.Aloof .step := by
    refine aloof_of_unanswered (fun known => ?_) fun known => ?_
    · cases control.symm.trans known
    · cases control.symm.trans known
  cases transition with
  | faults fault failed =>
      exact minds_of_still steady related (aloof_of_fault (failed rfl)) rfl
  | outside evolves other => exact absurd rfl other
  | wakes control evolves | stalls control evolves =>
      exact minds_of_aloof steady related (asleep control) evolves
        fun _ => Or.inr
  | answers control done evolves =>
      refine minds_of_iff relatedAfter fun event task => ?_
      rw [registers_iff control done, unregisters_iff control done,
        givesUp_iff control done]
      exact Kernel.perform_watches_iff steady.placed.wellformed related done
  | kills body control begins done =>
      exact minds_of_aloof steady related (aloof_of_underway control done)
        begins.begins.aside fun _ => Or.inl
  | endsClose control wakes settles resumed =>
      exact minds_of_closed steady related relatedAfter control resumed settles
  | still rests =>
      refine absurd ?_ calm
      have final := rests rfl
      cases control : machine.control with
      | concluded | stalled | faulted => rfl
      | _ =>
          rw [control] at final
          cases final
  | ends control | dispatches control | drains control | idles control
  | picksNothing control | picks body control | endsSlice control
  | concludes control | returns control | sweepsOn control | swept control
  | passes control | sweeps body control =>
      exact absurd (by rw [control]; rfl) calm

/-! ### Other moves -/

private theorem minds_of_operated {operation : Operation S}
    {answer : operation.Answer} {scheduler : Scheduler S}
    (steady : machine.Steady) (related : machine.kernel.Related)
    (relatedAfter : scheduler.kernel.Related)
    (idle : machine.control.isIdle = true)
    (done : machine.operate operation = .ok (answer, scheduler)) :
    machine.Minds (.operate operation)
      { machine with toScheduler := scheduler } := by
  refine minds_of_iff relatedAfter fun event task => ?_
  have registers : machine.Registers event task (.operate operation) ↔
      operation.Registers answer event task := by
    refine ⟨fun registers => ?_, .operation idle done⟩
    cases registers with
    | operation _ doneToo registers =>
        cases done.symm.trans doneToo
        exact registers
  have unregisters : machine.Unregisters event task (.operate operation) ↔
      operation.Unregisters event task := by
    refine ⟨fun unregisters => ?_, .operation idle⟩
    cases unregisters with
    | operation _ unregisters => exact unregisters
  have kept : ¬ machine.GivesUp event (.operate operation) := nofun
  rw [registers, unregisters, and_iff_left kept]
  exact Kernel.operate_watches_iff steady.placed.wellformed related done

/-- An operation that is a fault neither registers nor unregisters anybody. -/
private theorem aloof_of_failed {operation : Operation S} {fault : Fault}
    (failed : machine.operate operation = .error fault) :
    machine.Aloof (.operate operation) := by
  refine fun event task => ⟨?_, ?_, nofun⟩
  · rintro ⟨_, done, _⟩
    cases failed.symm.trans done
  · rintro ⟨_, unregisters⟩
    cases operation with
    | unwatch => cases failed
    | _ => exact unregisters

private theorem aloof_of_busy (busy : machine.control.isIdle = false)
    (other : move ≠ .step) : machine.Aloof move := by
  refine fun event task => ⟨?_, ?_, ?_⟩
  · rintro (⟨idle, _, _⟩ | _)
    · exact Bool.false_ne_true (busy.symm.trans idle)
    · exact other rfl
  · rintro (⟨idle, _⟩ | _)
    · exact Bool.false_ne_true (busy.symm.trans idle)
    · exact other rfl
  · intro gives
    cases gives with
    | calledRelease idle _ | calledAbandon idle _ =>
        exact Bool.false_ne_true (busy.symm.trans idle)
    | _ => exact other rfl

private theorem minds_of_errand {call : Call} {known : EventHandle}
    {errand : Errand} (steady : machine.Steady)
    (related : machine.kernel.Related) (onEvent : errand.event? = some known)
    (launches : machine.move (.call call) = ofStarted machine.toScheduler
      ((machine.kernel.startErrand known errand).map fun started =>
        started.map .ok))
    (relatedAfter : (machine.move (.call call)).kernel.Related)
    (gives : ∀ event, machine.GivesUp event (.call call) ↔ known = event ∧
      ∃ kernel, machine.kernel.startErrand known errand =
        .ok (.answered true kernel)) :
    machine.Minds (.call call) (machine.move (.call call)) := by
  have wellformed := steady.placed.wellformed
  have unasked (event : EventHandle) (task : TaskHandle) :
      ¬ machine.Registers event task (.call call) ∧
        ¬ machine.Unregisters event task (.call call) :=
    ⟨nofun, nofun⟩
  have aloof (unanswered : ∀ kernel, machine.kernel.startErrand known errand ≠
      .ok (.answered true kernel)) : machine.Aloof (.call call) := by
    refine fun event task => ⟨nofun, nofun, ?_⟩
    rw [gives]
    rintro ⟨_, kernel, done⟩
    exact unanswered kernel done
  rw [launches] at relatedAfter ⊢
  cases started : machine.kernel.startErrand known errand with
  | error fault =>
      exact minds_of_still steady related
        (aloof fun _ done => nomatch started.symm.trans done) rfl
  | ok result =>
      cases result with
      | answered verdict kernel =>
          rw [started] at relatedAfter
          have settles := Kernel.startErrand_answered wellformed started
          refine minds_of_iff relatedAfter fun event task => ?_
          refine Iff.trans
            (Kernel.watches_settlesAtOnce wellformed related settles) ?_
          rw [gives, started, onEvent]
          simp [unasked, and_comm]
      | underway closing body reply kernel =>
          obtain ⟨begins, _, _⟩ :=
            Kernel.startErrand_underway wellformed started
          exact minds_of_aloof steady related
            (aloof fun _ done => nomatch started.symm.trans done)
            begins.aside fun _ => Or.inl

private theorem minds_of_call (steady : machine.Steady)
    (related : machine.kernel.Related) {call : Call}
    (idle : machine.control.isIdle = true)
    (relatedAfter : (machine.move (.call call)).kernel.Related) :
    machine.Minds (.call call) (machine.move (.call call)) := by
  have launches : machine.move (.call call) =
      launch machine.toScheduler call := by
    unfold Machine.move
    dsimp only
    rw [if_pos idle]
  have aloof (kills : ∀ event, ¬ machine.GivesUp event (.call call)) :
      machine.Aloof (.call call) := fun event task =>
    ⟨nofun, nofun, kills event⟩
  cases call with
  | kill task =>
      rw [launches]
      exact minds_of_aloof steady related (aloof nofun)
        (aside_of_kill steady task) fun _ => Or.inl
  | stopHandler event =>
      rw [launches]
      unfold launch Kernel.startStop
      dsimp only
      split
      · exact minds_of_aloof steady related (aloof nofun)
          (aside_of_kill steady _) fun _ => Or.inl
      · exact minds_of_still steady related (aloof nofun) rfl
  | release event =>
      refine minds_of_errand steady related rfl launches relatedAfter
        fun other => ⟨?_, ?_⟩
      · intro gives
        cases gives with
        | calledRelease _ done => exact ⟨rfl, _, done⟩
      · rintro ⟨rfl, kernel, done⟩
        exact .calledRelease idle done
  | abandon event =>
      refine minds_of_errand steady related rfl launches relatedAfter
        fun other => ⟨?_, ?_⟩
      · intro gives
        cases gives with
        | calledAbandon _ done => exact ⟨rfl, _, done⟩
      · rintro ⟨rfl, kernel, done⟩
        exact .calledAbandon idle done
  | run =>
      rw [launches]
      exact minds_of_still steady related (aloof nofun) rfl

/-- Interrupts and the world outside. -/
private theorem Transition.minds_of_outside
    (transition : Transition machine move next) (steady : machine.Steady)
    (related : machine.kernel.Related) (aloof : machine.Aloof move)
    (outer : (∃ interrupt, move = .interrupt interrupt) ∨
      ∃ world, move = .outside world) : machine.Minds move next := by
  rcases outer with ⟨interrupt, rfl⟩ | ⟨world, rfl⟩ <;>
  cases transition with
  | still | faults => exact minds_of_still steady related aloof rfl
  | outside evolves =>
      exact minds_of_aloof steady related aloof evolves fun _ => Or.inr

/-- Who watches an event after a move. -/
private theorem minds_of_move (steady : machine.Steady)
    (transition : Transition machine move (machine.move move))
    (related : machine.kernel.Related)
    (relatedAfter : (machine.move move).kernel.Related) :
    machine.Minds move (machine.move move) := by
  have busily (busy : machine.control.isIdle = false) (other : move ≠ .step)
      (still : machine.move move = machine) :
      machine.Minds move (machine.move move) := by
    rw [still]
    exact minds_of_still steady related (aloof_of_busy busy other) rfl
  cases move with
  | step => exact transition.minds steady related relatedAfter
  | call call =>
      by_cases idle : machine.control.isIdle = true
      · exact minds_of_call steady related idle relatedAfter
      · exact busily (eq_false_of_ne_true idle) nofun (if_neg idle)
  | operate operation =>
      by_cases idle : machine.control.isIdle = true
      · cases done : machine.operate operation with
        | error fault =>
            refine minds_of_still steady related (aloof_of_failed done) ?_
            unfold Machine.move
            dsimp only
            rw [if_pos idle, done]
        | ok result =>
            rw [move_of_operated idle done] at relatedAfter ⊢
            exact minds_of_operated steady related relatedAfter idle done
      · exact busily (eq_false_of_ne_true idle) nofun (if_neg idle)
  | interrupt interrupt =>
      exact transition.minds_of_outside steady related
        (fun event task => ⟨nofun, nofun, nofun⟩) (Or.inl ⟨interrupt, rfl⟩)
  | outside world =>
      exact transition.minds_of_outside steady related
        (fun event task => ⟨nofun, nofun, nofun⟩) (Or.inr ⟨world, rfl⟩)

end Machine

theorem Run.minds [Application S] (run : Run S) (count : Nat) :
    (run.after count).Minds (run.moves count) (run.after (count + 1)) :=
  Machine.minds_of_move (run.steady count) (run.transition count)
    (run.related count) (run.related (count + 1))

/-- An event that a move enables is claimed by it. -/
theorem Run.claims_of_isEnabled [Application S] {run : Run S} {count : Nat}
    {event : EventHandle}
    (enabled : (run.after (count + 1)).kernel.events.isEnabled event = true)
    (disabled : ¬ (run.after count).kernel.events.isEnabled event = true) :
    (run.after count).Does (.claims event) (run.moves count) := by
  obtain ⟨deed, accounts, issued⟩ :=
    (run.accounted count).exists_issued enabled disabled
  have claims := accounts.claims (issued ▸ Option.some_ne_none event)
  cases deed with
  | claims other =>
      cases issued
      exact claims
  | _ => cases issued

/-- Whatever state a run is in, a task that asks to wait for several events gets
an answer, and watches all of them or none. -/
theorem Run.allOrNothing [Application S] (run : Run S) (count : Nat)
    (task : TaskHandle) (events : List EventHandle) (deadline : Deadline)
    (poll : S.World → Option S.Answer × S.World) :
    ∃ answer next,
      (run.after count).kernel.perform task (.wait events deadline poll) =
          .ok (.answered answer next) ∧
        (run.after count).kernel.AllOrNothing task events deadline poll answer
          next :=
  ⟨_, _, rfl, Kernel.wait_allOrNothing (run.wellformed count)
    (run.related count) task events deadline poll⟩

end EventScheduler
