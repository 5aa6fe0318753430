import EventScheduler.Proofs.Kernel.Refusals
import EventScheduler.Proofs.Scheduler.Generations
import EventScheduler.Scenario.Session

/-!
# Nothing comes of a refusal

Whatever is asked of a scheduler and refused, from outside or from a body,
leaves it as it was, and no close runs for it.  A handler that its event has no
room for costs one empty slot a generation, so that nobody else gets the handle
of the task that was dropped before the generations come round.
-/

namespace EventScheduler

variable {S : Signature}

/-! ### Refusals -/

/-- The operation is refused, or nothing was to be done. -/
def Operation.Refused : (operation : Operation S) → operation.Answer → Prop
  | .start _ _, answer | .handle _ _ _, answer =>
      ∃ error, answer = .error error
  | .claim, answer => ∃ error, answer = .error error
  | .claimInto _, grant => ∃ error, grant.answer = .error error
  | .watch _ _, answer => ∃ error, answer = .error error
  | .reap _, answer => ∀ exit, answer ≠ .ok (some exit)
  | .resume _, flag | .unwatch _ _, flag => flag = false
  | .setPending _, flag | .releaseAbandoned _, flag => flag = false

/-- The request is refused, or nothing was to be done. -/
def Request.Refused : (request : Request S) → request.Reply → Prop
  | .start _ _, reply | .handle _ _, reply => ∃ error, reply = .error error
  | .kill _, reply | .stopHandler _, reply => ∃ error, reply = .error error
  | .claim, reply => ∃ error, reply = .error error
  | .claimInto _, grant => ∃ error, grant.answer = .error error
  | .join _, reply => ∃ error, reply = .error error
  | .watch _, reply => ∃ error, reply = .error error
  | .resume _, flag | .unwatch _, flag => flag = false
  | .setPending _, flag | .releaseAbandoned _, flag => flag = false
  | _, _ => False

namespace Kernel

/-- What is left after a refusal, given the task that was dropped if it was that
of a handler. -/
inductive Spared (kernel : Kernel S) : Option TaskHandle → Kernel S → Prop
  | untouched : Spared kernel none kernel
  /-- The generation of an empty slot has advanced. -/
  | spoilt {index : SlotIndex} (vacant : kernel.roster.entry index = none) :
      Spared kernel (some (kernel.roster.handleAt index))
        { kernel with tasks := kernel.tasks.spoil index }

theorem Spared.of_eq {kernel next : Kernel S} (same : next = kernel) :
    kernel.Spared none next := by
  rw [same]
  exact .untouched

variable [Environment S.World] {kernel next : Kernel S}

theorem handle_spared (wellformed : kernel.Wellformed) {event : EventHandle}
    {body : S.Body} {name : Option String} {error : Error}
    (done : kernel.handle event body name = .ok (.error error, next)) :
    kernel.Spared (kernel.dropped? event body name) next := by
  rcases handle_refused wellformed done with
    ⟨other, rfl⟩ | ⟨rfl, index, seat, spoils⟩
  · have kept : next.dropped? event body name = none := by
      unfold dropped?
      rw [done]
      split
      · next answered _ =>
          cases answered
          exact absurd rfl other
      · rfl
    rw [kept]
    exact .untouched
  · obtain ⟨tasks, inserted⟩ := (inserted_iff wellformed).mpr seat
    have dropped : kernel.dropped? event body name =
        some (kernel.roster.handleAt index) := by
      unfold dropped?
      rw [done, inserted]
    rw [dropped, spoils.eq_of_spoils wellformed]
    exact .spoilt spoils.vacant_of_spoils

end Kernel

/-! ### Operations from outside -/

def Operation.dropped? [Environment S.World] (kernel : Kernel S) :
    Operation S → Option TaskHandle
  | .handle event body name => kernel.dropped? event body name
  | _ => none

namespace Scheduler

variable [Environment S.World] {scheduler next : Scheduler S}

theorem operate_spared (wellformed : scheduler.kernel.Wellformed)
    {operation : Operation S} {answer : operation.Answer}
    (done : scheduler.operate operation = .ok (answer, next))
    (refused : operation.Refused answer) :
    ∃ kernel, scheduler.kernel.Spared (operation.dropped? scheduler.kernel)
        kernel ∧ next = { scheduler with kernel } := by
  cases operation with
  | start body name =>
      obtain ⟨error, rfl⟩ := refused
      obtain ⟨⟨answer, kernel⟩, started, ended⟩ := exists_ok_of_bind done
      cases ended
      have same : kernel = scheduler.kernel :=
        Kernel.start_cases wellformed started
      exact ⟨kernel, .of_eq same, rfl⟩
  | resume task =>
      obtain rfl : answer = false := refused
      obtain ⟨⟨flag, kernel⟩, resumed, ended⟩ := exists_ok_of_bind done
      cases ended
      exact ⟨kernel, .of_eq (Kernel.eq_of_resume resumed), rfl⟩
  | reap task =>
      rcases reap_cases wellformed done with
        ⟨rfl, _⟩ | ⟨_, ⟨exit, reaped⟩, _⟩
      · exact ⟨next.kernel, .untouched, rfl⟩
      · exact absurd reaped (refused exit)
  | claim =>
      obtain ⟨error, rfl⟩ := refused
      obtain ⟨answered, rfl⟩ := Prod.mk.inj (Except.ok.inj done)
      cases claimed : scheduler.kernel.events.claim with
      | error known => exact ⟨scheduler.kernel, .untouched, rfl⟩
      | ok result =>
          rw [claimed] at answered
          cases answered
  | claimInto cell =>
      obtain ⟨error, answered⟩ := refused
      obtain ⟨rfl, rfl⟩ := Prod.mk.inj (Except.ok.inj done)
      have kept := Events.claimInto_eq_of_error answered
      exact ⟨_, .of_eq (congrArg (fun claim =>
        { scheduler.kernel with events := claim.2 }) kept), rfl⟩
  | setPending event =>
      obtain rfl : answer = false := refused
      obtain ⟨⟨flag, events⟩, pending, ended⟩ := exists_ok_of_bind done
      cases ended
      cases Events.eq_of_setPending pending
      exact ⟨scheduler.kernel, .untouched, rfl⟩
  | releaseAbandoned event =>
      obtain ⟨answered, rfl⟩ := Prod.mk.inj (Except.ok.inj done)
      have kept := Events.eq_of_releaseAbandoned (answered.trans refused)
      exact ⟨_, .of_eq (congrArg (fun events =>
        { scheduler.kernel with events }) kept), rfl⟩
  | watch event task =>
      obtain ⟨error, rfl⟩ := refused
      obtain ⟨answered, rfl⟩ := Prod.mk.inj (Except.ok.inj done)
      exact ⟨_, .of_eq (Kernel.eq_of_watch answered), rfl⟩
  | unwatch event task =>
      obtain ⟨answered, rfl⟩ := Prod.mk.inj (Except.ok.inj done)
      have kept := Kernel.eq_of_unwatch (answered.trans refused)
      exact ⟨_, .of_eq kept, rfl⟩
  | handle event body name =>
      obtain ⟨error, rfl⟩ := refused
      obtain ⟨⟨answer, kernel⟩, handled, ended⟩ := exists_ok_of_bind done
      cases ended
      exact ⟨kernel, Kernel.handle_spared wellformed handled, rfl⟩

end Scheduler

/-! ### Requests of a body -/

def Request.dropped? [Environment S.World] (kernel : Kernel S) :
    Request S → Option TaskHandle
  | .handle event body => kernel.dropped? event body none
  | _ => none

namespace Kernel

variable {kernel next : Kernel S}

private theorem eq_of_answerClaim {error : Error}
    {claimed : Except Error (EventHandle × Events)}
    (done : kernel.answerClaim claimed = .ok (.answered (.error error) next)) :
    next = kernel := by
  cases claimed with
  | error known =>
      cases done
      rfl
  | ok result => cases done

variable [Environment S.World]

private theorem reply_of_startKill {task : TaskHandle} {closing : Closing}
    {body : Option S.Body} {reply : Bool → Except Error Bool}
    (done : kernel.startKill task = .ok (.underway closing body reply next)) :
    reply = .ok := by
  unfold startKill at done
  obtain ⟨killing, _, later⟩ := exists_ok_of_bind done
  cases killing with
  | refused | needless => cases later
  | begun joiners body after =>
      cases later
      rfl

theorem perform_spared (wellformed : kernel.Wellformed)
    {current : TaskHandle} {request : Request S} {reply : request.Reply}
    (done : kernel.perform current request = .ok (.answered reply next))
    (refused : request.Refused reply) :
    kernel.Spared (request.dropped? kernel) next := by
  cases request with
  -- These have no answer that refuses.
  | current | now | load | store | isAlive | isWaiting | state | name
  | release | abandon | isEnabled | isPending | queued | handler | wait =>
      cases refused
  | start body name =>
      obtain ⟨error, rfl⟩ := refused
      obtain ⟨⟨answer, after⟩, started, ended⟩ := exists_ok_of_bind done
      cases ended
      exact .of_eq (start_cases wellformed started)
  | resume task =>
      obtain rfl : reply = false := refused
      simp only [perform] at done
      split at done
      · cases done
        exact .untouched
      · obtain ⟨⟨flag, after⟩, resumed, ended⟩ := exists_ok_of_bind done
        cases ended
        exact .of_eq (eq_of_resume resumed)
  | kill task =>
      simp only [perform] at done
      split at done
      · cases done
        exact .untouched
      · exact .of_eq (startKill_answered done)
  | join task =>
      obtain ⟨error, rfl⟩ := refused
      obtain ⟨answered, rfl⟩ := Started.answered.inj (Except.ok.inj done)
      exact .of_eq (eq_of_join answered)
  | claim =>
      obtain ⟨error, rfl⟩ := refused
      exact .of_eq (eq_of_answerClaim done)
  | claimInto cell =>
      obtain ⟨error, answered⟩ := refused
      obtain ⟨rfl, rfl⟩ := Started.answered.inj (Except.ok.inj done)
      have kept := Events.claimInto_eq_of_error answered
      exact .of_eq (congrArg (fun claim =>
        { kernel with events := claim.2 }) kept)
  | releaseAbandoned event =>
      obtain ⟨answered, rfl⟩ := Started.answered.inj (Except.ok.inj done)
      have kept := Events.eq_of_releaseAbandoned (answered.trans refused)
      exact .of_eq (congrArg (fun events => { kernel with events }) kept)
  | setPending event =>
      obtain rfl : reply = false := refused
      obtain ⟨⟨flag, events⟩, pending, ended⟩ := exists_ok_of_bind done
      cases ended
      cases Events.eq_of_setPending pending
      exact .untouched
  | handle event body =>
      obtain ⟨error, rfl⟩ := refused
      obtain ⟨⟨answer, after⟩, handled, ended⟩ := exists_ok_of_bind done
      cases ended
      exact handle_spared wellformed handled
  | stopHandler event =>
      simp only [perform, startStop] at done
      split at done
      · exact .of_eq (startKill_answered done)
      · cases done
        exact .untouched
  | watch event =>
      obtain ⟨error, rfl⟩ := refused
      obtain ⟨answered, rfl⟩ := Started.answered.inj (Except.ok.inj done)
      exact .of_eq (eq_of_watch answered)
  | unwatch event =>
      obtain ⟨answered, rfl⟩ := Started.answered.inj (Except.ok.inj done)
      exact .of_eq (eq_of_unwatch (answered.trans refused))

/-- A request that runs a close is not refused afterwards. -/
theorem not_refused_of_underway {current : TaskHandle} {request : Request S}
    {closing : Closing} {body : Option S.Body}
    {reply : Bool → request.Reply}
    (done : kernel.perform current request =
      .ok (.underway closing body reply next)) (verdict : Bool) :
    ¬ request.Refused (reply verdict) := by
  cases request with
  | kill task =>
      simp only [perform] at done
      split at done
      · cases done
      · rw [reply_of_startKill done]
        rintro ⟨_, impossible⟩
        cases impossible
  | stopHandler event =>
      simp only [perform, startStop] at done
      split at done
      · rw [reply_of_startKill done]
        rintro ⟨_, impossible⟩
        cases impossible
      · cases done
  | release | abandon => exact id
  | start | setPending | handle =>
      obtain ⟨_, _, ended⟩ := exists_ok_of_bind done
      cases ended
  | resume task =>
      simp only [perform] at done
      split at done
      · cases done
      · obtain ⟨_, _, ended⟩ := exists_ok_of_bind done
        cases ended
  | claim =>
      cases claimed : kernel.events.claim <;>
        simp only [perform, claimed] at done <;> cases done
  | _ => cases done

end Kernel

/-! ### Operations that may run bodies -/

namespace Machine

private theorem exists_verdict {started : Except Fault (Started S Bool)}
    {answer : Except Error Bool} {kernel : Kernel S}
    (done : (started.map fun started => started.map .ok) =
      .ok (.answered answer kernel)) : ∃ verdict, answer = .ok verdict := by
  cases started with
  | error fault => cases done
  | ok result =>
      cases result with
      | answered verdict after =>
          cases done
          exact ⟨verdict, rfl⟩
      | underway closing body reply after => cases done

variable [Application S]

private theorem ofStarted_refused {scheduler : Scheduler S} {error : Error}
    {started : Except Fault (Started S (Except Error Bool))}
    (same : ∀ {answer kernel}, started = .ok (.answered answer kernel) →
      answer = .error error → kernel = scheduler.kernel)
    (refused : (ofStarted scheduler started).control =
      .concluded (.answered (.error error))) :
    ofStarted scheduler started = { scheduler with
      control := .concluded (.answered (.error error))
      callers := [] } := by
  cases started with
  | error fault => cases refused
  | ok result =>
      cases result with
      | answered answer kernel =>
          cases refused
          rw [same rfl rfl]
          rfl
      | underway closing body reply kernel => cases refused

/-- A call that is refused leaves the scheduler as it was. -/
theorem launch_refused {scheduler : Scheduler S} {call : Call} {error : Error}
    (refused : (launch scheduler call).control =
      .concluded (.answered (.error error))) :
    launch scheduler call = { scheduler with
      control := .concluded (.answered (.error error))
      callers := [] } := by
  cases call with
  | kill task =>
      exact ofStarted_refused
        (fun done _ => Kernel.startKill_answered done) refused
  | stopHandler event =>
      refine ofStarted_refused (fun done _ => ?_) refused
      unfold Kernel.startStop at done
      split at done
      · exact Kernel.startKill_answered done
      · cases done
        rfl
  | release event | abandon event =>
      refine ofStarted_refused (fun done impossible => ?_) refused
      obtain ⟨verdict, answered⟩ := exists_verdict done
      cases answered.symm.trans impossible
  | run => cases refused

/-- An operation that has begun does not end with a refusal. -/
theorem Transition.not_refused {machine next : Machine S} {move : Move S}
    (transition : Transition machine move next) (steps : move = .step)
    (busy : machine.control.isFinal = false) (error : Error) :
    next.control ≠ .concluded (.answered (.error error)) := by
  intro refused
  cases transition with
  | still rests =>
      rw [rests steps] at busy
      cases busy
  | outside evolves other => exact other steps
  | operates | faultsCall | callsRun | callsNothing | callsErrand
  | callsClose => cases steps
  | endsSlice control ends applied =>
      dsimp only at refused
      split at refused <;> cases refused
  | _ => cases refused

/-- A task that is dropped again has no slot afterwards. -/
theorem stale_of_dropped {machine : Machine S} {move : Move S}
    (wellformed : machine.kernel.Wellformed) {event : EventHandle}
    {body : S.Body} {name : Option String} {task : TaskHandle}
    (asks : machine.asksHandler? move = some (event, body, name))
    (dropped : machine.kernel.dropped? event body name = some task) :
    (machine.move move).kernel.tasks.Stale task := by
  intro index slot
  rw [← freed?_of_asksHandler asks] at dropped
  exact Or.inr (freed_of_freed? wellformed dropped slot.symm).2.2.2

/-- Nobody is given the handle of a task by the move that drops it. -/
theorem Does.ne_of_dropped {machine : Machine S} {move : Move S} {deed : Deed}
    (does : machine.Does deed move) (wellformed : machine.kernel.Wellformed)
    {event : EventHandle} {body : S.Body} {name : Option String}
    {task : TaskHandle}
    (asks : machine.asksHandler? move = some (event, body, name))
    (dropped : machine.kernel.dropped? event body name = some task) :
    deed.started? ≠ some task := by
  intro starts
  obtain ⟨index, rfl, _, filled⟩ := does.exists_seat wellformed starts
  rw [← freed?_of_asksHandler asks] at dropped
  have empty := (freed_of_freed? wellformed dropped rfl).2.2.2
  rw [empty] at filled
  cases filled

theorem Does.inserts {machine : Machine S} {move : Move S} {deed : Deed}
    (does : machine.Does deed move) {task : TaskHandle}
    (starts : deed.started? = some task) : machine.Inserts task move := by
  cases deed with
  | starts known =>
      cases starts
      exact .starts does
  | handles event known =>
      cases starts
      exact .handles does
  | _ => cases starts

end Machine

/-! ### Cells -/

/-- The cell keeps what it held if the claim is refused, and holds the event that
was claimed if it is not. -/
structure CellClaim.Fits (grant : CellClaim) (cell : Option EventHandle) :
    Prop where
  refused {error : Error} : grant.answer = .error error → grant.cell = cell
  granted {event : EventHandle} :
    grant.answer = .ok event → grant.cell = some event

theorem Events.claimInto_fits (events : Events) (cell : Option EventHandle) :
    (events.claimInto cell).1.Fits cell where
  refused refused := by rw [claimInto_eq_of_error refused]
  granted granted := by
    obtain ⟨next, _, same⟩ := claimInto_eq_of_ok granted
    rw [same]

namespace Scenario

/-- What becomes of the cell of a name when an event is claimed into it. -/
structure KeepsCells : Prop where
  /-- From outside, the scheduler with the world that has the cell stays as it
  was if the claim is refused. -/
  outside {budget : Nat} {scheduler : Scheduler scripted} {name : String}
    {error : Error}
    (refused : (Session.operate budget scheduler (.claimInto name)).1 =
      .ok (.refused error)) :
    (Session.operate budget scheduler (.claimInto name)).2 = scheduler
  /-- The name stands for what the claim leaves in the cell. -/
  lookup (budget : Nat) (scheduler : Scheduler scripted) (name : String) :
    (Session.operate budget scheduler
        (.claimInto name)).2.kernel.world.events.lookup name =
      (scheduler.claimInto
        (scheduler.kernel.world.events.lookup name)).1.cell
  /-- A body asks for the cell and for the claim, and then for nothing more if it
  is refused. -/
  inside (name : String) :
    (Operation.claimInto name).program =
        .ask .load (fun world => .ask (.claimInto (world.events.lookup name))
          fun grant => bindClaimed name grant.answer) ∧
      (∀ error, bindClaimed name (.error error) = .pure (.refused error)) ∧
      ∀ event, bindClaimed name (.ok event) =
        .ask .load fun world => .ask (.store (world.bindEvent name event))
          fun _ => .pure (.event (some event))

theorem keepsCells : KeepsCells where
  outside {budget scheduler name error} refused := by
    unfold Session.operate Scheduler.claimInto at refused ⊢
    dsimp only at refused ⊢
    rcases scheduler.kernel.events.claimInto_cases
        (scheduler.kernel.world.events.lookup name) with
      ⟨known, kept⟩ | ⟨event, events, _, granted⟩
    · rw [kept]
      rfl
    · rw [granted] at refused
      cases refused
  lookup budget scheduler name := by
    unfold Session.operate Scheduler.claimInto
    dsimp only
    rcases scheduler.kernel.events.claimInto_cases
        (scheduler.kernel.world.events.lookup name) with
      ⟨error, kept⟩ | ⟨event, events, _, granted⟩
    · rw [kept]
      rfl
    · rw [granted]
      exact List.lookup_cons_self
  inside name := ⟨rfl, fun _ => rfl, fun _ => rfl⟩

end Scenario

/-! ### Runs -/

namespace Run

variable [Application S]

/-- What becomes of a scheduler after the first `count` moves of a run when
something is refused. -/
structure RefusesWithoutEffect (run : Run S) (count : Nat) : Prop where
  /-- An operation from outside that is refused leaves everything as it was, but
  for the slot of a handler that was dropped.  No close begins. -/
  outside {operation : Operation S} {answer : operation.Answer}
    {scheduler : Scheduler S}
    (done : (run.after count).operate operation = .ok (answer, scheduler))
    (refused : operation.Refused answer) :
    ∃ kernel, (run.after count).kernel.Spared
        (operation.dropped? (run.after count).kernel) kernel ∧
      scheduler = { (run.after count).toScheduler with kernel } ∧
      ((run.after count).control.isIdle = true →
        run.moves count = .operate operation →
          run.after (count + 1) = { run.after count with kernel })
  /-- So does a request of any task. -/
  inside {current : TaskHandle} {request : Request S} {reply : request.Reply}
    {kernel : Kernel S}
    (done : (run.after count).kernel.perform current request =
      .ok (.answered reply kernel)) (refused : request.Refused reply) :
    (run.after count).kernel.Spared
      (request.dropped? (run.after count).kernel) kernel
  /-- A claim into a cell leaves in the cell what its answer says. -/
  cells {cell : Option EventHandle} {grant : CellClaim}
    {scheduler : Scheduler S}
    (done : (run.after count).operate (.claimInto cell) =
      .ok (grant, scheduler)) : grant.Fits cell
  cellsInside {current : TaskHandle} {cell : Option EventHandle}
    {grant : CellClaim} {kernel : Kernel S}
    (done : (run.after count).kernel.perform current (.claimInto cell) =
      .ok (.answered grant kernel)) : grant.Fits cell
  /-- The body that made the request goes on with the answer. -/
  answered {role : Role} {request : Request S} {reply : request.Reply}
    {rest : request.Reply → Program S (role.Result S)} {kernel : Kernel S}
    (control : (run.after count).control = .body role (.ask request rest))
    (steps : run.moves count = .step)
    (done : (run.after count).kernel.perform role.task request =
      .ok (.answered reply kernel)) :
    run.after (count + 1) =
      { run.after count with kernel, control := .body role (rest reply) }
  /-- Who runs a close first is not refused afterwards. -/
  underway {current : TaskHandle} {request : Request S} {closing : Closing}
    {body : Option S.Body} {reply : Bool → request.Reply} {kernel : Kernel S}
    (done : (run.after count).kernel.perform current request =
      .ok (.underway closing body reply kernel)) (verdict : Bool) :
    ¬ request.Refused (reply verdict)
  /-- A call that is refused changes nothing. -/
  called {call : Call} {error : Error}
    (refused : (Machine.launch (run.after count).toScheduler call).control =
      .concluded (.answered (.error error))) :
    Machine.launch (run.after count).toScheduler call =
      { (run.after count).toScheduler with
        control := .concluded (.answered (.error error))
        callers := [] }
  /-- A call that is not refused at once is not refused later. -/
  stepped (steps : run.moves count = .step)
    (busy : (run.after count).control.isFinal = false) (error : Error) :
    (run.after (count + 1)).control ≠ .concluded (.answered (.error error))
  /-- An occurrence that is not queued changes nothing. -/
  occurred {event : EventHandle} {events : Events}
    (done : (run.after count).kernel.events.setPending event =
      .ok (false, events)) :
    events = (run.after count).kernel.events ∧
      (run.moves count = .interrupt (.occurred event) →
        run.after (count + 1) = run.after count)
  /-- Nobody has the handle of a task that was dropped, or gets it before its
  slot was freed a multiple of 65536 times. -/
  dropped {event : EventHandle} {body : S.Body} {name : Option String}
    {task : TaskHandle}
    (asks : (run.after count).asksHandler? (run.moves count) =
      some (event, body, name))
    (drops : (run.after count).kernel.dropped? event body name = some task) :
    (run.after (count + 1)).kernel.tasks.Stale task ∧
      ∀ other deed, (run.after other).Does deed (run.moves other) →
        deed.started? = some task → ∃ rounds > 0,
          ∑ move ∈ Finset.Ico (min other count) (max other count),
            run.taskFrees task.index move = rounds * 65536

private theorem rounds_of_dropped {run : Run S} {count other : Nat}
    {event : EventHandle} {body : S.Body} {name : Option String}
    {task : TaskHandle} {deed : Deed}
    (asks : (run.after count).asksHandler? (run.moves count) =
      some (event, body, name))
    (drops : (run.after count).kernel.dropped? event body name = some task)
    (does : (run.after other).Does deed (run.moves other))
    (starts : deed.started? = some task) :
    ∃ rounds > 0, ∑ move ∈ Finset.Ico (min other count) (max other count),
      run.taskFrees task.index move = rounds * 65536 := by
  have inserts := does.inserts starts
  have insertsToo : (run.after count).Inserts task (run.moves count) :=
    .drops asks drops
  rcases Nat.lt_trichotomy other count with before | same | behind
  · rw [min_eq_left before.le, max_eq_right before.le]
    exact (task_eq_iff before inserts insertsToo rfl).mp rfl
  · subst same
    exact absurd starts
      (does.ne_of_dropped (run.wellformed other) asks drops)
  · rw [min_eq_right behind.le, max_eq_left behind.le]
    exact (task_eq_iff behind insertsToo inserts rfl).mp rfl

private theorem after_of_not_queued {run : Run S} {count : Nat}
    {event : EventHandle}
    (done : (run.after count).kernel.events.setPending event =
      .ok (false, (run.after count).kernel.events))
    (moves : run.moves count = .interrupt (.occurred event)) :
    run.after (count + 1) = run.after count := by
  rw [after_succ moves]
  change (run.after count).interrupt _ = _
  unfold Machine.interrupt Events.interrupt
  split
  · rfl
  · next events served _ =>
      dsimp only at served
      rw [bind_of_ok done] at served
      cases served
      rfl
  · next fault served _ =>
      dsimp only at served
      rw [bind_of_ok done] at served
      cases served

/-- What is refused changes nothing, and a dropped handler costs no more than one
empty slot a generation. -/
theorem refusesWithoutEffect (run : Run S) (count : Nat) :
    run.RefusesWithoutEffect count ∧ Scenario.KeepsCells := by
  refine ⟨?_, Scenario.keepsCells⟩
  have wellformed := run.wellformed count
  constructor
  case outside =>
    intro operation answer scheduler done refused
    obtain ⟨kernel, spared, rfl⟩ :=
      Scheduler.operate_spared wellformed done refused
    refine ⟨kernel, spared, rfl, fun idle moves => ?_⟩
    rw [after_succ moves, Machine.move_of_operated idle done]
  case inside =>
    intro current request reply kernel done refused
    exact Kernel.perform_spared wellformed done refused
  case cells =>
    intro cell grant scheduler done
    obtain ⟨rfl, _⟩ := Prod.mk.inj (Except.ok.inj done)
    exact Events.claimInto_fits _ cell
  case cellsInside =>
    intro current cell grant kernel done
    obtain ⟨rfl, _⟩ := Started.answered.inj (Except.ok.inj done)
    exact Events.claimInto_fits _ cell
  case answered =>
    intro role request reply rest kernel control steps done
    rw [after_succ steps, Machine.move_of_answered control done]
  case underway =>
    intro current request closing body reply kernel done verdict
    exact Kernel.not_refused_of_underway done verdict
  case called =>
    intro call error refused
    exact Machine.launch_refused refused
  case stepped =>
    intro steps busy error
    exact (run.transition count).not_refused steps busy error
  case occurred =>
    intro event events done
    obtain rfl := Events.eq_of_setPending done
    exact ⟨rfl, after_of_not_queued done⟩
  case dropped =>
    intro event body name task asks drops
    exact ⟨Machine.stale_of_dropped wellformed asks drops,
      fun other deed => rounds_of_dropped asks drops⟩

end Run

end EventScheduler
