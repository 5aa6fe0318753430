import EventScheduler.Proofs.Kernel.Blocked
import EventScheduler.Proofs.Scheduler.Heeding
import EventScheduler.Proofs.Scheduler.Joining
import EventScheduler.Proofs.Scheduler.Pace

/-!
# How long a task is blocked

A task that was parked is not run before it is resumed, an event that it watches
occurs, a task that it joined dies, or its deadline has passed.  Once the time
that a turn goes by has reached the deadline, the turn puts the task on the run
queue before it picks the task to run.
-/

namespace EventScheduler

variable {S : Signature}

/-! ### What ends a wait -/

private theorem not_stirs_of_quiet {task : TaskHandle} (deed : Deed)
    (quiet : deed = .quiet) : ¬ deed.Stirs task := by
  subst quiet
  exact fun stirs => nomatch stirs

private theorem Deed.Outside.not_stirs {deed : Deed} {task : TaskHandle}
    (outside : deed.Outside) : ¬ deed.Stirs task := by
  rcases outside with rfl | ⟨event, rfl | rfl⟩ <;>
    exact fun stirs => nomatch stirs

private theorem Operation.May.not_stirs {operation : Operation S}
    {answer : operation.Answer} {deed : Deed} {task : TaskHandle}
    (comes : operation.May answer deed)
    (other : ∀ resumed, operation ≠ .resume resumed) : ¬ deed.Stirs task := by
  intro stirs
  cases operation with
  | resume resumed => exact other resumed rfl
  | _ => cases stirs <;> simp [Operation.May] at comes

private theorem Request.May.not_stirs {current : TaskHandle}
    {request : Request S} {reply : request.Reply} {deed : Deed}
    {task : TaskHandle} (comes : request.May current reply deed)
    (other : ∀ resumed, request ≠ .resume resumed) : ¬ deed.Stirs task := by
  intro stirs
  cases request with
  | resume resumed => exact other resumed rfl
  | _ =>
      cases stirs <;>
        simp [Request.May, Deed.Waits, Deed.Settles] at comes

namespace Machine

variable {machine next : Machine S} {move : Move S} {task : TaskHandle}
  {state : S.State}

/-- Another task is killed. -/
private theorem blocked_of_begins {closing : Closing} {body : Option S.Body}
    {kernel : Kernel S} (wellformed : machine.kernel.Wellformed)
    (begins : machine.BeginsClose closing body kernel)
    (spared : kernel.roster.stateOf task ≠ some (.dead .cancelled))
    (blocked : machine.kernel.roster.stateOf task = some state)
    (waiting : state.isWaiting = true) :
    kernel.roster.stateOf task = some state := by
  refine begins.begins.buries.evolves.stateOf_of_blocked wellformed ?_ blocked
    waiting
  rintro deed (rfl | rfl) stirs
  · cases stirs
  · cases stirs
    exact spared begins.begins.retires.stateOf

/-- Expired timers go to the run queue, and the task that yielded. -/
private theorem blocked_of_queuedUp {scheduler : Scheduler S}
    (wellformed : machine.kernel.Wellformed)
    (queued : machine.toScheduler.QueuedUp scheduler)
    (early : ∀ deadline, state = .timer deadline →
      deadline.reached machine.kernel.now = false)
    (blocked : machine.kernel.roster.stateOf task = some state)
    (waiting : state.isWaiting = true) :
    scheduler.kernel.Wellformed ∧
      scheduler.kernel.roster.stateOf task = some state := by
  obtain ⟨_, middle, promotes, requeues⟩ := queued
  have middleToo := promotes.wellformed wellformed
  have still := promotes.stateOf_of_promotes wellformed blocked early
  split at requeues
  · refine ⟨requeues.wellformed middleToo, ?_⟩
    exact requeues.stateOf_of_blocked middleToo (fun stirs => nomatch stirs)
      still waiting
  · rw [requeues]
    exact ⟨middleToo, still⟩

private theorem blocked_of_applied {scheduler after : Scheduler S}
    {other : TaskHandle} {step : S.Step} {value : Option S.Output}
    (wellformed : scheduler.kernel.Wellformed)
    (applied : scheduler.Applied other step value after)
    (different : task ≠ other)
    (apart : ∀ exit, step.exit? = some exit →
      task ∉ scheduler.kernel.roster.joinersOf other)
    (blocked : scheduler.kernel.roster.stateOf task = some state)
    (waiting : state.isWaiting = true) :
    after.kernel.roster.stateOf task = some state := by
  cases applied with
  | yields => exact blocked
  | parks change =>
      refine change.stateOf_of_blocked wellformed (fun stirs => ?_) blocked
        waiting
      cases stirs
      exact different rfl
  | ends before dies wakes left exits retires resumed =>
      have recorded := before.wellformed wellformed
      have still := before.stateOf_of_blocked wellformed not_stirs_of_quiet blocked
        waiting
      have buried := dies.evolves.stateOf_of_blocked recorded (by
        rintro deed (rfl | rfl) stirs <;> cases stirs
        exact different rfl) still waiting
      refine Eq.trans ?_ buried
      refine Kernel.stateOf_of_resumeAll (dies.evolves.wellformed recorded)
        resumed ?_
      have same := before.joinersOf_eq wellformed (by
        rintro deed rfl
        exact Or.inl rfl) other
      rw [← retires.joinersOf, same]
      exact apart _ exits

/-- The task that is running is not blocked. -/
private theorem ne_of_running (steady : machine.Steady) {other : TaskHandle}
    (running : machine.kernel.running = some other)
    (blocked : machine.kernel.roster.stateOf task = some state)
    (waiting : state.isWaiting = true) : task ≠ other := by
  rintro rfl
  have placed := steady.placed
  rw [stray_of_running running] at placed
  obtain ⟨index, entry, found, active, _⟩ := placed.exists_stray
  unfold Roster.stateOf at blocked
  rw [Roster.entryOf_of_find? found, Option.map_some, active] at blocked
  cases blocked
  cases waiting

/-- The task whose slice is over is active and on no list. -/
private theorem Steady.active_of_slice (steady : machine.Steady)
    {step : S.Step} {body : S.Body}
    (control : machine.control = .body (.slice task) (.pure (step, body))) :
    (machine.kernel.endSlice task body).Wellformed ∧
      (machine.kernel.endSlice task body).roster.Alive task ∧
      (machine.kernel.endSlice task body).roster.EachNamed task
        (· = .active) := by
  have ends := Kernel.endSlice_evolves steady.placed.wellformed body
    (steady.running_of_slice control)
  have placed := steady.placed_of_ends control ends
  refine ⟨placed.wellformed, placed.strays.alive rfl, ?_⟩
  obtain ⟨index, entry, found, active, _⟩ := placed.exists_stray
  intro other named known
  cases found.symm.trans known
  exact active

variable [Application S]

inductive Resumes (machine : Machine S) (task : TaskHandle) : Move S → Prop
  | operation {scheduler : Scheduler S} (idle : machine.control.isIdle = true)
      (done : machine.operate (.resume task) = .ok (true, scheduler)) :
      Resumes machine task (.operate (.resume task))
  | request {role : Role} {rest : Bool → Program S (role.Result S)}
      {kernel : Kernel S}
      (control : machine.control = .body role (.ask (.resume task) rest))
      (done : machine.kernel.perform role.task (.resume task) =
        .ok (.answered true kernel)) :
      Resumes machine task .step

/-- The death of a task that the task had joined is over: the other task ends
with its slice, or it was killed and has been closed. -/
inductive Bereaves (machine : Machine S) (task : TaskHandle) : Move S → Prop
  | ends {other : TaskHandle} {step : S.Step} {body : S.Body} {exit : S.Exit}
      (control : machine.control = .body (.slice other) (.pure (step, body)))
      (exits : step.exit? = some exit)
      (joined : task ∈ machine.kernel.roster.joinersOf other) :
      Bereaves machine task .step
  | closes {closing : Closing}
      (control : machine.control = .body (.close closing) (.pure ()))
      (joined : task ∈ closing.joiners.toList) : Bereaves machine task .step

/-- A move may end the wait of a task before its time. -/
inductive Stirs (machine : Machine S) (task : TaskHandle) (move : Move S)
    (next : Machine S) : Prop
  | resumed (resumes : machine.Resumes task move)
  | occurred {event : EventHandle} {deadline : Deadline} {woke : Bool}
      (steps : move = .step) (control : machine.control = .dispatch deadline woke)
      (queued : event ∈ machine.kernel.events.queue)
      (watches : machine.kernel.Watches event task)
  | bereaved (bereaves : machine.Bereaves task move)
  | killed
      (dead : next.kernel.roster.stateOf task = some (.dead .cancelled))

private theorem blocked_of_operates {operation : Operation S}
    {answer : operation.Answer} {scheduler : Scheduler S}
    (wellformed : machine.kernel.Wellformed)
    (idle : machine.control.isIdle = true)
    (done : machine.operate operation = .ok (answer, scheduler))
    (evolves : Kernel.Evolves (operation.May answer) machine.kernel
      scheduler.kernel)
    (undisturbed : ¬ machine.Resumes task (.operate operation))
    (blocked : machine.kernel.roster.stateOf task = some state)
    (waiting : state.isWaiting = true) :
    scheduler.kernel.roster.stateOf task = some state := by
  by_cases resumes : ∃ resumed, operation = .resume resumed
  · obtain ⟨resumed, rfl⟩ := resumes
    obtain ⟨⟨woke, kernel⟩, known, ended⟩ := exists_ok_of_bind done
    cases ended
    refine (Kernel.stateOf_of_resume wellformed known ?_).trans blocked
    rintro rfl rfl
    exact undisturbed (.operation idle done)
  · have other := not_exists.mp resumes
    exact evolves.stateOf_of_blocked wellformed
      (fun deed comes => comes.not_stirs other) blocked waiting

private theorem blocked_of_answers {role : Role} {request : Request S}
    {reply : request.Reply} {rest : request.Reply → Program S (role.Result S)}
    {kernel : Kernel S} (wellformed : machine.kernel.Wellformed)
    (control : machine.control = .body role (.ask request rest))
    (done : machine.kernel.perform role.task request =
      .ok (.answered reply kernel))
    (evolves : Kernel.Evolves (request.May role.task reply) machine.kernel
      kernel)
    (undisturbed : ¬ machine.Resumes task .step)
    (blocked : machine.kernel.roster.stateOf task = some state)
    (waiting : state.isWaiting = true) :
    kernel.roster.stateOf task = some state := by
  by_cases resumes : ∃ resumed, request = .resume resumed
  · obtain ⟨resumed, rfl⟩ := resumes
    have asked := done
    unfold Kernel.perform at asked
    dsimp only at asked
    split at asked
    · cases asked
      exact blocked
    · obtain ⟨⟨woke, after⟩, known, ended⟩ := exists_ok_of_bind asked
      cases ended
      refine (Kernel.stateOf_of_resume wellformed known ?_).trans blocked
      rintro rfl rfl
      exact undisturbed (.request control done)
  · have other := not_exists.mp resumes
    exact evolves.stateOf_of_blocked wellformed
      (fun deed comes => comes.not_stirs other) blocked waiting

/-- Draining events wakes those who watch them and nobody else. -/
private theorem blocked_of_drains (guarded : machine.Guarded)
    {deadline : Deadline} {woke : Bool}
    (control : machine.control = .dispatch deadline woke)
    (undisturbed : ∀ event ∈ machine.kernel.events.queue,
      ¬ machine.kernel.Watches event task)
    (blocked : machine.kernel.roster.stateOf task = some state) :
    (machine.move .step).kernel.roster.stateOf task = some state := by
  obtain ⟨resumed, kernel, drained, tasks⟩ := guarded.exists_drain control
  have rouses := (Kernel.drain_wakens guarded.steady.placed.wellformed
    guarded.consistent drained).rouses.roster
  have roster : (machine.move .step).kernel.roster = kernel.roster :=
    congrArg TaskTable.roster tasks
  rw [roster, rouses.stateOf_eq, blocked]
  intro woken
  obtain ⟨event, queued, watching⟩ :=
    List.mem_flatMap.mp (Roster.mem_wakened_iff.mp woken).1
  exact undisturbed event queued
    ⟨guarded.consistent.isEnabled_of_mem queued, watching⟩

/-- A task that is blocked is blocked as before after a move that does not end
its wait, unless its time has come in a turn. -/
theorem Transition.stateOf_of_blocked (transition : Transition machine move next)
    (moved : machine.move move = next) (guarded : machine.Guarded)
    (undisturbed : ¬ machine.Stirs task move next)
    (early : move = .step → machine.control = .pick →
      ∀ deadline, state = .timer deadline →
        deadline.reached machine.kernel.now = false)
    (blocked : machine.kernel.roster.stateOf task = some state)
    (waiting : state.isWaiting = true) :
    next.kernel.roster.stateOf task = some state := by
  have steady := guarded.steady
  have wellformed := steady.placed.wellformed
  have spared {kernel : Kernel S} (same : next.kernel = kernel) :
      kernel.roster.stateOf task ≠ some (.dead .cancelled) := fun dead =>
    undisturbed (.killed (same ▸ dead))
  have outside {kernel : Kernel S}
      (evolves : Kernel.Evolves Deed.Outside machine.kernel kernel) :
      kernel.roster.stateOf task = some state :=
    evolves.stateOf_of_blocked wellformed (fun _ => Deed.Outside.not_stirs)
      blocked waiting
  -- What may end the wait is a resume, an occurrence, the death of a task that
  -- was joined, a kill, or the time; each is excluded by a hypothesis.
  cases transition with
  | still | faults | faultsCall | callsRun | callsNothing | concludes | returns
  | sweepsOn | swept | passes => exact blocked
  | outside evolves => exact outside evolves
  | wakes control evolves | stalls control evolves => exact outside evolves
  | operates idle done yielded evolves =>
      exact blocked_of_operates wellformed idle done evolves
        (fun resumes => undisturbed (.resumed resumes)) blocked waiting
  | callsErrand idle onEvent settles =>
      have kept := settles.tasks_eq
      exact (congrArg (fun tasks => tasks.roster.stateOf task) kept).trans
        blocked
  | callsClose body idle begins | kills body control begins
  | sweeps body control begins =>
      exact blocked_of_begins wellformed begins (spared rfl) blocked waiting
  | ends control patience evolves =>
      exact evolves.stateOf_of_blocked wellformed not_stirs_of_quiet blocked waiting
  | dispatches control patience => exact blocked
  | drains control evolves | idles control evolves =>
      rw [← moved]
      refine blocked_of_drains guarded control ?_ blocked
      exact fun event queued watches =>
        undisturbed (.occurred rfl control queued watches)
  | picksNothing control queued =>
      exact (blocked_of_queuedUp wellformed queued (early rfl control) blocked
        waiting).2
  | picks body control queued pops evolves begins =>
      obtain ⟨readyToo, ready⟩ := blocked_of_queuedUp wellformed queued
        (early rfl control) blocked waiting
      have popped := pops.stateOf_of_blocked readyToo
        (fun stirs => nomatch stirs) ready waiting
      have poppedToo := pops.wellformed readyToo
      have recorded := evolves.stateOf_of_blocked poppedToo not_stirs_of_quiet popped
        waiting
      exact begins.stateOf_of_blocked (evolves.wellformed poppedToo)
        (fun stirs => nomatch stirs) recorded waiting
  | answers control done evolves =>
      exact blocked_of_answers wellformed control done evolves
        (fun resumes => undisturbed (.resumed resumes)) blocked waiting
  | endsSlice control ends applied =>
      have running := steady.running_of_slice control
      have still := ends.stateOf_of_blocked wellformed
        (fun stirs => nomatch stirs) blocked waiting
      refine blocked_of_applied (ends.wellformed wellformed) applied
        (ne_of_running steady running blocked waiting) ?_ still waiting
      intro exit exits joined
      have evolves : Kernel.Evolves (fun deed => ∃ other, deed = .ends other)
        machine.kernel _ := .single ends ⟨_, rfl⟩
      have same := evolves.joinersOf_eq wellformed (fun _ => Or.inr)
      rw [same] at joined
      exact undisturbed (.bereaved (.ends control exits joined))
  | endsClose control wakes settles resumed =>
      rename_i closing verdict _ middle kernel
      have kept := (middle.settle_keeps closing.errand).1
      rw [settles] at kept
      refine (congrArg (fun tasks => tasks.roster.stateOf task) kept).trans ?_
      refine (Kernel.stateOf_of_resumeAll wellformed resumed ?_).trans blocked
      exact fun joined => undisturbed (.bereaved (.closes control joined))

/-- The step at the end of a slice that parks the task does so in the tables. -/
private theorem roster_of_parks {step : S.Step} {body : S.Body}
    {tasks : TaskTable S} {roster : Roster S}
    (control : machine.control = .body (.slice task) (.pure (step, body)))
    (done : Scheduler.apply
      { machine.toScheduler with kernel := machine.kernel.endSlice task body }
      task step = .ok (none, { machine.toScheduler with
        kernel := { machine.kernel.endSlice task body with tasks } }))
    (holds : tasks.Holds roster) :
    (machine.move .step).kernel.roster = roster := by
  have moved : machine.move .step = { machine with
      kernel := { machine.kernel.endSlice task body with tasks }
      control := .turn } := by
    apply move_step_of_ok
    rw [advance_of_body control]
    exact bind_of_ok done _
  rw [moved]
  exact holds.roster_eq

private theorem stateOf_of_suspends (steady : machine.Steady) {body : S.Body}
    (control :
      machine.control = .body (.slice task) (.pure (.suspend, body))) :
    (machine.move .step).kernel.roster.stateOf task = some .suspended := by
  obtain ⟨wellformed, alive, active⟩ := steady.active_of_slice control
  obtain ⟨tasks, suspended, holds⟩ := wellformed.holds.suspend active
  rw [roster_of_parks control (bind_of_ok suspended _) holds]
  exact Roster.stateOf_suspend alive

private theorem stateOf_of_sleeps (steady : machine.Steady) {body : S.Body}
    {deadline : Deadline}
    (control : machine.control =
      .body (.slice task) (.pure (.sleep deadline, body))) :
    (machine.move .step).kernel.roster.stateOf task =
      some (if deadline.isNever then .suspended else .timer deadline) := by
  obtain ⟨wellformed, alive, active⟩ := steady.active_of_slice control
  obtain ⟨tasks, asleep, holds⟩ :=
    wellformed.holds.sleep wellformed.sound fun _ => active
  rw [roster_of_parks control (bind_of_ok asleep _) holds]
  cases ever : deadline.isNever with
  | true =>
      unfold Roster.sleep
      rw [ever]
      exact Roster.stateOf_suspend alive
  | false => exact Roster.stateOf_sleep alive ever

end Machine

/-! ### Runs -/

namespace Run

variable [Application S]

/-- A move ends the wait of a task before its time: the task is resumed, it
watches an event that is drained, the death of a task that it had joined is
over, or it is killed. -/
inductive Disturbs (run : Run S) (task : TaskHandle) (count : Nat) : Prop
  | resumed (resumes : (run.after count).Resumes task (run.moves count))
  | occurred {event : EventHandle} {deadline : Deadline} {woke : Bool}
      (steps : run.moves count = .step)
      (control : (run.after count).control = .dispatch deadline woke)
      (queued : event ∈ (run.after count).kernel.events.queue)
      (watches : (run.after count).kernel.Watches event task)
  | bereaved {other : TaskHandle} {exit : S.Exit} {first : Nat}
      (dies : run.Dies other first exit count)
      (joined : task ∈ (run.after first).kernel.joinersOf other)
  | killed {closing : Closing} (begins : run.begun? count = some closing)
      (killed : closing.task = task)

/-- A turn is about to pick a task, and the time that it goes by has reached the
deadline. -/
structure Passes (run : Run S) (deadline : Deadline) (count : Nat) : Prop where
  steps : run.moves count = .step
  control : (run.after count).control = .pick
  reached : deadline.reached (run.after count).kernel.now = true

/-- How tasks sleep in a run. -/
structure KeepsTime (run : Run S) (count : Nat) : Prop where
  /-- A slice may end with a sleep until a deadline. -/
  sleeps {task : TaskHandle} {step : S.Step} {body : S.Body}
      {deadline : Deadline} :
    (run.after count).control = .body (.slice task) (.pure (step, body)) →
      run.moves count = .step →
      step = .sleep deadline ∨ step = .park (some deadline) →
      deadline ≠ .never →
      (run.after (count + 1)).state task = .ok (.timer deadline)
  /-- With a deadline that never passes, or with none, there is no timer. -/
  suspends {task : TaskHandle} {step : S.Step} {body : S.Body} :
    (run.after count).control = .body (.slice task) (.pure (step, body)) →
      run.moves count = .step →
      step = .sleep .never ∨ step = .park (some .never) ∨ step = .park none →
      (run.after (count + 1)).state task = .ok .suspended
  /-- Whoever sleeps is on the timer list and not on the run queue. -/
  asleep {task : TaskHandle} {deadline : Deadline} :
    (run.after count).state task = .ok (.timer deadline) →
      deadline ≠ .never ∧ task ∈ (run.after count).timers ∧
        task ∉ (run.after count).runQueue
  /-- Whoever is suspended is on neither. -/
  suspended {task : TaskHandle} :
    (run.after count).state task = .ok .suspended →
      task ∉ (run.after count).timers ∧ task ∉ (run.after count).runQueue
  /-- A blocked task stays so, until the same deadline, unless a move ends its
  wait before its time or a turn passes the deadline. -/
  lasts {task : TaskHandle} {state : S.State} {last : Nat} :
    (run.after count).state task = .ok state → state.isWaiting = true →
      count ≤ last →
      (∀ between, count ≤ between → between < last →
        ¬ run.Disturbs task between ∧
          ∀ deadline, state = .timer deadline →
            ¬ run.Passes deadline between) →
      (run.after last).state task = .ok state
  /-- A dispatch that reads the clock when the deadline of a sleeper has been
  reached returns. -/
  returns {task : TaskHandle} {deadline patience : Deadline} {woke : Bool} :
    run.moves count = .step →
      (run.after count).control = .dispatch patience woke →
      (run.after (count + 1)).state task = .ok (.timer deadline) →
      deadline.reached (run.after (count + 1)).kernel.now = true →
      (run.after (count + 1)).control = .pick
  /-- Then the sleeper is active and on the run queue before the turn picks a
  task. -/
  queues {task : TaskHandle} {deadline : Deadline} :
    (run.after count).control = .pick →
      (run.after count).state task = .ok (.timer deadline) →
      deadline.reached (run.after count).kernel.now = true →
      ∃ ready head popped program, (run.after count).queueUp = .ok ready ∧
        ready.state task = .ok .active ∧ task ∈ ready.runQueue ∧
        ready.pop = .ok (some head, popped) ∧
        ((run.after count).move .step).control = .body (.slice head) program

variable {run : Run S} {count : Nat} {task : TaskHandle} {state : S.State}

private theorem disturbs_of_bereaves
    (bereaves : (run.after count).Bereaves task (run.moves count)) :
    run.Disturbs task count := by
  generalize moves : run.moves count = move at bereaves
  cases bereaves with
  | ends control exits joined =>
      rw [← Kernel.joinersOf_eq (run.wellformed count)] at joined
      exact .bereaved (.ends control moves exits) joined
  | closes control joined =>
      obtain ⟨first, _, dies, joiners⟩ := exists_dies_of_closes control moves
      rw [← joiners, ← Kernel.joinersOf_eq (run.wellformed first)] at joined
      exact .bereaved dies joined

/-- Whoever is killed while blocked is closed. -/
private theorem disturbs_of_cancelled
    (blocked : (run.after count).kernel.roster.stateOf task = some state)
    (waiting : state.isWaiting = true)
    (dead : (run.after (count + 1)).kernel.roster.stateOf task =
      some (.dead .cancelled)) : run.Disturbs task count := by
  rcases ends_of_dead dead with already | ends
  · cases already.symm.trans blocked
    cases waiting
  · generalize cancelled : (.cancelled : S.Exit) = exit at ends
    cases ends with
    | slice control steps exits =>
        exact absurd (cancelled ▸ exits) (Step.exit?_ne_cancelled _)
    | kill killed closings =>
        exact .killed (begun?_eq_some_iff.mpr closings) killed

private theorem stateOf_succ_of_blocked
    (blocked : (run.after count).kernel.roster.stateOf task = some state)
    (waiting : state.isWaiting = true) (undisturbed : ¬ run.Disturbs task count)
    (early : ∀ deadline, state = .timer deadline →
      ¬ run.Passes deadline count) :
    (run.after (count + 1)).kernel.roster.stateOf task = some state := by
  refine (run.transition count).stateOf_of_blocked rfl (run.guarded count) ?_ ?_
    blocked waiting
  · intro stirs
    refine undisturbed ?_
    cases stirs with
    | resumed resumes => exact .resumed resumes
    | occurred steps control queued watches =>
        exact .occurred steps control queued watches
    | bereaved bereaves => exact disturbs_of_bereaves bereaves
    | killed dead => exact disturbs_of_cancelled blocked waiting dead
  · intro steps control deadline asleep
    exact eq_false_of_ne_true fun reached =>
      early deadline asleep ⟨steps, control, reached⟩

private theorem stateOf_of_blocked {last : Nat}
    (blocked : (run.after count).kernel.roster.stateOf task = some state)
    (waiting : state.isWaiting = true) (after : count ≤ last)
    (undisturbed : ∀ between, count ≤ between → between < last →
      ¬ run.Disturbs task between ∧
        ∀ deadline, state = .timer deadline → ¬ run.Passes deadline between) :
    (run.after last).kernel.roster.stateOf task = some state := by
  induction last, after using Nat.le_induction with
  | base => exact blocked
  | succ last after ih =>
      have still := ih fun between since before =>
        undisturbed between since (Nat.lt_succ_of_lt before)
      obtain ⟨calm, early⟩ := undisturbed last after (Nat.lt_succ_self last)
      exact stateOf_succ_of_blocked still waiting calm early

/-- After a pass over the pending events a dispatch returns, or the loop is about
to sleep. -/
private theorem control_of_dispatch {patience : Deadline} {woke : Bool}
    (steps : run.moves count = .step)
    (control : (run.after count).control = .dispatch patience woke) :
    (run.after (count + 1)).control = .pick ∨
      (run.after (count + 1)).control = .sleep patience := by
  have harmless : FaultsOnly (fun _ => False) (run.after count).advance :=
    (run.guarded count).dispatch_faultsOnly control
  obtain ⟨next, done⟩ := harmless.exists_ok
  rw [after_succ steps, Machine.move_step_of_ok done]
  unfold Machine.advance at done
  simp only [control] at done
  obtain ⟨⟨resumed, kernel⟩, drained, later⟩ := exists_ok_of_bind done
  dsimp only at later
  split at later <;> cases later
  · exact Or.inl rfl
  · exact Or.inr rfl

/-- The loop does not sleep when the time of a sleeper has come. -/
private theorem not_reached_of_sleep {patience deadline : Deadline}
    (control : (run.after count).control = .sleep patience)
    (asleep : (run.after count).kernel.roster.stateOf task =
      some (.timer deadline)) :
    deadline.reached (run.after count).kernel.now = false := by
  have wellformed := run.wellformed count
  obtain ⟨turn, dispatching⟩ := run.dispatching count (by rw [control]; rfl)
  have sleeps := dispatching.sleeps_of_control turn (run.steady count) control
  obtain ⟨inside, ever⟩ := wellformed.sound.mem_asleep asleep
  have due : (run.after count).kernel.due task = deadline := by
    unfold Kernel.due
    rw [(Kernel.state_eq_ok_iff wellformed).mpr asleep]
  have least := due ▸ sleeps.awaits.least inside
  have patient : patience.isNever = false := by
    refine eq_false_of_ne_true fun never => ?_
    have nobody := sleeps.awaits.never_iff.mp (Deadline.isNever_iff.mp never)
    exact List.ne_nil_of_mem inside nobody
  refine eq_false_of_ne_true fun reached => ?_
  cases sleeps.early.symm.trans (Deadline.reached_of_le least patient reached)

private theorem exists_queued_of_pick {deadline : Deadline}
    (control : (run.after count).control = .pick)
    (asleep : (run.after count).kernel.roster.stateOf task =
      some (.timer deadline))
    (reached : deadline.reached (run.after count).kernel.now = true) :
    ∃ ready head popped program, (run.after count).queueUp = .ok ready ∧
      ready.state task = .ok .active ∧ task ∈ ready.runQueue ∧
      ready.pop = .ok (some head, popped) ∧
      ((run.after count).move .step).control =
        .body (.slice head) program := by
  have steady := run.steady count
  obtain ⟨_, dispatching⟩ := run.dispatching count (by rw [control]; rfl)
  obtain ⟨_, head, _, popped, program, queued, rouses, _, pops, slice, _⟩ :=
    dispatching.begins steady control
  have wellformed := (steady.placed_of_queueUp control queued).wellformed
  have expired := (steady.placed.wellformed.sound.mem_expired_iff
    (run.after count).kernel.now asleep).mpr ⟨deadline, rfl, reached⟩
  have inside := List.mem_append_right (run.after count).kernel.roster.queued
    (List.mem_append_left (run.after count).yielded.toList expired)
  rw [← rouses.queued] at inside
  refine ⟨_, head, popped, program, queued, ?_, inside, pops, slice⟩
  exact (Kernel.state_eq_ok_iff wellformed).mpr
    (Roster.stateOf_of_mem_queued wellformed.sound inside)

/-- In every run sleep is neither cut short nor overrun, and deadlines are
counted without wrapping around. -/
theorem keepsTime (run : Run S) (count : Nat) :
    run.KeepsTime count ∧
      ∀ now ticks, Deadline.Saturates now ticks := by
  refine ⟨?_, Deadline.saturates⟩
  have wellformed := run.wellformed count
  constructor
  case sleeps =>
    intro task step body deadline control steps sleeps ever
    have sometime := eq_false_of_ne_true (mt Deadline.isNever_iff.mp ever)
    -- To wait until a deadline that comes some time is to sleep.
    have same : step = .sleep deadline := by
      rcases sleeps with same | rfl
      · exact same
      · exact if_neg (ne_true_of_eq_false sometime)
    subst same
    rw [run.state_eq_ok_iff, after_succ steps,
      Machine.stateOf_of_sleeps (run.steady count) control, sometime]
    rfl
  case suspends =>
    intro task step body control steps suspends
    rw [run.state_eq_ok_iff, after_succ steps]
    rcases suspends with rfl | rfl | rfl
    · exact Machine.stateOf_of_sleeps (run.steady count) control
    · exact Machine.stateOf_of_suspends (run.steady count) control
    · exact Machine.stateOf_of_suspends (run.steady count) control
  case asleep =>
    intro task deadline known
    rw [run.state_eq_ok_iff] at known
    obtain ⟨inside, ever⟩ := wellformed.sound.mem_asleep known
    refine ⟨fun never => ?_, inside, fun queued => ?_⟩
    · rw [never] at ever
      cases ever
    · cases known.symm.trans
        (Roster.stateOf_of_mem_queued wellformed.sound queued)
  case suspended =>
    intro task known
    rw [run.state_eq_ok_iff] at known
    refine ⟨fun inside => ?_, fun queued => ?_⟩
    · obtain ⟨deadline, asleep⟩ :=
        Roster.stateOf_of_mem_asleep wellformed.sound inside
      cases known.symm.trans asleep
    · cases known.symm.trans
        (Roster.stateOf_of_mem_queued wellformed.sound queued)
  case lasts =>
    intro task state last known waiting after undisturbed
    rw [run.state_eq_ok_iff] at known ⊢
    exact stateOf_of_blocked known waiting after undisturbed
  case returns =>
    intro task deadline patience woke steps control known reached
    rw [run.state_eq_ok_iff] at known
    rcases control_of_dispatch steps control with picks | sleeps
    · exact picks
    · cases reached.symm.trans (not_reached_of_sleep sleeps known)
  case queues =>
    intro task deadline control known reached
    rw [run.state_eq_ok_iff] at known
    exact exists_queued_of_pick control known reached

end Run

end EventScheduler
