import EventScheduler.Proofs.Scheduler.Faults

/-!
# Dead tasks

A task that is dead stays dead with the same exit until it is reaped, whatever
the other tasks, their closes, the interrupts and the world outside do.  Until
then nobody else gets its slot, it is on no list and in no table, and every
operation on it answers as the exit says and changes nothing.
-/

namespace EventScheduler

variable {S : Signature}

/-! ### What is left of a dead task -/

/-- What a dead task is to the other tasks and to its own close. -/
structure Kernel.Departed [Environment S.World] (kernel : Kernel S)
    (task : TaskHandle) (exit : S.Exit) : Prop where
  state : kernel.tasks.state task = .ok (.dead exit)
  /-- Nobody else has its slot. -/
  sole {other : TaskHandle} {state : S.State} :
    other.index = task.index → kernel.tasks.state other = .ok state →
      other = task
  notRunning : kernel.running ≠ some task
  runQueue : task ∉ kernel.tasks.runQueue
  timers : task ∉ kernel.tasks.timerList
  watchers (index : Fin maxEvents) : task ∉ kernel.watchers.watching index
  joiners {other : TaskHandle} {entry : TaskEntry S} :
    kernel.tasks.entry other = .ok entry → task ∉ entry.joiners.toList
  handlers (index : Fin maxEvents) (event : EventHandle) :
    kernel.handlers.entry index ≠ some (event, task)
  resumes (current : TaskHandle) :
    kernel.perform current (.resume task) = .ok (.answered false kernel)
  kills {current : TaskHandle} : current ≠ task →
    kernel.perform current (.kill task) = .ok (.answered (.ok false) kernel)
  /-- Its own close cannot kill it either. -/
  killsItself : kernel.perform task (.kill task) =
    .ok (.answered (.error .selfKill) kernel)
  watches (event : EventHandle) : kernel.perform task (.watch event) =
    .ok (.answered (.error .deadTask) kernel)
  joins {current : TaskHandle} : current ≠ task →
    kernel.perform current (.join task) =
      .ok (.answered (.ok (.ready exit)) kernel)

/-- What a dead task is to everybody. -/
structure Scheduler.Departed [Application S] (scheduler : Scheduler S)
    (task : TaskHandle) (exit : S.Exit) : Prop where
  kernel : scheduler.kernel.Departed task exit
  notYielded : scheduler.yielded ≠ some task
  resume : scheduler.resume task = .ok (false, scheduler)
  kill : Machine.launch scheduler (.kill task) = { scheduler with
    control := .concluded (.answered (.ok false))
    callers := [] }
  watch (event : EventHandle) :
    scheduler.watch event task = (.error .deadTask, scheduler)
  join : scheduler.join task = .ok (.ready exit)
  /-- The exit can be collected. -/
  reap : ∃ next, scheduler.reap task = .ok (.ok (some exit), next)

namespace Kernel

variable {kernel : Kernel S} {task : TaskHandle} {exit : S.Exit}

private theorem exists_find?_of_dead
    (dead : kernel.roster.stateOf task = some (.dead exit)) :
    ∃ index entry, kernel.roster.find? task = some (index, entry) ∧
      entry.state = .dead exit := by
  obtain ⟨entry, known, state⟩ := Option.map_eq_some_iff.mp dead
  obtain ⟨index, found⟩ := Roster.entryOf_eq_some_iff.mp known
  exact ⟨index, entry, found, state⟩

private theorem notMem_list {slots : List SlotIndex}
    (live : ∀ index ∈ slots, kernel.roster.isLive index = true)
    (gone : ¬ kernel.roster.Alive task) :
    task ∉ slots.map kernel.roster.handleAt := by
  intro inside
  obtain ⟨index, member, fits⟩ := List.mem_map.mp inside
  exact gone (Roster.alive_iff.mpr ⟨index, fits, live index member⟩)

private theorem resume_of_dead (wellformed : kernel.Wellformed)
    (dead : kernel.roster.stateOf task = some (.dead exit)) :
    kernel.resume task = .ok (false, kernel) := by
  obtain ⟨index, entry, found, state⟩ := exists_find?_of_dead dead
  have asleep : kernel.tasks.activate task = .ok (false, kernel.tasks) := by
    unfold TaskTable.activate
    rw [wellformed.holds.find?, found]
    refine if_neg fun waiting => ?_
    rw [state] at waiting
    cases waiting
  unfold resume
  rw [bind_of_ok asleep]
  rfl

private theorem outcome_of_dead (wellformed : kernel.Wellformed)
    (dead : kernel.roster.stateOf task = some (.dead exit)) :
    kernel.outcome task = .ok (.ready exit) := by
  unfold outcome
  rw [(state_eq_ok_iff wellformed).mpr dead]

private theorem watch_of_dead (wellformed : kernel.Wellformed)
    (dead : kernel.roster.stateOf task = some (.dead exit))
    (event : EventHandle) :
    kernel.watch event task = (.error .deadTask, kernel) := by
  unfold watch
  rw [(state_eq_ok_iff wellformed).mpr dead]

variable [Environment S.World]

private theorem startKill_of_dead (wellformed : kernel.Wellformed)
    (notRunning : kernel.running ≠ some task)
    (dead : kernel.roster.stateOf task = some (.dead exit)) :
    kernel.startKill task = .ok (.answered (.ok false) kernel) := by
  obtain ⟨entry, known, state⟩ := Option.map_eq_some_iff.mp dead
  have needless : kernel.kill task = .ok .needless := by
    unfold kill
    rw [if_neg notRunning, (entry_eq_ok_iff wellformed).mpr known]
    dsimp only
    rw [state]
    rfl
  unfold startKill
  rw [bind_of_ok needless]
  rfl

/-- Nothing names a dead task but whoever kept its handle. -/
theorem departed_of_dead (wellformed : kernel.Wellformed)
    (related : kernel.Related)
    (running : ∀ other, kernel.running = some other →
      kernel.roster.Alive other)
    (dead : kernel.roster.stateOf task = some (.dead exit)) :
    kernel.Departed task exit := by
  have gone := Roster.not_alive_of_dead dead
  have notRunning : kernel.running ≠ some task := fun runs =>
    gone (running task runs)
  constructor
  case state => exact (state_eq_ok_iff wellformed).mpr dead
  -- A handle with the same slot that still fits is the same handle.
  case sole =>
    intro other state same known
    obtain ⟨index, entry, found, _⟩ := exists_find?_of_dead dead
    obtain ⟨stored, present, _⟩ := Option.map_eq_some_iff.mp
      ((state_eq_ok_iff wellformed).mp known)
    obtain ⟨slot, foundToo⟩ := Roster.entryOf_eq_some_iff.mp present
    have fits := (Roster.find?_eq_some_iff.mp found).1
    have fitsToo := (Roster.find?_eq_some_iff.mp foundToo).1
    rw [← fits, ← fitsToo] at same
    rw [← fits, ← fitsToo, Fin.ext same]
  case notRunning => exact notRunning
  case runQueue =>
    refine notMem_list (fun index inside => ?_) gone
    rw [Roster.isLive_eq (wellformed.sound.active inside)]
    rfl
  case timers =>
    refine notMem_list (fun index inside => ?_) gone
    obtain ⟨deadline, asleep⟩ := wellformed.sound.mem_timers_iff.mp inside
    rw [Roster.isLive_eq asleep]
    rfl
  case watchers => exact fun index inside => gone (related.watching inside)
  case joiners =>
    intro other entry known inside
    obtain ⟨index, found⟩ := exists_find?_of_entry wellformed known
    have present := (Roster.find?_eq_some_iff.mp found).2
    exact gone (related.joined.alive present inside)
  case handlers =>
    exact fun index event handled => gone (related.handling handled)
  case resumes =>
    intro current
    unfold perform
    dsimp only
    split
    · rfl
    · rw [bind_of_ok (resume_of_dead wellformed dead)]
      rfl
  case kills =>
    intro current different
    unfold perform
    dsimp only
    rw [if_neg different.symm]
    exact startKill_of_dead wellformed notRunning dead
  case killsItself =>
    unfold perform
    dsimp only
    rw [if_pos rfl]
    rfl
  case watches =>
    intro event
    unfold perform
    dsimp only
    rw [watch_of_dead wellformed dead]
    rfl
  case joins =>
    intro current different
    unfold perform join
    dsimp only
    rw [if_neg different.symm, outcome_of_dead wellformed dead]
    rfl

end Kernel

/-- What comes after a slice.  If it ended with the value of a shutdown, every
live task is to be killed. -/
def Scheduler.afterSlice (scheduler : Scheduler S) :
    Option S.Output → Control S
  | none => .turn
  | some value => .sweep value scheduler.kernel.tasks.liveTasks

namespace Machine

variable [Application S] {machine : Machine S} {task : TaskHandle}
  {exit : S.Exit}

theorem Steady.departed_of_dead (steady : machine.Steady)
    (related : machine.kernel.Related)
    (dead : machine.kernel.roster.stateOf task = some (.dead exit)) :
    machine.toScheduler.Departed task exit := by
  have wellformed := steady.placed.wellformed
  have gone := Roster.not_alive_of_dead dead
  have departed := Kernel.departed_of_dead wellformed related
    (fun _ => steady.sane.alive) dead
  constructor
  case kernel => exact departed
  case notYielded =>
    exact fun yielded =>
      gone (steady.placed.strays.alive (steady.stray_of_yielded yielded).2)
  case resume =>
    unfold Scheduler.resume
    rw [bind_of_ok (Kernel.resume_of_dead wellformed dead)]
    rfl
  case kill =>
    unfold launch
    dsimp only
    rw [Kernel.startKill_of_dead wellformed departed.notRunning dead]
    rfl
  case watch =>
    intro event
    unfold Scheduler.watch
    rw [Kernel.watch_of_dead wellformed dead]
    rfl
  case join => exact Kernel.outcome_of_dead wellformed dead
  case reap =>
    obtain ⟨index, entry, found, state⟩ := Kernel.exists_find?_of_dead dead
    obtain ⟨tasks, reaped, _⟩ := wellformed.holds.reap task
    rw [Roster.reap_of_find? found state] at reaped
    unfold Scheduler.reap
    rw [bind_of_ok (TaskTable.tryReap_eq _ task), reaped]
    exact ⟨_, rfl⟩

/-- The end of a slice is no fault, and it does what the step says. -/
theorem Steady.exists_applied (steady : machine.Steady) {step : S.Step}
    {body : S.Body}
    (control : machine.control = .body (.slice task) (.pure (step, body))) :
    ∃ value scheduler,
      Scheduler.Applied
        { machine.toScheduler with
          kernel := machine.kernel.endSlice task body }
        task step value scheduler ∧
      machine.move .step = { machine with
        toScheduler := scheduler
        control := scheduler.afterSlice value } := by
  have ends := Kernel.endSlice_evolves steady.placed.wellformed body
    (steady.running_of_slice control)
  have placed := steady.placed_of_ends control ends
  have harmless : FaultsOnly (fun _ => False) (Scheduler.apply
      { machine.toScheduler with kernel := machine.kernel.endSlice task body }
      task step) := Scheduler.apply_faultsOnly placed rfl step
  obtain ⟨⟨value, scheduler⟩, done⟩ := harmless.exists_ok
  refine ⟨value, scheduler, Scheduler.apply_applied placed.wellformed
    (placed.strays.alive rfl) rfl done, ?_⟩
  apply move_step_of_ok
  rw [advance_of_body control]
  refine (bind_of_ok done _).trans ?_
  cases value <;> rfl

/-- A close that has begun was begun by a kill. -/
theorem Nests.begun {next : Machine S} {closing : Closing}
    (nests : machine.Nests next)
    (closings : next.closings = closing :: machine.closings) :
    ∃ body, machine.BeginsClose closing body next.kernel ∧
      next.control = .body (.close closing) (closeProgram body) := by
  have longer := congrArg List.length closings
  rw [List.length_cons] at longer
  cases nests with
  | begins begins control known =>
      cases known.symm.trans closings
      exact ⟨_, begins, control⟩
  | ends control settles answers known =>
      have shorter := congrArg List.length known
      rw [List.length_cons] at shorter
      omega
  | keeps known =>
      have same := congrArg List.length known
      omega
  | fails faulted known =>
      have shorter := known.length_le
      omega

end Machine

/-! ### Runs -/

namespace Run

variable [Application S]

/-- The next move ends a task: its slice ends with a step that says so, or it is
killed and the close of its body begins. -/
inductive Ends (run : Run S) (count : Nat) (task : TaskHandle) : S.Exit → Prop
  | slice {step : S.Step} {body : S.Body} {exit : S.Exit}
      (control : (run.after count).control =
        .body (.slice task) (.pure (step, body)))
      (move : run.moves count = .step) (exits : step.exit? = some exit) :
      Ends run count task exit
  | kill {closing : Closing} (killed : closing.task = task)
      (closings : (run.after (count + 1)).closings =
        closing :: (run.after count).closings) :
      Ends run count task .cancelled

variable {run : Run S} {count : Nat} {task : TaskHandle} {exit : S.Exit}

theorem nests (run : Run S) (count : Nat) :
    (run.after count).Nests (run.after (count + 1)) :=
  (run.transition count).nests (run.steady count)

theorem state_eq_ok_iff (run : Run S) (count : Nat) {state : S.State} :
    (run.after count).state task = .ok state ↔
      (run.after count).kernel.roster.stateOf task = some state :=
  Kernel.state_eq_ok_iff (run.wellformed count)

/-- Whoever ends was alive, and is dead from then on. -/
theorem Ends.dead (ends : run.Ends count task exit) :
    (run.after count).kernel.roster.Alive task ∧
      (run.after (count + 1)).kernel.roster.stateOf task =
        some (.dead exit) := by
  have steady := run.steady count
  cases ends with
  | @slice step body exit control move exits =>
      have running := steady.running_of_slice control
      obtain ⟨value, scheduler, applied, moved⟩ := steady.exists_applied control
      have ended :=
        Kernel.endSlice_evolves steady.placed.wellformed body running
      refine ⟨steady.sane.alive running, ?_⟩
      change ((run.after count).move (run.moves count)).kernel.roster.stateOf
        task = _
      rw [move, moved]
      exact applied.stateOf_dead (ended.wellformed steady.placed.wellformed)
        exits
  | kill killed closings =>
      obtain ⟨body, begins, _⟩ := (run.nests count).begun closings
      rw [← killed]
      exact ⟨begins.begins.alive, begins.begins.retires.stateOf⟩

/-- Who is dead after a move was dead before, or ends with it. -/
theorem ends_of_dead
    (dead : (run.after (count + 1)).kernel.roster.stateOf task =
      some (.dead exit)) :
    (run.after count).kernel.roster.stateOf task = some (.dead exit) ∨
      run.Ends count task exit := by
  have wellformed := run.wellformed count
  rcases (run.accounted count).dead_cases wellformed dead with already | accounts
  · exact Or.inl already
  · refine Or.inr ?_
    cases accounts.dies rfl with
    | slice steps control exits known =>
        cases dead.symm.trans known
        exact .slice control steps exits
    | close same closings known =>
        cases dead.symm.trans known
        exact .kill same closings

/-- A dead task stays dead until it is reaped. -/
theorem dead_of_le {later : Nat}
    (dead : (run.after count).kernel.roster.stateOf task = some (.dead exit))
    (after : count ≤ later)
    (unreaped : ∀ between, count ≤ between → between < later →
      run.moves between ≠ .operate (.reap task)) :
    (run.after later).kernel.roster.stateOf task = some (.dead exit) := by
  induction later, after using Nat.le_induction with
  | base => exact dead
  | succ later after ih =>
      have before := ih fun between since early =>
        unreaped between since (Nat.lt_succ_of_lt early)
      refine (run.accounted later).stateOf_dead
        (run.wellformed later) (fun accounts => ?_) before
      exact unreaped later after (Nat.lt_succ_self later)
        (accounts.reaps rfl).eq_reap.2

/-- How tasks die in a run, and what becomes of them. -/
structure StaysDead (run : Run S) (count : Nat) : Prop where
  /-- Only a live task ends, and it is dead at once. -/
  ends {task : TaskHandle} {exit : S.Exit} : run.Ends count task exit →
    (run.after count).kernel.isAlive task = true ∧
      (run.after (count + 1)).state task = .ok (.dead exit)
  /-- Nobody dies in another way. -/
  cause {task : TaskHandle} {exit : S.Exit} :
    (run.after (count + 1)).state task = .ok (.dead exit) →
      (run.after count).state task = .ok (.dead exit) ∨
        run.Ends count task exit
  /-- Nothing but being reaped changes anything for a dead task. -/
  departed {task : TaskHandle} {exit : S.Exit} {later : Nat} :
    (run.after count).state task = .ok (.dead exit) → count ≤ later →
      (∀ between, count ≤ between → between < later →
        run.moves between ≠ .operate (.reap task)) →
      (run.after later).toScheduler.Departed task exit

/-- A dead task is never revived, and its exit is never lost. -/
theorem staysDead (run : Run S) (count : Nat) : run.StaysDead count where
  ends ended := by
    obtain ⟨alive, dead⟩ := ended.dead
    exact ⟨(run.isAlive_iff count).mpr alive,
      (run.state_eq_ok_iff _).mpr dead⟩
  cause dead := by
    rw [run.state_eq_ok_iff] at dead ⊢
    exact ends_of_dead dead
  departed {task exit later} dead after unreaped := by
    rw [run.state_eq_ok_iff] at dead
    exact (run.steady later).departed_of_dead (run.related later)
      (dead_of_le dead after unreaped)

end Run

end EventScheduler
