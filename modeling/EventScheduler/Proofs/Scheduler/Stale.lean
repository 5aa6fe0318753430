import EventScheduler.Proofs.Event.Slots
import EventScheduler.Proofs.Scheduler.Closes

/-!
# Handles that fit no slot

A handle is stale while its slot is empty or has another generation.  Whoever
uses it is told so, or gets the answer false, and nothing changes.
-/

namespace EventScheduler

variable {S : Signature}

/-! ### Stale event handles -/

namespace Events

/-- The slot of the event is free or has another generation than the handle. -/
def Stale (events : Events) (event : EventHandle) : Prop :=
  (events.slot event.index).generation ≠ event.generation ∨
    (events.slot event.index).state = .free

/-- What the registry answers to a handle that it does not know, without any
change to the slots, to the queue or to how often the processor was woken. -/
structure Ignores (events : Events) (event : EventHandle) : Prop where
  setPending : events.setPending event = .ok (false, events)
  isEnabled : events.isEnabled event = false
  isPending : events.isPending event = false
  release : events.release event = (false, events)
  abandon : events.abandon event = (false, events)
  releaseAbandoned : events.releaseAbandoned event = (false, events)
  /-- A cell with such a handle can be claimed into. -/
  claimInto : events.claimInto (some event) =
    match events.claim with
    | .error error => (⟨.error error, some event⟩, events)
    | .ok (claimed, next) => (⟨.ok claimed, some claimed⟩, next)

variable {events : Events} {event : EventHandle}

theorem Stale.state (stale : events.Stale event) :
    events.state event = .free := by
  unfold Events.state
  dsimp only
  split
  · next fits => exact stale.resolve_left (not_not_intro fits)
  · rfl

theorem Stale.ignores (stale : events.Stale event) : events.Ignores event := by
  have free := stale.state
  have unclaimed : events.isClaimed event = false := by
    unfold isClaimed
    rw [free]
    rfl
  have disabled : events.isEnabled event = false := by
    unfold isEnabled
    rw [free]
  constructor
  case setPending =>
    unfold setPending
    rw [free]
  case isEnabled => exact disabled
  case isPending =>
    unfold isPending
    rw [free]
    rfl
  case release =>
    unfold release
    rw [unclaimed]
    rfl
  case abandon =>
    unfold abandon
    rw [disabled]
    rfl
  case releaseAbandoned =>
    unfold releaseAbandoned
    rw [free]
    rfl
  case claimInto =>
    unfold claimInto
    rw [Option.any_some, unclaimed]
    rfl

end Events

/-! ### Stale task handles -/

/-- The slot of the task, if there is one of that number, is empty or has
another generation than the handle. -/
def TaskTable.Stale (table : TaskTable S) (task : TaskHandle) : Prop :=
  ∀ index : SlotIndex, index.val = task.index →
    (table.slot index).generation ≠ task.generation ∨
      (table.slot index).entry = none

namespace TaskTable

variable {table : TaskTable S} {task : TaskHandle}

theorem Stale.find? (stale : table.Stale task) : table.find? task = none := by
  unfold TaskTable.find?
  split
  · next inRange =>
      dsimp only
      split
      · next fits =>
          have empty := (stale ⟨task.index, inRange⟩ rfl).resolve_left
            (not_not_intro fits)
          exact Option.map_eq_none_iff.mpr empty
      · rfl
  · rfl

theorem Stale.state (stale : table.Stale task) :
    table.state task = .error .staleTask := by
  unfold TaskTable.state TaskTable.entry
  rw [stale.find?]
  rfl

end TaskTable

/-- What is answered to a handle of a task from outside if the scheduler does
not know it.  Nothing changes. -/
structure Scheduler.Ignores [Application S] (scheduler : Scheduler S)
    (task : TaskHandle) : Prop where
  state : scheduler.state task = .error .staleTask
  reap : scheduler.reap task = .ok (.error .staleTask, scheduler)
  kill : Machine.launch scheduler (.kill task) =
    { scheduler with
      control := .concluded (.answered (.error .staleTask))
      callers := [] }
  join : scheduler.join task = .error .staleTask
  watch (event : EventHandle) :
    scheduler.watch event task = (.error .staleTask, scheduler)
  resume : scheduler.resume task = .ok (false, scheduler)

/-- What is answered to a handle of a task from inside the task `current` if the
kernel does not know it.  Nothing changes. -/
structure Kernel.Ignores [Environment S.World] (kernel : Kernel S)
    (current task : TaskHandle) : Prop where
  state : kernel.perform current (.state task) =
    .ok (.answered (.error .staleTask) kernel)
  kill : kernel.perform current (.kill task) =
    .ok (.answered (.error .staleTask) kernel)
  join : kernel.perform current (.join task) =
    .ok (.answered (.error .staleTask) kernel)
  resume : kernel.perform current (.resume task) = .ok (.answered false kernel)

namespace Kernel

variable {kernel : Kernel S} {current task : TaskHandle}

private theorem outcome_of_stale (stale : kernel.tasks.Stale task) :
    kernel.outcome task = .error .staleTask := by
  unfold outcome
  rw [stale.state]

private theorem resume_of_stale (stale : kernel.tasks.Stale task) :
    kernel.resume task = .ok (false, kernel) := by
  unfold resume TaskTable.activate
  rw [stale.find?]
  rfl

variable [Environment S.World]

private theorem startKill_of_stale (stale : kernel.tasks.Stale task)
    (other : kernel.running ≠ some task) :
    kernel.startKill task = .ok (.answered (.error .staleTask) kernel) := by
  have killed : kernel.kill task = .ok (.refused .staleTask) := by
    unfold kill TaskTable.entry
    rw [if_neg other, stale.find?]
  unfold startKill
  rw [bind_of_ok killed]
  rfl

/-- A task that is there is not named by a stale handle. -/
theorem ignores_of_stale (stale : kernel.tasks.Stale task)
    (other : kernel.running ≠ some task) (different : task ≠ current) :
    kernel.Ignores current task := by
  constructor
  case state =>
    unfold perform answer
    dsimp only
    rw [stale.state]
  case kill =>
    unfold perform
    dsimp only
    rw [if_neg different, startKill_of_stale stale other]
  case join =>
    unfold perform answerWith join
    dsimp only
    rw [if_neg different, outcome_of_stale stale]
  case resume =>
    unfold perform
    dsimp only
    rw [if_neg different, bind_of_ok (resume_of_stale stale)]
    rfl

end Kernel

theorem Scheduler.ignores_of_stale [Application S] {scheduler : Scheduler S}
    {task : TaskHandle} (stale : scheduler.kernel.tasks.Stale task)
    (other : scheduler.kernel.running ≠ some task) :
    scheduler.Ignores task := by
  constructor
  case state => exact stale.state
  case reap =>
    unfold Scheduler.reap TaskTable.tryReap
    rw [stale.find?]
    rfl
  case kill =>
    unfold Machine.launch
    dsimp only
    rw [Kernel.startKill_of_stale stale other]
    rfl
  case join => exact Kernel.outcome_of_stale stale
  case watch =>
    intro event
    unfold Scheduler.watch Kernel.watch
    rw [stale.state]
    rfl
  case resume =>
    unfold Scheduler.resume
    rw [bind_of_ok (Kernel.resume_of_stale stale)]
    rfl

namespace Run

variable [Application S] {run : Run S} {count : Nat} {task : TaskHandle}

/-- A task whose body runs was not reaped. -/
theorem state_of_body {role : Role} {program : Program S (role.Result S)}
    (control : (run.after count).control = .body role program) :
    ∃ state, (run.after count).kernel.tasks.state role.task = .ok state := by
  cases role with
  | slice task =>
      have running := (run.steady count).running_of_slice control
      exact ⟨.active, run.state_of_running running⟩
  | close closing =>
      have inside : closing ∈ (run.after count).closings := by
        rw [Machine.closings_of_body control]
        exact List.mem_cons_self
      have dead := run.dead_of_mem_closings inside
      exact ⟨.dead .cancelled, (run.state_eq_ok_iff count).mpr dead⟩

private theorem running_ne_of_stale
    (stale : (run.after count).kernel.tasks.Stale task) :
    (run.after count).kernel.running ≠ some task := by
  intro running
  cases (run.state_of_running running).symm.trans stale.state

/-- A stale handle comes to nothing from outside. -/
theorem ignores_of_stale
    (stale : (run.after count).kernel.tasks.Stale task) :
    (run.after count).toScheduler.Ignores task :=
  Scheduler.ignores_of_stale stale (running_ne_of_stale stale)

/-- A stale handle comes to nothing from inside a body. -/
theorem ignores_of_asked {role : Role} {program : Program S (role.Result S)}
    (stale : (run.after count).kernel.tasks.Stale task)
    (control : (run.after count).control = .body role program) :
    (run.after count).kernel.Ignores role.task task := by
  -- Requests that name the task itself are answered before its slot is read.
  refine Kernel.ignores_of_stale stale (running_ne_of_stale stale) ?_
  rintro rfl
  obtain ⟨state, known⟩ := state_of_body control
  cases known.symm.trans stale.state

end Run

end EventScheduler
