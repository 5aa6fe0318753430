import EventScheduler.Proofs.Kernel.Entries
import EventScheduler.Proofs.Kernel.Rouses

/-!
# What ends the wait of a task

A task that is blocked goes on waiting, as it was parked, until it is resumed or
dies, or its time has come when the sleepers are looked through.
-/

namespace EventScheduler

variable {S : Signature}

/-- What may end the wait of a task. -/
inductive Deed.Stirs : Deed → TaskHandle → Prop
  | wakes {task : TaskHandle} : Stirs (.wakes task) task
  | promotes {task : TaskHandle} : Stirs .promotes task
  | parks {task : TaskHandle} : Stirs (.parks task) task
  | dies {task : TaskHandle} : Stirs (.dies task) task

/-- Whoever does not go to the run queue goes on as before. -/
theorem Roster.Rouses.stateOf_eq {roster other : Roster S}
    {tasks : List TaskHandle} {task : TaskHandle}
    (rouses : roster.Rouses other tasks) (apart : task ∉ tasks) :
    other.stateOf task = roster.stateOf task := by
  unfold Roster.stateOf Roster.entryOf
  rw [rouses.find?, if_neg apart]

namespace Roster

variable {roster : Roster S} {task : TaskHandle} {state : S.State}

theorem exists_state?_of_stateOf (known : roster.stateOf task = some state) :
    ∃ index, roster.handleAt index = task ∧
      roster.state? index = some state := by
  obtain ⟨entry, found, rfl⟩ := Option.map_eq_some_iff.mp known
  obtain ⟨index, named⟩ := entryOf_eq_some_iff.mp found
  obtain ⟨fits, present⟩ := find?_eq_some_iff.mp named
  exact ⟨index, fits, state?_of_entry present⟩

namespace Sound

/-- A sleeper is on the timer list, and its deadline may pass. -/
theorem mem_asleep (sound : roster.Sound) {deadline : Deadline}
    (known : roster.stateOf task = some (.timer deadline)) :
    task ∈ roster.asleep ∧ deadline.isNever = false := by
  obtain ⟨index, rfl, asleep⟩ := exists_state?_of_stateOf known
  exact ⟨List.mem_map_of_mem (sound.mem_timers_iff.mpr ⟨deadline, asleep⟩),
    sound.not_never asleep⟩

/-- The sleepers whose time has come. -/
theorem mem_expired_iff (sound : roster.Sound) (now : Tick)
    (known : roster.stateOf task = some state) :
    task ∈ roster.expired now ↔
      ∃ deadline, state = .timer deadline ∧ deadline.reached now = true := by
  obtain ⟨index, rfl, here⟩ := exists_state?_of_stateOf known
  unfold expired
  rw [List.mem_map_of_injective roster.handleAt_injective, List.mem_filter,
    sound.mem_timers_iff]
  constructor
  · rintro ⟨⟨deadline, asleep⟩, reached⟩
    rw [Roster.due_eq asleep] at reached
    exact ⟨deadline, Option.some.inj (here.symm.trans asleep), reached⟩
  · rintro ⟨deadline, rfl, reached⟩
    rw [Roster.due_eq here]
    exact ⟨⟨deadline, here⟩, reached⟩

end Sound

end Roster

/-! ### Parking a task -/

namespace Roster

variable {roster other : Roster S} {task : TaskHandle}

private theorem stateOf_of_parked {index : SlotIndex} {entry : TaskEntry S}
    {state : S.State} (found : roster.find? task = some (index, entry))
    (generation : other.generation = roster.generation)
    (entries : other.entry =
      Function.update roster.entry index (some { entry with state })) :
    other.stateOf task = some state := by
  have fits : other.handleAt index = task := by
    rw [← (find?_eq_some_iff.mp found).1]
    unfold handleAt
    rw [generation]
  unfold stateOf
  rw [← fits, entryOf_handleAt, entries, Function.update_self]
  rfl

theorem stateOf_suspend (alive : roster.Alive task) :
    (roster.suspend task).stateOf task = some .suspended := by
  obtain ⟨index, entry, found, _⟩ := alive
  unfold suspend
  rw [found]
  exact stateOf_of_parked found rfl rfl

theorem stateOf_sleep (alive : roster.Alive task) {deadline : Deadline}
    (ever : deadline.isNever = false) :
    (roster.sleep task deadline).stateOf task = some (.timer deadline) := by
  obtain ⟨index, entry, found, _⟩ := alive
  unfold sleep
  rw [ever, if_neg Bool.false_ne_true, found]
  exact stateOf_of_parked found rfl rfl

end Roster

/-! ### What a change does to a blocked task -/

namespace Kernel

variable {kernel next : Kernel S} {deed : Deed} {task : TaskHandle}
  {state : S.State}

/-- A change that may not end a wait leaves everybody waiting as before. -/
theorem Change.stateOf_of_blocked (change : Change kernel deed next)
    (wellformed : kernel.Wellformed) (calm : ¬ deed.Stirs task)
    (blocked : kernel.roster.stateOf task = some state)
    (waiting : state.isWaiting = true) :
    next.roster.stateOf task = some state := by
  have alters := change.alters wellformed task
  unfold Roster.stateOf at blocked ⊢
  generalize kernel.roster.entryOf task = before at alters blocked
  generalize next.roster.entryOf task = after at alters ⊢
  cases alters with
  | still | bereaves | joins | hands => exact blocked
  | starts => cases blocked
  | wakes woken =>
      rcases woken with rfl | rfl
      · exact absurd .wakes calm
      · exact absurd .promotes calm
  | parks parked =>
      subst parked
      exact absurd .parks calm
  | dies _ died =>
      subst died
      exact absurd .dies calm
  | reaps _ dead =>
      rw [Option.some.inj blocked] at dead
      cases state with
      | dead => cases waiting
      | _ => cases dead

theorem Evolves.stateOf_of_blocked {may : Deed → Prop}
    (evolves : Evolves may kernel next) (wellformed : kernel.Wellformed)
    (calm : ∀ deed, may deed → ¬ deed.Stirs task)
    (blocked : kernel.roster.stateOf task = some state)
    (waiting : state.isWaiting = true) :
    next.roster.stateOf task = some state := by
  induction evolves with
  | refl => exact blocked
  | step before change allowed ih =>
      exact change.stateOf_of_blocked (before.wellformed wellformed)
        (calm _ allowed) ih waiting

/-- Looking through the sleepers leaves those asleep whose time has not come. -/
theorem Change.stateOf_of_promotes (change : Change kernel .promotes next)
    (wellformed : kernel.Wellformed)
    (blocked : kernel.roster.stateOf task = some state)
    (early : ∀ deadline, state = .timer deadline →
      deadline.reached kernel.now = false) :
    next.roster.stateOf task = some state := by
  cases change with
  | promote holds =>
      have rouses := kernel.roster.rouses_promoteExpired kernel.now
      rw [roster_of_holds rfl holds, rouses.stateOf_eq, blocked]
      intro expired
      obtain ⟨deadline, asleep, reached⟩ :=
        (wellformed.sound.mem_expired_iff kernel.now blocked).mp expired
      cases (early deadline asleep).symm.trans reached

/-- Resuming others leaves a task as it is. -/
theorem stateOf_of_resumeAll {capacity : Nat} {set : TaskSet capacity}
    {woke : Bool} (wellformed : kernel.Wellformed)
    (done : kernel.resumeAll set = .ok (woke, next))
    (apart : task ∉ set.toList) :
    next.roster.stateOf task = kernel.roster.stateOf task := by
  refine (resumeAll_wakens wellformed done).rouses.roster.stateOf_eq ?_
  exact fun woken => apart (Roster.mem_wakened_iff.mp woken).1

/-- Resuming a task leaves all others as they are, and the task itself if it was
not blocked. -/
theorem stateOf_of_resume {other : TaskHandle} {woke : Bool}
    (wellformed : kernel.Wellformed)
    (done : kernel.resume other = .ok (woke, next))
    (apart : woke = true → task ≠ other) :
    next.roster.stateOf task = kernel.roster.stateOf task := by
  obtain ⟨rouses, flag⟩ := resume_wakens wellformed done
  refine rouses.roster.stateOf_eq fun woken => ?_
  exact apart (flag.mpr (List.ne_nil_of_mem woken))
    (List.mem_singleton.mp (Roster.mem_wakened_iff.mp woken).1)

/-- An errand that comes to its end at once leaves the tasks alone. -/
theorem SettlesAtOnce.tasks_eq [Environment S.World] {event : EventHandle}
    {errand : Errand} {verdict : Bool}
    (settles : kernel.SettlesAtOnce event errand verdict next) :
    next.tasks = kernel.tasks := by
  obtain ⟨middle, same, _, done⟩ := settles.exists_settle
  have kept := (middle.settle_keeps errand).1
  rwa [done, same] at kept

end Kernel

end EventScheduler
