import EventScheduler.Proofs.Scheduler.Moves
import EventScheduler.Proofs.Scheduler.Steady

/-!
# Where the tasks of a scheduler are

In every state of every run each live task is in exactly one place: on the run
queue, running, yielded, suspended, or asleep.  A place says what a task is
doing and on which list it is.
-/

namespace EventScheduler

variable {S : Signature}

namespace Machine

variable {machine : Machine S}

theorem Steady.sane (steady : machine.Steady) : machine.Sane where
  wellformed := steady.placed.wellformed
  running := steady.running_of_slice
  alive running := steady.placed.strays.alive (stray_of_running running)

end Machine

/-! ### Places -/

/-- Where a live task can be. -/
inductive Place
  | queued
  | running
  | yielded
  | suspended
  | asleep (deadline : Deadline)
deriving DecidableEq

namespace Place

def state : Place → S.State
  | .queued | .running | .yielded => .active
  | .suspended => .suspended
  | .asleep deadline => .timer deadline

def timesQueued : Place → Nat
  | .queued => 1
  | _ => 0

def timesAsleep : Place → Nat
  | .asleep _ => 1
  | _ => 0

end Place

namespace Machine

variable {machine : Machine S}

structure Puts (machine : Machine S) (index : SlotIndex) (place : Place) :
    Prop where
  state : machine.kernel.roster.state? index = some place.state
  run : machine.kernel.roster.run.count index = place.timesQueued
  timers : machine.kernel.roster.timers.count index = place.timesAsleep
  running : machine.kernel.running =
    some (machine.kernel.roster.handleAt index) ↔ place = .running
  yielded : machine.yielded =
    some (machine.kernel.roster.handleAt index) ↔ place = .yielded
  not_never (deadline : Deadline) :
    place = .asleep deadline → deadline.isNever = false

/-- Every live task is in exactly one place, and nothing else is on a list. -/
structure Located (machine : Machine S) : Prop where
  /-- The links lead through the run queue and the timer list, and the marks
  say which slots are on them. -/
  threaded : machine.kernel.tasks.Threaded machine.kernel.tasks.linked
  place (index : SlotIndex) : machine.kernel.roster.isLive index = true →
    ∃! place, machine.Puts index place
  gone (index : SlotIndex) : machine.kernel.roster.isLive index = false →
    index ∉ machine.kernel.roster.run ∧ index ∉ machine.kernel.roster.timers
  live : machine.kernel.tasks.live =
    (List.finRange maxTasks).countP machine.kernel.roster.isLive
  bodied (index : SlotIndex) (entry : TaskEntry S) :
    machine.kernel.roster.entry index = some entry →
      entry.state.isDead = false →
        machine.kernel.running ≠ some (machine.kernel.roster.handleAt index) →
          entry.body.isSome = true
  running (task : TaskHandle) : machine.kernel.running = some task →
    ∃ index, machine.kernel.roster.handleAt index = task ∧
      machine.Puts index .running
  yielded (task : TaskHandle) : machine.yielded = some task →
    ∃ index, machine.kernel.roster.handleAt index = task ∧
      machine.Puts index .yielded
  /-- The running task is the one whose slice is carried out, if any. -/
  slices : machine.control.isFaulted = false →
    machine.slices = machine.kernel.running.toList

theorem Puts.unique {index : SlotIndex} {place other : Place}
    (here : machine.Puts index place) (there : machine.Puts index other) :
    place = other := by
  have states := Option.some.inj (here.state.symm.trans there.state)
  have queues := here.run.symm.trans there.run
  have runs := here.running.symm.trans there.running
  cases place <;> cases other <;>
    simp_all [Place.state, Place.timesQueued]

namespace Steady

theorem stray_of_yielded (steady : machine.Steady) {task : TaskHandle}
    (left : machine.yielded = some task) :
    machine.kernel.running ≠ some task ∧ machine.stray = some task := by
  have nobody : machine.kernel.running = none := by
    refine (steady.yielded ?_).1
    rw [left]
    exact Option.some_ne_none task
  rw [stray_of_idle nobody, nobody]
  exact ⟨(Option.some_ne_none task).symm, left⟩

/-- A task that is not active, or that is queued, neither runs nor did it
yield. -/
private theorem puts_of_settled (steady : machine.Steady) {index : SlotIndex}
    {place : Place}
    (settled : ¬ (machine.kernel.roster.state? index = some .active ∧
      index ∉ machine.kernel.roster.run))
    (state : machine.kernel.roster.state? index = some place.state)
    (run : machine.kernel.roster.run.count index = place.timesQueued)
    (timers : machine.kernel.roster.timers.count index = place.timesAsleep)
    (not_never : ∀ deadline, place = .asleep deadline →
      deadline.isNever = false)
    (elsewhere : place ≠ .running ∧ place ≠ .yielded) :
    machine.Puts index place where
  state := state
  run := run
  timers := timers
  not_never := not_never
  running := by
    refine iff_of_false (fun running => settled ?_) elsewhere.1
    exact (steady.placed.strays.iff index).mpr (stray_of_running running)
  yielded := by
    refine iff_of_false (fun left => settled ?_) elsewhere.2
    exact (steady.placed.strays.iff index).mpr (steady.stray_of_yielded left).2

/-- An active task is queued, or it runs, or it yielded. -/
private theorem exists_puts_of_active (steady : machine.Steady)
    {index : SlotIndex}
    (known : machine.kernel.roster.state? index = some .active) :
    ∃ place, machine.Puts index place := by
  have sound := steady.placed.wellformed.sound
  have off : machine.kernel.roster.timers.count index = 0 := by
    refine List.count_eq_zero.mpr (sound.notMem_timers fun _ asleep => ?_)
    rw [known] at asleep
    cases asleep
  by_cases queued : index ∈ machine.kernel.roster.run
  · have once := List.count_eq_one_of_mem sound.run_nodup queued
    refine ⟨.queued, steady.puts_of_settled (fun astray => astray.2 queued)
      known once off (fun _ impossible => nomatch impossible) ?_⟩
    decide
  · have none := List.count_eq_zero.mpr queued
    have named := (steady.placed.strays.iff index).mp ⟨known, queued⟩
    unfold stray at named
    rcases Option.or_eq_some_iff.mp named with running | ⟨nobody, left⟩
    · refine ⟨.running, known, none, off, iff_of_true running rfl, ?_,
        fun _ impossible => nomatch impossible⟩
      refine iff_of_false (fun left => ?_) (by decide)
      exact (steady.stray_of_yielded left).1 running
    · refine ⟨.yielded, known, none, off, ?_, iff_of_true left rfl,
        fun _ impossible => nomatch impossible⟩
      exact iff_of_false (steady.stray_of_yielded left).1 (by decide)

/-- A task that is not active is not queued. -/
private theorem notMem_run_of_ne (steady : machine.Steady) {index : SlotIndex}
    {state : S.State}
    (known : machine.kernel.roster.state? index = some state)
    (inactive : state ≠ .active) : index ∉ machine.kernel.roster.run := by
  apply steady.placed.wellformed.sound.notMem_run
  rw [known]
  exact fun same => inactive (Option.some.inj same)

private theorem exists_puts (steady : machine.Steady) {index : SlotIndex}
    (live : machine.kernel.roster.isLive index = true) :
    ∃ place, machine.Puts index place := by
  have sound := steady.placed.wellformed.sound
  obtain ⟨entry, present, notDead⟩ := Roster.isLive_eq_true_iff.mp live
  have known := Roster.state?_of_entry present
  cases state : entry.state with
  | active =>
      rw [state] at known
      exact steady.exists_puts_of_active known
  | suspended =>
      rw [state] at known
      have offRun := steady.notMem_run_of_ne known (by simp)
      have offTimers : index ∉ machine.kernel.roster.timers := by
        refine sound.notMem_timers fun deadline => ?_
        rw [known]
        exact fun impossible => nomatch impossible
      refine ⟨.suspended, steady.puts_of_settled ?_ known
        (List.count_eq_zero.mpr offRun) (List.count_eq_zero.mpr offTimers)
        (fun _ impossible => nomatch impossible) (by decide)⟩
      rw [known]
      exact fun impossible => nomatch impossible.1
  | timer deadline =>
      rw [state] at known
      have offRun := steady.notMem_run_of_ne known (by simp)
      have asleep := sound.mem_timers_iff.mpr ⟨deadline, known⟩
      have once := List.count_eq_one_of_mem sound.timers_nodup asleep
      have lasting := sound.not_never known
      refine ⟨.asleep deadline, steady.puts_of_settled ?_ known
        (List.count_eq_zero.mpr offRun) once ?_ ?_⟩
      · rw [known]
        exact fun impossible => nomatch impossible.1
      · intro other same
        cases same
        exact lasting
      · exact ⟨Place.noConfusion, Place.noConfusion⟩
  | dead exit =>
      rw [state] at notDead
      cases notDead

private theorem exists_puts_of_stray (steady : machine.Steady)
    {task : TaskHandle} (astray : machine.stray = some task) :
    ∃ index, machine.kernel.roster.handleAt index = task ∧
      ∃ place, machine.Puts index place := by
  have alive := steady.placed.strays.alive astray
  obtain ⟨index, fits, live⟩ := Roster.alive_iff.mp alive
  exact ⟨index, fits, steady.exists_puts live⟩

theorem located_of_steady (steady : machine.Steady) : machine.Located where
  threaded := by
    have threaded := steady.placed.wellformed.holds.threaded
    have lists : machine.kernel.roster.lists = machine.kernel.tasks.linked := by
      funext list
      cases list <;> rfl
    rwa [lists] at threaded
  place index live := by
    obtain ⟨place, here⟩ := steady.exists_puts live
    exact ⟨place, here, fun other there => there.unique here⟩
  gone index dead := by
    have sound := steady.placed.wellformed.sound
    constructor
    · intro queued
      rw [Roster.isLive_eq (sound.active queued)] at dead
      cases dead
    · intro asleep
      obtain ⟨deadline, known⟩ := sound.mem_timers_iff.mp asleep
      rw [Roster.isLive_eq known] at dead
      cases dead
  live := steady.placed.wellformed.sound.live_eq
  bodied := steady.placed.bodied
  running task running := by
    obtain ⟨index, fits, place, here⟩ :=
      steady.exists_puts_of_stray (stray_of_running running)
    rw [here.running.mp (by rw [fits, running])] at here
    exact ⟨index, fits, here⟩
  yielded task left := by
    obtain ⟨index, fits, place, here⟩ :=
      steady.exists_puts_of_stray (steady.stray_of_yielded left).2
    rw [here.yielded.mp (by rw [fits, left])] at here
    exact ⟨index, fits, here⟩
  slices := steady.slices

end Steady

/-! ### Runs -/

variable [Application S]

theorem steady_new (world : S.World) : (new world).Steady := by
  have same : (new world : Machine S).kernel.roster = .empty :=
    Kernel.roster_new world
  refine ⟨⟨Kernel.wellformed_new world, ?_, ?_⟩, ?_, fun _ => rfl, trivial,
    fun _ => rfl⟩
  · rw [same]
    constructor
    · intro index
      constructor
      · rintro ⟨active, _⟩
        cases active
      · intro impossible
        cases impossible
    · intro task impossible
      cases impossible
  · rw [same]
    intro index entry present
    cases present
  · exact fun waits => absurd rfl waits

end Machine

variable [Application S]

/-- What every move preserves holds after any number of moves. -/
theorem Run.steady (run : Run S) (count : Nat) : (run.after count).Steady := by
  induction count with
  | zero => exact Machine.steady_new run.world
  | succ count ih =>
      exact (Machine.transition_of_move ih.sane (run.moves count)).steady ih

theorem Run.wellformed (run : Run S) (count : Nat) :
    (run.after count).kernel.Wellformed :=
  (run.steady count).placed.wellformed

theorem Run.isAlive_iff (run : Run S) (count : Nat) {task : TaskHandle} :
    (run.after count).kernel.isAlive task = true ↔
      (run.after count).kernel.roster.Alive task :=
  Kernel.isAlive_iff (run.wellformed count)

theorem Run.transition (run : Run S) (count : Nat) :
    Machine.Transition (run.after count) (run.moves count)
      (run.after (count + 1)) :=
  Machine.transition_of_move (run.steady count).sane (run.moves count)

/-- In every state of every run the tasks are where they should be. -/
theorem Run.located (run : Run S) (count : Nat) :
    (run.after count).Located :=
  (run.steady count).located_of_steady

end EventScheduler
