import EventScheduler.Proofs.Scheduler.Deeds

/-!
# What refers to tasks during a run

In every state of every run, also in the middle of a close and whatever the
interrupts do, watcher sets, joiner sets and handlers name live tasks only, and
only enabled events are watched.
-/

namespace EventScheduler

variable {S : Signature}

private theorem Kernel.related_new [Environment S.World] (world : S.World) :
    (Kernel.new world : Kernel S).Related := by
  have nobody (index : Fin maxEvents) :
      (Kernel.new world : Kernel S).watchers.watching index = [] := by
    unfold Kernel.new WatcherMap.empty WatcherMap.watching
    simp [TaskSet.toList]
  have unhandled (index : Fin maxEvents) :
      (Kernel.new world : Kernel S).handlers.entry index = none := by
    unfold Kernel.new Handlers.empty Handlers.entry
    simp
  constructor
  · rw [roster_new]
    exact .empty
  · intro index task inside
    rw [nobody] at inside
    cases inside
  · intro index task inside
    rw [nobody] at inside
    cases inside
  · intro index event task handled
    rw [unhandled] at handled
    cases handled
  · intro index other event otherEvent task handled
    rw [unhandled] at handled
    cases handled

theorem Run.related [Application S] (run : Run S) (count : Nat) :
    (run.after count).kernel.Related := by
  induction count with
  | zero => exact Kernel.related_new run.world
  | succ count ih =>
      exact (run.accounted count).related (run.wellformed count) ih

/-- No slice begins or ends while a task is closed. -/
theorem Run.running_eq_of_closings [Application S] (run : Run S) {count : Nat}
    (busy : (run.after count).closings ≠ []) :
    (run.after (count + 1)).kernel.running =
      (run.after count).kernel.running := by
  have inside (turns : (run.after count).control.turns = true) : False :=
    busy ((run.steady count).closings_eq_nil (Control.isBase_of_turns turns))
  exact (run.accounted count).running_eq
    (fun other accounts => inside (accounts.turns rfl))
    fun other accounts => inside (accounts.turns rfl)

/-- The tables of a kernel name live tasks only. -/
structure Kernel.NamesLive (kernel : Kernel S) : Prop where
  watchers (index : Fin maxEvents) (task : TaskHandle) :
    task ∈ kernel.watchers.watching index → kernel.isAlive task = true
  enabled (index : Fin maxEvents) :
    kernel.watchers.watching index ≠ [] →
      ∃ pending, (kernel.events.slot index).state = .enabled pending
  handlers (index : Fin maxEvents) (event : EventHandle) (task : TaskHandle) :
    kernel.handlers.entry index = some (event, task) →
      kernel.isAlive task = true
  joiners (index : SlotIndex) (entry : TaskEntry S) (task : TaskHandle) :
    (kernel.tasks.slot index).entry = some entry →
      task ∈ entry.joiners.toList → kernel.isAlive task = true
  /-- A dead task has no joiners left. -/
  bereft (index : SlotIndex) (entry : TaskEntry S) :
    (kernel.tasks.slot index).entry = some entry →
      entry.state.isDead = true → entry.joiners.isEmpty = true
  /-- No task joined itself. -/
  apart (index : SlotIndex) (entry : TaskEntry S) :
    (kernel.tasks.slot index).entry = some entry →
      kernel.tasks.handleAt index ∉ entry.joiners.toList

/-- In every state of every run only live tasks are named. -/
theorem Run.namesLive [Application S] (run : Run S) (count : Nat) :
    (run.after count).kernel.NamesLive := by
  have related := run.related count
  have wellformed := (run.steady count).placed.wellformed
  constructor
  case watchers =>
    intro index task inside
    exact (Kernel.isAlive_iff wellformed).mpr (related.watching inside)
  case enabled =>
    intro index nonempty
    obtain ⟨task, inside⟩ := List.exists_mem_of_ne_nil _ nonempty
    exact related.enabled inside
  case handlers =>
    intro index event task handled
    exact (Kernel.isAlive_iff wellformed).mpr (related.handling handled)
  case joiners =>
    intro index entry task present inside
    exact (Kernel.isAlive_iff wellformed).mpr
      (related.joined.alive present inside)
  case bereft =>
    intro index entry present dead
    exact List.isEmpty_iff.mpr (related.joined.bereft present dead)
  case apart =>
    intro index entry present
    exact related.joined.apart present

end EventScheduler
