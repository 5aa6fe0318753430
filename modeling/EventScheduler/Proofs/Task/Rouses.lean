import EventScheduler.Proofs.Task.Alive
import Mathlib.Data.List.Basic

/-!
# Tasks that go to the run queue

Waking a task, going through a list of tasks to wake those that wait, moving
the expired sleepers to the run queue and putting the task that yielded back on
it are the same kind of change: some tasks go to the tail of the run queue in
order, are active from then on, and sleep no more.
-/

namespace EventScheduler

variable {S : Signature}

def TaskEntry.roused (entry : TaskEntry S) : TaskEntry S :=
  { entry with state := .active }

@[simp]
theorem TaskEntry.roused_roused (entry : TaskEntry S) :
    entry.roused.roused = entry.roused :=
  rfl

theorem TaskEntry.roused_of_active {entry : TaskEntry S}
    (active : entry.state = .active) : entry.roused = entry := by
  unfold roused
  rw [← active]

namespace Roster

variable {roster other third : Roster S} {task : TaskHandle}
  {first second tasks : List TaskHandle}

def queued (roster : Roster S) : List TaskHandle :=
  roster.run.map roster.handleAt

def asleep (roster : Roster S) : List TaskHandle :=
  roster.timers.map roster.handleAt

def isWaiting (roster : Roster S) (task : TaskHandle) : Bool :=
  (roster.find? task).any fun named => named.2.state.isWaiting

/-- The given tasks go to the tail of the run queue in order. -/
structure Rouses (roster other : Roster S) (tasks : List TaskHandle) :
    Prop where
  generation : other.generation = roster.generation
  live : other.live = roster.live
  queued : other.queued = roster.queued ++ tasks
  asleep : other.asleep = roster.asleep.filter (· ∉ tasks)
  entry (index : SlotIndex) : other.entry index =
    if roster.handleAt index ∈ tasks then
      (roster.entry index).map TaskEntry.roused
    else roster.entry index

namespace Rouses

theorem handleAt (rouses : roster.Rouses other tasks) :
    other.handleAt = roster.handleAt := by
  funext index
  unfold Roster.handleAt
  rw [rouses.generation]

theorem refl (roster : Roster S) : roster.Rouses roster [] where
  generation := rfl
  live := rfl
  queued := (List.append_nil _).symm
  asleep := by simp
  entry _ := (if_neg List.not_mem_nil).symm

theorem append (before : roster.Rouses other first)
    (after : other.Rouses third second) :
    roster.Rouses third (first ++ second) where
  generation := after.generation.trans before.generation
  live := after.live.trans before.live
  queued := by rw [after.queued, before.queued, List.append_assoc]
  asleep := by
    rw [after.asleep, before.asleep, List.filter_filter]
    refine List.filter_congr fun task _ => ?_
    simp only [List.mem_append, not_or, Bool.decide_and]
    exact Bool.and_comm _ _
  entry index := by
    rw [after.entry, before.entry, before.handleAt]
    by_cases early : roster.handleAt index ∈ first <;>
      by_cases late : roster.handleAt index ∈ second <;>
        simp [early, late, Function.comp_def]

theorem find? (rouses : roster.Rouses other tasks) (task : TaskHandle) :
    other.find? task =
      if task ∈ tasks then
        (roster.find? task).map fun named => (named.1, named.2.roused)
      else roster.find? task := by
  unfold Roster.find?
  by_cases inRange : task.index < maxTasks
  · rw [dif_pos inRange, dif_pos inRange, rouses.generation]
    by_cases fits :
        roster.generation ⟨task.index, inRange⟩ = task.generation
    · have handle : roster.handleAt ⟨task.index, inRange⟩ = task := by
        unfold Roster.handleAt
        rw [fits]
      rw [if_pos fits, rouses.entry, handle]
      split
      · rw [Option.map_map, if_pos fits, Option.map_map]
        rfl
      · rw [if_pos fits]
    · rw [if_neg fits, if_neg fits]
      exact (ite_self none).symm
  · rw [dif_neg inRange, dif_neg inRange]
    exact (ite_self none).symm

/-- Whoever goes to the run queue waits no more. -/
theorem isWaiting (rouses : roster.Rouses other tasks) (task : TaskHandle) :
    other.isWaiting task = (decide (task ∉ tasks) && roster.isWaiting task) := by
  unfold Roster.isWaiting
  rw [rouses.find?]
  by_cases inside : task ∈ tasks
  · rw [if_pos inside]
    cases roster.find? task <;>
      simp [inside, TaskEntry.roused, TaskState.isWaiting]
  · rw [if_neg inside]
    simp [inside]

theorem eq_of_nil (rouses : roster.Rouses other []) : other = roster := by
  have handles := rouses.handleAt
  have run := rouses.queued
  have timers := rouses.asleep
  unfold Roster.queued at run
  unfold Roster.asleep at timers
  rw [handles, List.append_nil] at run
  rw [handles] at timers
  refine Roster.ext rouses.generation (funext fun index => ?_)
    (List.map_injective_iff.mpr roster.handleAt_injective run)
    (List.map_injective_iff.mpr roster.handleAt_injective ?_) rouses.live
  · rw [rouses.entry, if_neg List.not_mem_nil]
  · rw [timers]
    simp

end Rouses

/-! ### Waking waiting tasks -/

theorem isWaiting_eq_true_iff : roster.isWaiting task = true ↔
    ∃ index entry, roster.find? task = some (index, entry) ∧
      entry.state.isWaiting = true := by
  unfold isWaiting
  rw [Option.any_eq_true]
  exact ⟨fun ⟨named, found, waiting⟩ => ⟨named.1, named.2, found, waiting⟩,
    fun ⟨index, entry, found, waiting⟩ => ⟨(index, entry), found, waiting⟩⟩

/-- A slot is taken off the run queue and the timer list, its task becomes
active, and it goes to the tail of the run queue. -/
theorem rouses_wake (sound : roster.Sound) {index : SlotIndex}
    {entry : TaskEntry S} (found : roster.find? task = some (index, entry))
    (waiting : entry.state.isWaiting = true) :
    roster.Rouses (roster.wake index entry) [task] := by
  obtain ⟨fits, present⟩ := find?_eq_some_iff.mp found
  have off : index ∉ roster.run := sound.notMem_run (by
    rw [state?_of_entry present]
    intro same
    rw [Option.some.inj same] at waiting
    cases waiting)
  have here (other : SlotIndex) :
      roster.handleAt other ∈ [task] ↔ other = index := by
    rw [List.mem_singleton, ← fits]
    exact roster.handleAt_injective.eq_iff
  refine ⟨rfl, rfl, ?_, ?_, fun other => ?_⟩
  · change (roster.run.erase index ++ [index]).map roster.handleAt = _
    rw [List.erase_of_not_mem off, List.map_append, List.map_singleton, fits]
    rfl
  · change (roster.timers.erase index).map roster.handleAt = _
    unfold Roster.asleep
    rw [sound.timers_nodup.erase_eq_filter, List.filter_map]
    congr 1
    refine List.filter_congr fun other _ => ?_
    simp only [Function.comp_apply, here, decide_not]
    rfl
  · change Function.update roster.entry index _ other = _
    simp only [here]
    by_cases same : other = index
    · subst same
      rw [if_pos rfl, Function.update_self, present]
      rfl
    · rw [if_neg same, Function.update_of_ne same]

/-- The waiting tasks of a list, each where it is met first. -/
def wakened (roster : Roster S) (tasks : List TaskHandle) : List TaskHandle :=
  (tasks.filter roster.isWaiting).eraseDups

theorem mem_wakened_iff : task ∈ roster.wakened tasks ↔
    task ∈ tasks ∧ roster.isWaiting task = true := by
  unfold wakened
  rw [List.mem_eraseDups, List.mem_filter]

@[simp]
theorem wakened_nil (roster : Roster S) : roster.wakened [] = [] :=
  List.eraseDups_nil

theorem wakened_singleton (roster : Roster S) (task : TaskHandle) :
    roster.wakened [task] =
      if roster.isWaiting task = true then [task] else [] := by
  unfold wakened
  rw [List.filter_singleton]
  cases roster.isWaiting task with
  | true => exact List.eraseDups_cons
  | false => exact List.eraseDups_nil

theorem wakened_of_nodup (nodup : tasks.Nodup) :
    roster.wakened tasks = tasks.filter roster.isWaiting := by
  have apart := nodup.filter roster.isWaiting
  unfold wakened
  generalize tasks.filter roster.isWaiting = waiting at apart ⊢
  induction waiting with
  | nil => rfl
  | cons task rest ih =>
      obtain ⟨fresh, apart⟩ := List.nodup_cons.mp apart
      have others : rest.filter (fun other => !other == task) = rest := by
        refine List.filter_eq_self.mpr fun other inside => ?_
        simpa using ne_of_mem_of_not_mem inside fresh
      rw [List.eraseDups_cons, others, ih apart]

/-- A task is woken if it waits. -/
theorem activate_rouses (sound : roster.Sound) (task : TaskHandle) :
    (roster.activate task).1 = roster.isWaiting task ∧
      roster.Rouses (roster.activate task).2 (roster.wakened [task]) := by
  rw [wakened_singleton]
  cases waits : roster.isWaiting task with
  | true =>
      obtain ⟨index, entry, found, waiting⟩ := isWaiting_eq_true_iff.mp waits
      have activated : roster.activate task =
          (true, roster.wake index entry) := by
        unfold Roster.activate
        rw [found]
        exact if_pos waiting
      rw [activated, if_pos rfl]
      exact ⟨rfl, rouses_wake sound found waiting⟩
  | false =>
      have activated : roster.activate task = (false, roster) := by
        unfold Roster.activate
        split
        · rfl
        · next index entry found =>
            refine if_neg fun waiting => ?_
            rw [isWaiting_eq_true_iff.mpr ⟨index, entry, found, waiting⟩]
              at waits
            cases waits
      rw [activated, if_neg Bool.false_ne_true]
      exact ⟨rfl, .refl roster⟩

/-- Whoever was woken on going through the first tasks is not woken again. -/
theorem wakened_append
    (rouses : roster.Rouses other (roster.wakened first))
    (second : List TaskHandle) :
    roster.wakened (first ++ second) =
      roster.wakened first ++ other.wakened second := by
  have later : (second.filter roster.isWaiting).removeAll
      (first.filter roster.isWaiting) = second.filter other.isWaiting := by
    unfold List.removeAll
    rw [List.filter_filter]
    refine List.filter_congr fun task _ => ?_
    have seen : task ∈ first.filter roster.isWaiting ↔
        task ∈ roster.wakened first := by
      rw [mem_wakened_iff, List.mem_filter]
    rw [rouses.isWaiting, List.elem_eq_mem]
    simp only [seen, decide_not]
  unfold wakened
  rw [List.filter_append, List.eraseDups_append, later]

/-! ### Expired sleepers and the task that yielded -/

def expired (roster : Roster S) (now : Tick) : List TaskHandle :=
  (roster.timers.filter fun index => (roster.due index).reached now).map
    roster.handleAt

theorem rouses_promoteExpired (roster : Roster S) (now : Tick) :
    roster.Rouses (roster.promoteExpired now).2 (roster.expired now) := by
  have inside (index : SlotIndex) :
      roster.handleAt index ∈ roster.expired now ↔
        index ∈ roster.timers.filter fun index =>
          (roster.due index).reached now :=
    List.mem_map_of_injective roster.handleAt_injective
  refine ⟨rfl, rfl, List.map_append, ?_, fun index => ?_⟩
  · change List.map roster.handleAt (roster.timers.filter fun index =>
      ¬ (roster.due index).reached now) = _
    unfold Roster.asleep
    rw [List.filter_map]
    congr 1
    refine List.filter_congr fun index asleep => ?_
    simp [inside, asleep]
  · simp only [inside]
    rfl

/-- An active task that is on no list goes to the tail of the run queue. -/
theorem rouses_requeue {index : SlotIndex} {entry : TaskEntry S}
    (found : roster.find? task = some (index, entry))
    (active : entry.state = .active) (notRun : index ∉ roster.run)
    (notTimers : index ∉ roster.timers) :
    roster.Rouses (roster.requeue task) [task] := by
  obtain ⟨fits, present⟩ := find?_eq_some_iff.mp found
  have same : roster.requeue task = roster.enqueue index := by
    unfold Roster.requeue
    rw [found]
    dsimp only
    rw [active]
    exact if_neg (not_or.mpr ⟨notRun, notTimers⟩)
  rw [same]
  refine ⟨rfl, rfl, ?_, ?_, fun other => ?_⟩
  · change (roster.run ++ [index]).map roster.handleAt = _
    rw [List.map_append, List.map_singleton, fits]
    rfl
  · have kept : ∀ sleeper ∈ roster.asleep, sleeper ∉ [task] := by
      intro sleeper asleep only
      rw [List.mem_singleton.mp only, ← fits] at asleep
      exact notTimers
        ((List.mem_map_of_injective roster.handleAt_injective).mp asleep)
    exact (List.filter_eq_self.mpr fun sleeper asleep =>
      decide_eq_true (kept sleeper asleep)).symm
  · change roster.entry other = _
    split
    · next here =>
        rw [List.mem_singleton, ← fits] at here
        rw [roster.handleAt_injective here, present, Option.map_some,
          TaskEntry.roused_of_active active]
    · rfl

end Roster

end EventScheduler
