import EventScheduler.Proofs.Kernel.Operations
import EventScheduler.Proofs.Task.Rouses

/-!
# Tasks that the kernel wakes

Going through the watchers of an event wakes those that wait, each where it is
met first, and touches nothing else.
-/

namespace EventScheduler.Kernel

variable {S : Signature} {kernel next third : Kernel S}
  {first second tasks : List TaskHandle} {woke wokeToo : Bool}

/-- The given tasks were resumed, and nothing else happened to tasks, watchers
and handlers. -/
structure Rouses (kernel next : Kernel S) (tasks : List TaskHandle) :
    Prop where
  roster : kernel.roster.Rouses next.roster tasks
  watchers : next.watchers = kernel.watchers
  handlers : next.handlers = kernel.handlers
  running : next.running = kernel.running
  resumes : next.stats.resumes = kernel.stats.resumes + tasks.length

/-- The waiting ones of the given tasks were resumed, and the flag says whether
there was any. -/
structure Wakens (kernel next : Kernel S) (tasks : List TaskHandle)
    (woke : Bool) : Prop where
  rouses : kernel.Rouses next (kernel.roster.wakened tasks)
  flag : woke = true ↔ kernel.roster.wakened tasks ≠ []

theorem Rouses.refl (kernel : Kernel S) : kernel.Rouses kernel [] :=
  ⟨.refl _, rfl, rfl, rfl, rfl⟩

theorem Rouses.append (before : kernel.Rouses next first)
    (after : next.Rouses third second) :
    kernel.Rouses third (first ++ second) where
  roster := before.roster.append after.roster
  watchers := after.watchers.trans before.watchers
  handlers := after.handlers.trans before.handlers
  running := after.running.trans before.running
  resumes := by
    rw [after.resumes, before.resumes, List.length_append, Nat.add_assoc]

theorem Wakens.refl (kernel : Kernel S) : kernel.Wakens kernel [] false := by
  constructor <;> rw [Roster.wakened_nil]
  · exact .refl kernel
  · simp

theorem Wakens.append (before : kernel.Wakens next first woke)
    (after : next.Wakens third second wokeToo) :
    kernel.Wakens third (first ++ second) (woke || wokeToo) := by
  have all := Roster.wakened_append before.rouses.roster second
  constructor <;> rw [all]
  · exact before.rouses.append after.rouses
  · rw [Bool.or_eq_true, before.flag, after.flag, ← not_and_or,
      ← List.append_eq_nil_iff]

/-! ### Resuming tasks -/

theorem resume_wakens (wellformed : kernel.Wellformed) {task : TaskHandle}
    (done : kernel.resume task = .ok (woke, next)) :
    kernel.Wakens next [task] woke := by
  obtain ⟨tasks, activated, holds⟩ :=
    wellformed.holds.activate wellformed.sound task
  obtain ⟨flag, rouses⟩ := Roster.activate_rouses wellformed.sound task
  have roster (stats : Stats) :
      ({ kernel with tasks, stats } : Kernel S).roster =
        (kernel.roster.activate task).2 := holds.roster_eq
  unfold resume at done
  rw [bind_of_ok activated, flag] at done
  rw [Roster.wakened_singleton] at rouses
  cases waits : kernel.roster.isWaiting task with
  | true =>
      rw [waits] at done rouses
      cases done
      constructor <;> rw [Roster.wakened_singleton, waits]
      · exact ⟨roster _ ▸ rouses, rfl, rfl, rfl, rfl⟩
      · simp
  | false =>
      rw [waits] at done rouses
      cases done
      constructor <;> rw [Roster.wakened_singleton, waits]
      · exact ⟨roster kernel.stats ▸ rouses, rfl, rfl, rfl, rfl⟩
      · simp

private theorem visitList_wakens (tasks : List TaskHandle)
    (wellformed : kernel.Wellformed)
    (done : TaskSet.visitList resume tasks kernel = .ok (woke, next)) :
    kernel.Wakens next tasks woke := by
  induction tasks generalizing kernel woke with
  | nil =>
      cases done
      exact .refl _
  | cons task rest ih =>
      unfold TaskSet.visitList at done
      obtain ⟨⟨first, middle⟩, resumed, later⟩ := exists_ok_of_bind done
      obtain ⟨⟨_, last⟩, visited, ended⟩ := exists_ok_of_bind later
      cases ended
      have evolves := resume_evolves wellformed resumed
      exact (resume_wakens wellformed resumed).append
        (ih (evolves.wellformed wellformed) visited)

theorem resumeAll_wakens {capacity : Nat} {set : TaskSet capacity}
    (wellformed : kernel.Wellformed)
    (done : kernel.resumeAll set = .ok (woke, next)) :
    kernel.Wakens next set.toList woke :=
  visitList_wakens _ wellformed done

theorem resumeWatchers_wakens (wellformed : kernel.Wellformed)
    {event : EventHandle}
    (done : kernel.resumeWatchers event = .ok (woke, next)) :
    kernel.Wakens next (kernel.watchers.watchers event).toList woke :=
  resumeAll_wakens wellformed done

/-- The kernel knows who is blocked. -/
theorem isWaiting_eq (wellformed : kernel.Wellformed) (task : TaskHandle) :
    kernel.isWaiting task = kernel.roster.isWaiting task := by
  unfold isWaiting Roster.isWaiting TaskTable.state TaskTable.entry
  rw [wellformed.holds.find?]
  cases kernel.roster.find? task <;> rfl

/-- What the kernel knows about tasks that went to the run queue. -/
theorem entry_of_rouses (wellformed : kernel.Wellformed)
    (wellformedToo : next.Wellformed)
    (rouses : kernel.roster.Rouses next.roster tasks) (task : TaskHandle) :
    next.tasks.entry task =
      if task ∈ tasks then (kernel.tasks.entry task).map TaskEntry.roused
      else kernel.tasks.entry task := by
  unfold TaskTable.entry
  rw [wellformed.holds.find?, wellformedToo.holds.find?, rouses.find?]
  by_cases inside : task ∈ tasks
  · rw [if_pos inside, if_pos inside]
    cases kernel.roster.find? task <;> rfl
  · rw [if_neg inside, if_neg inside]

end EventScheduler.Kernel
