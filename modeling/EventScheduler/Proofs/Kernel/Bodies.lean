import EventScheduler.Proofs.Kernel.Entries
import EventScheduler.Scheduler.Basic

/-!
# Where bodies are kept

The task table keeps the body of a task from the start of the task to its death,
except while a slice of it is carried out.
-/

namespace EventScheduler

variable {S : Signature}

namespace Roster

/-- The body of a task, unless it is running or the task is dead. -/
def bodyOf (roster : Roster S) (task : TaskHandle) : Option S.Body :=
  (roster.entryOf task).bind TaskEntry.body

end Roster

structure Deed.KeepsBody (deed : Deed) (task : TaskHandle) : Prop where
  begins : deed ≠ .begins task
  ends : deed ≠ .ends task
  dies : deed ≠ .dies task

namespace Kernel

variable {kernel next : Kernel S} {task : TaskHandle} {deed : Deed}

def body? (kernel : Kernel S) (task : TaskHandle) : Option S.Body :=
  match kernel.tasks.entry task with
  | .ok entry => entry.body
  | .error _ => none

theorem body?_eq (wellformed : kernel.Wellformed) (task : TaskHandle) :
    kernel.body? task = kernel.roster.bodyOf task := by
  unfold body? Roster.bodyOf
  cases known : kernel.roster.entryOf task with
  | some entry => rw [(entry_eq_ok_iff wellformed).mpr known]; rfl
  | none =>
      cases stored : kernel.tasks.entry task with
      | error => rfl
      | ok entry =>
          cases known.symm.trans ((entry_eq_ok_iff wellformed).mp stored)

/-- A live task stays alive, and its body is where it was. -/
theorem Change.bodyOf_eq (change : Change kernel deed next)
    (wellformed : kernel.Wellformed) (keeps : deed.KeepsBody task)
    (alive : kernel.roster.Alive task) :
    next.roster.Alive task ∧
      next.roster.bodyOf task = kernel.roster.bodyOf task := by
  have unborn : deed.started? ≠ some task := fun started =>
    change.not_alive_of_started started alive
  have aliveAfter : next.roster.Alive task :=
    (change.alive_iff wellformed).mpr (Or.inr ⟨alive, keeps.dies⟩)
  refine ⟨aliveAfter, ?_⟩
  obtain ⟨entry, present, survives⟩ := Roster.alive_iff_entryOf.mp aliveAfter
  have alters := change.alters wellformed task
  rw [present] at alters
  unfold Roster.bodyOf
  rw [present]
  generalize kernel.roster.entryOf task = before at alters ⊢
  cases alters with
  | still | wakes | parks | bereaves | joins => rfl
  | starts started => exact absurd started unborn
  | dies => cases survives
  | hands _ slice =>
      rcases slice with slice | slice
      · exact absurd slice keeps.begins
      · exact absurd slice keeps.ends

theorem Evolves.bodyOf_eq {may : Deed → Prop} (evolves : Evolves may kernel next)
    (wellformed : kernel.Wellformed)
    (keeps : ∀ deed, may deed → deed.KeepsBody task)
    (alive : kernel.roster.Alive task) :
    next.roster.Alive task ∧
      next.roster.bodyOf task = kernel.roster.bodyOf task := by
  induction evolves with
  | refl => exact ⟨alive, rfl⟩
  | step before change allowed ih =>
      obtain ⟨aliveToo, same⟩ := ih
      obtain ⟨aliveAfter, sameToo⟩ := change.bodyOf_eq
        (before.wellformed wellformed) (keeps _ allowed) aliveToo
      exact ⟨aliveAfter, sameToo.trans same⟩

/-- Whoever is started has the body that it was started with. -/
theorem bodyOf_of_insert {body : S.Body} {name : Option String}
    {tasks : TaskTable S} (same : next.tasks = tasks)
    (started : (kernel.roster.insert body name).1 = .ok task)
    (holds : tasks.Holds (kernel.roster.insert body name).2) :
    next.roster.bodyOf task = some body := by
  obtain ⟨index, entry, _, fits, fresh, filled⟩ :=
    Roster.exists_of_insert started
  rw [filled] at holds
  unfold Roster.bodyOf
  rw [roster_of_holds same holds]
  have handle : (kernel.roster.seat index entry).handleAt index = task := fits
  rw [← handle, Roster.entryOf_handleAt, Roster.entry_seat_self, fresh]
  rfl

variable [Environment S.World]

/-- A handler task has the body that was asked for. -/
theorem bodyOf_of_handle (wellformed : kernel.Wellformed) {event : EventHandle}
    {body : S.Body} {name : Option String}
    (done : kernel.handle event body name = .ok (.ok task, next)) :
    next.roster.bodyOf task = some body := by
  obtain ⟨middle, handles, started, holds, quiet⟩ :=
    exists_of_handle wellformed done
  have same := quiet.entryOf_eq (handles.wellformed wellformed)
    (fun _ fits => Or.inl fits) task
  unfold Roster.bodyOf
  rw [same]
  exact bodyOf_of_insert rfl started holds

omit [Environment S.World] in
/-- A slice is carried out with the body that was kept. -/
theorem body?_of_beginSlice {body : S.Body}
    (done : kernel.beginSlice task = .ok (body, next)) :
    kernel.body? task = some body := by
  unfold beginSlice at done
  unfold body?
  split at done
  · next known =>
      split at done
      · cases done
      · cases done
        rw [known]
  · cases done

omit [Environment S.World] in
/-- After the slice its body is kept for the next one. -/
theorem bodyOf_endSlice (wellformed : kernel.Wellformed)
    (alive : kernel.roster.Alive task) (body : S.Body) :
    (kernel.endSlice task body).roster.bodyOf task = some body := by
  obtain ⟨index, entry, found, _⟩ := alive
  have holds := wellformed.holds.update task fun entry =>
    { entry with body := some body }
  have updated : kernel.roster.update task (fun entry =>
      { entry with body := some body }) =
        kernel.roster.setEntry index { entry with body := some body } := by
    unfold Roster.update
    rw [found]
  rw [updated] at holds
  unfold Roster.bodyOf
  rw [show (kernel.endSlice task body).roster = _ from holds.roster_eq,
    Roster.entryOf_setEntry, if_pos (Roster.find?_eq_some_iff.mp found).1]
  rfl

end Kernel

end EventScheduler
