import EventScheduler.Event.Tables
import EventScheduler.Proofs.Event.Registry
import EventScheduler.Proofs.Task.Joiners

/-!
# What operations do to watchers and handlers

Which tasks watch an event slot, and which task handles it, before and after the
operations of both tables.
-/

namespace EventScheduler

namespace WatcherMap

variable {map next : WatcherMap} {event : EventHandle} {task other : TaskHandle}
  {index : Fin maxEvents}

def watching (map : WatcherMap) (index : Fin maxEvents) : List TaskHandle :=
  (getElem map.sets index index.isLt).toList

theorem watching_setWatchers (map : WatcherMap) (event : EventHandle)
    (watchers : TaskSet maxWatchers) (index : Fin maxEvents) :
    (map.setWatchers event watchers).watching index =
      if index = event.index then watchers.toList else map.watching index := by
  unfold watching setWatchers
  by_cases same : index = event.index
  · subst same
    simp
  · have apart : event.index.val ≠ index.val := fun equal =>
      same (Fin.ext equal).symm
    simp [same, apart]

theorem isEnabled_of_watch {events : Events} {added : Bool}
    (done : map.watch events event task = .ok (added, next)) :
    events.isEnabled event = true := by
  unfold watch at done
  split at done
  · assumption
  · cases done

theorem mem_watch {events : Events} {added : Bool}
    (done : map.watch events event task = .ok (added, next)) :
    other ∈ next.watching index ↔
      other ∈ map.watching index ∨
        other = task ∧ index = event.index := by
  unfold watch at done
  split at done
  · split at done
    · next known watchers grown =>
        cases done
        rw [watching_setWatchers]
        split
        · next same =>
            rw [TaskSet.mem_insert grown, same]
            simp only [and_true]
            rfl
        · next apart => simp [apart]
    · cases done
  · cases done

/-- An event that is not enabled has no watchers. -/
theorem mem_unwatch {events : Events} :
    other ∈ (map.unwatch events event task).2.watching index ↔
      other ∈ map.watching index ∧
        (events.isEnabled event = true → index = event.index →
          other ≠ task) := by
  unfold unwatch
  split
  · next enabled =>
      dsimp only
      rw [watching_setWatchers]
      split
      · next same =>
          rw [TaskSet.mem_remove, same]
          simp only [enabled, forall_const]
          rfl
      · next apart => simp [apart]
  · next disabled => simp [disabled]

theorem mem_evict :
    other ∈ (map.evict event).2.watching index ↔
      other ∈ map.watching index ∧ index ≠ event.index := by
  unfold evict
  dsimp only
  rw [watching_setWatchers]
  split
  · next same => simp [same]
  · next apart => simp [apart]

theorem mem_forget :
    other ∈ (map.forget task).watching index ↔
      other ∈ map.watching index ∧ other ≠ task := by
  unfold forget watching
  simp

end WatcherMap

namespace Handlers

variable {handlers : Handlers} {event other : EventHandle}
  {task known : TaskHandle} {index : Fin maxEvents}

def entry (handlers : Handlers) (index : Fin maxEvents) :
    Option (EventHandle × TaskHandle) :=
  getElem handlers.entries index index.isLt

theorem get?_eq_some_iff :
    handlers.get? event = some task ↔
      handlers.entry event.index = some (event, task) := by
  unfold get? entry
  generalize handlers.entries[event.index] = stored
  cases stored with
  | none => simp
  | some named =>
      obtain ⟨owner, known⟩ := named
      by_cases same : owner = event <;> simp [same]

theorem entry_insert :
    (handlers.insert event task).entry index =
      if index = event.index then some (event, task)
      else handlers.entry index := by
  unfold insert entry
  by_cases same : index = event.index
  · subst same
    simp
  · have apart : event.index.val ≠ index.val := fun equal =>
      same (Fin.ext equal).symm
    simp [same, apart]

theorem entry_forget_eq_some_iff :
    (handlers.forget task).entry index = some (event, known) ↔
      handlers.entry index = some (event, known) ∧ known ≠ task := by
  unfold forget entry
  simp

/-- An event has no handler once its handler is forgotten. -/
theorem get?_forget (handled : handlers.get? event = some task) :
    (handlers.forget task).get? event = none := by
  refine Option.eq_none_iff_forall_ne_some.mpr fun left handledToo => ?_
  have stored := get?_eq_some_iff.mp handledToo
  obtain ⟨before, different⟩ := entry_forget_eq_some_iff.mp stored
  rw [get?_eq_some_iff.mpr before] at handled
  exact different (Option.some.inj handled)

end Handlers

end EventScheduler
