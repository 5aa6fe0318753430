import EventScheduler.Proofs.Event.Queue
import EventScheduler.Proofs.Kernel.Operations
import EventScheduler.Proofs.Task.Sets

/-!
# What is refused changes nothing

An operation on a kernel that answers an error, or that nothing was done, leaves
the kernel as it was.  The exception is a handler that its event has no room
for: it got a slot and lost it again, so the generation of one empty slot has
advanced, and nothing else is different.
-/

namespace EventScheduler

variable {S : Signature}

/-! ### Watchers and events -/

namespace WatcherMap

theorem setWatchers_self (map : WatcherMap) (event : EventHandle) :
    map.setWatchers event (map.watchers event) = map := by
  unfold setWatchers watchers
  congr 1
  exact Vector.set_getElem_self event.index_lt

theorem eq_of_unwatch {map : WatcherMap} {events : Events}
    {event : EventHandle} {task : TaskHandle}
    (kept : (map.unwatch events event task).1 = false) :
    (map.unwatch events event task).2 = map := by
  unfold unwatch at kept ⊢
  split
  · next enabled =>
      rw [if_pos enabled] at kept
      have same := TaskSet.eq_of_remove kept
      dsimp only
      rw [same, setWatchers_self]
  · rfl

end WatcherMap

namespace Events

variable {events next : Events} {event : EventHandle}

theorem eq_of_setPending
    (done : events.setPending event = .ok (false, next)) : next = events := by
  unfold setPending at done
  split at done
  · split at done <;> cases done
  · cases done
    rfl

theorem eq_of_releaseAbandoned
    (kept : (events.releaseAbandoned event).1 = false) :
    (events.releaseAbandoned event).2 = events := by
  unfold releaseAbandoned at kept ⊢
  split
  · next abandoned =>
      rw [if_pos abandoned] at kept
      exact eq_of_release_eq_false (Prod.ext kept rfl)
  · rfl

end Events

/-! ### Empty slots -/

/-- Let no handle that was issued for a slot fit it any more. -/
def TaskTable.spoil (table : TaskTable S) (index : SlotIndex) : TaskTable S :=
  table.modify index fun slot =>
    { slot with generation := slot.generation + 1 }

theorem TaskTable.Holds.spoil {table : TaskTable S} {roster : Roster S}
    (holds : table.Holds roster) {index : SlotIndex}
    (vacant : roster.entry index = none) :
    (table.spoil index).Holds (roster.free index) := by
  have empty : table.slots[index].entry = none :=
    (holds.entry index).trans vacant
  have same : table.spoil index = table.modify index fun slot =>
      { slot with generation := slot.generation + 1, entry := none } := by
    unfold TaskTable.spoil TaskTable.modify
    dsimp only
    rw [empty]
  rw [same]
  exact holds.free index

namespace Kernel

variable {kernel next : Kernel S} {task : TaskHandle} {event : EventHandle}

theorem Change.eq_of_spoils {index : SlotIndex}
    (change : Change kernel (.spoils index) next)
    (wellformed : kernel.Wellformed) :
    next = { kernel with tasks := kernel.tasks.spoil index } := by
  cases change with
  | spoil vacant holds =>
      rw [(wellformed.holds.spoil vacant).unique holds]

/-! ### Operations on the kernel -/

theorem eq_of_resume (done : kernel.resume task = .ok (false, next)) :
    next = kernel := by
  unfold resume at done
  obtain ⟨⟨resumed, tasks⟩, activated, later⟩ := exists_ok_of_bind done
  cases resumed with
  | true => cases later
  | false =>
      cases later
      unfold TaskTable.activate at activated
      split at activated
      · cases activated
        rfl
      · split at activated
        · obtain ⟨_, _, pushed⟩ := exists_ok_of_bind activated
          obtain ⟨_, _, impossible⟩ := exists_ok_of_bind pushed
          cases impossible
        · cases activated
          rfl

theorem eq_of_join {joiner : TaskHandle} {error : Error}
    (refused : (kernel.join task joiner).1 = .error error) :
    (kernel.join task joiner).2 = kernel := by
  unfold join at refused ⊢
  split
  · rfl
  · next different =>
      rw [if_neg different] at refused
      split
      · rfl
      · rfl
      · next pending =>
          rw [pending] at refused
          dsimp only at refused
          split
          · next alive =>
              rw [if_pos alive] at refused
              split
              · rfl
              · next added =>
                  rw [added] at refused
                  cases refused
          · rfl

theorem eq_of_watch {error : Error}
    (refused : (kernel.watch event task).1 = .error error) :
    (kernel.watch event task).2 = kernel := by
  unfold watch at refused ⊢
  split
  · rfl
  · rfl
  · next state notDead known =>
      rw [known] at refused
      split
      · rfl
      · next watched =>
          cases state with
          | dead exit => exact absurd rfl (notDead exit)
          | active | suspended | timer =>
              simp only [watched] at refused
              cases refused

theorem eq_of_unwatch (kept : (kernel.unwatch event task).1 = false) :
    (kernel.unwatch event task).2 = kernel :=
  congrArg (fun watchers => { kernel with watchers })
    (WatcherMap.eq_of_unwatch kept)

end Kernel

end EventScheduler
