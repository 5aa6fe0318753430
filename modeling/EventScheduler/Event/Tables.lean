import EventScheduler.Event.Registry
import EventScheduler.Task.Set

/-!
# Tables over event slots

Which task handles an event, and which tasks wait on it.  The handler is
remembered by event slot along with the handle it was started on, so a handle
of another claim of the slot never finds it.  A watcher set belongs to an event
slot; it is empty unless the event in the slot is enabled, because only enabled
events can be watched and an event that goes away takes its watchers with it.
-/

namespace EventScheduler

/-! ### Handlers -/

structure Handlers where
  /-- The event that is handled in each slot and the task that handles it. -/
  entries : Vector (Option (EventHandle × TaskHandle)) maxEvents
deriving DecidableEq

namespace Handlers

def empty : Handlers where
  entries := Vector.replicate maxEvents none

def get? (handlers : Handlers) (event : EventHandle) : Option TaskHandle :=
  match getElem handlers.entries event.index event.index_lt with
  | some (owner, task) => if owner = event then some task else none
  | none => none

def insert (handlers : Handlers) (event : EventHandle) (task : TaskHandle) :
    Handlers :=
  { handlers with
    entries :=
      handlers.entries.set event.index (some (event, task)) event.index_lt }

/-- Drop every entry that names `task`. -/
def forget (handlers : Handlers) (task : TaskHandle) : Handlers :=
  { handlers with
    entries := handlers.entries.map fun entry =>
      entry.filter fun (_, owner) => owner != task }

end Handlers

/-! ### Watchers -/

structure WatcherMap where
  /-- The watcher set of each slot. -/
  sets : Vector (TaskSet maxWatchers) maxEvents
deriving DecidableEq

namespace WatcherMap

def empty : WatcherMap where
  sets := Vector.replicate maxEvents .none

def watchers (map : WatcherMap) (event : EventHandle) :
    TaskSet maxWatchers :=
  getElem map.sets event.index event.index_lt

def setWatchers (map : WatcherMap) (event : EventHandle)
    (watchers : TaskSet maxWatchers) : WatcherMap :=
  { map with sets := map.sets.set event.index watchers event.index_lt }

/-- Let `task` watch an enabled event.  The flag says whether it did not watch
it yet. -/
def watch (map : WatcherMap) (events : Events) (event : EventHandle)
    (task : TaskHandle) : Except Error (Bool × WatcherMap) :=
  if events.isEnabled event then
    match (map.watchers event).insert task with
    | .ok (added, watchers) => .ok (added, map.setWatchers event watchers)
    | .error _ => .error .tooManyWatchers
  else
    .error .eventDisabled

/-- Stop `task` from watching an event.  The flag says whether it did; an event
that is not enabled has no watchers. -/
def unwatch (map : WatcherMap) (events : Events) (event : EventHandle)
    (task : TaskHandle) : Bool × WatcherMap :=
  if events.isEnabled event then
    let (removed, watchers) := (map.watchers event).remove task
    (removed, map.setWatchers event watchers)
  else
    (false, map)

/-- Drop every watcher of the slot of an event.  Answers the set dropped. -/
def evict (map : WatcherMap) (event : EventHandle) :
    TaskSet maxWatchers × WatcherMap :=
  let (dropped, left) := (map.watchers event).take
  (dropped, map.setWatchers event left)

/-- Stop `task` from watching anything. -/
def forget (map : WatcherMap) (task : TaskHandle) : WatcherMap :=
  { map with sets := map.sets.map fun set => (set.remove task).2 }

end WatcherMap

end EventScheduler
