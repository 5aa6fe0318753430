/-!
# Handles

Every table of the scheduler has a fixed size; nothing grows while it runs.  A
handle names a slot of a table together with the generation that the slot had
when the handle was issued.  Freeing a slot moves it to the next of 65536
generations, so a handle that outlives its slot no longer fits.
-/

namespace EventScheduler

/-! ### Limits -/

/-- Tasks that one scheduler holds, counting dead ones that were not reaped. -/
abbrev maxTasks : Nat := 16

abbrev maxEvents : Nat := 32

theorem maxEvents_pos : 0 < maxEvents := by decide

/-- Distinct events that may be pending and undrained at the same time. -/
abbrev queueDepth : Nat := 16

/-- Tasks that may watch one event. -/
abbrev maxWatchers : Nat := 8

/-- Tasks that may join one task. -/
abbrev maxJoiners : Nat := 8

/-! ### Handles -/

/--
A reference to a task.  Handles can be made up, so the slot number need not be
one that exists.
-/
structure TaskHandle where
  index : Nat
  /-- The generation of the slot when the handle was issued. -/
  generation : UInt16
deriving DecidableEq, Inhabited

instance : ToString TaskHandle where
  toString task := s!"task{task.index}.{task.generation}"

/-- A reference to an event.  Only the registry issues these. -/
structure EventHandle where
  index : Fin maxEvents
  /-- The generation of the slot when the handle was issued. -/
  generation : UInt16
deriving DecidableEq, Inhabited

instance : ToString EventHandle where
  toString event := s!"ev{event.index}.{event.generation}"

theorem EventHandle.index_lt (event : EventHandle) :
    event.index.val < maxEvents :=
  event.index.isLt

end EventScheduler
