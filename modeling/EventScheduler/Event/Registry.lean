import EventScheduler.Fault

/-!
# The event registry

A fixed table of event slots together with the queue of events that became
pending and were not drained yet.  A slot goes from free to enabled when it is
claimed, and back when it is released.  Abandoning an enabled slot takes it out
of use until it is released from outside the tasks.
-/

namespace EventScheduler

/-- What an event slot is used for. -/
inductive EventState
  /-- Unclaimed. -/
  | free
  /-- Claimed; `pending` if an occurrence is queued. -/
  | enabled (pending : Bool)
  /-- Claimed, but taken out of use. -/
  | abandoned
deriving DecidableEq, Inhabited

structure EventSlot where
  /-- How often the slot was freed, modulo 65536. -/
  generation : UInt16
  /-- What the slot is used for. -/
  state : EventState
deriving DecidableEq, Inhabited

/-- What a claim into a cell answers, and what the cell holds afterwards. -/
structure CellClaim where
  answer : Except Error EventHandle
  cell : Option EventHandle

/-- The events of one scheduler. -/
structure Events where
  /-- The slots. -/
  slots : Vector EventSlot maxEvents
  /-- The pending events in the order in which they became pending. -/
  queue : List EventHandle
  /-- How often a sleeping processor was told to wake. -/
  wakes : Nat
deriving DecidableEq

namespace Events

def empty : Events where
  slots := Vector.replicate maxEvents { generation := 0, state := .free }
  queue := []
  wakes := 0

/-- What the event is used for; a stale handle counts as free. -/
def state (events : Events) (event : EventHandle) : EventState :=
  let slot := getElem events.slots event.index event.index_lt
  if slot.generation = event.generation then slot.state else .free

def isClaimed (events : Events) (event : EventHandle) : Bool :=
  events.state event != .free

/-- Whether the event is claimed and can be watched. -/
def isEnabled (events : Events) (event : EventHandle) : Bool :=
  match events.state event with
  | .enabled _ => true
  | _ => false

def isPending (events : Events) (event : EventHandle) : Bool :=
  events.state event == .enabled true

def queued (events : Events) : Nat :=
  events.queue.length

def setState (events : Events) (event : EventHandle) (state : EventState) :
    Events :=
  { events with
    slots := events.slots.set event.index
      { getElem events.slots event.index event.index_lt with state }
      event.index_lt }

theorem state_setState_of_ne (events : Events)
    {event other : EventHandle} (state : EventState)
    (different : event.index ≠ other.index) :
    (events.setState event state).state other = events.state other := by
  have apart : event.index.val ≠ other.index.val := by
    simpa [Fin.ext_iff] using different
  simp [Events.state, setState, apart]

theorem state_setState_self (events : Events) {event : EventHandle}
    (state : EventState) (claimed : events.state event ≠ .free) :
    (events.setState event state).state event = state := by
  unfold Events.state at claimed ⊢
  by_cases fits :
      events.slots[event.index].generation = event.generation
  · simp [setState] at fits ⊢
    simp [fits]
  · rw [if_neg fits] at claimed
    exact absurd rfl claimed

/-- Drop the queued occurrence of an event. -/
def dequeue (events : Events) (event : EventHandle) : Events :=
  { events with queue := events.queue.filter fun queued => queued != event }

/-- Reserve the first free slot and enable it. -/
def claim (events : Events) : Except Error (EventHandle × Events) :=
  match (List.finRange maxEvents).find? fun index =>
      events.slots[index].state == .free with
  | none => .error .noEventSlots
  | some index =>
      let event : EventHandle := ⟨index, events.slots[index].generation⟩
      .ok (event, events.setState event (.enabled false))

/-- Claim an event into a cell.  The cell must not hold a live claim; a stale
handle in it is overwritten. -/
def claimInto (events : Events) (cell : Option EventHandle) :
    CellClaim × Events :=
  if cell.any events.isClaimed then
    (⟨.error .eventAlreadyClaimed, cell⟩, events)
  else
    match events.claim with
    | .error error => (⟨.error error, cell⟩, events)
    | .ok (event, events) => (⟨.ok event, some event⟩, events)

/--
Mark an event pending.  The flag says whether this call queued it: an event
that is stale, abandoned or pending already is left alone.
-/
def setPending (events : Events) (event : EventHandle) :
    Except Fault (Bool × Events) :=
  match events.state event with
  | .enabled false =>
      if events.queue.length < queueDepth then
        let events := events.setState event (.enabled true)
        .ok (true, { events with
          queue := events.queue ++ [event]
          wakes := events.wakes + 1 })
      else
        .error .queueOverflow
  | _ => .ok (false, events)

/-- Free the slot of a claimed event and drop its queued occurrence.  The flag
says whether the event was claimed. -/
def release (events : Events) (event : EventHandle) : Bool × Events :=
  if events.isClaimed event then
    let freed := { events with
      slots := events.slots.set event.index
        { generation :=
            (getElem events.slots event.index event.index_lt).generation + 1
          state := .free }
        event.index_lt }
    (true, freed.dequeue event)
  else
    (false, events)

/-- Stop accepting occurrences of an enabled event without freeing its slot.
The flag says whether the event was enabled. -/
def abandon (events : Events) (event : EventHandle) : Bool × Events :=
  if events.isEnabled event then
    (true, (events.setState event .abandoned).dequeue event)
  else
    (false, events)

/-- Free the slot of an abandoned event.  The flag says whether the event was
abandoned. -/
def releaseAbandoned (events : Events) (event : EventHandle) :
    Bool × Events :=
  if events.state event = .abandoned then events.release event
  else (false, events)

def clearPending (events : Events) :
    List EventHandle → Except Fault Events
  | [] => .ok events
  | event :: rest =>
      if events.isEnabled event then
        (events.setState event (.enabled false)).clearPending rest
      else
        .error (.queuedNotEnabled event)

/-- Take every queued event, in the order in which they became pending. -/
def takePending (events : Events) :
    Except Fault (List EventHandle × Events) := do
  let drained := events.queue
  let events ← { events with queue := [] }.clearPending drained
  return (drained, events)

/-- Take every queued event into a buffer, which must be empty. -/
def takeInto (events : Events) (buffer : List EventHandle) :
    Except Fault (List EventHandle × Events) :=
  if buffer.isEmpty then events.takePending
  else .error .bufferNotDrained

def describe (events : Events) : String :=
  "Events \x7b queued: " ++ toString events.queued ++ ", .. \x7d"

end Events

/-- What an interrupt does to the registry. -/
inductive Interrupt
  /-- The event occurred. -/
  | occurred (event : EventHandle)
  /-- The abandoned event is given back. -/
  | givenBack (event : EventHandle)
deriving DecidableEq

namespace Events

def interrupt (events : Events) : Interrupt → Except Fault Events
  | .occurred event => do
      let (_, events) ← events.setPending event
      return events
  | .givenBack event => .ok (events.releaseAbandoned event).2

def serve (events : Events) : List Interrupt → Except Fault Events
  | [] => .ok events
  | interrupt :: rest => do
      let events ← events.interrupt interrupt
      events.serve rest

end Events

end EventScheduler
