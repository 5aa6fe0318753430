import EventScheduler.Program

/-!
# Handler tasks as bodies

The usual shape of a driver is one task per event that runs a callback after
each occurrence and goes back to sleep.  `HandlerTask` is that loop; a body
holds one and forwards its slices and its close to it.
-/

namespace EventScheduler

/-- The callbacks of a handler task. -/
class EventHandler (S : Signature) (Callbacks : Type) where
  /-- Runs in every slice, which is normally an occurrence of the event.  A
  failure ends the task. -/
  handle : Callbacks → Program S (Except S.Failure Unit × Callbacks)
  /-- Runs once when the task is killed or fails, after it has stopped watching
  the event. -/
  done : Callbacks → Program S Callbacks

/-- A loop that calls back for every occurrence of one event. -/
structure HandlerTask (Callbacks : Type) where
  /-- The event. -/
  event : EventHandle
  /-- The callbacks with what they remember. -/
  callbacks : Callbacks
  /-- Whether the task has ended. -/
  finished : Bool

namespace HandlerTask

variable {S : Signature} {Callbacks : Type} [EventHandler S Callbacks]

def new (event : EventHandle) (callbacks : Callbacks) :
    HandlerTask Callbacks :=
  { event, callbacks, finished := false }

def finish (loop : HandlerTask Callbacks) :
    Program S (HandlerTask Callbacks) :=
  if loop.finished then
    pure loop
  else do
    let _ ← (Request.unwatch loop.event).send
    let callbacks ← EventHandler.done loop.callbacks
    return { loop with callbacks, finished := true }

/-- Call back, then block until the next occurrence. -/
def resume (loop : HandlerTask Callbacks) :
    Program S (S.Step × HandlerTask Callbacks) := do
  let (result, callbacks) ← EventHandler.handle loop.callbacks
  let loop := { loop with callbacks }
  match result with
  | .ok () => return (.suspend, loop)
  | .error failure =>
      let loop ← loop.finish
      return (.fail failure, loop)

def close (loop : HandlerTask Callbacks) :
    Program S (HandlerTask Callbacks) :=
  loop.finish

end HandlerTask

end EventScheduler
