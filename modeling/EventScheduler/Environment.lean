import EventScheduler.Event.Registry
import EventScheduler.Time

/-!
# The environment of a scheduler

The scheduler reads a clock, sleeps when nothing is left to do, and keeps a
record of what it does.  All three belong to the world outside.
-/

namespace EventScheduler

/-- One fact that the scheduler puts on record. -/
inductive Record
  /-- A task was started, under a name or without one. -/
  | started (task : TaskHandle) (name : Option String)
  | killed (task : TaskHandle)
  /-- A task died; `ending` is the word for how. -/
  | died (task : TaskHandle) (ending : String)
  | handles (task : TaskHandle) (event : EventHandle)
  /-- An event was released while some tasks watched it. -/
  | evicted (event : EventHandle) (watchers : Nat)
  /-- A task tried to wait on an event that is not enabled. -/
  | waitsOnDisabled (task : TaskHandle) (event : EventHandle)
  /-- The loop ended because no task was live. -/
  | noLiveTasks
  | runs (task : TaskHandle)
  | failed (task : TaskHandle)
  /-- A task asked for the loop to stop. -/
  | shutdownRequested (task : TaskHandle)
  /-- A drained event is about to resume its watchers. -/
  | dispatches (event : EventHandle)
  /-- The scheduler is about to sleep. -/
  | idles (deadline : Deadline)
deriving DecidableEq

namespace Record

def level : Record → String
  | .runs _ | .dispatches _ | .idles _ => "TRACE"
  | .failed _ => "WARN"
  | _ => "DEBUG"

def text : Record → String
  | .started task name =>
      let shown := name.getD "-"
      s!"start {task} ({shown})"
  | .killed task => s!"kill {task}"
  | .died task ending => s!"{task} dead ({ending})"
  | .handles task event => s!"{task} handles {event}"
  | .evicted event watchers =>
      s!"{event} released with {watchers} watcher(s)"
  | .waitsOnDisabled task event => s!"{task} waits on disabled {event}"
  | .noLiveTasks => "no live tasks"
  | .runs task => s!"run {task}"
  | .failed task => s!"{task} failed"
  | .shutdownRequested task => s!"shutdown requested by {task}"
  | .dispatches event => s!"dispatch {event}"
  | .idles deadline => s!"idle until {deadline}"

end Record

/-- How a sleep of the processor ends. -/
inductive Wakeup (World : Type)
  | due (world : World)
  /-- The interrupts woke the processor; with none, it woke by itself. -/
  | woken (world : World) (interrupts : List Interrupt)
  /-- Nothing will ever wake the processor. -/
  | stalled (world : World)

def Wakeup.map {First Second : Type} (change : First → Second) :
    Wakeup First → Wakeup Second
  | .due world => .due (change world)
  | .woken world interrupts => .woken (change world) interrupts
  | .stalled world => .stalled (change world)

/-- What the scheduler needs of the world outside. -/
class Environment (World : Type) where
  now : World → Tick
  /-- Sleep until the deadline, or until something wakes the processor. -/
  sleepUntil : World → Deadline → Wakeup World
  record : Record → World → World

end EventScheduler
