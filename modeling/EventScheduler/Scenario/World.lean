import EventScheduler.Scenario.Script
import EventScheduler.VirtualClock

/-!
# The world of a scenario

The bodies of a scenario share a virtual clock, the names that were given to
handles, integer counters, and the notes that tell what happened.
-/

namespace EventScheduler.Scenario

abbrev Exit : Type := EventScheduler.Exit Int String

abbrev State : Type := EventScheduler.TaskState Int String

inductive Ending
  | shutdown (value : Int)
  /-- No task was live. -/
  | done
  /-- Nothing would ever have woken the scheduler. -/
  | idle
deriving DecidableEq

/-- What an operation of a scenario answers. -/
inductive Reply
  /-- It named something that has no handle. -/
  | unbound
  /-- It has nothing to say. -/
  | nothing
  | accepted
  | refused (error : Error)
  | flag (flag : Bool)
  /-- Yes or no for each of several events, some of which have no handle. -/
  | flags (flags : List (Option Bool))
  | count (count : Nat)
  | task (task : Option TaskHandle)
  | event (event : Option EventHandle)
  | tick (tick : Tick)
  | deadline (deadline : Deadline)
  | text (text : Option String)
  | state (state : State)
  /-- How a task ended, if it has been reaped. -/
  | exit (exit : Option Exit)
  /-- How a task ended, or that it is live. -/
  | joined (outcome : Readiness Exit)
  /-- The answer of a condition, or that the deadline passed. -/
  | waited (outcome : Readiness (Option String))
  /-- How the loop ended, and the deadlines it slept for. -/
  | ran (ending : Ending) (sleeps : List Deadline)
  /-- It took more steps than it was given. -/
  | unfinished
deriving DecidableEq

inductive Note
  | record (fact : Record)
  /-- A routine begins a slice. -/
  | turn (task : TaskHandle) (now : Tick)
  | close (task : TaskHandle) (now : Tick)
  /-- A handler task is called for the given time. -/
  | call (task : TaskHandle) (event : EventHandle) (count : Nat)
  | done (task : TaskHandle) (now : Tick)
  /-- A task did something. -/
  | reply (task : TaskHandle) (word : String) (reply : Reply)
deriving DecidableEq

abbrev Bindings (α : Type) : Type := List (String × α)

/-- Put a value under a name, in place of any other. -/
def Bindings.bind {α : Type} (bindings : Bindings α) (name : String)
    (value : α) : Bindings α :=
  (name, value) :: bindings.filter fun (other, _) => other != name

/-- What the bodies of a scenario share. -/
structure World where
  clock : VirtualClock
  /-- The tasks that have a name. -/
  tasks : Bindings TaskHandle
  /-- The events that have a name. -/
  events : Bindings EventHandle
  /-- The counters that were set. -/
  counters : Bindings Int
  /-- The scripts that have a name. -/
  scripts : Bindings Script
  /-- Whether facts put on record become notes. -/
  recording : Bool
  /-- What happened, latest first. -/
  notes : List Note

namespace World

def note (world : World) (note : Note) : World :=
  { world with notes := note :: world.notes }

def bindTask (world : World) (name : String) (task : TaskHandle) : World :=
  { world with tasks := world.tasks.bind name task }

/-- The task of a name.  The name `self` stands for the task that asks, and for
no task if the question comes from outside the tasks. -/
def findTask (world : World) (asking : Option TaskHandle) (name : String) :
    Option TaskHandle :=
  if name = "self" then asking else world.tasks.lookup name

def bindEvent (world : World) (name : String) (event : EventHandle) : World :=
  { world with events := world.events.bind name event }

/-- The value of a counter; it is zero until it is set. -/
def counter (world : World) (name : String) : Int :=
  (world.counters.lookup name).getD 0

def setCounter (world : World) (name : String) (value : Int) : World :=
  { world with counters := world.counters.bind name value }

def setNow (world : World) (now : Tick) : World :=
  { world with clock := { world.clock with now } }

def answer? (world : World) : Condition → Option String
  | .never => none
  | .always answer => some (toString answer)
  | .clock tick =>
      let now := world.clock.now
      if tick.ticks ≤ now.ticks then some (toString now.ticks) else none
  | .atLeast name least =>
      let value := world.counter name
      if least ≤ value then some (toString value) else none

end World

instance : Environment World where
  now world := world.clock.now
  sleepUntil world deadline :=
    (world.clock.sleepUntil deadline).map fun clock => { world with clock }
  record fact world :=
    if world.recording then world.note (.record fact) else world

end EventScheduler.Scenario
