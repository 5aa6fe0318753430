import EventScheduler.Handle
import EventScheduler.Task.State

/-!
# Scripts

A scenario is a list of commands to a scheduler, and the bodies of its tasks
are scripts.  Both refer to tasks, events and counters by names of their own,
which are looked up when they are used.
-/

namespace EventScheduler.Scenario

/-- A deadline as a script writes it. -/
inductive Moment
  /-- A deadline that does not depend on when it is read. -/
  | fixed (deadline : Deadline)
  /-- A number of ticks after it is read. -/
  | after (count : UInt64)
deriving DecidableEq

def Moment.deadline (now : Tick) : Moment → Deadline
  | .fixed deadline => deadline
  | .after count => .after now count

/-- An instruction that gives control back. -/
inductive Pause
  /-- Go behind every other runnable task. -/
  | yield
  | suspend
  /-- Block until a deadline or until resumed. -/
  | sleep (moment : Moment)
  /-- Block until a deadline, if there is one, or until resumed. -/
  | park (moment : Option Moment)
  | finish (value : Int)
  | fail (text : String)
  /-- End with a value and stop the loop. -/
  | shutdown (value : Int)
deriving DecidableEq

def Pause.step (now : Tick) : Pause → Step Int String
  | .yield => .yield
  | .suspend => .suspend
  | .sleep moment => .sleep (moment.deadline now)
  | .park moment => .park (moment.map (Moment.deadline now))
  | .finish value => .finish value
  | .fail text => .fail text
  | .shutdown value => .shutdown value

/-- A condition to wait for. -/
inductive Condition
  | never
  /-- It holds at once and answers a number. -/
  | always (answer : Int)
  /-- The clock has reached a tick. -/
  | clock (tick : Tick)
  /-- A counter has reached a value. -/
  | atLeast (counter : String) (least : Int)
deriving DecidableEq

mutual

inductive Script
  /-- The body that the scenario keeps under a name. -/
  | stored (name : String)
  /-- Pauses to go through, one in each slice, and the value that follows. -/
  | pauses (name : Option String) (pauses : List Pause) (value : Int)
  /-- The handler task of an event.  Each call has actions and may fail; `twice`
  makes a close run twice. -/
  | handler (name : Option String) (event : String)
      (calls : List (List Action × Option String)) (done : List Action)
      (twice : Bool)
  /-- A list of instructions to go through a number of times, and the actions
  of its close. -/
  | routine (name : Option String) (code : List Instruction)
      (repeats : Nat) (close : Option (List Action))

/-- What tasks can do, and what can be done from outside them. -/
inductive Operation
  | start (task : String) (script : Script)
  | resume (task : String)
  | kill (task : String)
  | join (task : String)
  | alive (task : String)
  | waiting (task : String)
  | state (task : String)
  | name (task : String)
  | claim (event : String)
  /-- Claim an event for the cell of that name. -/
  | claimInto (event : String)
  | release (event : String)
  | abandon (event : String)
  | releaseAbandoned (event : String)
  | setPending (event : String)
  | setPendingAll (events : List String)
  | enabled (event : String)
  | pending (event : String)
  | queued
  | handler (event : String)
  | stopHandler (event : String)
  | now
  | advance (count : UInt64)
  | setClock (tick : Tick)
  | set (counter : String) (value : Int)
  | add (counter : String) (value : Int)

/-- What a task can do without giving control back. -/
inductive Action
  | operation (operation : Operation)
  /-- The handle of the task itself. -/
  | current
  /-- The deadline some ticks from now. -/
  | after (count : UInt64)
  | handle (event task : String) (script : Script)
  | watch (event : String)
  | unwatch (event : String)
  /-- Try once to get an answer to a condition, or else watch the events. -/
  | waitOnce (events : List String) (moment : Moment) (condition : Condition)

inductive Instruction
  | pause (pause : Pause)
  | act (action : Action)
  /-- Block until a task is dead. -/
  | joinWait (task : String)
  /-- Block until a condition has an answer or a deadline passes. -/
  | wait (events : List String) (moment : Moment) (condition : Condition)

end

def Operation.word : Operation → String
  | .start _ _ => "start"
  | .resume _ => "resume"
  | .kill _ => "kill"
  | .join _ => "join"
  | .alive _ => "alive"
  | .waiting _ => "waiting"
  | .state _ => "state"
  | .name _ => "name"
  | .claim _ => "claim"
  | .claimInto _ => "claim_into"
  | .release _ => "release"
  | .abandon _ => "abandon"
  | .releaseAbandoned _ => "release_abandoned"
  | .setPending _ => "set_pending"
  | .setPendingAll _ => "set_pending_in"
  | .enabled _ => "enabled"
  | .pending _ => "pending"
  | .queued => "queued"
  | .handler _ => "handler"
  | .stopHandler _ => "stop_handler"
  | .now => "now"
  | .advance _ => "advance"
  | .setClock _ => "clock"
  | .set _ _ => "set"
  | .add _ _ => "add"

def Action.word : Action → String
  | .operation shared => shared.word
  | .current => "current"
  | .after _ => "after"
  | .handle _ _ _ => "handle"
  | .watch _ => "watch"
  | .unwatch _ => "unwatch"
  | .waitOnce _ _ _ => "wait_once"

/-- What is done to a scheduler from outside its tasks. -/
inductive Command
  | operation (operation : Operation)
  /-- The task whose slice is running. -/
  | current
  | live
  | reap (task : String)
  | handle (event task : String) (script : Script)
  | watch (event task : String)
  | unwatch (event task : String)
  /-- Script an interrupt. -/
  | interrupt (tick : Tick) (event : String)
  /-- Make up a task handle. -/
  | forge (task : String) (handle : TaskHandle)
  /-- Start, kill and reap a task a number of times. -/
  | churnTask (count : Nat)
  /-- Claim and release an event a number of times. -/
  | churnEvent (count : Nat)
  | run

end EventScheduler.Scenario
