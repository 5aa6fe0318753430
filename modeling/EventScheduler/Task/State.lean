import EventScheduler.Time

/-!
# Task states

A live task is active, suspended, or asleep until a deadline.  One that is not
running is on one of two lists, or on none while it waits to be resumed.  A
slice of a task ends with a step, which says how the task gave control back,
and a task ends with an exit.  An application chooses what its tasks return or
fail with.
-/

namespace EventScheduler

/-- How a task ended. -/
inductive Exit (Output Failure : Type)
  | returned (value : Output)
  | failed (failure : Failure)
  | cancelled
deriving DecidableEq, Inhabited

def Exit.name {Output Failure : Type} : Exit Output Failure → String
  | .returned _ => "returned"
  | .failed _ => "failed"
  | .cancelled => "cancelled"

/-- What a task slot is doing. -/
inductive TaskState (Output Failure : Type)
  /-- Running, or waiting in the run queue. -/
  | active
  /-- Blocked until it is resumed. -/
  | suspended
  /-- Blocked until the deadline passes or until it is resumed. -/
  | timer (deadline : Deadline)
  | dead (exit : Exit Output Failure)
deriving DecidableEq, Inhabited

namespace TaskState

variable {Output Failure : Type}

def isDead : TaskState Output Failure → Bool
  | .dead _ => true
  | _ => false

def isWaiting : TaskState Output Failure → Bool
  | .suspended | .timer _ => true
  | .active | .dead _ => false

end TaskState

/-- One of the two lists that run through the task slots. -/
inductive TaskList
  /-- Tasks that are ready to run, first in, first out. -/
  | run
  /-- Sleeping tasks by ascending deadline. -/
  | timer
deriving DecidableEq, Inhabited

def TaskList.name : TaskList → String
  | .run => "Run"
  | .timer => "Timer"

/-- What a body reports when it gives control back. -/
inductive Step (Output Failure : Type)
  /-- Stay active and run again after every other runnable task. -/
  | yield
  | suspend
  /-- Block until the deadline passes or until resumed. -/
  | sleep (deadline : Deadline)
  | finish (value : Output)
  | fail (failure : Failure)
  /-- End with a value, kill every other live task and stop the loop. -/
  | shutdown (value : Output)
deriving DecidableEq, Inhabited

/-- Block until the deadline, if there is one and it ever passes. -/
def Step.park {Output Failure : Type} :
    Option Deadline → Step Output Failure
  | some deadline => if deadline.isNever then .suspend else .sleep deadline
  | none => .suspend

/-- The answer of an operation that may have to be tried again later. -/
inductive Readiness (α : Type)
  | pending
  | ready (value : α)
deriving DecidableEq, Inhabited

/-- The types that an application chooses. -/
structure Signature where
  /-- What a task remembers from one slice to the next. -/
  Body : Type
  Output : Type
  Failure : Type
  /-- What lies outside the scheduler: the clock, devices, shared data. -/
  World : Type
  /-- What a condition that a task waits for may answer. -/
  Answer : Type

namespace Signature

abbrev Exit (S : Signature) : Type :=
  EventScheduler.Exit S.Output S.Failure

abbrev State (S : Signature) : Type :=
  EventScheduler.TaskState S.Output S.Failure

abbrev Step (S : Signature) : Type :=
  EventScheduler.Step S.Output S.Failure

end Signature

end EventScheduler
