import EventScheduler.Environment

/-!
# A virtual clock

A clock that stands still while tasks run.  Sleeping moves it straight to the
next scripted interrupt or to the deadline, whichever comes first.
-/

namespace EventScheduler

/-- A clock with the interrupts that are still to come. -/
structure VirtualClock where
  /-- The current time. -/
  now : Tick
  /-- The scripted interrupts by time; of two at one time, the one that was
  scripted first is first. -/
  interrupts : List (Tick × EventHandle)
  /-- Every deadline that was slept for, latest first. -/
  sleeps : List Deadline
deriving DecidableEq

namespace VirtualClock

def startingAt (now : Tick) : VirtualClock where
  now := now
  interrupts := []
  sleeps := []

/-- Insert an interrupt behind those that are not later. -/
def insertInterrupt (tick : Tick) (event : EventHandle) :
    List (Tick × EventHandle) → List (Tick × EventHandle)
  | [] => [(tick, event)]
  | (other, queued) :: rest =>
      if other.ticks ≤ tick.ticks then
        (other, queued) :: insertInterrupt tick event rest
      else
        (tick, event) :: (other, queued) :: rest

/-- Script an interrupt that raises `event` at the given time, or as soon as
the scheduler sleeps after it. -/
def interruptAt (clock : VirtualClock) (tick : Tick) (event : EventHandle) :
    VirtualClock :=
  { clock with interrupts := insertInterrupt tick event clock.interrupts }

/-- Move on to a time, unless it has passed. -/
def moveTo (clock : VirtualClock) (tick : Tick) : VirtualClock :=
  { clock with now := clock.now.max tick }

/-- Sleep until the deadline or the next interrupt, whichever comes first.  An
interrupt at the deadline comes too late. -/
def sleepUntil (clock : VirtualClock) (deadline : Deadline) :
    Wakeup VirtualClock :=
  let clock := { clock with sleeps := deadline :: clock.sleeps }
  let rest : Wakeup VirtualClock :=
    match deadline.tick? with
    | some due => .due (clock.moveTo due)
    | none => .stalled clock
  match clock.interrupts with
  | [] => rest
  | (tick, event) :: interrupts =>
      if deadline.tick?.all fun due => tick.ticks < due.ticks then
        .woken ({ clock with interrupts }.moveTo tick) [.occurred event]
      else
        rest

end VirtualClock

end EventScheduler
