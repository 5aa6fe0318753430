/-!
# Errors

An error is reported to the caller of an operation.  It means that a table is
full or that the operation was misused, so the same call fails again.
-/

namespace EventScheduler

/-- Why an operation was refused. -/
inductive Error
  /-- Every event slot is claimed. -/
  | noEventSlots
  /-- The cell to claim into still holds a live claim. -/
  | eventAlreadyClaimed
  /-- The event to watch or to wait on is not enabled. -/
  | eventDisabled
  /-- The watcher set of the event is full. -/
  | tooManyWatchers
  /-- Every task slot holds a live task or a dead one that was not reaped. -/
  | noTaskSlots
  /-- The handle names a task slot that was reaped since. -/
  | staleTask
  /-- The operation needs a live task. -/
  | deadTask
  /-- A task asked for its own death. -/
  | selfKill
  /-- A task asked to join itself. -/
  | selfJoin
  /-- The joiner set of the task is full. -/
  | tooManyJoiners
  /-- The event already has a live handler task. -/
  | alreadyHandled
deriving DecidableEq, Inhabited

namespace Error

def all : List Error :=
  [.noEventSlots, .eventAlreadyClaimed, .eventDisabled, .tooManyWatchers,
    .noTaskSlots, .staleTask, .deadTask, .selfKill, .selfJoin,
    .tooManyJoiners, .alreadyHandled]

def name : Error → String
  | .noEventSlots => "NoEventSlots"
  | .eventAlreadyClaimed => "EventAlreadyClaimed"
  | .eventDisabled => "EventDisabled"
  | .tooManyWatchers => "TooManyWatchers"
  | .noTaskSlots => "NoTaskSlots"
  | .staleTask => "StaleTask"
  | .deadTask => "DeadTask"
  | .selfKill => "SelfKill"
  | .selfJoin => "SelfJoin"
  | .tooManyJoiners => "TooManyJoiners"
  | .alreadyHandled => "AlreadyHandled"

def message : Error → String
  | .noEventSlots => "no events available"
  | .eventAlreadyClaimed => "event already claimed"
  | .eventDisabled => "watching disabled event"
  | .tooManyWatchers => "too many watchers for one event"
  | .noTaskSlots => "no task slots available"
  | .staleTask => "stale task handle"
  | .deadTask => "task is dead"
  | .selfKill => "task cannot kill itself"
  | .selfJoin => "task cannot join itself"
  | .tooManyJoiners => "too many joiners for one task"
  | .alreadyHandled => "event already has a handler"

def ofName? (name : String) : Option Error :=
  all.find? fun error => error.name == name

instance : ToString Error := ⟨message⟩

end Error

end EventScheduler
