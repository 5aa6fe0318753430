import EventScheduler.Environment
import EventScheduler.Error
import EventScheduler.Event.Registry
import EventScheduler.Event.Tables
import EventScheduler.Fault
import EventScheduler.Handle
import EventScheduler.HandlerTask
import EventScheduler.Kernel.Basic
import EventScheduler.Kernel.Kill
import EventScheduler.Kernel.Perform
import EventScheduler.Program
import EventScheduler.Proofs.Deadline
import EventScheduler.Proofs.Event.Abandoned
import EventScheduler.Proofs.Event.Occurrences
import EventScheduler.Proofs.Event.Queue
import EventScheduler.Proofs.Event.Registry
import EventScheduler.Proofs.Event.Slots
import EventScheduler.Proofs.Event.Tables
import EventScheduler.Proofs.HandlerTask
import EventScheduler.Proofs.Kernel.Blocked
import EventScheduler.Proofs.Kernel.Bodies
import EventScheduler.Proofs.Kernel.Changes
import EventScheduler.Proofs.Kernel.Entries
import EventScheduler.Proofs.Kernel.Faults
import EventScheduler.Proofs.Kernel.Lines
import EventScheduler.Proofs.Kernel.Operations
import EventScheduler.Proofs.Kernel.Placement
import EventScheduler.Proofs.Kernel.Places
import EventScheduler.Proofs.Kernel.Refusals
import EventScheduler.Proofs.Kernel.Relations
import EventScheduler.Proofs.Kernel.Requests
import EventScheduler.Proofs.Kernel.Rouses
import EventScheduler.Proofs.Kernel.Slots
import EventScheduler.Proofs.Kernel.Tallies
import EventScheduler.Proofs.Kernel.Waiting
import EventScheduler.Proofs.Kernel.Watching
import EventScheduler.Proofs.Marked
import EventScheduler.Proofs.Scheduler.Abandoned
import EventScheduler.Proofs.Scheduler.Aside
import EventScheduler.Proofs.Scheduler.Blocked
import EventScheduler.Proofs.Scheduler.Bodies
import EventScheduler.Proofs.Scheduler.CleansUp
import EventScheduler.Proofs.Scheduler.Closes
import EventScheduler.Proofs.Scheduler.Deaths
import EventScheduler.Proofs.Scheduler.Deeds
import EventScheduler.Proofs.Scheduler.Dispatch
import EventScheduler.Proofs.Scheduler.Fairness
import EventScheduler.Proofs.Scheduler.Faults
import EventScheduler.Proofs.Scheduler.Generations
import EventScheduler.Proofs.Scheduler.GivingUp
import EventScheduler.Proofs.Scheduler.Handlers
import EventScheduler.Proofs.Scheduler.Handling
import EventScheduler.Proofs.Scheduler.Heeding
import EventScheduler.Proofs.Scheduler.Joining
import EventScheduler.Proofs.Scheduler.Line
import EventScheduler.Proofs.Scheduler.Moves
import EventScheduler.Proofs.Scheduler.Nesting
import EventScheduler.Proofs.Scheduler.Order
import EventScheduler.Proofs.Scheduler.Pace
import EventScheduler.Proofs.Scheduler.Placement
import EventScheduler.Proofs.Scheduler.Refusals
import EventScheduler.Proofs.Scheduler.Relations
import EventScheduler.Proofs.Scheduler.Releases
import EventScheduler.Proofs.Scheduler.Shutdown
import EventScheduler.Proofs.Scheduler.Sleepers
import EventScheduler.Proofs.Scheduler.Sleeps
import EventScheduler.Proofs.Scheduler.Slots
import EventScheduler.Proofs.Scheduler.Stale
import EventScheduler.Proofs.Scheduler.Sweep
import EventScheduler.Proofs.Scheduler.Tallies
import EventScheduler.Proofs.Scheduler.Threads
import EventScheduler.Proofs.Scheduler.Transitions
import EventScheduler.Proofs.Scheduler.Turns
import EventScheduler.Proofs.Scheduler.Upkeep
import EventScheduler.Proofs.Scheduler.Watching
import EventScheduler.Proofs.Task.Belongings
import EventScheduler.Proofs.Task.Entries
import EventScheduler.Proofs.Task.Holds
import EventScheduler.Proofs.Task.Links
import EventScheduler.Proofs.Task.Operations
import EventScheduler.Proofs.Task.Refinement
import EventScheduler.Proofs.Task.Refines
import EventScheduler.Proofs.Task.Roster
import EventScheduler.Proofs.Task.Sequences
import EventScheduler.Proofs.Task.Sets
import EventScheduler.Proofs.Task.Sound
import EventScheduler.Proofs.VirtualClock
import EventScheduler.Scenario.Body
import EventScheduler.Scenario.Script
import EventScheduler.Scenario.Session
import EventScheduler.Scenario.World
import EventScheduler.Scheduler.Basic
import EventScheduler.Scheduler.Machine
import EventScheduler.Scheduler.Operations
import EventScheduler.Task.Set
import EventScheduler.Task.State
import EventScheduler.Task.Table
import EventScheduler.Time
import EventScheduler.VirtualClock
