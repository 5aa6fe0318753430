import EventScheduler.Kernel.Perform
import EventScheduler.Proofs.Task.Alive
import EventScheduler.Proofs.Task.Refines

/-!
# What can become of a kernel

Every operation on a kernel is a sequence of a few kinds of change, each with
what it requires.  An invariant of the kernel is proved change by change and
then holds after every operation; which changes an operation makes is the
subject of `EventScheduler.Proofs.Kernel.Operations`.

The tasks are spoken of through the roster that their table holds.
-/

namespace EventScheduler

variable {S : Signature}

/-- What a change of a kernel is about. -/
inductive Deed
  /-- Only the world outside or the clock changes. -/
  | quiet
  /-- A counter of the loop changes. -/
  | counts
  | starts (task : TaskHandle)
  | wakes (task : TaskHandle)
  | dies (task : TaskHandle)
  /-- The generation of an empty slot advances. -/
  | spoils (index : SlotIndex)
  | joins (task joiner : TaskHandle)
  | watches (event : EventHandle) (task : TaskHandle)
  | unwatches (event : EventHandle) (task : TaskHandle)
  | handles (event : EventHandle) (task : TaskHandle)
  /-- A handler gives up its event without dying. -/
  | resigns (event : EventHandle) (task : TaskHandle)
  | claims (event : EventHandle)
  | occurs (event : EventHandle)
  | drains
  | releases (event : EventHandle)
  | abandons (event : EventHandle)
  | givesBack (event : EventHandle)
  | reaps (task : TaskHandle)
  | promotes
  | requeues (task : TaskHandle)
  | pops (task : TaskHandle)
  | begins (task : TaskHandle)
  | ends (task : TaskHandle)
  | parks (task : TaskHandle)

namespace Kernel

def roster (kernel : Kernel S) : Roster S :=
  kernel.tasks.roster

/-- The tasks are linked as they should be. -/
structure Wellformed (kernel : Kernel S) : Prop where
  holds : kernel.tasks.Holds kernel.roster
  sound : kernel.roster.Sound

theorem roster_new [Environment S.World] (world : S.World) :
    (Kernel.new world : Kernel S).roster = .empty :=
  TaskTable.Holds.empty.roster_eq

theorem wellformed_new [Environment S.World] (world : S.World) :
    (Kernel.new world : Kernel S).Wellformed := by
  constructor <;> rw [roster_new]
  · exact .empty
  · exact .empty

/-- One change of a kernel. -/
inductive Change (kernel : Kernel S) : Deed → Kernel S → Prop
  | world (world : S.World) : Change kernel .quiet { kernel with world }
  | clock (now : Tick) : Change kernel .quiet { kernel with now }
  | count (stats : Stats) (same : stats.resumes = kernel.stats.resumes) :
      Change kernel .counts { kernel with stats }
  | start {body : S.Body} {name : Option String} {task : TaskHandle}
      {tasks : TaskTable S}
      (started : (kernel.roster.insert body name).1 = .ok task)
      (holds : tasks.Holds (kernel.roster.insert body name).2) :
      Change kernel (.starts task) { kernel with tasks }
  | wake {task : TaskHandle} {index : SlotIndex} {entry : TaskEntry S}
      {tasks : TaskTable S}
      (found : kernel.roster.find? task = some (index, entry))
      (waiting : entry.state.isWaiting = true)
      (holds : tasks.Holds (kernel.roster.wake index entry)) :
      Change kernel (.wakes task) { kernel with
        tasks
        stats := { kernel.stats with resumes := kernel.stats.resumes + 1 } }
  | die {task : TaskHandle} {exit : S.Exit} {tasks : TaskTable S}
      (alive : kernel.roster.Alive task)
      (notRunning : kernel.running ≠ some task)
      (holds : tasks.Holds
        ((kernel.roster.retire task exit).2.forgetJoiner task)) :
      Change kernel (.dies task) { kernel with
        tasks
        watchers := kernel.watchers.forget task
        handlers := kernel.handlers.forget task }
  | spoil {index : SlotIndex} {tasks : TaskTable S}
      (vacant : kernel.roster.entry index = none)
      (holds : tasks.Holds (kernel.roster.free index)) :
      Change kernel (.spoils index) { kernel with tasks }
  | join {task joiner : TaskHandle} {tasks : TaskTable S}
      (different : task ≠ joiner) (alive : kernel.roster.Alive task)
      (joinerAlive : kernel.roster.Alive joiner)
      (holds : tasks.Holds (kernel.roster.addJoiner task joiner).2) :
      Change kernel (.joins task joiner) { kernel with tasks }
  | watch {event : EventHandle} {task : TaskHandle} {added : Bool}
      {watchers : WatcherMap} (alive : kernel.roster.Alive task)
      (done : kernel.watchers.watch kernel.events event task =
        .ok (added, watchers)) :
      Change kernel (.watches event task) { kernel with watchers }
  | unwatch (event : EventHandle) (task : TaskHandle) :
      Change kernel (.unwatches event task) { kernel with
        watchers := (kernel.watchers.unwatch kernel.events event task).2 }
  | handle {event : EventHandle} {body : S.Body} {name : Option String}
      {task : TaskHandle} {tasks : TaskTable S} {added : Bool}
      {watchers : WatcherMap}
      (unhandled : kernel.handlers.get? event = none)
      (started : (kernel.roster.insert body name).1 = .ok task)
      (holds : tasks.Holds (kernel.roster.insert body name).2)
      (watched : kernel.watchers.watch kernel.events event task =
        .ok (added, watchers)) :
      Change kernel (.handles event task) { kernel with
        tasks
        watchers
        handlers := kernel.handlers.insert event task }
  | resign {event : EventHandle} {task : TaskHandle}
      (handled : kernel.handlers.get? event = some task)
      (running : kernel.running = some task) :
      Change kernel (.resigns event task) { kernel with
        handlers := kernel.handlers.forget task }
  | claim {event : EventHandle} {events : Events}
      (done : kernel.events.claim = .ok (event, events)) :
      Change kernel (.claims event) { kernel with events }
  | occur {event : EventHandle} {queued : Bool} {events : Events}
      (done : kernel.events.setPending event = .ok (queued, events)) :
      Change kernel (.occurs event) { kernel with events }
  | drain {drained : List EventHandle} {events : Events}
      (done : kernel.events.takePending = .ok (drained, events)) :
      Change kernel .drains { kernel with events }
  | release {event : EventHandle} {events : Events}
      (done : kernel.events.release event = (true, events)) :
      Change kernel (.releases event) { kernel with
        events
        watchers := (kernel.watchers.evict event).2 }
  | abandon {event : EventHandle} {events : Events}
      (done : kernel.events.abandon event = (true, events)) :
      Change kernel (.abandons event) { kernel with
        events
        watchers := (kernel.watchers.evict event).2 }
  | giveBack (event : EventHandle) :
      Change kernel (.givesBack event) { kernel with
        events := (kernel.events.releaseAbandoned event).2 }
  | reap {task : TaskHandle} {exit : S.Exit} {tasks : TaskTable S}
      (dead : (kernel.roster.reap task).1 = .ok (some exit))
      (holds : tasks.Holds (kernel.roster.reap task).2) :
      Change kernel (.reaps task) { kernel with tasks }
  | promote {tasks : TaskTable S}
      (holds : tasks.Holds (kernel.roster.promoteExpired kernel.now).2) :
      Change kernel .promotes { kernel with tasks }
  | requeue {task : TaskHandle} {tasks : TaskTable S}
      (holds : tasks.Holds (kernel.roster.requeue task)) :
      Change kernel (.requeues task) { kernel with tasks }
  | pop {task : TaskHandle} {tasks : TaskTable S}
      (first : kernel.roster.popRunnable.1 = some task)
      (holds : tasks.Holds kernel.roster.popRunnable.2) :
      Change kernel (.pops task) { kernel with tasks }
  | take {task : TaskHandle} {tasks : TaskTable S}
      (idle : kernel.running = none)
      (holds : tasks.Holds (kernel.roster.update task fun entry =>
        { entry with body := none })) :
      Change kernel (.begins task) { kernel with
        tasks
        running := some task }
  | restore {task : TaskHandle} {tasks : TaskTable S} (body : S.Body)
      (running : kernel.running = some task)
      (holds : tasks.Holds (kernel.roster.update task fun entry =>
        { entry with body := some body })) :
      Change kernel (.ends task) { kernel with
        tasks
        running := none }
  | suspend {task : TaskHandle} {tasks : TaskTable S}
      (alive : kernel.roster.Alive task)
      (holds : tasks.Holds (kernel.roster.suspend task)) :
      Change kernel (.parks task) { kernel with tasks }
  | sleep {task : TaskHandle} {tasks : TaskTable S} (deadline : Deadline)
      (alive : kernel.roster.Alive task)
      (holds : tasks.Holds (kernel.roster.sleep task deadline)) :
      Change kernel (.parks task) { kernel with tasks }

/-- Any number of changes, each of which may happen. -/
inductive Evolves (may : Deed → Prop) : Kernel S → Kernel S → Prop
  | refl (kernel : Kernel S) : Evolves may kernel kernel
  | step {first second third : Kernel S} {deed : Deed}
      (before : Evolves may first second) (change : Change second deed third)
      (allowed : may deed) : Evolves may first third

namespace Evolves

variable {may mayToo : Deed → Prop} {first second third : Kernel S}

theorem single {deed : Deed} (change : Change first deed second)
    (allowed : may deed) : Evolves may first second :=
  .step (.refl first) change allowed

theorem trans (before : Evolves may first second)
    (after : Evolves may second third) : Evolves may first third := by
  induction after with
  | refl => exact before
  | step _ change allowed ih => exact .step ih change allowed

theorem mono (evolves : Evolves may first second)
    (weaker : ∀ deed, may deed → mayToo deed) :
    Evolves mayToo first second := by
  induction evolves with
  | refl => exact .refl first
  | step _ change allowed ih => exact .step ih change (weaker _ allowed)

/-- What every change keeps, the whole sequence keeps. -/
theorem keeps {property : Kernel S → Prop}
    (each : ∀ {before after : Kernel S} {deed : Deed},
      may deed → Change before deed after → property before → property after)
    (evolves : Evolves may first second) (start : property first) :
    property second := by
  induction evolves with
  | refl => exact start
  | step _ change allowed ih => exact each allowed change ih

end Evolves

/-! ### The links -/

theorem Wellformed.of_holds {kernel : Kernel S} {roster : Roster S}
    (holds : kernel.tasks.Holds roster) (sound : roster.Sound) :
    kernel.Wellformed where
  holds := by
    unfold Kernel.roster
    rw [holds.roster_eq]
    exact holds
  sound := by
    unfold Kernel.roster
    rw [holds.roster_eq]
    exact sound

theorem Change.wellformed {before after : Kernel S} {deed : Deed}
    (change : Change before deed after) (wellformed : before.Wellformed) :
    after.Wellformed := by
  have sound := wellformed.sound
  cases change with
  | world | clock | count | watch | unwatch | resign | claim | occur | drain
  | release | abandon | giveBack => exact ⟨wellformed.holds, sound⟩
  | start started holds => exact .of_holds holds (sound.insert _ _)
  | handle unhandled started holds watched =>
      exact .of_holds holds (sound.insert _ _)
  | wake found waiting holds =>
      have present := (Roster.find?_eq_some_iff.mp found).2
      exact .of_holds holds (sound.wake present waiting)
  | die alive notRunning holds =>
      exact .of_holds holds
        ((sound.retire alive.eachNamed _).forgetJoiner _)
  | spoil vacant holds =>
      exact .of_holds holds (sound.free (Roster.isLive_of_vacant vacant))
  | join different alive joinerAlive holds =>
      exact .of_holds holds (sound.addJoiner _ _)
  | reap dead holds => exact .of_holds holds (sound.reap _)
  | promote holds => exact .of_holds holds (sound.promoteExpired _)
  | requeue holds => exact .of_holds holds (sound.requeue _)
  | pop first holds => exact .of_holds holds sound.popRunnable
  | take idle holds => exact .of_holds holds (sound.update _ fun _ => rfl)
  | restore body running holds =>
      exact .of_holds holds (sound.update _ fun _ => rfl)
  | suspend alive holds => exact .of_holds holds (sound.suspend alive.eachNamed)
  | sleep deadline alive holds =>
      exact .of_holds holds (sound.sleep alive.eachNamed deadline)

theorem Evolves.wellformed {may : Deed → Prop} {before after : Kernel S}
    (evolves : Evolves may before after) (wellformed : before.Wellformed) :
    after.Wellformed :=
  evolves.keeps (fun _ change => change.wellformed) wellformed

end Kernel

end EventScheduler
