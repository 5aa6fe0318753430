import EventScheduler.Proofs.Scheduler.Faults
import EventScheduler.Proofs.VirtualClock
import EventScheduler.Scenario.World

/-!
# How often a dispatch sleeps

The loop of a dispatch has no counter.  On a platform with a virtual clock it
ends all the same: each sleep uses up an interrupt, or it lasts until the
deadline, and then the next round sees that the deadline has passed.  If neither
is possible, the loop sleeps for ever.
-/

namespace EventScheduler

/-- A platform on which time is that of a virtual clock. -/
structure VirtualPlatform (World : Type) [Environment World] where
  clock : World → VirtualClock
  setClock : World → VirtualClock → World
  now (world : World) : Environment.now world = (clock world).now
  sleepUntil (world : World) (deadline : Deadline) :
    Environment.sleepUntil world deadline =
      ((clock world).sleepUntil deadline).map (setClock world)
  clock_setClock (world : World) (other : VirtualClock) :
    clock (setClock world other) = other
  /-- Nothing that is put on record takes time. -/
  clock_record (fact : Record) (world : World) :
    clock (Environment.record fact world) = clock world

def Scenario.World.platform : VirtualPlatform Scenario.World where
  clock world := world.clock
  setClock world clock := { world with clock }
  now _ := rfl
  sleepUntil _ _ := rfl
  clock_setClock _ _ := rfl
  clock_record fact world := by
    change (if world.recording then world.note (.record fact)
      else world).clock = world.clock
    split <;> rfl

variable {S : Signature}

/-! ### Draining -/

namespace Kernel

variable {kernel next : Kernel S} {woke : Bool}

structure Drained [Environment S.World] (platform : VirtualPlatform S.World)
    (kernel next : Kernel S) : Prop where
  wellformed : next.Wellformed
  consistent : next.events.Consistent
  queue : next.events.queue = []
  clock : platform.clock next.world = platform.clock kernel.world
  now : next.now = (platform.clock kernel.world).now
  waits : next.stats.waits = kernel.stats.waits

private theorem world_eq_of_wakes (wakes : Evolves Deed.Wakes kernel next) :
    next.world = kernel.world ∧ next.events = kernel.events ∧
      next.stats.waits = kernel.stats.waits := by
  induction wakes with
  | refl => exact ⟨rfl, rfl, rfl⟩
  | step before change allowed ih =>
      obtain ⟨task, rfl⟩ := allowed
      cases change
      exact ih

variable [Environment S.World] (platform : VirtualPlatform S.World)

/-- To go through events takes no time and makes none pending. -/
private theorem clock_dispatchAll (wellformed : kernel.Wellformed)
    {events : List EventHandle}
    (done : kernel.dispatchAll events = .ok (woke, next)) :
    platform.clock next.world = platform.clock kernel.world ∧
      next.events = kernel.events ∧
      next.stats.waits = kernel.stats.waits := by
  induction events generalizing kernel woke with
  | nil =>
      cases done
      exact ⟨rfl, rfl, rfl⟩
  | cons event rest ih =>
      unfold dispatchAll at done
      obtain ⟨⟨first, middle⟩, resumed, later⟩ := exists_ok_of_bind done
      obtain ⟨⟨_, last⟩, dispatched, ended⟩ := exists_ok_of_bind later
      cases ended
      have recorded : (kernel.record (.dispatches event)).Wellformed :=
        ⟨wellformed.holds, wellformed.sound⟩
      have wakes := resumeAll_evolves recorded resumed
      obtain ⟨world, same, waits⟩ := world_eq_of_wakes wakes
      obtain ⟨clock, sameToo, waitsToo⟩ :=
        ih (wakes.wellformed recorded) dispatched
      refine ⟨?_, sameToo.trans same, waitsToo.trans waits⟩
      rw [clock, world]
      exact platform.clock_record _ _

/-- Pending events can be drained, and none is left. -/
private theorem exists_drained (wellformed : kernel.Wellformed)
    (consistent : kernel.events.Consistent) :
    ∃ woke next, kernel.drain [] = .ok (woke, next) ∧
      kernel.Drained platform next := by
  obtain ⟨⟨woke, next⟩, done⟩ :=
    (drain_faultsOnly wellformed consistent).exists_ok
  have evolves := drain_evolves wellformed done
  have wellformedToo := evolves.wellformed wellformed
  have consistentToo := evolves.consistent consistent
  obtain ⟨events, taken, turnover⟩ := Events.exists_ok_of_takePending consistent
  have emptied : ({ kernel with events } : Kernel S).Wellformed :=
    ⟨wellformed.holds, wellformed.sound⟩
  have opened := done
  unfold drain at opened
  obtain ⟨⟨drained, left⟩, takenToo, later⟩ := exists_ok_of_bind opened
  rw [show kernel.events.takeInto [] = _ from taken] at takenToo
  cases takenToo
  obtain ⟨⟨_, middle⟩, dispatched, ended⟩ := exists_ok_of_bind later
  cases ended
  obtain ⟨clock, same, waits⟩ := clock_dispatchAll platform emptied dispatched
  refine ⟨_, _, done, wellformedToo, consistentToo, ?_, clock, ?_, waits⟩
  · change middle.events.queue = []
    rw [same]
    change events.queue = []
    rw [turnover.queue]
    simp
  · change Environment.now middle.world = _
    rw [platform.now, clock]

end Kernel

/-- One event fits on an empty queue. -/
private theorem Events.exists_ok_of_serve {events : Events}
    (consistent : events.Consistent) (empty : events.queue = [])
    (event : EventHandle) :
    ∃ next, events.serve [.occurred event] = .ok next ∧ next.Consistent := by
  cases done : events.setPending event with
  | error fault =>
      have full := (setPending_error_iff.mp done).2.2.2
      rw [empty] at full
      exact absurd full (by decide)
  | ok result =>
      obtain ⟨queued, next⟩ := result
      refine ⟨next, ?_, consistent.turnover (setPending_turnover done)⟩
      unfold serve interrupt
      dsimp only
      rw [done]
      rfl

/-! ### The steps of a dispatch -/

namespace Machine

variable [Application S] (platform : VirtualPlatform S.World)
  {machine : Machine S} {deadline : Deadline} {woke : Bool} {steps naps : Nat}

def clock (machine : Machine S) : VirtualClock :=
  platform.clock machine.kernel.world

structure Ready (machine : Machine S) : Prop where
  wellformed : machine.kernel.Wellformed
  consistent : machine.kernel.events.Consistent
  drained : machine.drained = []

/-- A drain ends the dispatch, or the loop is about to sleep and the deadline
has not passed. -/
private theorem Ready.drains (ready : machine.Ready)
    (control : machine.control = .dispatch deadline woke) :
    machine.step.Ready ∧ machine.step.clock platform = machine.clock platform ∧
      ((machine.step.control = .pick ∧
          machine.step.kernel.stats.waits = machine.kernel.stats.waits) ∨
        (machine.step.control = .sleep deadline ∧
          machine.step.kernel.events.queue = [] ∧
          deadline.reached (machine.clock platform).now = false ∧
          machine.step.kernel.stats.waits =
            machine.kernel.stats.waits + 1)) := by
  obtain ⟨wellformed, consistent, empty⟩ := ready
  obtain ⟨resumed, next, done, drained⟩ :=
    Kernel.exists_drained platform wellformed consistent
  have nextWellformed := drained.wellformed
  unfold step advance
  rw [control]
  dsimp only
  rw [empty, bind_of_ok done]
  dsimp only
  by_cases ended : (woke || resumed || deadline.reached next.now) = true
  · rw [if_pos ended]
    exact ⟨⟨drained.wellformed, drained.consistent, rfl⟩, drained.clock,
      Or.inl ⟨rfl, drained.waits⟩⟩
  · rw [if_neg ended]
    have early : deadline.reached next.now = false := by
      cases reached : deadline.reached next.now with
      | false => rfl
      | true => simp [reached] at ended
    rw [drained.now] at early
    refine ⟨⟨⟨nextWellformed.holds, nextWellformed.sound⟩,
      drained.consistent, rfl⟩, ?_,
      Or.inr ⟨rfl, drained.queue, early, congrArg (· + 1) drained.waits⟩⟩
    exact (platform.clock_record _ _).trans drained.clock

/-- A sleep moves the clock.  One interrupt at a time cannot make the queue
overflow, because it has just been drained. -/
private theorem Ready.sleeps (ready : machine.Ready)
    (control : machine.control = .sleep deadline)
    (empty : machine.kernel.events.queue = []) :
    machine.step.Ready ∧
      machine.step.kernel.stats.waits = machine.kernel.stats.waits ∧
      machine.step.clock platform =
        ((machine.clock platform).sleepUntil deadline).world ∧
      machine.step.control =
        match (machine.clock platform).sleepUntil deadline with
        | .stalled _ => .stalled
        | _ => .dispatch deadline false := by
  obtain ⟨wellformed, consistent, nothing⟩ := ready
  have sleeps := (machine.clock platform).sleeps_sleepUntil deadline
  have asleep := platform.sleepUntil machine.kernel.world deadline
  change _ = ((machine.clock platform).sleepUntil deadline).map _ at asleep
  unfold step advance
  rw [control]
  dsimp only
  rw [asleep]
  generalize (machine.clock platform).sleepUntil deadline = wakeup at sleeps ⊢
  cases sleeps with
  | due | stalled =>
      exact ⟨⟨⟨wellformed.holds, wellformed.sound⟩, consistent, nothing⟩, rfl,
        platform.clock_setClock _ _, rfl⟩
  | @woken tick event rest first early =>
      obtain ⟨events, served, consistentToo⟩ :=
        Events.exists_ok_of_serve consistent empty event
      simp only [Wakeup.map, served]
      exact ⟨⟨⟨wellformed.holds, wellformed.sound⟩, consistentToo, nothing⟩,
        rfl, platform.clock_setClock _ _, rfl⟩

/-! ### Dispatches -/

structure Dispatches (deadline : Deadline) (machine : Machine S)
    (steps naps : Nat) : Prop where
  /-- Until then the dispatch drains events and sleeps. -/
  busy {earlier : Nat} : earlier < steps →
    (∃ woke, (step^[earlier] machine).control = .dispatch deadline woke) ∨
      (step^[earlier] machine).control = .sleep deadline
  /-- Then a task is picked, or there is no deadline and no interrupt is to
  come. -/
  ended : (step^[steps] machine).control = .pick ∨
    (step^[steps] machine).control = .stalled ∧ deadline = .never ∧
      ((step^[steps] machine).clock platform).interrupts = []
  sleeps : ((step^[steps] machine).clock platform).sleeps =
    List.replicate naps deadline ++ (machine.clock platform).sleeps
  waits : (step^[steps] machine).kernel.stats.waits =
    machine.kernel.stats.waits + naps
  /-- The interrupts that were raised came first. -/
  raises : ((step^[steps] machine).clock platform).interrupts <:+
    (machine.clock platform).interrupts
  /-- All sleeps but one used up an interrupt. -/
  bounded : naps + ((step^[steps] machine).clock platform).interrupts.length ≤
    (machine.clock platform).interrupts.length + 1

variable {platform}

/-- A dispatch does not sleep when it has woken a task or its deadline has
passed. -/
private theorem Dispatches.returns
    (control : machine.control = .dispatch deadline woke)
    (clock : machine.step.clock platform = machine.clock platform)
    (ended : machine.step.control = .pick)
    (waits : machine.step.kernel.stats.waits = machine.kernel.stats.waits) :
    Dispatches platform deadline machine 1 0 where
  busy earlier := by
    obtain rfl := Nat.lt_one_iff.mp earlier
    exact Or.inl ⟨woke, control⟩
  ended := Or.inl ended
  sleeps := by
    rw [Function.iterate_one, clock]
    rfl
  waits := waits
  raises := by
    rw [Function.iterate_one, clock]
  bounded := by
    rw [Function.iterate_one, clock, Nat.zero_add]
    exact Nat.le_succ _

/-- A dispatch that sleeps goes on from where the sleep ends. -/
private theorem Dispatches.round
    (control : machine.control = .dispatch deadline woke)
    (asleep : machine.step.control = .sleep deadline)
    (waits : machine.step.step.kernel.stats.waits =
      machine.kernel.stats.waits + 1)
    (sleeps : (machine.step.step.clock platform).sleeps =
      deadline :: (machine.clock platform).sleeps)
    (raises : (machine.step.step.clock platform).interrupts <:+
      (machine.clock platform).interrupts)
    (later : Dispatches platform deadline machine.step.step steps naps)
    (bounded : naps + 1 +
        ((step^[steps] machine.step.step).clock platform).interrupts.length ≤
      (machine.clock platform).interrupts.length + 1) :
    Dispatches platform deadline machine (steps + 2) (naps + 1) where
  busy {earlier} before := by
    match earlier with
    | 0 => exact Or.inl ⟨woke, control⟩
    | 1 => exact Or.inr asleep
    | earlier + 2 => exact later.busy (Nat.lt_of_add_lt_add_right before)
  ended := later.ended
  sleeps := by
    refine later.sleeps.trans ?_
    rw [sleeps, List.replicate_succ', List.append_assoc]
    rfl
  waits := by
    refine later.waits.trans ?_
    rw [waits]
    omega
  raises := later.raises.trans raises
  bounded := bounded

/-- Without a deadline and an interrupt the loop sleeps for ever. -/
private theorem Dispatches.stalls
    (control : machine.control = .dispatch deadline woke)
    (asleep : machine.step.control = .sleep deadline)
    (ended : machine.step.step.control = .stalled) (never : deadline = .never)
    (nothing : (machine.clock platform).interrupts = [])
    (clock : machine.step.step.clock platform =
      { machine.clock platform with
        sleeps := deadline :: (machine.clock platform).sleeps })
    (waits : machine.step.step.kernel.stats.waits =
      machine.kernel.stats.waits + 1) :
    Dispatches platform deadline machine 2 1 where
  busy {earlier} before := by
    match earlier with
    | 0 => exact Or.inl ⟨woke, control⟩
    | 1 => exact Or.inr asleep
  ended := by
    refine Or.inr ⟨ended, never, ?_⟩
    change (machine.step.step.clock platform).interrupts = []
    rw [clock, nothing]
  sleeps := congrArg VirtualClock.sleeps clock
  waits := waits
  raises := by
    change (machine.step.step.clock platform).interrupts <:+ _
    rw [clock]
  bounded := by
    change 1 + (machine.step.step.clock platform).interrupts.length ≤ _
    rw [clock]
    exact Nat.le_of_eq (Nat.add_comm _ _)

variable (platform) in
/-- The recursion is on the interrupts that are to come: a round either uses up
the first of them or is the last that sleeps. -/
theorem Ready.exists_dispatches {machine : Machine S} {woke : Bool}
    (ready : machine.Ready)
    (control : machine.control = .dispatch deadline woke) :
    ∃ steps naps, Dispatches platform deadline machine steps naps := by
  obtain ⟨readyToo, clock, ⟨ended, waits⟩ | ⟨asleep, empty, early, waits⟩⟩ :=
    ready.drains platform control
  · exact ⟨1, 0, .returns control clock ended waits⟩
  · obtain ⟨awake, same, moved, goesOn⟩ :=
      readyToo.sleeps platform asleep empty
    rw [waits] at same
    rw [clock] at moved goesOn
    have sleeps := (machine.clock platform).sleeps_sleepUntil deadline
    generalize (machine.clock platform).sleepUntil deadline = wakeup
      at moved goesOn sleeps
    cases sleeps with
    | due ever late =>
        obtain ⟨_, clockToo, ⟨ended, waits⟩ | ⟨_, _, again, _⟩⟩ :=
          awake.drains platform goesOn
        · refine ⟨3, 1, .round control asleep same ?_ ?_
            (.returns goesOn clockToo ended waits) ?_⟩
          · rw [moved]
            rfl
          · rw [moved]
            exact List.suffix_rfl
          · rw [Function.iterate_one, clockToo, moved]
            exact Nat.le_of_eq (Nat.add_comm _ _)
        · -- The sleep has lasted until the deadline.
          have reached := VirtualClock.reached_moveTo
            { machine.clock platform with
              sleeps := deadline :: (machine.clock platform).sleeps } ever
          rw [moved] at again
          exact absurd (reached.symm.trans again) (by decide)
    | @woken tick event rest first early =>
        -- The interrupt that woke the loop is used up.
        have left : (machine.step.step.clock platform).interrupts = rest := by
          rw [moved]
          rfl
        obtain ⟨steps, naps, later⟩ := awake.exists_dispatches goesOn
        have bounded := later.bounded
        refine ⟨_, _, .round control asleep same ?_ ?_ later ?_⟩
        · rw [moved]
          rfl
        · rw [left, first]
          exact List.suffix_cons _ _
        · rw [left] at bounded
          rw [first, List.length_cons]
          omega
    | stalled never nothing =>
        exact ⟨2, 1, .stalls control asleep goesOn never nothing moved same⟩
termination_by (machine.clock platform).interrupts.length
decreasing_by
  rw [left, first]
  exact Nat.lt_succ_self _

end Machine

/-- What is true of time on a platform with a virtual clock. -/
structure Run.SleepsInTime [Application S] (platform : VirtualPlatform S.World)
    (run : Run S) (count : Nat) : Prop where
  /-- Every dispatch ends, and it sleeps at most once more than there are
  interrupts to come. -/
  dispatches (deadline : Deadline) (woke : Bool) :
    ∃ steps naps, Machine.Dispatches platform deadline
        { run.after count with control := .dispatch deadline woke }
        steps naps ∧
      naps ≤ ((run.after count).clock platform).interrupts.length + 1
  clock (now : Tick) (actions : List ClockAction) :
    VirtualClock.Honest now actions

theorem Run.sleepsInTime [Application S] (platform : VirtualPlatform S.World)
    (run : Run S) (count : Nat) : run.SleepsInTime platform count where
  dispatches deadline woke := by
    have guarded := run.guarded count
    have ready : Machine.Ready
        { run.after count with control := .dispatch deadline woke } :=
      ⟨guarded.steady.placed.wellformed, guarded.consistent, guarded.drained⟩
    obtain ⟨steps, naps, dispatches⟩ :=
      ready.exists_dispatches platform rfl
    exact ⟨steps, naps, dispatches,
      (Nat.le_add_right _ _).trans dispatches.bounded⟩
  clock := VirtualClock.honest

end EventScheduler
