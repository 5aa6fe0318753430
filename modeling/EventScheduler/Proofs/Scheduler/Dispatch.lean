import EventScheduler.Proofs.Kernel.Rouses
import EventScheduler.Proofs.Scheduler.Faults

/-!
# How far a dispatch has got

A dispatch drains the pending events again and again, with a sleep in between,
until it has woken a task or the deadline that was computed at the top of the
turn has passed.  Between the top of the turn and the pick of a task nothing
happens to the tasks but that watchers of drained events are woken, whatever
the interrupts do meanwhile.
-/

namespace EventScheduler

variable {S : Signature}

/-- The tasks that watch the given events, event by event, in the order in
which they began to watch. -/
def WatcherMap.audience (map : WatcherMap) (events : List EventHandle) :
    List TaskHandle :=
  events.flatMap fun event => (map.watchers event).toList

namespace Kernel

variable {kernel next : Kernel S} {woke : Bool}

/-- The tasks that wait and are met on going through the watchers of the given
events, each where it is met first. -/
def woken (kernel : Kernel S) (events : List EventHandle) : List TaskHandle :=
  ((kernel.watchers.audience events).filter kernel.isWaiting).eraseDups

theorem woken_eq (wellformed : kernel.Wellformed) (events : List EventHandle) :
    kernel.woken events =
      kernel.roster.wakened (kernel.watchers.audience events) := by
  unfold woken Roster.wakened
  rw [funext (isWaiting_eq wellformed)]

def due (kernel : Kernel S) (task : TaskHandle) : Deadline :=
  match kernel.tasks.state task with
  | .ok (.timer deadline) => deadline
  | _ => .never

theorem state_handleAt (wellformed : kernel.Wellformed) (index : SlotIndex) :
    kernel.tasks.state (kernel.roster.handleAt index) =
      (kernel.roster.state? index).elim (.error .staleTask) .ok := by
  unfold TaskTable.state TaskTable.entry Roster.state?
  rw [wellformed.holds.find?]
  cases present : kernel.roster.entry index with
  | none =>
      have gone : kernel.roster.find? (kernel.roster.handleAt index) = none := by
        refine Option.eq_none_iff_forall_ne_some.mpr fun named found => ?_
        obtain ⟨same, stored⟩ := Roster.find?_eq_some_iff.mp found
        rw [kernel.roster.handleAt_injective same, present] at stored
        cases stored
      rw [gone]
      rfl
  | some entry =>
      rw [Roster.find?_eq_some_iff.mpr ⟨rfl, present⟩]
      rfl

theorem due_handleAt (wellformed : kernel.Wellformed) (index : SlotIndex) :
    kernel.due (kernel.roster.handleAt index) = kernel.roster.due index := by
  unfold due Roster.due
  rw [state_handleAt wellformed]
  cases kernel.roster.state? index with
  | none => rfl
  | some state => cases state <;> rfl

theorem woken_nil (kernel : Kernel S) : kernel.woken [] = [] :=
  List.eraseDups_nil

variable [Environment S.World]

theorem dispatchAll_wakens (wellformed : kernel.Wellformed)
    {events : List EventHandle}
    (done : kernel.dispatchAll events = .ok (woke, next)) :
    kernel.Wakens next (kernel.watchers.audience events) woke := by
  induction events generalizing kernel woke with
  | nil =>
      cases done
      exact .refl _
  | cons event rest ih =>
      unfold dispatchAll at done
      obtain ⟨⟨first, middle⟩, resumed, later⟩ := exists_ok_of_bind done
      obtain ⟨⟨_, last⟩, dispatched, ended⟩ := exists_ok_of_bind later
      cases ended
      have recorded : (kernel.record (.dispatches event)).Wellformed :=
        ⟨wellformed.holds, wellformed.sound⟩
      obtain ⟨rouses, flag⟩ := resumeWatchers_wakens recorded resumed
      have wakens : kernel.Wakens middle
          (kernel.watchers.watchers event).toList first :=
        ⟨⟨rouses.roster, rouses.watchers, rouses.handlers, rouses.running,
          rouses.resumes⟩, flag⟩
      have evolves := resumeAll_evolves recorded resumed
      have after := ih (evolves.wellformed recorded) dispatched
      rw [wakens.rouses.watchers] at after
      exact wakens.append after

/-- Draining goes through the watchers of all pending events. -/
theorem drain_wakens (wellformed : kernel.Wellformed)
    (consistent : kernel.events.Consistent)
    (done : kernel.drain [] = .ok (woke, next)) :
    kernel.Wakens next (kernel.watchers.audience kernel.events.queue) woke := by
  obtain ⟨events, taken, _⟩ := Events.exists_ok_of_takePending consistent
  unfold drain at done
  obtain ⟨⟨drained, left⟩, takenToo, later⟩ := exists_ok_of_bind done
  rw [show kernel.events.takeInto [] = _ from taken] at takenToo
  cases takenToo
  obtain ⟨⟨_, middle⟩, dispatched, ended⟩ := exists_ok_of_bind later
  cases ended
  have emptied : ({ kernel with events } : Kernel S).Wellformed :=
    ⟨wellformed.holds, wellformed.sound⟩
  obtain ⟨rouses, flag⟩ := dispatchAll_wakens emptied dispatched
  exact ⟨⟨rouses.roster, rouses.watchers, rouses.handlers, rouses.running,
    rouses.resumes⟩, flag⟩

end Kernel

/-! ### The phases of a dispatch -/

namespace Control

def isTurn : Control S → Bool
  | .turn => true
  | _ => false

def isDispatching : Control S → Bool
  | .dispatch _ _ | .sleep _ | .pick => true
  | _ => false

end Control

namespace Scheduler

theorem runQueue_eq (scheduler : Scheduler S) :
    scheduler.runQueue = scheduler.kernel.roster.queued :=
  rfl

theorem timers_eq (scheduler : Scheduler S) :
    scheduler.timers = scheduler.kernel.roster.asleep :=
  rfl

/-- With nobody ready, the patience lasts until the first deadline, or for ever
if nobody sleeps. -/
theorem patience_cases {scheduler : Scheduler S}
    (wellformed : scheduler.kernel.Wellformed) {deadline : Deadline}
    (notYielded : scheduler.yielded = none)
    (notQueued : scheduler.kernel.roster.run = [])
    (patience : scheduler.patience = .ok (some deadline)) :
    (scheduler.kernel.roster.timers = [] ∧ deadline = .never ∧
        0 < scheduler.kernel.roster.live) ∨
      ∃ index rest, scheduler.kernel.roster.timers = index :: rest ∧
        deadline = scheduler.kernel.roster.due index := by
  rw [patience_eq wellformed,
    if_neg (by simp [notYielded, notQueued])] at patience
  cases timers : scheduler.kernel.roster.timers with
  | nil =>
      rw [timers] at patience
      simp only [List.head?_nil] at patience
      split at patience
      · cases patience
      · next someone =>
          cases patience
          exact Or.inl ⟨rfl, rfl, Nat.pos_of_ne_zero someone⟩
  | cons index rest =>
      rw [timers] at patience
      cases patience
      exact Or.inr ⟨index, rest, rfl, rfl⟩

end Scheduler

/-- Since the top of a turn that may sleep until the deadline, the given events
were drained. -/
structure Scheduler.Dispatched (top scheduler : Scheduler S)
    (deadline : Deadline) (events : List EventHandle) : Prop where
  wellformed : top.kernel.Wellformed
  patience : top.patience = .ok (some deadline)
  rouses : top.kernel.Rouses scheduler.kernel (top.kernel.woken events)
  yielded : scheduler.yielded = top.yielded

/-- Events that become pending, the world outside and the counters of the loop
do not matter. -/
private theorem Scheduler.Dispatched.outside {top scheduler : Scheduler S}
    {deadline : Deadline} {events : List EventHandle}
    (dispatched : top.Dispatched scheduler deadline events) (registry : Events)
    (world : S.World) {stats : Stats}
    (same : stats.resumes = scheduler.kernel.stats.resumes) :
    top.Dispatched
      { scheduler with
        kernel := { scheduler.kernel with events := registry, world, stats } }
      deadline events := by
  obtain ⟨wellformed, patience, rouses, yielded⟩ := dispatched
  exact ⟨wellformed, patience, ⟨rouses.roster, rouses.watchers,
    rouses.handlers, rouses.running, same.trans rouses.resumes⟩, yielded⟩

namespace Machine

variable {top machine next : Machine S} {events : List EventHandle}
  {deadline : Deadline}

/-- How far the dispatch of a turn has got. -/
inductive Dispatching (top machine : Machine S) (events : List EventHandle) :
    Prop
  | drains {deadline : Deadline} {woke : Bool}
      (control : machine.control = .dispatch deadline woke)
      (dispatched : top.Dispatched machine.toScheduler deadline events)
      (nobody : top.kernel.woken events = [])
      (hurried : woke = (deadline == .elapsed))
  | sleeps {deadline : Deadline} (control : machine.control = .sleep deadline)
      (dispatched : top.Dispatched machine.toScheduler deadline events)
      (nobody : top.kernel.woken events = [])
      (patient : deadline ≠ .elapsed)
      (early : deadline.reached machine.kernel.now = false)
  | returns {deadline : Deadline} (control : machine.control = .pick)
      (dispatched : top.Dispatched machine.toScheduler deadline events)
      (cause : deadline = .elapsed ∨ top.kernel.woken events ≠ [] ∨
        deadline.reached machine.kernel.now = true)

def drains (machine : Machine S) : Move S → List EventHandle
  | .step =>
      match machine.control with
      | .dispatch _ _ => machine.kernel.events.queue
      | _ => []
  | _ => []

/-- Events that become pending and the world outside do not matter. -/
private theorem Dispatching.outside
    (dispatching : top.Dispatching machine events) (registry : Events)
    (world : S.World) :
    top.Dispatching
      { machine with kernel := { machine.kernel with events := registry, world } }
      events := by
  cases dispatching with
  | drains control dispatched nobody hurried =>
      exact .drains control (dispatched.outside registry world rfl) nobody
        hurried
  | sleeps control dispatched nobody patient early =>
      exact .sleeps control (dispatched.outside registry world rfl) nobody
        patient early
  | returns control dispatched cause =>
      exact .returns control (dispatched.outside registry world rfl) cause

/-- Whoever a dispatch waited for is on the run queue when it returns, so there
is a task to run. -/
private theorem Dispatching.queued_ne_nil
    (dispatching : top.Dispatching machine events)
    (control : machine.control = .pick) {ready : Roster S}
    (rouses : machine.kernel.roster.Rouses ready
      (machine.kernel.roster.expired machine.kernel.now ++
        machine.yielded.toList)) :
    ready.queued ≠ [] := by
  intro nothing
  rw [rouses.queued, List.append_eq_nil_iff, List.append_eq_nil_iff] at nothing
  obtain ⟨noneQueued, noneExpired, nobody⟩ := nothing
  cases dispatching with
  | drains known | sleeps known => cases known.symm.trans control
  | returns known dispatched cause =>
      rename_i deadline
      obtain ⟨wellformed, patience, woken, yielded⟩ := dispatched
      have all := woken.roster.queued
      rw [noneQueued, eq_comm, List.append_eq_nil_iff] at all
      rw [all.2] at woken cause
      have same := woken.roster.eq_of_nil
      have passed : deadline.reached machine.kernel.now = true := by
        rcases cause with rfl | impossible | reached
        · exact Deadline.reached_elapsed _
        · exact absurd rfl impossible
        · exact reached
      have notYielded : top.yielded = none := by
        rw [← yielded]
        exact Option.toList_eq_nil_iff.mp nobody
      have notQueued : top.kernel.roster.run = [] :=
        List.map_eq_nil_iff.mp all.1
      have allEarly := List.filter_eq_nil_iff.mp
        (List.map_eq_nil_iff.mp noneExpired)
      rw [same] at allEarly
      rcases Scheduler.patience_cases wellformed notYielded notQueued patience
        with ⟨_, rfl, _⟩ | ⟨index, rest, timers, rfl⟩
      · rw [Deadline.reached_never] at passed
        cases passed
      · rw [timers] at allEarly
        exact allEarly index List.mem_cons_self passed

/-- The expired sleepers and then the task that yielded go to the run queue. -/
private theorem Steady.exists_queueUp (steady : machine.Steady)
    (control : machine.control = .pick) :
    ∃ tasks, machine.queueUp = .ok { machine.toScheduler with
        kernel := { machine.kernel with tasks }
        yielded := none } ∧
      machine.kernel.roster.Rouses tasks.roster
        (machine.kernel.roster.expired machine.kernel.now ++
          machine.yielded.toList) := by
  have wellformed := steady.placed.wellformed
  have idle := steady.running_eq_none (by rw [control]; rfl)
    (by rw [control]; rfl)
  obtain ⟨promoted, done, holds⟩ := wellformed.holds.promoteExpired
    wellformed.sound machine.kernel.now
  have expired := machine.kernel.roster.rouses_promoteExpired machine.kernel.now
  rw [← holds.roster_eq] at expired
  have change : Kernel.Change machine.kernel .promotes
      { machine.kernel with tasks := promoted } := .promote holds
  unfold Scheduler.queueUp
  dsimp only
  rw [bind_of_ok done]
  cases yielded : machine.yielded with
  | none => exact ⟨promoted, rfl, by simpa using expired⟩
  | some task =>
      have stray : Deed.promotes.stray machine.stray = some task :=
        (stray_of_idle idle).trans yielded
      have placed := change.placed steady.placed fun _ impossible =>
        nomatch impossible
      rw [stray] at placed
      obtain ⟨index, entry, found, active, off, awake⟩ := placed.exists_stray
      have inRange : task.index < maxTasks := by
        rw [← (Roster.find?_eq_some_iff.mp found).1]
        exact index.isLt
      obtain ⟨requeued, queued, requeuedHolds⟩ :=
        placed.wellformed.holds.requeue inRange
      have last := Roster.rouses_requeue found active off awake
      rw [← requeuedHolds.roster_eq] at last
      dsimp only
      rw [bind_of_ok queued]
      exact ⟨requeued, rfl, expired.append last⟩

variable [Application S]

/-- In the middle of an operation only steps and the world outside go on. -/
theorem move_of_busy (busy : machine.control.isIdle = false) {move : Move S}
    (other : move ≠ .step) :
    (∃ fault, machine.move move = { machine with control := .faulted fault }) ∨
      ∃ registry world, machine.move move = { machine with
        kernel := { machine.kernel with events := registry, world } } := by
  have still : ∃ registry world, machine = { machine with
      kernel := { machine.kernel with events := registry, world } } :=
    ⟨machine.kernel.events, machine.kernel.world, rfl⟩
  cases move with
  | step => exact absurd rfl other
  | call call =>
      unfold Machine.move
      simp only [busy, Bool.false_eq_true, if_false]
      exact Or.inr still
  | operate operation =>
      unfold Machine.move
      simp only [busy, Bool.false_eq_true, if_false]
      exact Or.inr still
  | interrupt interrupt =>
      unfold Machine.move Machine.interrupt
      dsimp only
      split
      · exact Or.inr still
      · exact Or.inr ⟨_, machine.kernel.world, rfl⟩
      · exact Or.inl ⟨_, rfl⟩
  | outside world => exact Or.inr ⟨machine.kernel.events, world, rfl⟩

/-- What has become of the top of a turn once the dispatch is under way. -/
theorem dispatching_of_turn (steady : machine.Steady)
    (control : machine.control = .turn) {move : Move S}
    (after : (machine.move move).control.isDispatching = true) :
    machine.Dispatching (machine.move move) [] := by
  by_cases step : move = .step
  · subst step
    obtain ⟨next, done⟩ := (steady.turn_faultsOnly control).exists_ok
    rw [move_step_of_ok done] at after ⊢
    unfold advance at done
    simp only [control] at done
    obtain ⟨patience, known, later⟩ := exists_ok_of_bind done
    cases patience with
    | none =>
        cases later
        cases after
    | some deadline =>
        cases later
        have nobody : machine.kernel.woken [] = [] := machine.kernel.woken_nil
        have begun : machine.Dispatched machine.toScheduler deadline [] :=
          ⟨steady.placed.wellformed, known, nobody ▸ .refl _, rfl⟩
        exact .drains rfl
          (begun.outside machine.kernel.events machine.kernel.world rfl)
          nobody rfl
  · have busy : machine.control.isIdle = false := by
      rw [control]
      rfl
    rcases move_of_busy busy step with ⟨fault, same⟩ | ⟨registry, world, same⟩
    · rw [same] at after
      cases after
    · rw [same] at after
      rw [show Control.isDispatching _ = _ from congrArg _ control] at after
      cases after

/-- One more pass over the pending events. -/
private theorem drain_dispatched {kernel : Kernel S} {woke : Bool}
    (dispatched : top.Dispatched machine.toScheduler deadline events)
    (guarded : machine.Guarded)
    (done : machine.kernel.drain machine.drained = .ok (woke, kernel)) :
    top.Dispatched { machine.toScheduler with kernel, drained := [] } deadline
        (events ++ machine.kernel.events.queue) ∧
      (woke = true → top.kernel.woken
        (events ++ machine.kernel.events.queue) ≠ []) ∧
      (woke = false → top.kernel.woken events = [] → top.kernel.woken
        (events ++ machine.kernel.events.queue) = []) := by
  obtain ⟨wellformed, patience, rouses, yielded⟩ := dispatched
  rw [guarded.drained] at done
  obtain ⟨more, flag⟩ := Kernel.drain_wakens guarded.steady.placed.wellformed
    guarded.consistent done
  have split : top.kernel.woken (events ++ machine.kernel.events.queue) =
      top.kernel.woken events ++ machine.kernel.roster.wakened
        (machine.kernel.watchers.audience machine.kernel.events.queue) := by
    rw [Kernel.woken_eq wellformed] at rouses ⊢
    rw [Kernel.woken_eq wellformed, rouses.watchers]
    unfold WatcherMap.audience
    rw [List.flatMap_append]
    exact Roster.wakened_append rouses.roster _
  rw [split]
  refine ⟨⟨wellformed, patience, ?_, yielded⟩, fun woken => ?_,
    fun asleep nobody => ?_⟩
  · rw [split]
    exact rouses.append more
  · exact List.append_ne_nil_of_right_ne_nil _ (flag.mp woken)
  · rw [nobody, List.nil_append]
    by_contra someone
    rw [flag.mpr someone] at asleep
    cases asleep

/-- After one more pass the dispatch returns or goes to sleep. -/
private theorem dispatching_of_drains {woke : Bool}
    (control : machine.control = .dispatch deadline woke)
    (dispatched : top.Dispatched machine.toScheduler deadline events)
    (nobody : top.kernel.woken events = [])
    (hurried : woke = (deadline == .elapsed)) (guarded : machine.Guarded)
    (done : machine.advance = .ok next) :
    top.Dispatching next (events ++ machine.kernel.events.queue) := by
  unfold advance at done
  simp only [control] at done
  obtain ⟨⟨resumed, kernel⟩, drained, later⟩ := exists_ok_of_bind done
  obtain ⟨further, woken, asleep⟩ := drain_dispatched dispatched guarded drained
  dsimp only at later
  split at later
  · next cause =>
      cases later
      refine .returns rfl further ?_
      rw [hurried, Bool.or_eq_true, Bool.or_eq_true, beq_iff_eq] at cause
      rcases cause with (elapsed | someone) | reached
      · exact Or.inl elapsed
      · exact Or.inr (Or.inl (woken someone))
      · exact Or.inr (Or.inr reached)
  · next idle =>
      cases later
      rw [hurried, Bool.or_eq_true, Bool.or_eq_true, beq_iff_eq, not_or,
        not_or] at idle
      obtain ⟨⟨patient, nobodyNow⟩, early⟩ := idle
      exact .sleeps rfl (further.outside kernel.events _ rfl)
        (asleep (Bool.eq_false_iff.mpr nobodyNow) nobody) patient
        (Bool.eq_false_iff.mpr early)

/-- After a sleep that ends, the pending events are drained again. -/
private theorem dispatching_of_sleeps
    (control : machine.control = .sleep deadline)
    (dispatched : top.Dispatched machine.toScheduler deadline events)
    (nobody : top.kernel.woken events = []) (patient : deadline ≠ .elapsed)
    (done : machine.advance = .ok next)
    (after : next.control.isDispatching = true) :
    top.Dispatching next events := by
  have unhurried : false = (deadline == Deadline.elapsed) :=
    (beq_false_of_ne patient).symm
  unfold advance at done
  simp only [control] at done
  split at done
  · next world _ =>
      cases done
      exact .drains rfl (dispatched.outside machine.kernel.events world rfl)
        nobody unhurried
  · next world _ _ =>
      obtain ⟨registry, _, ended⟩ := exists_ok_of_bind done
      cases ended
      exact .drains rfl (dispatched.outside registry world rfl) nobody unhurried
  · cases done
    cases after

/-- A pick ends the dispatch. -/
private theorem isDispatching_of_picks (control : machine.control = .pick)
    (done : machine.advance = .ok next) :
    next.control.isDispatching = false := by
  unfold advance at done
  simp only [control] at done
  obtain ⟨ready, _, later⟩ := exists_ok_of_bind done
  obtain ⟨⟨task, popped⟩, _, later⟩ := exists_ok_of_bind later
  cases task with
  | none =>
      cases later
      rfl
  | some task =>
      obtain ⟨_, _, ended⟩ := exists_ok_of_bind later
      cases ended
      rfl

private theorem Dispatching.step (dispatching : top.Dispatching machine events)
    (guarded : machine.Guarded) (done : machine.advance = .ok next)
    (after : next.control.isDispatching = true) :
    top.Dispatching next (events ++ machine.drains .step) := by
  unfold Machine.drains
  cases dispatching with
  | drains control dispatched nobody hurried =>
      rw [control]
      exact dispatching_of_drains control dispatched nobody hurried guarded done
  | sleeps control dispatched nobody patient early =>
      rw [control, List.append_nil]
      exact dispatching_of_sleeps control dispatched nobody patient done after
  | returns control dispatched cause =>
      rw [isDispatching_of_picks control done] at after
      cases after

/-- A dispatch goes on until the turn has a task to run. -/
theorem Dispatching.move (dispatching : top.Dispatching machine events)
    (guarded : machine.Guarded) {move : Move S}
    (after : (machine.move move).control.isDispatching = true) :
    top.Dispatching (machine.move move) (events ++ machine.drains move) := by
  by_cases step : move = .step
  · subst step
    cases done : machine.advance with
    | ok next =>
        rw [move_step_of_ok done] at after ⊢
        exact dispatching.step guarded done after
    | error fault =>
        unfold Machine.move Machine.step at after
        simp only [done] at after
        cases after
  · have nothing : machine.drains move = [] := by
      cases move with
      | step => exact absurd rfl step
      | _ => rfl
    have busy : machine.control.isIdle = false := by
      cases dispatching with
      | drains control | sleeps control | returns control =>
          rw [control]
          rfl
    rw [nothing, List.append_nil]
    rcases move_of_busy busy step with ⟨fault, same⟩ | ⟨registry, world, same⟩
    · rw [same] at after
      cases after
    · rw [same]
      exact dispatching.outside registry world

/-- The slice that begins is that of the task at the head of the queue. -/
private theorem Steady.begins_head (steady : machine.Steady)
    (control : machine.control = .pick) {ready : Scheduler S}
    (queued : machine.queueUp = .ok ready) {task : TaskHandle}
    {rest : List TaskHandle}
    (line : ready.kernel.roster.queued = task :: rest) :
    ∃ popped program, ready.pop = .ok (some task, popped) ∧
      (machine.move .step).control = .body (.slice task) program ∧
      (machine.move .step).kernel.running = some task ∧
      (machine.move .step).runQueue = rest := by
  obtain ⟨next, done⟩ := (steady.pick_faultsOnly control).exists_ok
  rw [move_step_of_ok done]
  have placed := steady.placed_of_queueUp control queued
  obtain ⟨tasks, taken, _⟩ :=
    placed.wellformed.holds.popRunnable placed.wellformed.sound
  have first : ready.kernel.roster.popRunnable.1 = some task := by
    unfold Roster.queued at line
    unfold Roster.popRunnable
    cases run : ready.kernel.roster.run with
    | nil =>
        rw [run] at line
        cases line
    | cons index others =>
        rw [run] at line
        exact congrArg some (List.cons.inj line).1
  have popped : ready.pop = .ok (some task,
      { ready with kernel := { ready.kernel with tasks } }) := by
    unfold Scheduler.pop
    rw [bind_of_ok taken, first]
    rfl
  unfold advance at done
  simp only [control] at done
  rw [bind_of_ok queued, bind_of_ok popped] at done
  obtain ⟨⟨body, kernel⟩, began, ended⟩ := exists_ok_of_bind done
  cases ended
  have pops := (Scheduler.pop_evolves placed.wellformed popped).2
  have wellformed := pops.wellformed placed.wellformed
  have recorded : (Kernel.record { ready.kernel with tasks }
      (.runs task)).Wellformed := ⟨wellformed.holds, wellformed.sound⟩
  have begins := Kernel.beginSlice_evolves recorded began
  refine ⟨_, _, popped, rfl, begins.running_of_begins, ?_⟩
  have left := pops.queued_of_pops.symm.trans line
  exact (begins.queued recorded rfl).trans (List.cons.inj left).2

/-- A dispatch that has returned leaves a task to run, the head of the queue. -/
theorem Dispatching.begins (dispatching : top.Dispatching machine events)
    (steady : machine.Steady) (control : machine.control = .pick) :
    ∃ tasks task rest popped program,
      let ready : Scheduler S := { machine.toScheduler with
        kernel := { machine.kernel with tasks }
        yielded := none }
      machine.queueUp = .ok ready ∧
      machine.kernel.roster.Rouses tasks.roster
        (machine.kernel.roster.expired machine.kernel.now ++
          machine.yielded.toList) ∧
      ready.runQueue = task :: rest ∧ ready.pop = .ok (some task, popped) ∧
      (machine.move .step).control = .body (.slice task) program ∧
      (machine.move .step).kernel.running = some task ∧
      (machine.move .step).runQueue = rest := by
  obtain ⟨tasks, queued, rouses⟩ := steady.exists_queueUp control
  obtain ⟨task, rest, found⟩ := List.exists_cons_of_ne_nil
    (dispatching.queued_ne_nil control rouses)
  obtain ⟨popped, program, pops, slice, running, left⟩ :=
    steady.begins_head control queued found
  exact ⟨tasks, task, rest, popped, program, queued, rouses, found, pops, slice,
    running, left⟩

/-! ### Where a dispatch begins -/

/-- A dispatch begins at the top of a turn only. -/
theorem Transition.isDispatching {move : Move S}
    (transition : Transition machine move next)
    (after : next.control.isDispatching = true) :
    machine.control = .turn ∨ machine.control.isDispatching = true := by
  cases transition with
  | still | outside | operates => exact Or.inr after
  | dispatches control => exact Or.inl control
  | drains control | idles control | wakes control | stalls control
  | picks _ control | picksNothing control =>
      rw [control]
      exact Or.inr rfl
  | endsSlice control ends applied =>
      rename_i value _
      cases value <;> cases after
  | _ => cases after

end Machine

/-! ### Runs -/

namespace Run

variable [Application S]

def top (run : Run S) : Nat → Nat
  | 0 => 0
  | count + 1 =>
      if (run.after (count + 1)).control.isTurn then count + 1
      else run.top count

def drained (run : Run S) : Nat → List EventHandle
  | 0 => []
  | count + 1 =>
      if (run.after (count + 1)).control.isTurn then []
      else run.drained count ++ (run.after count).drains (run.moves count)

variable {run : Run S} {count : Nat}

private theorem of_turn (control : (run.after count).control = .turn) :
    run.top count = count ∧ run.drained count = [] := by
  have turn : (run.after count).control.isTurn = true := by
    rw [control]
    rfl
  cases count with
  | zero => exact ⟨rfl, rfl⟩
  | succ count =>
      unfold top drained
      exact ⟨if_pos turn, if_pos turn⟩

/-- In every state of every run in which a dispatch is under way, a turn has
begun, and nothing happened to the tasks since but what the watchers of the
drained events account for. -/
theorem dispatching (run : Run S) (count : Nat)
    (control : (run.after count).control.isDispatching = true) :
    (run.after (run.top count)).control = .turn ∧
      (run.after (run.top count)).Dispatching (run.after count)
        (run.drained count) := by
  induction count with
  | zero => cases control
  | succ count ih =>
      have notTurn : ¬ (run.after (count + 1)).control.isTurn = true := by
        intro turn
        cases known : (run.after (count + 1)).control with
        | turn =>
            rw [known] at control
            cases control
        | _ =>
            rw [known] at turn
            cases turn
      unfold top drained
      rw [if_neg notTurn, if_neg notTurn]
      have guarded := run.guarded count
      have transition := run.transition count
      rcases transition.isDispatching control with turn | already
      · obtain ⟨first, nothing⟩ := of_turn turn
        have noneYet : (run.after count).drains (run.moves count) = [] := by
          unfold Machine.drains
          rw [turn]
          split <;> rfl
        rw [first, nothing, noneYet]
        exact ⟨turn, Machine.dispatching_of_turn guarded.steady turn control⟩
      · obtain ⟨began, dispatching⟩ := ih already
        exact ⟨began, dispatching.move guarded control⟩

end Run

end EventScheduler
