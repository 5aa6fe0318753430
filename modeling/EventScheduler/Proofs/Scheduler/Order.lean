import EventScheduler.Proofs.Scheduler.Dispatch
import EventScheduler.Proofs.Scheduler.Sleepers

/-!
# The order of a turn

When a dispatch returns, the run queue is completed: behind the tasks that were
on it when the turn began come those that the drained events woke, then those
whose time has come, and last the task that yielded.  The head of that queue
runs.
-/

namespace EventScheduler

variable {S : Signature}

namespace Kernel

variable {kernel next : Kernel S} {tasks : List TaskHandle}

/-- Whoever does not go to the run queue is due when it was. -/
theorem due_of_rouses (wellformed : kernel.Wellformed)
    (wellformedToo : next.Wellformed)
    (rouses : kernel.roster.Rouses next.roster tasks) {task : TaskHandle}
    (other : task ∉ tasks) : next.due task = kernel.due task := by
  unfold due TaskTable.state
  rw [entry_of_rouses wellformed wellformedToo rouses, if_neg other]

theorem expired_eq (wellformed : kernel.Wellformed) (now : Tick) :
    kernel.roster.expired now = kernel.roster.asleep.filter fun task =>
      (kernel.due task).reached now := by
  unfold Roster.expired Roster.asleep
  rw [List.filter_map]
  congr 1
  refine List.filter_congr fun index _ => ?_
  rw [Function.comp_apply, due_handleAt wellformed]

end Kernel

namespace Machine

variable {top machine : Machine S} {events : List EventHandle}
  {deadline : Deadline}

/-- The task that yielded is active and does not sleep. -/
private theorem Steady.active_of_yielded (steady : machine.Steady)
    {task : TaskHandle} (yielded : machine.yielded = some task) :
    (machine.kernel.tasks.entry task).map TaskEntry.roused =
        machine.kernel.tasks.entry task ∧
      task ∉ machine.timers := by
  have placed := steady.placed
  rw [(steady.stray_of_yielded yielded).2] at placed
  obtain ⟨index, entry, found, active, _, awake⟩ := placed.exists_stray
  constructor
  · unfold TaskTable.entry
    rw [placed.wellformed.holds.find?, found]
    exact congrArg Except.ok (TaskEntry.roused_of_active active)
  · intro asleep
    obtain ⟨slot, inside, named⟩ := List.mem_map.mp asleep
    have fits := (Roster.find?_eq_some_iff.mp found).1
    rw [← machine.kernel.roster.handleAt_injective (named.trans fits.symm)]
      at awake
    exact awake inside

theorem Dispatching.exists_dispatched
    (dispatching : top.Dispatching machine events) :
    ∃ deadline, top.Dispatched machine.toScheduler deadline events := by
  cases dispatching with
  | drains _ dispatched | sleeps _ dispatched | returns _ dispatched =>
      exact ⟨_, dispatched⟩

/-- Whoever still sleeps when the dispatch returns slept when the turn began, and
was not woken. -/
private theorem expired_of_dispatched
    (dispatched : top.Dispatched machine.toScheduler deadline events)
    (wellformed : machine.kernel.Wellformed) (now : Tick) :
    machine.kernel.roster.expired now = top.timers.filter fun task =>
      task ∉ top.kernel.woken events ∧ (top.kernel.due task).reached now := by
  have rouses := dispatched.rouses.roster
  rw [Kernel.expired_eq wellformed, rouses.asleep, List.filter_filter]
  refine List.filter_congr fun task _ => ?_
  by_cases woken : task ∈ top.kernel.woken events
  · simp [woken]
  · rw [Kernel.due_of_rouses dispatched.wellformed wellformed rouses woken]
    simp [woken]

end Machine

namespace Run

variable [Application S]

def atTop (run : Run S) (count : Nat) : Machine S :=
  run.after (run.top count)

/-- The tasks that were woken since the last turn began, each where it is met
first on going through the watchers of the drained events. -/
def woken (run : Run S) (count : Nat) : List TaskHandle :=
  (run.atTop count).kernel.woken (run.drained count)

/-- The tasks that still sleep although their time has come. -/
def expired (run : Run S) (count : Nat) : List TaskHandle :=
  (run.atTop count).timers.filter fun task =>
    task ∉ run.woken count ∧ ((run.atTop count).kernel.due task).reached
      (run.after count).kernel.now

/-- The run queue is complete, and its head is to run. -/
structure LinesUp (run : Run S) (count : Nat) (ready : Scheduler S) :
    Prop where
  turn : (run.atTop count).control = .turn
  runQueue : ready.runQueue = (run.atTop count).runQueue ++ run.woken count ++
    run.expired count ++ (run.atTop count).yielded.toList
  timers : ready.timers = (run.atTop count).timers.filter fun task =>
    task ∉ run.woken count ∧ task ∉ run.expired count
  /-- By deadline, and for the same deadline by when the task went to sleep. -/
  order : (run.expired count).Pairwise fun first second =>
    (run.atTop count).kernel.due first < (run.atTop count).kernel.due second ∨
      (run.atTop count).kernel.due first =
          (run.atTop count).kernel.due second ∧
        run.asleepSince first (run.top count) <
          run.asleepSince second (run.top count)
  /-- Only those tasks change, and they only become active. -/
  entry (task : TaskHandle) : ready.kernel.tasks.entry task =
    if task ∈ run.woken count ∨ task ∈ run.expired count then
      ((run.atTop count).kernel.tasks.entry task).map TaskEntry.roused
    else (run.atTop count).kernel.tasks.entry task
  watchers : ready.kernel.watchers = (run.atTop count).kernel.watchers
  first : ∃ task rest program, ready.runQueue = task :: rest ∧
    ((run.after count).move .step).control = .body (.slice task) program ∧
    ((run.after count).move .step).kernel.running = some task

/-- What becomes of the tasks in a turn before one of them runs. -/
structure TakesTurnsInOrder (run : Run S) (count : Nat) : Prop where
  /-- Whoever watches an event is active once the event was drained. -/
  awake {event : EventHandle} {task : TaskHandle} :
    (run.after count).control.isDispatching = true →
      event ∈ run.drained count →
      task ∈ ((run.after count).kernel.watchers.watchers event).toList →
      (run.after count).kernel.tasks.state task = .ok .active
  linesUp : (run.after count).control = .pick →
    ∃ ready, (run.after count).queueUp = .ok ready ∧ run.LinesUp count ready

/-- Whoever is due earlier sleeps further ahead, and so does, of two that are
due at the same time, the one that went to sleep earlier. -/
theorem timers_pairwise (run : Run S) (count : Nat) :
    (run.after count).timers.Pairwise fun first second =>
      (run.after count).kernel.due first <
          (run.after count).kernel.due second ∨
        (run.after count).kernel.due first =
            (run.after count).kernel.due second ∧
          run.asleepSince first count < run.asleepSince second count := by
  have wellformed := run.wellformed count
  have sorted := wellformed.sound.sorted
  rw [Scheduler.timers_eq]
  refine List.pairwise_map.mpr
    (sorted.imp₂ (fun first second ordered later => ?_)
      (run.inOrder count).pairwise)
  rw [Kernel.due_handleAt wellformed, Kernel.due_handleAt wellformed]
  rcases Deadline.lt_or_eq_of_le ordered with earlier | same
  · exact Or.inl earlier
  · exact Or.inr ⟨same, later same⟩

variable {run : Run S} {count : Nat}

private theorem awake_of_drained {deadline : Deadline}
    (dispatched : (run.atTop count).Dispatched (run.after count).toScheduler
      deadline (run.drained count))
    {event : EventHandle} {task : TaskHandle}
    (drained : event ∈ run.drained count)
    (watches : task ∈
      ((run.after count).kernel.watchers.watchers event).toList) :
    (run.after count).kernel.tasks.state task = .ok .active := by
  obtain ⟨wellformed, _, rouses, _⟩ := dispatched
  obtain ⟨index, entry, found, alive⟩ :=
    (run.related count).watching watches
  have known : (run.after count).kernel.tasks.state task = .ok entry.state := by
    unfold TaskTable.state TaskTable.entry
    rw [(run.wellformed count).holds.find?, found]
    rfl
  -- Had it still waited, it would have been woken when the event was drained.
  have ready : entry.state.isWaiting = false := by
    by_contra waiting
    have waits := Roster.isWaiting_eq_true_iff.mpr
      ⟨index, entry, found, eq_true_of_ne_false waiting⟩
    rw [rouses.roster.isWaiting, Bool.and_eq_true, decide_eq_true_iff,
      Kernel.woken_eq wellformed, Roster.mem_wakened_iff] at waits
    rw [rouses.watchers] at watches
    exact waits.1 ⟨List.mem_flatMap.mpr ⟨event, drained, watches⟩, waits.2⟩
  rw [known]
  cases state : entry.state with
  | active => rfl
  | suspended | timer deadline =>
      rw [state] at ready
      cases ready
  | dead exit =>
      rw [state] at alive
      cases alive

private theorem active_of_yielded {task : TaskHandle}
    (inside : task ∈ (run.atTop count).yielded.toList) :
    ((run.atTop count).kernel.tasks.entry task).map TaskEntry.roused =
        (run.atTop count).kernel.tasks.entry task ∧
      task ∉ (run.atTop count).timers :=
  (run.steady (run.top count)).active_of_yielded (Option.mem_toList.mp inside)

/-- Woken tasks, expired ones and the one that yielded went to the run queue. -/
private theorem linesUp_of_rouses {ready : Scheduler S}
    (turn : (run.atTop count).control = .turn)
    (wellformed : ready.kernel.Wellformed)
    (watchers : ready.kernel.watchers = (run.atTop count).kernel.watchers)
    (rouses : (run.atTop count).kernel.roster.Rouses ready.kernel.roster
      (run.woken count ++ (run.expired count ++
        (run.atTop count).yielded.toList)))
    (first : ∃ task rest program, ready.runQueue = task :: rest ∧
      ((run.after count).move .step).control = .body (.slice task) program ∧
      ((run.after count).move .step).kernel.running = some task) :
    run.LinesUp count ready where
  turn := turn
  runQueue := by
    rw [Scheduler.runQueue_eq, rouses.queued, ← List.append_assoc,
      ← List.append_assoc]
    rfl
  timers := by
    rw [Scheduler.timers_eq, rouses.asleep]
    refine List.filter_congr fun task asleep => ?_
    have other : task ∉ (run.atTop count).yielded.toList := fun inside =>
      (active_of_yielded inside).2 asleep
    simp [other]
  order := (run.timers_pairwise (run.top count)).sublist List.filter_sublist
  entry task := by
    have before : (run.atTop count).kernel.Wellformed :=
      (run.wellformed (run.top count))
    rw [Kernel.entry_of_rouses before wellformed rouses]
    by_cases listed : task ∈ run.woken count ∨ task ∈ run.expired count
    · rw [if_pos listed, if_pos (by simpa [or_assoc] using Or.inl listed)]
    · rw [if_neg listed]
      split
      · next inside =>
          simp only [List.mem_append, ← or_assoc, listed, false_or] at inside
          exact (active_of_yielded inside).1
      · rfl
  watchers := watchers
  first := first

/-- A dispatch that has returned completes the run queue. -/
theorem exists_linesUp (control : (run.after count).control = .pick) :
    ∃ ready, (run.after count).queueUp = .ok ready ∧
      run.LinesUp count ready := by
  have steady := run.steady count
  obtain ⟨turn, dispatching⟩ := run.dispatching count (by rw [control]; rfl)
  obtain ⟨deadline, dispatched⟩ := dispatching.exists_dispatched
  obtain ⟨_, task, rest, _, program, queued, late, head, _, slice, running, _⟩ :=
    dispatching.begins steady control
  have placed := steady.placed_of_queueUp control queued
  have all := dispatched.rouses.roster.append late
  rw [Machine.expired_of_dispatched dispatched steady.placed.wellformed,
    dispatched.yielded] at all
  exact ⟨_, queued, linesUp_of_rouses turn placed.wellformed
    dispatched.rouses.watchers all ⟨task, rest, program, head, slice, running⟩⟩

/-- What becomes of the tasks in every turn of every run. -/
theorem takesTurnsInOrder (run : Run S) (count : Nat) :
    run.TakesTurnsInOrder count where
  awake under drained watches := by
    obtain ⟨_, dispatching⟩ := run.dispatching count under
    obtain ⟨deadline, dispatched⟩ := dispatching.exists_dispatched
    exact awake_of_drained dispatched drained watches
  linesUp := exists_linesUp

end Run

/-! ### A turn in which everybody lines up -/

namespace Habit

/-- A task of this application does the same in every slice. -/
abbrev signature : Signature :=
  ⟨Step Unit Unit, Unit, Unit, Tick, Unit⟩

instance : Application signature where
  now world := world
  sleepUntil world _ := .stalled world
  record _ world := world
  resume step := .pure (step, step)
  close _ := .pure ()

def first : EventHandle := ⟨⟨0, maxEvents_pos⟩, 0⟩

/-- The first task that is started watches the event and suspends, the second
sleeps, and the third yields before the fourth had its turn.  Then the event
occurs, and the time of the second task comes. -/
def morning : Run signature where
  world := ⟨0⟩
  moves
    | 0 => .operate .claim
    | 1 => .operate (.start .suspend none)
    | 2 => .operate (.start (.sleep ⟨5⟩) none)
    | 3 => .operate (.start .yield none)
    | 4 => .operate (.start .yield none)
    | 5 => .operate (.watch first ⟨0, 0⟩)
    | 6 => .call .run
    | 19 => .outside ⟨5⟩
    | 20 => .interrupt (.occurred first)
    | _ => .step

/-- The fourth task was on the run queue; behind it come the first, the second
and the third. -/
example :
    (match (morning.after 23).control with
      | .pick => true
      | _ => false) = true ∧
    morning.woken 23 = [⟨0, 0⟩] ∧ morning.expired 23 = [⟨1, 0⟩] ∧
    (match (morning.after 23).queueUp with
      | .ok ready => ready.runQueue
      | .error _ => []) = [⟨3, 0⟩, ⟨0, 0⟩, ⟨1, 0⟩, ⟨2, 0⟩] := by
  decide +kernel

end Habit

end EventScheduler
