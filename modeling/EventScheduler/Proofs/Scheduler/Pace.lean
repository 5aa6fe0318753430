import EventScheduler.Proofs.Scheduler.Dispatch

/-!
# When the loop sleeps and what a turn runs

The loop sleeps only while nobody is ready, and until the first deadline there
is.  When a dispatch returns there is a task to run, so every turn whose
dispatch returns runs one slice, and the counters of the loop say how many
slices were run and how often the loop slept.
-/

namespace EventScheduler

variable {S : Signature}

/-! ### Changes that the counters do not notice -/

namespace Deed

def continues : Deed → Bool
  | .begins _ | .ends _ | .counts => false
  | _ => true

variable {deed : Deed}

theorem continues_of_isAsked (asked : deed.isAsked = true) :
    deed.continues = true := by
  cases deed with
  | begins | ends | counts => cases asked
  | _ => rfl

theorem Outside.continues (fits : deed.Outside) : deed.continues = true := by
  rcases fits with rfl | ⟨event, rfl | rfl⟩ <;> rfl

theorem Wakes.continues (fits : deed.Wakes) : deed.continues = true :=
  continues_of_isAsked fits.isAsked

theorem Drains.continues (fits : deed.Drains) : deed.continues = true := by
  rcases fits with rfl | rfl | fits
  · rfl
  · rfl
  · exact fits.continues

theorem Buries.continues {task : TaskHandle} (fits : deed.Buries task) :
    deed.continues = true := by
  rcases fits with rfl | rfl <;> rfl

theorem quiet_continues (deed : Deed) (quiet : deed = .quiet) :
    deed.continues = true := by
  rw [quiet]
  rfl

theorem continues_of_errand {event : EventHandle} {errand : Errand}
    (fits : (∃ task, deed = .resigns event task) ∨ deed.Settles errand) :
    deed.continues = true := by
  rcases fits with ⟨task, rfl⟩ | fits
  · rfl
  · exact continues_of_isAsked fits.isAsked

end Deed

theorem Request.May.continues {current : TaskHandle} {request : Request S}
    {reply : request.Reply} {deed : Deed}
    (fits : request.May current reply deed) : deed.continues = true := by
  rcases fits.isAsked_or with asked | ⟨_, _, rfl, _⟩
  · exact Deed.continues_of_isAsked asked
  · rfl

namespace Kernel

variable {kernel next third : Kernel S}

/-- The same task runs, if any, and the counters of the loop are as they
were. -/
structure Continues (kernel next : Kernel S) : Prop where
  running : next.running = kernel.running
  dispatches : next.stats.dispatches = kernel.stats.dispatches
  waits : next.stats.waits = kernel.stats.waits

theorem Continues.refl (kernel : Kernel S) : kernel.Continues kernel :=
  ⟨rfl, rfl, rfl⟩

theorem Continues.trans (before : kernel.Continues next)
    (after : next.Continues third) : kernel.Continues third :=
  ⟨after.running.trans before.running,
    after.dispatches.trans before.dispatches, after.waits.trans before.waits⟩

theorem Change.continues {deed : Deed} (change : Change kernel deed next)
    (continues : deed.continues = true) : kernel.Continues next := by
  cases change with
  | take | restore | count => cases continues
  | _ => exact ⟨rfl, rfl, rfl⟩

theorem Evolves.continues {may : Deed → Prop} (evolves : Evolves may kernel next)
    (each : ∀ deed, may deed → deed.continues = true) :
    kernel.Continues next :=
  evolves.keeps
    (fun allowed change before =>
      before.trans (change.continues (each _ allowed)))
    (.refl kernel)

end Kernel

/-! ### What is counted -/

namespace Control

def isSleeping : Control S → Bool
  | .sleep _ => true
  | _ => false

def isStalled : Control S → Bool
  | .stalled => true
  | _ => false

end Control

namespace Machine

def beginsSlice (machine next : Machine S) : Bool :=
  machine.kernel.running.isNone && next.kernel.running.isSome

def asksToSleep (machine : Machine S) : Move S → Bool
  | .step => machine.control.isSleeping
  | _ => false

def stalls (machine next : Machine S) : Bool :=
  machine.control.isSleeping && next.control.isStalled

/-- A dispatch is counted when it begins, and a slice begins or the loop stalls
when it is over.  A sleep is counted right before it begins. -/
structure Counts (machine : Machine S) (move : Move S) (next : Machine S) :
    Prop where
  dispatches : next.kernel.stats.dispatches +
      machine.control.isDispatching.toNat =
    machine.kernel.stats.dispatches + next.control.isDispatching.toNat +
      (machine.beginsSlice next).toNat + (machine.stalls next).toNat
  waits : next.kernel.stats.waits + machine.control.isSleeping.toNat =
    machine.kernel.stats.waits + next.control.isSleeping.toNat +
      (machine.asksToSleep move).toNat

variable {machine next : Machine S} {move : Move S}

private theorem beginsSlice_of_same
    (same : next.kernel.running = machine.kernel.running) :
    machine.beginsSlice next = false := by
  unfold beginsSlice
  rw [same]
  cases machine.kernel.running <;> rfl

/-- The kernel continues, and a step is taken in the middle of a dispatch or at
its beginning. -/
private theorem counts_of_step {before : Control S}
    (known : machine.control = before)
    (running : next.kernel.running = machine.kernel.running)
    (dispatches : next.kernel.stats.dispatches + before.isDispatching.toNat =
      machine.kernel.stats.dispatches + next.control.isDispatching.toNat +
        (before.isSleeping && next.control.isStalled).toNat)
    (waits : next.kernel.stats.waits = machine.kernel.stats.waits +
      next.control.isSleeping.toNat) : machine.Counts .step next := by
  constructor
  · rw [beginsSlice_of_same running]
    unfold stalls
    rw [known]
    exact dispatches
  · unfold asksToSleep
    rw [waits]

/-- The control does not go on. -/
private theorem counts_of_same
    (continues : machine.kernel.Continues next.kernel)
    (same : next.control = machine.control)
    (awake : machine.asksToSleep move = false) :
    machine.Counts move next := by
  have endless : machine.stalls next = false := by
    unfold stalls
    rw [same]
    cases machine.control <;> rfl
  constructor
  · rw [continues.dispatches, same, beginsSlice_of_same continues.running,
      endless]
    rfl
  · rw [continues.waits, same, awake]
    rfl

private theorem isSleeping_of_isDispatching {control : Control S}
    (away : control.isDispatching = false) : control.isSleeping = false := by
  cases control with
  | sleep => cases away
  | _ => rfl

/-- No dispatch is under way, before or after. -/
private theorem counts_of_away
    (dispatches : next.kernel.stats.dispatches =
      machine.kernel.stats.dispatches)
    (waits : next.kernel.stats.waits = machine.kernel.stats.waits)
    (begins : machine.beginsSlice next = false)
    (before : machine.control.isDispatching = false)
    (after : next.control.isDispatching = false) :
    machine.Counts move next := by
  have asksNothing : machine.asksToSleep move = false := by
    cases move with
    | step => exact isSleeping_of_isDispatching before
    | _ => rfl
  have endless : machine.stalls next = false := by
    unfold stalls
    rw [isSleeping_of_isDispatching before]
    rfl
  constructor
  · rw [dispatches, before, after, begins, endless]
    rfl
  · rw [waits, isSleeping_of_isDispatching before,
      isSleeping_of_isDispatching after, asksNothing]
    rfl

private theorem counts_of_busy
    (continues : machine.kernel.Continues next.kernel)
    (before : machine.control.isDispatching = false)
    (after : next.control.isDispatching = false) :
    machine.Counts move next :=
  counts_of_away continues.dispatches continues.waits
    (beginsSlice_of_same continues.running) before after

private theorem isDispatching_of_isIdle {control : Control S}
    (idle : control.isIdle = true) : control.isDispatching = false := by
  cases control with
  | concluded | stalled => rfl
  | _ => cases idle

private theorem asksToSleep_of_ne_step (other : move ≠ .step) :
    machine.asksToSleep move = false := by
  cases move with
  | step => exact absurd rfl other
  | _ => rfl

private theorem continues_of_queuedUp {scheduler : Scheduler S}
    (queued : machine.toScheduler.QueuedUp scheduler) :
    machine.kernel.Continues scheduler.kernel := by
  obtain ⟨_, middle, promotes, requeues⟩ := queued
  have promoted := promotes.continues rfl
  cases yielded : machine.yielded with
  | none =>
      rw [yielded] at requeues
      rw [requeues]
      exact promoted
  | some task =>
      rw [yielded] at requeues
      exact promoted.trans (requeues.continues rfl)

private theorem continues_of_applied {scheduler after : Scheduler S}
    {task : TaskHandle} {step : S.Step} {value : Option S.Output}
    (applied : scheduler.Applied task step value after) :
    scheduler.kernel.Continues after.kernel := by
  cases applied with
  | yields => exact .refl _
  | parks change => exact change.continues rfl
  | ends before dies wakes left =>
      have recorded := before.continues Deed.quiet_continues
      have buried := dies.evolves.continues fun _ => Deed.Buries.continues
      exact (recorded.trans buried).trans
        (wakes.continues fun _ => Deed.Wakes.continues)

/-- The slice of the task that was picked begins. -/
private theorem counts_of_picks {scheduler : Scheduler S}
    {popped recorded kernel : Kernel S} {task : TaskHandle}
    {program : Program S (S.Step × S.Body)} (steady : machine.Steady)
    (control : machine.control = .pick)
    (queued : machine.toScheduler.QueuedUp scheduler)
    (pops : Kernel.Change scheduler.kernel (.pops task) popped)
    (evolves : Kernel.Evolves (· = .quiet) popped recorded)
    (begins : Kernel.Change recorded (.begins task) kernel) :
    machine.Counts .step { machine with
      kernel
      yielded := none
      control := .body (.slice task) program } := by
  have idle := steady.running_eq_none (by rw [control]; rfl)
    (by rw [control]; rfl)
  have before := ((continues_of_queuedUp queued).trans
    (pops.continues rfl)).trans (evolves.continues Deed.quiet_continues)
  have running := begins.running_of_begins
  have counters : kernel.stats = recorded.stats := by
    cases begins
    rfl
  constructor
  · unfold beginsSlice stalls
    dsimp only
    rw [counters, before.dispatches, idle, running, control]
    rfl
  · unfold asksToSleep
    dsimp only
    rw [counters, before.waits, control]
    rfl

variable [Application S]

/-- What every move counts that does not end in a fault, provided that a task
is found when one is to be picked. -/
theorem Transition.counts (transition : Transition machine move next)
    (steady : machine.Steady) (unfaulted : next.control.isFaulted = false)
    (found : machine.control = .pick → next.control ≠ .turn) :
    machine.Counts move next := by
  cases transition with
  | still rests =>
      refine counts_of_same (.refl _) rfl ?_
      by_cases step : move = .step
      · subst step
        have final := rests rfl
        unfold asksToSleep
        cases control : machine.control with
        | sleep =>
            rw [control] at final
            cases final
        | _ => rfl
      · exact asksToSleep_of_ne_step step
  | outside evolves other =>
      exact counts_of_same
        (evolves.continues fun _ => Deed.Outside.continues) rfl
        (asksToSleep_of_ne_step other)
  | operates idle done yielded evolves =>
      exact counts_of_same
        (evolves.continues fun _ fits =>
          Deed.continues_of_isAsked fits.isAsked) rfl rfl
  | faults | faultsCall => cases unfaulted
  | callsRun idle | callsNothing idle =>
      exact counts_of_busy (.refl _) (isDispatching_of_isIdle idle) rfl
  | callsErrand idle onEvent settles =>
      exact counts_of_busy
        ((Kernel.settlesAtOnce_evolves settles).continues
          fun _ => Deed.continues_of_errand)
        (isDispatching_of_isIdle idle) rfl
  | callsClose body idle begins =>
      exact counts_of_busy
        (begins.begins.buries.evolves.continues fun _ => Deed.Buries.continues)
        (isDispatching_of_isIdle idle) rfl
  | ends control patience evolves =>
      exact counts_of_busy (evolves.continues Deed.quiet_continues)
        (by rw [control]; rfl) rfl
  | dispatches control patience => exact counts_of_step control rfl rfl rfl
  | drains control evolves =>
      have continues := evolves.continues fun _ => Deed.Drains.continues
      exact counts_of_step control continues.running
        (congrArg (· + 1) continues.dispatches) continues.waits
  | idles control evolves =>
      have continues := evolves.continues fun _ => Deed.Drains.continues
      exact counts_of_step control continues.running
        (congrArg (· + 1) continues.dispatches)
        (congrArg (· + 1) continues.waits)
  | wakes control evolves | stalls control evolves =>
      have continues := evolves.continues fun _ => Deed.Outside.continues
      exact counts_of_step control continues.running
        (congrArg (· + 1) continues.dispatches) continues.waits
  -- A turn that has dispatched finds a task; this is where that is used.
  | picksNothing control => exact absurd rfl (found control)
  | picks body control queued pops evolves begins =>
      exact counts_of_picks steady control queued pops evolves begins
  | answers control done evolves =>
      exact counts_of_busy (evolves.continues fun _ => Request.May.continues)
        (by rw [control]; rfl) rfl
  | kills body control begins | sweeps body control begins =>
      exact counts_of_busy
        (begins.begins.buries.evolves.continues fun _ => Deed.Buries.continues)
        (by rw [control]; rfl) rfl
  | endsSlice control ends applied =>
      rename_i task step body value scheduler
      have continues := continues_of_applied applied
      have running := steady.running_of_slice control
      refine counts_of_away continues.dispatches continues.waits ?_
        (by rw [control]; rfl) ?_
      · unfold beginsSlice
        rw [running]
        rfl
      · cases value <;> rfl
  | endsClose control wakes settles resumed =>
      rename_i closing verdict _ middle kernel
      have settled := middle.settle_evolves closing.errand
      rw [settles] at settled
      exact counts_of_busy
        ((wakes.continues fun _ => Deed.Wakes.continues).trans
          (settled.continues fun _ fits =>
            Deed.continues_of_isAsked fits.isAsked))
        (by rw [control]; rfl) rfl
  | concludes control | returns control | sweepsOn control | swept control
  | passes control =>
      exact counts_of_busy (.refl _) (by rw [control]; rfl) rfl

end Machine

/-! ### Sleeping -/

/-- The deadline is the first that a task sleeps until, or never if nobody
sleeps. -/
structure Scheduler.Awaits (scheduler : Scheduler S) (deadline : Deadline) :
    Prop where
  never_iff : deadline = .never ↔ scheduler.timers = []
  least {task : TaskHandle} :
    task ∈ scheduler.timers → deadline ≤ scheduler.kernel.due task
  attained : scheduler.timers ≠ [] →
    ∃ task ∈ scheduler.timers, scheduler.kernel.due task = deadline

namespace Scheduler

variable {scheduler : Scheduler S}

private theorem awaits_never (nobody : scheduler.timers = []) :
    scheduler.Awaits .never where
  never_iff := iff_of_true rfl nobody
  least inside := by
    rw [nobody] at inside
    cases inside
  attained someone := absurd nobody someone

private theorem awaits_head (wellformed : scheduler.kernel.Wellformed)
    {index : SlotIndex} {rest : List SlotIndex}
    (timers : scheduler.kernel.roster.timers = index :: rest) :
    scheduler.Awaits (scheduler.kernel.roster.due index) := by
  have due := Kernel.due_handleAt wellformed
  have sound := wellformed.sound
  have first : index ∈ scheduler.kernel.roster.timers :=
    timers ▸ List.mem_cons_self
  have sleeper : scheduler.kernel.roster.handleAt index ∈ scheduler.timers :=
    List.mem_map_of_mem first
  obtain ⟨deadline, asleep⟩ := sound.mem_timers_iff.mp first
  refine ⟨iff_of_false (fun never => ?_) (List.ne_nil_of_mem sleeper),
    fun {task} inside => ?_, fun _ => ⟨_, sleeper, due index⟩⟩
  · have sometime := sound.not_never asleep
    rw [← Roster.due_eq asleep, never] at sometime
    cases sometime
  · obtain ⟨slot, member, rfl⟩ := List.mem_map.mp inside
    have place : slot ∈ scheduler.kernel.roster.timers := member
    have sorted := sound.sorted
    change _ ≤ scheduler.kernel.due (scheduler.kernel.roster.handleAt slot)
    rw [due]
    rw [timers] at sorted place
    rcases List.mem_cons.mp place with rfl | later
    · exact Deadline.le_refl _
    · exact List.rel_of_pairwise_cons sorted later

end Scheduler

namespace Machine

/-- The loop is about to sleep, in the turn that began at `top`. -/
structure Sleeps (top machine : Machine S) (deadline : Deadline) : Prop where
  turn : top.control = .turn
  runQueue : machine.runQueue = []
  yielded : machine.yielded = none
  live : 0 < machine.live
  /-- Nobody was woken since the top of the turn. -/
  roster : machine.kernel.roster = top.kernel.roster
  resumes : machine.kernel.stats.resumes = top.kernel.stats.resumes
  awaits : machine.Awaits deadline
  early : deadline.reached machine.kernel.now = false

variable {top machine : Machine S} {events : List EventHandle}
  {deadline : Deadline}

theorem Dispatching.sleeps_of_control (turn : top.control = .turn)
    (dispatching : top.Dispatching machine events) (steady : machine.Steady)
    (control : machine.control = .sleep deadline) :
    top.Sleeps machine deadline := by
  cases dispatching with
  | drains known | returns known => cases known.symm.trans control
  | sleeps known dispatched nobody patient early =>
      cases known.symm.trans control
      obtain ⟨wellformed, patience, rouses, yielded⟩ := dispatched
      have wellformedToo := steady.placed.wellformed
      rw [nobody] at rouses
      have same := rouses.roster.eq_of_nil
      -- Had anybody been ready, there would have been no patience.
      have nobodyReady :
          ¬ (top.yielded ≠ none ∨ top.kernel.roster.run ≠ []) := by
        intro ready
        rw [Scheduler.patience_eq wellformed, if_pos ready] at patience
        cases patience
        exact patient rfl
      obtain ⟨notYielded, notQueued⟩ := not_or.mp nobodyReady
      rw [not_not] at notYielded notQueued
      have first := Scheduler.patience_cases wellformed notYielded notQueued
        patience
      rw [← same] at first notQueued
      have live : machine.live = machine.kernel.roster.live :=
        wellformedToo.holds.live
      have found : machine.Awaits deadline ∧ 0 < machine.live := by
        rw [live]
        rcases first with ⟨noTimers, rfl, positive⟩ | ⟨index, rest, timers, rfl⟩
        · have nobodyAsleep : machine.timers = [] :=
            List.map_eq_nil_iff.mpr noTimers
          exact ⟨Scheduler.awaits_never nobodyAsleep, positive⟩
        · have head : index ∈ machine.kernel.roster.timers :=
            timers ▸ List.mem_cons_self
          obtain ⟨deadline, asleep⟩ :=
            wellformedToo.sound.mem_timers_iff.mp head
          exact ⟨Scheduler.awaits_head wellformedToo timers,
            wellformedToo.sound.live_pos (Roster.isLive_eq asleep)⟩
      exact ⟨turn, List.map_eq_nil_iff.mpr notQueued, yielded.trans notYielded,
        found.2, same, rouses.resumes, found.1, early⟩

end Machine

/-! ### Runs -/

namespace Run

variable [Application S]

def tally (run : Run S) (counted : Machine S → Move S → Machine S → Bool) :
    Nat → Nat
  | 0 => 0
  | count + 1 => run.tally counted count +
      (counted (run.after count) (run.moves count)
        (run.after (count + 1))).toNat

def slices (run : Run S) : Nat → Nat :=
  run.tally fun machine _ next => machine.beginsSlice next

def sleeps (run : Run S) : Nat → Nat :=
  run.tally fun machine move _ => machine.asksToSleep move

def stalls (run : Run S) : Nat → Nat :=
  run.tally fun machine _ next => machine.stalls next

/-- When a dispatch returns there is a task to pop, and its slice begins. -/
theorem picks (run : Run S) (count : Nat)
    (control : (run.after count).control = .pick) :
    ∃ ready task popped program,
      (run.after count).queueUp = .ok ready ∧
      ready.pop = .ok (some task, popped) ∧
      ((run.after count).move .step).control = .body (.slice task) program ∧
      ((run.after count).move .step).kernel.running = some task := by
  have steady := run.steady count
  obtain ⟨_, dispatching⟩ := run.dispatching count (by rw [control]; rfl)
  obtain ⟨_, task, _, popped, program, queued, _, _, pops, slice, running, _⟩ :=
    dispatching.begins steady control
  exact ⟨_, task, popped, program, queued, pops, slice, running⟩

private theorem not_turn_of_pick (run : Run S) (count : Nat)
    (control : (run.after count).control = .pick) :
    (run.after (count + 1)).control ≠ .turn := by
  intro turn
  change ((run.after count).move (run.moves count)).control = .turn at turn
  by_cases step : run.moves count = .step
  · obtain ⟨ready, task, popped, program, _, _, slice, _⟩ :=
      run.picks count control
    rw [step, slice] at turn
    cases turn
  · have busy : (run.after count).control.isIdle = false := by
      rw [control]
      rfl
    rcases Machine.move_of_busy busy step with
      ⟨fault, same⟩ | ⟨registry, world, same⟩
    · rw [same] at turn
      cases turn
    · rw [same] at turn
      cases turn.symm.trans control

/-- The pace of a run. -/
structure Paced (run : Run S) (count : Nat) : Prop where
  /-- The loop sleeps only while nobody is ready, and until the first deadline
  there is. -/
  sleeps {deadline : Deadline} : (run.after count).control = .sleep deadline →
    (run.after (run.top count)).Sleeps (run.after count) deadline
  /-- When a dispatch returns there is a task to pop, and its slice begins. -/
  picks : (run.after count).control = .pick →
    ∃ ready task popped program,
      (run.after count).queueUp = .ok ready ∧
      ready.pop = .ok (some task, popped) ∧
      ((run.after count).move .step).control = .body (.slice task) program ∧
      ((run.after count).move .step).kernel.running = some task
  /-- All dispatches came to a slice but those that never returned and the one
  that is under way. -/
  dispatches : (run.after count).control.isFaulted = false →
    (run.after count).kernel.stats.dispatches =
      run.slices count + run.stalls count +
        (run.after count).control.isDispatching.toNat
  /-- All waits were sleeps but the one that is about to begin. -/
  waits : (run.after count).control.isFaulted = false →
    (run.after count).kernel.stats.waits =
      run.sleeps count + (run.after count).control.isSleeping.toNat

private theorem counters (run : Run S) (count : Nat)
    (unfaulted : (run.after count).control.isFaulted = false) :
    (run.after count).kernel.stats.dispatches =
        run.slices count + run.stalls count +
          (run.after count).control.isDispatching.toNat ∧
      (run.after count).kernel.stats.waits =
        run.sleeps count + (run.after count).control.isSleeping.toNat := by
  induction count with
  | zero => exact ⟨rfl, rfl⟩
  | succ count ih =>
      have steady := run.steady count
      have transition := run.transition count
      obtain ⟨dispatches, waits⟩ := ih (transition.isFaulted unfaulted)
      obtain ⟨dispatched, waited⟩ := transition.counts steady unfaulted
        (run.not_turn_of_pick count)
      have slices : run.slices (count + 1) = run.slices count +
          ((run.after count).beginsSlice (run.after (count + 1))).toNat := rfl
      have stalls : run.stalls (count + 1) = run.stalls count +
          ((run.after count).stalls (run.after (count + 1))).toNat := rfl
      have sleeps : run.sleeps (count + 1) = run.sleeps count +
          ((run.after count).asksToSleep (run.moves count)).toNat := rfl
      constructor
      · omega
      · omega

theorem paced (run : Run S) (count : Nat) : run.Paced count where
  sleeps control := by
    obtain ⟨turn, dispatching⟩ := run.dispatching count (by rw [control]; rfl)
    exact dispatching.sleeps_of_control turn (run.steady count) control
  picks := run.picks count
  dispatches unfaulted := (run.counters count unfaulted).1
  waits unfaulted := (run.counters count unfaulted).2

end Run

end EventScheduler
