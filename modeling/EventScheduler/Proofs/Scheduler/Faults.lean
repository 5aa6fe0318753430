import EventScheduler.Proofs.Kernel.Faults
import EventScheduler.Proofs.Scheduler.Relations

/-!
# Which faults a run can end in

No internal assertion fires in any run.  What the assertions of one module rely
on is kept by the others: the lists of the task table, the relations between
tasks and events, the queue of pending events, and that a task that is to be
killed at shutdown is not reaped before.
-/

namespace EventScheduler

variable {S : Signature}

/-! ### The parts of a turn -/

namespace Kernel

variable {kernel : Kernel S} {may : Fault → Prop}

theorem beginSlice_faultsOnly {task : TaskHandle}
    (placed : kernel.Placed (some task)) (idle : kernel.running = none) :
    FaultsOnly may (kernel.beginSlice task) := by
  obtain ⟨index, entry, found, alive⟩ := placed.strays.alive rfl
  obtain ⟨fits, present⟩ := Roster.find?_eq_some_iff.mp found
  have bodied := placed.bodied index entry present alive (by
    rw [idle]
    exact (Option.some_ne_none _).symm)
  obtain ⟨body, known⟩ := Option.isSome_iff_exists.mp bodied
  have stored : kernel.tasks.entry task = .ok entry := by
    unfold TaskTable.entry
    rw [placed.wellformed.holds.find?, found]
  unfold beginSlice
  split
  · rw [idle]
    exact .ok _
  · next bodiless =>
      obtain ⟨state, _, joiners, name⟩ := entry
      cases known
      exact (bodiless state body joiners name stored).elim

variable [Environment S.World]

private theorem dispatchAll_faultsOnly (wellformed : kernel.Wellformed)
    (events : List EventHandle) : FaultsOnly may (kernel.dispatchAll events) := by
  induction events generalizing kernel with
  | nil => exact .ok _
  | cons event rest ih =>
      unfold dispatchAll
      have recorded : Evolves (· = .quiet) kernel
          (kernel.record (.dispatches event)) := record_evolves kernel _ rfl
      have middle := recorded.wellformed wellformed
      refine (resumeAll_faultsOnly middle _).bind fun result resumed => ?_
      have last := (resumeAll_evolves middle resumed).wellformed middle
      exact (ih last).bind fun _ _ => .ok _

/-- Every queued event is enabled, so it can be drained. -/
theorem drain_faultsOnly (wellformed : kernel.Wellformed)
    (consistent : kernel.events.Consistent) :
    FaultsOnly may (kernel.drain []) := by
  obtain ⟨events, taken, _⟩ := Events.exists_ok_of_takePending consistent
  unfold drain
  rw [show kernel.events.takeInto [] = _ from taken]
  have emptied : Change kernel .drains { kernel with events } := .drain taken
  have dispatched : FaultsOnly may
      (dispatchAll { kernel with events } kernel.events.queue) :=
    dispatchAll_faultsOnly (emptied.wellformed wellformed) _
  exact dispatched.bind fun _ _ => .ok _

end Kernel

namespace Scheduler

variable {scheduler : Scheduler S} {may : Fault → Prop}

/-- Whoever is on the timer list has a deadline, so the patience is known. -/
theorem patience_eq (wellformed : scheduler.kernel.Wellformed) :
    scheduler.patience = .ok (
      if scheduler.yielded ≠ none ∨ scheduler.kernel.roster.run ≠ [] then
        some .elapsed
      else
        match scheduler.kernel.roster.timers.head? with
        | some index => some (scheduler.kernel.roster.due index)
        | none =>
            if scheduler.kernel.roster.live = 0 then none else some .never) := by
  unfold patience
  dsimp only
  rw [wellformed.holds.hasRunnable,
    bind_of_ok (wellformed.holds.nextDeadline wellformed.sound),
    wellformed.holds.live]
  cases scheduler.yielded with
  | some task => rfl
  | none =>
      cases scheduler.kernel.roster.run with
      | cons index rest => rfl
      | nil =>
          cases scheduler.kernel.roster.timers with
          | cons index rest => rfl
          | nil => rfl

theorem queueUp_faultsOnly (wellformed : scheduler.kernel.Wellformed)
    (inRange : ∀ task, scheduler.yielded = some task → task.index < maxTasks) :
    FaultsOnly may scheduler.queueUp := by
  obtain ⟨tasks, promoted, holds⟩ := wellformed.holds.promoteExpired
    wellformed.sound scheduler.kernel.now
  have middle := (Kernel.Change.promote holds).wellformed wellformed
  unfold queueUp
  dsimp only
  rw [bind_of_ok promoted]
  cases yielded : scheduler.yielded with
  | none => exact .ok _
  | some task =>
      obtain ⟨requeued, queued, _⟩ :=
        middle.holds.requeue (inRange task yielded)
      dsimp only
      rw [bind_of_ok queued]
      exact .ok _

theorem pop_faultsOnly (wellformed : scheduler.kernel.Wellformed) :
    FaultsOnly may scheduler.pop := by
  obtain ⟨tasks, popped, _⟩ :=
    wellformed.holds.popRunnable wellformed.sound
  unfold pop
  rw [bind_of_ok popped]
  exact .ok _

variable [Environment S.World]

/-- The task that just ran is active, so any step may end its slice. -/
theorem apply_faultsOnly {task : TaskHandle}
    (placed : scheduler.kernel.Placed (some task))
    (idle : scheduler.kernel.running = none) (step : S.Step) :
    FaultsOnly may (scheduler.apply task step) := by
  have wellformed := placed.wellformed
  have alive := placed.strays.alive rfl
  have active := placed.strays.active rfl
  have notRunning : scheduler.kernel.running ≠ some task := by
    rw [idle]
    exact (Option.some_ne_none task).symm
  have finishes (fact : Record) (exit : S.Exit) :
      FaultsOnly may ((scheduler.kernel.record fact).finish task exit) := by
    have recorded : Kernel.Evolves (· = .quiet) scheduler.kernel
        (scheduler.kernel.record fact) := Kernel.record_evolves _ _ rfl
    exact Kernel.finish_faultsOnly (recorded.wellformed wellformed) alive
      notRunning exit
  unfold apply
  cases step with
  | yield => exact .ok _
  | suspend =>
      obtain ⟨tasks, suspended, _⟩ := wellformed.holds.suspend active
      dsimp only
      rw [bind_of_ok suspended]
      exact .ok _
  | sleep deadline =>
      obtain ⟨tasks, asleep, _⟩ :=
        wellformed.holds.sleep wellformed.sound fun _ => active
      dsimp only
      rw [bind_of_ok asleep]
      exact .ok _
  | finish value =>
      exact (Kernel.finish_faultsOnly wellformed alive notRunning _).bind
        fun _ _ => .ok _
  | fail failure => exact (finishes _ _).bind fun _ _ => .ok _
  | shutdown value => exact (finishes _ _).bind fun _ _ => .ok _

end Scheduler

/-! ### Tasks to be killed at shutdown -/

def Control.doomed : Control S → List TaskHandle
  | .sweep _ doomed => doomed
  | _ => []

def Caller.doomed : Caller S → List TaskHandle
  | .sweep _ doomed => doomed
  | .body _ _ => []

namespace Machine

def doomed (machine : Machine S) : List TaskHandle :=
  machine.control.doomed ++ machine.callers.flatMap Caller.doomed

theorem Steady.doomed_eq_nil {machine : Machine S} (steady : machine.Steady)
    (idle : machine.control.isIdle = true) : machine.doomed = [] := by
  unfold doomed
  rw [steady.base (Control.idle_cases idle).1]
  cases control : machine.control with
  | sweep value doomed =>
      rw [control] at idle
      cases idle
  | _ => rfl

variable [Application S] {machine next : Machine S} {move : Move S}
  {task : TaskHandle}

/-- Whom a move dooms is alive. -/
theorem Transition.mem_doomed (transition : Transition machine move next)
    (wellformed : next.kernel.Wellformed) (inside : task ∈ next.doomed) :
    task ∈ machine.doomed ∨ next.kernel.roster.Alive task := by
  have forgotten (later : task ∈ machine.callers.flatMap Caller.doomed) :
      task ∈ machine.doomed := List.mem_append_right _ later
  unfold doomed at inside
  cases transition with
  | still | outside | operates => exact Or.inl inside
  | faults | ends | dispatches | drains | idles | wakes | stalls
  | picksNothing | picks | endsClose | concludes | swept =>
      exact Or.inl (forgotten inside)
  | faultsCall | callsRun | callsNothing | callsErrand | callsClose =>
      cases inside
  | answers | kills => exact Or.inl (forgotten inside)
  | endsSlice control ends applied =>
      rename_i value scheduler
      cases value with
      | none => exact Or.inl (forgotten inside)
      | some value =>
          rcases List.mem_append.mp inside with live | later
          · exact Or.inr (wellformed.holds.mem_liveTasks_iff.mp live)
          · exact Or.inl (forgotten later)
  | returns control waiting | sweepsOn control waiting =>
      refine Or.inl (forgotten ?_)
      rw [waiting]
      exact inside
  | passes control | sweeps body control =>
      unfold doomed
      rw [control]
      exact Or.inl (List.mem_cons_of_mem _ inside)

/-- The buffer for drained events is empty between two dispatches. -/
theorem Transition.drained_eq_nil (transition : Transition machine move next)
    (empty : machine.drained = []) : next.drained = [] := by
  cases transition with
  | drains | idles => rfl
  | picksNothing control queued nobody drained => exact drained.trans empty
  | operates idle done yielded evolves =>
      exact (Scheduler.drained_of_operate done).trans empty
  | endsSlice control ends applied =>
      cases applied <;> exact empty
  | _ => exact empty

/-- What the assertions of a move rely on. -/
structure Guarded (machine : Machine S) : Prop where
  steady : machine.Steady
  related : machine.kernel.Related
  consistent : machine.kernel.events.Consistent
  drained : machine.drained = []
  doomed {task : TaskHandle} :
    task ∈ machine.doomed → machine.kernel.roster.Present task

/-! ### Faults of a step -/

theorem Steady.turn_faultsOnly {may : Fault → Prop} (steady : machine.Steady)
    (control : machine.control = .turn) : FaultsOnly may machine.advance := by
  unfold advance
  rw [control]
  dsimp only
  rw [bind_of_ok (Scheduler.patience_eq steady.placed.wellformed)]
  split
  · exact .ok _
  · exact .ok _

theorem Guarded.dispatch_faultsOnly {may : Fault → Prop}
    (guarded : machine.Guarded) {deadline : Deadline} {woke : Bool}
    (control : machine.control = .dispatch deadline woke) :
    FaultsOnly may machine.advance := by
  unfold advance
  rw [control]
  dsimp only
  rw [guarded.drained]
  refine FaultsOnly.bind (Kernel.drain_faultsOnly
    guarded.steady.placed.wellformed guarded.consistent) fun result _ => ?_
  split
  · exact .ok _
  · exact .ok _

/-- The task that is picked is active and has its body. -/
theorem Steady.pick_faultsOnly {may : Fault → Prop} (steady : machine.Steady)
    (control : machine.control = .pick) : FaultsOnly may machine.advance := by
  have idle := steady.running_eq_none (by rw [control]; rfl)
    (by rw [control]; rfl)
  have inRange (task : TaskHandle) (yielded : machine.yielded = some task) :
      task.index < maxTasks := by
    have stray : machine.stray = some task := by
      unfold stray
      rw [idle, yielded]
      rfl
    obtain ⟨index, fits⟩ := steady.placed.strays.named stray
    rw [← fits]
    exact index.isLt
  have wellformed := steady.placed.wellformed
  unfold advance
  rw [control]
  dsimp only
  refine (Scheduler.queueUp_faultsOnly wellformed inRange).bind
    fun scheduler queued => ?_
  obtain ⟨same, placed⟩ := placed_of_queuedUp steady idle
    (Scheduler.queueUp_evolves wellformed queued)
  refine (Scheduler.pop_faultsOnly placed.wellformed).bind fun result pop => ?_
  obtain ⟨task, popped⟩ := result
  cases task with
  | none => exact .ok _
  | some task =>
      obtain ⟨_, pops⟩ := Scheduler.pop_evolves placed.wellformed pop
      have poppedPlaced := pops.placed placed fun _ _ => rfl
      have still := pops.running_eq (fun _ impossible => nomatch impossible)
        fun _ impossible => nomatch impossible
      have recorded : Kernel.Evolves (· = .quiet) popped.kernel
          (popped.kernel.record (.runs task)) := Kernel.record_evolves _ _ rfl
      obtain ⟨_, recordedPlaced⟩ := recorded.placed Deed.quiet_calm
        (fun _ impossible => nomatch impossible) poppedPlaced
      exact (Kernel.beginSlice_faultsOnly recordedPlaced
        (still.trans same)).bind fun _ _ => .ok _

private theorem Guarded.body_faultsOnly (guarded : machine.Guarded)
    {role : Role} {program : Program S (role.Result S)}
    (control : machine.control = .body role program) :
    FaultsOnly (· = .queueOverflow) machine.advance := by
  have wellformed := guarded.steady.placed.wellformed
  unfold advance
  rw [control]
  dsimp only
  cases program with
  | pure result =>
      cases role with
      | slice task =>
          obtain ⟨step, body⟩ := result
          have running := guarded.steady.running_of_slice control
          have ends := Kernel.endSlice_evolves wellformed body running
          have placed := guarded.steady.placed_of_ends control ends
          refine FaultsOnly.bind
            (Scheduler.apply_faultsOnly placed rfl step) fun result _ => ?_
          obtain ⟨value, scheduler⟩ := result
          cases value with
          | none => exact .ok _
          | some value => exact .ok _
      | close closing =>
          exact (Kernel.complete_faultsOnly wellformed closing).bind
            fun _ _ => .ok _
  | ask request rest =>
      refine (Kernel.perform_faultsOnly wellformed guarded.related role.task
        request).bind fun started _ => ?_
      cases started with
      | answered reply kernel => exact .ok _
      | underway closing body reply kernel => exact .ok _

/-- Whoever is to be killed at shutdown is still known, and nobody runs. -/
private theorem Guarded.sweep_faultsOnly (guarded : machine.Guarded)
    {value : S.Output} {doomed : List TaskHandle}
    (control : machine.control = .sweep value doomed) :
    FaultsOnly (· = .queueOverflow) machine.advance := by
  have wellformed := guarded.steady.placed.wellformed
  have idle := guarded.steady.running_eq_none (by rw [control]; rfl)
    (by rw [control]; rfl)
  unfold advance
  rw [control]
  cases doomed with
  | nil => exact .ok _
  | cons task doomed =>
      dsimp only
      refine (Kernel.kill_faultsOnly wellformed task).bind
        fun killing killed => ?_
      cases killing with
      | refused error =>
          have inside : task ∈ machine.doomed := by
            unfold Machine.doomed
            rw [control]
            exact List.mem_cons_self
          refine absurd killed (Kernel.not_refused_of_present wellformed
            (guarded.doomed inside) ?_)
          rw [idle]
          exact (Option.some_ne_none task).symm
      | needless => exact .ok _
      | begun joiners body kernel => exact .ok _

theorem Guarded.advance_faultsOnly (guarded : machine.Guarded) :
    FaultsOnly (· = .queueOverflow) machine.advance := by
  cases control : machine.control with
  | turn => exact guarded.steady.turn_faultsOnly control
  | dispatch deadline woke => exact guarded.dispatch_faultsOnly control
  | sleep deadline =>
      unfold advance
      rw [control]
      dsimp only
      split
      · exact .ok _
      · exact (Kernel.serve_faultsOnly _ _).bind fun _ _ => .ok _
      · exact .ok _
  | pick => exact guarded.steady.pick_faultsOnly control
  | body role program => exact guarded.body_faultsOnly control
  | verdict verdict =>
      unfold advance
      rw [control]
      dsimp only
      split <;> exact .ok _
  | sweep value doomed => exact guarded.sweep_faultsOnly control
  | concluded | stalled | faulted =>
      unfold advance
      rw [control]
      exact .ok _

/-! ### Faults of the other moves -/

end Machine

theorem Scheduler.operate_faultsOnly [Environment S.World]
    {scheduler : Scheduler S} (wellformed : scheduler.kernel.Wellformed)
    (operation : Operation S) :
    FaultsOnly (· = .queueOverflow) (scheduler.operate operation) := by
  cases operation with
  | start body name =>
      exact (Kernel.start_faultsOnly wellformed body name).bind fun _ _ => .ok _
  | resume task =>
      exact (Kernel.resume_faultsOnly wellformed task).bind fun _ _ => .ok _
  | reap task =>
      unfold operate reap
      dsimp only
      rw [bind_of_ok (TaskTable.tryReap_eq _ task)]
      split
      · exact .ok _
      · exact .ok _
  | setPending event =>
      exact (Kernel.setPending_faultsOnly _ event).bind fun _ _ => .ok _
  | handle event body name =>
      exact (Kernel.handle_faultsOnly wellformed event body name).bind
        fun _ _ => .ok _
  | _ => exact .ok _

namespace Machine

variable [Application S] {machine : Machine S}

/-- A step that is no fault leads to one only from a fault. -/
private theorem control_of_advance {next : Machine S} (sane : machine.Sane)
    {fault : Fault} (done : machine.advance = .ok next)
    (faulted : next.control = .faulted fault) :
    machine.control = .faulted fault := by
  cases transition_of_advance sane done with
  | still | outside => exact faulted
  | faults known failed =>
      rw [failed rfl] at done
      cases done
  | endsSlice control ends applied =>
      rename_i value _
      cases value <;> cases faulted
  | _ => cases faulted

private theorem control_ofStarted {scheduler : Scheduler S}
    {started : Except Fault (Started S (Except Error Bool))} {fault : Fault}
    (safe : FaultsOnly (· = .queueOverflow) started)
    (faulted : (ofStarted scheduler started).control = .faulted fault) :
    fault = .queueOverflow := by
  cases started with
  | error known =>
      cases faulted
      exact safe fault rfl
  | ok result => cases result <;> cases faulted

private theorem Guarded.control_launch (guarded : machine.Guarded)
    {call : Call} {fault : Fault}
    (faulted : (launch machine.toScheduler call).control = .faulted fault) :
    fault = .queueOverflow := by
  have wellformed := guarded.steady.placed.wellformed
  cases call with
  | kill task =>
      exact control_ofStarted (Kernel.startKill_faultsOnly wellformed task)
        faulted
  | stopHandler event =>
      exact control_ofStarted (Kernel.startStop_faultsOnly wellformed event)
        faulted
  | release event =>
      exact control_ofStarted (Kernel.startErrand_faultsOnly wellformed
        guarded.related event (.release event)).map faulted
  | abandon event =>
      exact control_ofStarted (Kernel.startErrand_faultsOnly wellformed
        guarded.related event (.abandon event)).map faulted
  | run => cases faulted

/-- What a move makes a fault of is an overflow. -/
theorem Guarded.control_move (guarded : machine.Guarded) {move : Move S}
    {fault : Fault} (faulted : (machine.move move).control = .faulted fault) :
    machine.control = .faulted fault ∨ fault = .queueOverflow := by
  cases move with
  | step =>
      unfold Machine.move step at faulted
      dsimp only at faulted
      split at faulted
      · next next done =>
          exact Or.inl (control_of_advance guarded.steady.sane done faulted)
      · next known failed =>
          cases faulted
          exact Or.inr (guarded.advance_faultsOnly fault failed)
  | call call =>
      unfold Machine.move at faulted
      dsimp only at faulted
      split at faulted
      · exact Or.inr (guarded.control_launch faulted)
      · exact Or.inl faulted
  | operate operation =>
      unfold Machine.move at faulted
      dsimp only at faulted
      split at faulted
      · split at faulted
        · exact Or.inl faulted
        · next known failed =>
            cases faulted
            exact Or.inr (Scheduler.operate_faultsOnly
              guarded.steady.placed.wellformed operation fault failed)
      · exact Or.inl faulted
  | interrupt interrupt =>
      unfold Machine.move Machine.interrupt at faulted
      dsimp only at faulted
      split at faulted
      · exact Or.inl faulted
      · exact Or.inl faulted
      · next known failed _ =>
          cases faulted
          exact Or.inr (Kernel.interrupt_faultsOnly _ interrupt fault failed)
  | outside world => exact Or.inl faulted

end Machine

/-! ### Runs -/

def Control.fault? : Control S → Option Fault
  | .faulted fault => some fault
  | _ => none

variable [Application S]

theorem Run.guarded (run : Run S) (count : Nat) :
    (run.after count).Guarded := by
  induction count with
  | zero =>
      exact ⟨run.steady 0, run.related 0, .empty, rfl, fun inside =>
        absurd inside List.not_mem_nil⟩
  | succ count ih =>
      have transition := run.transition count
      have accounted := run.accounted count
      have steady := run.steady (count + 1)
      refine ⟨steady, run.related (count + 1),
        accounted.consistent ih.consistent, transition.drained_eq_nil ih.drained,
        fun {task} inside => ?_⟩
      rcases transition.mem_doomed steady.placed.wellformed inside with
        already | alive
      · refine accounted.present ih.steady.placed.wellformed (fun reaps => ?_)
          (ih.doomed already)
        -- Dead tasks are reaped only while nothing is going on.
        have idle := (reaps.reaps rfl).eq_reap.1
        rw [ih.steady.doomed_eq_nil idle] at already
        cases already
      · exact alive.present

/-- Whatever has failed, the queue of pending events was full. -/
theorem Run.control_of_isFaulted {run : Run S} {count : Nat}
    (faulted : (run.after count).control.isFaulted = true) :
    (run.after count).control = .faulted .queueOverflow := by
  induction count with
  | zero => cases faulted
  | succ count ih =>
      cases control : (run.after (count + 1)).control with
      | faulted fault =>
          refine congrArg Control.faulted ?_
          rcases (run.guarded count).control_move control with
            already | overflow
          · have before := ih (by rw [already]; rfl)
            rw [already] at before
            exact Control.faulted.inj before
          · exact overflow
      | _ =>
          rw [control] at faulted
          cases faulted

/-- In no state of any run does an internal assertion fail: the only fault is
that the queue of pending events overflows. -/
theorem Run.onlyOverflows (run : Run S) (count : Nat) :
    (run.after count).control.fault? = none ∨
      (run.after count).control.fault? = some .queueOverflow := by
  cases control : (run.after count).control with
  | faulted fault =>
      have faulted : (run.after count).control.isFaulted = true := by
        rw [control]
        rfl
      have overflow := Run.control_of_isFaulted faulted
      rw [control] at overflow
      exact Or.inr (congrArg Control.fault? overflow)
  | _ => exact Or.inl rfl

end EventScheduler
