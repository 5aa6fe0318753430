import EventScheduler.Proofs.Event.Registry
import EventScheduler.Proofs.Kernel.Requests
import EventScheduler.Scheduler.Basic

/-!
# Which changes a turn makes

The parts of a turn that involve no body, as changes of the kernel.
-/

namespace EventScheduler

variable {S : Signature}

namespace Deed

def Drains (deed : Deed) : Prop :=
  deed = .quiet ∨ deed = .drains ∨ deed.Wakes

def Idles (deed : Deed) : Prop :=
  deed.Drains ∨ deed = .counts

end Deed

namespace Kernel

variable [Environment S.World] {kernel next : Kernel S}

theorem dispatchAll_evolves (wellformed : kernel.Wellformed)
    {events : List EventHandle} {woke : Bool}
    (done : kernel.dispatchAll events = .ok (woke, next)) :
    Evolves Deed.Drains kernel next := by
  induction events generalizing kernel woke with
  | nil =>
      cases done
      exact .refl _
  | cons event rest ih =>
      unfold dispatchAll at done
      obtain ⟨⟨first, middle⟩, resumed, later⟩ := exists_ok_of_bind done
      obtain ⟨⟨_, last⟩, dispatched, ended⟩ := exists_ok_of_bind later
      cases ended
      have recorded : Evolves Deed.Drains kernel
          (kernel.record (.dispatches event)) :=
        record_evolves kernel _ (Or.inl rfl)
      have woken := resumeAll_evolves (recorded.wellformed wellformed) resumed
      have before := recorded.trans
        (woken.mono fun deed fits => Or.inr (Or.inr fits))
      exact before.trans (ih (before.wellformed wellformed) dispatched)

theorem drain_evolves (wellformed : kernel.Wellformed)
    {buffer : List EventHandle} {woke : Bool}
    (done : kernel.drain buffer = .ok (woke, next)) :
    Evolves Deed.Drains kernel next := by
  unfold drain at done
  obtain ⟨⟨drained, events⟩, taken, later⟩ := exists_ok_of_bind done
  obtain ⟨⟨_, middle⟩, dispatched, ended⟩ := exists_ok_of_bind later
  cases ended
  have emptied : Evolves Deed.Drains kernel { kernel with events } :=
    .single (.drain (Events.takePending_of_takeInto taken)) (Or.inr (Or.inl rfl))
  have woken := dispatchAll_evolves (emptied.wellformed wellformed) dispatched
  exact .step (emptied.trans woken) (.clock _) (Or.inl rfl)

end Kernel

/-! ### The counters of the loop -/

namespace Kernel

variable {kernel next : Kernel S}

def countDispatch (kernel : Kernel S) : Kernel S :=
  { kernel with stats :=
      { kernel.stats with dispatches := kernel.stats.dispatches + 1 } }

def countWait (kernel : Kernel S) : Kernel S :=
  { kernel with stats :=
      { kernel.stats with waits := kernel.stats.waits + 1 } }

theorem countDispatch_evolves (kernel : Kernel S) :
    Evolves (· = .counts) kernel kernel.countDispatch :=
  .single (.count _ rfl) rfl

theorem countWait_evolves (evolves : Evolves Deed.Drains kernel next) :
    Evolves Deed.Idles kernel next.countWait :=
  .step (evolves.mono fun _ => Or.inl) (.count _ rfl) (Or.inr rfl)

end Kernel

namespace Scheduler

variable {scheduler next : Scheduler S}

/-- Expired timers and then the task that yielded go to the run queue. -/
theorem queueUp_evolves (wellformed : scheduler.kernel.Wellformed)
    (done : scheduler.queueUp = .ok next) :
    next.yielded = none ∧ ∃ middle,
      Kernel.Change scheduler.kernel .promotes middle ∧
      match scheduler.yielded with
      | some task => Kernel.Change middle (.requeues task) next.kernel
      | none => next.kernel = middle := by
  obtain ⟨tasks, promoted, holds⟩ := wellformed.holds.promoteExpired
    wellformed.sound scheduler.kernel.now
  have change := Kernel.Change.promote holds
  have middle := change.wellformed wellformed
  unfold queueUp at done
  dsimp only at done
  rw [bind_of_ok promoted] at done
  cases yielded : scheduler.yielded with
  | none =>
      simp only [yielded] at done
      cases done
      exact ⟨rfl, _, change, rfl⟩
  | some task =>
      simp only [yielded] at done
      obtain ⟨requeued, queued, ended⟩ := exists_ok_of_bind done
      cases ended
      refine ⟨rfl, _, change, ?_⟩
      have inRange : task.index < maxTasks := by
        by_contra outside
        unfold TaskTable.requeue at queued
        rw [dif_neg outside] at queued
        cases queued
      obtain ⟨known, queuedToo, requeuedHolds⟩ := middle.holds.requeue inRange
      rw [queued] at queuedToo
      cases queuedToo
      exact .requeue requeuedHolds

theorem drained_of_queueUp (done : scheduler.queueUp = .ok next) :
    next.drained = scheduler.drained := by
  unfold queueUp at done
  obtain ⟨promoted, _, later⟩ := exists_ok_of_bind done
  dsimp only at later
  split at later <;>
    obtain ⟨requeued, _, ended⟩ := exists_ok_of_bind later <;>
    cases ended <;> rfl

theorem drained_of_pop {task : Option TaskHandle}
    (done : scheduler.pop = .ok (task, next)) :
    next.drained = scheduler.drained := by
  unfold pop at done
  obtain ⟨popped, _, ended⟩ := exists_ok_of_bind done
  cases ended
  rfl

theorem pop_evolves (wellformed : scheduler.kernel.Wellformed)
    {task : TaskHandle} (done : scheduler.pop = .ok (some task, next)) :
    next.yielded = scheduler.yielded ∧
      Kernel.Change scheduler.kernel (.pops task) next.kernel := by
  obtain ⟨tasks, popped, holds⟩ :=
    wellformed.holds.popRunnable wellformed.sound
  unfold pop at done
  rw [bind_of_ok popped] at done
  obtain ⟨first, rfl⟩ := Prod.mk.inj (Except.ok.inj done)
  exact ⟨rfl, .pop first holds⟩

/-- With nothing to pop, nothing changes. -/
theorem pop_none (wellformed : scheduler.kernel.Wellformed)
    (done : scheduler.pop = .ok (none, next)) :
    next = scheduler ∧ scheduler.kernel.roster.run = [] := by
  obtain ⟨tasks, popped, _⟩ := wellformed.holds.popRunnable wellformed.sound
  unfold pop at done
  have first := done
  rw [bind_of_ok popped] at first
  have nothing := (Prod.mk.inj (Except.ok.inj first)).1
  have run : scheduler.kernel.roster.run = [] := by
    unfold Roster.popRunnable at nothing
    split at nothing
    · assumption
    · cases nothing
  have unchanged : scheduler.kernel.tasks.popRunnable =
      .ok (none, scheduler.kernel.tasks) := by
    unfold TaskTable.popRunnable
    rw [show scheduler.kernel.tasks.linked .run = [] from run]
    rfl
  rw [bind_of_ok unchanged] at done
  cases done
  exact ⟨rfl, run⟩

end Scheduler

namespace Kernel

variable {kernel next : Kernel S}

theorem beginSlice_evolves (wellformed : kernel.Wellformed)
    {task : TaskHandle} {body : S.Body}
    (done : kernel.beginSlice task = .ok (body, next)) :
    Change kernel (.begins task) next := by
  unfold beginSlice at done
  split at done
  · split at done
    · cases done
    · next idle =>
        cases done
        have free : kernel.running = none := by simpa using idle
        exact .take free (wellformed.holds.update task _)
  · cases done

theorem endSlice_evolves (wellformed : kernel.Wellformed) {task : TaskHandle}
    (body : S.Body) (running : kernel.running = some task) :
    Change kernel (.ends task) (kernel.endSlice task body) :=
  .restore body running (wellformed.holds.update task _)

end Kernel

/-- How a task ends whose slice ends with this step, unless it goes on. -/
def Step.exit? {Output Failure : Type} :
    Step Output Failure → Option (Exit Output Failure)
  | .finish value | .shutdown value => some (.returned value)
  | .fail failure => some (.failed failure)
  | .yield | .suspend | .sleep _ => none

def Step.value? {Output Failure : Type} :
    Step Output Failure → Option Output
  | .shutdown value => some value
  | _ => none

namespace Scheduler

variable [Environment S.World] {scheduler next : Scheduler S}

/-- What a step does to the live task that just ran: it yields, it is parked,
or it ends and the tasks that joined it are resumed.  The value is that of a
shutdown. -/
inductive Applied (scheduler : Scheduler S) (task : TaskHandle) :
    S.Step → Option S.Output → Scheduler S → Prop
  | yields : Applied scheduler task .yield none
      { scheduler with yielded := some task }
  | parks {step : S.Step} {kernel : Kernel S}
      (change : Kernel.Change scheduler.kernel (.parks task) kernel)
      (goesOn : step.exit? = none) :
      Applied scheduler task step none { scheduler with kernel }
  | ends {step : S.Step} {recorded buried kernel : Kernel S}
      {value : Option S.Output} {yielded : Option TaskHandle} {exit : S.Exit}
      {joiners : TaskSet maxJoiners} {body : Option S.Body} {woke : Bool}
      (before : Kernel.Evolves (· = .quiet) scheduler.kernel recorded)
      (dies : recorded.Buries task buried)
      (wakes : Kernel.Evolves Deed.Wakes buried kernel)
      (left : yielded = if value.isSome then none else scheduler.yielded)
      (exits : step.exit? = some exit)
      (retires : recorded.Retires task exit joiners body buried)
      (resumed : buried.resumeAll joiners = .ok (woke, kernel))
      (reported : value = step.value?) :
      Applied scheduler task step value { scheduler with kernel, yielded }

private theorem applied_of_finish {recorded kernel : Kernel S}
    {task : TaskHandle} {step : S.Step} {exit : S.Exit}
    {value : Option S.Output} {yielded : Option TaskHandle}
    (wellformed : scheduler.kernel.Wellformed)
    (finished : recorded.finish task exit = .ok kernel)
    (alive : recorded.roster.Alive task)
    (notRunning : recorded.running ≠ some task)
    (before : Kernel.Evolves (· = .quiet) scheduler.kernel recorded)
    (left : yielded = if value.isSome then none else scheduler.yielded)
    (exits : step.exit? = some exit) (reported : value = step.value?) :
    scheduler.Applied task step value { scheduler with kernel, yielded } := by
  have wellformedToo := before.wellformed wellformed
  obtain ⟨joiners, body, buried, woke, dies, retires, resumed⟩ :=
    Kernel.finish_evolves wellformedToo alive notRunning finished
  have wakes := Kernel.resumeAll_evolves
    (dies.evolves.wellformed wellformedToo) resumed
  exact .ends before dies wakes left exits retires resumed reported

theorem apply_applied (wellformed : scheduler.kernel.Wellformed)
    {task : TaskHandle} {step : S.Step} {value : Option S.Output}
    (alive : scheduler.kernel.roster.Alive task)
    (idle : scheduler.kernel.running = none)
    (done : scheduler.apply task step = .ok (value, next)) :
    scheduler.Applied task step value next := by
  have notRunning : scheduler.kernel.running ≠ some task := by
    rw [idle]
    exact (Option.some_ne_none task).symm
  unfold apply at done
  cases step with
  | yield =>
      cases done
      exact .yields
  | suspend =>
      obtain ⟨tasks, suspended, ended⟩ := exists_ok_of_bind done
      cases ended
      have active := wellformed.holds.active_of_suspend suspended
      obtain ⟨known, done, holds⟩ := wellformed.holds.suspend active
      rw [suspended] at done
      cases done
      exact .parks (.suspend alive holds) rfl
  | sleep deadline =>
      obtain ⟨tasks, asleep, ended⟩ := exists_ok_of_bind done
      cases ended
      have active : deadline.isNever = true →
          scheduler.kernel.roster.EachNamed task (· = .active) := by
        intro never
        unfold TaskTable.sleep at asleep
        rw [if_pos never] at asleep
        exact wellformed.holds.active_of_suspend asleep
      obtain ⟨known, done, holds⟩ :=
        wellformed.holds.sleep wellformed.sound active
      rw [asleep] at done
      cases done
      exact .parks (.sleep deadline alive holds) rfl
  | finish value =>
      obtain ⟨kernel, finished, ended⟩ := exists_ok_of_bind done
      cases ended
      exact applied_of_finish wellformed finished alive notRunning (.refl _) rfl
        rfl rfl
  | fail failure =>
      obtain ⟨kernel, finished, ended⟩ := exists_ok_of_bind done
      cases ended
      exact applied_of_finish wellformed finished alive notRunning
        (Kernel.record_evolves _ _ rfl) rfl rfl rfl
  | shutdown value =>
      obtain ⟨kernel, finished, ended⟩ := exists_ok_of_bind done
      cases ended
      exact applied_of_finish wellformed finished alive notRunning
        (Kernel.record_evolves _ _ rfl) rfl rfl rfl

end Scheduler

end EventScheduler
