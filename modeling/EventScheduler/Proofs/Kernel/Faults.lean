import EventScheduler.Proofs.Event.Queue
import EventScheduler.Proofs.Kernel.Relations
import EventScheduler.Proofs.Kernel.Requests
import EventScheduler.Proofs.Task.Present

/-!
# Which faults an operation can end in

On a kernel whose tasks are linked as they should be and whose tables name live
tasks only, no operation breaks an internal invariant.  The one fault left is
that the queue of pending events overflows.
-/

namespace EventScheduler

variable {S : Signature}

/-- If the result is a fault, it is one that may be. -/
def FaultsOnly {Value : Type} (may : Fault → Prop)
    (result : Except Fault Value) : Prop :=
  ∀ fault, result = .error fault → may fault

namespace FaultsOnly

variable {First Second : Type} {may : Fault → Prop}

theorem ok (value : First) : FaultsOnly may (.ok value) :=
  fun _ impossible => nomatch impossible

theorem bind {result : Except Fault First}
    {next : First → Except Fault Second} (first : FaultsOnly may result)
    (later : ∀ value, result = .ok value → FaultsOnly may (next value)) :
    FaultsOnly may (result >>= next) := by
  intro fault failed
  cases result with
  | error known =>
      cases failed
      exact first fault rfl
  | ok value => exact later value rfl fault failed

theorem map {result : Except Fault First} {change : First → Second}
    (first : FaultsOnly may result) : FaultsOnly may (result.map change) := by
  intro fault failed
  cases result with
  | error known =>
      cases failed
      exact first fault rfl
  | ok value => cases failed

/-- What is no fault at all has a value. -/
theorem exists_ok {result : Except Fault First}
    (never : FaultsOnly (fun _ => False) result) :
    ∃ value, result = .ok value := by
  cases result with
  | error fault => exact (never fault rfl).elim
  | ok value => exact ⟨value, rfl⟩

end FaultsOnly

namespace Kernel

variable {kernel next : Kernel S} {may : Fault → Prop} {task : TaskHandle}

/-! ### What every change keeps -/

/-- A task stays in its slot until it is reaped. -/
theorem Change.present {deed : Deed} (change : Change kernel deed next)
    (wellformed : kernel.Wellformed) (stays : deed ≠ .reaps task)
    (present : kernel.roster.Present task) : next.roster.Present task := by
  have sound := wellformed.sound
  cases change with
  | world | clock | count | watch | unwatch | resign | claim | occur | drain
  | release | abandon | giveBack => exact present
  | start started holds | handle unhandled started holds watched =>
      rw [roster_of_holds rfl holds]
      exact present.insert _ _
  | wake found waiting holds =>
      have filled := (Roster.find?_eq_some_iff.mp found).2
      rw [roster_of_holds rfl holds]
      exact present.keeps (.wake filled waiting)
  | die alive notRunning holds =>
      rw [roster_of_holds rfl holds]
      exact (present.retire _ _).forgetJoiner _
  | spoil vacant holds =>
      rw [roster_of_holds rfl holds]
      exact present.free fun _ => vacant
  | join different alive joinerAlive holds =>
      rw [roster_of_holds rfl holds]
      exact present.addJoiner _ _
  | reap dead holds =>
      rw [roster_of_holds rfl holds]
      refine present.reap ?_
      rintro rfl
      exact stays rfl
  | promote holds =>
      rw [roster_of_holds rfl holds]
      exact present.keeps (.promoteExpired sound _)
  | requeue holds =>
      rw [roster_of_holds rfl holds]
      exact present.keeps (.requeue _ _)
  | pop first holds =>
      rw [roster_of_holds rfl holds]
      exact present.keeps (.popRunnable _)
  | take idle holds | restore body running holds =>
      rw [roster_of_holds rfl holds]
      exact present.update _ _
  | suspend alive holds =>
      rw [roster_of_holds rfl holds]
      exact present.keeps (.suspend alive)
  | sleep deadline alive holds =>
      rw [roster_of_holds rfl holds]
      exact present.keeps (.sleep alive deadline)

theorem Evolves.present {deeds : Deed → Prop}
    (evolves : Evolves deeds kernel next) (wellformed : kernel.Wellformed)
    (stays : ¬ deeds (.reaps task)) (present : kernel.roster.Present task) :
    next.roster.Present task := by
  induction evolves with
  | refl => exact present
  | step before change allowed ih =>
      refine change.present (before.wellformed wellformed) ?_ ih
      rintro rfl
      exact stays allowed

/-- The queue of pending events follows the marks of the slots. -/
theorem Change.consistent {deed : Deed} (change : Change kernel deed next)
    (consistent : kernel.events.Consistent) : next.events.Consistent := by
  cases change with
  | claim done => exact consistent.turnover (Events.claim_turnover done)
  | occur done => exact consistent.turnover (Events.setPending_turnover done)
  | drain done =>
      obtain ⟨events, taken, turnover⟩ :=
        Events.exists_ok_of_takePending consistent
      cases taken.symm.trans done
      exact consistent.turnover turnover
  | release done =>
      exact consistent.turnover (Events.release_turnover consistent done)
  | abandon done =>
      exact consistent.turnover (Events.abandon_turnover consistent done)
  | giveBack event =>
      exact consistent.turnover
        (Events.releaseAbandoned_turnover consistent event)
  | _ => exact consistent

theorem Evolves.consistent {deeds : Deed → Prop}
    (evolves : Evolves deeds kernel next)
    (consistent : kernel.events.Consistent) : next.events.Consistent :=
  evolves.keeps (fun _ change => change.consistent) consistent

/-! ### Tasks -/

theorem resume_faultsOnly (wellformed : kernel.Wellformed)
    (task : TaskHandle) : FaultsOnly may (kernel.resume task) := by
  obtain ⟨tasks, activated, _⟩ :=
    wellformed.holds.activate wellformed.sound task
  unfold resume
  rw [bind_of_ok activated]
  dsimp only
  split
  · exact .ok _
  · exact .ok _

private theorem visitList_faultsOnly (wellformed : kernel.Wellformed)
    (tasks : List TaskHandle) :
    FaultsOnly may (TaskSet.visitList resume tasks kernel) := by
  induction tasks generalizing kernel with
  | nil => exact .ok _
  | cons task rest ih =>
      unfold TaskSet.visitList
      refine (resume_faultsOnly wellformed task).bind fun result resumed => ?_
      have evolves := resume_evolves wellformed resumed
      exact (ih (evolves.wellformed wellformed)).bind fun _ _ => .ok _

theorem resumeAll_faultsOnly (wellformed : kernel.Wellformed)
    {capacity : Nat} (tasks : TaskSet capacity) :
    FaultsOnly may (kernel.resumeAll tasks) :=
  visitList_faultsOnly wellformed tasks.toList

/-! ### Events -/

theorem setPending_faultsOnly (events : Events) (event : EventHandle) :
    FaultsOnly (· = .queueOverflow) (events.setPending event) :=
  fun _ failed => (Events.setPending_error_iff.mp failed).1

theorem interrupt_faultsOnly (events : Events) (interrupt : Interrupt) :
    FaultsOnly (· = .queueOverflow) (events.interrupt interrupt) := by
  cases interrupt with
  | occurred event =>
      exact (setPending_faultsOnly events event).bind fun _ _ => .ok _
  | givenBack event => exact .ok _

theorem serve_faultsOnly (events : Events) (interrupts : List Interrupt) :
    FaultsOnly (· = .queueOverflow) (events.serve interrupts) := by
  induction interrupts generalizing events with
  | nil => exact .ok _
  | cons interrupt rest ih =>
      exact (interrupt_faultsOnly events interrupt).bind
        fun events _ => ih events

private theorem answerClaim_faultsOnly
    (result : Except Error (EventHandle × Events)) :
    FaultsOnly may (kernel.answerClaim result) := by
  cases result with
  | error error => exact .ok _
  | ok claimed => exact .ok _

/-! ### Starting tasks -/

variable [Environment S.World]

theorem start_faultsOnly (wellformed : kernel.Wellformed) (body : S.Body)
    (name : Option String) : FaultsOnly may (kernel.start body name) := by
  obtain ⟨tasks, inserted, _⟩ :=
    wellformed.holds.insert wellformed.sound body name
  unfold start
  rw [bind_of_ok inserted]
  cases (kernel.roster.insert body name).1 with
  | error error => exact .ok _
  | ok task => exact .ok _

theorem handle_faultsOnly (wellformed : kernel.Wellformed)
    (event : EventHandle) (body : S.Body) (name : Option String) :
    FaultsOnly may (kernel.handle event body name) := by
  unfold handle
  split
  · exact .ok _
  split
  · exact .ok _
  obtain ⟨tasks, inserted, holds⟩ :=
    wellformed.holds.insert wellformed.sound body name
  rw [bind_of_ok inserted]
  cases started : (kernel.roster.insert body name).1 with
  | error error => exact .ok _
  | ok task =>
      dsimp only [Except.map]
      split
      · exact .ok _
      · -- The new task is dropped again: it is alive, so it can be retired.
        obtain ⟨alive, _, _, _⟩ := wellformed.sound.discard .cancelled started
        obtain ⟨retired, retireDone, _⟩ :=
          holds.retire (wellformed.sound.insert body name) alive .cancelled
        rw [bind_of_ok retireDone]
        dsimp only
        rw [bind_of_ok (retired.tryReap_eq task)]
        split
        · exact .ok _
        · exact .ok _

/-! ### Killing tasks -/

theorem retire_faultsOnly (wellformed : kernel.Wellformed)
    (alive : kernel.roster.Alive task) (exit : S.Exit) :
    FaultsOnly may (kernel.retire task exit) := by
  obtain ⟨tasks, retired, _⟩ :=
    wellformed.holds.retire wellformed.sound alive.eachNamed exit
  unfold retire
  dsimp only [record]
  rw [bind_of_ok retired]
  exact .ok _

theorem finish_faultsOnly (wellformed : kernel.Wellformed)
    (alive : kernel.roster.Alive task) (notRunning : kernel.running ≠ some task)
    (exit : S.Exit) : FaultsOnly may (kernel.finish task exit) := by
  unfold finish
  refine (retire_faultsOnly wellformed alive exit).bind fun result retired => ?_
  have dies := (retire_buries wellformed alive notRunning retired).1
  have middle := dies.evolves.wellformed wellformed
  exact (resumeAll_faultsOnly middle result.1).bind fun _ _ => .ok _

theorem kill_faultsOnly (wellformed : kernel.Wellformed) (task : TaskHandle) :
    FaultsOnly may (kernel.kill task) := by
  unfold kill
  split
  · exact .ok _
  split
  · exact .ok _
  next entry known =>
    split
    · exact .ok _
    next notDead =>
      have state : kernel.tasks.state task = .ok entry.state := by
        unfold TaskTable.state
        rw [known]
        rfl
      have alive := alive_of_state wellformed state (by simpa using notDead)
      exact (retire_faultsOnly wellformed alive .cancelled).bind
        fun _ _ => .ok _

/-- A task that the table knows can be killed unless it is the running one. -/
theorem not_refused_of_present (wellformed : kernel.Wellformed)
    (present : kernel.roster.Present task)
    (notRunning : kernel.running ≠ some task) {error : Error} :
    kernel.kill task ≠ .ok (.refused error) := by
  obtain ⟨index, entry, found⟩ := present.exists_find?
  rw [← wellformed.holds.find?] at found
  intro refused
  unfold kill TaskTable.entry at refused
  rw [if_neg notRunning, found] at refused
  dsimp only at refused
  split at refused
  · cases refused
  · obtain ⟨_, _, ended⟩ := exists_ok_of_bind refused
    cases ended

theorem complete_faultsOnly (wellformed : kernel.Wellformed)
    (closing : Closing) : FaultsOnly may (kernel.complete closing) :=
  (resumeAll_faultsOnly wellformed closing.joiners).bind fun _ _ => .ok _

theorem startKill_faultsOnly (wellformed : kernel.Wellformed)
    (task : TaskHandle) : FaultsOnly may (kernel.startKill task) :=
  (kill_faultsOnly wellformed task).bind fun killing _ => by
    cases killing <;> exact .ok _

theorem startStop_faultsOnly (wellformed : kernel.Wellformed)
    (event : EventHandle) : FaultsOnly may (kernel.startStop event) := by
  unfold startStop
  split
  · exact startKill_faultsOnly wellformed _
  · exact .ok _

/-- The handler of an event is alive, so it can be killed. -/
theorem startErrand_faultsOnly (wellformed : kernel.Wellformed)
    (related : kernel.Related) (event : EventHandle) (errand : Errand) :
    FaultsOnly may (kernel.startErrand event errand) := by
  unfold startErrand
  split
  · exact .ok _
  next task handled =>
    split
    · exact .ok _
    next notRunning =>
      refine (kill_faultsOnly wellformed task).bind fun killing killed => ?_
      cases killing with
      | refused error =>
          have alive :=
            related.handling (Handlers.get?_eq_some_iff.mp handled)
          exact absurd killed
            (not_refused_of_present wellformed alive.present notRunning)
      | needless => exact .ok _
      | begun joiners body next => exact .ok _

/-! ### Requests -/

theorem perform_faultsOnly (wellformed : kernel.Wellformed)
    (related : kernel.Related) (current : TaskHandle) (request : Request S) :
    FaultsOnly (· = .queueOverflow) (kernel.perform current request) := by
  cases request with
  | start body name =>
      exact (start_faultsOnly wellformed body name).bind fun _ _ => .ok _
  | resume task =>
      unfold perform
      dsimp only
      split
      · exact .ok _
      · exact (resume_faultsOnly wellformed task).bind fun _ _ => .ok _
  | kill task =>
      unfold perform
      dsimp only
      split
      · exact .ok _
      · exact startKill_faultsOnly wellformed task
  | claim => exact answerClaim_faultsOnly _
  | release event =>
      exact startErrand_faultsOnly wellformed related event (.release event)
  | abandon event =>
      exact startErrand_faultsOnly wellformed related event (.abandon event)
  | setPending event =>
      exact (setPending_faultsOnly kernel.events event).bind fun _ _ => .ok _
  | handle event body =>
      exact (handle_faultsOnly wellformed event body none).bind fun _ _ => .ok _
  | stopHandler event => exact startStop_faultsOnly wellformed event
  | _ => exact .ok _

end Kernel

end EventScheduler
