import EventScheduler.Proofs.Scheduler.Deeds
import EventScheduler.Proofs.Task.Sleepers

/-!
# Who sleeps since when

A task goes to sleep at the end of its slice only, and it comes behind all that
sleep until then.  So in every state of every run tasks that are due at the same
time sleep in the order in which they went to sleep.
-/

namespace EventScheduler

variable {S : Signature}

/-- At most one task goes to sleep, and it did not sleep before. -/
inductive Roster.Dozes (roster other : Roster S) : Prop
  | thins (thins : roster.Thins other)
  | sleeps {middle : Roster S} {task : TaskHandle} {index : SlotIndex}
      {entry : TaskEntry S} {deadline : Deadline}
      (thins : roster.Thins middle) (sound : middle.Sound)
      (found : middle.find? task = some (index, entry))
      (ever : deadline.isNever = false) (awake : index ∉ roster.timers)
      (same : other = middle.sleep task deadline)

namespace Kernel

variable {kernel next : Kernel S}

private theorem thins_of_holds {tasks : TaskTable S} {roster : Roster S}
    (same : next.tasks = tasks) (holds : tasks.Holds roster)
    (thins : kernel.roster.Thins roster) :
    kernel.roster.Thins next.roster := by
  rwa [roster_of_holds same holds]

/-- Only a task that blocks goes to sleep. -/
theorem Change.thins {deed : Deed} (change : Change kernel deed next)
    (wellformed : kernel.Wellformed) (awake : ∀ task, deed ≠ .parks task) :
    kernel.roster.Thins next.roster := by
  have sound := wellformed.sound
  cases change with
  | world | clock | count | watch | unwatch | resign | claim | occur | drain
  | release | abandon | giveBack => exact .refl _
  | start started holds | handle unhandled started holds watched =>
      exact thins_of_holds rfl holds (Roster.insert_thins sound _ _)
  | wake found waiting holds =>
      exact thins_of_holds rfl holds (Roster.wake_thins sound _ _)
  | die alive notRunning holds =>
      exact thins_of_holds rfl holds
        ((Roster.retire_thins sound _ _).trans (Roster.forgetJoiner_thins _ _))
  | spoil vacant holds =>
      exact thins_of_holds rfl holds
        (Roster.free_thins sound (Roster.isLive_of_vacant vacant))
  | join different alive joinerAlive holds =>
      exact thins_of_holds rfl holds (Roster.addJoiner_thins _ _ _)
  | reap dead holds =>
      exact thins_of_holds rfl holds (Roster.reap_thins sound _)
  | promote holds =>
      exact thins_of_holds rfl holds (Roster.promoteExpired_thins _ _)
  | requeue holds =>
      exact thins_of_holds rfl holds (Roster.requeue_thins _ _)
  | pop first holds =>
      exact thins_of_holds rfl holds (Roster.popRunnable_thins _)
  | take idle holds | restore body running holds =>
      exact thins_of_holds rfl holds (Roster.update_thins _ _ fun _ => rfl)
  | suspend | sleep => exact absurd rfl (awake _)

theorem Evolves.thins {may : Deed → Prop} (evolves : Evolves may kernel next)
    (wellformed : kernel.Wellformed) (awake : ∀ task, ¬ may (.parks task)) :
    kernel.roster.Thins next.roster := by
  induction evolves with
  | refl => exact .refl _
  | step before change allowed ih =>
      refine ih.trans (change.thins (before.wellformed wellformed) ?_)
      rintro task rfl
      exact awake task allowed

def isAsleep (kernel : Kernel S) (task : TaskHandle) : Bool :=
  match kernel.tasks.state task with
  | .ok (.timer _) => true
  | _ => false

theorem isAsleep_iff (wellformed : kernel.Wellformed) {task : TaskHandle} :
    kernel.isAsleep task = true ↔
      ∃ index ∈ kernel.roster.timers, kernel.roster.handleAt index = task := by
  unfold isAsleep TaskTable.state TaskTable.entry
  rw [wellformed.holds.find?]
  constructor
  · intro asleep
    cases found : kernel.roster.find? task with
    | none =>
        rw [found] at asleep
        cases asleep
    | some named =>
        obtain ⟨fits, present⟩ := Roster.find?_eq_some_iff.mp found
        refine ⟨named.1, wellformed.sound.mem_timers_iff.mpr ?_, fits⟩
        rw [Roster.state?_of_entry present]
        rw [found] at asleep
        dsimp only [Except.map] at asleep
        cases known : named.2.state with
        | timer deadline => exact ⟨deadline, rfl⟩
        | _ =>
            rw [known] at asleep
            cases asleep
  · rintro ⟨index, inside, rfl⟩
    obtain ⟨deadline, asleep⟩ := wellformed.sound.mem_timers_iff.mp inside
    obtain ⟨entry, present, state⟩ := Option.map_eq_some_iff.mp asleep
    rw [Roster.find?_eq_some_iff.mpr ⟨rfl, present⟩]
    dsimp only [Except.map]
    rw [state]

/-- A task that blocks goes to sleep, unless it blocks for ever. -/
private theorem dozes_of_parks {roster : Roster S} {task : TaskHandle}
    (change : Change kernel (.parks task) next) (sound : kernel.roster.Sound)
    (before : roster.Thins kernel.roster)
    (awake : ∀ index : SlotIndex, index.val = task.index →
      index ∉ roster.timers) : roster.Dozes next.roster := by
  have suspends {tasks : TaskTable S} (same : next.tasks = tasks)
      (holds : tasks.Holds (kernel.roster.suspend task)) :
      roster.Dozes next.roster := by
    rw [roster_of_holds same holds]
    exact .thins (before.trans (Roster.suspend_thins sound task))
  cases change with
  | suspend alive holds => exact suspends rfl holds
  | sleep deadline alive holds =>
      cases ever : deadline.isNever with
      | true =>
          have same : kernel.roster.sleep task deadline =
            kernel.roster.suspend task := if_pos ever
          exact suspends rfl (same ▸ holds)
      | false =>
          obtain ⟨index, entry, found, _⟩ := alive
          have fits := (Roster.find?_eq_some_iff.mp found).1
          exact .sleeps before sound found ever
            (awake index (by rw [← fits]; rfl)) holds.roster_eq

end Kernel

namespace Machine

variable {machine next : Machine S} {move : Move S}

/-- A task whose slice is carried out does not sleep. -/
private theorem notMem_timers_of_running (steady : machine.Steady)
    {task : TaskHandle} (running : machine.kernel.running = some task)
    {index : SlotIndex} (fits : index.val = task.index) :
    index ∉ machine.kernel.roster.timers := by
  have placed := steady.placed
  rw [stray_of_running running] at placed
  obtain ⟨slot, entry, found, _, _, awake⟩ := placed.exists_stray
  have same : slot = index := by
    rw [← (Roster.find?_eq_some_iff.mp found).1] at fits
    exact Fin.ext fits.symm
  rwa [← same]

/-- The task that just ran may go to sleep. -/
private theorem dozes_of_endsSlice (steady : machine.Steady)
    {task : TaskHandle} {step : S.Step} {body : S.Body}
    {value : Option S.Output} {scheduler : Scheduler S}
    (running : machine.kernel.running = some task)
    (ends : Kernel.Change machine.kernel (.ends task)
      (machine.kernel.endSlice task body))
    (applied : Scheduler.Applied
      { machine.toScheduler with kernel := machine.kernel.endSlice task body }
      task step value scheduler) :
    machine.kernel.roster.Dozes scheduler.kernel.roster := by
  have wellformed := steady.placed.wellformed
  have after := ends.wellformed wellformed
  have ended := ends.thins wellformed fun _ impossible => nomatch impossible
  cases applied with
  | yields => exact .thins ended
  | ends before dies wakes left =>
      have recorded := before.thins after fun _ impossible => nomatch impossible
      have middle := before.wellformed after
      have buried := dies.evolves.thins middle fun _ impossible =>
        impossible.elim (nomatch ·) (nomatch ·)
      have woken := wakes.thins (dies.evolves.wellformed middle)
        fun _ impossible => nomatch impossible.choose_spec
      exact .thins (((ended.trans recorded).trans buried).trans woken)
  | parks change =>
      exact Kernel.dozes_of_parks change after.sound ended fun _ fits =>
        notMem_timers_of_running steady running fits

variable [Application S]

theorem Transition.dozes (transition : Transition machine move next)
    (steady : machine.Steady) :
    machine.kernel.roster.Dozes next.kernel.roster := by
  by_cases finished : ∃ task result,
      machine.control = .body (.slice task) (.pure result)
  · obtain ⟨task, result, control⟩ := finished
    have busy (idle : machine.control.isIdle = true) : False := by
      rw [control] at idle
      cases idle
    cases transition with
    | still | faults => exact .thins (.refl _)
    | outside evolves =>
        refine .thins (evolves.thins steady.placed.wellformed ?_)
        rintro _ (impossible | ⟨_, impossible | impossible⟩) <;>
          cases impossible
    | operates idle | faultsCall idle | callsRun idle | callsNothing idle
    | callsErrand idle | callsClose _ idle => exact (busy idle).elim
    | endsSlice known ends applied =>
        exact dozes_of_endsSlice steady (steady.running_of_slice known) ends
          applied
    | ends known | dispatches known | drains known | idles known
    | wakes known | stalls known | picksNothing known | picks _ known
    | answers known | kills _ known | endsClose known | concludes known
    | returns known | sweepsOn known | swept known | passes known
    | sweeps _ known => cases known.symm.trans control
  · refine .thins ((transition.accounted steady).thins
      steady.placed.wellformed fun task accounts => ?_)
    exact finished ⟨task, accounts.parks rfl⟩

end Machine

/-! ### Runs -/

namespace Run

variable [Application S]

/-- The number of the move with which a task that sleeps went to sleep. -/
def asleepSince (run : Run S) (task : TaskHandle) : Nat → Nat
  | 0 => 0
  | count + 1 =>
      if (run.after count).kernel.isAsleep task then run.asleepSince task count
      else count

/-- Tasks that are due at the same time sleep in the order in which they went
to sleep. -/
theorem inOrder (run : Run S) (count : Nat) :
    (run.after count).kernel.roster.InOrder
      (fun index => run.asleepSince
        ((run.after count).kernel.roster.handleAt index) count) count := by
  induction count with
  | zero =>
      have nobody : (run.after 0).kernel.roster.timers = [] :=
        congrArg Roster.timers (Kernel.roster_new run.world)
      constructor <;> rw [nobody]
      · exact List.Pairwise.nil
      · exact fun inside => absurd inside List.not_mem_nil
  | succ count ih =>
      have steady := run.steady count
      have wellformed := steady.placed.wellformed
      have dozes : (run.after count).kernel.roster.Dozes
          (run.after (count + 1)).kernel.roster :=
        (run.transition count).dozes steady
      have still {task : TaskHandle} {index : SlotIndex}
          (inside : index ∈ (run.after count).kernel.roster.timers)
          (named : task = (run.after count).kernel.roster.handleAt index) :
          run.asleepSince task (count + 1) = run.asleepSince
            ((run.after count).kernel.roster.handleAt index) count := by
        rw [named]
        exact if_pos ((Kernel.isAsleep_iff wellformed).mpr ⟨index, inside, rfl⟩)
      cases dozes with
      | thins thins =>
          refine ((ih.thin thins).congr fun index inside => ?_).later
            (Nat.le_succ count)
          exact still (thins.sublist.subset inside)
            (Roster.handleAt_congr (thins.generation inside))
      | sleeps thins sound found ever awake same =>
          rw [same]
          refine (ih.thin thins).sleep sound ever found
            (fun slot inside _ => ?_) (if_neg fun asleep => ?_)
          · refine still (thins.sublist.subset inside) ?_
            exact Roster.handleAt_congr
              ((congrFun (Roster.sleep_generation ..) slot).trans
                (thins.generation inside))
          · obtain ⟨slot, inside, named⟩ :=
              (Kernel.isAsleep_iff wellformed).mp asleep
            have here := congrArg TaskHandle.index named
            exact awake (Fin.ext here ▸ inside)

end Run

end EventScheduler
