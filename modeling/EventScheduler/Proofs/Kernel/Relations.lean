import EventScheduler.Proofs.Event.Tables
import EventScheduler.Proofs.Kernel.Changes

/-!
# What refers to tasks

Watcher sets, joiner sets and handlers name live tasks only, and only enabled
events are watched.  Every change of a kernel preserves this.
-/

namespace EventScheduler

variable {S : Signature}

namespace Deed

def started? : Deed → Option TaskHandle
  | .starts task | .handles _ task => some task
  | _ => none

/-- The slot whose event goes away. -/
def lost? : Deed → Option (Fin maxEvents)
  | .releases event | .abandons event => some event.index
  | _ => none

def issued? : Deed → Option EventHandle
  | .claims event => some event
  | _ => none

end Deed

namespace Kernel

variable {kernel next : Kernel S} {deed : Deed} {task : TaskHandle}

/-! ### Who is alive -/

theorem roster_of_holds {tasks : TaskTable S} {roster : Roster S}
    (same : next.tasks = tasks) (holds : tasks.Holds roster) :
    next.roster = roster := by
  unfold Kernel.roster
  rw [same]
  exact holds.roster_eq

private theorem alive_iff_of_holds {tasks : TaskTable S} {roster : Roster S}
    (same : next.tasks = tasks) (holds : tasks.Holds roster)
    (alive : roster.Alive task ↔ kernel.roster.Alive task)
    (starts : deed.started? = none) (dies : deed ≠ .dies task) :
    next.roster.Alive task ↔
      deed.started? = some task ∨
        kernel.roster.Alive task ∧ deed ≠ .dies task := by
  rw [roster_of_holds same holds, alive, starts]
  simp [dies]

/-- Alive after a change is who was started by it, or was alive and did not
die. -/
theorem Change.alive_iff (change : Change kernel deed next)
    (wellformed : kernel.Wellformed) :
    next.roster.Alive task ↔
      deed.started? = some task ∨
        kernel.roster.Alive task ∧ deed ≠ .dies task := by
  have sound := wellformed.sound
  cases change with
  | world | clock | count | watch | unwatch | resign | claim | occur | drain
  | release | abandon | giveBack =>
      exact alive_iff_of_holds rfl wellformed.holds Iff.rfl rfl (by simp)
  | start started holds | handle unhandled started holds watched =>
      rw [roster_of_holds rfl holds, Roster.alive_insert_iff started]
      simp [Deed.started?, eq_comm]
  | die alive notRunning holds =>
      rw [roster_of_holds rfl holds, Roster.alive_forgetJoiner_iff,
        Roster.alive_retire_iff alive]
      simp [Deed.started?, eq_comm]
  | wake found waiting holds =>
      have present := (Roster.find?_eq_some_iff.mp found).2
      have keeps := Roster.Keeps.wake present waiting
      exact alive_iff_of_holds rfl holds keeps.alive_iff rfl (by simp)
  | spoil vacant holds =>
      have gone := Roster.isLive_of_vacant vacant
      exact alive_iff_of_holds rfl holds (Roster.alive_free_iff gone) rfl
        (by simp)
  | reap dead holds =>
      obtain ⟨index, gone, reaped⟩ := Roster.exists_of_reap dead
      rw [reaped] at holds
      exact alive_iff_of_holds rfl holds (Roster.alive_free_iff gone) rfl
        (by simp)
  | join different alive joinerAlive holds =>
      exact alive_iff_of_holds rfl holds (Roster.alive_addJoiner_iff _ _) rfl
        (by simp)
  | promote holds =>
      have keeps := Roster.Keeps.promoteExpired sound kernel.now
      exact alive_iff_of_holds rfl holds keeps.alive_iff rfl (by simp)
  | requeue holds =>
      exact alive_iff_of_holds rfl holds (Roster.Keeps.requeue _ _).alive_iff
        rfl (by simp)
  | pop first holds =>
      have keeps := Roster.Keeps.popRunnable kernel.roster
      exact alive_iff_of_holds rfl holds keeps.alive_iff rfl (by simp)
  | take idle holds | restore body running holds =>
      refine alive_iff_of_holds rfl holds (Roster.alive_update_iff _ ?_) rfl
        (by simp)
      exact fun _ => rfl
  | suspend alive holds =>
      have keeps := Roster.Keeps.suspend alive
      exact alive_iff_of_holds rfl holds keeps.alive_iff rfl (by simp)
  | sleep deadline alive holds =>
      have keeps := Roster.Keeps.sleep alive deadline
      exact alive_iff_of_holds rfl holds keeps.alive_iff rfl (by simp)

/-- Nobody is alive under the handle that a change starts a task under. -/
theorem Change.not_alive_of_started (change : Change kernel deed next)
    (starts : deed.started? = some task) : ¬ kernel.roster.Alive task := by
  cases change with
  | start started holds =>
      cases starts
      exact Roster.not_alive_of_insert started
  | handle unhandled started holds watched =>
      cases starts
      exact Roster.not_alive_of_insert started
  | _ => cases starts

/-- Who is alive stays so but by dying. -/
theorem Evolves.alive_or_dies {may : Deed → Prop}
    (evolves : Evolves may kernel next) (wellformed : kernel.Wellformed)
    (alive : kernel.roster.Alive task) :
    next.roster.Alive task ∨ may (.dies task) := by
  induction evolves with
  | refl => exact Or.inl alive
  | @step _ third deed before change allowed ih =>
      rcases ih with still | dies
      · rw [change.alive_iff (before.wellformed wellformed)]
        by_cases dies : deed = .dies task
        · exact Or.inr (dies ▸ allowed)
        · exact Or.inl (Or.inr ⟨still, dies⟩)
      · exact Or.inr dies

/-- Who is alive in the end was so before, or was started. -/
theorem Evolves.alive_or_started {may : Deed → Prop}
    (evolves : Evolves may kernel next) (wellformed : kernel.Wellformed)
    (alive : next.roster.Alive task) :
    kernel.roster.Alive task ∨
      ∃ deed, may deed ∧ deed.started? = some task := by
  induction evolves with
  | refl => exact Or.inl alive
  | step before change allowed ih =>
      rcases (change.alive_iff (before.wellformed wellformed)).mp alive with
        started | ⟨already, _⟩
      · exact Or.inr ⟨_, allowed, started⟩
      · exact ih already

/-! ### Who is referred to -/

/-- Whoever is referred to is alive, and only enabled events are watched. -/
structure Related (kernel : Kernel S) : Prop where
  joined : kernel.roster.Joined
  watching {index : Fin maxEvents} {task : TaskHandle} :
    task ∈ kernel.watchers.watching index → kernel.roster.Alive task
  enabled {index : Fin maxEvents} {task : TaskHandle} :
    task ∈ kernel.watchers.watching index → kernel.events.Enabled index
  handling {index : Fin maxEvents} {event : EventHandle} {task : TaskHandle} :
    kernel.handlers.entry index = some (event, task) →
      kernel.roster.Alive task
  /-- A task handles one event only. -/
  single {index other : Fin maxEvents} {event otherEvent : EventHandle}
    {task : TaskHandle} :
    kernel.handlers.entry index = some (event, task) →
      kernel.handlers.entry other = some (otherEvent, task) → index = other

private theorem Change.joined (change : Change kernel deed next)
    (wellformed : kernel.Wellformed) (joined : kernel.roster.Joined) :
    next.roster.Joined := by
  have sound := wellformed.sound
  cases change with
  | world | clock | count | watch | unwatch | resign | claim | occur | drain
  | release | abandon | giveBack => exact joined
  | start started holds | handle unhandled started holds watched =>
      rw [roster_of_holds rfl holds]
      exact joined.insert started
  | wake found waiting holds =>
      have present := (Roster.find?_eq_some_iff.mp found).2
      rw [roster_of_holds rfl holds]
      exact joined.keeps (.wake present waiting)
  | die alive notRunning holds =>
      rw [roster_of_holds rfl holds]
      exact joined.retire alive _
  | spoil vacant holds =>
      rw [roster_of_holds rfl holds]
      exact joined.free (Roster.isLive_of_vacant vacant)
  | join different alive joinerAlive holds =>
      rw [roster_of_holds rfl holds]
      exact joined.addJoiner different alive joinerAlive
  | reap dead holds =>
      obtain ⟨index, gone, reaped⟩ := Roster.exists_of_reap dead
      rw [roster_of_holds rfl holds, reaped]
      exact joined.free gone
  | promote holds =>
      rw [roster_of_holds rfl holds]
      exact joined.keeps (.promoteExpired sound _)
  | requeue holds =>
      rw [roster_of_holds rfl holds]
      exact joined.keeps (.requeue _ _)
  | pop first holds =>
      rw [roster_of_holds rfl holds]
      exact joined.keeps (.popRunnable _)
  | take idle holds | restore body running holds =>
      rw [roster_of_holds rfl holds]
      exact joined.update _ _
  | suspend alive holds =>
      rw [roster_of_holds rfl holds]
      exact joined.keeps (.suspend alive)
  | sleep deadline alive holds =>
      rw [roster_of_holds rfl holds]
      exact joined.keeps (.sleep alive deadline)

/-- Who watches after a change watched before, or is the task that the change
is about, on an enabled event. -/
private theorem Change.mem_watching (change : Change kernel deed next)
    {index : Fin maxEvents} (inside : task ∈ next.watchers.watching index) :
    (task ∈ kernel.watchers.watching index ∧ deed ≠ .dies task) ∨
      (kernel.roster.Alive task ∨ deed.started? = some task) ∧
        deed ≠ .dies task ∧ kernel.events.Enabled index := by
  cases change with
  | watch alive done =>
      rcases (WatcherMap.mem_watch done).mp inside with
        already | ⟨rfl, rfl⟩
      · exact Or.inl ⟨already, by simp⟩
      · have enabled := WatcherMap.isEnabled_of_watch done
        exact Or.inr ⟨Or.inl alive, by simp,
          (Events.isEnabled_iff.mp enabled).2⟩
  | handle unhandled started holds watched =>
      rcases (WatcherMap.mem_watch watched).mp inside with
        already | ⟨rfl, rfl⟩
      · exact Or.inl ⟨already, by simp⟩
      · have enabled := WatcherMap.isEnabled_of_watch watched
        exact Or.inr ⟨Or.inr rfl, by simp,
          (Events.isEnabled_iff.mp enabled).2⟩
  | unwatch event watcher =>
      exact Or.inl ⟨(WatcherMap.mem_unwatch.mp inside).1, by simp⟩
  | release done => exact Or.inl ⟨(WatcherMap.mem_evict.mp inside).1, by simp⟩
  | abandon done => exact Or.inl ⟨(WatcherMap.mem_evict.mp inside).1, by simp⟩
  | die alive notRunning holds =>
      obtain ⟨already, different⟩ := WatcherMap.mem_forget.mp inside
      exact Or.inl ⟨already, by simpa using different.symm⟩
  | _ => exact Or.inl ⟨inside, by simp⟩

/-- Nobody watches an event that goes away. -/
private theorem Change.lost_ne (change : Change kernel deed next)
    {index : Fin maxEvents} (inside : task ∈ next.watchers.watching index) :
    deed.lost? ≠ some index := by
  cases change with
  | release done | abandon done =>
      intro lost
      cases lost
      exact (WatcherMap.mem_evict.mp inside).2 rfl
  | _ => exact fun impossible => nomatch impossible

/-- What a change does to the registry. -/
theorem Change.follows (change : Change kernel deed next) :
    kernel.events.Follows deed.lost? deed.issued? next.events := by
  cases change with
  | claim done => exact Events.claim_follows done
  | occur done => exact Events.setPending_follows done
  | drain done => exact Events.takePending_follows done
  | release done => exact Events.release_follows done
  | abandon done => exact Events.abandon_follows done
  | giveBack event => exact Events.releaseAbandoned_follows _ event
  | _ => exact .refl kernel.events

/-- Who handles an event after a change handled it before or is started to
handle it. -/
theorem Change.entry_handlers (change : Change kernel deed next)
    {index : Fin maxEvents} {event : EventHandle}
    (handled : next.handlers.entry index = some (event, task)) :
    (kernel.handlers.entry index = some (event, task) ∧ deed ≠ .dies task) ∨
      deed = .handles event task ∧ index = event.index := by
  cases change with
  | handle unhandled started holds watched =>
      have stored := handled
      rw [Handlers.entry_insert] at stored
      split at stored
      · next here =>
          cases stored
          exact Or.inr ⟨rfl, here⟩
      · exact Or.inl ⟨stored, by simp⟩
  | resign known running =>
      exact Or.inl ⟨(Handlers.entry_forget_eq_some_iff.mp handled).1, by simp⟩
  | die alive notRunning holds =>
      obtain ⟨already, different⟩ :=
        Handlers.entry_forget_eq_some_iff.mp handled
      exact Or.inl ⟨already, by simpa using different.symm⟩
  | _ => exact Or.inl ⟨handled, by simp⟩

/-- Every change keeps what is referred to alive. -/
theorem Change.related (change : Change kernel deed next)
    (wellformed : kernel.Wellformed) (related : kernel.Related) :
    next.Related where
  joined := change.joined wellformed related.joined
  watching {index task} inside := by
    rw [change.alive_iff wellformed]
    rcases change.mem_watching inside with
      ⟨already, survives⟩ | ⟨alive | starts, survives, _⟩
    · exact Or.inr ⟨related.watching already, survives⟩
    · exact Or.inr ⟨alive, survives⟩
    · exact Or.inl starts
  enabled {index task} inside := by
    refine change.follows.enabled (change.lost_ne inside) ?_
    rcases change.mem_watching inside with ⟨already, _⟩ | ⟨_, _, enabled⟩
    · exact related.enabled already
    · exact enabled
  handling {index event task} handled := by
    rw [change.alive_iff wellformed]
    rcases change.entry_handlers handled with ⟨already, survives⟩ | ⟨rfl, _⟩
    · exact Or.inr ⟨related.handling already, survives⟩
    · exact Or.inl rfl
  single {index other event otherEvent task} handled handledToo := by
    rcases change.entry_handlers handled with ⟨already, _⟩ | ⟨rfl, here⟩
    · rcases change.entry_handlers handledToo with ⟨alreadyToo, _⟩ | ⟨rfl, _⟩
      · exact related.single already alreadyToo
      · exact absurd (related.handling already) (change.not_alive_of_started rfl)
    · rcases change.entry_handlers handledToo with ⟨already, _⟩ | ⟨same, there⟩
      · exact absurd (related.handling already) (change.not_alive_of_started rfl)
      · cases same
        rw [here, there]

/-- A task that handles a claimed event and lives goes on handling it until it
gives it up. -/
theorem Change.keeps_handler (change : Change kernel deed next)
    (related : kernel.Related) {event : EventHandle}
    (survives : deed ≠ .dies task) (unclaimed : deed ≠ .claims event)
    (stays : deed ≠ .resigns event task)
    (held : kernel.handlers.get? event = some task ∨
      kernel.events.isClaimed event = false) :
    next.handlers.get? event = some task ∨
      next.events.isClaimed event = false := by
  rcases held with handled | free
  · have stored := Handlers.get?_eq_some_iff.mp handled
    cases change with
    | handle unhandled started holds watched =>
        rename_i other _ _ _ _ _ _
        by_cases same : event.index = other.index
        · -- Two handles of one slot are not claimed at once.
          refine Or.inr (Bool.eq_false_iff.mpr fun claimed => ?_)
          have enabled := WatcherMap.isEnabled_of_watch watched
          have equal := Events.eq_of_isClaimed claimed
            (Events.isClaimed_of_isEnabled enabled) same
          rw [equal, unhandled] at handled
          cases handled
        · refine Or.inl (Handlers.get?_eq_some_iff.mpr ?_)
          rw [Handlers.entry_insert, if_neg same]
          exact stored
    | resign known running =>
        rename_i other resigning
        refine Or.inl (Handlers.get?_eq_some_iff.mpr
          (Handlers.entry_forget_eq_some_iff.mpr ⟨stored, ?_⟩))
        rintro rfl
        have storedToo := Handlers.get?_eq_some_iff.mp known
        have same := related.single stored storedToo
        rw [same, storedToo] at stored
        cases stored
        exact stays rfl
    | die alive notRunning holds =>
        refine Or.inl (Handlers.get?_eq_some_iff.mpr
          (Handlers.entry_forget_eq_some_iff.mpr ⟨stored, ?_⟩))
        rintro rfl
        exact survives rfl
    | _ => exact Or.inl handled
  · refine Or.inr (Bool.eq_false_iff.mpr fun claimed => ?_)
    rcases change.follows.claimed claimed with already | issued
    · rw [free] at already
      cases already
    · cases deed with
      | claims other =>
          cases issued
          exact unclaimed rfl
      | _ => cases issued

theorem Evolves.related {may : Deed → Prop} (evolves : Evolves may kernel next)
    (wellformed : kernel.Wellformed) (related : kernel.Related) :
    next.Related := by
  induction evolves with
  | refl => exact related
  | step before change _ ih =>
      exact change.related (before.wellformed wellformed) ih

/-- Who handles an event in the end handled it before, or was started to handle
it. -/
theorem Evolves.get?_handlers {may : Deed → Prop}
    (evolves : Evolves may kernel next) {event : EventHandle}
    (handled : next.handlers.get? event = some task) :
    kernel.handlers.get? event = some task ∨ may (.handles event task) := by
  induction evolves with
  | refl => exact Or.inl handled
  | step before change allowed ih =>
      have stored := Handlers.get?_eq_some_iff.mp handled
      rcases change.entry_handlers stored with ⟨already, _⟩ | ⟨rfl, _⟩
      · exact ih (Handlers.get?_eq_some_iff.mpr already)
      · exact Or.inr allowed

/-- A task that handles a claimed event and is alive in the end handles it all
the time, unless it gives it up. -/
theorem Evolves.keeps_handler {may : Deed → Prop}
    (evolves : Evolves may kernel next) (wellformed : kernel.Wellformed)
    (related : kernel.Related) {event : EventHandle}
    (allowed : ∀ deed, may deed → deed.started? ≠ some task ∧
      deed ≠ .claims event ∧ deed ≠ .resigns event task)
    (alive : next.roster.Alive task)
    (held : kernel.handlers.get? event = some task ∨
      kernel.events.isClaimed event = false) :
    next.handlers.get? event = some task ∨
      next.events.isClaimed event = false := by
  induction evolves with
  | refl => exact held
  | step before change may ih =>
      obtain ⟨unstarted, unclaimed, stays⟩ := allowed _ may
      have aliveAfter :=
        (change.alive_iff (before.wellformed wellformed)).mp alive
      rcases aliveAfter with impossible | ⟨aliveBefore, survives⟩
      · exact absurd impossible unstarted
      · exact change.keeps_handler (before.related wellformed related)
          survives unclaimed stays (ih aliveBefore)

end Kernel

end EventScheduler
