import EventScheduler.Proofs.Event.Slots
import EventScheduler.Proofs.Kernel.Requests
import EventScheduler.Proofs.Kernel.Relations

/-!
# Who watches an event

Watchers are kept by event slot, without a generation, so it takes an argument
that the watchers of one claim are not taken for those of the next.  Here it is
said of every change, and then of every operation on watchers, who watches an
event afterwards, given who did before.
-/

namespace EventScheduler

variable {S : Signature}

namespace Deed

def freedEvent? (events : Events) : Deed → Option (Fin maxEvents)
  | .releases event => some event.index
  | .givesBack event =>
      if events.state event = .abandoned then some event.index else none
  | _ => none

def Enrols (deed : Deed) (event : EventHandle) (task : TaskHandle) : Prop :=
  deed = .watches event task ∨ deed = .handles event task

/-- The task ceases to watch the event, or nobody can watch it any more. -/
def Expels (deed : Deed) (event : EventHandle) (task : TaskHandle) : Prop :=
  deed = .unwatches event task ∨ deed = .dies task ∨
    deed = .releases event ∨ deed = .abandons event

end Deed

namespace Kernel

variable {kernel next : Kernel S} {deed : Deed} {event : EventHandle}
  {task : TaskHandle}

/-- What a change does to the slots of the registry. -/
theorem Change.reshapes (change : Change kernel deed next) :
    kernel.events.Reshapes (deed.freedEvent? kernel.events) deed.lost?
      deed.issued? next.events := by
  cases change with
  | claim done => exact Events.claim_reshapes done
  | occur done => exact Events.setPending_reshapes done
  | drain done => exact Events.takePending_reshapes done
  | release done => exact Events.release_reshapes done
  | abandon done => exact Events.abandon_reshapes done
  | giveBack event => exact Events.releaseAbandoned_reshapes _ event
  | _ => exact .of_slots rfl

/-- The task watches the event: the event is enabled, and the task is in the set
of its slot. -/
def Watches (kernel : Kernel S) (event : EventHandle) (task : TaskHandle) :
    Prop :=
  kernel.events.isEnabled event = true ∧
    task ∈ kernel.watchers.watching event.index

/-- No event is enabled or disabled, and nobody else watches. -/
private theorem watches_of_still (kernel : Kernel S)
    {freed : Option (Fin maxEvents)}
    (reshapes : kernel.events.Reshapes freed none none next.events)
    (same : next.watchers = kernel.watchers) :
    next.Watches event task ↔ kernel.Watches event task := by
  unfold Watches
  rw [reshapes.isEnabled_iff, same]
  simp

/-- Two handles of one slot are not enabled at once. -/
private theorem eq_of_isEnabled {other : EventHandle} {events : Events}
    (enabled : events.isEnabled event = true)
    (enabledToo : events.isEnabled other = true)
    (same : event.index = other.index) : event = other :=
  Events.eq_of_isClaimed (Events.isClaimed_of_isEnabled enabled)
    (Events.isClaimed_of_isEnabled enabledToo) same

private theorem watches_of_watch (kernel : Kernel S) {other : EventHandle}
    {watcher : TaskHandle} {added : Bool} {watchers : WatcherMap}
    (events : next.events = kernel.events) (same : next.watchers = watchers)
    (done : kernel.watchers.watch kernel.events other watcher =
      .ok (added, watchers)) :
    next.Watches event task ↔
      other = event ∧ watcher = task ∨ kernel.Watches event task := by
  have enabled := WatcherMap.isEnabled_of_watch done
  unfold Watches
  rw [events, same, WatcherMap.mem_watch done]
  constructor
  · rintro ⟨enabledToo, already | ⟨rfl, here⟩⟩
    · exact Or.inr ⟨enabledToo, already⟩
    · exact Or.inl ⟨(eq_of_isEnabled enabledToo enabled here).symm, rfl⟩
  · rintro (⟨rfl, rfl⟩ | ⟨enabledToo, already⟩)
    · exact ⟨enabled, Or.inr ⟨rfl, rfl⟩⟩
    · exact ⟨enabledToo, Or.inl already⟩

private theorem watches_of_unwatch (kernel : Kernel S) (other : EventHandle)
    (watcher : TaskHandle)
    (events : next.events = kernel.events)
    (same : next.watchers =
      (kernel.watchers.unwatch kernel.events other watcher).2) :
    next.Watches event task ↔
      kernel.Watches event task ∧ ¬ (other = event ∧ watcher = task) := by
  unfold Watches
  rw [events, same, WatcherMap.mem_unwatch]
  constructor
  · rintro ⟨enabled, already, stays⟩
    refine ⟨⟨enabled, already⟩, ?_⟩
    rintro ⟨rfl, rfl⟩
    exact stays enabled rfl rfl
  · rintro ⟨⟨enabled, already⟩, apart⟩
    refine ⟨enabled, already, ?_⟩
    rintro enabledToo here rfl
    exact apart ⟨(eq_of_isEnabled enabled enabledToo here).symm, rfl⟩

/-- An event that goes away has no watchers left, and another one that is
enabled is in another slot. -/
private theorem watches_of_evict (kernel : Kernel S) {other : EventHandle}
    {issued : Option EventHandle} {freed : Option (Fin maxEvents)}
    (claimed : kernel.events.isClaimed other = true)
    (reshapes : kernel.events.Reshapes freed (some other.index) issued
      next.events) (none : issued = none)
    (same : next.watchers = (kernel.watchers.evict other).2) :
    next.Watches event task ↔ kernel.Watches event task ∧ other ≠ event := by
  unfold Watches
  rw [reshapes.isEnabled_iff, same, WatcherMap.mem_evict, none]
  constructor
  · rintro ⟨impossible | ⟨enabled, _⟩, already, apart⟩
    · cases impossible
    · refine ⟨⟨enabled, already⟩, ?_⟩
      rintro rfl
      exact apart rfl
  · rintro ⟨⟨enabled, already⟩, different⟩
    have apart : other.index ≠ event.index := fun here =>
      different (Events.eq_of_isClaimed claimed
        (Events.isClaimed_of_isEnabled enabled) here)
    exact ⟨Or.inr ⟨enabled, fun lost => apart (Option.some.inj lost)⟩,
      already, apart.symm⟩

private theorem watches_of_forget (kernel : Kernel S) {other : TaskHandle}
    (events : next.events = kernel.events)
    (same : next.watchers = kernel.watchers.forget other) :
    next.Watches event task ↔ kernel.Watches event task ∧ other ≠ task := by
  unfold Watches
  rw [events, same, WatcherMap.mem_forget, and_assoc, ne_comm]

/-- Nobody watches an event that was just claimed. -/
private theorem watches_of_claim {other : EventHandle} {events : Events}
    (related : kernel.Related)
    (done : kernel.events.claim = .ok (other, events)) :
    ({ kernel with events } : Kernel S).Watches event task ↔
      kernel.Watches event task := by
  have reshapes := Events.claim_reshapes done
  have unused : ¬ kernel.events.Enabled other.index := by
    rintro ⟨pending, enabled⟩
    cases enabled.symm.trans (Events.free_of_claim done)
  unfold Watches
  rw [reshapes.isEnabled_iff]
  constructor
  · rintro ⟨same | ⟨enabled, _⟩, already⟩
    · cases same
      exact absurd (related.enabled already) unused
    · exact ⟨enabled, already⟩
  · rintro ⟨enabled, already⟩
    exact ⟨Or.inr ⟨enabled, fun impossible => nomatch impossible⟩, already⟩

/-- Who watches an event after a change began to, or did before and was not
made to stop. -/
theorem Change.watches_iff (change : Change kernel deed next)
    (related : kernel.Related) :
    next.Watches event task ↔ deed.Enrols event task ∨
      kernel.Watches event task ∧ ¬ deed.Expels event task := by
  cases change with
  | watch alive done | handle unhandled started holds done =>
      refine Iff.trans (watches_of_watch kernel rfl rfl done) ?_
      simp [Deed.Enrols, Deed.Expels]
  | unwatch other watcher =>
      refine Iff.trans (watches_of_unwatch kernel other watcher rfl rfl) ?_
      simp [Deed.Enrols, Deed.Expels]
  | die alive notRunning holds =>
      refine Iff.trans (watches_of_forget kernel rfl rfl) ?_
      simp [Deed.Enrols, Deed.Expels]
  | release done =>
      have claimed := Events.isClaimed_of_release done
      refine Iff.trans (watches_of_evict kernel claimed
        (Events.release_reshapes done) rfl rfl) ?_
      simp [Deed.Enrols, Deed.Expels]
  | abandon done =>
      have claimed :=
        Events.isClaimed_of_isEnabled (Events.isEnabled_of_abandon done)
      refine Iff.trans (watches_of_evict kernel claimed
        (Events.abandon_reshapes done) rfl rfl) ?_
      simp [Deed.Enrols, Deed.Expels]
  | claim done =>
      rw [watches_of_claim related done]
      simp [Deed.Enrols, Deed.Expels]
  | occur done =>
      have reshapes := Events.setPending_reshapes done
      refine Iff.trans (watches_of_still kernel reshapes rfl) ?_
      simp [Deed.Enrols, Deed.Expels]
  | drain done =>
      have reshapes := Events.takePending_reshapes done
      refine Iff.trans (watches_of_still kernel reshapes rfl) ?_
      simp [Deed.Enrols, Deed.Expels]
  | giveBack other =>
      have reshapes := Events.releaseAbandoned_reshapes kernel.events other
      refine Iff.trans (watches_of_still kernel reshapes rfl) ?_
      simp [Deed.Enrols, Deed.Expels]
  | _ =>
      change kernel.Watches event task ↔ _
      simp [Deed.Enrols, Deed.Expels]

/-- Changes that have nothing to do with the task and the event. -/
theorem Evolves.watches_iff {may : Deed → Prop}
    (evolves : Evolves may kernel next) (wellformed : kernel.Wellformed)
    (related : kernel.Related)
    (apart : ∀ deed, may deed →
      ¬ deed.Enrols event task ∧ ¬ deed.Expels event task) :
    next.Watches event task ↔ kernel.Watches event task := by
  induction evolves with
  | refl => exact Iff.rfl
  | step before change allowed ih =>
      obtain ⟨outside, stays⟩ := apart _ allowed
      rw [change.watches_iff (before.related wellformed related), ih]
      simp [outside, stays]

/-- An event that is enabled in the end, and was not before, was claimed. -/
theorem Evolves.exists_issued {may : Deed → Prop}
    (evolves : Evolves may kernel next)
    (enabled : next.events.isEnabled event = true)
    (disabled : ¬ kernel.events.isEnabled event = true) :
    ∃ deed, may deed ∧ deed.issued? = some event := by
  induction evolves with
  | refl => exact absurd enabled disabled
  | step before change allowed ih =>
      rcases change.reshapes.isEnabled_iff.mp enabled with issued | ⟨already, _⟩
      · exact ⟨_, allowed, issued⟩
      · exact ih already

/-! ### Operations on watchers -/

/-- Whoever is let watch an event does, and nobody else begins or stops to. -/
theorem watches_watch {other : EventHandle} {watcher : TaskHandle}
    {answer : Except Error Unit}
    (done : kernel.watch other watcher = (answer, next)) :
    next.Watches event task ↔
      answer = .ok () ∧ other = event ∧ watcher = task ∨
        kernel.Watches event task := by
  unfold watch at done
  split at done
  · cases done
    simp
  · cases done
    simp
  · split at done
    · cases done
      simp
    · next watched =>
        cases done
        refine Iff.trans (watches_of_watch kernel rfl rfl watched) ?_
        simp

theorem watches_unwatch (kernel : Kernel S) (other : EventHandle)
    (watcher : TaskHandle) :
    (kernel.unwatch other watcher).2.Watches event task ↔
      kernel.Watches event task ∧ ¬ (other = event ∧ watcher = task) :=
  watches_of_unwatch kernel other watcher rfl rfl

theorem watches_unwatchAll (kernel : Kernel S) (watcher : TaskHandle)
    (events : List EventHandle) :
    (kernel.unwatchAll watcher events).Watches event task ↔
      kernel.Watches event task ∧ ¬ (event ∈ events ∧ watcher = task) := by
  induction events generalizing kernel with
  | nil => simp [unwatchAll]
  | cons other rest ih =>
      unfold unwatchAll
      rw [ih, watches_unwatch, List.mem_cons, and_assoc, ← not_or,
        eq_comm, ← or_and_right]

/-- Whoever is let watch events watches all of them. -/
theorem watches_watchAll {watcher : TaskHandle} {events : List EventHandle}
    (done : kernel.watchAll watcher events = (.ok (), next)) :
    next.Watches event task ↔
      event ∈ events ∧ watcher = task ∨ kernel.Watches event task := by
  induction events generalizing kernel with
  | nil =>
      cases done
      simp
  | cons other rest ih =>
      unfold watchAll at done
      split at done
      · cases done
      · next after watched =>
          rw [ih done, watches_watch watched, List.mem_cons, or_and_right,
            eq_comm (a := event)]
          simp only [true_and]
          rw [or_left_comm, or_assoc]

/-- Whoever is refused to watch some of the events may watch others of them. -/
private theorem watches_watchAll_of_apart {watcher : TaskHandle}
    {events : List EventHandle} {answer : Except Error Unit}
    (done : kernel.watchAll watcher events = (answer, next))
    (apart : ¬ (event ∈ events ∧ watcher = task)) :
    next.Watches event task ↔ kernel.Watches event task := by
  induction events generalizing kernel with
  | nil =>
      cases done
      exact Iff.rfl
  | cons other rest ih =>
      have different : ¬ (other = event ∧ watcher = task) := by
        rintro ⟨rfl, rfl⟩
        exact apart ⟨List.mem_cons_self, rfl⟩
      have apartToo : ¬ (event ∈ rest ∧ watcher = task) := fun inside =>
        apart ⟨List.mem_cons_of_mem other inside.1, inside.2⟩
      unfold watchAll at done
      split at done
      · next error after refused =>
          cases done
          simp [watches_watch refused]
      · next after watched =>
          rw [ih done apartToo, watches_watch watched]
          simp [different]

variable [Environment S.World]

/-- Whoever is to wait for events watches them. -/
theorem watches_wait {watcher : TaskHandle} {events : List EventHandle}
    {deadline : Deadline} {poll : S.World → Option S.Answer × S.World}
    (done : kernel.wait watcher events deadline poll = (.ok .pending, next)) :
    next.Watches event task ↔
      event ∈ events ∧ watcher = task ∨ kernel.Watches event task := by
  unfold wait at done
  split at done
  · cases done
  · dsimp only at done
    split at done
    · cases done
    · split at done
      · cases done
      · split at done
        · next watched =>
            cases done
            rw [watches_watchAll watched]
            exact Iff.rfl
        · cases done

/-- Whoever need not wait for events, or cannot, watches none of them. -/
theorem watches_wait_of_over {watcher : TaskHandle} {events : List EventHandle}
    {deadline : Deadline} {poll : S.World → Option S.Answer × S.World}
    {answer : Except Error (Readiness (Option S.Answer))}
    (done : kernel.wait watcher events deadline poll = (answer, next))
    (settled : answer ≠ .ok .pending) :
    next.Watches event task ↔
      kernel.Watches event task ∧ ¬ (event ∈ events ∧ watcher = task) := by
  unfold wait at done
  split at done
  · cases done
    exact watches_unwatchAll _ watcher events
  · dsimp only at done
    split at done
    · cases done
      exact watches_unwatchAll _ watcher events
    · split at done
      · cases done
        exact watches_unwatchAll _ watcher events
      · split at done
        · cases done
          exact absurd rfl settled
        · next watched =>
            cases done
            rw [watches_unwatchAll]
            refine and_congr_left fun apart => ?_
            rw [watches_watchAll_of_apart watched apart]
            exact Iff.rfl

/-- A handler that is started watches its event. -/
theorem watches_handle (wellformed : kernel.Wellformed)
    (related : kernel.Related) {other : EventHandle} {body : S.Body}
    {name : Option String} {answer : Except Error TaskHandle}
    (done : kernel.handle other body name = .ok (answer, next)) :
    next.Watches event task ↔
      answer = .ok task ∧ other = event ∨ kernel.Watches event task := by
  have cases := handle_cases wellformed done
  cases answer with
  | ok started =>
      obtain ⟨middle, handles, quiet⟩ := cases
      rw [quiet.watches_iff (handles.wellformed wellformed)
        (handles.related wellformed related), handles.watches_iff related]
      · simp [Deed.Enrols, Deed.Expels, and_comm]
      · rintro deed rfl
        simp [Deed.Enrols, Deed.Expels]
  | error error =>
      rw [cases.watches_iff wellformed related]
      · simp
      · rintro deed ⟨index, rfl⟩
        simp [Deed.Enrols, Deed.Expels]

/-- Nobody watches an event once an errand on it has come to a good end. -/
theorem watches_settle (related : kernel.Related) {errand : Errand}
    {verdict : Bool} (settles : kernel.settle errand = (verdict, next)) :
    next.Watches event task ↔ kernel.Watches event task ∧
      ¬ (verdict = true ∧ errand.event? = some event) := by
  cases errand with
  | kill =>
      cases settles
      simp [Errand.event?]
  | release other =>
      unfold settle at settles
      dsimp only at settles
      split at settles
      · cases settles
        simp
      · next events released =>
          have evicted : ({ kernel with
                events
                watchers := (kernel.watchers.evict other).2 } :
              Kernel S).Watches event task ↔
                kernel.Watches event task ∧ other ≠ event := by
            refine Iff.trans ((Change.release released).watches_iff related) ?_
            simp [Deed.Enrols, Deed.Expels]
          split at settles <;> cases settles <;>
            refine Iff.trans evicted ?_ <;> simp [Errand.event?]
  | abandon other =>
      unfold settle at settles
      dsimp only at settles
      split at settles
      · cases settles
        simp
      · next events abandoned =>
          cases settles
          refine Iff.trans ((Change.abandon abandoned).watches_iff related) ?_
          simp [Deed.Enrols, Deed.Expels, Errand.event?]

theorem watches_settlesAtOnce (wellformed : kernel.Wellformed)
    (related : kernel.Related) {known : EventHandle} {errand : Errand}
    {verdict : Bool}
    (settles : kernel.SettlesAtOnce known errand verdict next) :
    next.Watches event task ↔ kernel.Watches event task ∧
      ¬ (verdict = true ∧ errand.event? = some event) := by
  rcases settles with ⟨_, done⟩ | ⟨owner, handled, running, done⟩
  · exact watches_settle related done
  · have resigns := Change.resign handled running
    rw [watches_settle (resigns.related wellformed related) done]
    exact Iff.rfl

end Kernel

end EventScheduler
