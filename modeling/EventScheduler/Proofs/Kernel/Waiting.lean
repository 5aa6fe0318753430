import EventScheduler.Proofs.Kernel.Refusals
import EventScheduler.Proofs.Kernel.Watching

/-!
# Waiting for several events

A task that waits for several events watches all of them or none: if one of the
sets has no room, it is taken out of the others again.  Who else watches, and in
which order, is the same before and after.
-/

namespace EventScheduler

variable {S : Signature}

/-! ### One set of watchers -/

namespace WatcherMap

variable {map next : WatcherMap} {events : Events} {event : EventHandle}
  {task : TaskHandle} {index : Fin maxEvents}

theorem watching_watch {added : Bool}
    (done : map.watch events event task = .ok (added, next)) :
    next.watching index =
      if index = event.index ∧ task ∉ map.watching index then
        map.watching index ++ [task]
      else map.watching index := by
  unfold watch at done
  split at done
  · split at done
    · next known watchers grown =>
        cases done
        rw [watching_setWatchers]
        have stored : (map.watchers event).toList =
          map.watching event.index := rfl
        by_cases same : index = event.index
        · rw [if_pos same, TaskSet.toList_insert grown, same, stored]
          by_cases inside : task ∈ map.watching event.index
          · rw [if_pos inside, if_neg fun new => new.2 inside]
          · rw [if_neg inside, if_pos ⟨rfl, inside⟩]
        · rw [if_neg same, if_neg fun here => same here.1]
    · cases done
  · cases done

theorem watching_unwatch :
    (map.unwatch events event task).2.watching index =
      if events.isEnabled event = true ∧ index = event.index then
        (map.watching index).filter fun other => other != task
      else map.watching index := by
  unfold unwatch
  split
  · next enabled =>
      dsimp only
      rw [watching_setWatchers]
      by_cases same : index = event.index
      · rw [if_pos same, if_pos ⟨enabled, same⟩, TaskSet.toList_remove, same]
        rfl
      · rw [if_neg same, if_neg fun here => same here.2]
  · next disabled => rw [if_neg fun here => disabled here.1]

/-- The set of the event holds the task, or has room for it. -/
def Admits (map : WatcherMap) (event : EventHandle) (task : TaskHandle) :
    Prop :=
  task ∈ map.watching event.index ∨
    (map.watching event.index).length < maxWatchers

theorem exists_watch_iff (enabled : events.isEnabled event = true) :
    (∃ result, map.watch events event task = .ok result) ↔
      map.Admits event task := by
  have room : (∃ result, (map.watchers event).insert task = .ok result) ↔
    map.Admits event task := TaskSet.exists_insert_iff (by decide)
  rw [← room]
  unfold watch
  rw [if_pos enabled]
  cases (map.watchers event).insert task with
  | error refusal =>
      constructor
      · rintro ⟨_, impossible⟩
        cases impossible
      · rintro ⟨_, impossible⟩
        cases impossible
  | ok result => exact iff_of_true ⟨_, rfl⟩ ⟨_, rfl⟩

theorem watch_refused (enabled : events.isEnabled event = true) {error : Error}
    (refused : map.watch events event task = .error error) :
    error = .tooManyWatchers := by
  unfold watch at refused
  rw [if_pos enabled] at refused
  split at refused <;> cases refused
  rfl

/-- A watch takes nobody the room in a set. -/
theorem admits_watch {added : Bool} {other : EventHandle}
    (done : map.watch events event task = .ok (added, next)) :
    next.Admits other task ↔ map.Admits other task := by
  have enabled := isEnabled_of_watch done
  have admits := (exists_watch_iff enabled).mp ⟨_, done⟩
  unfold Admits at admits ⊢
  rw [watching_watch done]
  by_cases same : other.index = event.index
  · rw [← same] at admits
    refine iff_of_true ?_ admits
    by_cases inside : task ∈ map.watching other.index
    · rw [if_neg fun new => new.2 inside]
      exact Or.inl inside
    · rw [if_pos ⟨same, inside⟩]
      exact Or.inl (List.mem_append_right _ List.mem_cons_self)
  · rw [if_neg fun here => same here.1]

end WatcherMap

/-! ### Watching several events -/

namespace Kernel

variable {kernel next : Kernel S} {task : TaskHandle} {event : EventHandle}
  {events : List EventHandle}

theorem watch_of_alive (alive : kernel.isAlive task = true) :
    kernel.watch event task =
      match kernel.watchers.watch kernel.events event task with
      | .error error => (.error error, kernel)
      | .ok (_, watchers) => (.ok (), { kernel with watchers }) := by
  unfold isAlive at alive
  split at alive
  · next state known =>
      unfold watch
      rw [known]
      cases state with
      | dead exit => cases alive
      | active | suspended | timer => rfl
  · cases alive

theorem watch_eq_ok_iff (alive : kernel.isAlive task = true)
    (enabled : kernel.events.isEnabled event = true) :
    (kernel.watch event task).1 = .ok () ↔
      kernel.watchers.Admits event task := by
  rw [watch_of_alive alive, ← WatcherMap.exists_watch_iff enabled]
  cases kernel.watchers.watch kernel.events event task with
  | error error =>
      constructor
      · intro impossible
        cases impossible
      · rintro ⟨_, impossible⟩
        cases impossible
  | ok result => exact iff_of_true rfl ⟨result, rfl⟩

theorem watchAll_cases (alive : kernel.isAlive task = true)
    (enabled : ∀ event ∈ events, kernel.events.isEnabled event = true) :
    ((kernel.watchAll task events).1 = .ok () ∧
        ∀ event ∈ events, kernel.watchers.Admits event task) ∨
      (kernel.watchAll task events).1 = .error .tooManyWatchers ∧
        ∃ event ∈ events, ¬ kernel.watchers.Admits event task := by
  induction events generalizing kernel with
  | nil => exact Or.inl ⟨rfl, fun _ impossible => nomatch impossible⟩
  | cons event rest ih =>
      have here := enabled event List.mem_cons_self
      unfold watchAll
      rw [watch_of_alive alive]
      cases watched : kernel.watchers.watch kernel.events event task with
      | error error =>
          refine Or.inr ⟨?_, event, List.mem_cons_self, fun admits => ?_⟩
          · rw [WatcherMap.watch_refused here watched]
          · obtain ⟨_, done⟩ := (WatcherMap.exists_watch_iff here).mpr admits
            cases watched.symm.trans done
      | ok result =>
          obtain ⟨added, watchers⟩ := result
          have admits := (WatcherMap.exists_watch_iff here).mp ⟨_, watched⟩
          have still : ({ kernel with watchers } : Kernel S).isAlive task =
            true := alive
          have later (other : EventHandle) (inside : other ∈ rest) :
              kernel.events.isEnabled other = true :=
            enabled other (List.mem_cons_of_mem event inside)
          rcases ih still later with
            ⟨done, others⟩ | ⟨refused, other, inside, full⟩
          · refine Or.inl ⟨done, fun other inside => ?_⟩
            rcases List.mem_cons.mp inside with rfl | inside
            · exact admits
            · exact (WatcherMap.admits_watch watched).mp (others other inside)
          · have full := mt (WatcherMap.admits_watch watched).mpr full
            exact Or.inr ⟨refused, other, List.mem_cons_of_mem event inside,
              full⟩

/-- Nothing differs but the watchers, and of these only whether and where the
task is among those of the listed events. -/
structure Enlists (kernel : Kernel S) (task : TaskHandle)
    (events : List EventHandle) (next : Kernel S) : Prop where
  rest : next = { kernel with watchers := next.watchers }
  /-- The other watchers of every slot are the same, in the same order. -/
  others (index : Fin maxEvents) :
    ((next.watchers.watching index).filter fun other => other != task) =
      (kernel.watchers.watching index).filter fun other => other != task
  /-- The watchers of all other slots are the same. -/
  elsewhere {index : Fin maxEvents} : (∀ event ∈ events,
      kernel.events.isEnabled event = true → event.index ≠ index) →
    next.watchers.watching index = kernel.watchers.watching index

namespace Enlists

theorem refl (kernel : Kernel S) (task : TaskHandle)
    (events : List EventHandle) : kernel.Enlists task events kernel where
  rest := rfl
  others _ := rfl
  elsewhere _ := rfl

theorem trans {third : Kernel S} (before : kernel.Enlists task events next)
    (after : next.Enlists task events third) :
    kernel.Enlists task events third where
  rest := by
    rw [after.rest, before.rest]
  others index := (after.others index).trans (before.others index)
  elsewhere {index} apart := by
    have same : next.events = kernel.events := by
      rw [before.rest]
    exact (after.elsewhere (same ▸ apart)).trans (before.elsewhere apart)

end Enlists

theorem watch_enlists (kernel : Kernel S) (task : TaskHandle)
    (inside : event ∈ events) :
    kernel.Enlists task events (kernel.watch event task).2 := by
  unfold watch
  split
  · exact .refl kernel task events
  · exact .refl kernel task events
  · split
    · exact .refl kernel task events
    · next added watchers watched =>
        have enabled := WatcherMap.isEnabled_of_watch watched
        refine ⟨rfl, fun index => ?_, fun {index} apart => ?_⟩
        · dsimp only
          rw [WatcherMap.watching_watch watched]
          split
          · simp
          · rfl
        · dsimp only
          rw [WatcherMap.watching_watch watched, if_neg]
          exact fun here => apart event inside enabled here.1.symm

theorem unwatch_enlists (kernel : Kernel S) (task : TaskHandle)
    (inside : event ∈ events) :
    kernel.Enlists task events (kernel.unwatch event task).2 := by
  unfold unwatch
  refine ⟨rfl, fun index => ?_, fun {index} apart => ?_⟩
  · dsimp only
    rw [WatcherMap.watching_unwatch]
    split
    · simp
    · rfl
  · dsimp only
    rw [WatcherMap.watching_unwatch, if_neg]
    exact fun here => apart event inside here.1 here.2.symm

theorem watchAll_enlists (kernel : Kernel S) (task : TaskHandle)
    {listed : List EventHandle} (inside : listed ⊆ events) :
    kernel.Enlists task events (kernel.watchAll task listed).2 := by
  induction listed generalizing kernel with
  | nil => exact .refl kernel task events
  | cons event rest ih =>
      have first := kernel.watch_enlists task (inside List.mem_cons_self)
      unfold watchAll
      split
      · next error after watched =>
          rw [watched] at first
          exact first
      · next after watched =>
          rw [watched] at first
          exact first.trans
            (ih after fun other later =>
              inside (List.mem_cons_of_mem event later))

theorem unwatchAll_enlists (kernel : Kernel S) (task : TaskHandle)
    {listed : List EventHandle} (inside : listed ⊆ events) :
    kernel.Enlists task events (kernel.unwatchAll task listed) := by
  induction listed generalizing kernel with
  | nil => exact .refl kernel task events
  | cons event rest ih =>
      have first := kernel.unwatch_enlists task (inside List.mem_cons_self)
      exact first.trans
        (ih _ fun other later => inside (List.mem_cons_of_mem event later))

/-- Whoever watches already keeps the place, and whoever is new comes last. -/
theorem watchAll_appends (kernel : Kernel S) (task : TaskHandle)
    (events : List EventHandle) (index : Fin maxEvents) :
    (kernel.watchAll task events).2.watchers.watching index =
        kernel.watchers.watching index ∨
      task ∉ kernel.watchers.watching index ∧
        (kernel.watchAll task events).2.watchers.watching index =
          kernel.watchers.watching index ++ [task] := by
  induction events generalizing kernel with
  | nil => exact Or.inl rfl
  | cons event rest ih =>
      unfold watchAll watch
      split
      · next error after refused =>
          split at refused
          · cases refused
            exact Or.inl rfl
          · cases refused
            exact Or.inl rfl
          · split at refused <;> cases refused
            exact Or.inl rfl
      · next after watched =>
          split at watched
          · cases watched
          · cases watched
          · split at watched
            · cases watched
            · next added watchers done =>
                cases watched
                have first : watchers.watching index = _ :=
                  WatcherMap.watching_watch done
                rcases ih { kernel with watchers } with same | ⟨absent, last⟩
                · rw [same]
                  by_cases begins : index = event.index ∧
                      task ∉ kernel.watchers.watching index
                  · exact Or.inr ⟨begins.2, first.trans (if_pos begins)⟩
                  · exact Or.inl (first.trans (if_neg begins))
                · by_cases begins : index = event.index ∧
                      task ∉ kernel.watchers.watching index
                  · refine absurd ?_ absent
                    rw [first.trans (if_pos begins)]
                    exact List.mem_append_right _ List.mem_cons_self
                  · have still := first.trans (if_neg begins)
                    refine Or.inr ⟨still ▸ absent, last.trans ?_⟩
                    rw [still]

/-- Only an event that is not enabled is refused for that. -/
theorem watchAll_ne_disabled
    (enabled : ∀ event ∈ events, kernel.events.isEnabled event = true) :
    (kernel.watchAll task events).1 ≠ .error .eventDisabled := by
  induction events generalizing kernel with
  | nil => exact fun impossible => nomatch impossible
  | cons event rest ih =>
      have later (other : EventHandle) (inside : other ∈ rest) :
          kernel.events.isEnabled other = true :=
        enabled other (List.mem_cons_of_mem event inside)
      unfold watchAll watch
      split
      · next error after refused =>
          intro same
          cases same
          split at refused
          · next unknown =>
              cases refused
              unfold TaskTable.state TaskTable.entry at unknown
              split at unknown <;> cases unknown
          · cases refused
          · split at refused
            · next full =>
                cases refused
                have here := enabled event List.mem_cons_self
                cases WatcherMap.watch_refused here full
            · cases refused
      · next after watched =>
          split at watched
          · cases watched
          · cases watched
          · split at watched
            · cases watched
            · cases watched
              exact ih later

/-! ### An attempt at waiting -/

/-- Whoever is in a set watches the event that is enabled there. -/
theorem Related.exists_watches (related : kernel.Related)
    {index : Fin maxEvents} (inside : task ∈ kernel.watchers.watching index) :
    ∃ event : EventHandle, event.index = index ∧ kernel.Watches event task :=
  ⟨⟨index, (kernel.events.slot index).generation⟩, rfl,
    Events.isEnabled_iff.mpr ⟨rfl, related.enabled inside⟩, inside⟩

private theorem exists_disabled
    (found : (events.find? fun event => !kernel.events.isEnabled event) =
      some event) :
    ∃ event ∈ events, kernel.events.isEnabled event = false := by
  refine ⟨event, List.mem_of_find?_eq_some found, ?_⟩
  simpa using List.find?_some found

private theorem find?_of_enabled
    (enabled : ∀ event ∈ events, kernel.events.isEnabled event = true) :
    (events.find? fun event => !kernel.events.isEnabled event) = none :=
  List.find?_eq_none.mpr fun event inside => by
    simp [enabled event inside]

private theorem not_exists_disabled
    (enabled : ∀ event ∈ events, kernel.events.isEnabled event = true) :
    ¬ ∃ event ∈ events, kernel.events.isEnabled event = false := by
  rintro ⟨event, inside, disabled⟩
  cases disabled.symm.trans (enabled event inside)

def polled (kernel : Kernel S) (poll : S.World → Option S.Answer × S.World) :
    Kernel S :=
  { kernel with world := (poll kernel.world).2 }

private theorem watchAll_polled (poll : S.World → Option S.Answer × S.World)
    (alive : kernel.isAlive task = true)
    (enabled : ∀ event ∈ events, kernel.events.isEnabled event = true) :
    ((kernel.polled poll).watchAll task events).1 = .ok () ∧
        (∀ event ∈ events, kernel.watchers.Admits event task) ∨
      ((kernel.polled poll).watchAll task events).1 =
          .error .tooManyWatchers ∧
        ∃ event ∈ events, ¬ kernel.watchers.Admits event task := by
  have still : (kernel.polled poll).isAlive task = true := alive
  exact watchAll_cases still enabled

variable [Environment S.World]

inductive Attempt (kernel : Kernel S) (task : TaskHandle)
    (events : List EventHandle) (deadline : Deadline)
    (poll : S.World → Option S.Answer × S.World) :
    Except Error (Readiness (Option S.Answer)) → Kernel S → Prop
  | disabled {event : EventHandle}
      (found : (events.find? fun event => !kernel.events.isEnabled event) =
        some event) :
      Attempt kernel task events deadline poll (.error .eventDisabled)
        ((kernel.record (.waitsOnDisabled task event)).unwatchAll task events)
  | answered {value : S.Answer}
      (enabled : ∀ event ∈ events, kernel.events.isEnabled event = true)
      (answer : (poll kernel.world).1 = some value) :
      Attempt kernel task events deadline poll (.ok (.ready (some value)))
        ((kernel.polled poll).unwatchAll task events)
  | expired
      (enabled : ∀ event ∈ events, kernel.events.isEnabled event = true)
      (silent : (poll kernel.world).1 = none)
      (reached : deadline.reached kernel.now = true) :
      Attempt kernel task events deadline poll (.ok (.ready none))
        ((kernel.polled poll).unwatchAll task events)
  | refused {error : Error} {middle : Kernel S}
      (enabled : ∀ event ∈ events, kernel.events.isEnabled event = true)
      (silent : (poll kernel.world).1 = none)
      (early : deadline.reached kernel.now = false)
      (refusal : (kernel.polled poll).watchAll task events =
        (.error error, middle)) :
      Attempt kernel task events deadline poll (.error error)
        (middle.unwatchAll task events)
  | pending {next : Kernel S}
      (enabled : ∀ event ∈ events, kernel.events.isEnabled event = true)
      (silent : (poll kernel.world).1 = none)
      (early : deadline.reached kernel.now = false)
      (watched : (kernel.polled poll).watchAll task events = (.ok (), next)) :
      Attempt kernel task events deadline poll (.ok .pending) next

theorem attempt_of_wait (kernel : Kernel S) (task : TaskHandle)
    (events : List EventHandle) (deadline : Deadline)
    (poll : S.World → Option S.Answer × S.World) :
    kernel.Attempt task events deadline poll
      (kernel.wait task events deadline poll).1
      (kernel.wait task events deadline poll).2 := by
  unfold wait
  split
  · next event found => exact .disabled found
  · next absent =>
      have enabled : ∀ event ∈ events, kernel.events.isEnabled event = true :=
        fun event inside => by
          simpa using List.find?_eq_none.mp absent event inside
      dsimp only
      split
      · next value answer => exact .answered enabled answer
      · next silent =>
          split
          · next reached => exact .expired enabled silent reached
          · next early =>
              have before : deadline.reached kernel.now = false := by
                simpa using early
              split
              · next watched => exact .pending enabled silent before watched
              · next refusal => exact .refused enabled silent before refusal

/-- What comes of an attempt of a task at waiting on several events: the answer
and the kernel afterwards. -/
structure AllOrNothing (kernel : Kernel S) (task : TaskHandle)
    (events : List EventHandle) (deadline : Deadline)
    (poll : S.World → Option S.Answer × S.World)
    (answer : Except Error (Readiness (Option S.Answer))) (next : Kernel S) :
    Prop where
  /-- Only if an event is not enabled is the attempt refused for it. -/
  disabled : answer = .error .eventDisabled ↔
    ∃ event ∈ events, kernel.events.isEnabled event = false
  /-- Then the condition is not polled. -/
  unpolled : (∃ event ∈ events, kernel.events.isEnabled event = false) →
    ∀ other, kernel.wait task events deadline other = (answer, next)
  /-- Otherwise an answer of the condition is the answer of the attempt. -/
  answered {value : S.Answer} :
    (∀ event ∈ events, kernel.events.isEnabled event = true) →
      (answer = .ok (.ready (some value)) ↔
        (poll kernel.world).1 = some value)
  /-- If the condition has none, the attempt is over once the deadline has been
  reached. -/
  expired : (∀ event ∈ events, kernel.events.isEnabled event = true) →
    (poll kernel.world).1 = none →
      (answer = .ok (.ready none) ↔ deadline.reached kernel.now = true)
  /-- Otherwise a live task waits if it can watch every event. -/
  pending : (∀ event ∈ events, kernel.events.isEnabled event = true) →
    (poll kernel.world).1 = none → deadline.reached kernel.now = false →
      kernel.isAlive task = true →
        (answer = .ok .pending ↔
          ∀ event ∈ events, (kernel.watch event task).1 = .ok ())
  /-- If it cannot, that is because a set has no room. -/
  refused : (∀ event ∈ events, kernel.events.isEnabled event = true) →
    (poll kernel.world).1 = none → deadline.reached kernel.now = false →
      kernel.isAlive task = true → answer ≠ .ok .pending →
        answer = .error .tooManyWatchers
  /-- Who waits watches every event. -/
  watches : answer = .ok .pending →
    ∀ event ∈ events, next.Watches event task
  /-- Who does not wait watches none of them. -/
  leaves : answer ≠ .ok .pending →
    ∀ event ∈ events, ¬ next.Watches event task
  /-- Any set that the task is in then is that of an event that is not among
  them. -/
  strays {index : Fin maxEvents} : answer ≠ .ok .pending →
    task ∈ next.watchers.watching index →
      ∃ other, other ∉ events ∧ other.index = index ∧ next.Watches other task
  /-- Who begins to watch comes last. -/
  appends (index : Fin maxEvents) : answer = .ok .pending →
    next.watchers.watching index = kernel.watchers.watching index ∨
      task ∉ kernel.watchers.watching index ∧
        next.watchers.watching index =
          kernel.watchers.watching index ++ [task]
  /-- Nothing else changes but the world, which is as the poll left it, or has
  the event that is not enabled on record. -/
  enlists : Enlists { kernel with
      world :=
        match events.find? fun event => !kernel.events.isEnabled event with
        | some event =>
            Environment.record (.waitsOnDisabled task event) kernel.world
        | none => (poll kernel.world).2 }
    task events next

namespace Attempt

variable {deadline : Deadline} {poll : S.World → Option S.Answer × S.World}
  {answer : Except Error (Readiness (Option S.Answer))}

theorem disabled_iff
    (attempt : kernel.Attempt task events deadline poll answer next) :
    answer = .error .eventDisabled ↔
      ∃ event ∈ events, kernel.events.isEnabled event = false := by
  cases attempt with
  | disabled found => exact iff_of_true rfl (exists_disabled found)
  | answered enabled | expired enabled | pending enabled =>
      exact iff_of_false (fun impossible => nomatch impossible)
        (not_exists_disabled enabled)
  | refused enabled silent early refusal =>
      refine iff_of_false ?_ (not_exists_disabled enabled)
      intro same
      have other : ((kernel.polled poll).watchAll task events).1 ≠
        .error .eventDisabled := watchAll_ne_disabled enabled
      rw [refusal] at other
      exact other (congrArg Except.error (Except.error.inj same))

theorem answered_iff {value : S.Answer}
    (attempt : kernel.Attempt task events deadline poll answer next)
    (enabled : ∀ event ∈ events, kernel.events.isEnabled event = true) :
    answer = .ok (.ready (some value)) ↔
      (poll kernel.world).1 = some value := by
  cases attempt with
  | disabled found =>
      exact absurd (exists_disabled found) (not_exists_disabled enabled)
  | answered _ answer => simp [answer]
  | expired _ silent | refused _ silent | pending _ silent => simp [silent]

theorem expired_iff
    (attempt : kernel.Attempt task events deadline poll answer next)
    (enabled : ∀ event ∈ events, kernel.events.isEnabled event = true)
    (silent : (poll kernel.world).1 = none) :
    answer = .ok (.ready none) ↔ deadline.reached kernel.now = true := by
  cases attempt with
  | disabled found =>
      exact absurd (exists_disabled found) (not_exists_disabled enabled)
  | answered _ answer => cases silent.symm.trans answer
  | expired _ _ reached => simp [reached]
  | refused _ _ early | pending _ _ early => simp [early]

/-- With nothing to answer, an attempt before the deadline rests on the
registrations. -/
theorem answer_of_silent
    (attempt : kernel.Attempt task events deadline poll answer next)
    (enabled : ∀ event ∈ events, kernel.events.isEnabled event = true)
    (silent : (poll kernel.world).1 = none)
    (early : deadline.reached kernel.now = false) :
    answer = ((kernel.polled poll).watchAll task events).1.map
      fun _ => .pending := by
  cases attempt with
  | disabled found =>
      exact absurd (exists_disabled found) (not_exists_disabled enabled)
  | answered _ answer => cases silent.symm.trans answer
  | expired _ _ reached => cases early.symm.trans reached
  | refused _ _ _ refusal =>
      rw [refusal]
      rfl
  | pending _ _ _ watched =>
      rw [watched]
      rfl

theorem appends (attempt : kernel.Attempt task events deadline poll answer next)
    (pending : answer = .ok .pending) (index : Fin maxEvents) :
    next.watchers.watching index = kernel.watchers.watching index ∨
      task ∉ kernel.watchers.watching index ∧
        next.watchers.watching index =
          kernel.watchers.watching index ++ [task] := by
  cases attempt with
  | disabled | answered | expired | refused => cases pending
  | pending _ _ _ watched =>
      have appends := (kernel.polled poll).watchAll_appends task events index
      rw [watched] at appends
      exact appends

theorem enlists
    (attempt : kernel.Attempt task events deadline poll answer next) :
    Enlists { kernel with
        world :=
          match events.find? fun event => !kernel.events.isEnabled event with
          | some event =>
              Environment.record (.waitsOnDisabled task event) kernel.world
          | none => (poll kernel.world).2 }
      task events next := by
  cases attempt with
  | disabled found =>
      rw [found]
      exact unwatchAll_enlists _ task (List.Subset.refl events)
  | answered enabled | expired enabled =>
      rw [find?_of_enabled enabled]
      exact unwatchAll_enlists _ task (List.Subset.refl events)
  | refused enabled silent early refusal =>
      have before := (kernel.polled poll).watchAll_enlists task
        (List.Subset.refl events)
      rw [refusal] at before
      rw [find?_of_enabled enabled]
      exact before.trans (unwatchAll_enlists _ task (List.Subset.refl events))
  | pending enabled silent early watched =>
      have before := (kernel.polled poll).watchAll_enlists task
        (List.Subset.refl events)
      rw [watched] at before
      rw [find?_of_enabled enabled]
      exact before

end Attempt

/-- The registrations of a wait are all made or all undone. -/
theorem wait_allOrNothing (wellformed : kernel.Wellformed)
    (related : kernel.Related) (task : TaskHandle) (events : List EventHandle)
    (deadline : Deadline)
    (poll : S.World → Option S.Answer × S.World) :
    kernel.AllOrNothing task events deadline poll
      (kernel.wait task events deadline poll).1
      (kernel.wait task events deadline poll).2 := by
  have attempt := kernel.attempt_of_wait task events deadline poll
  have leaves {event : EventHandle} (inside : event ∈ events)
      (settled : (kernel.wait task events deadline poll).1 ≠ .ok .pending) :
      ¬ (kernel.wait task events deadline poll).2.Watches event task := by
    rw [watches_wait_of_over Prod.mk.eta.symm settled]
    exact fun watches => watches.2 ⟨inside, rfl⟩
  constructor
  case disabled => exact attempt.disabled_iff
  case unpolled =>
    -- What the poll would do is not read: the search for a disabled event comes
    -- first.
    rintro ⟨event, inside, disabled⟩ other
    cases found : events.find? fun event => !kernel.events.isEnabled event with
    | none =>
        have enabled := List.find?_eq_none.mp found event inside
        rw [disabled] at enabled
        exact absurd rfl enabled
    | some first =>
        unfold wait
        rw [found]
  case answered => exact attempt.answered_iff
  case expired => exact attempt.expired_iff
  case pending =>
    intro enabled silent early alive
    rw [attempt.answer_of_silent enabled silent early]
    -- The poll changes the world only, so whether an event has room can be
    -- asked of the kernel before it.
    rcases watchAll_polled poll alive enabled with
      ⟨done, fits⟩ | ⟨refused, event, inside, full⟩
    · rw [done]
      refine iff_of_true rfl fun event inside => ?_
      exact (watch_eq_ok_iff alive (enabled event inside)).mpr
        (fits event inside)
    · rw [refused]
      refine iff_of_false (fun impossible => nomatch impossible) ?_
      exact fun fits => full
        ((watch_eq_ok_iff alive (enabled event inside)).mp (fits event inside))
  case refused =>
    intro enabled silent early alive settled
    rw [attempt.answer_of_silent enabled silent early] at settled ⊢
    rcases watchAll_polled poll alive enabled with ⟨done, _⟩ | ⟨refused, _⟩
    · rw [done] at settled
      exact absurd rfl settled
    · rw [refused]
      rfl
  case watches =>
    intro pending event inside
    exact (watches_wait (Prod.ext pending rfl)).mpr (Or.inl ⟨inside, rfl⟩)
  case leaves => exact fun settled event inside => leaves inside settled
  case strays =>
    intro index settled inside
    -- A watcher set names live tasks only, so a slot in it names this task and
    -- no earlier one.
    have evolves := wait_evolves wellformed task events deadline poll
    obtain ⟨other, here, watches⟩ :=
      (evolves.related wellformed related).exists_watches inside
    exact ⟨other, fun listed => leaves listed settled watches, here, watches⟩
  case appends => exact fun index pending => attempt.appends pending index
  case enlists => exact attempt.enlists

end Kernel

end EventScheduler
