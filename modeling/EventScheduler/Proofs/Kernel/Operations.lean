import EventScheduler.Proofs.Kernel.Changes

/-!
# Which changes an operation makes

For every operation on a kernel that is no fault, this module says through
which changes it leads.  Callers of an operation need not look into it.
-/

namespace EventScheduler

variable {S : Signature}

/-- What comes after something, when the whole is no fault. -/
theorem exists_ok_of_bind {Error First Second : Type}
    {result : Except Error First} {next : First → Except Error Second}
    {value : Second} (done : (result >>= next) = .ok value) :
    ∃ first, result = .ok first ∧ next first = .ok value := by
  cases result with
  | error error => cases done
  | ok first => exact ⟨first, rfl, done⟩

def Errand.event? : Errand → Option EventHandle
  | .kill => none
  | .release event | .abandon event => some event

namespace Deed

def Wakes (deed : Deed) : Prop :=
  ∃ task, deed = .wakes task

def Buries (task : TaskHandle) (deed : Deed) : Prop :=
  deed = .quiet ∨ deed = .dies task

def Waits (task : TaskHandle) (deed : Deed) : Prop :=
  deed = .quiet ∨
    ∃ event, deed = .watches event task ∨ deed = .unwatches event task

/-- What ends an errand. -/
def Settles (errand : Errand) (deed : Deed) : Prop :=
  match errand with
  | .kill => False
  | .release event => deed = .quiet ∨ deed = .releases event
  | .abandon event => deed = .abandons event

end Deed

namespace Kernel

variable {kernel next : Kernel S}

/-! ### Resuming and joining -/

theorem resume_evolves (wellformed : kernel.Wellformed) {task : TaskHandle}
    {resumed : Bool} (done : kernel.resume task = .ok (resumed, next)) :
    Evolves Deed.Wakes kernel next := by
  obtain ⟨tasks, activated, holds⟩ :=
    wellformed.holds.activate wellformed.sound task
  unfold resume at done
  by_cases woken : (kernel.roster.activate task).1 = true
  · rw [bind_of_ok activated] at done
    simp only [woken, if_true] at done
    cases done
    unfold Roster.activate at woken holds
    split at woken
    · cases woken
    · next index entry found =>
        split at woken
        · next waiting =>
            simp only [found, waiting, if_true] at holds
            exact .single (.wake found waiting holds) ⟨task, rfl⟩
        · cases woken
  · have asleep : kernel.tasks.activate task = .ok (false, kernel.tasks) := by
      unfold Roster.activate at woken
      unfold TaskTable.activate
      rw [wellformed.holds.find?]
      split
      · rfl
      · next index entry found =>
          rw [found] at woken
          split
          · next waiting => simp [waiting] at woken
          · rfl
    rw [bind_of_ok asleep] at done
    cases done
    exact .refl kernel

private theorem visitList_evolves (tasks : List TaskHandle) {woke : Bool}
    (wellformed : kernel.Wellformed)
    (done : TaskSet.visitList resume tasks kernel = .ok (woke, next)) :
    Evolves Deed.Wakes kernel next := by
  induction tasks generalizing kernel woke with
  | nil =>
      cases done
      exact .refl _
  | cons task rest ih =>
      unfold TaskSet.visitList at done
      obtain ⟨⟨first, middle⟩, resumed, later⟩ := exists_ok_of_bind done
      obtain ⟨⟨_, last⟩, visited, ended⟩ := exists_ok_of_bind later
      cases ended
      have before := resume_evolves wellformed resumed
      exact before.trans (ih (before.wellformed wellformed) visited)

theorem resumeAll_evolves {capacity : Nat} {tasks : TaskSet capacity}
    {woke : Bool} (wellformed : kernel.Wellformed)
    (done : kernel.resumeAll tasks = .ok (woke, next)) :
    Evolves Deed.Wakes kernel next :=
  visitList_evolves tasks.toList wellformed done

theorem alive_of_state (wellformed : kernel.Wellformed) {task : TaskHandle}
    {state : S.State} (known : kernel.tasks.state task = .ok state)
    (alive : state.isDead = false) : kernel.roster.Alive task := by
  unfold TaskTable.state TaskTable.entry at known
  rw [wellformed.holds.find?] at known
  cases found : kernel.roster.find? task with
  | none =>
      rw [found] at known
      cases known
  | some named =>
      rw [found] at known
      cases known
      exact ⟨named.1, named.2, found, alive⟩

theorem exists_find?_of_entry (wellformed : kernel.Wellformed)
    {task : TaskHandle} {entry : TaskEntry S}
    (known : kernel.tasks.entry task = .ok entry) :
    ∃ index, kernel.roster.find? task = some (index, entry) := by
  unfold TaskTable.entry at known
  rw [wellformed.holds.find?] at known
  split at known
  · next index stored found =>
      cases known
      exact ⟨index, found⟩
  · cases known

theorem isAlive_iff (wellformed : kernel.Wellformed) {task : TaskHandle} :
    kernel.isAlive task = true ↔ kernel.roster.Alive task := by
  constructor
  · intro alive
    unfold isAlive at alive
    split at alive
    · next state known =>
        exact alive_of_state wellformed known (by simpa using alive)
    · cases alive
  · rintro ⟨index, entry, found, alive⟩
    have known : kernel.tasks.state task = .ok entry.state := by
      unfold TaskTable.state TaskTable.entry
      rw [wellformed.holds.find?, found]
      rfl
    unfold isAlive
    rw [known]
    simpa using alive

theorem alive_of_pending (wellformed : kernel.Wellformed) {task : TaskHandle}
    (pending : kernel.outcome task = .ok .pending) :
    kernel.roster.Alive task := by
  unfold outcome at pending
  split at pending
  · cases pending
  · cases pending
  · next state notDead known =>
      refine alive_of_state wellformed known ?_
      cases state with
      | dead exit => exact absurd rfl (notDead exit)
      | active | suspended | timer => rfl

theorem join_evolves (wellformed : kernel.Wellformed)
    (task joiner : TaskHandle) :
    Evolves (fun deed => deed = .joins task joiner) kernel
      (kernel.join task joiner).2 := by
  unfold join
  split
  · exact .refl kernel
  · next different =>
      split
      · exact .refl kernel
      · exact .refl kernel
      · next pending =>
          split
          · next joinerAlive =>
              split
              · exact .refl kernel
              · next added tasks done =>
                  obtain ⟨joined, performed, holds⟩ :=
                    wellformed.holds.addJoiner task joiner
                  rw [done] at performed
                  cases answer : (kernel.roster.addJoiner task joiner).1 with
                  | error error =>
                      rw [answer] at performed
                      cases performed
                  | ok known =>
                      rw [answer] at performed
                      cases performed
                      exact .single (.join different
                        (alive_of_pending wellformed pending)
                        ((isAlive_iff wellformed).mp joinerAlive) holds) rfl
          · exact .refl kernel

/-! ### Watching events -/

theorem watch_evolves (wellformed : kernel.Wellformed) (event : EventHandle)
    (task : TaskHandle) :
    Evolves (fun deed => deed = .watches event task) kernel
      (kernel.watch event task).2 := by
  unfold watch
  split
  · exact .refl kernel
  · exact .refl kernel
  · next state notDead known =>
      split
      · exact .refl kernel
      · next added watchers done =>
          have alive : state.isDead = false := by
            cases state with
            | dead exit => exact absurd rfl (notDead exit)
            | active | suspended | timer => rfl
          exact .single (.watch (alive_of_state wellformed known alive) done)
            rfl

theorem unwatch_evolves (kernel : Kernel S) (event : EventHandle)
    (task : TaskHandle) :
    Evolves (fun deed => deed = .unwatches event task) kernel
      (kernel.unwatch event task).2 :=
  .single (.unwatch event task) rfl

theorem watchAll_evolves (wellformed : kernel.Wellformed) (task : TaskHandle)
    (events : List EventHandle) :
    Evolves (fun deed => ∃ event ∈ events, deed = .watches event task) kernel
      (kernel.watchAll task events).2 := by
  induction events generalizing kernel with
  | nil => exact .refl kernel
  | cons event rest ih =>
      have first := watch_evolves wellformed event task
      have weaker : Evolves (fun deed => ∃ known ∈ event :: rest,
          deed = .watches known task) kernel (kernel.watch event task).2 :=
        first.mono fun deed same => ⟨event, List.mem_cons_self, same⟩
      unfold watchAll
      split
      · next error refused answer =>
          rw [answer] at weaker
          exact weaker
      · next watching answer =>
          rw [answer] at weaker
          refine weaker.trans ((ih (weaker.wellformed wellformed)).mono ?_)
          rintro deed ⟨later, inside, same⟩
          exact ⟨later, List.mem_cons_of_mem event inside, same⟩

theorem unwatchAll_evolves (kernel : Kernel S) (task : TaskHandle)
    (events : List EventHandle) :
    Evolves (fun deed => ∃ event ∈ events, deed = .unwatches event task) kernel
      (kernel.unwatchAll task events) := by
  induction events generalizing kernel with
  | nil => exact .refl kernel
  | cons event rest ih =>
      have first : Evolves (fun deed => ∃ known ∈ event :: rest,
          deed = .unwatches known task) kernel (kernel.unwatch event task).2 :=
        (unwatch_evolves kernel event task).mono
          fun deed same => ⟨event, List.mem_cons_self, same⟩
      refine first.trans ((ih _).mono ?_)
      rintro deed ⟨later, inside, same⟩
      exact ⟨later, List.mem_cons_of_mem event inside, same⟩

/-! ### Dying -/

/-- A task dies, and nothing else happens but on record. -/
def Buries (kernel : Kernel S) (task : TaskHandle) (next : Kernel S) : Prop :=
  ∃ first middle, Evolves (· = .quiet) kernel first ∧
    Change first (.dies task) middle ∧ Evolves (· = .quiet) middle next

theorem Buries.evolves {task : TaskHandle} (buries : kernel.Buries task next) :
    Evolves (Deed.Buries task) kernel next := by
  obtain ⟨first, middle, before, dies, after⟩ := buries
  have quietly : ∀ deed : Deed, deed = .quiet → deed.Buries task :=
    fun _ => Or.inl
  exact ((before.mono quietly).step dies (Or.inr rfl)).trans
    (after.mono quietly)

/-- A task is dead now.  Its joiners and its body, if it has one, were handed
out, and it joins no other task any more. -/
def Retires (kernel : Kernel S) (task : TaskHandle) (exit : S.Exit)
    (joiners : TaskSet maxJoiners) (body : Option S.Body) (next : Kernel S) :
    Prop :=
  ∃ index entry, kernel.roster.find? task = some (index, entry) ∧
    entry.joiners = joiners ∧ entry.body = body ∧
    next.roster = (kernel.roster.bury index entry exit).forgetJoiner task

/-- A live task is dead now, nothing names it any more, and the close of its body
is still to run. -/
structure Begins (kernel : Kernel S) (closing : Closing)
    (body : Option S.Body) (next : Kernel S) : Prop where
  alive : kernel.roster.Alive closing.task
  notRunning : kernel.running ≠ some closing.task
  buries : kernel.Buries closing.task next
  handlers : next.handlers = kernel.handlers.forget closing.task
  retires : kernel.Retires closing.task .cancelled closing.joiners body next

variable [Environment S.World]

theorem record_evolves {may : Deed → Prop} (kernel : Kernel S) (fact : Record)
    (allowed : may .quiet) : Evolves may kernel (kernel.record fact) :=
  .single (.world _) allowed

/-! ### Starting tasks -/

/-- A start that succeeds starts the task that it answers, and another does
nothing. -/
theorem start_cases (wellformed : kernel.Wellformed) {body : S.Body}
    {name : Option String} {answer : Except Error TaskHandle}
    (done : kernel.start body name = .ok (answer, next)) :
    match answer with
    | .ok task => ∃ middle, Change kernel (.starts task) middle ∧
        Evolves (· = .quiet) middle next
    | .error _ => next = kernel := by
  obtain ⟨tasks, inserted, holds⟩ :=
    wellformed.holds.insert wellformed.sound body name
  unfold start at done
  rw [bind_of_ok inserted] at done
  cases started : (kernel.roster.insert body name).1 with
  | error error =>
      rw [started] at done
      cases done
      rfl
  | ok task =>
      rw [started] at done
      cases done
      exact ⟨_, .start started holds, record_evolves _ _ rfl⟩

theorem start_evolves (wellformed : kernel.Wellformed) {body : S.Body}
    {name : Option String} {answer : Except Error TaskHandle}
    (done : kernel.start body name = .ok (answer, next)) :
    Evolves (fun deed => deed = .quiet ∨
      ∃ task, answer = .ok task ∧ deed = .starts task) kernel next := by
  have cases := start_cases wellformed done
  cases answer with
  | error error =>
      rw [cases]
      exact .refl kernel
  | ok task =>
      obtain ⟨middle, starts, quiet⟩ := cases
      exact (Evolves.single starts (Or.inr ⟨task, rfl, rfl⟩)).trans
        (quiet.mono fun _ => Or.inl)

/-! ### Waiting on and handling events -/

theorem wait_evolves (wellformed : kernel.Wellformed) (task : TaskHandle)
    (events : List EventHandle) (deadline : Deadline)
    (poll : S.World → Option S.Answer × S.World) :
    Evolves (Deed.Waits task) kernel
      (kernel.wait task events deadline poll).2 := by
  have leaves (kernel : Kernel S) :
      Evolves (Deed.Waits task) kernel (kernel.unwatchAll task events) :=
    (unwatchAll_evolves kernel task events).mono
      fun deed ⟨event, _, same⟩ => Or.inr ⟨event, Or.inr same⟩
  unfold wait
  split
  · exact (record_evolves kernel _ (Or.inl rfl)).trans (leaves _)
  · have polled : Evolves (Deed.Waits task) kernel
        { kernel with world := (poll kernel.world).2 } :=
      .single (.world _) (Or.inl rfl)
    dsimp only
    split
    · exact polled.trans (leaves _)
    · split
      · exact polled.trans (leaves _)
      · have watching : Evolves (Deed.Waits task)
            { kernel with world := (poll kernel.world).2 }
            (watchAll _ task events).2 :=
          (watchAll_evolves (polled.wellformed wellformed) task events).mono
            fun deed ⟨event, _, same⟩ => Or.inr ⟨event, Or.inl same⟩
        split
        · next after answer =>
            rw [answer] at watching
            exact polled.trans watching
        · next error after answer =>
            rw [answer] at watching
            exact (polled.trans watching).trans (leaves _)

/-- A handler that is refused changes nothing, unless there is no room among the
watchers of its event.  Then it got a slot, and the slot was freed again. -/
theorem handle_refused (wellformed : kernel.Wellformed) {event : EventHandle}
    {body : S.Body} {name : Option String} {error : Error}
    (done : kernel.handle event body name = .ok (.error error, next)) :
    error ≠ .tooManyWatchers ∧ next = kernel ∨
      error = .tooManyWatchers ∧ ∃ index,
        (kernel.roster.insert body name).1 =
            .ok (kernel.roster.handleAt index) ∧
          Change kernel (.spoils index) next := by
  unfold handle at done
  split at done
  · cases done
    exact Or.inl ⟨(fun impossible => nomatch impossible), rfl⟩
  split at done
  · cases done
    exact Or.inl ⟨(fun impossible => nomatch impossible), rfl⟩
  next disabled unhandled =>
    have enabled : kernel.events.isEnabled event = true := by
      simpa using disabled
    obtain ⟨tasks, inserted, holds⟩ :=
      wellformed.holds.insert wellformed.sound body name
    rw [bind_of_ok inserted] at done
    cases started : (kernel.roster.insert body name).1 with
    | error known =>
        rw [started] at done
        cases done
        rw [Roster.eq_noTaskSlots_of_insert started]
        exact Or.inl ⟨(fun impossible => nomatch impossible), rfl⟩
    | ok task =>
        rw [started] at done
        dsimp only [Except.map] at done
        split at done
        · cases done
        · next known refused =>
            have full : known = .tooManyWatchers := by
              unfold WatcherMap.watch at refused
              rw [if_pos enabled] at refused
              split at refused <;> cases refused
              rfl
            obtain ⟨alive, index, fits, vacant, reaped⟩ :=
              wellformed.sound.discard .cancelled started
            obtain ⟨retired, retireDone, retiredHolds⟩ :=
              holds.retire (wellformed.sound.insert body name) alive .cancelled
            obtain ⟨freed, reapDone, freedHolds⟩ := retiredHolds.reap task
            rw [bind_of_ok retireDone] at done
            rw [reaped] at reapDone freedHolds
            simp only [TaskTable.tryReap_eq, reapDone, Except.map] at done
            cases done
            exact Or.inr ⟨full, index, fits ▸ rfl, .spoil vacant freedHolds⟩

/-- A handler task that is started has a slot of its own and watches its
event. -/
theorem exists_of_handle (wellformed : kernel.Wellformed) {event : EventHandle}
    {body : S.Body} {name : Option String} {task : TaskHandle}
    (done : kernel.handle event body name = .ok (.ok task, next)) :
    ∃ middle, Change kernel (.handles event task) middle ∧
      (kernel.roster.insert body name).1 = .ok task ∧
      middle.tasks.Holds (kernel.roster.insert body name).2 ∧
      Evolves (· = .quiet) middle next := by
  unfold handle at done
  split at done
  · cases done
  split at done
  · cases done
  next unhandled =>
    obtain ⟨tasks, inserted, holds⟩ :=
      wellformed.holds.insert wellformed.sound body name
    rw [bind_of_ok inserted] at done
    cases started : (kernel.roster.insert body name).1 with
    | error error =>
        rw [started] at done
        cases done
    | ok known =>
        rw [started] at done
        dsimp only [Except.map] at done
        split at done
        · next added watchers watched =>
            cases done
            have none : kernel.handlers.get? event = none := by
              simpa using unhandled
            exact ⟨_, .handle none started holds watched, rfl, holds,
              record_evolves _ _ rfl⟩
        · obtain ⟨_, _, later⟩ := exists_ok_of_bind done
          obtain ⟨_, _, later⟩ := exists_ok_of_bind later
          split at later <;> cases later

/-- Handling an event starts the task that it answers, or no task at all. -/
theorem handle_cases (wellformed : kernel.Wellformed) {event : EventHandle}
    {body : S.Body} {name : Option String} {answer : Except Error TaskHandle}
    (done : kernel.handle event body name = .ok (answer, next)) :
    match answer with
    | .ok task => ∃ middle, Change kernel (.handles event task) middle ∧
        Evolves (· = .quiet) middle next
    | .error _ => Evolves (fun deed => ∃ index, deed = .spoils index)
        kernel next := by
  cases answer with
  | error error =>
      rcases handle_refused wellformed done with
        ⟨_, rfl⟩ | ⟨_, index, _, spoils⟩
      · exact .refl _
      · exact .single spoils ⟨index, rfl⟩
  | ok task =>
      obtain ⟨middle, handles, _, _, quiet⟩ := exists_of_handle wellformed done
      exact ⟨middle, handles, quiet⟩

theorem handle_evolves (wellformed : kernel.Wellformed) {event : EventHandle}
    {body : S.Body} {name : Option String} {answer : Except Error TaskHandle}
    (done : kernel.handle event body name = .ok (answer, next)) :
    Evolves (fun deed => deed = .quiet ∨ (∃ index, deed = .spoils index) ∨
      ∃ task, answer = .ok task ∧ deed = .handles event task) kernel next := by
  have cases := handle_cases wellformed done
  cases answer with
  | error error => exact cases.mono fun _ spoils => Or.inr (Or.inl spoils)
  | ok task =>
      obtain ⟨middle, handles, quiet⟩ := cases
      refine (Evolves.single handles ?_).trans (quiet.mono fun _ => Or.inl)
      exact Or.inr (Or.inr ⟨task, rfl, rfl⟩)

/-! ### Killing tasks -/

theorem retire_buries (wellformed : kernel.Wellformed) {task : TaskHandle}
    {exit : S.Exit} {joiners : TaskSet maxJoiners}
    (alive : kernel.roster.Alive task) (notRunning : kernel.running ≠ some task)
    (done : kernel.retire task exit = .ok (joiners, next)) :
    kernel.Buries task next ∧
      next.handlers = kernel.handlers.forget task := by
  obtain ⟨tasks, retired, holds⟩ :=
    wellformed.holds.retire wellformed.sound alive.eachNamed exit
  unfold retire at done
  dsimp only [record] at done
  rw [bind_of_ok retired] at done
  cases done
  have recorded : Evolves (· = .quiet) kernel
      (kernel.record (.died task exit.name)) :=
    record_evolves kernel _ rfl
  exact ⟨⟨_, _, recorded,
    .die alive notRunning (holds.forgetJoiner task), .refl _⟩, rfl⟩

theorem retire_retires (wellformed : kernel.Wellformed) {task : TaskHandle}
    {exit : S.Exit} {joiners : TaskSet maxJoiners} {index : SlotIndex}
    {entry : TaskEntry S} (alive : kernel.roster.Alive task)
    (found : kernel.roster.find? task = some (index, entry))
    (done : kernel.retire task exit = .ok (joiners, next)) :
    kernel.Retires task exit joiners entry.body next := by
  obtain ⟨tasks, retired, holds⟩ :=
    wellformed.holds.retire wellformed.sound alive.eachNamed exit
  rw [Roster.retire_of_find? exit found] at retired holds
  unfold retire at done
  dsimp only [record] at done
  rw [bind_of_ok retired] at done
  cases done
  exact ⟨index, entry, found, rfl, rfl, (holds.forgetJoiner task).roster_eq⟩

/-- A task that just ran ends, and the tasks that joined it are woken. -/
theorem finish_evolves (wellformed : kernel.Wellformed) {task : TaskHandle}
    {exit : S.Exit} (alive : kernel.roster.Alive task)
    (notRunning : kernel.running ≠ some task)
    (done : kernel.finish task exit = .ok next) :
    ∃ joiners body middle woke, kernel.Buries task middle ∧
      kernel.Retires task exit joiners body middle ∧
      middle.resumeAll joiners = .ok (woke, next) := by
  unfold finish at done
  obtain ⟨⟨joiners, middle⟩, retired, later⟩ := exists_ok_of_bind done
  obtain ⟨⟨woke, last⟩, resumed, ended⟩ := exists_ok_of_bind later
  cases ended
  have named := alive
  obtain ⟨index, entry, found, _⟩ := named
  exact ⟨joiners, entry.body, middle, woke,
    (retire_buries wellformed alive notRunning retired).1,
    retire_retires wellformed alive found retired, resumed⟩

theorem kill_begins (wellformed : kernel.Wellformed) {task : TaskHandle}
    {joiners : TaskSet maxJoiners} {body : Option S.Body} (errand : Errand)
    (done : kernel.kill task = .ok (.begun joiners body next)) :
    kernel.Begins ⟨task, joiners, errand⟩ body next := by
  unfold kill at done
  split at done
  · cases done
  next notRunning =>
    split at done
    · cases done
    next entry stored =>
      split at done
      · cases done
      next notDead =>
        have alive : kernel.roster.Alive task := by
          have state : kernel.tasks.state task = .ok entry.state := by
            unfold TaskTable.state
            rw [stored]
            rfl
          exact alive_of_state wellformed state (by simpa using notDead)
        obtain ⟨⟨known, middle⟩, retired, later⟩ := exists_ok_of_bind done
        cases later
        obtain ⟨⟨first, dead, before, dies, after⟩, handlers⟩ :=
          retire_buries wellformed alive notRunning retired
        have killed := after.trans (record_evolves middle (.killed task) rfl)
        obtain ⟨index, found⟩ := exists_find?_of_entry wellformed stored
        have retires := retire_retires wellformed alive found retired
        exact ⟨alive, notRunning, ⟨first, dead, before, dies, killed⟩, handlers,
          retires⟩

theorem not_alive_of_needless (wellformed : kernel.Wellformed)
    {task : TaskHandle} (done : kernel.kill task = .ok .needless) :
    ¬ kernel.roster.Alive task := by
  rintro ⟨index, entry, found, alive⟩
  rw [← wellformed.holds.find?] at found
  unfold kill at done
  split at done
  · cases done
  split at done
  · cases done
  next known stored =>
    split at done
    · next dead =>
        unfold TaskTable.entry at stored
        rw [found] at stored
        cases stored
        rw [alive] at dead
        cases dead
    · obtain ⟨_, _, later⟩ := exists_ok_of_bind done
      cases later

theorem settle_evolves (kernel : Kernel S) (errand : Errand) :
    Evolves (Deed.Settles errand) kernel (kernel.settle errand).2 := by
  cases errand with
  | kill => exact .refl kernel
  | release event =>
      unfold settle
      dsimp only
      split
      · exact .refl kernel
      · next events released =>
          have freed : Evolves (Deed.Settles (.release event)) kernel
              { kernel with
                events
                watchers := (kernel.watchers.evict event).2 } :=
            .single (.release released) (Or.inr rfl)
          split
          · exact freed
          · exact freed.trans (record_evolves _ _ (Or.inl rfl))
  | abandon event =>
      unfold settle
      dsimp only
      split
      · exact .refl kernel
      · next events abandoned => exact .single (.abandon abandoned) rfl

/-- What is left of an errand touches no task and no handler. -/
theorem settle_keeps (kernel : Kernel S) (errand : Errand) :
    (kernel.settle errand).2.tasks = kernel.tasks ∧
      (kernel.settle errand).2.running = kernel.running ∧
      (kernel.settle errand).2.handlers = kernel.handlers := by
  cases errand with
  | kill => exact ⟨rfl, rfl, rfl⟩
  | release event =>
      unfold settle
      dsimp only
      split
      · exact ⟨rfl, rfl, rfl⟩
      · split <;> exact ⟨rfl, rfl, rfl⟩
  | abandon event =>
      unfold settle
      dsimp only
      split <;> exact ⟨rfl, rfl, rfl⟩

/-- After a close the joiners are woken, and then the errand is done. -/
theorem complete_evolves (wellformed : kernel.Wellformed) {closing : Closing}
    {verdict : Bool} (done : kernel.complete closing = .ok (verdict, next)) :
    ∃ woke middle, Evolves Deed.Wakes kernel middle ∧
      kernel.resumeAll closing.joiners = .ok (woke, middle) ∧
      middle.settle closing.errand = (verdict, next) := by
  unfold complete at done
  obtain ⟨⟨woke, middle⟩, resumed, ended⟩ := exists_ok_of_bind done
  exact ⟨woke, middle, resumeAll_evolves wellformed resumed, resumed,
    Except.ok.inj ended⟩

/-- What is left of an errand on an event is done at once: nobody alive handles
the event, or the handler itself runs the errand. -/
def SettlesAtOnce (kernel : Kernel S) (event : EventHandle) (errand : Errand)
    (verdict : Bool) (next : Kernel S) : Prop :=
  ((∀ task, kernel.handlers.get? event = some task →
      ¬ kernel.roster.Alive task) ∧
    kernel.settle errand = (verdict, next)) ∨
    ∃ task, kernel.handlers.get? event = some task ∧
      kernel.running = some task ∧
      { kernel with handlers := kernel.handlers.forget task }.settle errand =
        (verdict, next)

/-- An errand that is done at once is settled with the tasks and the events as
they are. -/
theorem SettlesAtOnce.exists_settle {event : EventHandle} {errand : Errand}
    {verdict : Bool}
    (settles : kernel.SettlesAtOnce event errand verdict next) :
    ∃ middle : Kernel S, middle.tasks = kernel.tasks ∧
      middle.events = kernel.events ∧
      middle.settle errand = (verdict, next) := by
  rcases settles with ⟨_, done⟩ | ⟨task, _, _, done⟩
  · exact ⟨kernel, rfl, rfl, done⟩
  · exact ⟨{ kernel with handlers := kernel.handlers.forget task }, rfl, rfl,
      done⟩

theorem startErrand_answered (wellformed : kernel.Wellformed)
    {event : EventHandle} {errand : Errand} {verdict : Bool}
    (done : kernel.startErrand event errand = .ok (.answered verdict next)) :
    kernel.SettlesAtOnce event errand verdict next := by
  unfold startErrand at done
  split at done
  · next nobody =>
      cases done
      refine Or.inl ⟨fun task handled => ?_, rfl⟩
      rw [nobody] at handled
      cases handled
  next task handled =>
    split at done
    · next running =>
        cases done
        exact Or.inr ⟨task, handled, running, rfl⟩
    obtain ⟨killing, killed, later⟩ := exists_ok_of_bind done
    cases killing with
    | refused error => cases later
    | needless =>
        cases later
        refine Or.inl ⟨fun other handledToo => ?_, rfl⟩
        rw [handled] at handledToo
        cases handledToo
        exact not_alive_of_needless wellformed killed
    | begun joiners body middle => cases later

theorem startErrand_underway (wellformed : kernel.Wellformed)
    {event : EventHandle} {errand : Errand} {closing : Closing}
    {body : Option S.Body} {reply : Bool → Bool}
    (done : kernel.startErrand event errand =
      .ok (.underway closing body reply next)) :
    kernel.Begins closing body next ∧ closing.errand = errand ∧
      kernel.handlers.get? event = some closing.task := by
  unfold startErrand at done
  split at done
  · cases done
  next task handled =>
    split at done
    · cases done
    obtain ⟨killing, killed, later⟩ := exists_ok_of_bind done
    cases killing with
    | refused error => cases later
    | needless => cases later
    | begun joiners body middle =>
        cases later
        exact ⟨kill_begins wellformed errand killed, rfl, handled⟩

theorem startKill_answered {task : TaskHandle} {answer : Except Error Bool}
    (done : kernel.startKill task = .ok (.answered answer next)) :
    next = kernel := by
  unfold startKill at done
  obtain ⟨killing, killed, later⟩ := exists_ok_of_bind done
  cases killing with
  | refused error =>
      cases later
      rfl
  | needless =>
      cases later
      rfl
  | begun joiners body middle => cases later

/-- A kill that is answered at once killed nobody. -/
theorem ne_ok_true_of_startKill {task : TaskHandle} {answer : Except Error Bool}
    (done : kernel.startKill task = .ok (.answered answer next)) :
    answer ≠ .ok true := by
  unfold startKill at done
  obtain ⟨killing, killed, later⟩ := exists_ok_of_bind done
  cases killing with
  | refused error =>
      cases later
      exact fun impossible => nomatch impossible
  | needless =>
      cases later
      exact fun impossible => nomatch impossible
  | begun joiners body middle => cases later

theorem startKill_underway (wellformed : kernel.Wellformed) {task : TaskHandle}
    {closing : Closing} {body : Option S.Body}
    {reply : Bool → Except Error Bool}
    (done : kernel.startKill task = .ok (.underway closing body reply next)) :
    kernel.Begins closing body next ∧ closing.errand = .kill ∧
      closing.task = task := by
  unfold startKill at done
  obtain ⟨killing, killed, later⟩ := exists_ok_of_bind done
  cases killing with
  | refused error => cases later
  | needless => cases later
  | begun joiners body middle =>
      cases later
      exact ⟨kill_begins wellformed .kill killed, rfl, rfl⟩

end Kernel

end EventScheduler
