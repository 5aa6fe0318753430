import EventScheduler.Proofs.Scheduler.Order
import EventScheduler.Proofs.Scheduler.Watching

/-!
# Whom an occurrence wakes

A task watches an event from where it was registered until it is unregistered or
dies, or the event is released or abandoned.  An occurrence of the event wakes
those tasks and nobody else, however often the slot of the event was freed and
claimed again.
-/

namespace EventScheduler

variable {S : Signature}

/-! ### Dispatching -/

namespace Kernel

variable {kernel next : Kernel S} {event : EventHandle} {task : TaskHandle}
  [Environment S.World]

/-- Going through drained events, a dispatch comes to one whose watchers it
resumes, and so wakes the task, which waited up to then. -/
inductive WakesAt (kernel : Kernel S) (drained : List EventHandle)
    (event : EventHandle) (task : TaskHandle) : Prop
  | intro {before after : List EventHandle} {earlier woke : Bool}
      {reached last : Kernel S} (split : drained = before ++ event :: after)
      (passed : kernel.dispatchAll before = .ok (earlier, reached))
      (resumed : (reached.record (.dispatches event)).resumeWatchers event =
        .ok (woke, last))
      (waited : reached.isWaiting task = true)
      (woken : last.isWaiting task = false)

/-- Nobody but the watchers of an event is woken for it. -/
theorem WakesAt.mem_watching {drained : List EventHandle}
    (wakes : kernel.WakesAt drained event task)
    (wellformed : kernel.Wellformed) :
    event ∈ drained ∧ task ∈ kernel.watchers.watching event.index := by
  obtain ⟨rfl, passed, resumed, waited, woken⟩ := wakes
  rename_i reached last
  have reachedToo : reached.Wellformed :=
    (dispatchAll_evolves wellformed passed).wellformed wellformed
  have recorded : (reached.record (.dispatches event)).Wellformed :=
    ⟨reachedToo.holds, reachedToo.sound⟩
  have watchers := (dispatchAll_wakens wellformed passed).rouses.watchers
  have rouses := (resumeWatchers_wakens recorded resumed).rouses.roster
  have lastToo : last.Wellformed :=
    (resumeAll_evolves recorded resumed).wellformed recorded
  have waits : (reached.record (.dispatches event)).roster.isWaiting task =
      true := by
    rwa [isWaiting_eq reachedToo] at waited
  rw [isWaiting_eq lastToo, rouses.isWaiting, waits, Bool.and_true,
    decide_eq_false_iff_not, not_not, Roster.mem_wakened_iff] at woken
  refine ⟨List.mem_append_right _ List.mem_cons_self, ?_⟩
  rw [← watchers]
  exact woken.1

/-- Whoever does not wait any more after a dispatch was woken for one of the
events. -/
theorem exists_wakesAt {drained : List EventHandle} {woke : Bool}
    (done : kernel.dispatchAll drained = .ok (woke, next))
    (waited : kernel.isWaiting task = true)
    (woken : next.isWaiting task = false) :
    ∃ event, kernel.WakesAt drained event task := by
  induction drained generalizing kernel woke with
  | nil =>
      cases done
      cases waited.symm.trans woken
  | cons event rest ih =>
      unfold dispatchAll at done
      obtain ⟨⟨first, middle⟩, resumed, later⟩ := exists_ok_of_bind done
      obtain ⟨⟨second, last⟩, dispatched, ended⟩ := exists_ok_of_bind later
      cases ended
      cases waits : middle.isWaiting task with
      | false =>
          have split : event :: rest = [] ++ event :: rest := rfl
          exact ⟨event, .intro split rfl resumed waited waits⟩
      | true =>
          obtain ⟨known, rfl, passed, resumedToo, waitedToo, wokenToo⟩ :=
            ih dispatched waits
          rename_i before after earlier _ reached _
          have passedToo : kernel.dispatchAll (event :: before) =
              .ok (first || earlier, reached) := by
            unfold dispatchAll
            rw [bind_of_ok resumed]
            dsimp only
            rw [bind_of_ok passed]
            rfl
          exact ⟨known, .intro rfl passedToo resumedToo waitedToo wokenToo⟩

/-- Whoever watches a pending event is active once the queue was drained. -/
theorem Watches.active_of_drain {woke : Bool}
    (watches : kernel.Watches event task) (wellformed : kernel.Wellformed)
    (related : kernel.Related) (consistent : kernel.events.Consistent)
    (queued : event ∈ kernel.events.queue)
    (done : kernel.drain [] = .ok (woke, next)) :
    next.tasks.state task = .ok .active := by
  have wellformedToo : next.Wellformed :=
    (drain_evolves wellformed done).wellformed wellformed
  have rouses := (drain_wakens wellformed consistent done).rouses.roster
  obtain ⟨index, entry, found, alive⟩ := watches.alive related
  have known : kernel.tasks.entry task = .ok entry := by
    unfold TaskTable.entry
    rw [wellformed.holds.find?, found]
  unfold TaskTable.state
  rw [entry_of_rouses wellformed wellformedToo rouses, known]
  have woken : task ∈ kernel.roster.wakened
      (kernel.watchers.audience kernel.events.queue) ↔
        entry.state.isWaiting = true := by
    rw [Roster.mem_wakened_iff, Roster.isWaiting_eq_true_iff]
    constructor
    · rintro ⟨_, slot, other, foundToo, waiting⟩
      cases found.symm.trans foundToo
      exact waiting
    · intro waiting
      exact ⟨List.mem_flatMap.mpr ⟨event, queued, watches.2⟩,
        index, entry, found, waiting⟩
  split
  · rfl
  · next asleep =>
      rw [woken] at asleep
      refine congrArg Except.ok ?_
      cases state : entry.state with
      | active => rfl
      | suspended | timer deadline =>
          rw [state] at asleep
          exact absurd rfl asleep
      | dead exit =>
          rw [state] at alive
          cases alive

end Kernel

namespace Machine

variable [Application S] {machine : Machine S} {event : EventHandle}
  {task : TaskHandle}

/-- The machine is about to drain the pending events, and going through them it
wakes the task because of the event. -/
inductive WakesFor (machine : Machine S) (event : EventHandle)
    (task : TaskHandle) : Prop
  | intro {deadline : Deadline} {woke : Bool} {drained : List EventHandle}
      {events : Events} (control : machine.control = .dispatch deadline woke)
      (taken : machine.kernel.events.takeInto machine.drained =
        .ok (drained, events))
      (wakes : Kernel.WakesAt { machine.kernel with events } drained event task)

private theorem WakesFor.watches (wakes : machine.WakesFor event task)
    (guarded : machine.Guarded) : machine.kernel.Watches event task := by
  obtain ⟨control, taken, wakes⟩ := wakes
  rename_i drained events
  have wellformed := guarded.steady.placed.wellformed
  have emptied : Kernel.Wellformed { machine.kernel with events } :=
    ⟨wellformed.holds, wellformed.sound⟩
  obtain ⟨inside, watching⟩ := wakes.mem_watching emptied
  obtain ⟨after, all, _⟩ := Events.exists_ok_of_takePending guarded.consistent
  cases all.symm.trans (Events.takePending_of_takeInto taken)
  exact ⟨guarded.consistent.isEnabled_of_mem inside, watching⟩

/-- A dispatch drains the pending events. -/
theorem Guarded.exists_drain (guarded : machine.Guarded)
    {deadline : Deadline} {woke : Bool}
    (control : machine.control = .dispatch deadline woke) :
    ∃ resumed kernel, machine.kernel.drain [] = .ok (resumed, kernel) ∧
      (machine.move .step).kernel.tasks = kernel.tasks := by
  have harmless : FaultsOnly (fun _ => False) machine.advance :=
    guarded.dispatch_faultsOnly control
  obtain ⟨next, done⟩ := harmless.exists_ok
  rw [move_step_of_ok done]
  unfold advance at done
  simp only [control, guarded.drained] at done
  obtain ⟨⟨resumed, kernel⟩, drained, later⟩ := exists_ok_of_bind done
  refine ⟨resumed, kernel, drained, ?_⟩
  dsimp only at later
  split at later <;> cases later <;> rfl

private theorem exists_wakesFor (guarded : machine.Guarded)
    {deadline : Deadline} {woke : Bool}
    (control : machine.control = .dispatch deadline woke)
    (waited : machine.kernel.isWaiting task = true)
    (woken : (machine.move .step).kernel.isWaiting task = false) :
    ∃ event, machine.WakesFor event task := by
  obtain ⟨resumed, kernel, drained, tasks⟩ := guarded.exists_drain control
  unfold Kernel.drain at drained
  obtain ⟨⟨all, events⟩, taken, later⟩ := exists_ok_of_bind drained
  obtain ⟨⟨_, middle⟩, dispatched, ended⟩ := exists_ok_of_bind later
  cases ended
  have wokenToo : middle.isWaiting task = false := by
    unfold Kernel.isWaiting at woken ⊢
    rwa [tasks] at woken
  obtain ⟨event, wakes⟩ := Kernel.exists_wakesAt dispatched waited wokenToo
  exact ⟨event, .intro control (guarded.drained ▸ taken) wakes⟩

/-- A move that registers a task claims nothing. -/
private theorem Registers.not_claims {move : Move S} {other : EventHandle}
    (registers : machine.Registers event task move) :
    ¬ machine.Does (.claims other) move := by
  intro does
  cases registers with
  | @operation operation answer scheduler idle done registers =>
      cases does with
      | operation idle doneToo comes =>
          cases operation with
          | watch => cases comes
          | handle => simp [Operation.May] at comes
          | _ => exact registers.elim
  | @request role request reply rest kernel control done registers =>
      cases does with
      | request controlToo doneToo comes =>
          cases control.symm.trans controlToo
          cases request with
          | watch => cases comes
          | handle => simp [Request.May] at comes
          | wait => simp [Request.May, Deed.Waits] at comes
          | _ => exact registers.elim

end Machine

namespace Run

variable [Application S]

/-- The event was claimed by one move and the task registered on it by a later
one.  The event is claimed so ever since, the task lives, and neither was the
task registered again or unregistered nor the event given up. -/
structure Listens (run : Run S) (event : EventHandle) (task : TaskHandle)
    (claim registration count : Nat) : Prop where
  claims : (run.after claim).Does (.claims event) (run.moves claim)
  later : claim < registration
  registers :
    (run.after registration).Registers event task (run.moves registration)
  before : registration < count
  enabled {between : Nat} : claim < between → between ≤ count →
    (run.after between).kernel.events.isEnabled event = true
  alive {between : Nat} : registration < between → between ≤ count →
    (run.after between).kernel.isAlive task = true
  stays {between : Nat} : registration < between → between < count →
    ¬ (run.after between).Registers event task (run.moves between) ∧
      ¬ (run.after between).Unregisters event task (run.moves between) ∧
      ¬ (run.after between).GivesUp event (run.moves between)

/-- The occurrences of an event wake those who asked for this very claim of it,
and nobody else. -/
structure WakesExactlyWatchers (run : Run S) (count : Nat) : Prop where
  /-- Whoever is woken because of an event was registered on that claim of it,
  and nothing undid that. -/
  wakes {event : EventHandle} {task : TaskHandle} :
    (run.after count).WakesFor event task →
      ∃ claim registration, run.Listens event task claim registration count
  /-- A dispatch wakes a task because of some event. -/
  cause {task : TaskHandle} {deadline : Deadline} {woke : Bool} :
    run.moves count = .step →
      (run.after count).control = .dispatch deadline woke →
      (run.after count).kernel.isWaiting task = true →
      (run.after (count + 1)).kernel.isWaiting task = false →
      ∃ event, (run.after count).WakesFor event task
  /-- A registration stays in force until it is undone: the event is enabled and
  the task is in the set of its slot. -/
  lasts {event : EventHandle} {task : TaskHandle} {registration : Nat} :
    registration < count →
      (run.after registration).Registers event task (run.moves registration) →
      (∀ between, registration < between → between ≤ count →
        (run.after between).kernel.isAlive task = true) →
      (∀ between, registration < between → between < count →
        ¬ (run.after between).Unregisters event task (run.moves between) ∧
          ¬ (run.after between).GivesUp event (run.moves between)) →
      (run.after count).kernel.Watches event task
  /-- Whoever watches a pending event does not wait any more once the events
  were drained. -/
  serves {event : EventHandle} {task : TaskHandle} {deadline : Deadline}
      {woke : Bool} :
    run.moves count = .step →
      (run.after count).control = .dispatch deadline woke →
      event ∈ (run.after count).kernel.events.queue →
      (run.after count).kernel.Watches event task →
      (run.after (count + 1)).kernel.tasks.state task = .ok .active
  /-- Nobody watches an event that was just claimed. -/
  anew {event : EventHandle} :
    (run.after count).Does (.claims event) (run.moves count) →
      (run.after (count + 1)).kernel.watchers.watching event.index = []

variable {run : Run S} {count : Nat} {event : EventHandle} {task : TaskHandle}

/-- An enabled event was claimed, and is enabled ever since. -/
theorem exists_claim
    (enabled : (run.after count).kernel.events.isEnabled event = true) :
    ∃ claim < count,
      (run.after claim).Does (.claims event) (run.moves claim) ∧
        ∀ between, claim < between → between ≤ count →
          (run.after between).kernel.events.isEnabled event = true := by
  induction count with
  | zero =>
      obtain ⟨_, pending, state⟩ := Events.isEnabled_iff.mp enabled
      have free : (Events.empty.slot event.index).state = .enabled pending :=
        state
      simp [Events.empty, Events.slot] at free
  | succ count ih =>
      by_cases already :
          (run.after count).kernel.events.isEnabled event = true
      · obtain ⟨claim, earlier, claims, since⟩ := ih already
        refine ⟨claim, Nat.lt_succ_of_lt earlier, claims,
          fun between after early => ?_⟩
        rcases Nat.lt_succ_iff_lt_or_eq.mp (Nat.lt_succ_of_le early) with
          before | rfl
        · exact since between after (Nat.le_of_lt_succ before)
        · exact enabled
      · refine ⟨count, Nat.lt_succ_self count,
          claims_of_isEnabled enabled already, fun between after early => ?_⟩
        rwa [Nat.le_antisymm early after]

private theorem exists_registration
    (watches : (run.after count).kernel.Watches event task) :
    ∃ registration < count,
      (run.after registration).Registers event task (run.moves registration) ∧
        (∀ between, registration < between → between ≤ count →
          (run.after between).kernel.Watches event task) ∧
        ∀ between, registration < between → between < count →
          ¬ (run.after between).Registers event task (run.moves between) ∧
            ¬ (run.after between).Unregisters event task (run.moves between) ∧
            ¬ (run.after between).GivesUp event (run.moves between) := by
  induction count with
  | zero =>
      obtain ⟨claim, impossible, _⟩ := exists_claim watches.1
      cases impossible
  | succ count ih =>
      by_cases registers :
          (run.after count).Registers event task (run.moves count)
      · refine ⟨count, Nat.lt_succ_self count, registers,
          fun between after early => ?_, fun between after early => ?_⟩
        · rwa [Nat.le_antisymm early after]
        · exact absurd after (Nat.not_lt.mpr (Nat.le_of_lt_succ early))
      · rcases (run.minds count event task).mp watches with
          impossible | ⟨before, stays, kept, _⟩
        · exact absurd impossible registers
        obtain ⟨registration, earlier, registered, watching, undisturbed⟩ :=
          ih before
        refine ⟨registration, Nat.lt_succ_of_lt earlier, registered,
          fun between after early => ?_, fun between after early => ?_⟩
        · rcases Nat.le_or_eq_of_le_succ early with sooner | rfl
          · exact watching between after sooner
          · exact watches
        · rcases Nat.lt_succ_iff_lt_or_eq.mp early with sooner | rfl
          · exact undisturbed between after sooner
          · exact ⟨registers, stays, kept⟩

private theorem exists_listens
    (watches : (run.after count).kernel.Watches event task) :
    ∃ claim registration, run.Listens event task claim registration count := by
  obtain ⟨registration, before, registers, watching, stays⟩ :=
    exists_registration watches
  obtain ⟨claim, earlier, claims, since⟩ :=
    exists_claim (watching (registration + 1) (Nat.lt_succ_self _) before).1
  have later : claim < registration := by
    refine Nat.lt_of_le_of_ne (Nat.le_of_lt_succ earlier) ?_
    rintro rfl
    exact registers.not_claims claims
  refine ⟨claim, registration, claims, later, registers, before,
    fun {between} after early => ?_, fun {between} after early => ?_,
    fun {between} after early => stays between after early⟩
  · rcases Nat.lt_or_ge registration between with past | upTo
    · exact (watching between past early).1
    · exact since between after (Nat.le_succ_of_le upTo)
  · exact (run.isAlive_iff between).mpr
      ((watching between after early).alive (run.related between))

private theorem watches_of_registers {registration : Nat}
    (later : registration < count)
    (registers : (run.after registration).Registers event task
      (run.moves registration))
    (alive : ∀ between, registration < between → between ≤ count →
      (run.after between).kernel.isAlive task = true)
    (stays : ∀ between, registration < between → between < count →
      ¬ (run.after between).Unregisters event task (run.moves between) ∧
        ¬ (run.after between).GivesUp event (run.moves between)) :
    (run.after count).kernel.Watches event task := by
  induction count, later using Nat.le_induction with
  | base => exact (run.minds registration event task).mpr (Or.inl registers)
  | succ count later ih =>
      have before := ih
        (fun between after early =>
          alive between after (Nat.le_succ_of_le early))
        fun between after early => stays between after (Nat.lt_succ_of_lt early)
      obtain ⟨kept, enabled⟩ := stays count later (Nat.lt_succ_self count)
      have aliveToo := (run.isAlive_iff (count + 1)).mp
        (alive (count + 1) (Nat.lt_succ_of_lt later) (Nat.le_refl _))
      exact (run.minds count event task).mpr
        (Or.inr ⟨before, kept, enabled, aliveToo⟩)

private theorem active_of_pending {deadline : Deadline} {woke : Bool}
    (steps : run.moves count = .step)
    (control : (run.after count).control = .dispatch deadline woke)
    (queued : event ∈ (run.after count).kernel.events.queue)
    (watches : (run.after count).kernel.Watches event task) :
    (run.after (count + 1)).kernel.tasks.state task = .ok .active := by
  have guarded := run.guarded count
  obtain ⟨resumed, kernel, drained, tasks⟩ := guarded.exists_drain control
  rw [Run.after_succ steps, tasks]
  exact watches.active_of_drain guarded.steady.placed.wellformed
    guarded.related guarded.consistent queued drained

private theorem watching_of_claims
    (claims : (run.after count).Does (.claims event) (run.moves count)) :
    (run.after (count + 1)).kernel.watchers.watching event.index = [] := by
  obtain ⟨events, claimed, after⟩ := claims.exists_claim
  change ((run.after count).move (run.moves count)).kernel.watchers.watching
    event.index = []
  rw [after]
  refine List.eq_nil_iff_forall_not_mem.mpr fun task inside => ?_
  obtain ⟨pending, enabled⟩ := (run.related count).enabled inside
  cases enabled.symm.trans (Events.free_of_claim claimed)

/-- In every run the occurrences of an event wake the tasks that were registered
on that claim of it, and nobody else. -/
theorem wakesExactlyWatchers (run : Run S) (count : Nat) :
    run.WakesExactlyWatchers count where
  wakes wakes := exists_listens (wakes.watches (run.guarded count))
  cause steps control waited woken := by
    rw [Run.after_succ steps] at woken
    exact Machine.exists_wakesFor (run.guarded count) control waited woken
  lasts := watches_of_registers
  serves := active_of_pending
  anew := watching_of_claims

end Run

end EventScheduler
