import EventScheduler.Proofs.Scheduler.Handlers

/-!
# When the handling of an event stops

Releasing or abandoning an event kills its handler first.  If the close of the
handler starts another handler, that one outlives the event.  This module says
who can go on handling an event that was given up.
-/

namespace EventScheduler

variable {S : Signature}

/-! ### The end of a release or an abandonment -/

namespace Kernel

variable {kernel next : Kernel S} {event : EventHandle} {errand : Errand}

/-- An errand on an event that ends well took a claimed event, and leaves the
handlers as they were. -/
private theorem settle_true [Environment S.World]
    (onEvent : errand.event? = some event)
    (settles : kernel.settle errand = (true, next)) :
    kernel.events.isClaimed event = true ∧ next.handlers = kernel.handlers ∧
      next.running = kernel.running := by
  cases errand with
  | kill => cases onEvent
  | release released =>
      cases onEvent
      unfold settle at settles
      dsimp only at settles
      split at settles
      · cases settles
      · next events done =>
          have claimed := Events.isClaimed_of_release done
          split at settles <;> cases settles <;> exact ⟨claimed, rfl, rfl⟩
  | abandon abandoned =>
      cases onEvent
      unfold settle at settles
      dsimp only at settles
      split at settles
      · cases settles
      · next events done =>
          have enabled := Events.isEnabled_of_abandon done
          cases settles
          exact ⟨Events.isClaimed_of_isEnabled enabled, rfl, rfl⟩

end Kernel

namespace Machine

/-- The close of a handler runs for a release or an abandonment of the event. -/
def Closes (machine : Machine S) (event : EventHandle) : Prop :=
  ∃ closing ∈ machine.closings, closing.errand.event? = some event

variable {machine : Machine S} {event : EventHandle} {move : Move S}

private structure Ends (machine : Machine S) (event : EventHandle)
    (next : Kernel S) : Prop where
  claimed : machine.kernel.events.isClaimed event = true
  running : next.running = machine.kernel.running
  handlers :
    (next.handlers.get? event = none ∧ ∀ task,
      machine.kernel.handlers.get? event = some task →
        machine.kernel.running = some task) ∨
    next.handlers = machine.kernel.handlers ∧ machine.Closes event

private theorem Ends.handlers_eq {next : Kernel S} {task : TaskHandle}
    (ended : machine.Ends event next)
    (handled : machine.kernel.handlers.get? event = some task)
    (elsewhere : machine.kernel.running ≠ some task) :
    next.handlers = machine.kernel.handlers := by
  rcases ended.handlers with ⟨_, only⟩ | ⟨kept, _⟩
  · exact absurd (only task handled) elsewhere
  · exact kept

/-- The kill that begins takes the handler of the event away. -/
private theorem BeginsClose.not_handled {closing : Closing}
    {body : Option S.Body} {next : Kernel S}
    (begins : machine.BeginsClose closing body next)
    (onEvent : closing.errand.event? = some event) :
    next.handlers.get? event = none := by
  rw [begins.begins.handlers]
  exact Handlers.get?_forget (begins.handled event onEvent)

variable [Application S]

private theorem ends_of_settlesAtOnce {errand : Errand} {next : Kernel S}
    (related : machine.kernel.Related)
    (settles : machine.kernel.SettlesAtOnce event errand true next)
    (onEvent : errand.event? = some event) : machine.Ends event next := by
  rcases settles with ⟨nobody, done⟩ | ⟨task, handled, running, done⟩
  · obtain ⟨claimed, handlers, running⟩ := Kernel.settle_true onEvent done
    have none (task : TaskHandle) :
        machine.kernel.handlers.get? event ≠ some task := fun handled =>
      nobody task handled
        (related.handling (Handlers.get?_eq_some_iff.mp handled))
    refine ⟨claimed, running, Or.inl ⟨?_, ?_⟩⟩
    · rw [handlers]
      exact Option.eq_none_iff_forall_ne_some.mpr none
    · exact fun task handled => absurd handled (none task)
  · obtain ⟨claimed, handlers, same⟩ := Kernel.settle_true onEvent done
    refine ⟨claimed, same, Or.inl ⟨?_, ?_⟩⟩
    · rw [handlers]
      exact Handlers.get?_forget handled
    · intro other handledToo
      rw [handled] at handledToo
      rwa [← Option.some.inj handledToo]

private theorem GivesUp.ends (gives : machine.GivesUp event move)
    (wellformed : machine.kernel.Wellformed) (related : machine.kernel.Related) :
    machine.Ends event (machine.move move).kernel := by
  cases gives with
  | calledRelease idle done | calledAbandon idle done =>
      rw [kernel_of_called idle rfl done]
      exact ends_of_settlesAtOnce related
        (Kernel.startErrand_answered wellformed done) rfl
  | askedRelease control done | askedAbandon control done =>
      rw [move_of_answered control done]
      exact ends_of_settlesAtOnce related
        (Kernel.startErrand_answered wellformed done) rfl
  | closed control onEvent done =>
      rename_i closing kernel
      rw [move_of_closed control done]
      obtain ⟨_, middle, wakes, _, settles⟩ :=
        Kernel.complete_evolves wellformed done
      obtain ⟨claimed, handlers, running⟩ :=
        Kernel.settle_true onEvent settles
      obtain ⟨events, handlersToo, runningToo⟩ := Kernel.wakes_keep wakes
      constructor
      · rw [← events]
        exact claimed
      · exact running.trans runningToo
      · refine Or.inr ⟨handlers.trans handlersToo, closing, ?_, onEvent⟩
        unfold closings
        rw [control]
        exact List.mem_append_left _ List.mem_cons_self

/-- Giving up an event neither claims one nor starts a handler. -/
private theorem GivesUp.not_does (gives : machine.GivesUp event move)
    {deed : Deed} (asked : deed.issued? ≠ none ∨ deed.started? ≠ none) :
    ¬ machine.Does deed move := by
  intro does
  cases does with
  | operation => cases gives
  | request control done comes =>
      cases gives with
      | askedRelease controlToo _ | askedAbandon controlToo _ =>
          rw [control] at controlToo
          cases controlToo
          rcases comes with ⟨task, rfl⟩ | settles
          · rcases asked with impossible | impossible <;>
              exact impossible rfl
          · cases deed <;> simp [Deed.Settles] at settles <;>
              simp [Deed.issued?, Deed.started?] at asked
      | closed controlToo _ _ =>
          rw [control] at controlToo
          cases controlToo

/-- The computed form, for runs that are given. -/
theorem givesUp_of_closed
    (answers : (match machine.control with
      | .body (.close closing) (.pure ()) =>
          closing.errand.event? == some event &&
            match machine.kernel.complete closing with
            | .ok (verdict, _) => verdict
            | .error _ => false
      | _ => false) = true) : machine.GivesUp event .step := by
  split at answers
  · next closing control =>
      obtain ⟨onEvent, answers⟩ := Bool.and_eq_true_iff.mp answers
      split at answers
      · next verdict kernel done =>
          subst answers
          exact .closed control (beq_iff_eq.mp onEvent) done
      · cases answers
  · cases answers

end Machine

/-! ### Who goes on handling the event -/

namespace Run

variable [Application S]

/-- The task was started to handle the event while another handler of it was
closed because the event was given up. -/
def HandlesMeanwhile (run : Run S) (event : EventHandle) (task : TaskHandle) :
    Nat → Prop :=
  run.Since task (fun machine move =>
      machine.Closes event ∧ machine.Does (.handles event task) move)
    fun _ _ => False

/-- The task handled the event and abandoned it itself. -/
def Resigned (run : Run S) (event : EventHandle) (task : TaskHandle) :
    Nat → Prop :=
  run.Since task (fun machine => machine.Resigns event task) fun _ _ => False

variable {run : Run S} {count : Nat} {event : EventHandle} {task : TaskHandle}

/-- A handler of a claimed event is registered, unless it resigned. -/
theorem Handles.registered (handles : run.Handles event task count) :
    run.Registered event task count ∨ run.Resigned event task count := by
  induction handles with
  | @now count started alive =>
      exact Or.inl (Or.inl (started.handler (run.wellformed count)))
  | @still count before unclaimed alive ih =>
      rcases ih with registered | resigned
      · by_cases resigns :
          (run.after count).Resigns event task (run.moves count)
        · exact Or.inr (.now resigns alive)
        · have aliveAfter :=
            (run.isAlive_iff (count + 1)).mp alive
          exact Or.inl
            (registered.succ before.alive aliveAfter unclaimed resigns)
      · exact Or.inr (.still resigned id alive)

/-- While handlers of the event are closed because the event is given up, only
tasks that started meanwhile handle it. -/
theorem handlesMeanwhile_of_closes (closes : (run.after count).Closes event)
    (handled : (run.after count).kernel.handlers.get? event = some task) :
    run.HandlesMeanwhile event task count ∧
      (run.after count).kernel.running ≠ some task := by
  induction count with
  | zero =>
      obtain ⟨closing, impossible, _⟩ := closes
      cases impossible
  | succ count ih =>
      obtain ⟨closing, inside, onEvent⟩ := closes
      have steady := run.steady count
      have transition := run.transition count
      have accounted := run.accounted count
      have alive := isAlive_of_handled handled
      rcases transition.mem_closings steady inside with already | ⟨_, begins⟩
      · have closing : (run.after count).Closes event :=
          ⟨closing, already, onEvent⟩
        have running := run.running_eq_of_closings (List.ne_nil_of_mem already)
        rcases accounted.get?_handlers handled with handledBefore | accounts
        · obtain ⟨meanwhile, elsewhere⟩ := ih closing handledBefore
          rw [running]
          exact ⟨.still meanwhile id alive, elsewhere⟩
        · have does := accounts.starts rfl
          refine ⟨.now ⟨closing, does⟩ alive, ?_⟩
          rw [running]
          intro runs
          exact does.not_alive (run.wellformed count) rfl
            (steady.sane.alive runs)
      · -- The kill that begins takes the handler away.
        have nobody : (run.after (count + 1)).kernel.handlers.get? event =
            none := begins.not_handled onEvent
        rw [nobody] at handled
        cases handled

/-- Who handles an event after it was given up handled it before. -/
private theorem Handles.of_givesUp
    (gives : (run.after count).GivesUp event (run.moves count))
    (handles : run.Handles event task (count + 1)) :
    run.Handles event task count := by
  cases handles with
  | now started _ =>
      exact absurd started (gives.not_does (by simp [Deed.started?]))
  | still before _ _ => exact before

/-- Once an event is given up, its handler can only be a task that started to
handle it while another handler was closed, and nobody else handles it but the
running task and tasks that abandoned it themselves.  Nobody has abandoned an
event that was enabled until then. -/
theorem stops_handling
    (gives : (run.after count).GivesUp event (run.moves count)) :
    (∀ task, (run.after (count + 1)).kernel.handlers.get? event = some task →
      run.HandlesMeanwhile event task (count + 1)) ∧
    (∀ task, run.Handles event task (count + 1) →
      (run.after (count + 1)).kernel.running = some task ∨
        run.Resigned event task (count + 1) ∨
          (run.after (count + 1)).kernel.handlers.get? event = some task) ∧
    ((run.after count).kernel.events.isEnabled event = true →
      ∀ task, run.Handles event task (count + 1) →
        (run.after (count + 1)).kernel.running = some task ∨
          run.HandlesMeanwhile event task (count + 1)) := by
  have ended : (run.after count).Ends event (run.after (count + 1)).kernel :=
    gives.ends (run.wellformed count) (run.related count)
  have meanwhile (task : TaskHandle)
      (handled : (run.after (count + 1)).kernel.handlers.get? event =
        some task) : run.HandlesMeanwhile event task (count + 1) := by
    have alive := isAlive_of_handled handled
    rcases ended.handlers with ⟨nobody, _⟩ | ⟨kept, closes⟩
    · rw [nobody] at handled
      cases handled
    · rw [kept] at handled
      exact .still (handlesMeanwhile_of_closes closes handled).1 id alive
  refine ⟨meanwhile, fun task handles => ?_, fun enabled task handles => ?_⟩
  · rw [ended.running]
    by_cases runs : (run.after count).kernel.running = some task
    · exact Or.inl runs
    · rcases (handles.of_givesUp gives).registered with
        (handled | unclaimed) | resigned
      · rw [ended.handlers_eq handled runs]
        exact Or.inr (Or.inr handled)
      · rw [ended.claimed] at unclaimed
        cases unclaimed
      · have alive := (run.isAlive_iff (count + 1)).mpr handles.alive
        exact Or.inr (Or.inl (.still resigned id alive))
  · rw [ended.running]
    by_cases runs : (run.after count).kernel.running = some task
    · exact Or.inl runs
    · have handled := (handles.of_givesUp gives).handler enabled
      refine Or.inr (meanwhile task ?_)
      rw [ended.handlers_eq handled runs]
      exact handled

end Run

/-! ### A handler that outlives its event -/

namespace Truant

/-- The event is released, and its handler is closed for it. -/
def returning : Run signature where
  world := ()
  moves
    | 0 => .operate .claim
    | 1 => .operate (.handle event (.returns event) none)
    | 2 => .call (.release event)
    | _ => .step

def successor : TaskHandle := ⟨1, 0⟩

private theorem returning_givesUp :
    (returning.after 4).GivesUp event (returning.moves 4) :=
  Machine.givesUp_of_closed (by decide +kernel)

/-- The handler that is left started while the other one was closed. -/
theorem returning_meanwhile :
    (returning.after 4).GivesUp event (returning.moves 4) ∧
      (returning.after 4).kernel.events.isEnabled event = true ∧
      returning.HandlesMeanwhile event successor 5 :=
  ⟨returning_givesUp, by decide +kernel,
    (Run.stops_handling returning_givesUp).1 successor (by decide +kernel)⟩

/-- An enabled event is released, and afterwards it has a handler that is alive
and not running. -/
theorem returning_outlives :
    (returning.after 4).kernel.events.isEnabled event = true ∧
      (returning.after 4).GivesUp event (returning.moves 4) ∧
      (returning.after 5).kernel.handlers.get? event = some successor ∧
      returning.Handles event successor 5 ∧
      (returning.after 5).kernel.running = none := by
  have claimed : (returning.after 4).kernel.events.isClaimed event = true := by
    decide +kernel
  have started : ∃ start, 3 ≤ start ∧ start < 4 ∧
      (returning.after start).Does (.handles event successor)
        (returning.moves start) :=
    Run.exists_started_of_handled (by decide) (by decide +kernel)
      (by decide +kernel)
  obtain ⟨start, since, early, starts⟩ := started
  obtain rfl : start = 3 := by omega
  have begins : returning.Handles event successor 4 :=
    .now starts (by decide +kernel)
  refine ⟨by decide +kernel, returning_givesUp, by decide +kernel,
    .still begins (fun claims => ?_) (by decide +kernel), by decide +kernel⟩
  rw [claims.not_isClaimed] at claimed
  cases claimed

end Truant

end EventScheduler
