import EventScheduler.Proofs.Kernel.Slots
import EventScheduler.Proofs.Scheduler.Closes

/-!
# Which moves free a slot

Two things free a task slot: a reap of the dead task in it, and a handler that
is dropped again because its event has no room for another watcher.  Every other
move leaves all slots with the generation that they had.
-/

namespace EventScheduler

variable {S : Signature}

namespace Kernel

variable {kernel next : Kernel S} {event : EventHandle} {body : S.Body}
  {name : Option String} {task : TaskHandle} {index : SlotIndex}

theorem inserted_iff (wellformed : kernel.Wellformed) :
    (∃ tasks, kernel.tasks.insert body name = .ok (.ok (task, tasks))) ↔
      (kernel.roster.insert body name).1 = .ok task := by
  obtain ⟨tasks, inserted, _⟩ :=
    wellformed.holds.insert wellformed.sound body name
  rw [inserted]
  cases (kernel.roster.insert body name).1 with
  | error error =>
      refine ⟨?_, fun done => ?_⟩
      · rintro ⟨_, done⟩
        cases done
      · cases done
  | ok known =>
      constructor
      · rintro ⟨_, done⟩
        cases done
        rfl
      · rintro ⟨⟩
        exact ⟨tasks, rfl⟩

variable [Environment S.World]

/-- The task that is started to handle an event and dropped again, because the
event has no room for another watcher. -/
def dropped? (kernel : Kernel S) (event : EventHandle) (body : S.Body)
    (name : Option String) : Option TaskHandle :=
  match kernel.handle event body name, kernel.tasks.insert body name with
  | .ok (.error .tooManyWatchers, _), .ok (.ok (task, _)) => some task
  | _, _ => none

/-- A handler that is dropped had an empty slot, and nothing but the generation
of the slot changes. -/
theorem exists_spoils (wellformed : kernel.Wellformed)
    (dropped : kernel.dropped? event body name = some task) :
    ∃ index next, kernel.roster.handleAt index = task ∧
      kernel.handle event body name =
        .ok (.error .tooManyWatchers, next) ∧
      Change kernel (.spoils index) next := by
  unfold dropped? at dropped
  split at dropped
  · next next started tasks handled inserted =>
      cases dropped
      have filled := (inserted_iff wellformed).mp ⟨_, inserted⟩
      rcases handle_refused wellformed handled with
        ⟨other, _⟩ | ⟨_, index, seat, spoils⟩
      · exact absurd rfl other
      · cases filled.symm.trans seat
        exact ⟨index, _, rfl, handled, spoils⟩
  · cases dropped

/-- Who asks for a handler frees no slot, unless the handler is dropped. -/
theorem kept_of_handle (wellformed : kernel.Wellformed)
    {answer : Except Error TaskHandle}
    (done : kernel.handle event body name = .ok (answer, next))
    (kept : ∀ task, kernel.dropped? event body name = some task →
      task.index ≠ index.val) :
    Evolves (fun deed => deed.freed? ≠ some index.val) kernel next := by
  have cases := handle_cases wellformed done
  cases answer with
  | ok task =>
      obtain ⟨middle, handles, quiet⟩ := cases
      refine (Evolves.single handles ?_).trans (quiet.mono ?_)
      · exact fun impossible => nomatch impossible
      · rintro deed rfl
        exact fun impossible => nomatch impossible
  | error error =>
      rcases handle_refused wellformed done with
        ⟨_, rfl⟩ | ⟨rfl, slot, seat, spoils⟩
      · exact .refl _
      · obtain ⟨tasks, inserted⟩ := (inserted_iff wellformed).mpr seat
        have dropped : kernel.dropped? event body name =
            some (kernel.roster.handleAt slot) := by
          unfold dropped?
          rw [done, inserted]
        refine .single spoils fun freed => kept _ dropped ?_
        exact Option.some.inj freed

end Kernel

namespace Machine

variable {machine : Machine S} {move : Move S} {task : TaskHandle}
  {event : EventHandle} {body : S.Body} {name : Option String}
  {index : SlotIndex}

/-- The handler that a move asks for: its event, its body and its name. -/
def asksHandler? (machine : Machine S) :
    Move S → Option (EventHandle × S.Body × Option String)
  | .step =>
      match machine.control with
      | .body _ (.ask (.handle event body) _) => some (event, body, none)
      | _ => none
  | .operate (.handle event body name) =>
      if machine.control.isIdle then some (event, body, name) else none
  | _ => none

theorem asksHandler?_cases
    (asks : machine.asksHandler? move = some (event, body, name)) :
    (machine.control.isIdle = true ∧
        move = .operate (.handle event body name)) ∨
      (∃ role rest,
        machine.control = .body role (.ask (.handle event body) rest)) ∧
        name = none ∧ move = .step := by
  unfold asksHandler? at asks
  split at asks
  · split at asks
    · next role event body rest control =>
        cases asks
        exact Or.inr ⟨⟨role, rest, control⟩, rfl, rfl⟩
    · cases asks
  · split at asks
    · next idle =>
        cases asks
        exact Or.inl ⟨idle, rfl⟩
    · cases asks
  · cases asks

variable [Application S]

def freed? (machine : Machine S) : Move S → Option TaskHandle
  | .operate (.reap task) =>
      if machine.control.isIdle then
        match machine.reap task with
        | .ok (.ok (some _), _) => some task
        | _ => none
      else none
  | move =>
      (machine.asksHandler? move).bind fun (event, body, name) =>
        machine.kernel.dropped? event body name

theorem freed?_of_asksHandler
    (asks : machine.asksHandler? move = some (event, body, name)) :
    machine.freed? move = machine.kernel.dropped? event body name := by
  rcases asksHandler?_cases asks with
    ⟨_, rfl⟩ | ⟨_, _, rfl⟩
  · unfold freed?
    dsimp only
    rw [asks]
    rfl
  · unfold freed?
    dsimp only
    rw [asks]
    rfl

/-- What a move does that asks for a handler. -/
theorem move_of_asksHandler
    (asks : machine.asksHandler? move = some (event, body, name))
    {answer : Except Error TaskHandle} {kernel : Kernel S}
    (done : machine.kernel.handle event body name = .ok (answer, kernel)) :
    (machine.move move).kernel = kernel ∧
      ∀ error, answer = .error error → machine.RefusesHandler move := by
  rcases asksHandler?_cases asks with
    ⟨idle, rfl⟩ | ⟨⟨role, rest, control⟩, rfl, rfl⟩
  · have operated : machine.operate (.handle event body name) =
        .ok (answer, { machine.toScheduler with kernel }) := by
      change machine.toScheduler.handle event body name = _
      unfold Scheduler.handle
      rw [bind_of_ok done]
      rfl
    rw [move_of_operated idle operated]
    exact ⟨rfl, fun error refused => .operation idle (refused ▸ operated)⟩
  · have performed : machine.kernel.perform role.task (.handle event body) =
        .ok (.answered answer kernel) := by
      unfold Kernel.perform
      dsimp only
      rw [bind_of_ok done]
      rfl
    rw [move_of_answered control performed]
    exact ⟨rfl, fun error refused => .request control (refused ▸ performed)⟩

theorem freed?_cases (freed : machine.freed? move = some task) :
    (machine.control.isIdle = true ∧ move = .operate (.reap task) ∧
        ∃ exit scheduler,
          machine.reap task = .ok (.ok (some exit), scheduler)) ∨
      ∃ event body name, machine.asksHandler? move = some (event, body, name) ∧
        machine.kernel.dropped? event body name = some task := by
  unfold freed? at freed
  split at freed
  · split at freed
    · next idle =>
        split at freed
        · next exit scheduler reaped =>
            cases freed
            exact Or.inl ⟨idle, rfl, exit, scheduler, reaped⟩
        · cases freed
    · cases freed
  · obtain ⟨⟨event, body, name⟩, asks, dropped⟩ :=
      Option.bind_eq_some_iff.mp freed
    exact Or.inr ⟨event, body, name, asks, dropped⟩

/-- A slot is freed when its dead task is reaped, or when a handler that got the
empty slot is dropped. -/
inductive Frees (machine : Machine S) (index : SlotIndex) : Move S → Prop
  | reaps (idle : machine.control.isIdle = true)
      (dead : index ∈ machine.kernel.deadSlots) :
      Frees machine index
        (.operate (.reap (machine.kernel.roster.handleAt index)))
  | drops {move : Move S} (refuses : machine.RefusesHandler move)
      (vacant : machine.kernel.roster.entry index = none) :
      Frees machine index move

/-- What becomes of the slot that a move frees. -/
theorem freed_of_freed? (wellformed : machine.kernel.Wellformed)
    (freed : machine.freed? move = some task) (slot : task.index = index.val) :
    machine.kernel.roster.handleAt index = task ∧
      machine.Frees index move ∧
      (machine.move move).kernel.roster.generation index =
        machine.kernel.roster.generation index + 1 ∧
      (machine.move move).kernel.roster.entry index = none := by
  rcases freed?_cases freed with
    ⟨idle, rfl, exit, scheduler, reaped⟩ | ⟨event, body, name, asks, dropped⟩
  · have operated : machine.operate (.reap task) =
        .ok (.ok (some exit), scheduler) := reaped
    rw [move_of_operated idle operated]
    rcases Scheduler.reap_cases wellformed reaped with
      ⟨_, other⟩ | ⟨_, _, reaps⟩
    · exact absurd rfl (other exit)
    · obtain ⟨place, dead, fits⟩ := reaps.exists_reaped
      have same : place = index :=
        Fin.ext ((congrArg TaskHandle.index fits).trans slot)
      subst same
      subst fits
      exact ⟨rfl, .reaps idle dead, reaps.freed rfl⟩
  · obtain ⟨place, next, fits, handled, spoils⟩ :=
      Kernel.exists_spoils wellformed dropped
    obtain ⟨moved, refuses⟩ := move_of_asksHandler asks handled
    have same : place = index :=
      Fin.ext ((congrArg TaskHandle.index fits).trans slot)
    subst same
    rw [moved]
    exact ⟨fits, .drops (refuses _ rfl) spoils.vacant_of_spoils,
      spoils.freed rfl⟩

/-- A deed that frees a slot is the doing of one of the two moves that may. -/
theorem Does.frees {deed : Deed} (does : machine.Does deed move)
    (freed : deed.freed? ≠ none) :
    (∃ task, machine.control.isIdle = true ∧ move = .operate (.reap task)) ∨
      ∃ event body name,
        machine.asksHandler? move = some (event, body, name) := by
  cases deed with
  | reaps task =>
      obtain ⟨idle, reaps⟩ := does.eq_reap
      exact Or.inl ⟨task, idle, reaps⟩
  | spoils index =>
      cases does with
      | @operation operation answer scheduler idle done comes =>
          cases operation with
          | handle event body name =>
              exact Or.inr ⟨event, body, name, if_pos idle⟩
          | _ => simp [Operation.May, Deed.Wakes] at comes
      | @request role request reply rest kernel control done comes =>
          cases request with
          | handle event body =>
              refine Or.inr ⟨event, body, none, ?_⟩
              unfold asksHandler?
              rw [control]
          | _ =>
              simp [Request.May, Deed.Wakes, Deed.Waits, Deed.Settles] at comes
  | _ => exact absurd rfl freed

end Machine

namespace Run

variable [Application S] {run : Run S} {count : Nat} {index : SlotIndex}

/-- A move that does not free a slot goes through changes that do not. -/
theorem evolves_of_kept (kept : ∀ task,
      (run.after count).freed? (run.moves count) = some task →
        task.index ≠ index.val) :
    Kernel.Evolves (fun deed => deed.freed? ≠ some index.val)
      (run.after count).kernel (run.after (count + 1)).kernel := by
  have wellformed := run.wellformed count
  change Kernel.Evolves _ _ ((run.after count).move (run.moves count)).kernel
  by_cases asks : ∃ event body name,
      (run.after count).asksHandler? (run.moves count) =
        some (event, body, name)
  · obtain ⟨event, body, name, asks⟩ := asks
    have harmless : FaultsOnly (fun _ => False)
      ((run.after count).kernel.handle event body name) :=
        Kernel.handle_faultsOnly wellformed event body name
    obtain ⟨⟨answer, kernel⟩, handled⟩ := harmless.exists_ok
    rw [(Machine.move_of_asksHandler asks handled).1]
    refine Kernel.kept_of_handle wellformed handled fun task dropped => ?_
    rw [← Machine.freed?_of_asksHandler asks] at dropped
    exact kept task dropped
  · by_cases reaps : ∃ task, (run.after count).control.isIdle = true ∧
        run.moves count = .operate (.reap task)
    · obtain ⟨task, idle, reaps⟩ := reaps
      rw [reaps] at kept ⊢
      cases reaped : (run.after count).reap task with
      | error fault =>
          have failed : (run.after count).operate (.reap task) =
            .error fault := reaped
          unfold Machine.move
          dsimp only
          rw [if_pos idle, failed]
          exact .refl _
      | ok result =>
          obtain ⟨answer, scheduler⟩ := result
          have operated : (run.after count).operate (.reap task) =
            .ok (answer, scheduler) := reaped
          rw [Machine.move_of_operated idle operated]
          rcases Scheduler.reap_cases wellformed reaped with
            ⟨rfl, _⟩ | ⟨_, ⟨exit, rfl⟩, change⟩
          · exact .refl _
          · refine .single change fun freed => kept task ?_ ?_
            · unfold Machine.freed?
              dsimp only
              rw [if_pos idle, reaped]
            · exact Option.some.inj freed
    -- No other move frees a slot.
    · refine (run.accounted count).mono fun deed accounts freed => ?_
      have does : (run.after count).Does deed (run.moves count) := by
        cases deed with
        | reaps => exact accounts.reaps rfl
        | spoils => exact accounts.spoils rfl
        | _ => cases freed
      rcases does.frees (by rw [freed]; exact Option.some_ne_none _) with
        reaped | asked
      · exact reaps reaped
      · exact asks asked

end Run

end EventScheduler
