import EventScheduler.Proofs.Scheduler.Handlers
import EventScheduler.Proofs.Scheduler.Upkeep
import EventScheduler.Scenario.Body

/-!
# Handler tasks clean up once

A handler task calls back once in each of its slices.  When it is killed or
fails, it stops watching its event, and the callback for the end is called, once,
however often the close of the task is forwarded to the loop.
-/

namespace EventScheduler

open HandlerTask

variable {S : Signature} [Application S]

namespace Machine

def Engages (machine : Machine S) (event : EventHandle) (body : S.Body)
    (task : TaskHandle) (move : Move S) : Prop :=
  ∃ name kernel, machine.asksHandler? move = some (event, body, name) ∧
    machine.kernel.handle event body name = .ok (.ok task, kernel)

variable {machine : Machine S} {move : Move S} {event : EventHandle}
  {task : TaskHandle} {body : S.Body} {deed : Deed}

/-- Who is refused a handler goes on with the same programs. -/
theorem RefusesHandler.roles_eq (refuses : machine.RefusesHandler move) :
    (machine.move move).roles = machine.roles := by
  cases refuses with
  | operation idle done =>
      rw [move_of_operated idle done]
      rfl
  | request control done =>
      rw [move_of_answered control done]
      unfold roles
      rw [control]
      rfl

/-- Whoever is started lives. -/
theorem Does.alive (does : machine.Does deed move)
    (wellformed : machine.kernel.Wellformed)
    (starts : deed.started? = some task) :
    (machine.move move).kernel.roster.Alive task := by
  obtain ⟨middle, change, quiet⟩ := does.exists_change wellformed starts
  have alive := (change.alive_iff wellformed).mpr (Or.inl starts)
  exact (quiet.alive_or_dies (change.wellformed wellformed) alive).resolve_right
    nofun

/-- Whoever is given to an event is alive, not running, and has the body that was
asked for. -/
theorem Engages.kept (engages : machine.Engages event body task move)
    (steady : machine.Steady) :
    (machine.move move).kernel.roster.Alive task ∧
      (machine.move move).kernel.running ≠ some task ∧
      (machine.move move).kernel.roster.bodyOf task = some body := by
  have wellformed := steady.placed.wellformed
  obtain ⟨name, kernel, asks, done⟩ := engages
  obtain ⟨middle, handles, _, _, quiet⟩ :=
    Kernel.exists_of_handle wellformed done
  have started : Deed.started? (.handles event task) = some task := rfl
  have newcomer := handles.not_alive_of_started started
  have alive := (handles.alive_iff wellformed).mpr (Or.inl started)
  have running : kernel.running = machine.kernel.running :=
    (quiet.running_eq nofun nofun).trans (handles.running_eq nofun nofun)
  rw [(move_of_asksHandler asks done).1, running]
  refine ⟨?_, fun runs => newcomer (steady.sane.alive runs),
    Kernel.bodyOf_of_handle wellformed done⟩
  exact (quiet.alive_or_dies (handles.wellformed wellformed)
    alive).resolve_right nofun

end Machine

namespace Run

variable {Callbacks : Type} [EventHandler S Callbacks] {run : Run S}
  {forwarding : Forwarding S Callbacks} {event : EventHandle}
  {task : TaskHandle} {first count : Nat}

/-- The task was started in move `first` to handle the event, with a body that
forwards to a new handler task for that event.  Its handle was not issued again
since. -/
structure Engaged (run : Run S) (forwarding : Forwarding S Callbacks)
    (event : EventHandle) (task : TaskHandle) (first count : Nat) : Prop where
  engages : ∃ body callbacks,
    (run.after first).Engages event body task (run.moves first) ∧
      forwarding.loop? body = some (.new event callbacks)
  before : first < count
  unissued {between : Nat} {deed : Deed} : first < between → between < count →
    deed.started? = some task → ¬ (run.after between).Does deed (run.moves between)

private theorem upkeep_of_engages {body : S.Body}
    (engages : (run.after first).Engages event body task (run.moves first))
    (serves : forwarding.Serves event body)
    (unfaulted : (run.after (first + 1)).control.isFaulted = false) :
    run.Upkeep forwarding event task (first + 1) (first + 1) := by
  obtain ⟨alive, elsewhere, held⟩ := engages.kept (run.steady first)
  have follows := run.follows forwarding.marking task unfaulted
  have clear : (run.after (first + 1)).Clear task :=
    (run.steady (first + 1)).clear unfaulted (fun closing inside =>
      Roster.not_alive_of_dead (dead_of_mem_closings inside)) alive elsewhere
  have nothing : (run.thread forwarding.marking task (first + 1)).role? =
      none := by
    refine Option.eq_none_iff_forall_ne_some.mpr fun role known => ?_
    obtain ⟨inside, own⟩ := follows.role_iff.mpr known
    exact clear role inside own
  have idle : run.thread forwarding.marking task (first + 1) = .idle := by
    cases thread : run.thread forwarding.marking task (first + 1) with
    | idle => rfl
    | goes | waits =>
        rw [thread] at nothing
        cases nothing
  have before : run.calls forwarding.marking task (first + 1) (first + 1) = [] ∧
      run.turns task (first + 1) (first + 1) = 0 := by
    unfold calls turns
    rw [Nat.sub_self]
    exact ⟨rfl, rfl⟩
  refine .rests idle alive held serves ?_
  rw [before.1, before.2]
  rfl

theorem Engaged.upkeep (engaged : run.Engaged forwarding event task first count)
    (unfaulted : (run.after count).control.isFaulted = false) :
    run.Upkeep forwarding event task (first + 1) count := by
  obtain ⟨⟨body, callbacks, engages, known⟩, before, unissued⟩ := engaged
  have serves : forwarding.Serves event body := ⟨_, known, rfl, rfl⟩
  induction count, before using Nat.le_induction with
  | base => exact upkeep_of_engages engages serves unfaulted
  | succ count later ih =>
      have upkeep := ih ((run.transition count).isFaulted unfaulted)
        fun since early => unissued since (Nat.lt_succ_of_lt early)
      exact upkeep.succ later unfaulted fun deed =>
        unissued later (Nat.lt_succ_self count)

/-- What a handler task has called after the callbacks of its slices. -/
inductive Farewell (run : Run S) (task : TaskHandle) (first count : Nat) :
    List Mark → Prop
  | goesOn : Farewell run task first count []
  | fails : Farewell run task first count [.failure]
  | failed : Farewell run task first count [.failure, .done]
  | killed (kill : run.Killed task first count) :
      Farewell run task first count [.done]

theorem farewell_of_progress {role : Role} {stage : Stage} {ending : List Mark}
    (progress : Progress role stage ending)
    (killed : role.slice? = none → run.Killed task first count) :
    run.Farewell task first count ending := by
  cases progress with
  | handles | killed => exact .goesOn
  | failed => exact .fails
  | failedAndCleaned => exact .failed
  | killedAndCleaned => exact .killed (killed rfl)

/-- A handler task calls back as it should. -/
structure CleansUp (run : Run S) (forwarding : Forwarding S Callbacks)
    (count : Nat) : Prop where
  /-- What is left of a program, with its marks, is what the scheduler carries
  out. -/
  thread (task : TaskHandle)
    (unfaulted : (run.after count).control.isFaulted = false) :
    Thread.Follows task (run.after count)
      (run.thread forwarding.marking task count)
  /-- The callback for an occurrence was called once per slice, and after it no
  other one than that for the end, if it failed or the task was killed. -/
  calls {event : EventHandle} {task : TaskHandle} {first : Nat}
    (engaged : run.Engaged forwarding event task first count)
    (unfaulted : (run.after count).control.isFaulted = false) :
    ∃ ending, run.Farewell task (first + 1) count ending ∧
      run.calls forwarding.marking task (first + 1) count =
        List.replicate (run.turns task (first + 1) count) .handle ++ ending
  /-- Once the task is dead and its close is over, the callback for the end was
  called once. -/
  died {event : EventHandle} {task : TaskHandle} {first : Nat}
    (engaged : run.Engaged forwarding event task first count)
    (unfaulted : (run.after count).control.isFaulted = false)
    (dead : (run.after count).kernel.isAlive task = false)
    (closed : ∀ closing ∈ (run.after count).closings, closing.task ≠ task) :
    (run.calls forwarding.marking task (first + 1) count).count .done = 1
  /-- A close that begins comes to this end, unless more events occur than the
  queue has room for. -/
  killed {event : EventHandle} {task : TaskHandle} {first : Nat}
    (engaged : run.Engaged forwarding event task first count)
    (kill : run.closes task count = true) (proceeds : run.Proceeds) :
    ∃ last, (run.after last).control = .faulted .queueOverflow ∨
      count < last ∧ (run.after last).closings = (run.after count).closings ∧
        (run.calls forwarding.marking task (first + 1) last).count .done = 1
  /-- When the callback for the end is called, the task was killed or the other
  callback has failed, and the task does not watch its event any more. -/
  done {event : EventHandle} {task : TaskHandle} {first : Nat}
    (engaged : run.Engaged forwarding event task first count)
    (called : .done ∈ run.marks forwarding.marking task count) :
    (run.Killed task (first + 1) count ∨
        .failure ∈ run.calls forwarding.marking task (first + 1) count) ∧
      ¬ (run.after (count + 1)).kernel.Watches event task
  /-- A handler that is refused is not kept by any task, so none of its callbacks
  is called. -/
  refused {event : EventHandle} {body : S.Body} {name : Option String}
    {error : Error} {kernel : Kernel S}
    (asks : (run.after count).asksHandler? (run.moves count) =
      some (event, body, name))
    (done : (run.after count).kernel.handle event body name =
      .ok (.error error, kernel)) (task : TaskHandle) :
    (run.after (count + 1)).kernel.roster.entryOf task =
        (run.after count).kernel.roster.entryOf task ∧
      (run.thread forwarding.marking task count = .idle →
        run.thread forwarding.marking task (count + 1) = .idle ∧
          run.marks forwarding.marking task count = [])

/-- The callback for the end is called right after the event was unwatched. -/
private theorem unwatches_of_done
    (engaged : run.Engaged forwarding event task first count)
    (called : .done ∈ run.marks forwarding.marking task count) :
    (run.Killed task (first + 1) count ∨
        .failure ∈ run.calls forwarding.marking task (first + 1) count) ∧
      (run.after (count + 1)).kernel =
        ((run.after count).kernel.unwatch event task).2 := by
  have unfaulted : (run.after (count + 1)).control.isFaulted = false := by
    refine Bool.eq_false_iff.mpr fun faulted => ?_
    rw [(run.advances_of_faulted forwarding.marking task faulted).2] at called
    cases called
  have before := (run.transition count).isFaulted unfaulted
  -- A task at rest or at its end says nothing, and a slice that begins is not
  -- done yet. What is left is the step out of the stage that cleans up.
  have advances := run.advances forwarding.marking task unfaulted
  cases engaged.upkeep before with
  | rests idle alive held serves =>
      rw [idle] at advances
      rcases advances.of_idle with ⟨_, silent⟩ | ⟨role, program, marked, own, opens,
        known, entered⟩
      · rw [silent] at called
        cases called
      · rw [Kernel.body?_eq (run.wellformed count), held] at known
        rw [← (Prod.mk.inj entered).2] at called
        exact absurd called (Forwarding.done_notMem_marks serves known)
  | ended idle dead =>
      rw [idle] at advances
      rcases advances.of_idle with ⟨_, silent⟩ | ⟨role, program, marked, own, opens,
        _⟩
      · rw [silent] at called
        cases called
      · exact absurd (own ▸ opens.alive) dead
  | works works progress killed calls =>
      rcases works.advances progress advances with
        ⟨later, _, _, stops⟩ | ⟨result, _, _, _, silent, _⟩
      · obtain ⟨rfl, role, rest, thread, steps⟩ := stops called
        have begun := works.role?_eq
        rw [thread] at begun
        cases begun
        constructor
        · cases progress with
          | failed =>
              rw [calls]
              exact Or.inr (List.mem_append_right _ List.mem_cons_self)
          | killed => exact Or.inl (killed rfl)
        · have follows := run.follows forwarding.marking task before
          rw [thread] at follows
          cases follows with
          | goes own _ control =>
              subst own
              rw [after_succ steps, Machine.move_of_answered control rfl]
      · rw [silent] at called
        cases called

/-- Once it is dead and closed, a handler task was done once. -/
private theorem count_done_of_dead
    (engaged : run.Engaged forwarding event task first count)
    (unfaulted : (run.after count).control.isFaulted = false)
    (dead : ¬ (run.after count).kernel.roster.Alive task)
    (closed : ∀ closing ∈ (run.after count).closings, closing.task ≠ task) :
    (run.calls forwarding.marking task (first + 1) count).count .done = 1 := by
  cases engaged.upkeep unfaulted with
  | rests idle alive => exact absurd alive dead
  | @works role stage ending works =>
      cases role with
      | slice other =>
          have own : other = task :=
            ((run.follows forwarding.marking task unfaulted).role_iff.mpr
              works.role?_eq).2
          subst own
          exact absurd (alive_of_thread unfaulted works.role?_eq) dead
      | close closing =>
          obtain ⟨inside, own⟩ := closing_of_thread unfaulted works.role?_eq
          exact absurd own (closed closing inside)
  | ended idle dead progress killed calls =>
      rw [calls, List.count_append, List.count_replicate]
      cases progress <;> rfl

/-- The close of a handler task comes to its end, and then the task was done. -/
private theorem exists_done_of_killed
    (engaged : run.Engaged forwarding event task first count)
    (kill : run.closes task count = true) (proceeds : run.Proceeds) :
    ∃ last, (run.after last).control = .faulted .queueOverflow ∨
      count < last ∧ (run.after last).closings = (run.after count).closings ∧
        (run.calls forwarding.marking task (first + 1) last).count .done = 1 := by
  obtain ⟨closing, rfl, begins⟩ := closes_iff.mp kill
  have alive := (Ends.kill rfl begins).dead.1
  obtain ⟨last, faulted | ⟨later, inside, closings, verdict, answered⟩⟩ :=
    exists_closed proceeds begins
  · exact ⟨last, Or.inl faulted⟩
  have dead {between : Nat} (since : count < between) (early : between ≤ last) :=
    Roster.not_alive_of_dead (dead_of_inside begins inside since early)
  have before := engaged.before
  refine ⟨last, Or.inr ⟨by omega, closings, ?_⟩⟩
  refine count_done_of_dead ⟨engaged.engages, by omega, ?_⟩
    (by rw [answered]; rfl) (dead (by omega) le_rfl) ?_
  · intro between deed since early starts does
    rcases Nat.lt_or_ge between count with earlier | after
    · exact engaged.unissued since earlier starts does
    · exact dead (Nat.lt_succ_of_le after) early
        (does.alive (run.wellformed between) starts)
  · rw [closings]
    rintro other member same
    exact Roster.not_alive_of_dead (dead_of_mem_closings member) (same ▸ alive)

/-- Where no program begins, none of a task that rests does. -/
private theorem idle_of_roles
    (same : (run.after (count + 1)).roles = (run.after count).roles)
    (idle : run.thread forwarding.marking task count = .idle) :
    run.thread forwarding.marking task (count + 1) = .idle ∧
      run.marks forwarding.marking task count = [] := by
  cases unfaulted : (run.after (count + 1)).control.isFaulted with
  | true =>
      obtain ⟨still, silent⟩ :=
        run.advances_of_faulted forwarding.marking task unfaulted
      exact ⟨still.trans idle, silent⟩
  | false =>
      have before := (run.transition count).isFaulted unfaulted
      have follows := run.follows forwarding.marking task unfaulted
      have advances := run.advances forwarding.marking task unfaulted
      rw [idle] at advances
      rcases advances.of_idle with still | ⟨role, program, marked, own, opens,
        known, entered⟩
      · exact still
      · rw [← (Prod.mk.inj entered).1] at follows
        obtain ⟨inside, _⟩ := follows.role_iff.mpr rfl
        rw [same] at inside
        exact absurd own (clear_of_thread before idle role inside)

theorem cleansUp (run : Run S) (forwarding : Forwarding S Callbacks)
    (count : Nat) : run.CleansUp forwarding count := by
  constructor
  case thread => exact fun task => run.follows forwarding.marking task
  case calls =>
    intro event task first engaged unfaulted
    cases engaged.upkeep unfaulted with
    | rests idle alive held serves calls =>
        exact ⟨[], .goesOn, calls.trans (List.append_nil _).symm⟩
    | works works progress killed calls =>
        exact ⟨_, farewell_of_progress progress killed, calls⟩
    | ended idle dead progress killed calls =>
        exact ⟨_, farewell_of_progress progress killed, calls⟩
  case died =>
    intro event task first engaged unfaulted dead closed
    refine count_done_of_dead engaged unfaulted (fun alive => ?_) closed
    rw [(run.isAlive_iff count).mpr alive] at dead
    cases dead
  case killed =>
    intro event task first engaged kill proceeds
    exact exists_done_of_killed engaged kill proceeds
  case done =>
    intro event task first engaged called
    obtain ⟨reason, unwatches⟩ := unwatches_of_done engaged called
    refine ⟨reason, ?_⟩
    rw [unwatches, Kernel.watches_unwatch]
    exact fun ⟨_, other⟩ => other ⟨rfl, rfl⟩
  case refused =>
    intro event body name error kernel asks done task
    have refuses := (Machine.move_of_asksHandler asks done).2 error rfl
    refine ⟨(refuses.keeps (run.wellformed count)).2 task, fun idle => ?_⟩
    exact idle_of_roles refuses.roles_eq idle

end Run

/-- Scripted handler tasks forward their slices and their close, one or two
times, to a loop. -/
def Scenario.forwarding : Forwarding Scenario.scripted Scenario.Callbacks where
  loop?
    | .handler loop _ => some loop
    | _ => none
  setLoop
    | .handler _ twice, loop => .handler loop twice
    | body, _ => body
  repeats
    | .handler _ twice => twice.toNat
    | _ => 0
  loop?_setLoop {body loop} other known := by
    cases body with
    | handler => rfl
    | _ => cases known
  resume {body loop} known := by
    cases body with
    | handler =>
        cases known
        rfl
    | _ => cases known
  close {body loop} known := by
    cases body with
    | handler _ twice =>
        cases known
        cases twice <;> rfl
    | _ => cases known

end EventScheduler
