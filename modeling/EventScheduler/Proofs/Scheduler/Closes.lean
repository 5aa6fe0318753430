import EventScheduler.Proofs.Scheduler.Deaths

/-!
# Kills and closes

A kill marks its task dead, runs the close of its body, and answers when that
is over; the close may ask for kills itself.  Whatever is nested in what, a task
is closed once if it was killed and never if it ended in another way.  While it
is closed, nothing names it and nothing can be done to it, and no close ends the
task whose slice is carried out.
-/

namespace EventScheduler

variable {S : Signature}

/-! ### What a close finds -/

namespace Kernel

variable [Environment S.World] {kernel : Kernel S}

/-- The running task cannot be killed, and loses no more than its event. -/
structure Spares (kernel : Kernel S) (task : TaskHandle) : Prop where
  kill (current : TaskHandle) : kernel.perform current (.kill task) =
    .ok (.answered (.error .selfKill) kernel)
  stopHandler {event : EventHandle} (current : TaskHandle) :
    kernel.handlers.get? event = some task →
      kernel.perform current (.stopHandler event) =
        .ok (.answered (.error .selfKill) kernel)
  /-- Nothing is closed, and only the event and its watchers are affected. -/
  release {event : EventHandle} (current : TaskHandle) :
    kernel.handlers.get? event = some task →
      ∃ verdict next, kernel.perform current (.release event) =
          .ok (.answered verdict next) ∧
        next.tasks = kernel.tasks ∧ next.running = kernel.running ∧
        next.handlers = kernel.handlers.forget task
  abandon {event : EventHandle} (current : TaskHandle) :
    kernel.handlers.get? event = some task →
      ∃ verdict next, kernel.perform current (.abandon event) =
          .ok (.answered verdict next) ∧
        next.tasks = kernel.tasks ∧ next.running = kernel.running ∧
        next.handlers = kernel.handlers.forget task

private theorem startErrand_spares {task : TaskHandle} {event : EventHandle}
    (running : kernel.running = some task)
    (handled : kernel.handlers.get? event = some task) (errand : Errand) :
    ∃ verdict next, kernel.startErrand event errand =
        .ok (.answered verdict next) ∧
      next.tasks = kernel.tasks ∧ next.running = kernel.running ∧
      next.handlers = kernel.handlers.forget task := by
  have started : kernel.startErrand event errand =
      .ok (.answered
        ({ kernel with
          handlers := kernel.handlers.forget task }.settle errand).1
        ({ kernel with
          handlers := kernel.handlers.forget task }.settle errand).2) := by
    unfold startErrand
    rw [handled]
    dsimp only
    rw [if_pos running]
    rfl
  exact ⟨_, _, started, settle_keeps _ errand⟩

theorem spares_of_running {task : TaskHandle}
    (running : kernel.running = some task) : kernel.Spares task := by
  have refused : kernel.startKill task =
      .ok (.answered (.error .selfKill) kernel) := by
    have killed : kernel.kill task = .ok (.refused .selfKill) := if_pos running
    unfold startKill
    rw [bind_of_ok killed]
    rfl
  constructor
  case kill =>
    intro current
    unfold perform
    dsimp only
    split
    · rfl
    · exact refused
  case stopHandler =>
    intro event current handled
    unfold perform startStop
    dsimp only
    rw [handled]
    exact refused
  case release =>
    exact fun {event} current handled =>
      startErrand_spares running handled (.release event)
  case abandon =>
    exact fun {event} current handled =>
      startErrand_spares running handled (.abandon event)

/-- A handler that is refused was never there. -/
private theorem entryOf_of_handle (wellformed : kernel.Wellformed)
    {event : EventHandle} {body : S.Body} {name : Option String} {error : Error}
    {next : Kernel S}
    (done : kernel.handle event body name = .ok (.error error, next))
    (task : TaskHandle) :
    next.roster.entryOf task = kernel.roster.entryOf task := by
  have spoils : Evolves (fun deed => ∃ index, deed = .spoils index) kernel next :=
    handle_cases wellformed done
  exact spoils.entryOf_eq wellformed (fun _ => Or.inr) task

/-- A kill that is answered at once changes nothing. -/
private theorem perform_kill_answered {current task : TaskHandle}
    {answer : Except Error Bool} {next : Kernel S}
    (done : kernel.perform current (.kill task) = .ok (.answered answer next)) :
    next = kernel ∧ answer ≠ .ok true := by
  simp only [perform] at done
  split at done
  · cases done
    exact ⟨rfl, by simp⟩
  · exact ⟨startKill_answered done, ne_ok_true_of_startKill done⟩

/-- Nobody joins a live task in the name of a dead one. -/
private theorem perform_join_of_dead (wellformed : kernel.Wellformed)
    {task other : TaskHandle} {exit : S.Exit}
    (dead : kernel.roster.stateOf task = some (.dead exit))
    (alive : kernel.roster.Alive other) :
    kernel.perform task (.join other) =
      .ok (.answered (.error .deadTask) kernel) := by
  have gone := Roster.not_alive_of_dead dead
  have different : other ≠ task := by
    rintro rfl
    exact gone alive
  have pending : kernel.outcome other = .ok .pending := by
    obtain ⟨state, known, notDead⟩ := Roster.alive_iff_stateOf.mp alive
    unfold outcome
    rw [(state_eq_ok_iff wellformed).mpr known]
    cases state with
    | dead exit => cases notDead
    | active | suspended | timer => rfl
  unfold perform join
  dsimp only
  rw [if_neg different, pending]
  dsimp only
  rw [if_neg fun aliveToo => gone ((isAlive_iff wellformed).mp aliveToo)]
  rfl

end Kernel

namespace Machine

variable {machine : Machine S} {move : Move S} {task : TaskHandle}

theorem closings_of_idle (steady : machine.Steady)
    (idle : machine.control.isIdle = true) : machine.closings = [] :=
  steady.closings_eq_nil (Control.idle_cases idle).1

variable [Application S]

inductive AsksKill (machine : Machine S) (task : TaskHandle) : Move S → Prop
  | called (idle : machine.control.isIdle = true) :
      AsksKill machine task (.call (.kill task))
  | asked {role : Role}
      {rest : Except Error Bool → Program S (role.Result S)}
      (control : machine.control = .body role (.ask (.kill task) rest)) :
      AsksKill machine task .step

inductive RefusesHandler (machine : Machine S) : Move S → Prop
  | operation {event : EventHandle} {body : S.Body} {name : Option String}
      {error : Error} {scheduler : Scheduler S}
      (idle : machine.control.isIdle = true)
      (done : machine.operate (.handle event body name) =
        .ok (.error error, scheduler)) :
      RefusesHandler machine (.operate (.handle event body name))
  | request {role : Role} {event : EventHandle} {body : S.Body}
      {rest : Except Error TaskHandle → Program S (role.Result S)}
      {error : Error} {kernel : Kernel S}
      (control : machine.control = .body role (.ask (.handle event body) rest))
      (done : machine.kernel.perform role.task (.handle event body) =
        .ok (.answered (.error error) kernel)) :
      RefusesHandler machine .step

/-- A refused handler is not closed, and nobody is started or ends. -/
theorem RefusesHandler.keeps (refuses : machine.RefusesHandler move)
    (wellformed : machine.kernel.Wellformed) :
    (machine.move move).closings = machine.closings ∧
      ∀ task, (machine.move move).kernel.roster.entryOf task =
        machine.kernel.roster.entryOf task := by
  cases refuses with
  | operation idle done =>
      rw [move_of_operated idle done]
      obtain ⟨⟨answer, kernel⟩, handled, ended⟩ := exists_ok_of_bind done
      cases ended
      exact ⟨rfl, Kernel.entryOf_of_handle wellformed handled⟩
  | request control done =>
      rw [move_of_answered control done]
      obtain ⟨⟨answer, kernel⟩, handled, ended⟩ := exists_ok_of_bind done
      cases ended
      refine ⟨?_, Kernel.entryOf_of_handle wellformed handled⟩
      rw [closings_of_body control]
      rfl

/-- The close that begins where a kill is asked for is that of the task. -/
theorem AsksKill.begun {closing : Closing} (asks : machine.AsksKill task move)
    (steady : machine.Steady)
    (begins : (machine.move move).closings = closing :: machine.closings) :
    closing.task = task ∧ closing.errand = .kill := by
  have wellformed := steady.placed.wellformed
  have longer := congrArg List.length begins
  rw [List.length_cons] at longer
  cases asks with
  | called idle =>
      have moved : machine.move (.call (.kill task)) =
          ofStarted machine.toScheduler (machine.kernel.startKill task) :=
        if_pos idle
      rw [moved] at begins longer
      cases started : machine.kernel.startKill task with
      | error fault =>
          rw [started] at begins
          cases begins
      | ok result =>
          rw [started] at begins
          cases result with
          | answered answer kernel => cases begins
          | underway killed body reply kernel =>
              obtain ⟨_, errand, same⟩ :=
                Kernel.startKill_underway wellformed started
              cases (List.cons.inj begins).1
              exact ⟨same, errand⟩
  | @asked role rest control =>
      have answered {answer : Except Error Bool} {kernel : Kernel S}
          (done : machine.kernel.perform role.task (.kill task) =
            .ok (.answered answer kernel)) :
          (machine.move .step).closings = machine.closings := by
        rw [move_of_answered control done, closings_of_body control]
        rfl
      -- A task that asks for its own kill is answered at once, and no close
      -- begins.
      by_cases self : task = role.task
      · have refused : machine.kernel.perform role.task (.kill task) =
            .ok (.answered (.error .selfKill) machine.kernel) := if_pos self
        rw [answered refused] at longer
        omega
      · have asked : machine.kernel.perform role.task (.kill task) =
            machine.kernel.startKill task := if_neg self
        have harmless : FaultsOnly (fun _ => False)
          (machine.kernel.startKill task) :=
            Kernel.startKill_faultsOnly wellformed task
        obtain ⟨result, started⟩ := harmless.exists_ok
        cases result with
        | answered answer kernel =>
            rw [answered (asked.trans started)] at longer
            omega
        | underway killed body reply kernel =>
            rw [move_of_underway control (asked.trans started)] at begins
            cases (List.cons.inj begins).1
            obtain ⟨_, errand, same⟩ :=
              Kernel.startKill_underway wellformed started
            exact ⟨same, errand⟩

end Machine

/-- A slice does not end with a task being cancelled. -/
theorem Step.exit?_ne_cancelled {Output Failure : Type}
    (step : Step Output Failure) : step.exit? ≠ some .cancelled := by
  cases step <;> exact fun impossible => nomatch impossible

/-! ### Runs -/

namespace Run

variable [Application S] {run : Run S} {count first last : Nat}
  {task : TaskHandle} {closing : Closing}

/-- The kill whose close begins with a move. -/
def begun? (run : Run S) (count : Nat) : Option Closing :=
  match (run.after (count + 1)).closings with
  | [] => none
  | closing :: outer =>
      if outer = (run.after count).closings then some closing else none

def closes (run : Run S) (task : TaskHandle) (count : Nat) : Bool :=
  (run.begun? count).any fun closing => closing.task = task

/-- How often the close of a task has begun since the task was started. -/
def timesClosed (run : Run S) (task : TaskHandle) : Nat → Nat
  | 0 => 0
  | count + 1 =>
      match (run.after (count + 1)).state task with
      | .error _ => 0
      | .ok _ => run.timesClosed task count + (run.closes task count).toNat

theorem begun?_eq_some_iff : run.begun? count = some closing ↔
    (run.after (count + 1)).closings =
      closing :: (run.after count).closings := by
  unfold begun?
  cases (run.after (count + 1)).closings with
  | nil => simp
  | cons innermost outer =>
      rw [List.cons.injEq]
      by_cases same : outer = (run.after count).closings <;> simp [same]

theorem closes_iff : run.closes task count = true ↔
    ∃ closing, closing.task = task ∧ (run.after (count + 1)).closings =
      closing :: (run.after count).closings := by
  unfold closes
  simp only [Option.any_eq_true, begun?_eq_some_iff, decide_eq_true_eq, and_comm]

/-! #### Dead tasks -/

/-- Nobody is reaped in the middle of an operation. -/
theorem dead_succ {exit : S.Exit}
    (dead : (run.after count).kernel.roster.stateOf task = some (.dead exit))
    (busy : (run.after count).control.isIdle = false) :
    (run.after (count + 1)).kernel.roster.stateOf task =
      some (.dead exit) := by
  refine (run.accounted count).stateOf_dead
    (run.wellformed count) (fun accounts => ?_) dead
  have idle := (accounts.reaps rfl).eq_reap.1
  rw [busy] at idle
  cases idle

/-- Nobody is started in a move in which a dead task is forgotten. -/
theorem dead_or_gone {exit : S.Exit}
    (dead : (run.after count).kernel.roster.stateOf task = some (.dead exit)) :
    (run.after (count + 1)).kernel.roster.stateOf task = some (.dead exit) ∨
      (run.after (count + 1)).kernel.roster.stateOf task = none := by
  have wellformed := run.wellformed count
  by_cases reaped : run.moves count = .operate (.reap task)
  · refine (run.accounted count).dead_or_gone wellformed
      (fun deed accounts starts => ?_) dead
    have does := accounts.starts starts
    rw [reaped] at does
    cases does with
    | operation idle done comes =>
        cases comes
        cases starts
  · refine Or.inl ((run.accounted count).stateOf_dead wellformed
      (fun accounts => ?_) dead)
    exact reaped (accounts.reaps rfl).eq_reap.2

theorem not_idle_of_closings (busy : (run.after count).closings ≠ []) :
    (run.after count).control.isIdle = false := by
  refine Bool.eq_false_iff.mpr fun idle => busy ?_
  exact Machine.closings_of_idle (run.steady count) idle

/-- Whoever is being closed is dead. -/
theorem dead_of_mem_closings (inside : closing ∈ (run.after count).closings) :
    (run.after count).kernel.roster.stateOf closing.task =
      some (.dead .cancelled) := by
  induction count with
  | zero => cases inside
  | succ count ih =>
      rcases (run.transition count).mem_closings (run.steady count) inside with
        already | ⟨_, begins⟩
      · exact dead_succ (ih already)
          (not_idle_of_closings (List.ne_nil_of_mem already))
      · exact begins.begins.retires.stateOf

/-! #### How often a task is closed -/

private theorem dead_succ_iff (other : run.closes task count = false)
    {state : S.State}
    (known : (run.after (count + 1)).kernel.roster.stateOf task = some state) :
    state = .dead .cancelled ↔
      (run.after count).kernel.roster.stateOf task =
        some (.dead .cancelled) := by
  constructor
  · rintro rfl
    rcases ends_of_dead known with already | ends
    · exact already
    · cases ends with
      | slice control move exits =>
          exact absurd exits (Step.exit?_ne_cancelled _)
      | kill killed closings =>
          rw [closes_iff.mpr ⟨_, killed, closings⟩] at other
          cases other
  · intro dead
    rcases dead_or_gone dead with still | gone
    · exact Option.some.inj (known.symm.trans still)
    · cases known.symm.trans gone

/-- A task was closed once if it was killed, and never otherwise. -/
private theorem timesClosed_cases (run : Run S) (task : TaskHandle)
    (count : Nat) :
    ((run.after count).kernel.roster.stateOf task = some (.dead .cancelled) →
        run.timesClosed task count = 1) ∧
      ((run.after count).kernel.roster.stateOf task ≠
          some (.dead .cancelled) →
        run.timesClosed task count = 0) := by
  induction count with
  | zero =>
      refine ⟨fun dead => ?_, fun _ => rfl⟩
      have nobody : (run.after 0).kernel.roster = .empty :=
        Kernel.roster_new run.world
      unfold Roster.stateOf at dead
      rw [nobody, Roster.entryOf_empty] at dead
      cases dead
  | succ count ih =>
      unfold timesClosed
      cases known : (run.after (count + 1)).state task with
      | error error =>
          refine ⟨fun dead => ?_, fun _ => rfl⟩
          cases known.symm.trans ((run.state_eq_ok_iff _).mpr dead)
      | ok state =>
          have state := (run.state_eq_ok_iff _).mp known
          dsimp only
          rw [state]
          cases closes : run.closes task count with
          | true =>
              obtain ⟨closing, killed, closings⟩ := closes_iff.mp closes
              obtain ⟨alive, dead⟩ := (Ends.kill killed closings).dead
              have before := ih.2 fun dead =>
                Roster.not_alive_of_dead dead alive
              rw [before]
              exact ⟨fun _ => rfl,
                fun other => absurd (state.symm.trans dead) other⟩
          | false =>
              have same := dead_succ_iff closes state
              rw [Option.some.injEq, ne_eq, Option.some.injEq, same]
              exact ih

theorem timesClosed_of_killed
    (dead : (run.after count).state task = .ok (.dead .cancelled)) :
    run.timesClosed task count = 1 :=
  (run.timesClosed_cases task count).1 ((run.state_eq_ok_iff count).mp dead)

theorem timesClosed_eq_zero
    (other : (run.after count).state task ≠ .ok (.dead .cancelled)) :
    run.timesClosed task count = 0 := by
  apply (run.timesClosed_cases task count).2
  exact fun dead => other ((run.state_eq_ok_iff count).mpr dead)

/-! #### The running task -/

theorem state_of_running
    (running : (run.after count).kernel.running = some task) :
    (run.after count).state task = .ok .active := by
  have steady := run.steady count
  have strays := steady.placed.strays
  have stray := Machine.stray_of_running running
  obtain ⟨index, entry, found, _⟩ := strays.alive stray
  rw [run.state_eq_ok_iff]
  unfold Roster.stateOf
  rw [Roster.entryOf_of_find? found, Option.map_some,
    strays.active stray index entry found]

/-! #### Kills that return -/

/-- A kill that was asked for in move `first` returned before move `last`: it was
answered at once, or its close ran and what is being closed is what was being
closed before. -/
inductive Kills (run : Run S) (task : TaskHandle) (first : Nat) :
    Nat → Except Error Bool → Prop
  | called {answer : Except Error Bool}
      (calls : run.moves first = .call (.kill task))
      (idle : (run.after first).control.isIdle = true)
      (answered : (run.after (first + 1)).control =
        .concluded (.answered answer)) :
      Kills run task first (first + 1) answer
  | asked {role : Role} {rest : Except Error Bool → Program S (role.Result S)}
      {answer : Except Error Bool} {kernel : Kernel S}
      (steps : run.moves first = .step)
      (control : (run.after first).control = .body role (.ask (.kill task) rest))
      (answered : (run.after first).kernel.perform role.task (.kill task) =
        .ok (.answered answer kernel)) :
      Kills run task first (first + 1) answer
  | closed {last : Nat} {verdict : Bool} (later : first + 1 < last)
      (asks : (run.after first).AsksKill task (run.moves first))
      (inside : ∀ between, first < between → between < last →
        (run.after first).closings.length <
          (run.after between).closings.length)
      (closings : (run.after last).closings = (run.after first).closings)
      (answered : (run.after last).control = .verdict verdict) :
      Kills run task first last (.ok verdict)

/-- From `first` to `last` a task is killed, and its close is run from beginning
to end. -/
structure KilledFrom (run : Run S) (task : TaskHandle) (first last : Nat) :
    Prop where
  alive : (run.after first).kernel.isAlive task = true
  unclosed : run.timesClosed task first = 0
  close : ∃ closing returned, closing.task = task ∧ first < returned ∧
    returned + 1 = last ∧ run.begun? first = some closing ∧
    (run.after returned).control = .body (.close closing) (.pure ())
  dead {between : Nat} : first < between → between ≤ last →
    (run.after between).state task = .ok (.dead .cancelled)
  closedOnce {between : Nat} : first < between → between ≤ last →
    run.timesClosed task between = 1

/-- A kill that is answered at once changes nothing and kills nobody. -/
structure KillsNobody (run : Run S) (task : TaskHandle) (first last : Nat)
    (answer : Except Error Bool) : Prop where
  atOnce : last = first + 1
  answer : answer ≠ .ok true
  kernel : (run.after last).kernel = (run.after first).kernel
  closings : (run.after last).closings = (run.after first).closings

/-- Nothing that was being closed inside a close is left until that is over. -/
theorem suffix_closings
    (begins : (run.after (first + 1)).closings =
      closing :: (run.after first).closings)
    (inside : ∀ between, first < between → between ≤ last →
      (run.after first).closings.length <
        (run.after between).closings.length)
    (after : first < last) :
    closing :: (run.after first).closings <:+ (run.after last).closings := by
  induction last, after using Nat.le_induction with
  | base => rw [begins]
  | succ last after ih =>
      have before := ih fun between since early =>
        inside between since (Nat.le_succ_of_le early)
      have enough : (closing :: (run.after first).closings).length ≤
          (run.after (last + 1)).closings.length :=
        inside (last + 1) (Nat.lt_succ_of_lt after) (Nat.le_refl _)
      cases run.nests last with
      | begins _ _ closings =>
          rw [closings]
          exact before.trans (List.suffix_cons _ _)
      | ends _ _ _ closings =>
          have shorter : (run.after (last + 1)).closings <:+
              (run.after last).closings := by
            rw [closings]
            exact List.suffix_cons _ _
          exact List.suffix_of_suffix_length_le before shorter enough
      | keeps closings => exact closings ▸ before
      | fails _ shorter =>
          exact List.suffix_of_suffix_length_le before shorter enough

theorem exists_begins (deeper : (run.after first).closings.length <
      (run.after (first + 1)).closings.length) :
    ∃ closing, (run.after (first + 1)).closings =
      closing :: (run.after first).closings := by
  cases run.nests first with
  | begins _ _ begins => exact ⟨_, begins⟩
  | ends _ _ _ closings =>
      rw [closings, List.length_cons] at deeper
      omega
  | keeps same =>
      rw [same] at deeper
      omega
  | fails _ shorter =>
      have fewer := shorter.length_le
      omega

/-- When what is being closed is what was being closed before a kill, it is the
close of that kill that has ended, and the kill answers that it killed. -/
private theorem ends_of_closed {returned : Nat} {verdict : Bool}
    (errand : closing.errand = .kill)
    (outer : closing :: (run.after first).closings <:+
      (run.after returned).closings)
    (closings : (run.after (returned + 1)).closings =
      (run.after first).closings)
    (answered : (run.after (returned + 1)).control = .verdict verdict) :
    (run.after returned).control = .body (.close closing) (.pure ()) ∧
      verdict = true := by
  have fewer := outer.length_le
  rw [List.length_cons] at fewer
  cases run.nests returned with
  | begins _ _ begins =>
      rw [closings] at begins
      have more := congrArg List.length begins
      rw [List.length_cons] at more
      omega
  | ends control settles answers ended =>
      rw [ended, closings] at outer
      have same := (List.cons.inj (outer.eq_of_length rfl)).1
      subst same
      rw [errand] at settles
      cases answers.symm.trans answered
      exact ⟨control, (congrArg Prod.fst settles).symm⟩
  | keeps same =>
      rw [← same, closings] at fewer
      omega
  | fails faulted =>
      rw [answered] at faulted
      cases faulted

/-- As long as the close that has begun is not over, its task is dead, and it is
still dead when it is. -/
theorem dead_of_inside
    (begins : (run.after (first + 1)).closings =
      closing :: (run.after first).closings)
    (inside : ∀ between, first < between → between < last →
      (run.after first).closings.length < (run.after between).closings.length)
    {between : Nat} (since : first < between) (early : between ≤ last) :
    (run.after between).kernel.roster.stateOf closing.task =
      some (.dead .cancelled) := by
  induction between, since using Nat.le_induction with
  | base =>
      apply dead_of_mem_closings
      rw [begins]
      exact List.mem_cons_self
  | succ between since ih =>
      refine dead_succ (ih (by omega)) (not_idle_of_closings ?_)
      have nested := inside between since (by omega)
      exact List.ne_nil_of_length_pos (Nat.zero_lt_of_lt nested)

/-- Where a kill begins to close its task and what is being closed is in the end
what was being closed before, that close ran from beginning to end. -/
theorem killedFrom_of_begun {verdict : Bool} (later : first + 1 < last)
    (begins : (run.after (first + 1)).closings =
      closing :: (run.after first).closings)
    (errand : closing.errand = .kill)
    (inside : ∀ between, first < between → between < last →
      (run.after first).closings.length < (run.after between).closings.length)
    (closings : (run.after last).closings = (run.after first).closings)
    (answered : (run.after last).control = .verdict verdict) :
    verdict = true ∧ run.KilledFrom closing.task first last := by
  obtain ⟨returned, rfl⟩ := Nat.exists_eq_add_one_of_ne_zero
    (Nat.ne_zero_of_lt later)
  have before : first < returned := by omega
  have outer := suffix_closings begins (fun between since early =>
    inside between since (Nat.lt_succ_of_le early)) before
  obtain ⟨control, verdict⟩ := ends_of_closed errand outer closings answered
  have alive := (Ends.kill rfl begins).dead.1
  have dead {between : Nat} (since : first < between)
      (early : between ≤ returned + 1) :
      (run.after between).state closing.task = .ok (.dead .cancelled) := by
    rw [run.state_eq_ok_iff]
    exact dead_of_inside begins inside since early
  refine ⟨verdict, ?_⟩
  constructor
  case alive => exact (run.isAlive_iff first).mpr alive
  case unclosed =>
    apply timesClosed_eq_zero
    intro already
    exact Roster.not_alive_of_dead ((run.state_eq_ok_iff first).mp already) alive
  case close =>
    exact ⟨closing, returned, rfl, before, rfl,
      begun?_eq_some_iff.mpr begins, control⟩
  case dead => exact dead
  case closedOnce =>
    intro between since early
    exact timesClosed_of_killed (dead since early)

private theorem Kills.killedFrom {verdict : Bool} (later : first + 1 < last)
    (asks : (run.after first).AsksKill task (run.moves first))
    (inside : ∀ between, first < between → between < last →
      (run.after first).closings.length < (run.after between).closings.length)
    (closings : (run.after last).closings = (run.after first).closings)
    (answered : (run.after last).control = .verdict verdict) :
    verdict = true ∧ run.KilledFrom task first last := by
  obtain ⟨closing, begins⟩ :=
    exists_begins (inside (first + 1) (Nat.lt_succ_self first) later)
  obtain ⟨rfl, errand⟩ := asks.begun (run.steady first) begins
  exact killedFrom_of_begun later begins errand inside closings answered

private theorem Kills.killsNobody_of_called {answer : Except Error Bool}
    (calls : run.moves first = .call (.kill task))
    (idle : (run.after first).control.isIdle = true)
    (answered : (run.after (first + 1)).control =
      .concluded (.answered answer)) :
    run.KillsNobody task first (first + 1) answer := by
  have nothing := Machine.closings_of_idle (run.steady first) idle
  have moved : run.after (first + 1) = Machine.ofStarted
      (run.after first).toScheduler
      ((run.after first).kernel.startKill task) :=
    (after_succ calls).trans (if_pos idle)
  rw [moved] at answered
  cases started : (run.after first).kernel.startKill task with
  | error fault =>
      rw [started] at answered
      cases answered
  | ok result =>
      rw [started] at answered moved
      cases result with
      | underway killed body reply kernel => cases answered
      | answered known kernel =>
          cases answered
          constructor
          case atOnce => rfl
          case answer => exact Kernel.ne_ok_true_of_startKill started
          case kernel =>
            rw [moved]
            exact Kernel.startKill_answered started
          case closings =>
            rw [moved, nothing]
            rfl

private theorem Kills.killsNobody_of_asked {role : Role}
    {rest : Except Error Bool → Program S (role.Result S)}
    {answer : Except Error Bool} {kernel : Kernel S}
    (steps : run.moves first = .step)
    (control : (run.after first).control = .body role (.ask (.kill task) rest))
    (answered : (run.after first).kernel.perform role.task (.kill task) =
      .ok (.answered answer kernel)) :
    run.KillsNobody task first (first + 1) answer := by
  obtain ⟨same, nobody⟩ := Kernel.perform_kill_answered answered
  have moved : run.after (first + 1) = { run.after first with
      kernel
      control := .body role (rest answer) } :=
    (after_succ steps).trans (Machine.move_of_answered control answered)
  constructor
  case atOnce => rfl
  case answer => exact nobody
  case kernel =>
    rw [moved]
    exact same
  case closings =>
    rw [moved, Machine.closings_of_body control]
    rfl

/-! #### The close protocol -/

/-- What closes do in a run, and what cannot be done to them. -/
structure ClosesOnce (run : Run S) (count : Nat) : Prop where
  /-- Whoever was killed was closed once since it was started. -/
  once {task : TaskHandle} :
    (run.after count).state task = .ok (.dead .cancelled) →
      run.timesClosed task count = 1
  /-- Nobody else was: neither a live task nor one that ended its own slice. -/
  never {task : TaskHandle} :
    (run.after count).state task ≠ .ok (.dead .cancelled) →
      run.timesClosed task count = 0
  /-- A close is that of the body that the live task had. -/
  begins {closing : Closing} : run.begun? count = some closing →
    ∃ entry body, (run.after count).kernel.tasks.entry closing.task = .ok entry ∧
      entry.state.isDead = false ∧ entry.body = some body ∧
      (run.after (count + 1)).control =
        .body (.close closing) (Application.close body)
  /-- A handler that cannot be registered is dropped: it was never there, and
  nothing is closed. -/
  drops : (run.after count).RefusesHandler (run.moves count) →
    run.begun? count = none ∧
      ∀ task state, (run.after (count + 1)).state task = .ok state ↔
        (run.after count).state task = .ok state
  /-- While a task is closed, nothing names it and nothing happens to it. -/
  departed {closing : Closing} : closing ∈ (run.after count).closings →
    (run.after count).toScheduler.Departed closing.task .cancelled
  /-- A close joins nobody alive. -/
  joinsNobody {closing : Closing} {task : TaskHandle} :
    closing ∈ (run.after count).closings →
      (run.after count).kernel.isAlive task = true →
      (run.after count).kernel.perform closing.task (.join task) =
        .ok (.answered (.error .deadTask) (run.after count).kernel)
  /-- Nobody can kill the running task. -/
  spares {task : TaskHandle} :
    (run.after count).kernel.running = some task →
      (run.after count).kernel.Spares task
  /-- Nothing that a close does ends the running task. -/
  outlives {task : TaskHandle} :
    (run.after count).kernel.running = some task →
      (run.after count).closings ≠ [] →
      (run.after (count + 1)).kernel.running = some task ∧
        (run.after (count + 1)).state task = .ok .active
  /-- A kill that answers that it killed ran the close once. -/
  kills {task : TaskHandle} {last : Nat} :
    run.Kills task count last (.ok true) → run.KilledFrom task count last
  /-- A kill with any other answer does nothing. -/
  killsNobody {task : TaskHandle} {last : Nat} {answer : Except Error Bool} :
    run.Kills task count last answer → answer ≠ .ok true →
      run.KillsNobody task count last answer

/-- Whoever is killed is closed once, and nobody else is closed. -/
theorem closesOnce (run : Run S) (count : Nat) : run.ClosesOnce count := by
  have steady := run.steady count
  have wellformed := steady.placed.wellformed
  constructor
  case once => exact timesClosed_of_killed
  case never => exact timesClosed_eq_zero
  case begins =>
    intro closing began
    obtain ⟨body, begins, control⟩ :=
      (run.nests count).begun (begun?_eq_some_iff.mp began)
    obtain ⟨entry, known, _, same⟩ := begins.begins.retires.entryOf
    obtain ⟨index, found⟩ := Roster.entryOf_eq_some_iff.mp known
    obtain ⟨fits, present⟩ := Roster.find?_eq_some_iff.mp found
    obtain ⟨alive, knownToo, notDead⟩ :=
      Roster.alive_iff_entryOf.mp begins.begins.alive
    cases known.symm.trans knownToo
    -- Only the running task lends its body to the scheduler, and it is not
    -- closed, so the body is in the table still.
    have bodied := steady.placed.bodied index entry present notDead
      (fits ▸ begins.begins.notRunning)
    obtain ⟨body, owned⟩ := Option.isSome_iff_exists.mp bodied
    rw [← same, owned] at control
    exact ⟨entry, body, (Kernel.entry_eq_ok_iff wellformed).mpr known, notDead,
      owned, control⟩
  case drops =>
    intro refuses
    obtain ⟨closings, entries⟩ := refuses.keeps wellformed
    refine ⟨Option.eq_none_iff_forall_ne_some.mpr fun closing began => ?_,
      fun task state => ?_⟩
    · have longer := begun?_eq_some_iff.mp began
      exact List.cons_ne_self _ _ (longer.symm.trans closings)
    · rw [run.state_eq_ok_iff, run.state_eq_ok_iff]
      unfold Roster.stateOf
      rw [show (run.after (count + 1)).kernel.roster.entryOf task = _ from
        entries task]
  case departed =>
    intro closing inside
    exact steady.departed_of_dead (run.related count)
      (dead_of_mem_closings inside)
  case joinsNobody =>
    intro closing task inside alive
    exact Kernel.perform_join_of_dead wellformed (dead_of_mem_closings inside)
      ((run.isAlive_iff count).mp alive)
  case spares => exact Kernel.spares_of_running
  case outlives =>
    intro task running busy
    have still := (run.running_eq_of_closings busy).trans running
    exact ⟨still, state_of_running still⟩
  case kills =>
    intro task last kills
    cases kills with
    | called calls idle answered =>
        have nobody := Kills.killsNobody_of_called calls idle answered
        exact absurd rfl nobody.answer
    | asked steps control answered =>
        have nobody := Kills.killsNobody_of_asked steps control answered
        exact absurd rfl nobody.answer
    | closed later asks inside closings answered =>
        exact (Kills.killedFrom later asks inside closings answered).2
  case killsNobody =>
    intro task last answer kills refused
    cases kills with
    | called calls idle answered =>
        exact Kills.killsNobody_of_called calls idle answered
    | asked steps control answered =>
        exact Kills.killsNobody_of_asked steps control answered
    | closed later asks inside closings answered =>
        have killed := Kills.killedFrom later asks inside closings answered
        rw [killed.1] at refused
        exact absurd rfl refused

end Run

end EventScheduler
