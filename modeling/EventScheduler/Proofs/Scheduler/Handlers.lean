import EventScheduler.Proofs.Scheduler.Abandoned
import EventScheduler.Proofs.Scheduler.Nesting
import EventScheduler.Proofs.Scheduler.Watching

/-!
# The handler of an event

As long as an event stays enabled, the task that was started to handle it is
found under it until it dies.  So nobody else is started to handle the event
meanwhile, and to stop the handler is to kill that task.  Its death makes room
for another handler at once, even before its close has run.
-/

namespace EventScheduler

variable {S : Signature}

/-! ### Asking for a handler, or for its stop -/

namespace Kernel

variable [Environment S.World] {kernel next : Kernel S} {event : EventHandle}
  {task : TaskHandle}

/-- An event that has a handler is not given another one. -/
theorem handle_of_handled (enabled : kernel.events.isEnabled event = true)
    (handled : kernel.handlers.get? event = some task) (body : S.Body)
    (name : Option String) :
    kernel.handle event body name =
      .ok (.error .alreadyHandled, kernel) := by
  unfold handle
  rw [enabled, handled]
  rfl

/-- Another handler is refused only where there is one. -/
theorem exists_handler_of_refused {body : S.Body} {name : Option String}
    (done : kernel.handle event body name =
      .ok (.error .alreadyHandled, next)) :
    ∃ task, kernel.handlers.get? event = some task := by
  rw [← Option.isSome_iff_exists]
  by_contra unhandled
  unfold handle at done
  split at done
  · cases done
  obtain ⟨inserted, inserts, later⟩ := exists_ok_of_bind done
  cases inserted with
  | error error =>
      cases later
      unfold TaskTable.insert at inserts
      split at inserts
      · cases inserts
      · obtain ⟨_, _, impossible⟩ := exists_ok_of_bind inserts
        cases impossible
  | ok result =>
      dsimp only at later
      split at later
      · cases later
      next error refused =>
        unfold WatcherMap.watch at refused
        obtain ⟨_, _, later⟩ := exists_ok_of_bind later
        obtain ⟨reaped, reaps, later⟩ := exists_ok_of_bind later
        rw [TaskTable.tryReap_eq] at reaps
        cases reaped with
        | error stale =>
            cases later
            have impossible := Except.ok.inj reaps
            unfold TaskTable.reap at impossible
            split at impossible
            · cases impossible
            · split at impossible <;> cases impossible
        | ok result =>
            cases later
            split at refused
            · split at refused <;> cases refused
            · cases refused

/-- A live task that is not running can be killed. -/
theorem exists_startKill (wellformed : kernel.Wellformed)
    (alive : kernel.roster.Alive task)
    (elsewhere : kernel.running ≠ some task) :
    ∃ closing body next, closing.task = task ∧ closing.errand = .kill ∧
      kernel.startKill task = .ok (.underway closing body .ok next) := by
  have harmless : FaultsOnly (fun _ => False) (kernel.kill task) :=
    kill_faultsOnly wellformed task
  obtain ⟨killing, killed⟩ := harmless.exists_ok
  unfold startKill
  rw [bind_of_ok killed]
  cases killing with
  | refused error =>
      exact absurd killed
        (not_refused_of_present wellformed alive.present elsewhere)
  | needless => exact absurd alive (not_alive_of_needless wellformed killed)
  | begun joiners body next => exact ⟨_, body, next, rfl, rfl, rfl⟩

theorem startStop_eq (handled : kernel.handlers.get? event = some task) :
    kernel.startStop event = kernel.startKill task := by
  unfold startStop
  rw [handled]

/-- An event that somebody has just tried to abandon is not enabled. -/
private theorem not_isEnabled_of_settle {verdict : Bool}
    (settles : kernel.settle (.abandon event) = (verdict, next)) :
    next.events.isEnabled event = false := by
  cases verdict with
  | true =>
      have abandoned := Events.abandoned_of_abandon (exists_abandon settles)
      unfold Events.isEnabled
      rw [abandoned]
  | false =>
      unfold settle at settles
      dsimp only at settles
      split at settles
      · next events refused =>
          cases settles
          unfold Events.abandon at refused
          split at refused
          · cases refused
          · next disabled => simpa using disabled
      · cases settles

end Kernel

namespace Machine

variable [Application S]

inductive AsksStop (machine : Machine S) (event : EventHandle) : Move S → Prop
  | called (idle : machine.control.isIdle = true) :
      AsksStop machine event (.call (.stopHandler event))
  | asked {role : Role}
      {rest : Except Error Bool → Program S (role.Result S)}
      (control : machine.control =
        .body role (.ask (.stopHandler event) rest)) :
      AsksStop machine event .step

variable {machine : Machine S} {move : Move S} {event : EventHandle}
  {task : TaskHandle}

/-- To stop a handler that is not running is to begin its close. -/
theorem AsksStop.exists_begun (asks : machine.AsksStop event move)
    (steady : machine.Steady)
    (handled : machine.kernel.handlers.get? event = some task)
    (alive : machine.kernel.roster.Alive task)
    (elsewhere : machine.kernel.running ≠ some task) :
    ∃ closing, closing.task = task ∧ closing.errand = .kill ∧
      (machine.move move).closings = closing :: machine.closings := by
  have wellformed := steady.placed.wellformed
  obtain ⟨closing, body, next, same, errand, started⟩ :=
    Kernel.exists_startKill wellformed alive elsewhere
  rw [← Kernel.startStop_eq handled] at started
  refine ⟨closing, same, errand, ?_⟩
  cases asks with
  | called idle =>
      have moved : machine.move (.call (.stopHandler event)) =
          ofStarted machine.toScheduler (machine.kernel.startStop event) :=
        if_pos idle
      rw [moved, started, closings_of_idle steady idle]
      rfl
  | @asked role rest control =>
      rw [move_of_underway control started, closings_of_body control]
      unfold Machine.close
      cases role <;> rfl

/-- Whoever abandons the event that it handles leaves it disabled. -/
theorem Resigns.not_isEnabled (resigns : machine.Resigns event task move)
    (wellformed : machine.kernel.Wellformed) :
    (machine.move move).kernel.events.isEnabled event = false := by
  obtain ⟨rfl, ⟨role, rest, control⟩, handles, running⟩ := resigns
  obtain ⟨verdict, next, done, _⟩ :=
    (Kernel.spares_of_running running).abandon role.task handles
  rw [move_of_answered control done]
  have started : machine.kernel.startErrand event (.abandon event) =
      .ok (.answered verdict next) := done
  obtain ⟨middle, _, _, settles⟩ :=
    (Kernel.startErrand_answered wellformed started).exists_settle
  exact Kernel.not_isEnabled_of_settle settles

end Machine

/-! ### Who is found -/

namespace Run

variable [Application S] {run : Run S} {count : Nat} {event : EventHandle}
  {task : TaskHandle}

/-- A handler of an event that is enabled is registered. -/
theorem Handles.handler (handles : run.Handles event task count)
    (enabled : (run.after count).kernel.events.isEnabled event = true) :
    (run.after count).kernel.handlers.get? event = some task := by
  induction handles with
  | now started alive => exact started.handler (run.wellformed _)
  | @still count before unclaimed alive ih =>
      have enabledBefore :
          (run.after count).kernel.events.isEnabled event = true := by
        by_contra disabled
        exact unclaimed (claims_of_isEnabled enabled disabled)
      have stays :
          ¬ (run.after count).Resigns event task (run.moves count) := by
        intro resigns
        have disabled : (run.after (count + 1)).kernel.events.isEnabled event =
            false := resigns.not_isEnabled (run.wellformed count)
        rw [disabled] at enabled
        cases enabled
      rcases Registered.succ (Or.inl (ih enabledBefore)) before.alive
        ((run.isAlive_iff (count + 1)).mp alive) unclaimed stays with
        registered | free
      · exact registered
      · rw [Events.isClaimed_of_isEnabled enabled] at free
        cases free

/-- The death of the handler leaves nobody under the event. -/
theorem handler_eq_none_of_died (handles : run.Handles event task count)
    (enabled : (run.after count).kernel.events.isEnabled event = true)
    (died : (run.after (count + 1)).kernel.isAlive task = false) :
    (run.after (count + 1)).kernel.handlers.get? event = none := by
  refine Option.eq_none_iff_forall_ne_some.mpr fun successor handled => ?_
  have registered := handles.handler enabled
  rcases (run.accounted count).get?_handlers handled with already | accounts
  · cases registered.symm.trans already
    rw [isAlive_of_handled handled] at died
    cases died
  · -- Nobody is started to handle an event that has a handler.
    obtain ⟨middle, change, _⟩ := (accounts.starts rfl).exists_change
      (run.wellformed count) rfl
    cases change with
    | handle unhandled =>
        rw [registered] at unhandled
        cases unhandled

/-- Whoever is found where nobody was found before was started to handle the
event since. -/
theorem exists_started_of_handled {first : Nat} (later : first ≤ count)
    (nobody : (run.after first).kernel.handlers.get? event = none)
    (handled : (run.after count).kernel.handlers.get? event = some task) :
    ∃ start, first ≤ start ∧ start < count ∧
      (run.after start).Does (.handles event task) (run.moves start) := by
  induction count, later using Nat.le_induction with
  | base =>
      rw [nobody] at handled
      cases handled
  | succ count later ih =>
      rcases (run.accounted count).get?_handlers handled with already | accounts
      · obtain ⟨start, since, early, does⟩ := ih already
        exact ⟨start, since, Nat.lt_succ_of_lt early, does⟩
      · exact ⟨count, later, Nat.lt_succ_self count, accounts.starts rfl⟩

/-! ### Stops that return -/

/-- A stop of the handler of an event that was asked for in move `first` returned
before move `last`: it was answered at once, or a close ran and what is being
closed is what was being closed before. -/
inductive Stops (run : Run S) (event : EventHandle) (first : Nat) :
    Nat → Except Error Bool → Prop
  | called {answer : Except Error Bool}
      (calls : run.moves first = .call (.stopHandler event))
      (idle : (run.after first).control.isIdle = true)
      (answered : (run.after (first + 1)).control =
        .concluded (.answered answer)) :
      Stops run event first (first + 1) answer
  | asked {role : Role} {rest : Except Error Bool → Program S (role.Result S)}
      {answer : Except Error Bool} {kernel : Kernel S}
      (steps : run.moves first = .step)
      (control : (run.after first).control =
        .body role (.ask (.stopHandler event) rest))
      (answered : (run.after first).kernel.perform role.task
        (.stopHandler event) = .ok (.answered answer kernel)) :
      Stops run event first (first + 1) answer
  | closed {last : Nat} {verdict : Bool} (later : first + 1 < last)
      (asks : (run.after first).AsksStop event (run.moves first))
      (inside : ∀ between, first < between → between < last →
        (run.after first).closings.length <
          (run.after between).closings.length)
      (closings : (run.after last).closings = (run.after first).closings)
      (answered : (run.after last).control = .verdict verdict) :
      Stops run event first last (.ok verdict)

variable {first last : Nat} {answer : Except Error Bool} {closing : Closing}

theorem Stops.asks (stops : run.Stops event first last answer) :
    (run.after first).AsksStop event (run.moves first) := by
  cases stops with
  | called calls idle => exact calls ▸ .called idle
  | asked steps control => exact steps ▸ .asked control
  | closed _ asks => exact asks

/-- A close that has begun comes to its end, if steps are taken again and again,
and what was being closed before is being closed after it. -/
theorem exists_closed (proceeds : run.Proceeds)
    (begins : (run.after (first + 1)).closings =
      closing :: (run.after first).closings) :
    ∃ last, (run.after last).control = .faulted .queueOverflow ∨
      first + 1 < last ∧
        (∀ between, first < between → between < last →
          (run.after first).closings.length <
            (run.after between).closings.length) ∧
        (run.after last).closings = (run.after first).closings ∧
        ∃ verdict, (run.after last).control = .verdict verdict := by
  obtain ⟨calm, later, faulted | ⟨_, nothing⟩⟩ :=
    exists_calm proceeds (first + 1)
  · exact ⟨calm, Or.inl faulted⟩
  have left : ∃ last, first < last ∧ (run.after last).closings.length ≤
      (run.after first).closings.length :=
    ⟨calm, later, by rw [nothing]; exact Nat.zero_le _⟩
  classical
  -- The close is over when for the first time no more is being closed than
  -- before it.
  obtain ⟨last, ⟨since, shallow⟩, inside⟩ : ∃ last,
      (first < last ∧ (run.after last).closings.length ≤
        (run.after first).closings.length) ∧
      ∀ between, first < between → between < last →
        (run.after first).closings.length <
          (run.after between).closings.length := by
    refine ⟨Nat.find left, Nat.find_spec left, fun between since early => ?_⟩
    have deeper := Nat.find_min left early
    exact Nat.lt_of_not_le fun shallow => deeper ⟨since, shallow⟩
  obtain ⟨returned, rfl⟩ := Nat.exists_eq_add_one_of_ne_zero
    (Nat.ne_zero_of_lt since)
  have opened : first ≠ returned := by
    rintro rfl
    rw [begins, List.length_cons] at shallow
    omega
  have before : first < returned := by omega
  have outer := suffix_closings begins (fun between since early =>
    inside between since (Nat.lt_succ_of_le early)) before
  have fewer := outer.length_le
  rw [List.length_cons] at fewer
  cases run.nests returned with
  | begins _ _ closings =>
      rw [closings, List.length_cons] at shallow
      omega
  | @ends ended verdict _ _ _ answers closings =>
      rw [closings] at outer fewer
      have same := outer.eq_of_length (by
        rw [List.length_cons] at fewer
        rw [List.length_cons, List.length_cons]
        omega)
      exact ⟨returned + 1, Or.inr ⟨by omega, inside,
        (List.cons.inj same).2.symm, verdict, answers⟩⟩
  | keeps same =>
      rw [same] at shallow
      omega
  | fails faulted => exact ⟨returned + 1, Or.inl (control_of_isFaulted faulted)⟩

/-- Where the stop of a handler is answered without a close, that is all there is
to it. -/
theorem Stops.of_answered {known : Except Error Bool} {kernel : Kernel S}
    (stops : run.Stops event first last answer)
    (started : (run.after first).kernel.startStop event =
      .ok (.answered known kernel)) :
    last = first + 1 ∧ answer = known ∧ (run.after last).kernel = kernel ∧
      (run.after last).closings = (run.after first).closings := by
  have called (calls : run.moves first = .call (.stopHandler event))
      (idle : (run.after first).control.isIdle = true) :
      run.after (first + 1) = Machine.ofStarted (run.after first).toScheduler
        (.ok (.answered known kernel)) := by
    rw [← started]
    exact (after_succ calls).trans (if_pos idle)
  have asked {role : Role}
      {rest : Except Error Bool → Program S (role.Result S)}
      (steps : run.moves first = .step)
      (control : (run.after first).control =
        .body role (.ask (.stopHandler event) rest)) :
      run.after (first + 1) = { run.after first with
        kernel
        control := .body role (rest known) } :=
    (after_succ steps).trans (Machine.move_of_answered control started)
  cases stops with
  | called calls idle answered =>
      rw [called calls idle] at answered ⊢
      cases answered
      exact ⟨rfl, rfl, rfl,
        (Machine.closings_of_idle (run.steady first) idle).symm⟩
  | asked steps control answered =>
      cases answered.symm.trans started
      rw [asked steps control]
      exact ⟨rfl, rfl, rfl, (Machine.closings_of_body control).symm⟩
  | closed later asks inside =>
      have deeper := inside (first + 1) (Nat.lt_succ_self first) later
      generalize moves : run.moves first = move at asks
      cases asks with
      | called idle =>
          rw [called moves idle] at deeper
          exact absurd deeper (Nat.not_lt_zero _)
      | asked control =>
          rw [asked moves control, Machine.closings_of_body control] at deeper
          exact absurd deeper (Nat.lt_irrefl _)

/-- To stop a handler that is not running is to kill it. -/
theorem Stops.killedFrom (stops : run.Stops event first last answer)
    (handled : (run.after first).kernel.handlers.get? event = some task)
    (elsewhere : (run.after first).kernel.running ≠ some task) :
    answer = .ok true ∧ run.KilledFrom task first last := by
  have alive := (run.isAlive_iff first).mp (isAlive_of_handled handled)
  obtain ⟨closing, rfl, errand, begins⟩ :=
    stops.asks.exists_begun (run.steady first) handled alive elsewhere
  have longer := congrArg List.length begins
  rw [List.length_cons] at longer
  change (run.after (first + 1)).closings.length = _ at longer
  cases stops with
  | called calls idle answered =>
      have base : (run.after (first + 1)).control.isBase = true := by
        rw [answered]
        rfl
      rw [(run.steady (first + 1)).closings_eq_nil base] at longer
      cases longer
  | asked steps control answered =>
      have moved := (after_succ steps).trans
        (Machine.move_of_answered control answered)
      rw [moved, Machine.closings_of_body control] at longer
      exact absurd longer (Nat.ne_of_lt (Nat.lt_succ_self _))
  | closed later _ inside closings answered =>
      obtain ⟨rfl, killed⟩ :=
        killedFrom_of_begun later begins errand inside closings answered
      exact ⟨rfl, killed⟩

/-- Who asks to stop a handler that is running is refused at once. -/
private theorem refused_of_running
    (handled : (run.after count).kernel.handlers.get? event = some task)
    (running : (run.after count).kernel.running = some task)
    (asks : (run.after count).AsksStop event (run.moves count)) :
    run.Stops event count (count + 1) (.error .selfKill) ∧
      (run.after (count + 1)).kernel = (run.after count).kernel := by
  have refused : (run.after count).kernel.startStop event =
      .ok (.answered (.error .selfKill) (run.after count).kernel) :=
    (Kernel.spares_of_running running).stopHandler task handled
  suffices stops : run.Stops event count (count + 1) (.error .selfKill) by
    obtain ⟨_, _, kernel, _⟩ := stops.of_answered refused
    exact ⟨stops, kernel⟩
  generalize moves : run.moves count = move at asks
  cases asks with
  | called idle =>
      have launched : run.after (count + 1) =
          Machine.ofStarted (run.after count).toScheduler
            ((run.after count).kernel.startStop event) :=
        (after_succ moves).trans (if_pos idle)
      rw [refused] at launched
      exact .called moves idle (by rw [launched]; rfl)
  | asked control => exact .asked moves control refused

/-! ### One handler at a time -/

end Run

/-- What is answered to those who ask for the handler of an event, or for another
one. -/
structure Machine.Occupied [Application S] (machine : Machine S)
    (event : EventHandle) (task : TaskHandle) : Prop where
  handler : machine.toScheduler.handler event = some task
  asked (current : TaskHandle) : machine.kernel.perform current
    (.handler event) = .ok (.answered (some task) machine.kernel)
  operate (body : S.Body) (name : Option String) :
    machine.operate (.handle event body name) =
      .ok (.error .alreadyHandled, machine.toScheduler)
  perform (current : TaskHandle) (body : S.Body) : machine.kernel.perform current
    (.handle event body) = .ok (.answered (.error .alreadyHandled) machine.kernel)

/-- Somebody who asks for a handler of the event would be told that there is one
already. -/
inductive Machine.TurnsAway [Application S] (machine : Machine S)
    (event : EventHandle) : Prop
  | operation {body : S.Body} {name : Option String} {scheduler : Scheduler S}
      (done : machine.operate (.handle event body name) =
        .ok (.error .alreadyHandled, scheduler))
  | request {current : TaskHandle} {body : S.Body} {kernel : Kernel S}
      (done : machine.kernel.perform current (.handle event body) =
        .ok (.answered (.error .alreadyHandled) kernel))

namespace Machine

variable [Application S] {machine : Machine S} {event : EventHandle}
  {task : TaskHandle}

theorem occupied_of_handled
    (enabled : machine.kernel.events.isEnabled event = true)
    (handled : machine.kernel.handlers.get? event = some task) :
    machine.Occupied event task := by
  constructor
  case handler => exact handled
  case asked =>
    intro current
    change Except.ok (Started.answered (machine.kernel.handlers.get? event)
      machine.kernel) = _
    rw [handled]
  case operate =>
    intro body name
    unfold Scheduler.operate Scheduler.handle
    dsimp only
    rw [Kernel.handle_of_handled enabled handled]
    rfl
  case perform =>
    intro current body
    unfold Kernel.perform
    dsimp only
    rw [Kernel.handle_of_handled enabled handled]
    rfl

theorem TurnsAway.exists_handler (turns : machine.TurnsAway event) :
    ∃ task, machine.kernel.handlers.get? event = some task := by
  cases turns with
  | operation done =>
      obtain ⟨⟨answer, kernel⟩, handled, ended⟩ := exists_ok_of_bind done
      cases ended
      exact Kernel.exists_handler_of_refused handled
  | request done =>
      obtain ⟨⟨answer, kernel⟩, handled, ended⟩ := exists_ok_of_bind done
      cases ended
      exact Kernel.exists_handler_of_refused handled

end Machine

namespace Run

variable [Application S]

/-- What is true of the handlers of an enabled event, seen from move `count` of a
run. -/
structure HandlesAlone (run : Run S) (count : Nat) : Prop where
  /-- At most one live task was started to handle an event since the event was
  claimed. -/
  single {event : EventHandle} {task other : TaskHandle} :
    (run.after count).kernel.events.isEnabled event = true →
      run.Handles event task count → run.Handles event other count → task = other
  /-- It is what everybody is told, and no other handler is accepted. -/
  occupied {event : EventHandle} {task : TaskHandle} :
    (run.after count).kernel.events.isEnabled event = true →
      run.Handles event task count → (run.after count).Occupied event task
  /-- Whoever asks to stop it while it is not running kills it, and gets an answer
  unless the queue of pending events overflows. -/
  stops {event : EventHandle} {task : TaskHandle} :
    (run.after count).kernel.events.isEnabled event = true →
      run.Handles event task count →
      (run.after count).AsksStop event (run.moves count) →
      (run.after count).kernel.running ≠ some task →
        (∃ closing, run.begun? count = some closing ∧ closing.task = task) ∧
        (run.after (count + 1)).state task = .ok (.dead .cancelled) ∧
        (run.Proceeds → ∃ last,
          (run.after last).control = .faulted .queueOverflow ∨
            run.Stops event count last (.ok true))
  /-- No other answer is given. -/
  stopped {event : EventHandle} {task : TaskHandle} {last : Nat}
      {answer : Except Error Bool} :
    (run.after count).kernel.events.isEnabled event = true →
      run.Handles event task count → run.Stops event count last answer →
      (run.after count).kernel.running ≠ some task →
        answer = .ok true ∧ run.KilledFrom task count last
  /-- Whoever asks to stop it while it is running is refused at once, and the
  kernel stays as it is. -/
  refuses {event : EventHandle} {task : TaskHandle} :
    (run.after count).kernel.events.isEnabled event = true →
      run.Handles event task count →
      (run.after count).kernel.running = some task →
        (∀ current, (run.after count).kernel.perform current
          (.stopHandler event) =
            .ok (.answered (.error .selfKill) (run.after count).kernel)) ∧
        ((run.after count).AsksStop event (run.moves count) →
          run.Stops event count (count + 1) (.error .selfKill) ∧
            (run.after (count + 1)).kernel = (run.after count).kernel)
  /-- The running task is not stopped, whoever asks for it. -/
  spares {event : EventHandle} {task : TaskHandle} {last : Nat}
      {answer : Except Error Bool} :
    (run.after count).kernel.events.isEnabled event = true →
      run.Handles event task count → run.Stops event count last answer →
      (run.after count).kernel.running = some task →
        answer = .error .selfKill ∧ run.KillsNobody task count last answer
  /-- When the handler dies of anything, its place is free at once.  Who is told
  later on that there is a handler has to do with one that was started since. -/
  renews {event : EventHandle} {task : TaskHandle} {last : Nat} :
    (run.after count).kernel.events.isEnabled event = true →
      run.Handles event task count →
      (run.after (count + 1)).kernel.isAlive task = false →
      count < last → (run.after last).TurnsAway event →
        ∃ successor start, count < start ∧ start < last ∧
          (run.after start).Does (.handles event successor) (run.moves start) ∧
          (run.after last).kernel.isAlive successor = true

/-- An event has at most one handler at a time. -/
theorem handlesAlone (run : Run S) (count : Nat) : run.HandlesAlone count := by
  constructor
  case single =>
    intro event task other enabled handles handlesToo
    exact Option.some.inj
      ((handles.handler enabled).symm.trans (handlesToo.handler enabled))
  case occupied =>
    intro event task enabled handles
    exact Machine.occupied_of_handled enabled (handles.handler enabled)
  case stops =>
    intro event task enabled handles asks elsewhere
    obtain ⟨closing, rfl, errand, begins⟩ := asks.exists_begun
      (run.steady count) (handles.handler enabled) handles.alive elsewhere
    have dead : (run.after (count + 1)).kernel.roster.stateOf closing.task =
        some (.dead .cancelled) := by
      apply dead_of_mem_closings
      rw [show (run.after (count + 1)).closings = _ from begins]
      exact List.mem_cons_self
    refine ⟨⟨closing, begun?_eq_some_iff.mpr begins, rfl⟩,
      (run.state_eq_ok_iff _).mpr dead, fun proceeds => ?_⟩
    obtain ⟨last, faulted | ⟨later, inside, closings, verdict, answered⟩⟩ :=
      exists_closed proceeds begins
    · exact ⟨last, Or.inl faulted⟩
    · obtain ⟨rfl, _⟩ :=
        killedFrom_of_begun later begins errand inside closings answered
      exact ⟨last, Or.inr (.closed later asks inside closings answered)⟩
  case stopped =>
    intro event task last answer enabled handles stops elsewhere
    exact stops.killedFrom (handles.handler enabled) elsewhere
  case refuses =>
    intro event task enabled handles running
    have handled := handles.handler enabled
    exact ⟨fun current =>
        (Kernel.spares_of_running running).stopHandler current handled,
      refused_of_running handled running⟩
  case spares =>
    intro event task last answer enabled handles stops running
    have refused : (run.after count).kernel.startStop event =
        .ok (.answered (.error .selfKill) (run.after count).kernel) :=
      (Kernel.spares_of_running running).stopHandler task
        (handles.handler enabled)
    obtain ⟨rfl, rfl, kernel, closings⟩ := stops.of_answered refused
    exact ⟨rfl, rfl, nofun, kernel, closings⟩
  case renews =>
    intro event task last enabled handles died later turns
    obtain ⟨successor, handled⟩ := turns.exists_handler
    obtain ⟨start, since, early, does⟩ := exists_started_of_handled later
      (handler_eq_none_of_died handles enabled died) handled
    exact ⟨successor, start, since, early, does, isAlive_of_handled handled⟩

end Run

end EventScheduler
