import EventScheduler.Proofs.Kernel.Lines
import EventScheduler.Proofs.Scheduler.Placement

/-!
# What moves do to the kernel

Every move changes the kernel through a sequence of changes.  Tasks start and
events are claimed only where an operation or a request is answered so, a handler
gives up its event only by an errand of its own, slices begin and end only where
nothing is being closed, and a task dies only at the end of its slice or where a
close of it begins.
-/

namespace EventScheduler

variable {S : Signature}

/-! ### What is being closed -/

def Role.closing? : Role → Option Closing
  | .slice _ => none
  | .close closing => some closing

def Control.closings : Control S → List Closing
  | .body role _ => role.closing?.toList
  | _ => []

theorem Control.closings_of_isBase {control : Control S}
    (base : control.isBase = true) : control.closings = [] := by
  cases control with
  | body role program =>
      cases role with
      | slice task => rfl
      | close closing => cases base
  | _ => rfl

def Caller.closing? : Caller S → Option Closing
  | .body role _ => role.closing?
  | .sweep _ _ => none

namespace Machine

/-- The kills whose closes are running, innermost first. -/
def closings (machine : Machine S) : List Closing :=
  machine.control.closings ++ machine.callers.filterMap Caller.closing?

theorem Steady.closings_eq_nil {machine : Machine S} (steady : machine.Steady)
    (base : machine.control.isBase = true) : machine.closings = [] := by
  unfold closings
  rw [Control.closings_of_isBase base, steady.base base]
  rfl

variable {machine next : Machine S} {move : Move S}

theorem closings_of_body {role : Role}
    {program : Program S (role.Result S)}
    (control : machine.control = .body role program) :
    machine.closings =
      role.closing?.toList ++ machine.callers.filterMap Caller.closing? := by
  unfold closings
  rw [control]
  rfl

theorem closings_of_control {known : Control S}
    (control : machine.control = known) (nothing : known.closings = []) :
    machine.closings = machine.callers.filterMap Caller.closing? := by
  unfold closings
  rw [control, nothing]
  rfl

private theorem closings_of_calls (steady : machine.Steady) {closing : Closing}
    (idle : machine.control.isIdle = true) :
    [closing] = closing :: machine.closings := by
  rw [steady.closings_eq_nil (Control.idle_cases idle).1]

private theorem closings_of_kills {role : Role} {closing : Closing}
    {program : Program S (role.Result S)}
    {rest : Bool → Program S (role.Result S)}
    (control : machine.control = .body role program) :
    closing :: (Caller.body role rest :: machine.callers).filterMap
      Caller.closing? = closing :: machine.closings := by
  rw [closings_of_body control]
  cases role with
  | slice task => rfl
  | close outer => rfl

variable [Application S]

/-- How a move changes what is being closed: a close begins inside all others,
the innermost one ends, or all of them go on.  After a fault nothing goes on. -/
inductive Nests (machine next : Machine S) : Prop
  | begins {closing : Closing} {body : Option S.Body}
      (begins : machine.BeginsClose closing body next.kernel)
      (control : next.control = .body (.close closing) (closeProgram body))
      (closings : next.closings = closing :: machine.closings)
  | ends {closing : Closing} {verdict : Bool} {middle : Kernel S}
      (control : machine.control = .body (.close closing) (.pure ()))
      (settles : middle.settle closing.errand = (verdict, next.kernel))
      (answers : next.control = .verdict verdict)
      (closings : machine.closings = closing :: next.closings)
  | keeps (closings : next.closings = machine.closings)
  | fails (faulted : next.control.isFaulted = true)
      (closings : next.closings <:+ machine.closings)

private theorem nests_of_base (steady : machine.Steady)
    (base : machine.control.isBase = true) (after : next.closings = []) :
    machine.Nests next :=
  .keeps (after.trans (steady.closings_eq_nil base).symm)

theorem Transition.nests (transition : Transition machine move next)
    (steady : machine.Steady) : machine.Nests next := by
  cases transition with
  | still | outside | operates => exact .keeps rfl
  | faults fault failed =>
      exact .fails rfl (List.suffix_append machine.control.closings _)
  | faultsCall idle fault => exact .fails rfl List.nil_suffix
  | callsRun idle | callsNothing idle | callsErrand idle =>
      exact nests_of_base steady (Control.idle_cases idle).1 rfl
  | callsClose body idle begins =>
      exact .begins begins rfl (closings_of_calls steady idle)
  | ends control | dispatches control | drains control | idles control
  | wakes control | stalls control | picksNothing control
  | picks body control | concludes control | swept control
  | passes control => exact .keeps (closings_of_control control rfl).symm
  | answers control done evolves =>
      exact .keeps (closings_of_body control).symm
  | kills body control begins =>
      exact .begins begins rfl (closings_of_kills control)
  | endsSlice control ends applied =>
      rename_i value _
      refine .keeps (Eq.trans ?_ (closings_of_body control).symm)
      cases value with
      | none => rfl
      | some value => rfl
  | endsClose control wakes settles =>
      exact .ends control settles rfl (closings_of_body control)
  | returns control waiting =>
      rename_i role _ _
      have before := closings_of_control control rfl
      rw [waiting] at before
      refine .keeps (Eq.trans ?_ before.symm)
      cases role with
      | slice task => rfl
      | close outer => rfl
  | sweepsOn control waiting =>
      have before := closings_of_control control rfl
      rw [waiting] at before
      exact .keeps before.symm
  | sweeps body control begins =>
      exact .begins begins rfl
        (congrArg (_ :: ·) (closings_of_control control rfl).symm)

/-- A move goes on with what is being closed, or begins to close a task. -/
theorem Transition.mem_closings {closing : Closing}
    (transition : Transition machine move next) (steady : machine.Steady)
    (inside : closing ∈ next.closings) :
    closing ∈ machine.closings ∨
      ∃ body, machine.BeginsClose closing body next.kernel := by
  cases transition.nests steady with
  | begins begins control closings =>
      rw [closings] at inside
      rcases List.mem_cons.mp inside with rfl | already
      · exact Or.inr ⟨_, begins⟩
      · exact Or.inl already
  | ends control settles answers closings =>
      rw [closings]
      exact Or.inl (List.mem_cons_of_mem _ inside)
  | keeps closings => exact Or.inl (closings ▸ inside)
  | fails faulted closings => exact Or.inl (closings.subset inside)

end Machine

/-! ### Which operations and requests start tasks -/

section Inversion

variable {current task : TaskHandle} {event : EventHandle}
  {request : Request S} {reply : request.Reply} {operation : Operation S}
  {answer : operation.Answer}

theorem Request.May.eq_start
    (comes : request.May current reply (.starts task)) :
    ∃ body name, request = .start body name ∧
      HEq reply (Except.ok task : Except Error TaskHandle) := by
  cases request with
  | start body name =>
      rcases comes with impossible | ⟨known, started, same⟩
      · cases impossible
      · cases same
        exact ⟨body, name, rfl, heq_of_eq started⟩
  | _ => simp [Request.May, Deed.Wakes, Deed.Waits, Deed.Settles] at comes

theorem Request.May.eq_handle
    (comes : request.May current reply (.handles event task)) :
    ∃ body, request = .handle event body ∧
      HEq reply (Except.ok task : Except Error TaskHandle) := by
  cases request with
  | handle other body =>
      rcases comes with impossible | ⟨_, impossible⟩ | ⟨known, started, same⟩
      · cases impossible
      · cases impossible
      · cases same
        exact ⟨body, rfl, heq_of_eq started⟩
  | _ => simp [Request.May, Deed.Wakes, Deed.Waits, Deed.Settles] at comes

theorem Operation.May.eq_start (comes : operation.May answer (.starts task)) :
    ∃ body name, operation = .start body name ∧
      HEq answer (Except.ok task : Except Error TaskHandle) := by
  cases operation with
  | start body name =>
      rcases comes with impossible | ⟨known, started, same⟩
      · cases impossible
      · cases same
        exact ⟨body, name, rfl, heq_of_eq started⟩
  | _ => simp [Operation.May, Deed.Wakes] at comes

theorem Operation.May.eq_handle
    (comes : operation.May answer (.handles event task)) :
    ∃ body name, operation = .handle event body name ∧
      HEq answer (Except.ok task : Except Error TaskHandle) := by
  cases operation with
  | handle other body name =>
      rcases comes with impossible | ⟨_, impossible⟩ | ⟨known, started, same⟩
      · cases impossible
      · cases impossible
      · cases same
        exact ⟨body, name, rfl, heq_of_eq started⟩
  | _ => simp [Operation.May, Deed.Wakes] at comes

theorem Operation.May.eq_reap (comes : operation.May answer (.reaps task)) :
    operation = .reap task := by
  cases operation with
  | reap known =>
      cases comes
      rfl
  | _ => simp [Operation.May, Deed.Wakes] at comes

end Inversion

/-! ### What accounts for a change -/

namespace Deed

/-- The loop goes from one task to another. -/
def turns : Deed → Bool
  | .begins _ | .ends _ => true
  | deed => deed.isOfTurn

/-- Nothing starts or dies, nothing is claimed, no slot is freed, no handler
gives up its event, and the loop does not go from one task to another. -/
def isPlain : Deed → Bool
  | .starts _ | .handles _ _ | .dies _ | .claims _ | .reaps _ | .spoils _
  | .resigns _ _ | .begins _ | .ends _ | .promotes | .requeues _ | .pops _
  | .parks _ => false
  | _ => true

variable {deed : Deed}

theorem isOfTurn_of_turns (calm : deed.turns = false) :
    deed.isOfTurn = false := by
  cases deed with
  | begins | ends => rfl
  | _ => exact calm

theorem Outside.isPlain (fits : deed.Outside) : deed.isPlain = true := by
  rcases fits with rfl | ⟨event, rfl | rfl⟩ <;> rfl

theorem Wakes.isPlain (fits : deed.Wakes) : deed.isPlain = true := by
  obtain ⟨task, rfl⟩ := fits
  rfl

theorem Drains.isPlain (fits : deed.Drains) : deed.isPlain = true := by
  rcases fits with rfl | rfl | fits
  · rfl
  · rfl
  · exact fits.isPlain

theorem Idles.isPlain (fits : deed.Idles) : deed.isPlain = true := by
  rcases fits with fits | rfl
  · exact fits.isPlain
  · rfl

theorem Settles.isPlain {errand : Errand} (fits : deed.Settles errand) :
    deed.isPlain = true := by
  cases errand with
  | kill => exact fits.elim
  | release event => rcases fits with rfl | rfl <;> rfl
  | abandon event =>
      cases fits
      rfl

end Deed

def Control.turns : Control S → Bool
  | .pick | .body (.slice _) (.pure _) => true
  | _ => false

theorem Control.isBase_of_turns {control : Control S}
    (turns : control.turns = true) : control.isBase = true := by
  cases control with
  | pick => rfl
  | body role program =>
      cases role with
      | slice task => rfl
      | close closing => cases turns
  | _ => cases turns

private theorem Kernel.exists_of_answerClaim {kernel next : Kernel S}
    {claimed : Except Error (EventHandle × Events)} {event : EventHandle}
    (done : kernel.answerClaim claimed = .ok (.answered (.ok event) next)) :
    ∃ events, claimed = .ok (event, events) ∧
      next = { kernel with events } := by
  cases claimed with
  | error error => cases done
  | ok result =>
      cases done
      exact ⟨result.2, rfl, rfl⟩

/-- An event whose release came to an end is not claimed. -/
theorem Kernel.not_isClaimed_of_settle [Environment S.World]
    {kernel next : Kernel S} {event : EventHandle} {verdict : Bool}
    (settles : kernel.settle (.release event) = (verdict, next)) :
    next.events.isClaimed event = false := by
  unfold settle at settles
  dsimp only at settles
  split at settles
  · next events refused =>
      cases settles
      unfold Events.release at refused
      split at refused
      · cases refused
      · next unclaimed => simpa using unclaimed
  · next events released =>
      have free := Events.not_isClaimed_of_release released
      split at settles <;> cases settles <;> exact free

/-- Only a shutdown leaves a value. -/
theorem Scheduler.Applied.value_eq {scheduler after : Scheduler S}
    {task : TaskHandle} {step : S.Step} {value : Option S.Output}
    (applied : scheduler.Applied task step value after) :
    value = step.value? := by
  cases applied with
  | yields => rfl
  | parks change goesOn =>
      cases step with
      | shutdown value => cases goesOn
      | _ => rfl
  | ends before dies wakes left exits retires resumed reported => exact reported

/-- A task whose slice ends with an exit is dead with it. -/
theorem Scheduler.Applied.stateOf_dead {scheduler after : Scheduler S}
    {task : TaskHandle} {step : S.Step} {value : Option S.Output} {exit : S.Exit}
    (applied : scheduler.Applied task step value after)
    (wellformed : scheduler.kernel.Wellformed)
    (exits : step.exit? = some exit) :
    after.kernel.roster.stateOf task = some (.dead exit) := by
  cases applied with
  | yields => cases exits
  | parks change goesOn => cases goesOn.symm.trans exits
  | ends before dies wakes left known retires resumed reported =>
      cases known.symm.trans exits
      refine wakes.stateOf_dead ?_ (fun impossible => ?_) retires.stateOf
      · exact dies.evolves.wellformed (before.wellformed wellformed)
      · cases impossible.choose_spec

namespace Machine

variable [Application S]

/-- The move carries out an operation or answers a request, and that comes to
the deed. -/
inductive Does (machine : Machine S) (deed : Deed) : Move S → Prop
  | operation {operation : Operation S} {answer : operation.Answer}
      {scheduler : Scheduler S} (idle : machine.control.isIdle = true)
      (done : machine.operate operation = .ok (answer, scheduler))
      (comes : operation.May answer deed) :
      Does machine deed (.operate operation)
  | request {role : Role} {request : Request S} {reply : request.Reply}
      {rest : request.Reply → Program S (role.Result S)} {kernel : Kernel S}
      (control : machine.control = .body role (.ask request rest))
      (done : machine.kernel.perform role.task request =
        .ok (.answered reply kernel))
      (comes : request.May role.task reply deed) :
      Does machine deed .step

section Does

variable {machine : Machine S} {move : Move S} {deed : Deed}
  {event : EventHandle} {task : TaskHandle}

theorem move_of_operated {operation : Operation S} {answer : operation.Answer}
    {scheduler : Scheduler S} (idle : machine.control.isIdle = true)
    (done : machine.operate operation = .ok (answer, scheduler)) :
    machine.move (.operate operation) =
      { machine with toScheduler := scheduler } := by
  unfold Machine.move
  dsimp only
  rw [if_pos idle, done]

theorem move_of_answered {role : Role}
    {request : Request S} {reply : request.Reply}
    {rest : request.Reply → Program S (role.Result S)} {kernel : Kernel S}
    (control : machine.control = .body role (.ask request rest))
    (done : machine.kernel.perform role.task request =
      .ok (.answered reply kernel)) :
    machine.move .step =
      { machine with kernel, control := .body role (rest reply) } := by
  apply move_step_of_ok
  rw [advance_of_body control]
  exact bind_of_ok done _

theorem move_of_underway {role : Role} {request : Request S}
    {reply : Bool → request.Reply}
    {rest : request.Reply → Program S (role.Result S)} {closing : Closing}
    {body : Option S.Body} {kernel : Kernel S}
    (control : machine.control = .body role (.ask request rest))
    (done : machine.kernel.perform role.task request =
      .ok (.underway closing body reply kernel)) :
    machine.move .step = machine.close closing body kernel
      (.body role (fun verdict => rest (reply verdict)) :: machine.callers) := by
  apply move_step_of_ok
  rw [advance_of_body control]
  exact bind_of_ok done _

/-- A close that has run is followed by what is left of its kill. -/
theorem move_of_closed {closing : Closing} {verdict : Bool} {kernel : Kernel S}
    (control : machine.control = .body (.close closing) (.pure ()))
    (done : machine.kernel.complete closing = .ok (verdict, kernel)) :
    machine.move .step =
      { machine with kernel, control := .verdict verdict } := by
  apply move_step_of_ok
  rw [advance_of_body control]
  exact bind_of_ok done _

/-- A move that starts a task does little else. -/
theorem Does.exists_change (does : machine.Does deed move)
    (wellformed : machine.kernel.Wellformed)
    (starts : deed.started? = some task) :
    ∃ middle, Kernel.Change machine.kernel deed middle ∧
      Kernel.Evolves (· = .quiet) middle (machine.move move).kernel := by
  cases deed with
  | starts known =>
      cases does with
      | operation idle done comes =>
          obtain ⟨body, name, rfl, same⟩ := comes.eq_start
          cases same
          rw [move_of_operated idle done]
          obtain ⟨⟨answer, kernel⟩, started, ended⟩ := exists_ok_of_bind done
          cases ended
          exact Kernel.start_cases wellformed started
      | request control done comes =>
          obtain ⟨body, name, rfl, same⟩ := comes.eq_start
          cases same
          rw [move_of_answered control done]
          obtain ⟨⟨answer, kernel⟩, started, ended⟩ := exists_ok_of_bind done
          cases ended
          exact Kernel.start_cases wellformed started
  | handles event known =>
      cases does with
      | operation idle done comes =>
          obtain ⟨body, name, rfl, same⟩ := comes.eq_handle
          cases same
          rw [move_of_operated idle done]
          obtain ⟨⟨answer, kernel⟩, handled, ended⟩ := exists_ok_of_bind done
          cases ended
          exact Kernel.handle_cases wellformed handled
      | request control done comes =>
          obtain ⟨body, rfl, same⟩ := comes.eq_handle
          cases same
          rw [move_of_answered control done]
          obtain ⟨⟨answer, kernel⟩, handled, ended⟩ := exists_ok_of_bind done
          cases ended
          exact Kernel.handle_cases wellformed handled
  | _ => cases starts

/-- The task that is started to handle an event is its handler. -/
theorem Does.handler (does : machine.Does (.handles event task) move)
    (wellformed : machine.kernel.Wellformed) :
    (machine.move move).kernel.handlers.get? event = some task := by
  obtain ⟨middle, handles, quiet⟩ := does.exists_change wellformed rfl
  have registered : middle.handlers.get? event = some task := by
    cases handles
    refine Handlers.get?_eq_some_iff.mpr ?_
    rw [Handlers.entry_insert, if_pos rfl]
  generalize (machine.move move).kernel = last at quiet ⊢
  induction quiet with
  | refl => exact registered
  | step before change quiet ih =>
      subst quiet
      cases change <;> exact ih

/-- A task is started under a handle under which nobody is alive. -/
theorem Does.not_alive (does : machine.Does deed move)
    (wellformed : machine.kernel.Wellformed)
    (starts : deed.started? = some task) :
    ¬ machine.kernel.roster.Alive task := by
  obtain ⟨middle, change, _⟩ := does.exists_change wellformed starts
  exact change.not_alive_of_started starts

/-- A move that claims an event does nothing else. -/
theorem Does.exists_claim (does : machine.Does (.claims event) move) :
    ∃ events, machine.kernel.events.claim = .ok (event, events) ∧
      (machine.move move).kernel = { machine.kernel with events } := by
  cases does with
  | @operation operation answer scheduler idle done comes =>
      rw [move_of_operated idle done]
      cases operation with
      | claim =>
          obtain ⟨known, issued, same⟩ := comes
          cases same
          obtain ⟨rfl, rfl⟩ := Prod.mk.inj (Except.ok.inj done)
          exact Scheduler.exists_of_claim issued
      | claimInto cell =>
          obtain ⟨known, issued, same⟩ := comes
          cases same
          obtain ⟨rfl, rfl⟩ := Prod.mk.inj (Except.ok.inj done)
          exact Scheduler.exists_of_claimInto issued
      | _ => simp [Operation.May, Deed.Wakes] at comes
  | @request role request reply rest kernel control done comes =>
      rw [move_of_answered control done]
      cases request with
      | claim =>
          obtain ⟨known, issued, same⟩ := comes
          cases same
          exact Kernel.exists_of_answerClaim (issued ▸ done)
      | claimInto cell =>
          obtain ⟨known, issued, same⟩ := comes
          cases same
          obtain ⟨rfl, rfl⟩ := Started.answered.inj (Except.ok.inj done)
          obtain ⟨events, claimed, granted⟩ :=
            Events.claimInto_eq_of_ok issued
          rw [granted]
          exact ⟨events, claimed, rfl⟩
      | _ =>
          simp [Request.May, Deed.Wakes, Deed.Waits, Deed.Settles] at comes

/-- An event that is claimed was not claimed before. -/
theorem Does.not_isClaimed (does : machine.Does (.claims event) move) :
    machine.kernel.events.isClaimed event = false := by
  obtain ⟨events, claimed, _⟩ := does.exists_claim
  exact Events.not_isClaimed_of_claim claimed

/-- Only the operation of that name reaps a task, and only between two other
operations. -/
theorem Does.eq_reap (does : machine.Does (.reaps task) move) :
    machine.control.isIdle = true ∧ move = .operate (.reap task) := by
  cases does with
  | operation idle done comes =>
      obtain rfl := comes.eq_reap
      exact ⟨idle, rfl⟩
  | @request role request reply rest kernel control done comes =>
      cases request <;>
        simp [Request.May, Deed.Wakes, Deed.Waits, Deed.Settles] at comes

end Does

/-- The running task, or a close that runs in its slice, abandons the event that
the running task handles. -/
structure Resigns (machine : Machine S) (event : EventHandle)
    (task : TaskHandle) (move : Move S) : Prop where
  step : move = .step
  asks : ∃ role rest, machine.control = .body role (.ask (.abandon event) rest)
  handles : machine.kernel.handlers.get? event = some task
  running : machine.kernel.running = some task

inductive EndsTask (machine : Machine S) (task : TaskHandle) :
    Move S → Machine S → Prop
  | slice {move : Move S} {next : Machine S} {step : S.Step} {body : S.Body}
      {exit : S.Exit} (steps : move = .step)
      (control : machine.control = .body (.slice task) (.pure (step, body)))
      (exits : step.exit? = some exit)
      (dead : next.kernel.roster.stateOf task = some (.dead exit)) :
      EndsTask machine task move next
  | close {move : Move S} {next : Machine S} {closing : Closing}
      (same : closing.task = task)
      (closings : next.closings = closing :: machine.closings)
      (dead : next.kernel.roster.stateOf task = some (.dead .cancelled)) :
      EndsTask machine task move next

/-- The move accounts for a change of the kernel. -/
structure Accounts (machine : Machine S) (move : Move S) (next : Machine S)
    (deed : Deed) : Prop where
  starts {task : TaskHandle} :
    deed.started? = some task → machine.Does deed move
  claims : deed.issued? ≠ none → machine.Does deed move
  dies {task : TaskHandle} : deed = .dies task → machine.EndsTask task move next
  reaps {task : TaskHandle} : deed = .reaps task → machine.Does deed move
  spoils {index : SlotIndex} : deed = .spoils index → machine.Does deed move
  resigns {event : EventHandle} {task : TaskHandle} :
    deed = .resigns event task → machine.Resigns event task move ∨
      next.kernel.events.isClaimed event = false
  turns : deed.turns = true → machine.control.turns = true
  parks {task : TaskHandle} : deed = .parks task →
    ∃ result, machine.control = .body (.slice task) (.pure result)

variable {machine next : Machine S} {move : Move S} {deed : Deed}

theorem accounts_of_isPlain (plain : deed.isPlain = true) :
    machine.Accounts move next deed where
  starts started := by
    cases deed with
    | starts | handles => cases plain
    | _ => cases started
  claims issued := by
    cases deed with
    | claims => cases plain
    | _ => exact absurd rfl issued
  dies same := by
    subst same
    cases plain
  reaps same := by
    subst same
    cases plain
  spoils same := by
    subst same
    cases plain
  resigns same := by
    subst same
    cases plain
  turns turning := by
    cases deed with
    | promotes | requeues | pops | begins | ends | parks => cases plain
    | _ => cases turning
  parks same := by
    subst same
    cases plain

theorem accounts_of_isAsked (does : machine.Does deed move)
    (asked : deed.isAsked = true) : machine.Accounts move next deed where
  starts _ := does
  claims _ := does
  dies same := by
    subst same
    cases asked
  reaps _ := does
  spoils _ := does
  resigns same := by
    subst same
    cases asked
  turns turning := by
    cases deed with
    | promotes | requeues | pops | begins | ends | parks => cases asked
    | _ => cases turning
  parks same := by
    subst same
    cases asked

theorem accounts_of_turns (turning : deed.turns = true)
    (control : machine.control.turns = true)
    (awake : ∀ task, deed ≠ .parks task) : machine.Accounts move next deed where
  starts started := by
    cases deed with
    | starts | handles => cases turning
    | _ => cases started
  claims issued := by
    cases deed with
    | claims => cases turning
    | _ => exact absurd rfl issued
  dies same := by
    subst same
    cases turning
  reaps same := by
    subst same
    cases turning
  spoils same := by
    subst same
    cases turning
  resigns same := by
    subst same
    cases turning
  turns _ := control
  parks same := absurd same (awake _)

theorem accounts_of_parks {task : TaskHandle}
    {result : (Role.slice task).Result S}
    (control : machine.control = .body (.slice task) (.pure result)) :
    machine.Accounts move next (.parks task) where
  starts impossible := nomatch impossible
  claims issued := absurd rfl issued
  dies impossible := nomatch impossible
  reaps impossible := nomatch impossible
  spoils impossible := nomatch impossible
  resigns impossible := nomatch impossible
  turns _ := by
    rw [control]
    rfl
  parks same := by
    cases same
    exact ⟨result, control⟩

theorem accounts_of_dies {task : TaskHandle}
    (ends : machine.EndsTask task move next) :
    machine.Accounts move next (.dies task) where
  starts impossible := nomatch impossible
  claims issued := absurd rfl issued
  dies same := by
    cases same
    exact ends
  reaps impossible := nomatch impossible
  spoils impossible := nomatch impossible
  resigns impossible := nomatch impossible
  turns impossible := nomatch impossible
  parks impossible := nomatch impossible

/-- Changes that are all plain need no explanation. -/
private theorem plainly {before after : Kernel S} {may : Deed → Prop}
    (evolves : Kernel.Evolves may before after)
    (plain : ∀ deed, may deed → deed.isPlain = true) :
    Kernel.Evolves (machine.Accounts move next) before after :=
  evolves.mono fun deed fits => accounts_of_isPlain (plain deed fits)

private theorem quietly {before after : Kernel S}
    (evolves : Kernel.Evolves (· = .quiet) before after) :
    Kernel.Evolves (machine.Accounts move next) before after := by
  refine plainly evolves ?_
  rintro deed rfl
  rfl

/-- A task ends. -/
private theorem buried {before after : Kernel S} {task : TaskHandle}
    (buries : before.Buries task after) (ends : machine.EndsTask task move next) :
    Kernel.Evolves (machine.Accounts move next) before after := by
  refine buries.evolves.mono fun deed fits => ?_
  rcases fits with rfl | rfl
  · exact accounts_of_isPlain rfl
  · exact accounts_of_dies ends

private theorem begun {closing : Closing} {body : Option S.Body}
    (begins : machine.BeginsClose closing body next.kernel)
    (closings : next.closings = closing :: machine.closings) :
    Kernel.Evolves (machine.Accounts move next) machine.kernel next.kernel :=
  buried begins.begins.buries
    (.close rfl closings begins.begins.retires.stateOf)

private theorem accounted_errand {event : EventHandle} {errand : Errand}
    {verdict : Bool} {after : Kernel S}
    (settles : machine.kernel.SettlesAtOnce event errand verdict after)
    (onEvent : errand.event? = some event) (same : next.kernel = after)
    (abandons : errand = .abandon event → ∀ task,
      machine.kernel.handlers.get? event = some task →
        machine.kernel.running = some task →
          machine.Resigns event task move) :
    Kernel.Evolves (machine.Accounts move next) machine.kernel after := by
  rcases settles with ⟨_, done⟩ | ⟨task, handled, running, done⟩
  · have settled := machine.kernel.settle_evolves errand
    rw [done] at settled
    exact plainly settled fun _ => Deed.Settles.isPlain
  · have settled := Kernel.settle_evolves
      { machine.kernel with
        handlers := machine.kernel.handlers.forget task } errand
    rw [done] at settled
    refine Kernel.Evolves.trans (.single (.resign handled running) ?_)
      (plainly settled fun _ => Deed.Settles.isPlain)
    constructor
    · exact fun impossible => nomatch impossible
    · exact fun issued => absurd rfl issued
    · exact fun impossible => nomatch impossible
    · exact fun impossible => nomatch impossible
    · exact fun impossible => nomatch impossible
    · rintro other known ⟨⟩
      cases errand with
      | kill => cases onEvent
      | release released =>
          cases onEvent
          rw [same]
          exact Or.inr (Kernel.not_isClaimed_of_settle done)
      | abandon abandoned =>
          cases onEvent
          exact Or.inl (abandons rfl task handled running)
    · exact fun impossible => nomatch impossible
    · exact fun impossible => nomatch impossible

private theorem accounted_queuedUp {scheduler : Scheduler S}
    (control : machine.control.turns = true)
    (queued : machine.toScheduler.QueuedUp scheduler) :
    Kernel.Evolves (machine.Accounts move next) machine.kernel
      scheduler.kernel := by
  obtain ⟨_, middle, promotes, requeues⟩ := queued
  have promoted : Kernel.Evolves (machine.Accounts move next) machine.kernel
      middle := .single promotes
        (accounts_of_turns rfl control fun _ impossible => nomatch impossible)
  cases yielded : machine.yielded with
  | none =>
      rw [yielded] at requeues
      rw [requeues]
      exact promoted
  | some task =>
      rw [yielded] at requeues
      exact promoted.step requeues
        (accounts_of_turns rfl control fun _ impossible => nomatch impossible)

private theorem accounted_applied {scheduler after : Scheduler S}
    {task : TaskHandle} {step : S.Step} {body : S.Body}
    {value : Option S.Output} (wellformed : scheduler.kernel.Wellformed)
    (control : machine.control = .body (.slice task) (.pure (step, body)))
    (applied : scheduler.Applied task step value after)
    (same : next.kernel = after.kernel) :
    Kernel.Evolves (machine.Accounts .step next) scheduler.kernel
      after.kernel := by
  have carriedOut := applied
  cases applied with
  | yields => exact .refl _
  | parks change => exact .single change (accounts_of_parks control)
  | ends before dies wakes left exits retires resumed reported =>
      have dead : next.kernel.roster.stateOf task = some (.dead _) :=
        same ▸ carriedOut.stateOf_dead wellformed exits
      have ends := buried dies (.slice rfl control exits dead)
      exact ((quietly before).trans ends).trans
        (plainly wakes fun _ => Deed.Wakes.isPlain)

/-- Every move changes the kernel through changes for which it accounts. -/
theorem Transition.accounted (transition : Transition machine move next)
    (steady : machine.Steady) :
    Kernel.Evolves (machine.Accounts move next) machine.kernel
      next.kernel := by
  cases transition with
  | still | faults | faultsCall | callsRun | callsNothing | concludes | returns
  | sweepsOn | swept | passes => exact .refl _
  | outside evolves => exact plainly evolves fun _ => Deed.Outside.isPlain
  | operates idle done yielded evolves =>
      exact evolves.mono fun deed comes =>
        accounts_of_isAsked (.operation idle done comes) comes.isAsked
  | callsErrand idle onEvent settles =>
      have idleToo := Control.idle_cases idle
      refine accounted_errand settles onEvent rfl fun _ task _ running => ?_
      rw [steady.running_eq_none idleToo.1 idleToo.2.2] at running
      cases running
  | callsClose body idle begins =>
      exact begun begins (closings_of_calls steady idle)
  | ends control patience evolves => exact quietly evolves
  | dispatches control patience =>
      refine plainly machine.kernel.countDispatch_evolves ?_
      rintro deed rfl
      rfl
  | drains control evolves =>
      exact plainly evolves fun _ => Deed.Drains.isPlain
  | idles control evolves =>
      exact plainly (Kernel.countWait_evolves evolves)
        fun _ => Deed.Idles.isPlain
  | wakes control evolves | stalls control evolves =>
      exact plainly evolves fun _ => Deed.Outside.isPlain
  | picksNothing control queued empty drained =>
      exact accounted_queuedUp (by rw [control]; rfl) queued
  | picks body control queued pops evolves begins =>
      have turns : machine.control.turns = true := by
        rw [control]
        rfl
      refine Kernel.Evolves.step ?_ begins
        (accounts_of_turns rfl turns fun _ impossible => nomatch impossible)
      refine Kernel.Evolves.trans ?_ (quietly evolves)
      exact (accounted_queuedUp turns queued).step pops
        (accounts_of_turns rfl turns fun _ impossible => nomatch impossible)
  -- Release and abandon are the only requests after which a handler may have
  -- resigned; every other deed is one that was asked for.
  | answers control done evolves =>
      rename_i role request reply rest kernel
      cases request with
      | release event =>
          have started : machine.kernel.startErrand event (.release event) =
            .ok (.answered reply kernel) := done
          have settles := Kernel.startErrand_answered
            steady.placed.wellformed started
          exact accounted_errand settles rfl rfl fun impossible =>
            nomatch impossible
      | abandon event =>
          have started : machine.kernel.startErrand event (.abandon event) =
            .ok (.answered reply kernel) := done
          have settles := Kernel.startErrand_answered
            steady.placed.wellformed started
          exact accounted_errand settles rfl rfl fun _ task handled running =>
            ⟨rfl, ⟨role, rest, control⟩, handled, running⟩
      | _ =>
          refine evolves.mono fun deed comes => ?_
          rcases comes.isAsked_or with asked | ⟨_, _, _, errand⟩
          · exact accounts_of_isAsked (.request control done comes) asked
          · rcases errand with impossible | impossible <;> cases impossible
  | kills body control begins =>
      exact begun begins (closings_of_kills control)
  | endsSlice control ends applied =>
      refine Kernel.Evolves.trans ?_ (accounted_applied
        (ends.wellformed steady.placed.wellformed) control applied rfl)
      exact .single ends (accounts_of_turns rfl (by rw [control]; rfl)
        fun _ impossible => nomatch impossible)
  | endsClose control wakes settles resumed =>
      rename_i closing verdict _ middle kernel
      have settled := middle.settle_evolves closing.errand
      rw [settles] at settled
      exact (plainly wakes fun _ => Deed.Wakes.isPlain).trans
        (plainly settled fun _ => Deed.Settles.isPlain)
  | sweeps body control begins =>
      exact begun begins
        (congrArg (_ :: ·) (closings_of_control control rfl).symm)

end Machine

theorem Run.accounted [Application S] (run : Run S) (count : Nat) :
    Kernel.Evolves
      ((run.after count).Accounts (run.moves count) (run.after (count + 1)))
      (run.after count).kernel (run.after (count + 1)).kernel := by
  exact (run.transition count).accounted (run.steady count)

/-- Nobody who lives is started anew. -/
theorem Run.not_started [Application S] {run : Run S} {count : Nat}
    {task : TaskHandle} {deed : Deed}
    (accounts : (run.after count).Accounts (run.moves count)
      (run.after (count + 1)) deed)
    (alive : (run.after count).kernel.roster.Alive task) :
    deed.started? ≠ some task := by
  intro starts
  exact (accounts.starts starts).not_alive (run.wellformed count) starts alive

end EventScheduler
