import EventScheduler.Proofs.Scheduler.Line
import EventScheduler.Proofs.Scheduler.Nesting

/-!
# First come, first served

No task runs before one that was ahead of it, unless that one is killed.  So
each task that is ready comes up after as many turns as there are tasks ahead of
it, and a task that yields comes after everybody who was ready when it yielded
or got ready before the next turn.
-/

namespace EventScheduler

variable {S : Signature}

/-! ### The loop goes on -/

def Control.loops : Control S → Bool
  | .turn | .dispatch _ _ | .sleep _ | .pick | .body (.slice _) _
  | .sweep _ _ => true
  | _ => false

theorem Control.loops_body (role : Role)
    (program : Program S (role.Result S)) :
    (Control.body role program).loops = role.slice?.isSome := by
  cases role <;> rfl

namespace Machine

def loops (machine : Machine S) : Bool :=
  machine.control.loops || machine.callers.any Caller.isBase

variable {machine next : Machine S} {move : Move S}

theorem loops_of_control (control : machine.control.loops = true) :
    machine.loops = true := by
  unfold loops
  rw [control]
  rfl

theorem Steady.isIdle_of_loops (steady : machine.Steady)
    (loops : machine.loops = true) : machine.control.isIdle = false := by
  cases idle : machine.control.isIdle with
  | false => rfl
  | true =>
      unfold Machine.loops at loops
      rw [steady.base (Control.idle_cases idle).1] at loops
      cases control : machine.control with
      | concluded | stalled =>
          rw [control] at loops
          cases loops
      | _ =>
          rw [control] at idle
          cases idle

variable [Application S]

/-- The loop goes on until it ends or sleeps for ever. -/
theorem Transition.loops (transition : Transition machine move next)
    (steady : machine.Steady) (loops : machine.loops = true)
    (unfaulted : next.control.isFaulted = false) :
    next.loops = true ∨
      (∃ value, next.control = .concluded (.ended (some value))) ∨
      machine.control = .turn ∧ machine.patience = .ok none ∨
      ∃ deadline, machine.control = .sleep deadline := by
  have busy := steady.isIdle_of_loops loops
  unfold Machine.loops at loops
  cases transition with
  | still | outside => exact Or.inl loops
  | operates idle | callsRun idle | callsNothing idle | callsErrand idle
  | callsClose body idle =>
      rw [idle] at busy
      cases busy
  | faults | faultsCall => cases unfaulted
  | ends control patience => exact Or.inr (Or.inr (Or.inl ⟨control, patience⟩))
  | dispatches control | drains control | idles control | picksNothing control
  | picks body control | sweepsOn control | passes control =>
      exact Or.inl (loops_of_control rfl)
  | wakes control | stalls control =>
      exact Or.inr (Or.inr (Or.inr ⟨_, control⟩))
  | answers control =>
      rename_i role _ _ _ _
      rw [control, Control.loops_body] at loops
      refine Or.inl ?_
      unfold Machine.loops
      rw [Control.loops_body]
      exact loops
  | kills body control =>
      rename_i role _ _ _ _ _
      rw [control, Control.loops_body] at loops
      refine Or.inl ?_
      unfold Machine.loops
      rw [List.any_cons]
      exact loops
  | endsSlice control ends applied =>
      rename_i value _
      refine Or.inl (loops_of_control ?_)
      cases value <;> rfl
  | endsClose control =>
      rw [control] at loops
      exact Or.inl loops
  | concludes control callers =>
      rw [control, callers] at loops
      cases loops
  | returns control waiting =>
      rw [control, waiting, List.any_cons] at loops
      refine Or.inl ?_
      unfold Machine.loops
      rw [Control.loops_body]
      exact loops
  | swept control => exact Or.inr (Or.inl ⟨_, rfl⟩)
  | sweeps body control =>
      refine Or.inl ?_
      unfold Machine.loops
      rw [List.any_cons]
      exact Bool.or_true _

/-- A turn comes to a dispatch, and a dispatch to a pick or a sleep. -/
theorem Transition.approaches (transition : Transition machine .step next)
    (unfaulted : next.control.isFaulted = false) :
    match machine.control with
    | .turn => machine.patience = .ok none ∨
        ∃ deadline woke, next.control = .dispatch deadline woke
    | .dispatch _ _ => next.control = .pick ∨
        ∃ deadline, next.control = .sleep deadline
    | _ => True := by
  cases transition with
  | still rests =>
      have final := rests rfl
      cases control : machine.control with
      | turn | dispatch =>
          rw [control] at final
          cases final
      | _ => trivial
  | outside evolves other => exact absurd rfl other
  | faults => cases unfaulted
  | ends control patience =>
      rw [control]
      exact Or.inl patience
  | dispatches control =>
      rw [control]
      exact Or.inr ⟨_, _, rfl⟩
  | drains control =>
      rw [control]
      exact Or.inl rfl
  | idles control =>
      rw [control]
      exact Or.inr ⟨_, rfl⟩
  | wakes control | stalls control | picksNothing control
  | picks body control | answers control | kills body control
  | endsSlice control | endsClose control | concludes control
  | returns control | sweepsOn control | swept control | passes control
  | sweeps body control =>
      rw [control]
      trivial

end Machine

namespace Run

variable [Application S] {run : Run S} {count first last : Nat}
  {task other : TaskHandle}

/-! ### Who is ahead goes first -/

/-- Whoever is not ahead of a task does not run before it. -/
private theorem exists_vacates (inside : task ∈ (run.after first).line)
    (different : other ≠ task)
    (behind : other ∉ ahead task (run.after first).line) (later : first ≤ last)
    (picked : run.picked? last = some other) :
    ∃ between, first ≤ between ∧ between < last ∧
      run.Vacates task between := by
  rcases vacates_or_waits inside later with
    ⟨between, since, early, _, vacates⟩ | waits | ⟨faulted, _⟩
  · exact ⟨between, since, early, vacates⟩
  · obtain ⟨control, steps⟩ := pick_of_picked picked
    obtain ⟨head, known, line⟩ := exists_picked control steps
    cases picked.symm.trans known
    have fewer := waits.ahead
    rw [line, ahead_cons_of_ne different] at fewer
    exact absurd (fewer.subset List.mem_cons_self) behind
  · rw [(pick_of_picked picked).1] at faulted
    cases faulted

private theorem exists_vacates_of_behind
    (behind : [task, other].Sublist (run.after first).line)
    (later : first ≤ last) (picked : run.picked? last = some other) :
    ∃ between, first ≤ between ∧ between < last ∧
      run.Vacates task between := by
  obtain ⟨inside, different, absent⟩ :=
    notMem_ahead (run.nodup_line first) behind
  exact exists_vacates inside different absent later picked

theorem runQueue_prefix_line (run : Run S) (count : Nat) :
    (run.after count).runQueue <+: (run.after count).line := by
  by_cases control : (run.after count).control = .pick
  · rw [line_of_pick control]
    exact List.prefix_append _ _
  · rw [Machine.line_of_turning control]

/-! ### Everybody comes up -/

private theorem Waits.runQueue_ne_nil (waits : run.Waits task first count)
    (turning : (run.after count).control ≠ .pick) :
    (run.after count).runQueue ≠ [] := by
  have inside := waits.inside
  rw [Machine.line_of_turning turning] at inside
  exact List.ne_nil_of_mem inside

/-- The loop does not sleep while somebody is in line. -/
private theorem Waits.not_sleeps (waits : run.Waits task first count)
    (deadline : Deadline) : (run.after count).control ≠ .sleep deadline := by
  intro control
  obtain ⟨turn, dispatching⟩ := run.dispatching count (by rw [control]; rfl)
  refine waits.runQueue_ne_nil ?_
    (dispatching.sleeps_of_control turn (run.steady count) control).runQueue
  rw [control]
  exact fun same => nomatch same

/-- The loop does not end while somebody is in line. -/
private theorem Waits.patience_ne_none (waits : run.Waits task first count)
    (control : (run.after count).control = .turn) :
    (run.after count).patience ≠ .ok none := by
  have queue := waits.runQueue_ne_nil (by
    rw [control]
    exact fun same => nomatch same)
  have someone : (run.after count).kernel.roster.run ≠ [] := fun nobody =>
    queue (List.map_eq_nil_iff.mpr nobody)
  rw [Scheduler.patience_eq (run.wellformed count),
    if_pos (Or.inr someone)]
  exact fun same => nomatch same

section Liveness

/-- The task waits for ever, in a loop that never ends. -/
structure Starves (run : Run S) (task : TaskHandle) (first : Nat) : Prop where
  waits {later : Nat} : first ≤ later → run.Waits task first later
  loops {later : Nat} : first ≤ later → (run.after later).loops = true
  unfaulted {later : Nat} :
    first ≤ later → (run.after later).control.isFaulted = false

variable (starves : run.Starves task first) (since : first ≤ count)

include starves since

/-- Before the next step the control stays where it is. -/
private theorem Starves.exists_step (proceeds : run.Proceeds) :
    ∃ later, count ≤ later ∧ run.moves later = .step ∧
      (run.after later).control = (run.after count).control := by
  obtain ⟨last, later, steps⟩ := proceeds count
  obtain ⟨gap, rfl⟩ := Nat.exists_eq_add_of_le later
  clear later
  induction gap generalizing count with
  | zero => exact ⟨count, Nat.le_refl _, steps, rfl⟩
  | succ gap ih =>
      by_cases now : run.moves count = .step
      · exact ⟨count, Nat.le_refl _, now, rfl⟩
      · have busy := (run.steady count).isIdle_of_loops (starves.loops since)
        have same := (line_of_busy busy now
          (starves.unfaulted (Nat.le_succ_of_le since))).1
        obtain ⟨later, after, stepsToo, kept⟩ :=
          ih (Nat.le_succ_of_le since) (by rwa [Nat.succ_add_eq_add_succ])
        exact ⟨later, Nat.le_of_succ_le after, stepsToo, kept.trans same⟩

private theorem Starves.exists_next (proceeds : run.Proceeds) :
    ∃ later, count ≤ later ∧
      (run.after later).control = (run.after count).control ∧
      Machine.Transition (run.after later) .step (run.after (later + 1)) ∧
      (run.after (later + 1)).control.isFaulted = false := by
  obtain ⟨later, after, steps, same⟩ := starves.exists_step since proceeds
  have transition := run.transition later
  rw [steps] at transition
  exact ⟨later, after, same, transition,
    starves.unfaulted (since.trans (Nat.le_succ_of_le after))⟩

private theorem Starves.exists_pick_of_dispatch (proceeds : run.Proceeds)
    {deadline : Deadline} {woke : Bool}
    (control : (run.after count).control = .dispatch deadline woke) :
    ∃ later, count ≤ later ∧ (run.after later).control = .pick := by
  obtain ⟨later, after, same, transition, unfaulted⟩ :=
    starves.exists_next since proceeds
  have sinceToo := since.trans (Nat.le_succ_of_le after)
  have approaches := transition.approaches unfaulted
  rw [same, control] at approaches
  rcases approaches with picks | ⟨until_, sleeps⟩
  · exact ⟨later + 1, Nat.le_succ_of_le after, picks⟩
  · exact absurd sleeps ((starves.waits sinceToo).not_sleeps until_)

private theorem Starves.exists_pick_of_turn (proceeds : run.Proceeds)
    (control : (run.after count).control = .turn) :
    ∃ later, count ≤ later ∧ (run.after later).control = .pick := by
  obtain ⟨later, after, same, transition, unfaulted⟩ :=
    starves.exists_next since proceeds
  have sinceToo := since.trans (Nat.le_succ_of_le after)
  have approaches := transition.approaches unfaulted
  rw [same, control] at approaches
  rcases approaches with nobody | ⟨deadline, woke, dispatches⟩
  · exact absurd nobody ((starves.waits (since.trans after)).patience_ne_none
      (same.trans control))
  · obtain ⟨last, beyond, picks⟩ :=
      starves.exists_pick_of_dispatch sinceToo proceeds dispatches
    exact ⟨last, by omega, picks⟩

/-- Again and again a task is picked. -/
private theorem Starves.exists_picked (proceeds : run.Proceeds) :
    ∃ later, count ≤ later ∧ run.picked? later ≠ none := by
  have pick : ∃ later, count ≤ later ∧ (run.after later).control = .pick := by
    obtain ⟨calm, after, notBusy⟩ := exists_not_busy proceeds count
    have sinceToo := since.trans after
    have loops := starves.loops sinceToo
    have unfaulted := starves.unfaulted sinceToo
    have steady := run.steady calm
    have idle := steady.isIdle_of_loops loops
    have beyond (found : ∃ later, calm ≤ later ∧
        (run.after later).control = .pick) :
        ∃ later, count ≤ later ∧ (run.after later).control = .pick := by
      obtain ⟨later, beyond, picks⟩ := found
      exact ⟨later, after.trans beyond, picks⟩
    cases control : (run.after calm).control with
    | turn =>
        exact beyond (starves.exists_pick_of_turn sinceToo proceeds control)
    | dispatch =>
        exact beyond (starves.exists_pick_of_dispatch sinceToo proceeds control)
    | pick => exact ⟨calm, after, control⟩
    | sleep deadline =>
        exact absurd control ((starves.waits sinceToo).not_sleeps deadline)
    | body | verdict | sweep =>
        rw [control] at notBusy
        cases notBusy
    | concluded | stalled =>
        rw [control] at idle
        cases idle
    | faulted =>
        rw [control] at unfaulted
        cases unfaulted
  obtain ⟨later, after, control⟩ := pick
  obtain ⟨last, beyond, steps, same⟩ :=
    starves.exists_step (since.trans after) proceeds
  obtain ⟨task, picked, _⟩ := Run.exists_picked (same.trans control) steps
  refine ⟨last, after.trans beyond, ?_⟩
  rw [picked]
  exact Option.some_ne_none task

end Liveness

/-- Nobody waits for ever in a loop that goes on. -/
private theorem not_starves (proceeds : run.Proceeds) :
    ¬ run.Starves task first := by
  intro starves
  -- As many slices begin as one likes, though only those ahead come up.
  have more (number : Nat) : ∃ count, first ≤ count ∧
      run.slices first + number ≤ run.slices count := by
    induction number with
    | zero => exact ⟨first, Nat.le_refl _, Nat.le_refl _⟩
    | succ number ih =>
        obtain ⟨count, since, slices⟩ := ih
        obtain ⟨later, after, picked⟩ := starves.exists_picked since proceeds
        refine ⟨later + 1, since.trans (Nat.le_succ_of_le after), ?_⟩
        have grown := run.slices_le after
        rw [slices_succ, Option.isSome_iff_ne_none.mpr picked, Bool.toNat_true]
        omega
  obtain ⟨count, since, slices⟩ :=
    more ((ahead task (run.after first).line).length + 1)
  have bound := (starves.waits since).slices
  omega

/-- A task in line comes up after as many slices as there are tasks ahead of it,
or the loop has ended by then. -/
private theorem exists_comes (inside : task ∈ (run.after first).line)
    (loops : (run.after first).loops = true) (proceeds : run.Proceeds) :
    ∃ last, first ≤ last ∧
      run.slices last ≤ run.slices first +
        (ahead task (run.after first).line).length ∧
      (run.Vacates task last ∨
        (run.after last).control = .faulted .queueOverflow ∨
        ∃ value, (run.after last).control =
          .concluded (.ended (some value))) := by
  -- Otherwise the task waits in every later state, while the place of a waiting
  -- task in line falls with each slice.
  by_contra never
  have spared {last : Nat} (later : first ≤ last)
      (bound : run.slices last ≤ run.slices first +
        (ahead task (run.after first).line).length) :
      ¬ run.Vacates task last ∧ (run.after last).control.isFaulted = false ∧
        ¬ ∃ value, (run.after last).control =
          .concluded (.ended (some value)) := by
    refine ⟨fun vacates => never ⟨last, later, bound, Or.inl vacates⟩, ?_,
      fun ended => never ⟨last, later, bound, Or.inr (Or.inr ended)⟩⟩
    by_contra faulted
    exact never ⟨last, later, bound,
      Or.inr (Or.inl (control_of_isFaulted (eq_true_of_ne_false faulted)))⟩
  have always {last : Nat} (later : first ≤ last) :
      run.Waits task first last ∧ (run.after last).loops = true ∧
        (run.after last).control.isFaulted = false := by
    induction last, later using Nat.le_induction with
    | base =>
        exact ⟨waits_self inside, loops,
          (spared (Nat.le_refl _) (Nat.le_add_right _ _)).2.1⟩
    | succ last later ih =>
        obtain ⟨waits, loops, _⟩ := ih
        have laterToo := Nat.le_succ_of_le later
        have bound := Nat.le_of_add_right_le waits.slices
        have stays := (spared later bound).1
        have unfaultedToo :
            (run.after (last + 1)).control.isFaulted = false := by
          by_contra faulted
          have same := slices_of_faulted (eq_true_of_ne_false faulted)
          exact faulted (spared laterToo (same ▸ bound)).2.1
        have waitsToo := waits.succ stays unfaultedToo
        have boundToo := Nat.le_of_add_right_le waitsToo.slices
        refine ⟨waitsToo, ?_, unfaultedToo⟩
        rcases (run.transition last).loops (run.steady last) loops unfaultedToo
          with loops | ended | ⟨control, nobody⟩ | ⟨deadline, control⟩
        · exact loops
        · exact absurd ended (spared laterToo boundToo).2.2
        · exact absurd nobody (waits.patience_ne_none control)
        · exact absurd control (waits.not_sleeps deadline)
  exact not_starves proceeds ⟨fun later => (always later).1,
    fun later => (always later).2.1, fun later => (always later).2.2⟩

/-! ### Whoever yields comes last -/

private theorem yielded_of_slice {body : S.Body}
    (control : (run.after count).control =
      .body (.slice task) (.pure (.yield, body)))
    (steps : run.moves count = .step) :
    (run.after (count + 1)).yielded = some task := by
  have moved : (run.after count).move .step = { run.after count with
      kernel := (run.after count).kernel.endSlice task body
      yielded := some task
      control := .turn } := by
    apply Machine.move_step_of_ok
    unfold Machine.advance
    dsimp only
    rw [control]
    rfl
  rw [after_succ steps, moved]

/-- The task that yielded waits until a task is picked. -/
private theorem yielded_succ (yielded : (run.after count).yielded = some task)
    (nobody : run.picked? count = none) :
    (run.after (count + 1)).yielded = some task := by
  have awaits := ((run.steady count).yielded
    (yielded ▸ Option.some_ne_none task)).2
  have picksNobody (steps : run.moves count = .step) :
      (run.after count).control ≠ .pick := by
    intro control
    obtain ⟨head, picked, _⟩ := Run.exists_picked control steps
    cases nobody.symm.trans picked
  have transition := run.transition count
  generalize run.after (count + 1) = next at transition ⊢
  generalize run.moves count = move at transition picksNobody
  cases transition with
  | operates idle done same => exact same.trans yielded
  | picksNothing control | picks body control =>
      exact absurd control (picksNobody rfl)
  | endsSlice control =>
      rw [control] at awaits
      cases awaits
  | _ => exact yielded

private theorem yielded_of_le {next : Nat} (later : count ≤ next)
    (yielded : (run.after count).yielded = some task)
    (nobody : ∀ between, count ≤ between → between < next →
      run.picked? between = none) :
    (run.after next).yielded = some task := by
  induction next, later using Nat.le_induction with
  | base => exact yielded
  | succ next later ih =>
      exact yielded_succ
        (ih fun between since early =>
          nobody between since (Nat.lt_succ_of_lt early))
        (nobody next later (Nat.lt_succ_self next))

/-- Everybody else is ahead of the task that yielded. -/
private theorem behind_of_yielded (control : (run.after count).control = .pick)
    (yielded : (run.after count).yielded = some task) :
    (∀ other ∈ (run.after count).line, other ≠ task →
        [other, task].Sublist (run.after count).line) ∧
      ∀ other, other ∈ run.woken count ∨ other ∈ run.expired count →
        [other, task].Sublist (run.after count).line := by
  have last {other : TaskHandle} {front : List TaskHandle}
      (line : (run.after count).line = front ++ [task])
      (inside : other ∈ front) :
      [other, task].Sublist (run.after count).line := by
    rw [line]
    exact (List.singleton_sublist.mpr inside).append (List.Sublist.refl [task])
  constructor
  · intro other inside different
    have line := line_of_pick control
    rw [yielded, Option.toList_some, ← List.append_assoc] at line
    refine last line ?_
    rw [line] at inside
    exact (List.mem_append.mp inside).resolve_right fun same =>
      different (List.mem_singleton.mp same)
  · intro other readied
    obtain ⟨ready, queued, linesUp⟩ := exists_linesUp control
    obtain ⟨_, dispatching⟩ := run.dispatching count (by rw [control]; rfl)
    obtain ⟨deadline, dispatched⟩ := dispatching.exists_dispatched
    have same : (run.atTop count).yielded = some task :=
      dispatched.yielded.symm.trans yielded
    have line := (Machine.line_of_ready control queued).trans linesUp.runQueue
    rw [same, Option.toList_some] at line
    refine last line ?_
    rw [List.append_assoc, List.mem_append, List.mem_append]
    exact Or.inr readied

private theorem exists_next {later : Nat} {body : S.Body}
    (control : (run.after count).control =
      .body (.slice task) (.pure (.yield, body)))
    (steps : run.moves count = .step) (after : count < later)
    (picked : run.picked? later = some task) :
    ∃ next, count < next ∧ next ≤ later ∧
      (∀ between, count < between → between < next →
        run.picked? between = none) ∧
      (run.after next).control = .pick ∧
      (run.after next).yielded = some task := by
  have someone : ∃ next, count < next ∧ run.picked? next ≠ none :=
    ⟨later, after, picked ▸ Option.some_ne_none task⟩
  classical
  let next := Nat.find someone
  obtain ⟨beyond, picks⟩ := Nat.find_spec someone
  have nobody : ∀ between, count < between → between < next →
      run.picked? between = none := by
    intro between since early
    by_contra picks
    exact Nat.find_min someone early ⟨since, picks⟩
  obtain ⟨head, known⟩ := Option.ne_none_iff_exists'.mp picks
  refine ⟨next, beyond, Nat.find_min' someone
    ⟨after, picked ▸ Option.some_ne_none task⟩, nobody,
    (pick_of_picked known).1, ?_⟩
  exact yielded_of_le beyond (yielded_of_slice control steps)
    fun between since early => nobody between since early

/-! ### Fairness -/

/-- The run queue is served in order. -/
structure Fair (run : Run S) (count : Nat) : Prop where
  /-- Of two tasks in line, the second does not run before the first has run or
  was killed. -/
  order {first second : TaskHandle} {later : Nat} :
    [first, second].Sublist (run.after count).line → count ≤ later →
    run.picked? later = some second →
    ∃ between, count ≤ between ∧ between < later ∧ run.Vacates first between
  /-- The run queue is the line, but for those that the turn is about to queue
  once the dispatch has returned. -/
  runQueue : (run.after count).runQueue <+: (run.after count).line
  /-- Once as many slices have begun as there were tasks ahead of it, a task that
  was not killed runs next. -/
  turns {place : Nat} {task : TaskHandle} {later : Nat} :
    (run.after count).line[place]? = some task →
    run.slices count + place < run.slices later →
    ∃ between, count ≤ between ∧ between < later ∧
      run.slices between ≤ run.slices count + place ∧
      run.Vacates task between
  /-- It does come to that if the loop is under way and steps are taken, unless
  a shutdown ends the loop or the queue of pending events overflows. -/
  comes {place : Nat} {task : TaskHandle} :
    (run.after count).line[place]? = some task →
    (run.after count).loops = true → run.Proceeds →
    ∃ later, count ≤ later ∧ run.slices later ≤ run.slices count + place ∧
      (run.Vacates task later ∨
        (run.after later).control = .faulted .queueOverflow ∨
        ∃ value, (run.after later).control =
          .concluded (.ended (some value)))
  /-- A task that yields does not run again before all those that were on the
  run queue, and all those that the events and deadlines of the next turn put
  there, have run or were killed. -/
  yields {task : TaskHandle} {body : S.Body} {later : Nat} :
    (run.after count).control = .body (.slice task) (.pure (.yield, body)) →
    run.moves count = .step → count < later →
    run.picked? later = some task →
    ∃ next, count < next ∧ next ≤ later ∧
      (∀ between, count < between → between < next →
        run.picked? between = none) ∧
      (run.after next).control = .pick ∧
      ∀ other, other ∈ (run.after count).runQueue ∨ other ∈ run.woken next ∨
          other ∈ run.expired next →
        ∃ between, count ≤ between ∧ between < later ∧
          run.Vacates other between

/-- Every run is fair. -/
theorem fair (run : Run S) (count : Nat) : run.Fair count := by
  constructor
  case order => exact exists_vacates_of_behind
  case runQueue => exact run.runQueue_prefix_line count
  case turns =>
    intro place task later found more
    have bound := length_ahead_le found
    have after : count ≤ later := by
      by_contra early
      have fewer := run.slices_le (Nat.le_of_not_le early)
      omega
    rcases vacates_or_waits (List.mem_of_getElem? found) after with
      ⟨between, since, early, slices, vacates⟩ | waits | ⟨_, slices⟩
    · exact ⟨between, since, early, by omega, vacates⟩
    · have slices := waits.slices
      omega
    · omega
  case comes =>
    intro place task found loops proceeds
    have bound := length_ahead_le found
    obtain ⟨later, after, slices, comes⟩ :=
      exists_comes (List.mem_of_getElem? found) loops proceeds
    exact ⟨later, after, by omega, comes⟩
  case yields =>
    intro task body later control steps after picked
    obtain ⟨next, beyond, early, nobody, picks, yielded⟩ :=
      exists_next control steps after picked
    obtain ⟨inLine, readied⟩ := behind_of_yielded picks yielded
    refine ⟨next, beyond, early, nobody, picks, fun other known => ?_⟩
    have behind (behind : [other, task].Sublist (run.after next).line) :
        ∃ between, count ≤ between ∧ between < later ∧
          run.Vacates other between := by
      obtain ⟨between, since, before, vacates⟩ :=
        exists_vacates_of_behind behind early picked
      exact ⟨between, by omega, before, vacates⟩
    rcases known with inside | known
    · have running := (run.steady count).running_of_slice control
      have different : other ≠ task :=
        ne_of_mem_of_not_mem inside (notMem_queued_of_running running)
      have turning : (run.after count).control ≠ .pick := by
        rw [control]
        exact fun same => nomatch same
      rw [← Machine.line_of_turning turning] at inside
      -- Whoever was ready before the task yielded has had its slice meanwhile,
      -- or is still in line and then ahead of the task.
      rcases vacates_or_waits inside beyond.le with
        ⟨between, since, before, _, vacates⟩ | waits | ⟨faulted, _⟩
      · exact ⟨between, since, by omega, vacates⟩
      · exact behind (inLine other waits.inside different)
      · rw [picks] at faulted
        cases faulted
    · exact behind (readied other known)

end Run

end EventScheduler
