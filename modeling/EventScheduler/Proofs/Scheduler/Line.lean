import EventScheduler.Proofs.Kernel.Places
import EventScheduler.Proofs.Scheduler.Joining
import EventScheduler.Proofs.Scheduler.Order
import EventScheduler.Proofs.Scheduler.Pace

/-!
# The line for the next slices

Whatever bodies do between two turns, a task that is ready keeps its place on
the run queue: the others come behind it, and those ahead of it leave one by one
as their slices begin, or when they are killed.  So does a task that the turn is
about to queue, once the dispatch has returned.
-/

namespace EventScheduler

variable {S : Signature}

theorem Control.isIdle_of_turns {control : Control S}
    (turns : control.turns = true) : control.isIdle = false := by
  cases control with
  | pick | body => rfl
  | _ => cases turns

/-- What becomes of a task at the end of its slice matters to nobody else on the
run queue. -/
theorem Scheduler.Applied.keepsPlace {scheduler after : Scheduler S}
    {task busy : TaskHandle} {step : S.Step} {value : Option S.Output}
    (applied : scheduler.Applied busy step value after)
    (wellformed : scheduler.kernel.Wellformed) (different : busy ≠ task) :
    KeepsPlace task scheduler.kernel.roster.queued
      after.kernel.roster.queued := by
  cases applied with
  | yields => exact .refl _ _
  | parks change =>
      rw [change.queued_of_parks wellformed]
      exact .filter different _
  | @ends _ recorded buried _ _ _ _ _ _ _ before dies wakes =>
      have recordedToo := before.wellformed wellformed
      have silent : recorded.roster.queued = scheduler.kernel.roster.queued :=
        before.queued_eq wellformed (by
          rintro deed rfl
          exact ⟨rfl, fun _ => rfl⟩)
      have leaves : KeepsPlace task recorded.roster.queued
          buried.roster.queued := by
        rw [dies.queued recordedToo]
        exact .filter different _
      have joins : KeepsPlace task buried.roster.queued _ :=
        wakes.keepsPlace (dies.evolves.wellformed recordedToo) (by
          rintro deed ⟨woken, rfl⟩
          exact ⟨rfl, fun impossible => nomatch impossible⟩)
      exact silent ▸ leaves.trans joins

namespace Machine

/-- The tasks in line: the run queue, and once a dispatch has returned the one
that the turn pops from. -/
def line (machine : Machine S) : List TaskHandle :=
  match machine.control, machine.queueUp with
  | .pick, .ok ready => ready.runQueue
  | _, _ => machine.runQueue

theorem line_of_ready {machine : Machine S} {ready : Scheduler S}
    (control : machine.control = .pick)
    (queued : machine.queueUp = .ok ready) : machine.line = ready.runQueue := by
  unfold line
  rw [control, queued]

theorem line_of_turning {machine : Machine S}
    (other : machine.control ≠ .pick) : machine.line = machine.runQueue := by
  unfold line
  split
  · next control _ => exact absurd control other
  · rfl

end Machine

namespace Run

variable [Application S] {run : Run S} {count first last : Nat}
  {task other : TaskHandle}

/-! ### Whose slice begins -/

def picked? (run : Run S) (count : Nat) : Option TaskHandle :=
  if (run.after count).beginsSlice (run.after (count + 1)) then
    (run.after (count + 1)).kernel.running
  else
    none

/-- The slice of a task begins, or the task is killed. -/
def Vacates (run : Run S) (task : TaskHandle) (count : Nat) : Prop :=
  run.picked? count = some task ∨ run.closes task count = true

theorem picked?_eq_some_iff : run.picked? count = some task ↔
    (run.after count).kernel.running = none ∧
      (run.after (count + 1)).kernel.running = some task := by
  unfold picked? Machine.beginsSlice
  cases (run.after count).kernel.running <;>
    cases (run.after (count + 1)).kernel.running <;> simp

theorem slices_succ (run : Run S) (count : Nat) :
    run.slices (count + 1) =
      run.slices count + (run.picked? count).isSome.toNat := by
  have counted : run.slices (count + 1) = run.slices count +
      ((run.after count).beginsSlice (run.after (count + 1))).toNat := rfl
  rw [counted]
  unfold picked? Machine.beginsSlice
  cases (run.after count).kernel.running <;>
    cases (run.after (count + 1)).kernel.running <;> rfl

theorem slices_le (run : Run S) (later : first ≤ last) :
    run.slices first ≤ run.slices last := by
  induction last, later using Nat.le_induction with
  | base => exact Nat.le_refl _
  | succ last later ih =>
      rw [slices_succ]
      exact Nat.le_add_right_of_le ih

/-- A slice begins only where the loop picks a task. -/
theorem pick_of_picked (picked : run.picked? count = some task) :
    (run.after count).control = .pick ∧ run.moves count = .step := by
  obtain ⟨idle, running⟩ := picked?_eq_some_iff.mp picked
  have turns : (run.after count).control.turns = true := by
    by_contra calm
    have same := (run.accounted count).running_eq
      (fun other accounts => calm (accounts.turns rfl))
      (fun other accounts => calm (accounts.turns rfl))
    rw [idle, running] at same
    cases same
  cases control : (run.after count).control with
  | pick =>
      refine ⟨rfl, ?_⟩
      by_contra step
      have moved : (run.after (count + 1)).kernel.running =
          (run.after count).kernel.running := by
        change ((run.after count).move (run.moves count)).kernel.running = _
        rcases Machine.move_of_busy (by rw [control]; rfl) step with
          ⟨fault, same⟩ | ⟨registry, world, same⟩ <;> rw [same]
      rw [idle, running] at moved
      cases moved
  | body role program =>
      cases role with
      | slice busy =>
          rw [(run.steady count).running_of_slice control] at idle
          cases idle
      | close closing =>
          rw [control] at turns
          cases turns
  | _ =>
      rw [control] at turns
      cases turns

/-- With the end of a slice nobody begins to run. -/
private theorem running_of_slice_ended {busy : TaskHandle}
    {result : (Role.slice busy).Result S}
    (control : (run.after count).control =
      .body (.slice busy) (.pure result)) :
    (run.after (count + 1)).kernel.running = none ∨
      (run.after (count + 1)).kernel.running =
        (run.after count).kernel.running := by
  by_cases steps : run.moves count = .step
  · obtain ⟨value, scheduler, _, moved⟩ :=
      (run.steady count).exists_applied control
    have after := (after_succ steps).trans moved
    refine Or.inl ((run.steady (count + 1)).running_eq_none ?_ ?_) <;>
      rw [after] <;> cases value <;> rfl
  · refine Or.inr ?_
    change ((run.after count).move (run.moves count)).kernel.running = _
    rcases Machine.move_of_busy (by rw [control]; rfl) steps with
      ⟨fault, same⟩ | ⟨registry, world, same⟩ <;> rw [same]

/-- Whoever runs after a move and did not run before is picked with it. -/
theorem picked_of_running
    (elsewhere : (run.after count).kernel.running ≠ some task)
    (running : (run.after (count + 1)).kernel.running = some task) :
    run.picked? count = some task := by
  have steady := run.steady count
  refine picked?_eq_some_iff.mpr ⟨?_, running⟩
  have turns : (run.after count).control.turns = true := by
    by_contra calm
    have same := (run.accounted count).running_eq
      (fun other accounts => calm (accounts.turns rfl))
      (fun other accounts => calm (accounts.turns rfl))
    exact elsewhere (same.symm.trans running)
  cases control : (run.after count).control with
  | pick =>
      exact steady.running_eq_none (by rw [control]; rfl) (by rw [control]; rfl)
  | body role program =>
      rw [control] at turns
      cases role with
      | close closing => cases turns
      | slice busy =>
          cases program with
          | ask => cases turns
          | pure result =>
              rcases running_of_slice_ended control with idle | same
              · cases idle.symm.trans running
              · exact absurd (same.symm.trans running) elsewhere
  | _ =>
      rw [control] at turns
      cases turns

/-- Whoever runs and did not run some time before was picked since. -/
theorem exists_picked_of_running (later : first ≤ last)
    (elsewhere : (run.after first).kernel.running ≠ some task)
    (running : (run.after last).kernel.running = some task) :
    ∃ began, first ≤ began ∧ began < last ∧ run.picked? began = some task := by
  induction last, later using Nat.le_induction with
  | base => exact absurd running elsewhere
  | succ last later ih =>
      by_cases already : (run.after last).kernel.running = some task
      · obtain ⟨began, since, early, picked⟩ := ih already
        exact ⟨began, since, Nat.lt_succ_of_lt early, picked⟩
      · exact ⟨last, later, Nat.lt_succ_self last,
          picked_of_running already running⟩

/-- Where the loop picks a task, it is the head of the line. -/
theorem exists_picked (control : (run.after count).control = .pick)
    (steps : run.moves count = .step) :
    ∃ task, run.picked? count = some task ∧
      (run.after count).line = task :: (run.after (count + 1)).line := by
  have steady := run.steady count
  obtain ⟨_, dispatching⟩ := run.dispatching count (by rw [control]; rfl)
  obtain ⟨_, task, rest, _, program, queued, _, head, _, slice, running, left⟩ :=
    dispatching.begins steady control
  rw [← after_succ steps] at slice running left
  have idle := steady.running_eq_none (by rw [control]; rfl)
    (by rw [control]; rfl)
  refine ⟨task, picked?_eq_some_iff.mpr ⟨idle, running⟩, ?_⟩
  rw [Machine.line_of_ready control queued, head,
    Machine.line_of_turning (by rw [slice]; exact fun same => nomatch same),
    left]

/-- No slice begins where there is a fault. -/
theorem slices_of_faulted
    (faulted : (run.after (count + 1)).control.isFaulted = true) :
    run.slices (count + 1) = run.slices count := by
  have counted := run.slices_succ count
  cases picked : run.picked? count with
  | none =>
      rw [picked] at counted
      exact counted
  | some task =>
      obtain ⟨control, steps⟩ := pick_of_picked picked
      obtain ⟨_, _, _, _, _, _, slice, _⟩ := run.picks count control
      rw [after_succ steps, slice] at faulted
      cases faulted

/-! ### What a move does to the line -/

/-- Expired sleepers and the task that yielded come behind the run queue. -/
theorem line_of_pick (control : (run.after count).control = .pick) :
    (run.after count).line = (run.after count).runQueue ++
      ((run.after count).kernel.roster.expired (run.after count).kernel.now ++
        (run.after count).yielded.toList) := by
  obtain ⟨_, dispatching⟩ := run.dispatching count (by rw [control]; rfl)
  obtain ⟨_, _, _, _, _, queued, rouses, _⟩ :=
    dispatching.begins (run.steady count) control
  rw [Machine.line_of_ready control queued]
  exact rouses.queued

theorem nodup_line (run : Run S) (count : Nat) :
    (run.after count).line.Nodup := by
  have steady := run.steady count
  by_cases control : (run.after count).control = .pick
  · obtain ⟨_, dispatching⟩ := run.dispatching count (by rw [control]; rfl)
    obtain ⟨_, _, _, _, _, queued, _⟩ := dispatching.begins steady control
    rw [Machine.line_of_ready control queued]
    exact Kernel.nodup_queued
      (steady.placed_of_queueUp control queued).wellformed
  · rw [Machine.line_of_turning control]
    exact Kernel.nodup_queued steady.placed.wellformed

/-- Whoever is on the run queue has the same place in line. -/
private theorem keepsPlace_line (run : Run S) (count : Nat)
    (task : TaskHandle) :
    KeepsPlace task (run.after count).runQueue (run.after count).line := by
  by_cases control : (run.after count).control = .pick
  · rw [line_of_pick control]
    exact .append _ _ _
  · rw [Machine.line_of_turning control]
    exact .refl _ _

/-- The end of a slice takes nobody off the run queue. -/
private theorem keepsPlace_of_slice {busy : TaskHandle} {step : S.Step}
    {body : S.Body}
    (control : (run.after count).control =
      .body (.slice busy) (.pure (step, body)))
    (steps : run.moves count = .step) :
    KeepsPlace task (run.after count).runQueue
      (run.after (count + 1)).runQueue := by
  intro inside
  have steady := run.steady count
  have wellformed := steady.placed.wellformed
  have running := steady.running_of_slice control
  have different : busy ≠ task :=
    (ne_of_mem_of_not_mem inside (notMem_queued_of_running running)).symm
  have ended := Kernel.endSlice_evolves wellformed body running
  have same : (Kernel.endSlice _ busy body).roster.queued =
      (run.after count).runQueue := ended.queued wellformed rfl
  obtain ⟨value, scheduler, applied, moved⟩ := steady.exists_applied control
  have places := applied.keepsPlace (ended.wellformed wellformed) different
  rw [after_succ steps, moved]
  exact places (same.symm ▸ inside) |>.imp id fun fewer => same ▸ fewer

/-- What is no step changes nothing in the line, if it is no fault. -/
theorem line_of_busy (busy : (run.after count).control.isIdle = false)
    (other : run.moves count ≠ .step)
    (unfaulted : (run.after (count + 1)).control.isFaulted = false) :
    (run.after (count + 1)).control = (run.after count).control ∧
      (run.after (count + 1)).line = (run.after count).line := by
  have moved : run.after (count + 1) =
      (run.after count).move (run.moves count) := rfl
  rcases Machine.move_of_busy busy other with
    ⟨fault, same⟩ | ⟨registry, world, same⟩
  · rw [moved, same] at unfaulted
    cases unfaulted
  · rw [same] at moved
    have control : (run.after (count + 1)).control =
        (run.after count).control := by rw [moved]
    refine ⟨control, ?_⟩
    by_cases picks : (run.after count).control = .pick
    · rw [line_of_pick picks, line_of_pick (control.trans picks), moved]
      rfl
    · rw [Machine.line_of_turning picks,
        Machine.line_of_turning (control ▸ picks), moved]
      rfl

inductive Files (run : Run S) (count : Nat) : Prop
  | picks {task : TaskHandle} (picked : run.picked? count = some task)
      (line : (run.after count).line =
        task :: (run.after (count + 1)).line)
  | keeps (nobody : run.picked? count = none)
      (places : ∀ task, run.closes task count = false →
        KeepsPlace task (run.after count).line (run.after (count + 1)).line)
  | fails (nobody : run.picked? count = none)
      (faulted : (run.after (count + 1)).control.isFaulted = true)

private theorem keepsPlace_of_calm
    (calm : (run.after count).control.turns = false)
    (survives : run.closes task count = false) :
    KeepsPlace task (run.after count).line (run.after (count + 1)).line := by
  have turning : (run.after count).control ≠ .pick := by
    intro control
    rw [control] at calm
    cases calm
  rw [Machine.line_of_turning turning]
  refine KeepsPlace.trans ((run.accounted count).keepsPlace
    (run.wellformed count) fun deed accounts => ?_)
    (run.keepsPlace_line (count + 1) task)
  refine ⟨Deed.isOfTurn_of_turns ?_, ?_⟩
  · by_contra turns
    rw [accounts.turns (eq_true_of_ne_false turns)] at calm
    cases calm
  · rintro rfl
    cases accounts.dies rfl with
    | slice steps control exits dead =>
        rw [control] at calm
        cases calm
    | close same closings dead =>
        rw [closes_iff.mpr ⟨_, same, closings⟩] at survives
        cases survives

private theorem keepsPlace_of_turns
    (turns : (run.after count).control.turns = true)
    (steps : run.moves count = .step) (nobody : run.picked? count = none) :
    KeepsPlace task (run.after count).line (run.after (count + 1)).line := by
  cases control : (run.after count).control with
  | pick =>
      obtain ⟨head, picked, _⟩ := exists_picked control steps
      cases nobody.symm.trans picked
  | body role program =>
      have turning : (run.after count).control ≠ .pick := by
        rw [control]
        exact fun same => nomatch same
      rw [control] at turns
      cases role with
      | close closing => cases turns
      | slice busy =>
          cases program with
          | ask request rest => cases turns
          | pure result =>
              rw [Machine.line_of_turning turning]
              exact (keepsPlace_of_slice control steps).trans
                (run.keepsPlace_line (count + 1) task)
  | _ =>
      rw [control] at turns
      cases turns

/-- Only a pop takes the head of the line, and only a kill takes anybody else
out of it. -/
theorem files (run : Run S) (count : Nat) : run.Files count := by
  cases picked : run.picked? count with
  | some task =>
      obtain ⟨control, steps⟩ := pick_of_picked picked
      obtain ⟨head, known, line⟩ := exists_picked control steps
      exact .picks known line
  | none =>
      cases faulted : (run.after (count + 1)).control.isFaulted with
      | true => exact .fails picked faulted
      | false =>
          refine .keeps picked fun task survives => ?_
          cases turns : (run.after count).control.turns with
          | false => exact keepsPlace_of_calm turns survives
          | true =>
              by_cases steps : run.moves count = .step
              · exact keepsPlace_of_turns turns steps picked
              · have busy := Control.isIdle_of_turns turns
                rw [(line_of_busy busy steps faulted).2]
                exact .refl _ _

/-! ### Waiting in line -/

/-- Since the first moment nobody came before the task who was not before it
then, and every slice that began was that of one of those. -/
structure Waits (run : Run S) (task : TaskHandle) (first count : Nat) :
    Prop where
  inside : task ∈ (run.after count).line
  ahead : (ahead task (run.after count).line).Sublist
    (ahead task (run.after first).line)
  slices : run.slices count + (EventScheduler.ahead task
      (run.after count).line).length ≤
    run.slices first + (EventScheduler.ahead task
      (run.after first).line).length

theorem waits_self (inside : task ∈ (run.after count).line) :
    run.Waits task count count :=
  ⟨inside, List.Sublist.refl _, Nat.le_refl _⟩

/-- A task waits on until its slice begins or it is killed. -/
theorem Waits.succ (waits : run.Waits task first count)
    (stays : ¬ run.Vacates task count)
    (unfaulted : (run.after (count + 1)).control.isFaulted = false) :
    run.Waits task first (count + 1) := by
  obtain ⟨inside, fewer, slices⟩ := waits
  cases run.files count with
  | @picks head picked line =>
      have different : head ≠ task := by
        rintro rfl
        exact stays (Or.inl picked)
      have counted := run.slices_succ count
      rw [picked] at counted
      rw [line] at inside
      rw [line, ahead_cons_of_ne different] at fewer slices
      rw [List.length_cons] at slices
      refine ⟨List.mem_of_ne_of_mem (Ne.symm different) inside,
        (List.sublist_cons_self _ _).trans fewer, ?_⟩
      rw [counted]
      simp only [Option.isSome_some, Bool.toNat_true]
      omega
  | keeps nobody places =>
      have survives : run.closes task count = false := by
        by_contra closes
        exact stays (Or.inr (eq_true_of_ne_false closes))
      have counted := run.slices_succ count
      rw [nobody] at counted
      obtain ⟨still, left⟩ := places task survives inside
      refine ⟨still, left.trans fewer, ?_⟩
      have shorter := left.length_le
      rw [counted]
      simp only [Option.isSome_none, Bool.toNat_false]
      omega
  | fails nobody faulted =>
      rw [unfaulted] at faulted
      cases faulted

/-- Later, a task that was in line has left its place, still waits, or waited
until there was a fault. -/
theorem vacates_or_waits (inside : task ∈ (run.after first).line)
    (later : first ≤ last) :
    (∃ between, first ≤ between ∧ between < last ∧
        run.slices between ≤ run.slices first +
          (ahead task (run.after first).line).length ∧
        run.Vacates task between) ∨
      run.Waits task first last ∨
      (run.after last).control.isFaulted = true ∧
        run.slices last ≤ run.slices first +
          (ahead task (run.after first).line).length := by
  induction last, later using Nat.le_induction with
  | base => exact Or.inr (Or.inl (waits_self inside))
  | succ last later ih =>
      rcases ih with ⟨between, since, early, bound, vacates⟩ | waits |
        ⟨faulted, bound⟩
      · exact Or.inl
          ⟨between, since, Nat.lt_succ_of_lt early, bound, vacates⟩
      · have bound := Nat.le_of_add_right_le waits.slices
        by_cases vacates : run.Vacates task last
        · exact Or.inl ⟨last, later, Nat.lt_succ_self last, bound, vacates⟩
        · cases faulted : (run.after (last + 1)).control.isFaulted with
          | false => exact Or.inr (Or.inl (waits.succ vacates faulted))
          | true =>
              refine Or.inr (Or.inr ⟨rfl, ?_⟩)
              rw [slices_of_faulted faulted]
              exact bound
      · have still : (run.after (last + 1)).control.isFaulted = true := by
          by_contra unfaulted
          rw [(run.transition last).isFaulted
            (Bool.eq_false_iff.mpr unfaulted)] at faulted
          cases faulted
        refine Or.inr (Or.inr ⟨still, ?_⟩)
        rw [slices_of_faulted still]
        exact bound

end Run

end EventScheduler
