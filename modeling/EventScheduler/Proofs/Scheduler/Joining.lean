import EventScheduler.Proofs.Kernel.Lines
import EventScheduler.Proofs.Kernel.Rouses
import EventScheduler.Proofs.Scheduler.Closes

/-!
# Joining a task

Who joined a task stays among its joiners as long as both live.  However the
task dies, when its death is over every joiner that still lives is active, those
that were waiting went to the run queue in the order in which they joined, and
each learns from another join how the task ended.
-/

namespace EventScheduler

variable {S : Signature}

namespace Kernel

variable {kernel next : Kernel S} {task joiner : TaskHandle}

def joinersOf (kernel : Kernel S) (task : TaskHandle) : List TaskHandle :=
  match kernel.tasks.entry task with
  | .ok entry => entry.joiners.toList
  | .error _ => []

theorem joinersOf_eq (wellformed : kernel.Wellformed) (task : TaskHandle) :
    kernel.joinersOf task = kernel.roster.joinersOf task := by
  unfold joinersOf Roster.joinersOf Roster.entryOf TaskTable.entry
  rw [wellformed.holds.find?]
  cases kernel.roster.find? task <;> rfl

private theorem exists_of_join
    (pending : (kernel.join task joiner).1 = .ok .pending) :
    ∃ added tasks, kernel.tasks.addJoiner task joiner = .ok (added, tasks) ∧
      (kernel.join task joiner).2 = { kernel with tasks } := by
  unfold join at pending ⊢
  split at pending
  · cases pending
  next different =>
    rw [if_neg different]
    split at pending
    · cases pending
    · cases pending
    next undecided =>
      split at pending
      next alive =>
        split at pending
        · cases pending
        next added tasks done =>
          rw [if_pos alive]
          exact ⟨added, tasks, done, rfl⟩
      · cases pending

/-- A task that is to wait for another is registered behind the others. -/
theorem joinersOf_of_join (wellformed : kernel.Wellformed)
    (pending : (kernel.join task joiner).1 = .ok .pending) :
    (kernel.join task joiner).2.roster.joinersOf task =
      if joiner ∈ kernel.roster.joinersOf task then kernel.roster.joinersOf task
      else kernel.roster.joinersOf task ++ [joiner] := by
  obtain ⟨added, tasks, done, joined⟩ := exists_of_join pending
  obtain ⟨known, performed, holds⟩ := wellformed.holds.addJoiner task joiner
  rw [done] at performed
  cases answer : (kernel.roster.addJoiner task joiner).1 with
  | error error =>
      rw [answer] at performed
      cases performed
  | ok flag =>
      rw [answer] at performed
      cases performed
      rw [joined, roster_of_holds rfl holds]
      exact Roster.joinersOf_addJoiner answer

/-- Whoever is resumed and lives is active, and those that waited are on the run
queue now. -/
theorem served_of_resumeAll {capacity : Nat} {set : TaskSet capacity}
    {woke : Bool} (wellformed : kernel.Wellformed) (nodup : set.toList.Nodup)
    (done : kernel.resumeAll set = .ok (woke, next)) :
    next.roster.queued =
        kernel.roster.queued ++ set.toList.filter kernel.roster.isWaiting ∧
      ∀ joiner ∈ set.toList, next.roster.Alive joiner →
        next.roster.stateOf joiner = some .active := by
  have rouses := (resumeAll_wakens wellformed done).rouses.roster
  rw [Roster.wakened_of_nodup nodup] at rouses
  refine ⟨rouses.queued, fun joiner inside alive => ?_⟩
  obtain ⟨state, known, notDead⟩ := Roster.alive_iff_stateOf.mp alive
  have woken : next.roster.isWaiting joiner = false := by
    simp only [rouses.isWaiting, List.mem_filter]
    cases kernel.roster.isWaiting joiner <;> simp [inside]
  rw [Roster.isWaiting_eq_stateOf, known, Option.any_some] at woken
  cases state with
  | active => exact known
  | dead exit => cases notDead
  | suspended | timer => cases woken

end Kernel

namespace Machine

variable [Application S] {machine : Machine S} {task joiner : TaskHandle}
  {move : Move S}

inductive Joins (machine : Machine S) (task joiner : TaskHandle) :
    Move S → Prop
  | asked {role : Role}
      {rest : Except Error (Readiness S.Exit) → Program S (role.Result S)}
      {kernel : Kernel S}
      (control : machine.control = .body role (.ask (.join task) rest))
      (current : role.task = joiner)
      (pending : machine.kernel.perform joiner (.join task) =
        .ok (.answered (.ok .pending) kernel)) :
      Joins machine task joiner .step

theorem Joins.joinersOf (joins : machine.Joins task joiner move)
    (wellformed : machine.kernel.Wellformed) :
    (machine.move move).kernel.roster.joinersOf task =
      if joiner ∈ machine.kernel.roster.joinersOf task then
        machine.kernel.roster.joinersOf task
      else machine.kernel.roster.joinersOf task ++ [joiner] := by
  cases joins with
  | asked control current pending =>
      subst current
      rw [move_of_answered control pending]
      obtain ⟨answer, same⟩ := Started.answered.inj (Except.ok.inj pending)
      rw [← same]
      exact Kernel.joinersOf_of_join wellformed answer

end Machine

namespace Run

variable [Application S] {run : Run S} {count first : Nat} {task : TaskHandle}
  {exit : S.Exit}

theorem nodup_joinersOf (run : Run S) (task : TaskHandle) (count : Nat) :
    ((run.after count).kernel.roster.joinersOf task).Nodup := by
  induction count with
  | zero =>
      have nobody : (run.after 0).kernel.roster = .empty :=
        Kernel.roster_new run.world
      unfold Roster.joinersOf
      rw [nobody, Roster.entryOf_empty]
      exact List.nodup_nil
  | succ count ih =>
      exact (run.accounted count).nodup_joinersOf
        (run.wellformed count) ih

theorem sublist_joinersOf {waiting : List TaskHandle} {last : Nat}
    (inside : waiting.Sublist ((run.after count).kernel.roster.joinersOf task))
    (after : count ≤ last)
    (alive : ∀ between, count ≤ between → between ≤ last →
      (run.after between).kernel.roster.Alive task ∧
        ∀ joiner ∈ waiting, (run.after between).kernel.roster.Alive joiner) :
    waiting.Sublist ((run.after last).kernel.roster.joinersOf task) := by
  induction last, after using Nat.le_induction with
  | base => exact inside
  | succ last after ih =>
      obtain ⟨aliveBefore, allBefore⟩ :=
        alive last after (Nat.le_succ last)
      obtain ⟨aliveAfter, allAfter⟩ :=
        alive (last + 1) (Nat.le_succ_of_le after) (Nat.le_refl _)
      refine (run.accounted last).sublist_joinersOf
        (run.wellformed last) (fun deed other accounts starts => ?_)
        aliveAfter allAfter (ih fun between since early =>
          alive between since (Nat.le_succ_of_le early))
      constructor
      · rintro rfl
        exact not_started accounts aliveBefore starts
      · intro member
        exact not_started accounts (allBefore other member) starts

/-! ### Deaths from beginning to end -/

/-- A task is marked dead in move `first`, and with move `last` its death is
over: it ends its slice, or it is killed and closed. -/
inductive Dies (run : Run S) (task : TaskHandle) (first : Nat) :
    S.Exit → Nat → Prop
  | ends {step : S.Step} {body : S.Body} {exit : S.Exit}
      (control : (run.after first).control =
        .body (.slice task) (.pure (step, body)))
      (steps : run.moves first = .step) (exits : step.exit? = some exit) :
      Dies run task first exit first
  | killed {closing : Closing} {last : Nat} (killed : closing.task = task)
      (begins : run.begun? first = some closing) (later : first < last)
      (inside : ∀ between, first < between → between ≤ last →
        closing ∈ (run.after between).closings)
      (control : (run.after last).control = .body (.close closing) (.pure ()))
      (steps : run.moves last = .step) :
      Dies run task first .cancelled last

/-- What becomes of the tasks that had joined a task once its death is over. -/
structure Serves (run : Run S) (task : TaskHandle) (exit : S.Exit)
    (joiners : List TaskHandle) (last : Nat) : Prop where
  runQueue : (run.after (last + 1)).runQueue = (run.after last).runQueue ++
    joiners.filter (run.after last).kernel.isWaiting
  active {joiner : TaskHandle} : joiner ∈ joiners →
    (run.after (last + 1)).kernel.isAlive joiner = true →
    (run.after (last + 1)).state joiner = .ok .active
  /-- Until the task is reaped, whoever joins it again learns how it ended. -/
  answers {joiner : TaskHandle} {later : Nat} : joiner ∈ joiners →
    last < later →
    (∀ between, last < between → between < later →
      run.moves between ≠ .operate (.reap task)) →
    (run.after later).kernel.perform joiner (.join task) =
      .ok (.answered (.ok (.ready exit)) (run.after later).kernel)

theorem notMem_joinersOf (run : Run S) (task : TaskHandle) (count : Nat) :
    task ∉ (run.after count).kernel.roster.joinersOf task := by
  unfold Roster.joinersOf
  cases known : (run.after count).kernel.roster.entryOf task with
  | none => exact List.not_mem_nil
  | some entry =>
      obtain ⟨index, found⟩ := Roster.entryOf_eq_some_iff.mp known
      obtain ⟨fits, present⟩ := Roster.find?_eq_some_iff.mp found
      have apart := (run.related count).joined.apart present
      rwa [fits] at apart

/-- The joiners are resumed as they are when the death is over. -/
private theorem serves_of_resumed {joiners : TaskSet maxJoiners} {woke : Bool}
    {last : Nat} {middle final : Kernel S}
    (dead : (run.after (last + 1)).kernel.roster.stateOf task =
      some (.dead exit))
    (joined : joiners.toList = (run.after first).kernel.roster.joinersOf task)
    (wellformed : middle.Wellformed)
    (queued : middle.roster.queued = (run.after last).kernel.roster.queued)
    (waits : ∀ joiner ∈ joiners.toList, middle.roster.isWaiting joiner =
      (run.after last).kernel.roster.isWaiting joiner)
    (resumed : middle.resumeAll joiners = .ok (woke, final))
    (tasks : (run.after (last + 1)).kernel.tasks = final.tasks) :
    run.Serves task exit joiners.toList last := by
  have nodup := run.nodup_joinersOf task first
  rw [← joined] at nodup
  have roster : (run.after (last + 1)).kernel.roster = final.roster :=
    congrArg TaskTable.roster tasks
  obtain ⟨line, active⟩ :=
    Kernel.served_of_resumeAll wellformed nodup resumed
  constructor
  case runQueue =>
    change (run.after (last + 1)).kernel.roster.queued =
      (run.after last).kernel.roster.queued ++ _
    rw [roster, line, queued]
    congr 1
    refine List.filter_congr fun joiner inside => ?_
    rw [waits joiner inside,
      Kernel.isWaiting_eq (run.wellformed last)]
  case active =>
    intro joiner inside alive
    have alive := (run.isAlive_iff (last + 1)).mp alive
    rw [run.state_eq_ok_iff, roster]
    exact active joiner inside (roster ▸ alive)
  case answers =>
    intro joiner later inside after unreaped
    have different : joiner ≠ task := by
      rintro rfl
      rw [joined] at inside
      exact run.notMem_joinersOf joiner first inside
    have still := dead_of_le dead after fun between since early =>
      unreaped between since early
    have departed := (run.steady later).departed_of_dead (run.related later) still
    exact departed.kernel.joins different

/-- The running task is on no list. -/
theorem notMem_queued_of_running
    (running : (run.after count).kernel.running = some task) :
    task ∉ (run.after count).kernel.roster.queued := by
  have placed := (run.steady count).placed
  rw [Machine.stray_of_running running] at placed
  obtain ⟨index, entry, found, _, off, _⟩ := placed.exists_stray
  intro inside
  obtain ⟨slot, member, named⟩ := List.mem_map.mp inside
  have fits := (Roster.find?_eq_some_iff.mp found).1
  rw [← (run.after count).kernel.roster.handleAt_injective
    (named.trans fits.symm)] at off
  exact off member

private theorem serves_of_ends {step : S.Step} {body : S.Body}
    (control : (run.after first).control =
      .body (.slice task) (.pure (step, body)))
    (steps : run.moves first = .step) (exits : step.exit? = some exit) :
    run.Serves task exit ((run.after first).kernel.roster.joinersOf task)
      first := by
  have steady := run.steady first
  have wellformed := steady.placed.wellformed
  have running := steady.running_of_slice control
  have dead := (Ends.slice control steps exits).dead.2
  obtain ⟨value, scheduler, applied, moved⟩ := steady.exists_applied control
  have after := (after_succ steps).trans moved
  have ended := Kernel.endSlice_evolves wellformed body running
  cases applied with
  | yields => cases exits
  | parks change goesOn => cases goesOn.symm.trans exits
  | @ends _ recorded buried kernel _ _ _ joiners _ woke before dies wakes left
      known retires resumed reported =>
      -- Nothing between the end of the slice and the resuming of the joiners
      -- touches a joiner or the run queue, apart from the dead task itself.
      have evolves : Kernel.Evolves (fun deed => deed = .quiet ∨
          ∃ other, deed = .ends other) (run.after first).kernel recorded :=
        (Kernel.Evolves.single ended (Or.inr ⟨task, rfl⟩)).trans
          (before.mono fun _ => Or.inl)
      have recordedToo := evolves.wellformed wellformed
      have joined : joiners.toList =
          (run.after first).kernel.roster.joinersOf task :=
        retires.joinersOf.symm.trans
          (evolves.joinersOf_eq wellformed (fun _ => id) task)
      have kept := evolves.queued_eq wellformed (by
        rintro deed (rfl | ⟨other, rfl⟩) <;> exact ⟨rfl, fun _ => rfl⟩)
      rw [← joined]
      refine serves_of_resumed dead joined
        (dies.evolves.wellformed recordedToo) ?_ ?_ resumed ?_
      · rw [dies.queued recordedToo, kept, List.filter_eq_self]
        intro other inside
        have absent := notMem_queued_of_running running
        simpa using ne_of_mem_of_not_mem inside absent
      · intro joiner inside
        have different : joiner ≠ task := by
          rintro rfl
          rw [joined] at inside
          exact run.notMem_joinersOf joiner first inside
        have same : recorded.roster.stateOf joiner =
            (run.after first).kernel.roster.stateOf joiner := by
          refine evolves.stateOf_eq wellformed ?_
          rintro deed (rfl | ⟨other, rfl⟩) concerns <;> cases concerns with
          | starts impossible => cases impossible
        have sameToo : buried.roster.stateOf joiner =
            recorded.roster.stateOf joiner := by
          refine dies.evolves.stateOf_eq recordedToo ?_
          rintro deed (rfl | rfl) concerns
          · cases concerns with
            | starts impossible => cases impossible
          · cases concerns with
            | starts impossible => cases impossible
            | dies => exact different rfl
        rw [Roster.isWaiting_eq_stateOf, Roster.isWaiting_eq_stateOf, sameToo,
          same]
      · rw [after]

/-- After the close of a task its joiners are resumed as they are then. -/
private theorem serves_of_killed {closing : Closing} {last : Nat}
    (begins : run.begun? first = some closing)
    (inside : closing ∈ (run.after last).closings)
    (control : (run.after last).control = .body (.close closing) (.pure ()))
    (steps : run.moves last = .step) :
    closing.joiners.toList =
        (run.after first).kernel.roster.joinersOf closing.task ∧
      run.Serves closing.task .cancelled closing.joiners.toList last := by
  have steady := run.steady last
  have wellformed := steady.placed.wellformed
  obtain ⟨body, began, _⟩ := (run.nests first).begun (begun?_eq_some_iff.mp begins)
  have joined : closing.joiners.toList =
      (run.after first).kernel.roster.joinersOf closing.task :=
    began.begins.retires.joinersOf.symm
  have dead := dead_succ (dead_of_mem_closings inside)
    (not_idle_of_closings (List.ne_nil_of_mem inside))
  have harmless : FaultsOnly (fun _ => False)
      ((run.after last).kernel.complete closing) :=
    Kernel.complete_faultsOnly wellformed closing
  obtain ⟨⟨verdict, kernel⟩, done⟩ := harmless.exists_ok
  obtain ⟨woke, middle, _, resumed, settles⟩ :=
    Kernel.complete_evolves wellformed done
  have after : run.after (last + 1) = { run.after last with
      kernel
      control := .verdict verdict } :=
    (after_succ steps).trans (Machine.move_of_closed control done)
  have kept := (middle.settle_keeps closing.errand).1
  rw [settles] at kept
  refine ⟨joined, serves_of_resumed dead joined wellformed rfl
    (fun _ _ => rfl) resumed ?_⟩
  rw [after]
  exact kept

/-- Whatever is being closed began to be closed, and was closed ever since. -/
theorem exists_begun {closing : Closing}
    (inside : closing ∈ (run.after count).closings) :
    ∃ first, first < count ∧ run.begun? first = some closing ∧
      ∀ between, first < between → between ≤ count →
        closing ∈ (run.after between).closings := by
  induction count with
  | zero => cases inside
  | succ count ih =>
      have since (before : closing ∈ (run.after count).closings) :
          ∃ first, first < count + 1 ∧ run.begun? first = some closing ∧
            ∀ between, first < between → between ≤ count + 1 →
              closing ∈ (run.after between).closings := by
        obtain ⟨first, early, begins, member⟩ := ih before
        refine ⟨first, Nat.lt_succ_of_lt early, begins,
          fun between after late => ?_⟩
        rcases Nat.le_succ_iff.mp late with earlier | rfl
        · exact member between after earlier
        · exact inside
      cases run.nests count with
      | begins _ _ closings =>
          have known := inside
          rw [closings] at known
          rcases List.mem_cons.mp known with rfl | already
          · refine ⟨count, Nat.lt_succ_self count,
              begun?_eq_some_iff.mpr closings, fun between after late => ?_⟩
            obtain rfl : between = count + 1 := by omega
            exact inside
          · exact since already
      | ends _ _ _ closings =>
          exact since (closings ▸ List.mem_cons_of_mem _ inside)
      | keeps closings => exact since (closings ▸ inside)
      | fails _ closings => exact since (closings.subset inside)

/-- The end of a close is the end of a death, and it resumes the joiners that the
task had when it was killed. -/
theorem exists_dies_of_closes {closing : Closing}
    (control : (run.after count).control = .body (.close closing) (.pure ()))
    (steps : run.moves count = .step) :
    ∃ first, first < count ∧ run.Dies closing.task first .cancelled count ∧
      (run.after first).kernel.roster.joinersOf closing.task =
        closing.joiners.toList := by
  have inside : closing ∈ (run.after count).closings := by
    rw [Machine.closings_of_body control]
    exact List.mem_cons_self
  obtain ⟨first, early, begins, since⟩ := exists_begun inside
  obtain ⟨body, began, _⟩ :=
    (run.nests first).begun (begun?_eq_some_iff.mp begins)
  exact ⟨first, early, .killed rfl begins early since control steps,
    began.begins.retires.joinersOf⟩

/-- What becomes of the tasks that join others. -/
structure NeverStrands (run : Run S) (count : Nat) : Prop where
  /-- Whoever is to wait for a task is the last of its joiners, unless it is one
  of them already. -/
  registers {task joiner : TaskHandle} :
    (run.after count).Joins task joiner (run.moves count) →
      (run.after (count + 1)).kernel.joinersOf task =
        if joiner ∈ (run.after count).kernel.joinersOf task then
          (run.after count).kernel.joinersOf task
        else (run.after count).kernel.joinersOf task ++ [joiner]
  /-- Joiners stay what they are, in the same order, as long as they and the task
  live. -/
  stays {task : TaskHandle} {waiting : List TaskHandle} {last : Nat} :
    waiting.Sublist ((run.after count).kernel.joinersOf task) → count ≤ last →
      (∀ between, count ≤ between → between ≤ last →
        (run.after between).kernel.isAlive task = true ∧
          ∀ joiner ∈ waiting,
            (run.after between).kernel.isAlive joiner = true) →
      waiting.Sublist ((run.after last).kernel.joinersOf task)
  /-- However a task dies, the tasks that had joined it are served. -/
  serves {task : TaskHandle} {exit : S.Exit} {last : Nat} :
    run.Dies task count exit last →
      run.Serves task exit ((run.after count).kernel.joinersOf task) last
  /-- The end of a close is the end of such a death. -/
  dies {closing : Closing} :
    (run.after count).control = .body (.close closing) (.pure ()) →
      run.moves count = .step →
      ∃ first, first < count ∧ run.Dies closing.task first .cancelled count

/-- Nobody waits for ever for a task that has died. -/
theorem neverStrands (run : Run S) (count : Nat) : run.NeverStrands count := by
  have joiners (count : Nat) (task : TaskHandle) :=
    Kernel.joinersOf_eq (run.wellformed count) task
  constructor
  case registers =>
    intro task joiner joins
    rw [joiners, joiners]
    exact joins.joinersOf (run.wellformed count)
  case stays =>
    intro task waiting last inside after alive
    rw [joiners] at inside ⊢
    refine sublist_joinersOf inside after fun between since early => ?_
    obtain ⟨lives, allLive⟩ := alive between since early
    refine ⟨(run.isAlive_iff between).mp lives, ?_⟩
    intro joiner member
    exact (run.isAlive_iff between).mp (allLive joiner member)
  case serves =>
    intro task exit last dies
    rw [joiners]
    cases dies with
    | ends control steps exits => exact serves_of_ends control steps exits
    | killed killed begins later inside control steps =>
        obtain ⟨joined, serves⟩ := serves_of_killed begins
          (inside last later (Nat.le_refl last)) control steps
        rw [joined, killed] at serves
        exact serves
  case dies =>
    intro closing control steps
    obtain ⟨first, early, dies, _⟩ := exists_dies_of_closes control steps
    exact ⟨first, early, dies⟩

end Run

end EventScheduler
