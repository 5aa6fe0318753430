import EventScheduler.Proofs.HandlerTask
import EventScheduler.Proofs.Scheduler.Bodies
import EventScheduler.Proofs.Scheduler.Line
import EventScheduler.Proofs.Scheduler.Shutdown

/-!
# What a handler task has called

From the start of a handler task on, its thread is at a stage of a slice or of
its close, or its body is kept with a loop that has not ended, or it is dead and
its loop has ended.  In each case it is known which callbacks were called.
-/

namespace EventScheduler

variable {S : Signature} [Application S] {Callbacks : Type}
  [EventHandler S Callbacks]

namespace HandlerTask

/-- The marks after those of the slices that went well, at a stage of a program.
-/
inductive Progress : Role → Stage → List Mark → Prop
  | handles {task : TaskHandle} : Progress (.slice task) .handles []
  | failed {task : TaskHandle} : Progress (.slice task) .stops [.failure]
  | failedAndCleaned {task : TaskHandle} :
      Progress (.slice task) .cleans [.failure, .done]
  | killed {closing : Closing} : Progress (.close closing) .stops []
  | killedAndCleaned {closing : Closing} :
      Progress (.close closing) .cleans [.done]

end HandlerTask

namespace Forwarding

open HandlerTask

variable {forwarding : Forwarding S Callbacks} {event : EventHandle}
  {role : Role} {stage : Stage} {ending : List Mark}

/-- The body holds a handler task of the event that has not ended. -/
def Serves (forwarding : Forwarding S Callbacks) (event : EventHandle)
    (body : S.Body) : Prop :=
  ∃ loop, forwarding.loop? body = some loop ∧ loop.event = event ∧
    loop.finished = false

/-- How a slice or a close ends: the task suspends itself for the next
occurrence, or it fails and has been done, or it has been done. -/
def Ends (forwarding : Forwarding S Callbacks) (event : EventHandle) :
    (role : Role) → Stage → role.Result S → Prop
  | .slice _, .handles, (step, body) =>
      step = .suspend ∧ forwarding.Serves event body
  | .slice _, .cleans, (step, _) => ∃ failure, step = .fail failure
  | .close _, .cleans, () => True
  | _, _, _ => False

inductive Works (forwarding : Forwarding S Callbacks) (event : EventHandle) :
    Role → Stage → Thread S Mark → Prop
  | goes {role : Role} {stage : Stage} {rest : Marked S Mark (role.Result S)}
      (abides : Abides event (forwarding.Ends event role) stage rest) :
      Works forwarding event role stage (.goes role rest)
  | waits {role : Role} {stage : Stage}
      {rest : Bool → Marked S Mark (role.Result S)}
      (abides : ∀ verdict,
        Abides event (forwarding.Ends event role) stage (rest verdict)) :
      Works forwarding event role stage (.waits role rest)

/-- A slice of a handler task begins with the callback for an occurrence. -/
theorem exists_program_slice (task : TaskHandle) {body : S.Body}
    (serves : forwarding.Serves event body) :
    ∃ rest, forwarding.marking.program? (.slice task) (some body) =
        some (.passes .handle rest) ∧
      Abides event (forwarding.Ends event (.slice task)) .handles rest := by
  obtain ⟨loop, known, named, fresh⟩ := serves
  obtain ⟨rest, same, abides⟩ : ∃ rest, loop.markedResume.bind
        (fun result =>
          .pure (result.1, forwarding.setLoop body result.2)) =
          .passes .handle rest ∧
      Abides event (forwarding.Ends event (.slice task)) .handles rest := by
    refine exists_markedResume named fresh (fun other named fresh => ?_)
      fun failure other => ?_
    · exact .ends ⟨rfl, other, forwarding.loop?_setLoop other known, named,
        fresh⟩
    · exact .ends ⟨failure, rfl⟩
  refine ⟨rest, ?_, abides⟩
  rw [← same]
  change some (forwarding.marking.resume body) = _
  unfold marking
  dsimp only
  rw [known]
  rfl

/-- The close of a handler task stops watching the event. -/
theorem exists_program_close (closing : Closing) {body : S.Body}
    (serves : forwarding.Serves event body) :
    ∃ program, forwarding.marking.program? (.close closing) (some body) =
        some program ∧
      Abides event (forwarding.Ends event (.close closing)) .stops program := by
  obtain ⟨loop, known, named, fresh⟩ := serves
  refine ⟨_, rfl, ?_⟩
  unfold marking
  dsimp only
  rw [known]
  exact abides_markedCloseTimes named fresh trivial _

/-- A program that goes on passes no mark but that the callback has failed. -/
theorem exists_works_enter {program : Marked S Mark (role.Result S)}
    (abides : Abides event (forwarding.Ends event role) stage program)
    (progress : Progress role stage ending) :
    .done ∉ program.marks ∧ ∃ later,
      forwarding.Works event role later (Thread.enter role program).1 ∧
        Progress role later (ending ++ program.marks) := by
  unfold Thread.enter
  rcases abides.bare with ⟨kept, marks⟩ | ⟨rfl, failed, marks⟩
  · rw [marks, List.append_nil]
    exact ⟨List.not_mem_nil, stage, .goes kept, progress⟩
  · rw [marks]
    cases progress with
    | handles => exact ⟨by simp, .stops, .goes failed, .failed⟩

/-- The request that the callback for the end comes after was answered. -/
theorem exists_works_done {rest : Marked S Mark (role.Result S)}
    (abides : Abides event (forwarding.Ends event role) .cleans rest)
    (progress : Progress role .stops ending) :
    ∃ later, forwarding.Works event role later
        (Thread.enter role (.passes .done rest)).1 ∧
      Progress role later
        (ending ++ (Thread.enter role (.passes .done rest)).2) := by
  unfold Thread.enter
  rcases abides.bare with ⟨kept, marks⟩ | ⟨impossible, _⟩
  · refine ⟨.cleans, .goes kept, ?_⟩
    unfold Marked.marks
    rw [marks]
    cases progress with
    | failed => exact .failedAndCleaned
    | killed => exact .killedAndCleaned
  · cases impossible

variable {thread after : Thread S Mark} {marks : List Mark}
  {machine : Machine S} {move : Move S} {task : TaskHandle}

/-- The next move asks for nothing but that the event is unwatched, and then the
callback for the end is called. -/
def Stops (event : EventHandle) (thread : Thread S Mark) (move : Move S) :
    Prop :=
  ∃ role rest, thread = .goes role (.ask (.unwatch event) rest) ∧ move = .step

/-- What a move can do to a program of a handler task. -/
theorem Works.advances (works : forwarding.Works event role stage thread)
    (progress : Progress role stage ending)
    (advances : Thread.Advances forwarding.marking task machine move thread
      (after, marks)) :
    (∃ later, forwarding.Works event role later after ∧
        Progress role later (ending ++ marks) ∧
        (.done ∈ marks → stage = .stops ∧ Stops event thread move)) ∨
      ∃ result, thread = .goes role (.pure result) ∧ move = .step ∧
        after = .idle ∧ marks = [] ∧ forwarding.Ends event role stage result := by
  cases advances with
  | stays =>
      rw [List.append_nil]
      exact Or.inl ⟨stage, works, progress, nofun⟩
  | begins => cases works
  | @answers _ request reply rest kernel steps done =>
      refine Or.inl ?_
      cases works with
      | goes abides =>
          cases abides with
          | asks calls later =>
              obtain ⟨silent, left⟩ := exists_works_enter (later reply) progress
              obtain ⟨stage, works, progress⟩ := left
              exact ⟨stage, works, progress, fun done => absurd done silent⟩
          | stops later =>
              obtain ⟨stage, works, progress⟩ :=
                exists_works_done (later reply) progress
              exact ⟨stage, works, progress, fun _ => ⟨rfl, role, _, rfl, steps⟩⟩
  | @kills _ request reply rest closing body kernel done =>
      refine Or.inl ?_
      rw [List.append_nil]
      cases works with
      | goes abides =>
          cases abides with
          | asks calls later =>
              exact ⟨stage, .waits fun _ => later _, progress, nofun⟩
          | stops => cases done
  | returns verdict =>
      cases works with
      | waits abides =>
          obtain ⟨silent, left⟩ := exists_works_enter (abides verdict) progress
          obtain ⟨stage, works, progress⟩ := left
          exact Or.inl ⟨stage, works, progress, fun done => absurd done silent⟩
  | ends steps =>
      cases works with
      | goes abides =>
          cases abides with
          | ends fits => exact Or.inr ⟨_, rfl, steps, rfl, rfl, fits⟩

/-- No program begins with the callback for the end. -/
theorem done_notMem_marks {program : Marked S Mark (role.Result S)}
    {body : S.Body} (serves : forwarding.Serves event body)
    (known : forwarding.marking.program? role (some body) = some program) :
    .done ∉ program.marks := by
  cases role with
  | slice task =>
      obtain ⟨rest, same, abides⟩ :=
        Forwarding.exists_program_slice task serves
      cases known.symm.trans same
      have silent := (exists_works_enter abides .handles).1
      exact fun inside => silent ((List.mem_cons.mp inside).resolve_left nofun)
  | close closing =>
      obtain ⟨rest, same, abides⟩ :=
        Forwarding.exists_program_close closing serves
      cases known.symm.trans same
      exact (exists_works_enter abides .killed).1

theorem Works.role?_eq (works : forwarding.Works event role stage thread) :
    thread.role? = some role := by
  cases works <;> rfl

end Forwarding

/-! ### Runs -/

namespace Run

open HandlerTask

section Threads

variable {Mark : Type} {run : Run S} {marking : Marking S Mark}
  {task : TaskHandle} {first count : Nat} {closing : Closing}

theorem running_iff_thread (run : Run S) (marking : Marking S Mark)
    (unfaulted : (run.after count).control.isFaulted = false) :
    (run.after count).kernel.running = some task ↔
      (run.thread marking task count).role? = some (.slice task) := by
  rw [(run.steady count).running_iff unfaulted,
    ← (run.follows marking task unfaulted).role_iff]
  exact ⟨fun inside => ⟨inside, rfl⟩, And.left⟩

theorem picked?_iff_thread (run : Run S) (marking : Marking S Mark)
    (unfaulted : (run.after (count + 1)).control.isFaulted = false) :
    run.picked? count = some task ↔
      (run.after count).kernel.running = none ∧
        (run.thread marking task (count + 1)).role? = some (.slice task) := by
  rw [picked?_eq_some_iff, run.running_iff_thread marking unfaulted]

/-- No slice of a task begins in a move after which the task has no program, or
goes on with the one that it had before. -/
theorem picked?_ne_of_begun (marking : Marking S Mark)
    (unfaulted : (run.after (count + 1)).control.isFaulted = false)
    (begun : ∀ role, (run.thread marking task (count + 1)).role? = some role →
      (run.thread marking task count).role? = some role) :
    run.picked? count ≠ some task := by
  rw [ne_eq, run.picked?_iff_thread marking unfaulted]
  rintro ⟨nobody, slice⟩
  have running := (run.running_iff_thread marking
    ((run.transition count).isFaulted unfaulted)).mpr (begun _ slice)
  cases nobody.symm.trans running

theorem picked?_ne_of_idle
    (unfaulted : (run.after (count + 1)).control.isFaulted = false)
    (idle : run.thread marking task (count + 1) = .idle) :
    run.picked? count ≠ some task := by
  refine picked?_ne_of_begun marking unfaulted fun role begun => ?_
  rw [idle] at begun
  cases begun

theorem alive_of_thread
    (unfaulted : (run.after count).control.isFaulted = false)
    (slice : (run.thread marking task count).role? = some (.slice task)) :
    (run.after count).kernel.roster.Alive task :=
  (run.steady count).sane.alive
    ((run.running_iff_thread marking unfaulted).mpr slice)

theorem closing_of_thread
    (unfaulted : (run.after count).control.isFaulted = false)
    (close : (run.thread marking task count).role? = some (.close closing)) :
    closing ∈ (run.after count).closings ∧ closing.task = task := by
  obtain ⟨inside, own⟩ :=
    (run.follows marking task unfaulted).role_iff.mpr close
  exact ⟨Machine.mem_closings_iff.mpr inside, own⟩

theorem clear_of_thread
    (unfaulted : (run.after count).control.isFaulted = false)
    (idle : run.thread marking task count = .idle) :
    (run.after count).Clear task := by
  have follows := run.follows marking task unfaulted
  rw [idle] at follows
  cases follows with
  | idle clear => exact clear

def turns (run : Run S) (task : TaskHandle) (first count : Nat) : Nat :=
  (List.range' first (count - first)).countP
    fun move => run.picked? move = some task

def calls (run : Run S) (marking : Marking S Mark) (task : TaskHandle)
    (first count : Nat) : List Mark :=
  (List.range' first (count - first)).flatMap (run.marks marking task)

theorem turns_succ (later : first ≤ count) :
    run.turns task first (count + 1) = run.turns task first count +
      if run.picked? count = some task then 1 else 0 := by
  unfold turns
  rw [Nat.succ_sub later, List.range'_1_concat, List.countP_append,
    Nat.add_sub_cancel' later]
  simp

theorem calls_succ (later : first ≤ count) :
    run.calls marking task first (count + 1) =
      run.calls marking task first count ++ run.marks marking task count := by
  unfold calls
  rw [Nat.succ_sub later, List.range'_1_concat, List.flatMap_append,
    Nat.add_sub_cancel' later]
  simp

/-- Where no slice begins and no mark is passed, nothing is counted. -/
theorem calls_of_silent (later : first ≤ count)
    (other : run.picked? count ≠ some task)
    (silent : run.marks marking task count = []) :
    run.calls marking task first (count + 1) =
        run.calls marking task first count ∧
      run.turns task first (count + 1) = run.turns task first count := by
  rw [calls_succ later, turns_succ later, silent, if_neg other]
  exact ⟨List.append_nil _, rfl⟩

def Killed (run : Run S) (task : TaskHandle) (first count : Nat) : Prop :=
  ∃ between, first ≤ between ∧ between < count ∧
    run.closes task between = true

theorem Killed.succ (killed : run.Killed task first count) :
    run.Killed task first (count + 1) := by
  obtain ⟨between, after, before, closes⟩ := killed
  exact ⟨between, after, Nat.lt_succ_of_lt before, closes⟩

end Threads

variable {run : Run S} {forwarding : Forwarding S Callbacks}
  {event : EventHandle} {task : TaskHandle} {first count : Nat}

/-- Where a handler task is, and what it has called since move `first`. -/
inductive Upkeep (run : Run S) (forwarding : Forwarding S Callbacks)
    (event : EventHandle) (task : TaskHandle) (first count : Nat) : Prop
  | rests {body : S.Body}
      (idle : run.thread forwarding.marking task count = .idle)
      (alive : (run.after count).kernel.roster.Alive task)
      (held : (run.after count).kernel.roster.bodyOf task = some body)
      (serves : forwarding.Serves event body)
      (calls : run.calls forwarding.marking task first count =
        List.replicate (run.turns task first count) .handle)
  | works {role : Role} {stage : Stage} {ending : List Mark}
      (works : forwarding.Works event role stage
        (run.thread forwarding.marking task count))
      (progress : Progress role stage ending)
      (killed : role.slice? = none → run.Killed task first count)
      (calls : run.calls forwarding.marking task first count =
        List.replicate (run.turns task first count) .handle ++ ending)
  | ended {role : Role} {ending : List Mark}
      (idle : run.thread forwarding.marking task count = .idle)
      (dead : ¬ (run.after count).kernel.roster.Alive task)
      (progress : Progress role .cleans ending)
      (killed : role.slice? = none → run.Killed task first count)
      (calls : run.calls forwarding.marking task first count =
        List.replicate (run.turns task first count) .handle ++ ending)

private theorem upkeep_of_slice {body : S.Body}
    {marked : Marked S Mark (S.Step × S.Body)} (later : first ≤ count)
    (unfaulted : (run.after (count + 1)).control.isFaulted = false)
    (held : (run.after count).kernel.body? task = some body)
    (serves : forwarding.Serves event body)
    (calls : run.calls forwarding.marking task first count =
      List.replicate (run.turns task first count) .handle)
    (nobody : (run.after count).kernel.running = none)
    (known : forwarding.marking.program? (.slice task)
      ((run.after count).kernel.body? task) = some marked)
    (entered : Thread.enter (.slice task) marked =
      (run.thread forwarding.marking task (count + 1),
        run.marks forwarding.marking task count)) :
    run.Upkeep forwarding event task first (count + 1) := by
  obtain ⟨rest, program, abides⟩ :=
    Forwarding.exists_program_slice task serves
  rw [held, program] at known
  cases known
  obtain ⟨thread, marks⟩ := Prod.mk.inj entered
  obtain ⟨_, stage, works, progress⟩ :=
    Forwarding.exists_works_enter abides .handles
  have picked : run.picked? count = some task := by
    refine (run.picked?_iff_thread forwarding.marking unfaulted).mpr
      ⟨nobody, ?_⟩
    rw [← thread]
    rfl
  refine .works (thread ▸ works) progress nofun ?_
  rw [calls_succ later, turns_succ later, if_pos picked, calls, ← marks,
    List.replicate_succ', List.append_assoc]
  rfl

private theorem upkeep_of_close {body : S.Body} {closing : Closing}
    {marked : Marked S Mark Unit} (later : first ≤ count)
    (unfaulted : (run.after (count + 1)).control.isFaulted = false)
    (held : (run.after count).kernel.body? task = some body)
    (serves : forwarding.Serves event body)
    (calls : run.calls forwarding.marking task first count =
      List.replicate (run.turns task first count) .handle)
    (killed : run.closes task count = true)
    (known : forwarding.marking.program? (.close closing)
      ((run.after count).kernel.body? task) = some marked)
    (entered : Thread.enter (.close closing) marked =
      (run.thread forwarding.marking task (count + 1),
        run.marks forwarding.marking task count)) :
    run.Upkeep forwarding event task first (count + 1) := by
  obtain ⟨rest, program, abides⟩ :=
    Forwarding.exists_program_close closing serves
  rw [held, program] at known
  cases known
  obtain ⟨thread, marks⟩ := Prod.mk.inj entered
  obtain ⟨_, stage, works, progress⟩ :=
    Forwarding.exists_works_enter abides .killed
  have other : run.picked? count ≠ some task := by
    rw [ne_eq, run.picked?_iff_thread forwarding.marking unfaulted, ← thread]
    exact fun ⟨_, impossible⟩ => nomatch impossible
  refine .works (thread ▸ works) progress
    (fun _ => ⟨count, later, Nat.lt_succ_self count, killed⟩) ?_
  rw [calls_succ later, turns_succ later, if_neg other, calls, ← marks]
  rfl

/-- A handler task that rests begins a slice or its close, or goes on resting. -/
private theorem upkeep_of_rests {body : S.Body} (later : first ≤ count)
    (unfaulted : (run.after (count + 1)).control.isFaulted = false)
    (idle : run.thread forwarding.marking task count = .idle)
    (alive : (run.after count).kernel.roster.Alive task)
    (held : (run.after count).kernel.roster.bodyOf task = some body)
    (serves : forwarding.Serves event body)
    (calls : run.calls forwarding.marking task first count =
      List.replicate (run.turns task first count) .handle) :
    run.Upkeep forwarding event task first (count + 1) := by
  have before := (run.transition count).isFaulted unfaulted
  have clear := clear_of_thread before idle
  have advances := run.advances forwarding.marking task unfaulted
  rw [idle] at advances
  rcases advances.of_idle with ⟨still, silent⟩ | ⟨role, program, marked, own,
    opens, known, entered⟩
  · obtain ⟨aliveAfter, same⟩ :=
      bodyOf_of_clear clear (clear_of_thread unfaulted still) alive
    obtain ⟨sameCalls, sameTurns⟩ :=
      calls_of_silent later (picked?_ne_of_idle unfaulted still) silent
    rw [← sameCalls, ← sameTurns] at calls
    exact .rests still aliveAfter (same.trans held) serves calls
  · have kept : (run.after count).kernel.body? task = some body :=
      (Kernel.body?_eq (run.wellformed count) task).trans held
    cases opens with
    | slice _ _ _ nobody =>
        cases own
        exact upkeep_of_slice later unfaulted kept serves calls nobody known
          entered
    | @close closing =>
        cases own
        have inside : (run.thread forwarding.marking closing.task
            (count + 1)).role? = some (.close closing) :=
          (congrArg Thread.role? (Prod.mk.inj entered).1).symm
        -- The task was alive a move ago and is dead now. It did not end a
        -- slice, since it rested, so it was killed.
        have dead := Roster.not_alive_of_dead
          (dead_of_mem_closings (closing_of_thread unfaulted inside).1)
        have killed : run.closes closing.task count = true := by
          obtain ⟨exit, ends⟩ := (alive_or_ends alive).resolve_left dead
          cases ends with
          | slice control =>
              exact absurd rfl (clear (.slice closing.task)
                (Machine.mem_roles_of_control (by rw [control]; rfl)))
          | kill same closings => exact closes_iff.mpr ⟨_, same, closings⟩
        exact upkeep_of_close later unfaulted kept serves calls killed known
          entered

/-- A program of a handler task goes on, or comes to its end. -/
private theorem upkeep_of_works {role : Role} {stage : Stage}
    {ending : List Mark} (later : first ≤ count)
    (unfaulted : (run.after (count + 1)).control.isFaulted = false)
    (works : forwarding.Works event role stage
      (run.thread forwarding.marking task count))
    (progress : Progress role stage ending)
    (killed : role.slice? = none → run.Killed task first count)
    (calls : run.calls forwarding.marking task first count =
      List.replicate (run.turns task first count) .handle ++ ending) :
    run.Upkeep forwarding event task first (count + 1) := by
  have before := (run.transition count).isFaulted unfaulted
  have begun := works.role?_eq
  have follows := run.follows forwarding.marking task before
  have advances := run.advances forwarding.marking task unfaulted
  rcases works.advances progress advances with
    ⟨stage, worksOn, progressToo, _⟩ |
      ⟨result, thread, steps, idle, silent, ends⟩
  · have same : run.picked? count ≠ some task :=
      picked?_ne_of_begun forwarding.marking unfaulted fun known goesOn =>
        begun.trans (worksOn.role?_eq.symm.trans goesOn)
    refine .works worksOn progressToo (fun close => (killed close).succ) ?_
    rw [calls_succ later, turns_succ later, if_neg same, calls,
      List.append_assoc]
    rfl
  · obtain ⟨sameCalls, sameTurns⟩ :=
      calls_of_silent later (picked?_ne_of_idle unfaulted idle) silent
    rw [← sameCalls, ← sameTurns] at calls
    rw [thread] at follows begun
    obtain ⟨own, control⟩ : role.task = task ∧
        (run.after count).control = .body role (.pure result) := by
      cases follows with
      | goes own _ control => exact ⟨own, control⟩
    subst own
    cases progress with
    | handles =>
        obtain ⟨step, body⟩ := result
        obtain ⟨rfl, serves⟩ := ends
        obtain ⟨alive, held⟩ := bodyOf_of_slice control steps rfl
        exact .rests idle alive held serves
          (calls.trans (List.append_nil _))
    -- The event is still to be unwatched here.
    | failed | killed => cases ends
    | @failedAndCleaned task =>
        obtain ⟨step, body⟩ := result
        obtain ⟨failure, rfl⟩ := ends
        have ended : run.Ends count task (.failed failure) :=
          .slice control steps rfl
        have progress : Progress (.slice task) .cleans [.failure, .done] :=
          .failedAndCleaned
        exact .ended idle (Roster.not_alive_of_dead ended.dead.2) progress nofun
          calls
    | @killedAndCleaned closing =>
        have inside : closing ∈ (run.after count).closings :=
          Machine.mem_closings_iff.mpr
            (Machine.mem_roles_of_control (by rw [control]; rfl))
        have dead := dead_succ (dead_of_mem_closings inside)
          (not_idle_of_closings (List.ne_nil_of_mem inside))
        exact .ended idle (Roster.not_alive_of_dead dead) .killedAndCleaned
          (fun close => (killed close).succ) calls

theorem Upkeep.succ (upkeep : run.Upkeep forwarding event task first count)
    (later : first ≤ count)
    (unfaulted : (run.after (count + 1)).control.isFaulted = false)
    (unissued : ∀ deed : Deed, deed.started? = some task →
      ¬ (run.after count).Does deed (run.moves count)) :
    run.Upkeep forwarding event task first (count + 1) := by
  cases upkeep with
  | rests idle alive held serves calls =>
      exact upkeep_of_rests later unfaulted idle alive held serves calls
  | works works progress killed calls =>
      exact upkeep_of_works later unfaulted works progress killed calls
  | ended idle dead progress killed calls =>
      have deadAfter : ¬ (run.after (count + 1)).kernel.roster.Alive task := by
        intro alive
        rcases (run.accounted count).alive_or_started (run.wellformed count)
          alive with already | ⟨deed, accounts, started⟩
        · exact dead already
        · exact unissued deed started (accounts.starts started)
      have advances := run.advances forwarding.marking task unfaulted
      rw [idle] at advances
      rcases advances.of_idle with ⟨still, silent⟩ | ⟨role, program, marked, own,
        opens, _⟩
      · obtain ⟨sameCalls, sameTurns⟩ :=
          calls_of_silent later (picked?_ne_of_idle unfaulted still) silent
        rw [← sameCalls, ← sameTurns] at calls
        exact .ended still deadAfter progress (fun other => (killed other).succ)
          calls
      · exact absurd (own ▸ opens.alive) dead

end Run

end EventScheduler
