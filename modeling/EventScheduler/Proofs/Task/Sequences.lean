import EventScheduler.Proofs.Task.Refinement
import EventScheduler.Proofs.Task.Sleepers

/-!
# Sequences of operations on a task table

Every sequence of operations on a task table does to the links what the same
sequence does to the plain lists of a roster.  Tasks that sleep until the same
time are told apart by the number of the operation that put them to sleep.
-/

namespace EventScheduler

def TaskOperation.sleeper? {S : Signature} (table : TaskTable S) :
    TaskOperation S → Option SlotIndex
  | .sleep task deadline =>
      if deadline.isNever then none else (table.find? task).map Prod.fst
  | _ => none

/-! ### Operations that put nobody to sleep -/

variable {S : Signature}

namespace Roster

variable {roster : Roster S}

/-- Whatever puts no task to sleep only takes sleepers off the timer list. -/
theorem perform_thins (sound : roster.Sound) {table : TaskTable S}
    (holds : table.Holds roster) {operation : TaskOperation S}
    (nobody : operation.sleeper? table = none) :
    roster.Thins (roster.perform operation).2 := by
  cases operation with
  | insert body name => exact insert_thins sound body name
  | popRunnable => exact roster.popRunnable_thins
  | activate task => exact activate_thins sound task
  | requeue task => exact roster.requeue_thins task
  | suspend task => exact suspend_thins sound task
  | sleep task deadline =>
      unfold perform Roster.sleep
      simp only [TaskOperation.sleeper?] at nobody
      dsimp only
      split
      · exact suspend_thins sound task
      · next ever =>
          rw [if_neg ever, holds.find?, Option.map_eq_none_iff] at nobody
          rw [nobody]
          exact .refl roster
  | retire task exit => exact retire_thins sound task exit
  | reap task => exact reap_thins sound task
  | promoteExpired now => exact roster.promoteExpired_thins now
  | addJoiner task joiner => exact roster.addJoiner_thins task joiner
  | forgetJoiner task => exact roster.forgetJoiner_thins task

end Roster

/-! ### Sequences of operations -/

/-- A task table on which operations were done. -/
structure TaskSession (S : Signature) where
  table : TaskTable S
  /-- How many operations were done. -/
  count : Nat
  /-- The number of the operation that put a slot to sleep last. -/
  since : SlotIndex → Nat

namespace TaskSession

variable {session : TaskSession S}

def start : TaskSession S where
  table := .empty
  count := 0
  since _ := 0

def perform (session : TaskSession S) (operation : TaskOperation S) :
    Except Fault (operation.Answer × TaskSession S) := do
  let (answer, table) ← session.table.perform operation
  let since :=
    match operation.sleeper? session.table with
    | some index => Function.update session.since index session.count
    | none => session.since
  return (answer, { table, count := session.count + 1, since })

/-- What comes of any sequence of allowed operations that are no faults. -/
inductive Reached : TaskSession S → Prop
  | start : Reached .start
  | perform {session next : TaskSession S} (reached : Reached session)
      (operation : TaskOperation S) {answer : operation.Answer}
      (allowed : operation.Allowed session.table)
      (done : session.perform operation = .ok (answer, next)) : Reached next

/-- The links of the table hold two lists, and every operation is an operation
on those lists. -/
structure Refines (session : TaskSession S) : Prop where
  /-- The links lead from the head of a list through its slots to its end. -/
  leads (list : TaskList) : session.table.Leads none
    (session.table.head list) (session.table.linked list)
  nodup (list : TaskList) : (session.table.linked list).Nodup
  mem_iff (list : TaskList) (index : SlotIndex) :
    index ∈ session.table.linked list ↔
      (session.table.slot index).list = some list
  tail : session.table.runTail = (session.table.linked .run).getLast?
  next_eq_none (index : SlotIndex) :
    (session.table.slot index).list = none →
      (session.table.slot index).next = none
  asleep (index : SlotIndex) : index ∈ session.table.linked .timer →
    ∃ deadline, session.table.roster.state? index = some (.timer deadline)
  sorted : (session.table.linked .timer).Pairwise fun first second =>
    session.table.roster.due first < session.table.roster.due second ∨
      session.table.roster.due first = session.table.roster.due second ∧
        session.since first < session.since second
  push (index : SlotIndex) : (session.table.slot index).list = none →
    ∃ pushed, session.table.pushRun index = .ok pushed ∧
      pushed.roster = session.table.roster.enqueue index
  unlink (index : SlotIndex) :
    ∃ unlinked, session.table.unlink index = .ok unlinked ∧
      unlinked.roster = session.table.roster.remove index
  fault (operation : TaskOperation S) (fault : Fault) :
    operation.fault? session.table = some fault →
      session.perform operation = .error fault
  perform (operation : TaskOperation S) :
    operation.Allowed session.table →
    operation.fault? session.table = none →
      ∃ next, session.perform operation =
          .ok ((session.table.roster.perform operation).1, next) ∧
        next.table.roster = (session.table.roster.perform operation).2

private structure Orderly (session : TaskSession S) : Prop where
  holds : session.table.Holds session.table.roster
  sound : session.table.roster.Sound
  order : session.table.roster.InOrder session.since session.count

private theorem orderly_start : (start : TaskSession S).Orderly := by
  have holds : (TaskTable.empty : TaskTable S).Holds .empty := .empty
  have same := holds.roster_eq
  refine ⟨?_, ?_, ?_⟩ <;> unfold start <;> dsimp only <;> rw [same]
  · exact holds
  · exact .empty
  · exact ⟨List.Pairwise.nil, fun inside => absurd inside List.not_mem_nil⟩

/-- What an operation that is not refused makes of a session. -/
private theorem Orderly.perform (orderly : session.Orderly)
    {operation : TaskOperation S}
    (allowed : operation.Allowed session.table)
    (accepted : operation.fault? session.table = none) :
    ∃ next, session.perform operation =
        .ok ((session.table.roster.perform operation).1, next) ∧
      next.table.roster = (session.table.roster.perform operation).2 ∧
      next.Orderly := by
  obtain ⟨table, done, holds, sound⟩ :=
    orderly.holds.perform orderly.sound allowed accepted
  have same := holds.roster_eq
  refine ⟨_, bind_of_ok done _, same, ?_, ?_, ?_⟩ <;> dsimp only
  · rw [same]
    exact holds
  · rw [same]
    exact sound
  · rw [same]
    cases put : operation.sleeper? session.table with
    | none =>
        have thins := Roster.perform_thins orderly.sound orderly.holds put
        exact (orderly.order.thin thins).later (Nat.le_succ _)
    | some index =>
        cases operation with
        | sleep task deadline =>
            simp only [TaskOperation.sleeper?, Option.ite_none_left_eq_some,
              Option.map_eq_some_iff, Prod.exists, exists_and_right,
              exists_eq_right, orderly.holds.find?] at put
            obtain ⟨ever, entry, found⟩ := put
            have lasting : deadline.isNever = false := by simpa using ever
            exact orderly.order.sleep orderly.sound lasting found
              (fun _ _ different => Function.update_of_ne different ..)
              (Function.update_self ..)
        | _ => cases put

private theorem Reached.orderly (reached : session.Reached) :
    session.Orderly := by
  induction reached with
  | start => exact orderly_start
  | @perform session next _ operation answer allowed done ih =>
      cases refused : operation.fault? session.table with
      | some fault =>
          have failed : session.perform operation = .error fault := by
            unfold TaskSession.perform
            rw [TaskTable.perform_of_fault ih.holds refused]
            rfl
          rw [failed] at done
          cases done
      | none =>
          obtain ⟨expected, performed, _, orderly⟩ := ih.perform allowed refused
          rw [performed] at done
          cases done
          exact orderly

/-- Whatever was done to a table, its links hold two lists in order, and what
is done next is done to those lists. -/
theorem Reached.refines (reached : session.Reached) : session.Refines := by
  have orderly := reached.orderly
  have threaded := orderly.holds.threaded
  have lists : session.table.roster.lists = session.table.linked := by
    funext list
    cases list <;> rfl
  rw [lists] at threaded
  constructor
  case leads => exact threaded.leads
  case nodup => exact threaded.nodup
  case mem_iff => exact threaded.mem_iff
  case tail => exact threaded.tail
  case next_eq_none => exact threaded.next_eq_none
  case asleep =>
    intro index inside
    exact orderly.sound.mem_timers_iff.mp inside
  case sorted =>
    refine orderly.sound.sorted.imp₂ ?_ orderly.order.pairwise
    intro first second ordered later
    rcases Deadline.lt_or_eq_of_le ordered with earlier | same
    · exact Or.inl earlier
    · exact Or.inr ⟨same, later same⟩
  case push =>
    intro index off
    have outside := threaded.notMem_of_list_eq_none off
    obtain ⟨pushed, done, holds⟩ :=
      orderly.holds.pushRun (outside .run) (outside .timer)
    exact ⟨pushed, done, holds.roster_eq⟩
  case unlink =>
    intro index
    obtain ⟨unlinked, done, holds⟩ := orderly.holds.unlink index
    exact ⟨unlinked, done, holds.roster_eq⟩
  case fault =>
    intro operation fault refused
    unfold TaskSession.perform
    rw [TaskTable.perform_of_fault orderly.holds refused]
    rfl
  case perform =>
    intro operation allowed accepted
    obtain ⟨next, done, same, _⟩ := orderly.perform allowed accepted
    exact ⟨next, done, same⟩

/-- Two tasks are started, and both sleep until the same time. -/
theorem refines_two_sleepers :
    ∃ session : TaskSession ⟨Unit, Unit, Unit, Unit, Unit⟩,
      session.Reached ∧ session.table.linked .timer = [0, 1] ∧
        session.Refines := by
  have none : Reached (start : TaskSession ⟨Unit, Unit, Unit, Unit, Unit⟩) :=
    .start
  have one := none.perform (.insert () .none) trivial rfl
  have two := one.perform (.insert () .none) trivial rfl
  have runsFirst := two.perform .popRunnable trivial rfl
  have sleepsFirst := runsFirst.perform (.sleep ⟨0, 0⟩ ⟨7⟩)
    (fun state named => (Except.ok.inj named) ▸ rfl) rfl
  have runsSecond := sleepsFirst.perform .popRunnable trivial rfl
  have sleepsSecond := runsSecond.perform (.sleep ⟨1, 0⟩ ⟨7⟩)
    (fun state named => (Except.ok.inj named) ▸ rfl) rfl
  exact ⟨_, sleepsSecond, rfl, sleepsSecond.refines⟩

end TaskSession

end EventScheduler
