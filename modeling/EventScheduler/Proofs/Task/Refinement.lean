import EventScheduler.Proofs.Task.Refines

/-!
# Operating on a table and on its roster

An operation on a task table does to the links what it does to the plain lists
of the roster, and gives the same answer.  Two operations can be faults all the
same: requeueing a made-up handle and putting a waiting task to sleep for ever.
-/

namespace EventScheduler

inductive TaskOperation (S : Signature)
  | insert (body : S.Body) (name : Option String)
  | popRunnable
  | activate (task : TaskHandle)
  | requeue (task : TaskHandle)
  | suspend (task : TaskHandle)
  | sleep (task : TaskHandle) (deadline : Deadline)
  | retire (task : TaskHandle) (exit : S.Exit)
  | reap (task : TaskHandle)
  | promoteExpired (now : Tick)
  | addJoiner (task joiner : TaskHandle)
  | forgetJoiner (task : TaskHandle)

namespace TaskOperation

variable {S : Signature}

abbrev Answer : TaskOperation S → Type
  | .insert _ _ => Except Error TaskHandle
  | .popRunnable => Option TaskHandle
  | .activate _ => Bool
  | .requeue _ | .suspend _ | .sleep _ _ | .forgetJoiner _ => Unit
  | .retire _ _ => TaskSet maxJoiners
  | .reap _ => Except Error (Option S.Exit)
  | .promoteExpired _ => Nat
  | .addJoiner _ _ => Except Error Bool

/-- Only an active task is suspended, and a dead one is not put to sleep or
retired. -/
def Allowed (table : TaskTable S) : TaskOperation S → Prop
  | .suspend task => ∀ state, table.state task = .ok state → state = .active
  | .sleep task _ | .retire task _ =>
      ∀ state, table.state task = .ok state → state.isDead = false
  | _ => True

/-- Why an operation is a fault: a made-up handle names no slot, or a waiting
task is put to sleep for ever. -/
def fault? (table : TaskTable S) : TaskOperation S → Option Fault
  | .requeue task =>
      if task.index < maxTasks then none else some (.slotOutOfRange task.index)
  | .sleep task deadline =>
      if deadline.isNever ∧ (table.state task).toOption.any TaskState.isWaiting
      then some .suspendedInactive
      else none
  | _ => none

end TaskOperation

variable {S : Signature}

def TaskTable.perform (table : TaskTable S) :
    (operation : TaskOperation S) →
      Except Fault (operation.Answer × TaskTable S)
  | .insert body name => do
      match ← table.insert body name with
      | .error error => return (.error error, table)
      | .ok (task, table) => return (.ok task, table)
  | .popRunnable => table.popRunnable
  | .activate task => table.activate task
  | .requeue task => do return ((), ← table.requeue task)
  | .suspend task => do return ((), ← table.suspend task)
  | .sleep task deadline => do return ((), ← table.sleep task deadline)
  | .retire task exit => table.retire task exit
  | .reap task =>
      match table.reap task with
      | .error error => .ok (.error error, table)
      | .ok (exit, table) => .ok (.ok exit, table)
  | .promoteExpired now => table.promoteExpired now
  | .addJoiner task joiner =>
      match table.addJoiner task joiner with
      | .error error => .ok (.error error, table)
      | .ok (added, table) => .ok (.ok added, table)
  | .forgetJoiner task => .ok ((), table.forgetJoiner task)

def Roster.perform (roster : Roster S) :
    (operation : TaskOperation S) → operation.Answer × Roster S
  | .insert body name => roster.insert body name
  | .popRunnable => roster.popRunnable
  | .activate task => roster.activate task
  | .requeue task => ((), roster.requeue task)
  | .suspend task => ((), roster.suspend task)
  | .sleep task deadline => ((), roster.sleep task deadline)
  | .retire task exit => roster.retire task exit
  | .reap task => roster.reap task
  | .promoteExpired now => roster.promoteExpired now
  | .addJoiner task joiner => roster.addJoiner task joiner
  | .forgetJoiner task => ((), roster.forgetJoiner task)

namespace TaskTable

variable {table : TaskTable S} {roster : Roster S}

theorem Holds.eachNamed (holds : table.Holds roster) {task : TaskHandle}
    {property : S.State → Prop}
    (known : ∀ state, table.state task = .ok state → property state) :
    roster.EachNamed task property := by
  intro index entry found
  apply known
  unfold TaskTable.state TaskTable.entry
  rw [holds.find?, found]
  rfl

theorem Holds.state_of_find? (holds : table.Holds roster) {task : TaskHandle}
    {index : SlotIndex} {entry : TaskEntry S}
    (found : roster.find? task = some (index, entry)) :
    table.state task = .ok entry.state := by
  unfold TaskTable.state TaskTable.entry
  rw [holds.find?, found]
  rfl

theorem suspend_of_isWaiting (holds : table.Holds roster) {task : TaskHandle}
    (waiting : (table.state task).toOption.any TaskState.isWaiting = true) :
    table.suspend task = .error .suspendedInactive := by
  unfold suspend
  rw [holds.find?]
  cases found : roster.find? task with
  | none =>
      unfold state TaskTable.entry at waiting
      rw [holds.find?, found] at waiting
      cases waiting
  | some named =>
      obtain ⟨index, entry⟩ := named
      rw [holds.state_of_find? found] at waiting
      have blocked : entry.state.isWaiting = true := waiting
      cases state : entry.state with
      | active | dead =>
          rw [state] at blocked
          cases blocked
      | suspended | timer => simp only [state]

/-- What is refused is a fault. -/
theorem perform_of_fault (holds : table.Holds roster)
    {operation : TaskOperation S} {fault : Fault}
    (refused : operation.fault? table = some fault) :
    table.perform operation = .error fault := by
  cases operation with
  | requeue task =>
      simp only [TaskOperation.fault?, Option.ite_none_left_eq_some,
        Option.some.injEq] at refused
      obtain ⟨outside, rfl⟩ := refused
      simp only [perform, requeue, outside, dite_false]
      rfl
  | sleep task deadline =>
      simp only [TaskOperation.fault?, Option.ite_none_right_eq_some,
        Option.some.injEq] at refused
      obtain ⟨⟨never, waiting⟩, rfl⟩ := refused
      simp only [perform, sleep, never, if_true,
        suspend_of_isWaiting holds waiting]
      rfl
  | _ => cases refused

/-- What is not refused is done to the lists. -/
theorem Holds.perform (holds : table.Holds roster) (sound : roster.Sound)
    {operation : TaskOperation S} (allowed : operation.Allowed table)
    (accepted : operation.fault? table = none) :
    ∃ next, table.perform operation =
        .ok ((roster.perform operation).1, next) ∧
      next.Holds (roster.perform operation).2 ∧
      (roster.perform operation).2.Sound := by
  cases operation with
  | insert body name =>
      obtain ⟨inserted, done, insertedHolds⟩ := holds.insert sound body name
      simp only [TaskTable.perform, Roster.perform]
      rw [bind_of_ok done]
      cases answer : (roster.insert body name).1 with
      | error error =>
          have unchanged := Roster.insert_of_error answer
          rw [unchanged]
          exact ⟨table, rfl, holds, sound⟩
      | ok task => exact ⟨inserted, rfl, insertedHolds, sound.insert body name⟩
  | popRunnable =>
      obtain ⟨popped, done, poppedHolds⟩ := holds.popRunnable sound
      exact ⟨popped, done, poppedHolds, sound.popRunnable⟩
  | activate task =>
      obtain ⟨activated, done, activatedHolds⟩ := holds.activate sound task
      exact ⟨activated, done, activatedHolds, sound.activate task⟩
  | requeue task =>
      have inRange : task.index < maxTasks := by
        by_contra outside
        simp [TaskOperation.fault?, outside] at accepted
      obtain ⟨requeued, done, requeuedHolds⟩ := holds.requeue inRange
      exact ⟨requeued, bind_of_ok done _, requeuedHolds, sound.requeue task⟩
  | suspend task =>
      have active := holds.eachNamed allowed
      obtain ⟨suspended, done, suspendedHolds⟩ := holds.suspend active
      refine ⟨suspended, bind_of_ok done _, suspendedHolds, sound.suspend ?_⟩
      intro index entry found
      rw [active index entry found]
      rfl
  | sleep task deadline =>
      have alive := holds.eachNamed allowed
      -- A sleep without end suspends the task, and only an active one can be
      -- suspended.
      have active : deadline.isNever = true →
          roster.EachNamed task (· = .active) := by
        intro never index entry found
        have notDead : entry.state.isDead = false := alive index entry found
        have notWaiting : ¬ entry.state.isWaiting = true := by
          simpa [TaskOperation.fault?, never, holds.state_of_find? found,
            Except.toOption] using accepted
        cases state : entry.state with
        | active => rfl
        | suspended | timer => exact absurd (by rw [state]; rfl) notWaiting
        | dead exit =>
            rw [state] at notDead
            cases notDead
      obtain ⟨asleep, done, asleepHolds⟩ := holds.sleep sound active
      exact ⟨asleep, bind_of_ok done _, asleepHolds, sound.sleep alive deadline⟩
  | retire task exit =>
      have alive := holds.eachNamed allowed
      obtain ⟨retired, done, retiredHolds⟩ := holds.retire sound alive exit
      exact ⟨retired, done, retiredHolds, sound.retire alive exit⟩
  | reap task =>
      obtain ⟨reaped, done, reapedHolds⟩ := holds.reap task
      simp only [TaskTable.perform, Roster.perform]
      rw [done]
      cases answer : (roster.reap task).1 with
      | error error =>
          have unchanged := Roster.reap_of_error answer
          rw [unchanged]
          exact ⟨table, rfl, holds, sound⟩
      | ok exit => exact ⟨reaped, rfl, reapedHolds, sound.reap task⟩
  | promoteExpired now =>
      obtain ⟨promoted, done, promotedHolds⟩ := holds.promoteExpired sound now
      exact ⟨promoted, done, promotedHolds, sound.promoteExpired now⟩
  | addJoiner task joiner =>
      obtain ⟨joined, done, joinedHolds⟩ := holds.addJoiner task joiner
      simp only [TaskTable.perform, Roster.perform]
      rw [done]
      cases answer : (roster.addJoiner task joiner).1 with
      | error error =>
          have unchanged := Roster.addJoiner_of_error answer
          rw [unchanged]
          exact ⟨table, rfl, holds, sound⟩
      | ok added =>
          exact ⟨joined, rfl, joinedHolds, sound.addJoiner task joiner⟩
  | forgetJoiner task =>
      exact ⟨table.forgetJoiner task, rfl, holds.forgetJoiner task,
        sound.forgetJoiner task⟩

end TaskTable

end EventScheduler
