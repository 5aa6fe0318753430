import EventScheduler.Proofs.Task.Roster

/-!
# Tables that hold a roster

A table holds a roster if it has the same tasks and its links follow the lists
of the roster.  Every operation of a table that holds a sound roster does what
the operation of the same name does to the roster, and is no fault.
-/

namespace EventScheduler.TaskTable

variable {S : Signature}

/-- The tasks of a table with the lists that are read off its links. -/
def roster (table : TaskTable S) : Roster S where
  generation index := (table.slot index).generation
  entry index := (table.slot index).entry
  run := table.linked .run
  timers := table.linked .timer
  live := table.live

/-- The table has the tasks of the roster, and its links follow the lists of the
roster. -/
structure Holds (table : TaskTable S) (roster : Roster S) : Prop where
  /-- The lists are threaded through the slots. -/
  threaded : table.Threaded roster.lists
  /-- The same handles fit. -/
  generation (index : SlotIndex) :
    (table.slot index).generation = roster.generation index
  /-- The same tasks are in the slots. -/
  entry (index : SlotIndex) : (table.slot index).entry = roster.entry index
  /-- As many tasks are live. -/
  live : table.live = roster.live

namespace Holds

variable {table : TaskTable S} {roster : Roster S}

theorem roster_eq (holds : table.Holds roster) : table.roster = roster := by
  ext : 1
  · exact funext holds.generation
  · exact funext holds.entry
  · exact holds.threaded.linked_eq .run
  · exact holds.threaded.linked_eq .timer
  · exact holds.live

private theorem eq_of_slot {other : TaskTable S} (holds : table.Holds roster)
    (holdsToo : other.Holds roster) (index : SlotIndex) :
    other.slot index = table.slot index := by
  have generation :=
    (holdsToo.generation index).trans (holds.generation index).symm
  have entry := (holdsToo.entry index).trans (holds.entry index).symm
  obtain ⟨marks, links⟩ := holds.threaded.slot_eq holdsToo.threaded index
  generalize other.slot index = slot at generation entry marks links
  generalize table.slot index = known at generation entry marks links
  cases slot
  cases known
  cases generation
  cases entry
  cases marks
  cases links
  rfl

/-- No two tables hold one roster. -/
theorem unique {other : TaskTable S} (holds : table.Holds roster)
    (holdsToo : other.Holds roster) : other = table := by
  have slots : other.slots = table.slots :=
    Vector.ext fun place bound => eq_of_slot holds holdsToo ⟨place, bound⟩
  have runHead : other.runHead = table.runHead :=
    (holdsToo.threaded.head_eq .run).trans
      (holds.threaded.head_eq .run).symm
  have runTail : other.runTail = table.runTail :=
    holdsToo.threaded.tail.trans holds.threaded.tail.symm
  have timerHead : other.timerHead = table.timerHead :=
    (holdsToo.threaded.head_eq .timer).trans
      (holds.threaded.head_eq .timer).symm
  have live : other.live = table.live := holdsToo.live.trans holds.live.symm
  cases other
  cases table
  cases slots
  cases runHead
  cases runTail
  cases timerHead
  cases live
  rfl

/-! ### Reading -/

theorem handleAt (holds : table.Holds roster) (index : SlotIndex) :
    table.handleAt index = roster.handleAt index := by
  unfold TaskTable.handleAt Roster.handleAt
  rw [← holds.generation]
  rfl

theorem find? (holds : table.Holds roster) (task : TaskHandle) :
    table.find? task = roster.find? task := by
  unfold TaskTable.find? Roster.find?
  simp only [← holds.generation, ← holds.entry]
  rfl

theorem state_map (holds : table.Holds roster) (index : SlotIndex) :
    (getElem table.slots index index.isLt).entry.map TaskEntry.state =
      roster.state? index :=
  congrArg (Option.map TaskEntry.state) (holds.entry index)

theorem list_eq_none (holds : table.Holds roster) {index : SlotIndex}
    (notRun : index ∉ roster.run) (notTimers : index ∉ roster.timers) :
    (table.slot index).list = none := by
  refine (holds.threaded.list_eq_none_iff index).mpr fun list => ?_
  cases list
  · exact notRun
  · exact notTimers

theorem deadlineOf (holds : table.Holds roster) {index : SlotIndex}
    {deadline : Deadline} (state : roster.state? index = some (.timer deadline)) :
    table.deadlineOf index = .ok (roster.due index) := by
  unfold TaskTable.deadlineOf Roster.due
  rw [holds.state_map, state]

/-! ### Changing single slots and lists -/

/-- What only moves slots between lists. -/
theorem of_sameTasks {other : TaskTable S} (holds : table.Holds roster)
    {run timers : List SlotIndex}
    (threaded : other.Threaded ({ roster with run, timers } : Roster S).lists)
    (same : table.SameTasks other) :
    other.Holds { roster with run, timers } where
  threaded := threaded
  generation index := (same.generation index).trans (holds.generation index)
  entry index := (same.entry index).trans (holds.entry index)
  live := same.live.trans holds.live

theorem setEntry (holds : table.Holds roster) (index : SlotIndex)
    (entry : TaskEntry S) :
    (table.setEntry index entry).Holds (roster.setEntry index entry) where
  threaded := holds.threaded.congr (head_modify table index _) rfl
    (fun other => by
      unfold TaskTable.setEntry
      rw [slot_modify]
      split <;> rfl)
    (fun other => by
      unfold TaskTable.setEntry
      rw [slot_modify]
      split <;> rfl)
  generation other := by
    refine Eq.trans ?_ (holds.generation other)
    unfold TaskTable.setEntry
    rw [slot_modify]
    split <;> rfl
  entry other := by
    unfold TaskTable.setEntry
    rw [slot_modify]
    by_cases same : other = index
    · subst same
      rw [if_pos rfl]
      exact (Function.update_self other (some entry) roster.entry).symm
    · rw [if_neg same, holds.entry]
      exact (Function.update_of_ne same (some entry) roster.entry).symm
  live := holds.live

theorem setLive (holds : table.Holds roster) (live : Nat) :
    ({ table with live } : TaskTable S).Holds { roster with live } where
  threaded := holds.threaded.congr (fun list => by cases list <;> rfl) rfl
    (fun _ => rfl) fun _ => rfl
  generation := holds.generation
  entry := holds.entry
  live := rfl

theorem pushRun (holds : table.Holds roster) {index : SlotIndex}
    (notRun : index ∉ roster.run) (notTimers : index ∉ roster.timers) :
    ∃ pushed, table.pushRun index = .ok pushed ∧
      pushed.Holds (roster.enqueue index) := by
  obtain ⟨pushed, done, threaded, same⟩ :=
    holds.threaded.pushRun (holds.list_eq_none notRun notTimers)
  refine ⟨pushed, done, holds.of_sameTasks ?_ same⟩
  have lists : (roster.enqueue index).lists =
      Function.update roster.lists .run (roster.run ++ [index]) := by
    funext list
    cases list <;> rfl
  exact lists ▸ threaded

theorem unlink (holds : table.Holds roster) (index : SlotIndex) :
    ∃ unlinked, table.unlink index = .ok unlinked ∧
      unlinked.Holds (roster.remove index) := by
  obtain ⟨unlinked, done, threaded, same⟩ := holds.threaded.unlink index
  refine ⟨unlinked, done, holds.of_sameTasks ?_ same⟩
  have lists : (roster.remove index).lists =
      fun list => (roster.lists list).erase index := by
    funext list
    cases list <;> rfl
  exact lists ▸ threaded

theorem insertTimer (holds : table.Holds roster) {index : SlotIndex}
    (notRun : index ∉ roster.run) (notTimers : index ∉ roster.timers)
    (asleep : ∀ slot ∈ roster.timers,
      ∃ deadline, roster.state? slot = some (.timer deadline)) :
    ∃ inserted, table.insertTimer index (roster.due index) = .ok inserted ∧
      inserted.Holds (roster.schedule index) := by
  have known : ∀ slot ∈ roster.timers,
      table.deadlineOf slot = .ok (roster.due slot) := by
    intro slot inside
    obtain ⟨deadline, state⟩ := asleep slot inside
    exact holds.deadlineOf state
  obtain ⟨inserted, done, threaded, same⟩ := holds.threaded.insertTimer
    (roster.due index) (holds.list_eq_none notRun notTimers) known
  refine ⟨inserted, done, holds.of_sameTasks ?_ same⟩
  have lists : (roster.schedule index).lists =
      Function.update roster.lists .timer
        ((roster.timers.takeWhile fun slot =>
            ¬ roster.due index < roster.due slot) ++
          index :: roster.timers.dropWhile fun slot =>
            ¬ roster.due index < roster.due slot) := by
    funext list
    cases list with
    | run => rfl
    | timer => exact List.orderedInsert_eq_take_drop _ _ _
  exact lists ▸ threaded

end Holds

end EventScheduler.TaskTable
