import EventScheduler.Proofs.Task.Links
import Mathlib.Data.List.Sort

/-!
# A task table with plain lists

A roster has the same tasks as a task table, but keeps the run queue and the
timer list as plain lists of slots: tasks are appended to the one, inserted by
deadline into the other, and erased from both.  This module has the operations
of a task table on rosters and says when a table holds a roster.
-/

namespace EventScheduler

/-- The tasks of a table together with its two lists. -/
@[ext]
structure Roster (S : Signature) where
  /-- How often each slot was freed, modulo 65536. -/
  generation : SlotIndex → UInt16
  /-- The task in each slot. -/
  entry : SlotIndex → Option (TaskEntry S)
  /-- The slots waiting to run, first to run first. -/
  run : List SlotIndex
  /-- The slots of sleeping tasks, earliest deadline first. -/
  timers : List SlotIndex
  /-- How many tasks are not dead. -/
  live : Nat

namespace Roster

variable {S : Signature}

def empty : Roster S where
  generation _ := 0
  entry _ := none
  run := []
  timers := []
  live := 0

/-! ### Reading a roster -/

def lists (roster : Roster S) : TaskList → List SlotIndex
  | .run => roster.run
  | .timer => roster.timers

def state? (roster : Roster S) (index : SlotIndex) : Option S.State :=
  (roster.entry index).map TaskEntry.state

def handleAt (roster : Roster S) (index : SlotIndex) : TaskHandle :=
  ⟨index, roster.generation index⟩

def find? (roster : Roster S) (task : TaskHandle) :
    Option (SlotIndex × TaskEntry S) :=
  if inRange : task.index < maxTasks then
    let index : SlotIndex := ⟨task.index, inRange⟩
    if roster.generation index = task.generation then
      (roster.entry index).map fun entry => (index, entry)
    else none
  else none

/-- When the task in a slot is due; one that does not sleep never is. -/
def due (roster : Roster S) (index : SlotIndex) : Deadline :=
  match roster.state? index with
  | some (.timer deadline) => deadline
  | _ => .never

/-! ### Changing a roster -/

def setEntry (roster : Roster S) (index : SlotIndex) (entry : TaskEntry S) :
    Roster S :=
  { roster with entry := Function.update roster.entry index (some entry) }

/-- Empty a slot.  The handle that fitted it does not fit any more. -/
def free (roster : Roster S) (index : SlotIndex) : Roster S :=
  { roster with
    generation := Function.update roster.generation index
      (roster.generation index + 1)
    entry := Function.update roster.entry index none }

def update (roster : Roster S) (task : TaskHandle)
    (change : TaskEntry S → TaskEntry S) : Roster S :=
  match roster.find? task with
  | some (index, entry) => roster.setEntry index (change entry)
  | none => roster

def enqueue (roster : Roster S) (index : SlotIndex) : Roster S :=
  { roster with run := roster.run ++ [index] }

def remove (roster : Roster S) (index : SlotIndex) : Roster S :=
  { roster with
    run := roster.run.erase index
    timers := roster.timers.erase index }

/-- Insert a slot into the timer list, behind every slot that is due no
later. -/
def schedule (roster : Roster S) (index : SlotIndex) : Roster S :=
  { roster with
    timers := roster.timers.orderedInsert
      (fun first second => roster.due first < roster.due second) index }

def seat (roster : Roster S) (index : SlotIndex) (entry : TaskEntry S) :
    Roster S :=
  { roster with
    entry := Function.update roster.entry index (some entry)
    run := roster.run ++ [index]
    live := roster.live + 1 }

/-- Let a task become active and go from its list, if it is on one, to the tail
of the run queue. -/
def wake (roster : Roster S) (index : SlotIndex) (entry : TaskEntry S) :
    Roster S :=
  ((roster.setEntry index { entry with state := .active }).remove
    index).enqueue index

/-- Let a task be dead, without body and joiners, off its list and out of the
count. -/
def bury (roster : Roster S) (index : SlotIndex) (entry : TaskEntry S)
    (exit : S.Exit) : Roster S :=
  { roster with
    entry := Function.update roster.entry index (some { entry with
      state := .dead exit, body := none, joiners := .none })
    run := roster.run.erase index
    timers := roster.timers.erase index
    live := roster.live - 1 }

/-! ### Operations on tasks -/

/-- Put a new active task into the first empty slot, at the tail of the run
queue. -/
def insert (roster : Roster S) (body : S.Body) (name : Option String) :
    Except Error TaskHandle × Roster S :=
  match (List.finRange maxTasks).find? fun index =>
      (roster.entry index).isNone with
  | none => (.error .noTaskSlots, roster)
  | some index =>
      (.ok (roster.handleAt index), roster.seat index
        { state := .active, body := some body, joiners := .none, name })

def popRunnable (roster : Roster S) : Option TaskHandle × Roster S :=
  match roster.run with
  | [] => (none, roster)
  | index :: rest => (some (roster.handleAt index), { roster with run := rest })

/-- Move a waiting task to the tail of the run queue.  The flag says whether
it was waiting. -/
def activate (roster : Roster S) (task : TaskHandle) : Bool × Roster S :=
  match roster.find? task with
  | none => (false, roster)
  | some (index, entry) =>
      if entry.state.isWaiting then
        (true, roster.wake index entry)
      else
        (false, roster)

def requeue (roster : Roster S) (task : TaskHandle) : Roster S :=
  match roster.find? task with
  | none => roster
  | some (index, entry) =>
      match entry.state with
      | .active =>
          if index ∈ roster.run ∨ index ∈ roster.timers then roster
          else roster.enqueue index
      | _ => roster

def suspend (roster : Roster S) (task : TaskHandle) : Roster S :=
  match roster.find? task with
  | none => roster
  | some (index, entry) =>
      (roster.setEntry index { entry with state := .suspended }).remove index

def sleep (roster : Roster S) (task : TaskHandle) (deadline : Deadline) :
    Roster S :=
  if deadline.isNever then
    roster.suspend task
  else
    match roster.find? task with
    | none => roster
    | some (index, entry) =>
        ((roster.setEntry index { entry with state := .timer deadline }).remove
          index).schedule index

/-- Mark a task dead, take it off its list and drop its body.  Answers the
tasks that joined it. -/
def retire (roster : Roster S) (task : TaskHandle) (exit : S.Exit) :
    TaskSet maxJoiners × Roster S :=
  match roster.find? task with
  | none => (.none, roster)
  | some (index, entry) => (entry.joiners, roster.bury index entry exit)

/-- Add `joiner` to the tasks to resume when `task` dies.  The flag says
whether it is new. -/
def addJoiner (roster : Roster S) (task joiner : TaskHandle) :
    Except Error Bool × Roster S :=
  match roster.find? task with
  | none => (.error .staleTask, roster)
  | some (index, entry) =>
      match entry.joiners.insert joiner with
      | .error _ => (.error .tooManyJoiners, roster)
      | .ok (added, joiners) =>
          (.ok added, roster.setEntry index { entry with joiners })

def forgetJoiner (roster : Roster S) (task : TaskHandle) : Roster S :=
  { roster with
    entry := fun index => (roster.entry index).map fun entry =>
      { entry with joiners := (entry.joiners.remove task).2 } }

/-- Free the slot of a dead task.  Answers how it ended, or nothing if it is
alive. -/
def reap (roster : Roster S) (task : TaskHandle) :
    Except Error (Option S.Exit) × Roster S :=
  match roster.find? task with
  | none => (.error .staleTask, roster)
  | some (index, entry) =>
      match entry.state with
      | .dead exit =>
          (.ok (some exit), roster.free index)
      | _ => (.ok none, roster)

/-- Move every slot whose deadline has passed from the timer list to the tail
of the run queue, keeping the order.  Answers how many were moved. -/
def promoteExpired (roster : Roster S) (now : Tick) : Nat × Roster S :=
  let expired := roster.timers.filter fun index =>
    (roster.due index).reached now
  (expired.length, { roster with
    entry := fun index =>
      if index ∈ expired then
        (roster.entry index).map fun entry => { entry with state := .active }
      else roster.entry index
    run := roster.run ++ expired
    timers := roster.timers.filter fun index =>
      ¬ (roster.due index).reached now })

/-! ### Slots and handles -/

theorem find?_eq_some_iff {roster : Roster S} {task : TaskHandle}
    {index : SlotIndex} {entry : TaskEntry S} :
    roster.find? task = some (index, entry) ↔
      roster.handleAt index = task ∧ roster.entry index = some entry := by
  unfold find? handleAt
  constructor
  · intro found
    split at found
    · rename_i inRange
      by_cases fits :
          roster.generation ⟨task.index, inRange⟩ = task.generation
      · simp only [fits, if_true, Option.map_eq_some_iff, Prod.mk.injEq] at found
        obtain ⟨_, present, rfl, rfl⟩ := found
        exact ⟨by rw [fits], present⟩
      · simp [fits] at found
    · cases found
  · rintro ⟨rfl, present⟩
    simp [index.isLt, present]

theorem handleAt_injective (roster : Roster S) :
    Function.Injective roster.handleAt := by
  intro first second same
  exact Fin.ext (congrArg TaskHandle.index same)

theorem state?_of_entry {roster : Roster S} {index : SlotIndex}
    {entry : TaskEntry S} (present : roster.entry index = some entry) :
    roster.state? index = some entry.state := by
  unfold state?
  rw [present]
  rfl

@[simp]
theorem entry_setEntry_self (roster : Roster S) (index : SlotIndex)
    (entry : TaskEntry S) :
    (roster.setEntry index entry).entry index = some entry :=
  Function.update_self ..

theorem entry_setEntry_of_ne (roster : Roster S) {index other : SlotIndex}
    (entry : TaskEntry S) (different : other ≠ index) :
    (roster.setEntry index entry).entry other = roster.entry other :=
  Function.update_of_ne different ..

theorem state?_setEntry_of_ne (roster : Roster S) {index other : SlotIndex}
    (entry : TaskEntry S) (different : other ≠ index) :
    (roster.setEntry index entry).state? other = roster.state? other :=
  congrArg (Option.map TaskEntry.state)
    (roster.entry_setEntry_of_ne entry different)

theorem entry_seat_self (roster : Roster S) (index : SlotIndex)
    (entry : TaskEntry S) :
    (roster.seat index entry).entry index = some entry :=
  Function.update_self ..

theorem entry_seat_of_ne (roster : Roster S) {index other : SlotIndex}
    (entry : TaskEntry S) (different : other ≠ index) :
    (roster.seat index entry).entry other = roster.entry other :=
  Function.update_of_ne different ..

theorem entry_bury_self (roster : Roster S) (index : SlotIndex)
    (entry : TaskEntry S) (exit : S.Exit) :
    (roster.bury index entry exit).entry index = some { entry with
      state := .dead exit, body := none, joiners := .none } :=
  Function.update_self ..

theorem entry_bury_of_ne (roster : Roster S) {index other : SlotIndex}
    (entry : TaskEntry S) (exit : S.Exit) (different : other ≠ index) :
    (roster.bury index entry exit).entry other = roster.entry other :=
  Function.update_of_ne different ..

theorem state?_seat_of_ne (roster : Roster S) {index other : SlotIndex}
    (entry : TaskEntry S) (different : other ≠ index) :
    (roster.seat index entry).state? other = roster.state? other :=
  congrArg (Option.map TaskEntry.state)
    (roster.entry_seat_of_ne entry different)

theorem state?_bury_of_ne (roster : Roster S) {index other : SlotIndex}
    (entry : TaskEntry S) (exit : S.Exit) (different : other ≠ index) :
    (roster.bury index entry exit).state? other = roster.state? other :=
  congrArg (Option.map TaskEntry.state)
    (roster.entry_bury_of_ne entry exit different)

theorem entry_free_self (roster : Roster S) (index : SlotIndex) :
    (roster.free index).entry index = none :=
  Function.update_self ..

theorem entry_free_of_ne (roster : Roster S) {index other : SlotIndex}
    (different : other ≠ index) :
    (roster.free index).entry other = roster.entry other :=
  Function.update_of_ne different ..

theorem state?_free_self (roster : Roster S) (index : SlotIndex) :
    (roster.free index).state? index = none :=
  congrArg (Option.map TaskEntry.state) (roster.entry_free_self index)

theorem state?_free_of_ne (roster : Roster S) {index other : SlotIndex}
    (different : other ≠ index) :
    (roster.free index).state? other = roster.state? other :=
  congrArg (Option.map TaskEntry.state) (roster.entry_free_of_ne different)

@[simp]
theorem state?_setEntry_self (roster : Roster S) (index : SlotIndex)
    (entry : TaskEntry S) :
    (roster.setEntry index entry).state? index = some entry.state :=
  state?_of_entry (roster.entry_setEntry_self index entry)

/-! ### Refusals -/

theorem insert_of_error {roster : Roster S} {body : S.Body}
    {name : Option String} {error : Error}
    (refused : (roster.insert body name).1 = .error error) :
    (roster.insert body name).2 = roster := by
  unfold insert at refused ⊢
  split at refused
  · rfl
  · cases refused

theorem eq_noTaskSlots_of_insert {roster : Roster S} {body : S.Body}
    {name : Option String} {error : Error}
    (refused : (roster.insert body name).1 = .error error) :
    error = .noTaskSlots := by
  unfold insert at refused
  split at refused
  · cases refused
    rfl
  · cases refused

theorem reap_of_error {roster : Roster S} {task : TaskHandle} {error : Error}
    (refused : (roster.reap task).1 = .error error) :
    (roster.reap task).2 = roster := by
  unfold reap at refused ⊢
  split at refused
  · rfl
  · split at refused <;> cases refused

theorem addJoiner_of_error {roster : Roster S} {task joiner : TaskHandle}
    {error : Error} (refused : (roster.addJoiner task joiner).1 = .error error) :
    (roster.addJoiner task joiner).2 = roster := by
  unfold addJoiner at refused ⊢
  split at refused
  · rfl
  · next index entry _ =>
      cases inserted : entry.joiners.insert joiner with
      | error refusal => rfl
      | ok result =>
          simp only [inserted] at refused
          cases refused

end Roster

end EventScheduler
