import EventScheduler.Fault
import EventScheduler.Task.State
import EventScheduler.Task.Set

/-!
# The task table

Tasks live in a fixed arena of slots.  The run queue and the timer list are
threaded through the arena: a slot carries the number of the slot that follows
it and a mark for the list that it is on, so a task is never on both lists.

`TaskTable.runQueue` and `TaskTable.timerList` read the two lists off the
links.
-/

namespace EventScheduler

abbrev SlotIndex : Type := Fin maxTasks

/-- What the table knows about one task. -/
structure TaskEntry (S : Signature) where
  state : S.State
  /-- The body, unless it is running or the task is dead. -/
  body : Option S.Body
  /-- The tasks to resume when this one dies. -/
  joiners : TaskSet maxJoiners
  /-- The name that the task was started under. -/
  name : Option String

structure TaskSlot (S : Signature) where
  /-- How often the slot was freed, modulo 65536. -/
  generation : UInt16
  /-- The slot that follows on the same list. -/
  next : Option SlotIndex
  /-- The list that the slot is on. -/
  list : Option TaskList
  entry : Option (TaskEntry S)

/-- The arena of tasks with the lists that run through it. -/
structure TaskTable (S : Signature) where
  slots : Vector (TaskSlot S) maxTasks
  runHead : Option SlotIndex
  runTail : Option SlotIndex
  timerHead : Option SlotIndex
  /-- How many tasks are not dead. -/
  live : Nat

namespace TaskTable

variable {S : Signature}

def empty : TaskTable S where
  slots := Vector.replicate maxTasks
    { generation := 0, next := none, list := none, entry := none }
  runHead := none
  runTail := none
  timerHead := none
  live := 0

/-! ### Reading the table -/

def handleAt (table : TaskTable S) (index : SlotIndex) : TaskHandle :=
  ⟨index, table.slots[index].generation⟩

/-- The task that a handle names, with its slot.  A handle of another
generation names nothing. -/
def find? (table : TaskTable S) (task : TaskHandle) :
    Option (SlotIndex × TaskEntry S) :=
  if inRange : task.index < maxTasks then
    let index : SlotIndex := ⟨task.index, inRange⟩
    if table.slots[index].generation = task.generation then
      table.slots[index].entry.map fun entry => (index, entry)
    else none
  else none

def entry (table : TaskTable S) (task : TaskHandle) :
    Except Error (TaskEntry S) :=
  match table.find? task with
  | some (_, entry) => .ok entry
  | none => .error .staleTask

def state (table : TaskTable S) (task : TaskHandle) : Except Error S.State :=
  (table.entry task).map TaskEntry.state

def isLiveAt (table : TaskTable S) (index : SlotIndex) : Bool :=
  match table.slots[index].entry with
  | some entry => !entry.state.isDead
  | none => false

def liveTasks (table : TaskTable S) : List TaskHandle :=
  ((List.finRange maxTasks).filter table.isLiveAt).map table.handleAt

/-- The slots met from `head` on by following the links, `bound` at most. -/
def chain (table : TaskTable S) : (bound : Nat) → (head : Option SlotIndex) →
    List SlotIndex
  | 0, _ => []
  | _ + 1, none => []
  | bound + 1, some index =>
      index :: table.chain bound table.slots[index].next

def head (table : TaskTable S) : TaskList → Option SlotIndex
  | .run => table.runHead
  | .timer => table.timerHead

def linked (table : TaskTable S) (list : TaskList) : List SlotIndex :=
  table.chain maxTasks (table.head list)

/-- The tasks waiting to run, first to run first. -/
def runQueue (table : TaskTable S) : List TaskHandle :=
  (table.linked .run).map table.handleAt

/-- The sleeping tasks, earliest deadline first. -/
def timerList (table : TaskTable S) : List TaskHandle :=
  (table.linked .timer).map table.handleAt

def hasRunnable (table : TaskTable S) : Bool :=
  table.runHead.isSome

def deadlineOf (table : TaskTable S) (index : SlotIndex) :
    Except Fault Deadline :=
  match table.slots[index].entry.map TaskEntry.state with
  | some (.timer deadline) => .ok deadline
  | _ => .error (.timerWithoutDeadline index)

def nextDeadline (table : TaskTable S) : Except Fault (Option Deadline) :=
  match table.timerHead with
  | none => .ok none
  | some index => (table.deadlineOf index).map some

/-! ### Changing single slots -/

def modify (table : TaskTable S) (index : SlotIndex)
    (change : TaskSlot S → TaskSlot S) : TaskTable S :=
  { table with slots := table.slots.set index (change table.slots[index]) }

@[simp]
theorem slots_modify_self (table : TaskTable S) (index : SlotIndex)
    (change : TaskSlot S → TaskSlot S) :
    (table.modify index change).slots[index] = change table.slots[index] := by
  simp [modify]

theorem slots_modify_of_ne (table : TaskTable S) {index other : SlotIndex}
    (change : TaskSlot S → TaskSlot S) (different : index ≠ other) :
    (table.modify index change).slots[other] = table.slots[other] := by
  have apart : index.val ≠ other.val := by
    simpa [Fin.ext_iff] using different
  simp [modify, apart]

def setEntry (table : TaskTable S) (index : SlotIndex) (entry : TaskEntry S) :
    TaskTable S :=
  table.modify index fun slot => { slot with entry := some entry }

def setNext (table : TaskTable S) (index : SlotIndex)
    (next : Option SlotIndex) : TaskTable S :=
  table.modify index fun slot => { slot with next }

/-- Put a slot on a list, in front of `next`. -/
def mark (table : TaskTable S) (index : SlotIndex) (list : TaskList)
    (next : Option SlotIndex) : TaskTable S :=
  table.modify index fun slot => { slot with list := some list, next }

/-- Take a slot off whatever list it is on. -/
def unmark (table : TaskTable S) (index : SlotIndex) : TaskTable S :=
  table.modify index fun slot => { slot with list := none, next := none }

def setHead (table : TaskTable S) (list : TaskList)
    (index : Option SlotIndex) : TaskTable S :=
  match list with
  | .run => { table with runHead := index }
  | .timer => { table with timerHead := index }

/-- Change what the table knows about a task; a stale handle changes
nothing. -/
def update (table : TaskTable S) (task : TaskHandle)
    (change : TaskEntry S → TaskEntry S) : TaskTable S :=
  match table.find? task with
  | some (index, entry) => table.setEntry index (change entry)
  | none => table

/-! ### Linking and unlinking -/

/-- Let `next` follow `previous` on a list, or be its first slot. -/
def link (table : TaskTable S) (list : TaskList)
    (previous next : Option SlotIndex) : TaskTable S :=
  match previous with
  | some previous => table.setNext previous next
  | none => table.setHead list next

def pushRun (table : TaskTable S) (index : SlotIndex) :
    Except Fault (TaskTable S) :=
  if table.slots[index].list.isSome then
    .error (.alreadyLinked index)
  else
    let table := (table.mark index .run none).link .run table.runTail
      (some index)
    .ok { table with runTail := some index }

/-- The slot in front of `index` in a list of slots, given the one in front of
the list. -/
def predecessor (index : SlotIndex) :
    (previous : Option SlotIndex) → List SlotIndex → Option (Option SlotIndex)
  | _, [] => none
  | previous, slot :: rest =>
      if slot = index then some previous
      else predecessor index (some slot) rest

/-- Remove a slot from whichever list holds it. -/
def unlink (table : TaskTable S) (index : SlotIndex) :
    Except Fault (TaskTable S) :=
  match table.slots[index].list with
  | none => .ok table
  | some list =>
      match predecessor index none (table.linked list) with
      | none => .error (.linkedNotFound index list)
      | some previous =>
          let next := table.slots[index].next
          let unlinked := (table.unmark index).link list previous next
          if list = .run ∧ table.runTail = some index then
            .ok { unlinked with runTail := previous }
          else
            .ok unlinked

/-- Where a deadline belongs in a list of slots: behind every deadline that is
not later.  Answers the slots in front of and behind that place. -/
def timerPlace (table : TaskTable S) (deadline : Deadline) :
    (previous : Option SlotIndex) → List SlotIndex →
      Except Fault (Option SlotIndex × Option SlotIndex)
  | previous, [] => .ok (previous, none)
  | previous, slot :: rest => do
      if deadline < (← table.deadlineOf slot) then
        return (previous, some slot)
      else
        table.timerPlace deadline (some slot) rest

def insertTimer (table : TaskTable S) (index : SlotIndex)
    (deadline : Deadline) : Except Fault (TaskTable S) :=
  if table.slots[index].list.isSome then
    .error (.alreadyLinked index)
  else do
    let (previous, next) ←
      table.timerPlace deadline none (table.linked .timer)
    return (table.mark index .timer next).link .timer previous (some index)

/-! ### Operations on tasks -/

/--
Put a new active task into the first empty slot, at the tail of the run queue.

A dead task keeps its slot until it is reaped, so that its joiners can always
collect how it ended.
-/
def insert (table : TaskTable S) (body : S.Body) (name : Option String) :
    Except Fault (Except Error (TaskHandle × TaskTable S)) :=
  match (List.finRange maxTasks).find? fun index =>
      table.slots[index].entry.isNone with
  | none => .ok (.error .noTaskSlots)
  | some index => do
      let table := table.setEntry index
        { state := .active, body := some body, joiners := .none, name }
      let table ← { table with live := table.live + 1 }.pushRun index
      return .ok (table.handleAt index, table)

/-- Take slots off the head of the run queue, given the slots on it, until an
active task comes up. -/
def popFrom (table : TaskTable S) :
    List SlotIndex → Except Fault (Option TaskHandle × TaskTable S)
  | [] => .ok (none, table)
  | index :: rest => do
      let table ← table.unlink index
      match table.slots[index].entry.map TaskEntry.state with
      | some .active => return (some (table.handleAt index), table)
      | some (.dead _) => table.popFrom rest
      | _ => throw (.queuedNotActive index)

def popRunnable (table : TaskTable S) :
    Except Fault (Option TaskHandle × TaskTable S) :=
  table.popFrom (table.linked .run)

/-- Move a waiting task to the tail of the run queue.  The flag says whether
it was waiting. -/
def activate (table : TaskTable S) (task : TaskHandle) :
    Except Fault (Bool × TaskTable S) :=
  match table.find? task with
  | none => .ok (false, table)
  | some (index, entry) =>
      if entry.state.isWaiting then do
        let table := table.setEntry index { entry with state := .active }
        let table ← table.unlink index
        return (true, ← table.pushRun index)
      else
        .ok (false, table)

/-- Put the task that just ran back on the run queue, if it is still active
and not queued. -/
def requeue (table : TaskTable S) (task : TaskHandle) :
    Except Fault (TaskTable S) :=
  if inRange : task.index < maxTasks then
    let index : SlotIndex := ⟨task.index, inRange⟩
    match table.slots[index].list, table.state task with
    | none, .ok .active => table.pushRun index
    | _, _ => .ok table
  else
    .error (.slotOutOfRange task.index)

def suspend (table : TaskTable S) (task : TaskHandle) :
    Except Fault (TaskTable S) :=
  match table.find? task with
  | none => .ok table
  | some (index, entry) =>
      match entry.state with
      | .active =>
          (table.setEntry index { entry with state := .suspended }).unlink index
      | _ => .error .suspendedInactive

def sleep (table : TaskTable S) (task : TaskHandle) (deadline : Deadline) :
    Except Fault (TaskTable S) :=
  if deadline.isNever then
    table.suspend task
  else
    match table.find? task with
    | none => .ok table
    | some (index, entry) => do
        let table := table.setEntry index
          { entry with state := .timer deadline }
        let table ← table.unlink index
        table.insertTimer index deadline

/-- Mark a task dead, take it off its list and drop its body.  Answers the
tasks that joined it. -/
def retire (table : TaskTable S) (task : TaskHandle) (exit : S.Exit) :
    Except Fault (TaskSet maxJoiners × TaskTable S) :=
  match table.find? task with
  | none => .ok (.none, table)
  | some (index, entry) =>
      if entry.state.isDead then
        .error (.retiredTwice task)
      else if table.live = 0 then
        .error .liveUnderflow
      else do
        let (joiners, left) := entry.joiners.take
        let table := table.setEntry index
          { entry with state := .dead exit, body := none, joiners := left }
        let table ← { table with live := table.live - 1 }.unlink index
        return (joiners, table)

/-- Add `joiner` to the tasks to resume when `task` dies.  The flag says
whether it is new. -/
def addJoiner (table : TaskTable S) (task joiner : TaskHandle) :
    Except Error (Bool × TaskTable S) :=
  match table.find? task with
  | none => .error .staleTask
  | some (index, entry) =>
      match entry.joiners.insert joiner with
      | .error _ => .error .tooManyJoiners
      | .ok (added, joiners) =>
          .ok (added, table.setEntry index { entry with joiners })

def forgetJoiner (table : TaskTable S) (task : TaskHandle) : TaskTable S :=
  { table with
    slots := table.slots.map fun slot =>
      { slot with
        entry := slot.entry.map fun entry =>
          { entry with joiners := (entry.joiners.remove task).2 } } }

/-- Free the slot of a dead task.  Answers how it ended, or nothing if it is
alive. -/
def reap (table : TaskTable S) (task : TaskHandle) :
    Except Error (Option S.Exit × TaskTable S) :=
  match table.find? task with
  | none => .error .staleTask
  | some (index, entry) =>
      match entry.state with
      | .dead exit =>
          .ok (some exit, table.modify index fun slot =>
            { slot with generation := slot.generation + 1, entry := none })
      | _ => .ok (none, table)

/-- Reap a task in two steps: see whether it is dead, and then take out of its
slot what is there.  It is a fault to take out a task that is alive. -/
def tryReap (table : TaskTable S) (task : TaskHandle) :
    Except Fault (Except Error (Option S.Exit × TaskTable S)) :=
  match table.find? task with
  | none => .ok (.error .staleTask)
  | some (index, entry) =>
      if entry.state.isDead then
        let freed := table.modify index fun slot =>
          { slot with generation := slot.generation + 1, entry := none }
        match table.slots[index].entry.map TaskEntry.state with
        | some (.dead exit) => .ok (.ok (some exit, freed))
        | _ => .error (.reapedAlive task)
      else
        .ok (.ok (none, table))

/-- The task that is taken out is the one that was seen to be dead. -/
theorem tryReap_eq (table : TaskTable S) (task : TaskHandle) :
    table.tryReap task = .ok (table.reap task) := by
  unfold tryReap reap
  split
  · rfl
  · next index entry found =>
      have stored : table.slots[index].entry = some entry := by
        unfold find? at found
        split at found
        · dsimp only at found
          split at found
          · obtain ⟨known, present, same⟩ := Option.map_eq_some_iff.mp found
            obtain ⟨rfl, rfl⟩ := Prod.mk.inj same
            exact present
          · cases found
        · cases found
      dsimp only
      rw [stored, Option.map_some]
      cases entry.state with
      | dead exit => rfl
      | active | suspended | timer => rfl

/-- Move expired slots from the head of the timer list to the tail of the run
queue, given the slots on the timer list.  Answers how many were moved. -/
def promoteFrom (table : TaskTable S) (now : Tick) :
    List SlotIndex → Except Fault (Nat × TaskTable S)
  | [] => .ok (0, table)
  | index :: rest => do
      if (← table.deadlineOf index).reached now then
        let table ← table.unlink index
        let table := table.modify index fun slot =>
          { slot with
            entry := slot.entry.map fun entry =>
              { entry with state := .active } }
        let table ← table.pushRun index
        let (promoted, table) ← table.promoteFrom now rest
        return (promoted + 1, table)
      else
        return (0, table)

/-- Move every task whose deadline has passed to the tail of the run queue, in
deadline order.  Answers how many were moved. -/
def promoteExpired (table : TaskTable S) (now : Tick) :
    Except Fault (Nat × TaskTable S) :=
  table.promoteFrom now (table.linked .timer)

end TaskTable

end EventScheduler
