import EventScheduler.Fault

/-!
# Small sets of tasks

Almost every event has a single watcher and almost every task at most one
joiner, so a set is a single handle until a second distinct task shows up.
Members keep the order in which they were inserted.
-/

namespace EventScheduler

/-- An insertion-ordered set of at most `capacity` tasks. -/
inductive TaskSet (capacity : Nat)
  /-- The empty set. -/
  | none
  /-- The set of one task. -/
  | one (task : TaskHandle)
  /-- A set of several tasks. -/
  | many (members : List TaskHandle)
deriving DecidableEq, Inhabited

inductive TaskSetFull
  | full
deriving DecidableEq, Inhabited

namespace TaskSet

variable {capacity : Nat}

/-- The members in insertion order. -/
def toList : TaskSet capacity → List TaskHandle
  | .none => []
  | .one task => [task]
  | .many members => members

def size (set : TaskSet capacity) : Nat :=
  set.toList.length

def isEmpty (set : TaskSet capacity) : Bool :=
  set.toList.isEmpty

def contains (set : TaskSet capacity) (task : TaskHandle) : Bool :=
  set.toList.contains task

/-- The set of the given members, in its smallest form. -/
def ofList : List TaskHandle → TaskSet capacity
  | [] => .none
  | [only] => .one only
  | members => .many members

/--
Add `task` behind the other members.  The flag says whether it is new; a set
that would outgrow its capacity is refused.
-/
def insert (set : TaskSet capacity) (task : TaskHandle) :
    Except TaskSetFull (Bool × TaskSet capacity) :=
  match set with
  | .none => .ok (true, .one task)
  | .one first =>
      if first = task then .ok (false, set)
      else if 2 ≤ capacity then .ok (true, .many [first, task])
      else .error .full
  | .many members =>
      if members.contains task then .ok (false, set)
      else if members.length < capacity then
        .ok (true, .many (members ++ [task]))
      else .error .full

/-- Remove `task`.  The flag says whether it was a member. -/
def remove (set : TaskSet capacity) (task : TaskHandle) :
    Bool × TaskSet capacity :=
  match set with
  | .none => (false, .none)
  | .one only => if only = task then (true, .none) else (false, .one only)
  | .many members =>
      if members.contains task then
        (true, ofList (members.filter fun other => other != task))
      else (false, .many members)

/-- Empty the set.  Answers what it held, beside what is left. -/
def take (set : TaskSet capacity) : TaskSet capacity × TaskSet capacity :=
  (set, .none)

@[simp]
theorem toList_ofList (members : List TaskHandle) :
    (ofList members : TaskSet capacity).toList = members := by
  unfold ofList
  split <;> rfl

@[simp]
theorem toList_remove (set : TaskSet capacity) (task : TaskHandle) :
    (set.remove task).2.toList =
      set.toList.filter fun other => other != task := by
  cases set with
  | none => rfl
  | one only =>
      by_cases same : only = task <;> simp [remove, toList, same]
  | many members =>
      by_cases present : task ∈ members
      · simp only [remove, List.contains_iff_mem, present, if_true,
          toList_ofList]
        rfl
      · have kept : ∀ other ∈ members, other != task := by
          intro other inside
          simpa using ne_of_mem_of_not_mem inside present
        simp [remove, present, toList, List.filter_eq_self.mpr kept]

@[simp]
theorem remove_fst (set : TaskSet capacity) (task : TaskHandle) :
    (set.remove task).1 = set.contains task := by
  cases set with
  | none => rfl
  | one only =>
      by_cases same : only = task
      · simp [remove, contains, toList, same]
      · simp [remove, contains, toList, same, Ne.symm same]
  | many members =>
      by_cases present : task ∈ members <;>
        simp [remove, contains, toList, present]

@[simp]
theorem toList_take (set : TaskSet capacity) : set.take.2.toList = [] := rfl

/-- Act on every task of a list in order.  The flag says whether any of the
acts answered true; none is skipped for that. -/
def visitList {σ : Type} (act : σ → TaskHandle → Except Fault (Bool × σ)) :
    List TaskHandle → σ → Except Fault (Bool × σ)
  | [], state => .ok (false, state)
  | task :: rest, state => do
      let (first, state) ← act state task
      let (later, state) ← visitList act rest state
      return (first || later, state)

def visit {σ : Type} (set : TaskSet capacity)
    (act : σ → TaskHandle → Except Fault (Bool × σ)) (state : σ) :
    Except Fault (Bool × σ) :=
  visitList act set.toList state

end TaskSet

end EventScheduler
