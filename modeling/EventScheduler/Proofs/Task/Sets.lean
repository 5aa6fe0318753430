import EventScheduler.Task.Set
import Mathlib.Data.List.Nodup
import Mathlib.Logic.Function.Basic

/-!
# Small sets and their members

A set that comes of inserting, removing, taking and cloning is the list of its
members in canonical form: none of them occurs twice, they are no more than the
capacity, and the shape of the set says whether there are none, one or several.
What is done to sets is done to their lists of members.
-/

namespace EventScheduler

namespace TaskSet

/-! ### Inserting and removing -/

variable {capacity : Nat} {set next : TaskSet capacity} {task other : TaskHandle}

/-- A new member goes behind the others. -/
theorem toList_insert {added : Bool}
    (done : set.insert task = .ok (added, next)) :
    next.toList =
      if task ∈ set.toList then set.toList else set.toList ++ [task] := by
  unfold insert at done
  split at done
  · cases done
    rfl
  · next first =>
      split at done
      · next same =>
          cases done
          simp [toList, same]
      · next different =>
          split at done
          · cases done
            simp [toList, Ne.symm different]
          · cases done
  · next members =>
      split at done
      · next inside =>
          cases done
          have known : task ∈ members := by simpa using inside
          simp [toList, known]
      · next outside =>
          split at done
          · cases done
            have fresh : task ∉ members := by simpa using outside
            simp [toList, fresh]
          · cases done

theorem mem_insert {added : Bool} (done : set.insert task = .ok (added, next)) :
    other ∈ next.toList ↔ other ∈ set.toList ∨ other = task := by
  rw [toList_insert done]
  split
  · next inside =>
      refine ⟨Or.inl, ?_⟩
      rintro (already | rfl)
      · exact already
      · exact inside
  · simp

theorem nodup_insert {added : Bool}
    (done : set.insert task = .ok (added, next)) (nodup : set.toList.Nodup) :
    next.toList.Nodup := by
  rw [toList_insert done]
  split
  · exact nodup
  · next outside =>
      rw [← List.concat_eq_append]
      exact nodup.concat outside

theorem mem_remove :
    other ∈ (set.remove task).2.toList ↔ other ∈ set.toList ∧ other ≠ task := by
  simp

theorem exists_insert_iff (positive : 0 < capacity) :
    (∃ result, set.insert task = .ok result) ↔
      task ∈ set.toList ∨ set.toList.length < capacity := by
  cases set with
  | none => simpa [insert, toList] using positive
  | one first =>
      by_cases same : first = task
      · simp [insert, toList, same]
      · by_cases room : 2 ≤ capacity
        · simp [insert, toList, same, room]
          omega
        · simp [insert, toList, same, Ne.symm same, room]
          omega
  | many members =>
      by_cases inside : task ∈ members
      · simp [insert, toList, inside]
      · by_cases room : members.length < capacity <;>
          simp [insert, toList, inside, room]

theorem eq_of_remove (absent : (set.remove task).1 = false) :
    (set.remove task).2 = set := by
  cases set with
  | none => rfl
  | one only =>
      unfold remove at absent ⊢
      dsimp only at absent ⊢
      split at absent
      · cases absent
      · next different => rw [if_neg different]
  | many members =>
      unfold remove at absent ⊢
      dsimp only at absent ⊢
      split at absent
      · cases absent
      · next outside => rw [if_neg outside]

/-! ### Sets in canonical form -/

variable {members : List TaskHandle}

theorem ofList_injective :
    Function.Injective (ofList : List TaskHandle → TaskSet capacity) :=
  Function.LeftInverse.injective toList_ofList

theorem ofList_eq_none_iff :
    (ofList members : TaskSet capacity) = .none ↔ members = [] :=
  match members with
  | [] => by simp [ofList]
  | [_] | _ :: _ :: _ => by simp [ofList]

theorem exists_ofList_eq_one_iff :
    (∃ task, (ofList members : TaskSet capacity) = .one task) ↔
      members.length = 1 :=
  match members with
  | [] | [_] | _ :: _ :: _ => by simp [ofList]

theorem exists_ofList_eq_many_iff :
    (∃ several, (ofList members : TaskSet capacity) = .many several) ↔
      2 ≤ members.length :=
  match members with
  | [] | [_] | _ :: _ :: _ => by simp [ofList]

/-- A new member goes behind the others if there is room for it. -/
theorem insert_ofList (positive : 0 < capacity) (members : List TaskHandle)
    (task : TaskHandle) :
    (ofList members : TaskSet capacity).insert task =
      if task ∈ members then .ok (false, ofList members)
      else if members.length < capacity then
        .ok (true, ofList (members ++ [task]))
      else .error .full := by
  match members with
  | [] => simp [ofList, insert, positive]
  | [only] =>
      by_cases same : only = task
      · simp [ofList, insert, same]
      · simp [ofList, insert, same, Ne.symm same, Nat.lt_iff_add_one_le]
  | first :: second :: rest => simp [ofList, insert]

/-- A set without any capacity has room for one task all the same. -/
example (task : TaskHandle) :
    (.none : TaskSet 0).insert task = .ok (true, .one task) := rfl

/-- A member that is removed is erased from the list. -/
theorem remove_ofList (nodup : members.Nodup) (task : TaskHandle) :
    (ofList members : TaskSet capacity).remove task =
      (decide (task ∈ members), ofList (members.erase task)) := by
  match members with
  | [] => rfl
  | [only] =>
      by_cases same : only = task
      · simp [ofList, remove, same]
      · simp [ofList, remove, same, Ne.symm same]
  | first :: second :: rest =>
      by_cases inside : task ∈ first :: second :: rest
      · simp [ofList, remove, inside, nodup.erase_eq_filter]
      · simp [ofList, remove, inside, List.erase_of_not_mem]

end TaskSet

/-! ### Operations on numbered sets and on numbered lists -/

/-- An operation on sets that are told apart by number. -/
inductive TaskSetOperation
  | insert (index : Nat) (task : TaskHandle)
  | remove (index : Nat) (task : TaskHandle)
  /-- Empty the set at `source`; what it held replaces the set at `target`. -/
  | take (source target : Nat)
  | clone (source target : Nat)

abbrev TaskSetOperation.Answer : TaskSetOperation → Type
  | .insert _ _ => Except TaskSetFull Bool
  | .remove _ _ => Bool
  | .take _ _ | .clone _ _ => Unit

/-- Sets that are told apart by number. -/
abbrev TaskSets (capacity : Nat) := Nat → TaskSet capacity

abbrev MemberLists := Nat → List TaskHandle

variable {capacity : Nat}

def TaskSets.empty : TaskSets capacity := fun _ => .none

def TaskSets.perform (sets : TaskSets capacity) :
    (operation : TaskSetOperation) → operation.Answer × TaskSets capacity
  | .insert index task =>
      match (sets index).insert task with
      | .ok (added, set) => (.ok added, Function.update sets index set)
      | .error refusal => (.error refusal, sets)
  | .remove index task =>
      let (removed, set) := (sets index).remove task
      (removed, Function.update sets index set)
  | .take source target =>
      let (held, left) := (sets source).take
      ((), Function.update (Function.update sets source left) target held)
  | .clone source target => ((), Function.update sets target (sets source))

/-- Operate on plain lists of at most `capacity` members. -/
def MemberLists.perform (capacity : Nat) (lists : MemberLists) :
    (operation : TaskSetOperation) → operation.Answer × MemberLists
  | .insert index task =>
      if task ∈ lists index then (.ok false, lists)
      else if (lists index).length < capacity then
        (.ok true, Function.update lists index (lists index ++ [task]))
      else (.error .full, lists)
  | .remove index task =>
      (decide (task ∈ lists index),
        Function.update lists index ((lists index).erase task))
  | .take source target =>
      ((), Function.update (Function.update lists source []) target
        (lists source))
  | .clone source target => ((), Function.update lists target (lists source))

/-! ### What the operations make of lists -/

namespace MemberLists

variable {lists : MemberLists}

structure Proper (capacity : Nat) (lists : MemberLists) : Prop where
  nodup (index : Nat) : (lists index).Nodup
  bounded (index : Nat) : (lists index).length ≤ capacity

namespace Proper

theorem update (proper : lists.Proper capacity) {list : List TaskHandle}
    (nodup : list.Nodup) (bounded : list.length ≤ capacity) (index : Nat) :
    Proper capacity (Function.update lists index list) where
  nodup := (Function.forall_update_iff lists fun _ list => list.Nodup).mpr
    ⟨nodup, fun other _ => proper.nodup other⟩
  bounded :=
    (Function.forall_update_iff lists fun _ list => list.length ≤ capacity).mpr
      ⟨bounded, fun other _ => proper.bounded other⟩

theorem perform (proper : lists.Proper capacity)
    (operation : TaskSetOperation) :
    Proper capacity (lists.perform capacity operation).2 := by
  cases operation with
  | insert index task =>
      unfold MemberLists.perform
      dsimp only
      split
      · exact proper
      · next absent =>
          split
          · next room =>
              refine proper.update ?_ ?_ index
              · rw [← List.concat_eq_append]
                exact (proper.nodup index).concat absent
              · rw [List.length_append]
                exact room
          · exact proper
  | remove index task =>
      have fewer : ((lists index).erase task).length ≤ (lists index).length :=
        List.length_erase_le
      exact proper.update ((proper.nodup index).erase task)
        (Nat.le_trans fewer (proper.bounded index)) index
  | take source target =>
      have emptied := proper.update List.nodup_nil (Nat.zero_le capacity) source
      exact emptied.update (proper.nodup source) (proper.bounded source) target
  | clone source target =>
      exact proper.update (proper.nodup source) (proper.bounded source) target

end Proper

end MemberLists

/-! ### Sets are their lists -/

namespace TaskSets

variable {sets : TaskSets capacity} {lists : MemberLists}

def members (sets : TaskSets capacity) : MemberLists :=
  fun index => (sets index).toList

/-- The sets with the given members, in canonical form. -/
def ofLists (lists : MemberLists) : TaskSets capacity :=
  fun index => TaskSet.ofList (lists index)

@[simp]
theorem members_ofLists : (ofLists lists : TaskSets capacity).members = lists :=
  funext fun _ => TaskSet.toList_ofList _

theorem ofLists_update (index : Nat) (list : List TaskHandle) :
    (ofLists (Function.update lists index list) : TaskSets capacity) =
      Function.update (ofLists lists) index (TaskSet.ofList list) :=
  Function.comp_update ..

/-- What is done to the sets of some lists is done to the lists. -/
theorem ofLists_perform (positive : 0 < capacity)
    (proper : lists.Proper capacity) (operation : TaskSetOperation) :
    (ofLists lists : TaskSets capacity).perform operation =
      ((lists.perform capacity operation).1,
        ofLists (lists.perform capacity operation).2) := by
  unfold perform MemberLists.perform
  cases operation with
  | insert index task =>
      have inserted : (ofLists lists index : TaskSet capacity).insert task = _ :=
        TaskSet.insert_ofList positive (lists index) task
      dsimp only
      rw [inserted]
      by_cases present : task ∈ lists index
      · -- The set is put back as it was found.
        have same := Function.update_eq_self index
          (ofLists lists : TaskSets capacity)
        simp only [if_pos present]
        exact congrArg (Prod.mk _) same
      · by_cases room : (lists index).length < capacity
        · simp only [if_neg present, if_pos room, ofLists_update]
        · simp only [if_neg present, if_neg room]
  | remove index task =>
      have removed : (ofLists lists index : TaskSet capacity).remove task = _ :=
        TaskSet.remove_ofList (proper.nodup index) task
      dsimp only
      rw [removed, ofLists_update]
  | take source target =>
      dsimp only
      rw [ofLists_update, ofLists_update]
      rfl
  | clone source target =>
      dsimp only
      rw [ofLists_update]
      rfl

/-- What comes of any operations on sets that were empty. -/
inductive Reached : TaskSets capacity → Prop
  | start : Reached .empty
  | perform {sets : TaskSets capacity} (reached : Reached sets)
      (operation : TaskSetOperation) : Reached (sets.perform operation).2

theorem Reached.exists_lists (positive : 0 < capacity)
    (reached : sets.Reached) :
    ∃ lists : MemberLists, lists.Proper capacity ∧ sets = ofLists lists := by
  induction reached with
  | start =>
      exact ⟨fun _ => [], ⟨fun _ => List.nodup_nil, fun _ => Nat.zero_le _⟩, rfl⟩
  | perform _ operation ih =>
      obtain ⟨lists, proper, rfl⟩ := ih
      rw [ofLists_perform positive proper]
      exact ⟨_, proper.perform operation, rfl⟩

/-- The members of sets are duplicate-free and within the capacity, and there
are as many as the shape of the set says; every operation on the sets is an
operation on the lists of members. -/
structure Mirrors (sets : TaskSets capacity) : Prop where
  nodup (index : Nat) : (sets.members index).Nodup
  bounded (index : Nat) : (sets.members index).length ≤ capacity
  none_iff (index : Nat) : sets index = .none ↔ sets.members index = []
  one_iff (index : Nat) :
    (∃ task, sets index = .one task) ↔ (sets.members index).length = 1
  many_iff (index : Nat) :
    (∃ several, sets index = .many several) ↔
      2 ≤ (sets.members index).length
  beq_iff (first second : Nat) : (sets first == sets second) = true ↔
    sets.members first = sets.members second
  perform (operation : TaskSetOperation) :
    (sets.perform operation).1 =
        (sets.members.perform capacity operation).1 ∧
      (sets.perform operation).2.members =
        (sets.members.perform capacity operation).2
  /-- What leaves the members as they were leaves the sets as they were. -/
  still (operation : TaskSetOperation) :
    (sets.members.perform capacity operation).2 = sets.members →
      (sets.perform operation).2 = sets

/-- Whatever was done to sets that were empty, they mirror their members. -/
theorem Reached.mirrors (positive : 0 < capacity) (reached : sets.Reached) :
    sets.Mirrors := by
  obtain ⟨lists, proper, rfl⟩ := reached.exists_lists positive
  have square := ofLists_perform positive proper
  constructor <;> simp only [members_ofLists]
  case nodup => exact proper.nodup
  case bounded => exact proper.bounded
  case none_iff => exact fun index => TaskSet.ofList_eq_none_iff
  case one_iff => exact fun index => TaskSet.exists_ofList_eq_one_iff
  case many_iff => exact fun index => TaskSet.exists_ofList_eq_many_iff
  case beq_iff =>
    intro first second
    exact beq_iff_eq.trans TaskSet.ofList_injective.eq_iff
  case perform =>
    intro operation
    rw [square operation]
    exact ⟨rfl, members_ofLists⟩
  case still =>
    intro operation unchanged
    rw [square operation]
    exact congrArg ofLists unchanged

/-- A full set is cloned; the clone refuses a third task.  One task is removed
from the set, and the other one is taken out with it. -/
theorem mirrors_cloned_and_taken :
    ∃ sets : TaskSets 2, 0 < 2 ∧ sets.Reached ∧ sets 0 = .none ∧
      sets 1 = .many [⟨0, 0⟩, ⟨1, 0⟩] ∧ sets 2 = .one ⟨1, 0⟩ ∧
        sets.Mirrors := by
  have none : Reached (empty : TaskSets 2) := .start
  have one := none.perform (.insert 0 ⟨0, 0⟩)
  have two := one.perform (.insert 0 ⟨1, 0⟩)
  have cloned := two.perform (.clone 0 1)
  have refused := cloned.perform (.insert 1 ⟨2, 0⟩)
  have removed := refused.perform (.remove 0 ⟨0, 0⟩)
  have taken := removed.perform (.take 0 2)
  exact ⟨_, by decide, taken, rfl, rfl, rfl, taken.mirrors (by decide)⟩

end TaskSets

end EventScheduler
