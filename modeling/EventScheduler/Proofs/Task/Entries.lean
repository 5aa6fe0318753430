import EventScheduler.Proofs.Task.Joiners
import EventScheduler.Proofs.Task.Rouses

/-!
# What a roster knows about one task

Operations speak of slots, but whoever uses a scheduler speaks of handles.  This
module says what the kinds of change of a roster do to what it knows about the
task that a handle names.
-/

namespace EventScheduler.Roster

variable {S : Signature} {roster other : Roster S} {task : TaskHandle}

def entryOf (roster : Roster S) (task : TaskHandle) : Option (TaskEntry S) :=
  (roster.find? task).map Prod.snd

def stateOf (roster : Roster S) (task : TaskHandle) : Option S.State :=
  (roster.entryOf task).map TaskEntry.state

def joinersOf (roster : Roster S) (task : TaskHandle) : List TaskHandle :=
  (roster.entryOf task).elim [] fun entry => entry.joiners.toList

theorem entryOf_eq_some_iff {entry : TaskEntry S} :
    roster.entryOf task = some entry ↔
      ∃ index, roster.find? task = some (index, entry) := by
  unfold entryOf
  rw [Option.map_eq_some_iff]
  exact ⟨fun ⟨named, found, same⟩ => ⟨named.1, same ▸ found⟩,
    fun ⟨index, found⟩ => ⟨(index, entry), found, rfl⟩⟩

theorem entryOf_of_find? {index : SlotIndex} {entry : TaskEntry S}
    (found : roster.find? task = some (index, entry)) :
    roster.entryOf task = some entry :=
  entryOf_eq_some_iff.mpr ⟨index, found⟩

theorem entryOf_handleAt (roster : Roster S) (index : SlotIndex) :
    roster.entryOf (roster.handleAt index) = roster.entry index := by
  refine Option.ext fun entry => ?_
  rw [entryOf_eq_some_iff]
  constructor
  · rintro ⟨slot, found⟩
    obtain ⟨fits, present⟩ := find?_eq_some_iff.mp found
    rwa [← roster.handleAt_injective fits]
  · exact fun present => ⟨index, find?_eq_some_iff.mpr ⟨rfl, present⟩⟩

theorem isWaiting_eq_stateOf (roster : Roster S) (task : TaskHandle) :
    roster.isWaiting task =
      (roster.stateOf task).any TaskState.isWaiting := by
  unfold isWaiting stateOf entryOf
  cases roster.find? task <;> rfl

/-- A handle that fits no slot names nothing. -/
theorem entryOf_eq_none (stale : ∀ index, roster.handleAt index ≠ task) :
    roster.entryOf task = none := by
  refine Option.eq_none_iff_forall_ne_some.mpr fun entry known => ?_
  obtain ⟨index, found⟩ := entryOf_eq_some_iff.mp known
  exact stale index (find?_eq_some_iff.mp found).1

theorem entryOf_empty (task : TaskHandle) :
    (Roster.empty : Roster S).entryOf task = none := by
  refine Option.eq_none_iff_forall_ne_some.mpr fun entry known => ?_
  obtain ⟨index, found⟩ := entryOf_eq_some_iff.mp known
  cases (find?_eq_some_iff.mp found).2

theorem alive_iff_entryOf : roster.Alive task ↔
    ∃ entry, roster.entryOf task = some entry ∧ entry.state.isDead = false := by
  simp only [entryOf_eq_some_iff]
  exact ⟨fun ⟨index, entry, found, alive⟩ => ⟨entry, ⟨index, found⟩, alive⟩,
    fun ⟨entry, ⟨index, found⟩, alive⟩ => ⟨index, entry, found, alive⟩⟩

theorem alive_iff_stateOf : roster.Alive task ↔
    ∃ state, roster.stateOf task = some state ∧ state.isDead = false := by
  unfold stateOf
  simp only [alive_iff_entryOf, Option.map_eq_some_iff]
  exact ⟨fun ⟨entry, known, alive⟩ => ⟨_, ⟨entry, known, rfl⟩, alive⟩,
    fun ⟨_, ⟨entry, known, same⟩, alive⟩ => ⟨entry, known, same ▸ alive⟩⟩

theorem not_alive_of_dead {exit : S.Exit}
    (dead : roster.stateOf task = some (.dead exit)) :
    ¬ roster.Alive task := by
  rw [alive_iff_stateOf]
  rintro ⟨state, known, alive⟩
  cases dead.symm.trans known
  cases alive

/-- If every slot keeps its handle, it is enough to compare the slots. -/
theorem entryOf_cases
    (relation :
      TaskHandle → Option (TaskEntry S) → Option (TaskEntry S) → Prop)
    (generation : other.generation = roster.generation)
    (nothing : ∀ task, relation task none none)
    (slots : ∀ index, relation (roster.handleAt index) (roster.entry index)
      (other.entry index)) (task : TaskHandle) :
    relation task (roster.entryOf task) (other.entryOf task) := by
  have handle (index : SlotIndex) :
      other.handleAt index = roster.handleAt index :=
    handleAt_congr (congrFun generation index)
  by_cases fits : ∃ index, roster.handleAt index = task
  · obtain ⟨index, rfl⟩ := fits
    have slot := slots index
    rwa [← roster.entryOf_handleAt, ← other.entryOf_handleAt, handle] at slot
  · rw [not_exists] at fits
    rw [entryOf_eq_none fits,
      entryOf_eq_none fun index => handle index ▸ fits index]
    exact nothing task

theorem entryOf_setEntry (roster : Roster S) (index : SlotIndex)
    (entry : TaskEntry S) (task : TaskHandle) :
    (roster.setEntry index entry).entryOf task =
      if roster.handleAt index = task then some entry
      else roster.entryOf task := by
  have here : (roster.setEntry index entry).entryOf (roster.handleAt index) =
      some entry := by
    change (roster.setEntry index entry).entryOf
      ((roster.setEntry index entry).handleAt index) = _
    rw [entryOf_handleAt, entry_setEntry_self]
  split
  · next fits => rw [← fits, here]
  · next apart =>
      have kept : (roster.setEntry index entry).generation =
        roster.generation := rfl
      refine entryOf_cases (fun known before after =>
        roster.handleAt index ≠ known → after = before) kept
        (fun _ _ => rfl) (fun slot different => ?_) task apart
      refine roster.entry_setEntry_of_ne entry ?_
      rintro rfl
      exact different rfl

theorem entryOf_free (roster : Roster S) (index : SlotIndex)
    (task : TaskHandle) :
    (roster.free index).entryOf task =
      if roster.handleAt index = task then none else roster.entryOf task := by
  have elsewhere {slot : SlotIndex} (different : slot ≠ index) :
      (roster.free index).handleAt slot = roster.handleAt slot :=
    handleAt_congr (Function.update_of_ne different ..)
  have freed : ∀ entry, (roster.free index).entryOf task = some entry ↔
      roster.handleAt index ≠ task ∧ roster.entryOf task = some entry := by
    intro entry
    simp only [entryOf_eq_some_iff, find?_eq_some_iff]
    constructor
    · rintro ⟨slot, fits, present⟩
      by_cases same : slot = index
      · rw [same, entry_free_self] at present
        cases present
      · rw [elsewhere same] at fits
        rw [entry_free_of_ne roster same] at present
        refine ⟨fun here => ?_, slot, fits, present⟩
        exact same (roster.handleAt_injective (fits.trans here.symm))
    · rintro ⟨apart, slot, fits, present⟩
      have different : slot ≠ index := by
        rintro rfl
        exact apart fits
      exact ⟨slot, (elsewhere different).trans fits,
        (entry_free_of_ne roster different).trans present⟩
  refine Option.ext fun entry => ?_
  rw [freed]
  split
  · next here => simp [here]
  · next apart => simp [apart]

/-! ### Operations -/

theorem entry_forgetJoiner (roster : Roster S) (joiner : TaskHandle)
    (index : SlotIndex) :
    (roster.forgetJoiner joiner).entry index =
      (roster.entry index).map fun entry =>
        { entry with joiners := (entry.joiners.remove joiner).2 } :=
  rfl

/-- A new joiner goes behind the others. -/
theorem joinersOf_addJoiner {joiner : TaskHandle} {added : Bool}
    (done : (roster.addJoiner task joiner).1 = .ok added) :
    (roster.addJoiner task joiner).2.joinersOf task =
      if joiner ∈ roster.joinersOf task then roster.joinersOf task
      else roster.joinersOf task ++ [joiner] := by
  unfold addJoiner at done ⊢
  split at done
  · cases done
  · next index entry found =>
      split at done
      · cases done
      · next known joiners inserted =>
          have fits := (find?_eq_some_iff.mp found).1
          unfold joinersOf
          rw [entryOf_of_find? found, entryOf_setEntry, if_pos fits]
          exact TaskSet.toList_insert inserted

theorem entry_requeue (roster : Roster S) (task : TaskHandle) :
    (roster.requeue task).entry = roster.entry := by
  unfold requeue
  split
  · rfl
  · split
    · split <;> rfl
    · rfl

theorem entry_popRunnable (roster : Roster S) :
    roster.popRunnable.2.entry = roster.entry := by
  unfold popRunnable
  split <;> rfl

theorem find?_of_reap {exit : S.Exit}
    (reaped : (roster.reap task).1 = .ok (some exit)) :
    ∃ index entry, roster.find? task = some (index, entry) ∧
      entry.state = .dead exit ∧ (roster.reap task).2 = roster.free index := by
  have answered := reaped
  unfold reap at answered
  split at answered
  · cases answered
  · next index entry found =>
      split at answered
      · next known dead =>
          cases answered
          exact ⟨index, entry, found, dead,
            congrArg Prod.snd (reap_of_find? found dead)⟩
      · cases answered

end EventScheduler.Roster
