import EventScheduler.Proofs.Task.Operations

/-!
# What stays alive

A task is alive from its start until it is retired, whatever else is done to
the table, and its handle names it all the while.
-/

namespace EventScheduler.Roster

variable {S : Signature} {roster other : Roster S} {task : TaskHandle}

/-- The handle names a task that is not dead. -/
def Alive (roster : Roster S) (task : TaskHandle) : Prop :=
  ∃ index entry, roster.find? task = some (index, entry) ∧
    entry.state.isDead = false

theorem Alive.eachNamed (alive : roster.Alive task) :
    roster.EachNamed task (·.isDead = false) := by
  obtain ⟨index, entry, found, notDead⟩ := alive
  intro other otherEntry foundToo
  rw [found] at foundToo
  cases foundToo
  exact notDead

theorem isLive_eq_true_iff {index : SlotIndex} :
    roster.isLive index = true ↔
      ∃ entry, roster.entry index = some entry ∧ entry.state.isDead = false := by
  unfold isLive state?
  cases roster.entry index <;> simp

theorem alive_iff :
    roster.Alive task ↔
      ∃ index, roster.handleAt index = task ∧ roster.isLive index = true := by
  constructor
  · rintro ⟨index, entry, found, notDead⟩
    obtain ⟨fits, present⟩ := find?_eq_some_iff.mp found
    exact ⟨index, fits, isLive_eq_true_iff.mpr ⟨entry, present, notDead⟩⟩
  · rintro ⟨index, fits, live⟩
    obtain ⟨entry, present, notDead⟩ := isLive_eq_true_iff.mp live
    exact ⟨index, entry, find?_eq_some_iff.mpr ⟨fits, present⟩, notDead⟩

theorem isLive_congr {index : SlotIndex}
    (same : other.state? index = roster.state? index) :
    other.isLive index = roster.isLive index := by
  unfold isLive
  rw [same]

/-- The same slots are live, under the same handles. -/
theorem alive_congr (generation : other.generation = roster.generation)
    (live : ∀ index, other.isLive index = roster.isLive index) :
    other.Alive task ↔ roster.Alive task := by
  rw [alive_iff, alive_iff]
  refine exists_congr fun index => ?_
  rw [live]
  unfold handleAt
  rw [generation]

/-- One slot changes. -/
theorem alive_of_change_iff {index : SlotIndex}
    (states : ∀ slot, slot ≠ index →
      other.state? slot = roster.state? slot)
    (generation : ∀ slot, slot ≠ index →
      other.generation slot = roster.generation slot) :
    other.Alive task ↔
      (other.handleAt index = task ∧ other.isLive index = true) ∨
        (roster.Alive task ∧ task ≠ roster.handleAt index) := by
  have elsewhere (slot : SlotIndex) (different : slot ≠ index) :
      other.handleAt slot = roster.handleAt slot ∧
        other.isLive slot = roster.isLive slot := by
    refine ⟨?_, isLive_congr (states slot different)⟩
    unfold handleAt
    rw [generation slot different]
  rw [alive_iff, alive_iff]
  constructor
  · rintro ⟨slot, fits, live⟩
    by_cases same : slot = index
    · subst same
      exact Or.inl ⟨fits, live⟩
    · obtain ⟨sameHandle, sameLife⟩ := elsewhere slot same
      rw [sameHandle] at fits
      rw [sameLife] at live
      refine Or.inr ⟨⟨slot, fits, live⟩, ?_⟩
      rw [← fits]
      exact fun equal => same (roster.handleAt_injective equal)
  · rintro (here | ⟨⟨slot, fits, live⟩, different⟩)
    · exact ⟨index, here⟩
    · have apart : slot ≠ index := by
        rintro rfl
        exact different fits.symm
      obtain ⟨sameHandle, sameLife⟩ := elsewhere slot apart
      exact ⟨slot, sameHandle.trans fits, sameLife.trans live⟩

theorem alive_insert_iff {body : S.Body} {name : Option String}
    {started : TaskHandle}
    (done : (roster.insert body name).1 = .ok started) :
    (roster.insert body name).2.Alive task ↔
      task = started ∨ roster.Alive task := by
  obtain ⟨index, entry, vacant, fits, fresh, filled⟩ := exists_of_insert done
  have live : (roster.seat index entry).isLive index = true := by
    refine isLive_eq_true_iff.mpr ⟨entry, roster.entry_seat_self index entry, ?_⟩
    rw [fresh]
    rfl
  have other : roster.Alive task → task ≠ roster.handleAt index := by
    intro alive same
    obtain ⟨slot, fitsToo, liveToo⟩ := alive_iff.mp alive
    obtain ⟨known, present, _⟩ := isLive_eq_true_iff.mp liveToo
    rw [roster.handleAt_injective (fitsToo.trans same), vacant] at present
    cases present
  rw [filled, alive_of_change_iff (fun slot different =>
    roster.state?_seat_of_ne entry different) fun _ _ => rfl]
  constructor
  · rintro (⟨here, _⟩ | ⟨alive, _⟩)
    · exact Or.inl (here.symm.trans fits)
    · exact Or.inr alive
  · rintro (rfl | alive)
    · exact Or.inl ⟨fits, live⟩
    · exact Or.inr ⟨alive, other alive⟩

/-- Nobody is alive under the handle that a new task gets. -/
theorem not_alive_of_insert {body : S.Body} {name : Option String}
    (started : (roster.insert body name).1 = .ok task) :
    ¬ roster.Alive task := by
  obtain ⟨index, entry, vacant, fits, _, _⟩ := exists_of_insert started
  intro alive
  obtain ⟨slot, fitsToo, live⟩ := alive_iff.mp alive
  obtain ⟨known, present, _⟩ := isLive_eq_true_iff.mp live
  rw [roster.handleAt_injective (fitsToo.trans fits.symm), vacant] at present
  cases present

theorem alive_retire_iff {dying : TaskHandle} (alive : roster.Alive dying)
    (exit : S.Exit) :
    (roster.retire dying exit).2.Alive task ↔
      roster.Alive task ∧ task ≠ dying := by
  obtain ⟨index, entry, found, _⟩ := alive
  have dead : (roster.bury index entry exit).isLive index = false := by
    rw [isLive_eq (state?_of_entry (roster.entry_bury_self index entry exit))]
    rfl
  rw [retire_of_find? exit found, alive_of_change_iff (fun slot different =>
    roster.state?_bury_of_ne entry exit different) fun _ _ => rfl,
    dead, (find?_eq_some_iff.mp found).1]
  simp

theorem alive_free_iff {index : SlotIndex}
    (gone : roster.isLive index = false) :
    (roster.free index).Alive task ↔ roster.Alive task := by
  have empty : (roster.free index).isLive index = false :=
    isLive_of_none (roster.state?_free_self index)
  have other : roster.Alive task → task ≠ roster.handleAt index := by
    intro alive same
    obtain ⟨slot, fits, live⟩ := alive_iff.mp alive
    rw [roster.handleAt_injective (fits.trans same), gone] at live
    cases live
  rw [alive_of_change_iff (fun slot different =>
    roster.state?_free_of_ne different) fun slot different =>
      Function.update_of_ne different .., empty]
  constructor
  · rintro (⟨_, impossible⟩ | ⟨alive, _⟩)
    · cases impossible
    · exact alive
  · exact fun alive => Or.inr ⟨alive, other alive⟩

theorem alive_update_iff (changed : TaskHandle)
    {change : TaskEntry S → TaskEntry S}
    (keeps : ∀ entry, (change entry).state = entry.state) :
    (roster.update changed change).Alive task ↔ roster.Alive task := by
  refine alive_congr ?_ fun index =>
    isLive_congr (state?_update roster changed keeps index)
  unfold Roster.update
  split <;> rfl

theorem alive_forgetJoiner_iff (forgotten : TaskHandle) :
    (roster.forgetJoiner forgotten).Alive task ↔ roster.Alive task :=
  alive_congr rfl fun index =>
    isLive_congr (state?_forgetJoiner roster forgotten index)

theorem alive_addJoiner_iff (joined joiner : TaskHandle) :
    (roster.addJoiner joined joiner).2.Alive task ↔ roster.Alive task := by
  unfold Roster.addJoiner
  split
  · exact Iff.rfl
  · next index entry found =>
      split
      · exact Iff.rfl
      · refine alive_congr rfl fun slot => isLive_congr ?_
        by_cases same : slot = index
        · subst same
          rw [state?_setEntry_self, state?_of_find? found]
        · exact roster.state?_setEntry_of_ne _ same

end EventScheduler.Roster
