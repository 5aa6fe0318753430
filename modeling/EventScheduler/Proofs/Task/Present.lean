import EventScheduler.Proofs.Task.Belongings

/-!
# Tasks that were not reaped

A handle names a task, dead or alive, until that very task is reaped.
-/

namespace EventScheduler.Roster

variable {S : Signature} {roster other : Roster S} {task : TaskHandle}

/-- The handle names a task, dead or alive. -/
def Present (roster : Roster S) (task : TaskHandle) : Prop :=
  ∃ index, roster.handleAt index = task ∧ roster.entry index ≠ none

theorem Alive.present (alive : roster.Alive task) : roster.Present task := by
  obtain ⟨index, entry, found, _⟩ := alive
  obtain ⟨fits, present⟩ := find?_eq_some_iff.mp found
  exact ⟨index, fits, present ▸ Option.some_ne_none entry⟩

namespace Present

theorem exists_find? (present : roster.Present task) :
    ∃ index entry, roster.find? task = some (index, entry) := by
  obtain ⟨index, fits, filled⟩ := present
  obtain ⟨entry, known⟩ := Option.ne_none_iff_exists'.mp filled
  exact ⟨index, entry, find?_eq_some_iff.mpr ⟨fits, known⟩⟩

/-- No slot is emptied and no handle changes. -/
theorem congr (present : roster.Present task)
    (generation : other.generation = roster.generation)
    (filled : ∀ index, roster.entry index ≠ none → other.entry index ≠ none) :
    other.Present task := by
  obtain ⟨index, fits, known⟩ := present
  exact ⟨index, (handleAt_congr (congrFun generation index)).trans fits,
    filled index known⟩

theorem keeps (present : roster.Present task) (keeps : roster.Keeps other) :
    other.Present task := by
  refine present.congr keeps.generation fun index filled emptied => ?_
  have same := keeps.belongings index
  rw [emptied, Option.map_none, eq_comm, Option.map_eq_none_iff] at same
  exact filled same

private theorem of_update {index : SlotIndex} {entry : TaskEntry S}
    (present : roster.Present task)
    (generation : other.generation = roster.generation)
    (entries : other.entry = Function.update roster.entry index (some entry)) :
    other.Present task := by
  refine present.congr generation fun slot filled => ?_
  rw [entries]
  by_cases same : slot = index
  · subst same
    rw [Function.update_self]
    exact Option.some_ne_none entry
  · rw [Function.update_of_ne same]
    exact filled

theorem insert (present : roster.Present task) (body : S.Body)
    (name : Option String) : (roster.insert body name).2.Present task := by
  unfold Roster.insert
  split
  · exact present
  · exact present.of_update rfl rfl

theorem retire (present : roster.Present task) (dying : TaskHandle)
    (exit : S.Exit) : (roster.retire dying exit).2.Present task := by
  unfold Roster.retire
  split
  · exact present
  · exact present.of_update rfl rfl

theorem forgetJoiner (present : roster.Present task) (joiner : TaskHandle) :
    (roster.forgetJoiner joiner).Present task :=
  present.congr rfl fun _ filled emptied =>
    filled (Option.map_eq_none_iff.mp emptied)

theorem addJoiner (present : roster.Present task)
    (joined joiner : TaskHandle) :
    (roster.addJoiner joined joiner).2.Present task := by
  unfold Roster.addJoiner
  split
  · exact present
  · split
    · exact present
    · exact present.of_update rfl rfl

theorem update (present : roster.Present task) (changed : TaskHandle)
    (change : TaskEntry S → TaskEntry S) :
    (roster.update changed change).Present task := by
  unfold Roster.update
  split
  · exact present.of_update rfl rfl
  · exact present

/-- A slot is emptied that is not the one of the task. -/
theorem free (present : roster.Present task) {index : SlotIndex}
    (apart : roster.handleAt index = task → roster.entry index = none) :
    (roster.free index).Present task := by
  obtain ⟨slot, fits, filled⟩ := present
  have different : slot ≠ index := fun same => by
    subst same
    exact filled (apart fits)
  refine ⟨slot, (handleAt_congr ?_).trans fits, ?_⟩
  · exact Function.update_of_ne different ..
  · rw [roster.entry_free_of_ne different]
    exact filled

theorem reap (present : roster.Present task) {reaped : TaskHandle}
    (different : task ≠ reaped) : (roster.reap reaped).2.Present task := by
  unfold Roster.reap
  split
  · exact present
  · next index entry found =>
      split
      · refine present.free fun fits => absurd ?_ different
        exact fits.symm.trans (find?_eq_some_iff.mp found).1
      · exact present

end Present

end EventScheduler.Roster
