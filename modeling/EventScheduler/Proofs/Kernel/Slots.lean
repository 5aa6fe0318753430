import EventScheduler.Proofs.Kernel.Lines
import Mathlib.Data.Fintype.Card

/-!
# What becomes of a slot

A slot keeps its generation until it is freed, and it is freed only by a reap of
the dead task in it, or when a handler is dropped that never ran.  So the slots
of dead tasks only become more until somebody is reaped.
-/

namespace EventScheduler

variable {S : Signature}

def Deed.freed? : Deed → Option Nat
  | .spoils index => some index
  | .reaps task => some task.index
  | _ => none

namespace Roster

variable {roster : Roster S} {index slot : SlotIndex}

theorem generation_free_of_ne (different : slot ≠ index) :
    (roster.free index).generation slot = roster.generation slot :=
  Function.update_of_ne different ..

theorem generation_free_self (roster : Roster S) (index : SlotIndex) :
    (roster.free index).generation index = roster.generation index + 1 :=
  Function.update_self ..

end Roster

namespace Kernel

variable {kernel next : Kernel S} {deed : Deed} {index : SlotIndex}

private theorem generation_of_holds {tasks : TaskTable S} {roster : Roster S}
    (same : next.tasks = tasks) (holds : tasks.Holds roster)
    (generation : roster.generation = kernel.roster.generation) :
    next.roster.generation index = kernel.roster.generation index := by
  rw [roster_of_holds same holds, generation]

/-- A slot that is not freed keeps its generation. -/
theorem Change.generation_eq (change : Change kernel deed next)
    (wellformed : kernel.Wellformed) (kept : deed.freed? ≠ some index.val) :
    next.roster.generation index = kernel.roster.generation index := by
  cases change with
  | world | clock | count | watch | unwatch | resign | claim | occur | drain
  | release | abandon | giveBack => rfl
  | start started holds | handle unhandled started holds watched =>
      obtain ⟨_, _, _, _, _, filled⟩ := Roster.exists_of_insert started
      rw [filled] at holds
      exact generation_of_holds rfl holds rfl
  | wake found waiting holds => exact generation_of_holds rfl holds rfl
  | die alive notRunning holds =>
      obtain ⟨slot, entry, found, _⟩ := alive
      rw [Roster.retire_of_find? _ found] at holds
      exact generation_of_holds rfl holds rfl
  | @spoil slot tasks vacant holds =>
      have other : index ≠ slot := by
        rintro rfl
        exact kept rfl
      rw [roster_of_holds rfl holds, Roster.generation_free_of_ne other]
  | @join task joiner tasks different alive joinerAlive holds =>
      refine generation_of_holds rfl holds ?_
      unfold Roster.addJoiner
      split
      · rfl
      · split <;> rfl
  | @reap task exit tasks dead holds =>
      obtain ⟨slot, entry, found, _, freed⟩ := Roster.find?_of_reap dead
      have fits := (Roster.find?_eq_some_iff.mp found).1
      have other : index ≠ slot := by
        rintro rfl
        exact kept (congrArg some (congrArg TaskHandle.index fits.symm))
      rw [roster_of_holds rfl holds, freed, Roster.generation_free_of_ne other]
  | promote holds =>
      exact generation_of_holds rfl holds
        (Roster.Keeps.promoteExpired wellformed.sound _).generation
  | requeue holds =>
      exact generation_of_holds rfl holds
        (Roster.Keeps.requeue _ _).generation
  | pop first holds =>
      exact generation_of_holds rfl holds
        (Roster.Keeps.popRunnable _).generation
  | take idle holds | restore body running holds =>
      exact generation_of_holds rfl holds (Roster.run_update _ _ _).2
  | suspend alive holds =>
      exact generation_of_holds rfl holds (Roster.Keeps.suspend alive).generation
  | sleep deadline alive holds =>
      exact generation_of_holds rfl holds
        (Roster.Keeps.sleep alive deadline).generation

/-- A slot that is freed is empty, and its generation advances. -/
theorem Change.freed (change : Change kernel deed next)
    (freed : deed.freed? = some index.val) :
    next.roster.generation index = kernel.roster.generation index + 1 ∧
      next.roster.entry index = none := by
  have emptied {tasks : TaskTable S} (same : next.tasks = tasks)
      (holds : tasks.Holds (kernel.roster.free index)) :
      next.roster.generation index = kernel.roster.generation index + 1 ∧
        next.roster.entry index = none := by
    rw [roster_of_holds same holds]
    exact ⟨Roster.generation_free_self _ _, Roster.entry_free_self _ _⟩
  cases change with
  | @spoil slot tasks vacant holds =>
      obtain rfl := Fin.ext (Option.some.inj freed)
      exact emptied rfl holds
  | @reap task exit tasks dead holds =>
      obtain ⟨slot, entry, found, _, done⟩ := Roster.find?_of_reap dead
      have fits := (Roster.find?_eq_some_iff.mp found).1
      have same : slot = index :=
        Fin.ext ((congrArg TaskHandle.index fits).trans (Option.some.inj freed))
      subst same
      exact emptied rfl (done ▸ holds)
  | _ => cases freed

/-- What a change does to the task in a slot that is not freed. -/
theorem Change.alters_slot (change : Change kernel deed next)
    (wellformed : kernel.Wellformed) (kept : deed.freed? ≠ some index.val) :
    deed.Alters (kernel.roster.handleAt index) (kernel.roster.entry index)
      (next.roster.entry index) := by
  have alters := change.alters wellformed (kernel.roster.handleAt index)
  have handle : next.roster.handleAt index = kernel.roster.handleAt index :=
    Roster.handleAt_congr (change.generation_eq wellformed kept)
  have after := next.roster.entryOf_handleAt index
  rw [handle] at after
  rwa [Roster.entryOf_handleAt, after] at alters

/-- A slot with a task in it is not emptied unless it is freed. -/
theorem Change.isSome_entry (change : Change kernel deed next)
    (wellformed : kernel.Wellformed) (kept : deed.freed? ≠ some index.val)
    (present : (kernel.roster.entry index).isSome = true) :
    (next.roster.entry index).isSome = true := by
  have alters := change.alters_slot wellformed kept
  generalize kernel.roster.entry index = before at alters present
  generalize next.roster.entry index = after at alters ⊢
  cases alters with
  | still => exact present
  | reaps reaped =>
      subst reaped
      exact absurd rfl kept
  | _ => rfl

theorem Evolves.generation_eq {may : Deed → Prop}
    (evolves : Evolves may kernel next) (wellformed : kernel.Wellformed)
    (kept : ∀ deed, may deed → deed.freed? ≠ some index.val) :
    next.roster.generation index = kernel.roster.generation index := by
  induction evolves with
  | refl => rfl
  | step before change allowed ih =>
      exact (change.generation_eq (before.wellformed wellformed)
        (kept _ allowed)).trans ih

theorem Evolves.isSome_entry {may : Deed → Prop}
    (evolves : Evolves may kernel next) (wellformed : kernel.Wellformed)
    (kept : ∀ deed, may deed → deed.freed? ≠ some index.val)
    (present : (kernel.roster.entry index).isSome = true) :
    (next.roster.entry index).isSome = true := by
  induction evolves with
  | refl => exact present
  | step before change allowed ih =>
      exact change.isSome_entry (before.wellformed wellformed)
        (kept _ allowed) ih

/-! ### Slots of dead tasks -/

def deadSlots (kernel : Kernel S) : Finset SlotIndex :=
  Finset.univ.filter fun index =>
    (kernel.roster.state? index).any TaskState.isDead

theorem mem_deadSlots_iff : index ∈ kernel.deadSlots ↔
    ∃ entry, kernel.roster.entry index = some entry ∧
      entry.state.isDead = true := by
  unfold deadSlots Roster.state?
  rw [Finset.mem_filter]
  cases kernel.roster.entry index <;> simp

theorem card_deadSlots_le (kernel : Kernel S) :
    kernel.deadSlots.card ≤ maxTasks := by
  simpa using kernel.deadSlots.card_le_univ

/-- A task with an exit is in the slot of a dead task. -/
theorem exists_mem_deadSlots {task : TaskHandle} {exit : S.Exit}
    (dead : kernel.roster.stateOf task = some (.dead exit)) :
    ∃ index ∈ kernel.deadSlots, kernel.roster.handleAt index = task := by
  obtain ⟨entry, known, state⟩ := Option.map_eq_some_iff.mp dead
  obtain ⟨index, found⟩ := Roster.entryOf_eq_some_iff.mp known
  obtain ⟨fits, present⟩ := Roster.find?_eq_some_iff.mp found
  refine ⟨index, mem_deadSlots_iff.mpr ⟨entry, present, ?_⟩, fits⟩
  rw [state]
  rfl

/-- Who is reaped is dead in its slot. -/
theorem Change.exists_reaped {task : TaskHandle}
    (change : Change kernel (.reaps task) next) :
    ∃ index ∈ kernel.deadSlots, kernel.roster.handleAt index = task := by
  cases change with
  | @reap _ exit tasks dead holds =>
      obtain ⟨index, entry, found, died, _⟩ := Roster.find?_of_reap dead
      have known : kernel.roster.stateOf task = some (.dead exit) := by
        unfold Roster.stateOf
        rw [Roster.entryOf_of_find? found, Option.map_some, died]
      exact exists_mem_deadSlots known

theorem Change.vacant_of_spoils (change : Change kernel (.spoils index) next) :
    kernel.roster.entry index = none := by
  cases change with
  | spoil vacant holds => exact vacant

private theorem Change.mem_deadSlots (change : Change kernel deed next)
    (wellformed : kernel.Wellformed) (unreaped : ∀ task, deed ≠ .reaps task)
    (dead : index ∈ kernel.deadSlots) :
    index ∈ next.deadSlots ∧
      next.roster.handleAt index = kernel.roster.handleAt index := by
  obtain ⟨entry, present, died⟩ := mem_deadSlots_iff.mp dead
  have kept : deed.freed? ≠ some index.val := by
    intro freed
    cases deed with
    | spoils slot =>
        obtain rfl := Fin.ext (Option.some.inj freed)
        cases change.vacant_of_spoils.symm.trans present
    | reaps task => exact unreaped task rfl
    | _ => cases freed
  refine ⟨mem_deadSlots_iff.mpr ?_,
    Roster.handleAt_congr (change.generation_eq wellformed kept)⟩
  have alters := change.alters_slot wellformed kept
  rw [present] at alters
  generalize next.roster.entry index = after at alters ⊢
  cases alters with
  | still | bereaves | joins | hands => exact ⟨_, rfl, died⟩
  | wakes woken waiting =>
      cases state : entry.state with
      | dead exit =>
          rw [state] at waiting
          cases waiting
      | active | suspended | timer =>
          rw [state] at died
          cases died
  | parks parked alive | dies exit ended alive =>
      rw [died] at alive
      cases alive
  | reaps reaped => exact absurd reaped (unreaped _)

/-- As long as nobody is reaped, the slot of a dead task is neither freed nor
used again. -/
theorem Evolves.mem_deadSlots {may : Deed → Prop}
    (evolves : Evolves may kernel next) (wellformed : kernel.Wellformed)
    (unreaped : ∀ task, ¬ may (.reaps task)) (dead : index ∈ kernel.deadSlots) :
    index ∈ next.deadSlots ∧
      next.roster.handleAt index = kernel.roster.handleAt index := by
  induction evolves with
  | refl => exact ⟨dead, rfl⟩
  | step before change allowed ih =>
      obtain ⟨deadToo, same⟩ := ih
      obtain ⟨after, kept⟩ := change.mem_deadSlots
        (before.wellformed wellformed)
        (fun task reaped => unreaped task (reaped ▸ allowed)) deadToo
      exact ⟨after, kept.trans same⟩

theorem notMem_deadSlots (live : kernel.roster.isLive index = true) :
    index ∉ kernel.deadSlots := by
  intro dead
  obtain ⟨entry, present, alive⟩ := Roster.isLive_eq_true_iff.mp live
  obtain ⟨known, presentToo, died⟩ := mem_deadSlots_iff.mp dead
  cases present.symm.trans presentToo
  rw [died] at alive
  cases alive

/-- The slot of whoever is killed goes from a live task to a dead one, and no
other slot does. -/
theorem Begins.exists_buried {closing : Closing} {body : Option S.Body}
    (begins : kernel.Begins closing body next) :
    ∃ index, kernel.roster.handleAt index = closing.task ∧
      next.roster.handleAt index = closing.task ∧
      kernel.roster.isLive index = true ∧
      next.deadSlots = insert index kernel.deadSlots := by
  obtain ⟨index, entry, found, _, _, after⟩ := begins.retires
  obtain ⟨fits, present⟩ := Roster.find?_eq_some_iff.mp found
  have live : kernel.roster.isLive index = true := by
    obtain ⟨slot, fitsToo, live⟩ := Roster.alive_iff.mp begins.alive
    rwa [kernel.roster.handleAt_injective (fits.trans fitsToo.symm)]
  refine ⟨index, fits, ?_, live, ?_⟩
  · rw [after]
    exact fits
  · ext slot
    unfold deadSlots
    simp only [Finset.mem_filter, Finset.mem_insert, Finset.mem_univ, true_and]
    rw [after, Roster.state?_forgetJoiner]
    by_cases here : slot = index
    · subst here
      rw [Roster.state?_of_entry (Roster.entry_bury_self _ _ _ _)]
      exact iff_of_true rfl (Or.inl rfl)
    · rw [Roster.state?_bury_of_ne _ _ _ here]
      simp [here]

end Kernel

end EventScheduler
