import EventScheduler.Proofs.Kernel.Operations
import EventScheduler.Proofs.Kernel.Relations
import EventScheduler.Proofs.Task.Entries

/-!
# What becomes of one task

A change of a kernel does little to a single task, and what it does depends on
what the change is about.  That a task stays dead until it is reaped, and that
nobody leaves the joiners of a live task but by dying, follows from that.
-/

namespace EventScheduler

variable {S : Signature}

inductive Deed.Alters (deed : Deed) (task : TaskHandle) :
    Option (TaskEntry S) → Option (TaskEntry S) → Prop
  | still (known : Option (TaskEntry S)) : Alters deed task known known
  | starts {entry : TaskEntry S} (started : deed.started? = some task)
      (active : entry.state = .active) (alone : entry.joiners = .none) :
      Alters deed task none (some entry)
  | wakes {entry : TaskEntry S} (woken : deed = .wakes task ∨ deed = .promotes)
      (waiting : entry.state.isWaiting = true) :
      Alters deed task (some entry) (some { entry with state := .active })
  | parks {entry : TaskEntry S} {state : S.State} (parked : deed = .parks task)
      (alive : entry.state.isDead = false) (waiting : state.isWaiting = true) :
      Alters deed task (some entry) (some { entry with state })
  | dies {entry : TaskEntry S} (exit : S.Exit) (died : deed = .dies task)
      (alive : entry.state.isDead = false) :
      Alters deed task (some entry) (some { entry with
        state := .dead exit, body := none, joiners := .none })
  | bereaves {entry : TaskEntry S} {joiner : TaskHandle}
      (died : deed = .dies joiner) (other : joiner ≠ task) :
      Alters deed task (some entry) (some { entry with
        joiners := (entry.joiners.remove joiner).2 })
  | joins {entry : TaskEntry S} {joiner : TaskHandle} {added : Bool}
      {joiners : TaskSet maxJoiners} (joined : deed = .joins task joiner)
      (inserted : entry.joiners.insert joiner = .ok (added, joiners)) :
      Alters deed task (some entry) (some { entry with joiners })
  | hands {entry : TaskEntry S} (body : Option S.Body)
      (slice : deed = .begins task ∨ deed = .ends task) :
      Alters deed task (some entry) (some { entry with body })
  | reaps {entry : TaskEntry S} (reaped : deed = .reaps task)
      (dead : entry.state.isDead = true) : Alters deed task (some entry) none

/-- What may put a task into another state. -/
inductive Deed.Concerns : Deed → TaskHandle → Prop
  | starts {deed : Deed} {task : TaskHandle}
      (started : deed.started? = some task) : Concerns deed task
  | wakes {task : TaskHandle} : Concerns (.wakes task) task
  | promotes {task : TaskHandle} : Concerns .promotes task
  | parks {task : TaskHandle} : Concerns (.parks task) task
  | dies {task : TaskHandle} : Concerns (.dies task) task
  | reaps {task : TaskHandle} : Concerns (.reaps task) task

namespace Kernel

variable {kernel next : Kernel S} {deed : Deed} {task : TaskHandle}

/-! ### Slot by slot -/

/-- No handle changes, and what happens in each slot is one of these. -/
private theorem alters_of_slots {tasks : TaskTable S} {roster : Roster S}
    (same : next.tasks = tasks) (holds : tasks.Holds roster)
    (generation : roster.generation = kernel.roster.generation)
    (slots : ∀ index, deed.Alters (kernel.roster.handleAt index)
      (kernel.roster.entry index) (roster.entry index)) :
    deed.Alters task (kernel.roster.entryOf task) (next.roster.entryOf task) := by
  rw [roster_of_holds same holds]
  exact Roster.entryOf_cases deed.Alters generation
    (fun _ => .still none) slots _

/-- Only the slot of one task changes. -/
private theorem alters_of_slot {tasks : TaskTable S} {roster : Roster S}
    {named : TaskHandle} {index : SlotIndex} {entry : TaskEntry S}
    (same : next.tasks = tasks) (holds : tasks.Holds roster)
    (fits : kernel.roster.handleAt index = named)
    (generation : roster.generation = kernel.roster.generation)
    (entries : roster.entry =
      Function.update kernel.roster.entry index (some entry))
    (alters : deed.Alters named (kernel.roster.entry index) (some entry)) :
    deed.Alters task (kernel.roster.entryOf task)
      (next.roster.entryOf task) := by
  refine alters_of_slots same holds generation (fun slot => ?_)
  rw [entries]
  by_cases here : slot = index
  · subst here
    rw [Function.update_self, fits]
    exact alters
  · rw [Function.update_of_ne here]
    exact .still _

private theorem alters_of_entry {tasks : TaskTable S} {roster : Roster S}
    (same : next.tasks = tasks) (holds : tasks.Holds roster)
    (generation : roster.generation = kernel.roster.generation)
    (entries : roster.entry = kernel.roster.entry) :
    deed.Alters task (kernel.roster.entryOf task)
      (next.roster.entryOf task) := by
  refine alters_of_slots same holds generation (fun index => ?_)
  rw [entries]
  exact .still _

private theorem alters_of_insert {tasks : TaskTable S} {body : S.Body}
    {name : Option String} {started : TaskHandle} (same : next.tasks = tasks)
    (inserted : (kernel.roster.insert body name).1 = .ok started)
    (holds : tasks.Holds (kernel.roster.insert body name).2)
    (starts : deed.started? = some started) :
    deed.Alters task (kernel.roster.entryOf task)
      (next.roster.entryOf task) := by
  obtain ⟨index, entry, vacant, fits, fresh, filled⟩ :=
    Roster.exists_of_insert inserted
  rw [filled] at holds
  refine alters_of_slot same holds fits rfl rfl ?_
  rw [vacant, fresh]
  exact .starts starts rfl rfl

private theorem alters_of_update {tasks : TaskTable S} {named : TaskHandle}
    {body : Option S.Body} (same : next.tasks = tasks)
    (holds : tasks.Holds (kernel.roster.update named fun entry =>
      { entry with body }))
    (slice : deed = .begins named ∨ deed = .ends named) :
    deed.Alters task (kernel.roster.entryOf task)
      (next.roster.entryOf task) := by
  unfold Roster.update at holds
  split at holds
  · next index entry found =>
      obtain ⟨fits, present⟩ := Roster.find?_eq_some_iff.mp found
      refine alters_of_slot same holds fits rfl rfl ?_
      rw [present]
      exact .hands body slice
  · exact alters_of_entry same holds rfl rfl

private theorem alters_of_parks {tasks : TaskTable S} {roster : Roster S}
    {named : TaskHandle} {index : SlotIndex} {entry : TaskEntry S}
    {state : S.State} (same : next.tasks = tasks) (holds : tasks.Holds roster)
    (found : kernel.roster.find? named = some (index, entry))
    (alive : entry.state.isDead = false)
    (generation : roster.generation = kernel.roster.generation)
    (entries : roster.entry = Function.update kernel.roster.entry index
      (some { entry with state }))
    (waiting : state.isWaiting = true) :
    (Deed.parks named).Alters task (kernel.roster.entryOf task)
      (next.roster.entryOf task) := by
  obtain ⟨fits, present⟩ := Roster.find?_eq_some_iff.mp found
  refine alters_of_slot same holds fits generation entries ?_
  rw [present]
  exact .parks rfl alive waiting

private theorem alters_of_suspend {tasks : TaskTable S} {named : TaskHandle}
    (same : next.tasks = tasks) (alive : kernel.roster.Alive named)
    (holds : tasks.Holds (kernel.roster.suspend named)) :
    (Deed.parks named).Alters task (kernel.roster.entryOf task)
      (next.roster.entryOf task) := by
  obtain ⟨index, entry, found, notDead⟩ := alive
  unfold Roster.suspend at holds
  simp only [found] at holds
  exact alters_of_parks same holds found notDead rfl rfl rfl

private theorem alters_of_free {tasks : TaskTable S} {index : SlotIndex}
    (same : next.tasks = tasks)
    (holds : tasks.Holds (kernel.roster.free index))
    (emptied : deed.Alters (kernel.roster.handleAt index)
      (kernel.roster.entry index) none) :
    deed.Alters task (kernel.roster.entryOf task)
      (next.roster.entryOf task) := by
  rw [roster_of_holds same holds, Roster.entryOf_free]
  split
  · next here =>
      rw [← here, Roster.entryOf_handleAt]
      exact emptied
  · exact .still _

/-- What a change does to the task that a handle names. -/
theorem Change.alters (change : Change kernel deed next)
    (wellformed : kernel.Wellformed) (task : TaskHandle) :
    deed.Alters task (kernel.roster.entryOf task)
      (next.roster.entryOf task) := by
  cases change with
  | world | clock | count | watch | unwatch | resign | claim | occur | drain
  | release | abandon | giveBack => exact .still _
  | start started holds | handle unhandled started holds watched =>
      exact alters_of_insert rfl started holds rfl
  | wake found waiting holds =>
      obtain ⟨fits, present⟩ := Roster.find?_eq_some_iff.mp found
      refine alters_of_slot rfl holds fits rfl rfl ?_
      rw [present]
      exact .wakes (Or.inl rfl) waiting
  | @die dying exit tasks alive notRunning holds =>
      obtain ⟨index, entry, found, notDead⟩ := alive
      obtain ⟨fits, present⟩ := Roster.find?_eq_some_iff.mp found
      rw [Roster.retire_of_find? exit found] at holds
      -- The slot of the dead task is buried; from every other one only its name
      -- among the joiners is dropped.
      refine alters_of_slots rfl holds rfl (fun slot => ?_)
      rw [Roster.entry_forgetJoiner]
      by_cases here : slot = index
      · subst here
        rw [Roster.entry_bury_self, present]
        exact .dies exit (congrArg Deed.dies fits.symm) notDead
      · rw [Roster.entry_bury_of_ne _ _ _ here]
        cases kernel.roster.entry slot with
        | none => exact .still none
        | some other =>
            refine .bereaves rfl fun same => here ?_
            exact kernel.roster.handleAt_injective (same.symm.trans fits.symm)
  | spoil vacant holds =>
      refine alters_of_free rfl holds ?_
      rw [vacant]
      exact .still none
  | @join joined joiner tasks different alive joinerAlive holds =>
      unfold Roster.addJoiner at holds
      split at holds
      · exact alters_of_entry rfl holds rfl rfl
      · next index entry found =>
          obtain ⟨fits, present⟩ := Roster.find?_eq_some_iff.mp found
          split at holds
          · exact alters_of_entry rfl holds rfl rfl
          · next added joiners inserted =>
              refine alters_of_slot rfl holds fits rfl rfl ?_
              rw [present]
              exact .joins rfl inserted
  | @reap reaped exit tasks dead holds =>
      obtain ⟨index, entry, found, died, freed⟩ := Roster.find?_of_reap dead
      rw [freed] at holds
      obtain ⟨fits, present⟩ := Roster.find?_eq_some_iff.mp found
      refine alters_of_free rfl holds ?_
      rw [present]
      refine .reaps (congrArg Deed.reaps fits.symm) ?_
      rw [died]
      rfl
  | promote holds =>
      refine alters_of_slots rfl holds rfl (fun index => ?_)
      change Deed.Alters _ _ _ (if _ then _ else _)
      split
      · next expired =>
          obtain ⟨entry, deadline, present, asleep⟩ :=
            wellformed.sound.entry_of_mem_timers (List.mem_filter.mp expired).1
          rw [present]
          refine .wakes (Or.inr rfl) ?_
          rw [asleep]
          rfl
      · exact .still _
  | requeue holds =>
      exact alters_of_entry rfl holds
        (Roster.Keeps.requeue _ _).generation (Roster.entry_requeue _ _)
  | pop first holds =>
      exact alters_of_entry rfl holds
        (Roster.Keeps.popRunnable _).generation (Roster.entry_popRunnable _)
  | take idle holds => exact alters_of_update rfl holds (Or.inl rfl)
  | restore body running holds =>
      exact alters_of_update rfl holds (Or.inr rfl)
  | suspend alive holds => exact alters_of_suspend rfl alive holds
  | sleep deadline alive holds =>
      -- To sleep for ever is to be suspended.
      cases ever : deadline.isNever with
      | true =>
          refine alters_of_suspend rfl alive ?_
          rwa [show kernel.roster.sleep _ deadline = kernel.roster.suspend _
            from if_pos ever] at holds
      | false =>
          obtain ⟨index, entry, found, notDead⟩ := alive
          unfold Roster.sleep at holds
          rw [ever] at holds
          simp only [Bool.false_eq_true, if_false, found] at holds
          exact alters_of_parks rfl holds found notDead rfl rfl rfl

/-- What is known about the tasks changes only where one of them is meant. -/
theorem Evolves.entryOf_eq {may : Deed → Prop}
    (evolves : Evolves may kernel next) (wellformed : kernel.Wellformed)
    (inert : ∀ deed, may deed → deed = .quiet ∨ ∃ index, deed = .spoils index)
    (task : TaskHandle) :
    next.roster.entryOf task = kernel.roster.entryOf task := by
  induction evolves with
  | refl => rfl
  | @step _ third deed before change allowed ih =>
      refine Eq.trans ?_ ih
      have alters := change.alters (before.wellformed wellformed) task
      generalize Roster.entryOf _ task = earlier at alters ⊢
      generalize third.roster.entryOf task = later at alters ⊢
      rcases inert deed allowed with rfl | ⟨index, rfl⟩ <;> cases alters with
      | still => rfl
      | starts impossible | dies _ impossible | parks impossible
      | bereaves impossible | joins impossible | reaps impossible =>
          cases impossible
      | wakes woken =>
          rcases woken with impossible | impossible <;> cases impossible
      | hands body slice =>
          rcases slice with impossible | impossible <;> cases impossible

/-- A task goes on as it did unless a change means it. -/
theorem Change.stateOf_eq (change : Change kernel deed next)
    (wellformed : kernel.Wellformed) (other : ¬ deed.Concerns task) :
    next.roster.stateOf task = kernel.roster.stateOf task := by
  have alters := change.alters wellformed task
  unfold Roster.stateOf
  generalize kernel.roster.entryOf task = before at alters ⊢
  generalize next.roster.entryOf task = after at alters ⊢
  cases alters with
  | still | bereaves | joins | hands => rfl
  | starts started => exact absurd (.starts started) other
  | wakes woken =>
      rcases woken with rfl | rfl
      · exact absurd .wakes other
      · exact absurd .promotes other
  | parks parked =>
      subst parked
      exact absurd .parks other
  | dies _ died =>
      subst died
      exact absurd .dies other
  | reaps reaped =>
      subst reaped
      exact absurd .reaps other

theorem Evolves.stateOf_eq {may : Deed → Prop}
    (evolves : Evolves may kernel next) (wellformed : kernel.Wellformed)
    (others : ∀ deed, may deed → ¬ deed.Concerns task) :
    next.roster.stateOf task = kernel.roster.stateOf task := by
  induction evolves with
  | refl => rfl
  | step before change allowed ih =>
      have same := change.stateOf_eq (before.wellformed wellformed)
        (others _ allowed)
      exact same.trans ih

/-! ### Staying dead -/

theorem Change.stateOf_dead {exit : S.Exit} (change : Change kernel deed next)
    (wellformed : kernel.Wellformed) (unreaped : deed ≠ .reaps task)
    (dead : kernel.roster.stateOf task = some (.dead exit)) :
    next.roster.stateOf task = some (.dead exit) := by
  have alters := change.alters wellformed task
  unfold Roster.stateOf at dead ⊢
  generalize kernel.roster.entryOf task = before at alters dead
  generalize next.roster.entryOf task = after at alters ⊢
  cases alters with
  | still | bereaves | joins | hands => exact dead
  | starts => cases dead
  | wakes woken waiting =>
      rw [Option.some.inj dead] at waiting
      cases waiting
  | parks parked alive | dies _ died alive =>
      rw [Option.some.inj dead] at alive
      cases alive
  | reaps reaped => exact absurd reaped unreaped

/-- A task that is dead stays so until it is reaped. -/
theorem Evolves.stateOf_dead {may : Deed → Prop} {exit : S.Exit}
    (evolves : Evolves may kernel next) (wellformed : kernel.Wellformed)
    (unreaped : ¬ may (.reaps task))
    (dead : kernel.roster.stateOf task = some (.dead exit)) :
    next.roster.stateOf task = some (.dead exit) := by
  induction evolves with
  | refl => exact dead
  | step before change allowed ih =>
      refine change.stateOf_dead (before.wellformed wellformed) ?_ ih
      rintro rfl
      exact unreaped allowed

private theorem Change.dead_or_gone {exit : S.Exit}
    (change : Change kernel deed next) (wellformed : kernel.Wellformed)
    (unborn : deed.started? ≠ some task)
    (known : kernel.roster.stateOf task = some (.dead exit) ∨
      kernel.roster.stateOf task = none) :
    next.roster.stateOf task = some (.dead exit) ∨
      next.roster.stateOf task = none := by
  have alters := change.alters wellformed task
  unfold Roster.stateOf at known ⊢
  generalize kernel.roster.entryOf task = before at alters known
  generalize next.roster.entryOf task = after at alters ⊢
  cases alters with
  | still | bereaves | joins | hands => exact known
  | starts started => exact absurd started unborn
  | wakes woken waiting =>
      rcases known with dead | gone
      · rw [Option.some.inj dead] at waiting
        cases waiting
      · cases gone
  | parks parked alive | dies _ died alive =>
      rcases known with dead | gone
      · rw [Option.some.inj dead] at alive
        cases alive
      · cases gone
  | reaps => exact Or.inr rfl

/-- A dead task stays dead or is forgotten, as long as nobody gets its handle. -/
theorem Evolves.dead_or_gone {may : Deed → Prop} {exit : S.Exit}
    (evolves : Evolves may kernel next) (wellformed : kernel.Wellformed)
    (unborn : ∀ deed, may deed → deed.started? ≠ some task)
    (dead : kernel.roster.stateOf task = some (.dead exit)) :
    next.roster.stateOf task = some (.dead exit) ∨
      next.roster.stateOf task = none := by
  induction evolves with
  | refl => exact Or.inl dead
  | step before change allowed ih =>
      exact change.dead_or_gone (before.wellformed wellformed)
        (unborn _ allowed) ih

private theorem Change.dead_cases {exit : S.Exit}
    (change : Change kernel deed next) (wellformed : kernel.Wellformed)
    (dead : next.roster.stateOf task = some (.dead exit)) :
    kernel.roster.stateOf task = some (.dead exit) ∨ deed = .dies task := by
  have alters := change.alters wellformed task
  unfold Roster.stateOf at dead ⊢
  generalize kernel.roster.entryOf task = before at alters ⊢
  generalize next.roster.entryOf task = after at alters dead
  cases alters with
  | still | bereaves | joins | hands => exact Or.inl dead
  | starts started active =>
      rw [Option.map_some, active] at dead
      cases dead
  | wakes => cases dead
  | parks parked alive waiting =>
      cases dead
      cases waiting
  | dies _ died => exact Or.inr died
  | reaps => cases dead

/-- Who is dead in the end was so before, unless somebody ended it. -/
theorem Evolves.dead_cases {may : Deed → Prop} {exit : S.Exit}
    (evolves : Evolves may kernel next) (wellformed : kernel.Wellformed)
    (dead : next.roster.stateOf task = some (.dead exit)) :
    kernel.roster.stateOf task = some (.dead exit) ∨ may (.dies task) := by
  induction evolves with
  | refl => exact Or.inl dead
  | step before change allowed ih =>
      rcases change.dead_cases (before.wellformed wellformed) dead with
        already | rfl
      · exact ih already
      · exact Or.inr allowed

/-! ### Staying among the joiners -/

private theorem Change.sublist_joinersOf {waiting : List TaskHandle}
    (change : Change kernel deed next) (wellformed : kernel.Wellformed)
    (alive : kernel.roster.Alive task) (survives : deed ≠ .dies task)
    (allSurvive : ∀ joiner ∈ waiting, deed ≠ .dies joiner)
    (inside : waiting.Sublist (kernel.roster.joinersOf task)) :
    waiting.Sublist (next.roster.joinersOf task) := by
  obtain ⟨entry, known, notDead⟩ := Roster.alive_iff_entryOf.mp alive
  have alters := change.alters wellformed task
  unfold Roster.joinersOf at inside ⊢
  rw [known] at alters inside
  generalize next.roster.entryOf task = after at alters ⊢
  cases alters with
  | still | wakes | parks | hands => exact inside
  | dies _ died => exact absurd died survives
  | @bereaves _ joiner died other =>
      rw [Option.elim_some, TaskSet.toList_remove]
      have kept : waiting.filter (· != joiner) = waiting := by
        refine List.filter_eq_self.mpr fun member inside => ?_
        rw [bne_iff_ne]
        rintro rfl
        exact allSurvive _ inside died
      rw [← kept]
      exact inside.filter _
  | joins joined inserted =>
      rw [Option.elim_some, TaskSet.toList_insert inserted]
      split
      · exact inside
      · exact inside.trans (List.sublist_append_left _ _)
  | reaps reaped dead =>
      rw [notDead] at dead
      cases dead

/-- Who joined a task is among its joiners as long as both live, and nobody
overtakes anybody there. -/
theorem Evolves.sublist_joinersOf {may : Deed → Prop} {waiting : List TaskHandle}
    (evolves : Evolves may kernel next) (wellformed : kernel.Wellformed)
    (unborn : ∀ deed other, may deed → deed.started? = some other →
      other ≠ task ∧ other ∉ waiting)
    (alive : next.roster.Alive task)
    (allAlive : ∀ joiner ∈ waiting, next.roster.Alive joiner)
    (inside : waiting.Sublist (kernel.roster.joinersOf task)) :
    waiting.Sublist (next.roster.joinersOf task) := by
  induction evolves with
  | refl => exact inside
  | @step _ third deed before change allowed ih =>
      have middle := before.wellformed wellformed
      have survives {other : TaskHandle} (born : deed.started? ≠ some other)
          (aliveAfter : third.roster.Alive other) :=
        ((change.alive_iff middle).mp aliveAfter).resolve_left born
      obtain ⟨aliveBefore, spared⟩ := survives
        (fun started => (unborn _ _ allowed started).1 rfl) alive
      have allSpared (joiner : TaskHandle) (member : joiner ∈ waiting) :=
        survives (fun started => (unborn _ _ allowed started).2 member)
          (allAlive joiner member)
      exact change.sublist_joinersOf middle aliveBefore spared
        (fun joiner member => (allSpared joiner member).2)
        (ih aliveBefore fun joiner member => (allSpared joiner member).1)

private theorem Change.nodup_joinersOf (change : Change kernel deed next)
    (wellformed : kernel.Wellformed)
    (nodup : (kernel.roster.joinersOf task).Nodup) :
    (next.roster.joinersOf task).Nodup := by
  have alters := change.alters wellformed task
  unfold Roster.joinersOf at nodup ⊢
  generalize kernel.roster.entryOf task = before at alters nodup
  generalize next.roster.entryOf task = after at alters ⊢
  cases alters with
  | still | wakes | parks | hands => exact nodup
  | starts started active alone =>
      rw [Option.elim_some, alone]
      exact List.nodup_nil
  | dies | reaps => exact List.nodup_nil
  | bereaves =>
      rw [Option.elim_some, TaskSet.toList_remove]
      exact nodup.filter _
  | joins joined inserted => exact TaskSet.nodup_insert inserted nodup

/-- Nobody is twice among the joiners of a task. -/
theorem Evolves.nodup_joinersOf {may : Deed → Prop}
    (evolves : Evolves may kernel next) (wellformed : kernel.Wellformed)
    (nodup : (kernel.roster.joinersOf task).Nodup) :
    (next.roster.joinersOf task).Nodup := by
  induction evolves with
  | refl => exact nodup
  | step before change allowed ih =>
      exact change.nodup_joinersOf (before.wellformed wellformed) ih

theorem Evolves.joinersOf_eq {may : Deed → Prop}
    (evolves : Evolves may kernel next) (wellformed : kernel.Wellformed)
    (still : ∀ deed, may deed → deed = .quiet ∨ ∃ other, deed = .ends other)
    (task : TaskHandle) :
    next.roster.joinersOf task = kernel.roster.joinersOf task := by
  induction evolves with
  | refl => rfl
  | @step _ third deed before change allowed ih =>
      refine Eq.trans ?_ ih
      have alters := change.alters (before.wellformed wellformed) task
      unfold Roster.joinersOf
      generalize Roster.entryOf _ task = earlier at alters ⊢
      generalize third.roster.entryOf task = later at alters ⊢
      rcases still deed allowed with rfl | ⟨other, rfl⟩ <;> cases alters with
      | still | hands => rfl
      | starts impossible | dies _ impossible | parks impossible
      | bereaves impossible | joins impossible | reaps impossible =>
          cases impossible
      | wakes woken =>
          rcases woken with impossible | impossible <;> cases impossible

/-! ### Reading the kernel -/

theorem entry_eq_ok_iff (wellformed : kernel.Wellformed)
    {entry : TaskEntry S} :
    kernel.tasks.entry task = .ok entry ↔
      kernel.roster.entryOf task = some entry := by
  unfold TaskTable.entry Roster.entryOf
  rw [wellformed.holds.find?]
  cases kernel.roster.find? task <;> simp

theorem state_eq_ok_iff (wellformed : kernel.Wellformed) {state : S.State} :
    kernel.tasks.state task = .ok state ↔
      kernel.roster.stateOf task = some state := by
  unfold TaskTable.state TaskTable.entry Roster.stateOf Roster.entryOf
  rw [wellformed.holds.find?]
  cases kernel.roster.find? task <;> simp [Except.map]

/-! ### A task that was retired -/

section Retires

variable {exit : S.Exit} {joiners : TaskSet maxJoiners} {body : Option S.Body}

theorem Retires.entryOf (retires : kernel.Retires task exit joiners body next) :
    ∃ entry, kernel.roster.entryOf task = some entry ∧
      entry.joiners = joiners ∧ entry.body = body := by
  obtain ⟨index, entry, found, same, bodies, _⟩ := retires
  exact ⟨entry, Roster.entryOf_of_find? found, same, bodies⟩

theorem Retires.joinersOf
    (retires : kernel.Retires task exit joiners body next) :
    kernel.roster.joinersOf task = joiners.toList := by
  obtain ⟨entry, known, same, _⟩ := retires.entryOf
  unfold Roster.joinersOf
  rw [known, Option.elim_some, same]

theorem Retires.stateOf (retires : kernel.Retires task exit joiners body next) :
    next.roster.stateOf task = some (.dead exit) := by
  obtain ⟨index, entry, found, _, _, after⟩ := retires
  have fits := (Roster.find?_eq_some_iff.mp found).1
  have handle : next.roster.handleAt index = task := by
    rw [after]
    exact fits
  unfold Roster.stateOf
  rw [← handle, Roster.entryOf_handleAt, after, Roster.entry_forgetJoiner,
    Roster.entry_bury_self]
  rfl

end Retires

end Kernel

end EventScheduler
