import EventScheduler.Proofs.Kernel.Slots

/-!
# Who waits and who is active

What changes do to the set of the waiting tasks and to that of the active ones.
Unless somebody blocks or dies or a timer expires, nobody begins to wait, nobody
who is active ceases to be so, and the counter of resumes grows by the number of
those who waited and are active now.
-/

namespace EventScheduler

variable {S : Signature}

def TaskState.isActive {Output Failure : Type} :
    TaskState Output Failure → Bool
  | .active => true
  | _ => false

theorem TaskState.isActive_of_isWaiting {Output Failure : Type}
    {state : TaskState Output Failure} (waiting : state.isWaiting = true) :
    state.isActive = false := by
  cases state with
  | suspended | timer => rfl
  | active | dead => cases waiting

theorem TaskState.not_isDead {Output Failure : Type}
    {state : TaskState Output Failure} (dead : state.isDead = true) :
    state.isWaiting = false ∧ state.isActive = false := by
  cases state with
  | dead => exact ⟨rfl, rfl⟩
  | active | suspended | timer => cases dead

/-- Nobody blocks, nobody dies and no timer expires. -/
def Deed.isLively : Deed → Bool
  | .parks _ | .dies _ | .promotes => false
  | _ => true

namespace Deed

variable {deed : Deed}

theorem Wakes.isLively (fits : deed.Wakes) : deed.isLively = true := by
  obtain ⟨task, rfl⟩ := fits
  rfl

end Deed

namespace Roster

variable {roster other : Roster S} {task : TaskHandle} {now : Tick}
  {tasks : List TaskHandle} {kind : S.State → Bool}

theorem stateOf_handleAt (roster : Roster S) (index : SlotIndex) :
    roster.stateOf (roster.handleAt index) = roster.state? index := by
  unfold stateOf
  rw [entryOf_handleAt]
  rfl

theorem Rouses.stateOf (rouses : roster.Rouses other tasks)
    (task : TaskHandle) : other.stateOf task =
      if task ∈ tasks then (roster.stateOf task).map fun _ => .active
      else roster.stateOf task := by
  unfold Roster.stateOf entryOf
  rw [rouses.find?]
  split
  · cases roster.find? task <;> rfl
  · rfl

theorem nodup_expired (sound : roster.Sound) (now : Tick) :
    (roster.expired now).Nodup :=
  (sound.timers_nodup.filter _).map roster.handleAt_injective

/-- Whoever's timer expires sleeps until a deadline that has passed. -/
theorem stateOf_of_mem_expired (sound : roster.Sound)
    (inside : task ∈ roster.expired now) :
    ∃ deadline, roster.stateOf task = some (.timer deadline) ∧
      deadline.reached now = true := by
  obtain ⟨index, listed, rfl⟩ := List.mem_map.mp inside
  obtain ⟨timed, reached⟩ := List.mem_filter.mp listed
  obtain ⟨deadline, asleep⟩ := sound.mem_timers_iff.mp timed
  refine ⟨deadline, (roster.stateOf_handleAt index).trans asleep, ?_⟩
  rwa [due_eq asleep] at reached

def among (roster : Roster S) (kind : S.State → Bool) : Finset TaskHandle :=
  (Finset.univ.filter fun index => (roster.state? index).any kind).image
    roster.handleAt

theorem mem_among_iff : task ∈ roster.among kind ↔
    ∃ state, roster.stateOf task = some state ∧ kind state = true := by
  unfold among
  simp only [Finset.mem_image, Finset.mem_filter, Finset.mem_univ, true_and,
    Option.any_eq_true]
  constructor
  · rintro ⟨index, ⟨state, known, fits⟩, rfl⟩
    exact ⟨state, (roster.stateOf_handleAt index).trans known, fits⟩
  · rintro ⟨state, known, fits⟩
    obtain ⟨entry, present, _⟩ := Option.map_eq_some_iff.mp known
    obtain ⟨index, found⟩ := entryOf_eq_some_iff.mp present
    obtain ⟨rfl, _⟩ := find?_eq_some_iff.mp found
    exact ⟨index,
      ⟨state, (roster.stateOf_handleAt index).symm.trans known, fits⟩, rfl⟩

theorem mem_among_of_stateOf {state : S.State}
    (known : roster.stateOf task = some state) :
    task ∈ roster.among kind ↔ kind state = true := by
  rw [mem_among_iff, known]
  simp

/-- No task is in two states. -/
theorem notMem_among_of_mem {different : S.State → Bool}
    (apart : ∀ state, kind state = true → different state = false)
    (inside : task ∈ roster.among kind) : task ∉ roster.among different := by
  obtain ⟨state, known, fits⟩ := mem_among_iff.mp inside
  rw [mem_among_of_stateOf known, apart state fits]
  exact Bool.false_ne_true

theorem mem_among_congr (same : other.stateOf task = roster.stateOf task) :
    task ∈ other.among kind ↔ task ∈ roster.among kind := by
  rw [mem_among_iff, mem_among_iff, same]

theorem among_congr
    (same : ∀ task, other.stateOf task = roster.stateOf task) :
    other.among kind = roster.among kind :=
  Finset.ext fun task => mem_among_congr (same task)

end Roster

namespace Kernel

variable {kernel next third : Kernel S} {deed : Deed} {task : TaskHandle}

def waiting (kernel : Kernel S) : Finset TaskHandle :=
  kernel.roster.among TaskState.isWaiting

def active (kernel : Kernel S) : Finset TaskHandle :=
  kernel.roster.among TaskState.isActive

def deceased (kernel : Kernel S) : Finset TaskHandle :=
  kernel.roster.among TaskState.isDead

def awoken (kernel next : Kernel S) : Finset TaskHandle :=
  kernel.waiting ∩ next.active

theorem notMem_active_of_waiting (waits : task ∈ kernel.waiting) :
    task ∉ kernel.active :=
  Roster.notMem_among_of_mem (fun _ => TaskState.isActive_of_isWaiting) waits

/-! ### Changes that wake -/

/-- Nobody begins to wait or ceases to be active, and those who wait no more are
active and were counted. -/
structure Tallies (kernel next : Kernel S) : Prop where
  waiting : next.waiting ⊆ kernel.waiting
  woken : kernel.waiting ⊆ next.waiting ∪ next.active
  active : kernel.active ⊆ next.active
  resumes :
    next.stats.resumes = kernel.stats.resumes + (kernel.awoken next).card

theorem Tallies.refl (kernel : Kernel S) : kernel.Tallies kernel where
  waiting := Finset.Subset.refl _
  woken := Finset.subset_union_left
  active := Finset.Subset.refl _
  resumes := by
    have nobody : kernel.awoken kernel = ∅ := by
      refine Finset.eq_empty_of_forall_notMem fun task inside => ?_
      obtain ⟨waits, active⟩ := Finset.mem_inter.mp inside
      exact notMem_active_of_waiting waits active
    rw [nobody]
    rfl

theorem Tallies.trans (before : kernel.Tallies next) (after : next.Tallies third) :
    kernel.Tallies third where
  waiting := after.waiting.trans before.waiting
  active := before.active.trans after.active
  woken := by
    intro task waits
    rcases Finset.mem_union.mp (before.woken waits) with still | active
    · exact after.woken still
    · exact Finset.mem_union_right _ (after.active active)
  resumes := by
    have parts : kernel.awoken third = kernel.awoken next ∪ next.awoken third := by
      ext task
      unfold Kernel.awoken
      simp only [Finset.mem_union, Finset.mem_inter]
      constructor
      · rintro ⟨waits, active⟩
        rcases Finset.mem_union.mp (before.woken waits) with still | early
        · exact Or.inr ⟨still, active⟩
        · exact Or.inl ⟨waits, early⟩
      · rintro (⟨waits, early⟩ | ⟨still, active⟩)
        · exact ⟨waits, after.active early⟩
        · exact ⟨before.waiting still, active⟩
    have apart : Disjoint (kernel.awoken next) (next.awoken third) := by
      refine Finset.disjoint_left.mpr fun task early late => ?_
      exact notMem_active_of_waiting (Finset.mem_inter.mp late).1
        (Finset.mem_inter.mp early).2
    rw [parts, Finset.card_union_of_disjoint apart, after.resumes,
      before.resumes, Nat.add_assoc]

/-- Whom a change wakes is active. -/
private theorem mem_awoken_of_wakes (change : Change kernel (.wakes task) next) :
    task ∈ kernel.waiting ∧ task ∈ next.active := by
  cases change with
  | @wake _ index entry tasks found waiting holds =>
      obtain ⟨rfl, present⟩ := Roster.find?_eq_some_iff.mp found
      have before := kernel.roster.stateOf_handleAt index
      rw [Roster.state?_of_entry present] at before
      have after : (kernel.roster.wake index entry).stateOf
          ((kernel.roster.wake index entry).handleAt index) =
            some .active := by
        rw [Roster.stateOf_handleAt]
        change (Function.update kernel.roster.entry index _ index).map _ = _
        rw [Function.update_self]
        rfl
      refine ⟨(Roster.mem_among_of_stateOf before).mpr waiting, ?_⟩
      unfold Kernel.active
      rw [roster_of_holds rfl holds]
      exact (Roster.mem_among_of_stateOf after).mpr rfl

theorem Change.resumes_eq (change : Change kernel deed next)
    (still : ¬ deed.Wakes) : next.stats.resumes = kernel.stats.resumes := by
  cases change with
  | wake => exact absurd ⟨_, rfl⟩ still
  | count stats same => exact same
  | _ => rfl

theorem Evolves.resumes_eq {may : Deed → Prop} (evolves : Evolves may kernel next)
    (still : ∀ deed, may deed → ¬ deed.Wakes) :
    next.stats.resumes = kernel.stats.resumes := by
  induction evolves with
  | refl => rfl
  | step before change allowed ih =>
      exact (change.resumes_eq (still _ allowed)).trans ih

private inductive Keeps (deed : Deed) (task : TaskHandle)
    (before after : Option S.State) : Prop
  | still (same : after = before)
  | starts (unborn : before = none) (active : after = some .active)
  | wakes (woken : deed = .wakes task)
  | reaps {exit : S.Exit} (dead : before = some (.dead exit))
      (gone : after = none)

private theorem Change.keeps (change : Change kernel deed next)
    (wellformed : kernel.Wellformed) (lively : deed.isLively = true)
    (task : TaskHandle) : Keeps deed task (kernel.roster.stateOf task)
      (next.roster.stateOf task) := by
  have alters := change.alters wellformed task
  unfold Roster.stateOf
  generalize kernel.roster.entryOf task = before at alters ⊢
  generalize next.roster.entryOf task = after at alters ⊢
  cases alters with
  | still | joins | hands | bereaves => exact .still rfl
  | starts started active => exact .starts rfl (congrArg some active)
  | wakes woken =>
      rcases woken with rfl | rfl
      · exact .wakes rfl
      · cases lively
  | parks parked =>
      subst parked
      cases lively
  | dies _ died =>
      subst died
      cases lively
  | @reaps entry reaped dead =>
      cases state : entry.state with
      | dead exit => exact .reaps (congrArg some state) rfl
      | active | suspended | timer =>
          rw [state] at dead
          cases dead

/-- Those who waited and are active now are those who were woken. -/
private theorem Change.mem_awoken_iff (change : Change kernel deed next)
    (wellformed : kernel.Wellformed) (lively : deed.isLively = true) :
    task ∈ kernel.awoken next ↔ deed = .wakes task := by
  constructor
  · intro inside
    obtain ⟨waits, active⟩ := Finset.mem_inter.mp inside
    cases change.keeps wellformed lively task with
    | still same =>
        exact absurd ((Roster.mem_among_congr same).mp active)
          (notMem_active_of_waiting waits)
    | starts unborn =>
        obtain ⟨state, known, _⟩ := Roster.mem_among_iff.mp waits
        cases unborn.symm.trans known
    | wakes woken => exact woken
    | reaps dead => cases (Roster.mem_among_of_stateOf dead).mp waits
  · rintro rfl
    exact Finset.mem_inter.mpr (mem_awoken_of_wakes change)

theorem Change.tallies (change : Change kernel deed next)
    (wellformed : kernel.Wellformed) (lively : deed.isLively = true) :
    kernel.Tallies next := by
  constructor
  case waiting =>
    intro task waits
    cases change.keeps wellformed lively task with
    | still same => exact (Roster.mem_among_congr same).mp waits
    | starts unborn active =>
        cases (Roster.mem_among_of_stateOf active).mp waits
    | wakes woken =>
        subst woken
        exact (mem_awoken_of_wakes change).1
    | reaps dead gone =>
        obtain ⟨state, known, _⟩ := Roster.mem_among_iff.mp waits
        cases gone.symm.trans known
  case woken =>
    intro task waits
    cases change.keeps wellformed lively task with
    | still same =>
        exact Finset.mem_union_left _ ((Roster.mem_among_congr same).mpr waits)
    | starts unborn active =>
        obtain ⟨state, known, _⟩ := Roster.mem_among_iff.mp waits
        cases unborn.symm.trans known
    | wakes woken =>
        subst woken
        exact Finset.mem_union_right _ (mem_awoken_of_wakes change).2
    | reaps dead gone => cases (Roster.mem_among_of_stateOf dead).mp waits
  case active =>
    intro task awake
    cases change.keeps wellformed lively task with
    | still same => exact (Roster.mem_among_congr same).mpr awake
    | starts unborn active => exact (Roster.mem_among_of_stateOf active).mpr rfl
    | wakes woken =>
        subst woken
        exact (mem_awoken_of_wakes change).2
    | reaps dead gone => cases (Roster.mem_among_of_stateOf dead).mp awake
  case resumes =>
    have woken (task : TaskHandle) :
        task ∈ kernel.awoken next ↔ deed = .wakes task :=
      change.mem_awoken_iff wellformed lively
    -- The counter grows with a waking and with nothing else, and a change wakes
    -- one task at most.
    by_cases wakes : deed.Wakes
    · obtain ⟨task, rfl⟩ := wakes
      have only : kernel.awoken next = {task} := by
        ext other
        rw [woken, Deed.wakes.injEq, Finset.mem_singleton, eq_comm]
      rw [only, Finset.card_singleton]
      cases change with
      | wake => rfl
    · have nobody : kernel.awoken next = ∅ :=
        Finset.eq_empty_of_forall_notMem fun task inside =>
          wakes ⟨task, (woken task).mp inside⟩
      rw [nobody, change.resumes_eq wakes]
      rfl

theorem Evolves.tallies {may : Deed → Prop} (evolves : Evolves may kernel next)
    (wellformed : kernel.Wellformed)
    (lively : ∀ deed, may deed → deed.isLively = true) :
    kernel.Tallies next := by
  induction evolves with
  | refl => exact .refl kernel
  | step before change allowed ih =>
      exact ih.trans (change.tallies (before.wellformed wellformed)
        (lively _ allowed))

/-! ### Who begins to wait -/

theorem Change.mem_waiting (change : Change kernel deed next)
    (wellformed : kernel.Wellformed) (waits : task ∈ next.waiting) :
    task ∈ kernel.waiting ∨ deed = .parks task := by
  have alters := change.alters wellformed task
  obtain ⟨state, known, waiting⟩ := Roster.mem_among_iff.mp waits
  unfold Kernel.waiting
  rw [Roster.mem_among_iff]
  unfold Roster.stateOf at known ⊢
  generalize kernel.roster.entryOf task = before at alters ⊢
  generalize next.roster.entryOf task = after at alters known
  cases alters with
  | still | joins | hands | bereaves => exact Or.inl ⟨state, known, waiting⟩
  | starts started active =>
      rw [← Option.some.inj known, active] at waiting
      cases waiting
  | parks parked => exact Or.inr parked
  | wakes | dies =>
      rw [← Option.some.inj known] at waiting
      cases waiting
  | reaps => cases known

/-- Only the end of its slice makes a task wait. -/
theorem Evolves.mem_waiting {may : Deed → Prop}
    (evolves : Evolves may kernel next) (wellformed : kernel.Wellformed)
    (waits : task ∈ next.waiting) :
    task ∈ kernel.waiting ∨ may (.parks task) := by
  induction evolves with
  | refl => exact Or.inl waits
  | step before change allowed ih =>
      rcases change.mem_waiting (before.wellformed wellformed) waits with
        already | rfl
      · exact ih already
      · exact Or.inr allowed

/-! ### Timers that expire -/

/-- The tasks whose timer expires are active from then on, and they are not
counted. -/
structure Promotes (kernel next : Kernel S) : Prop where
  waiting : kernel.waiting ⊆ next.waiting ∪ next.active
  awoken :
    kernel.awoken next = (kernel.roster.expired kernel.now).toFinset
  resumes : next.stats.resumes = kernel.stats.resumes

theorem Change.promotes (change : Change kernel .promotes next)
    (wellformed : kernel.Wellformed) : kernel.Promotes next := by
  have resumes := change.resumes_eq (fun ⟨_, impossible⟩ => nomatch impossible)
  have rouses : kernel.roster.Rouses next.roster
      (kernel.roster.expired kernel.now) := by
    cases change with
    | @promote tasks holds =>
        change kernel.roster.Rouses tasks.roster _
        rw [holds.roster_eq]
        exact Roster.rouses_promoteExpired _ _
  have expires {task : TaskHandle}
      (inside : task ∈ kernel.roster.expired kernel.now) :
      task ∈ kernel.waiting ∧ task ∈ next.active := by
    obtain ⟨deadline, asleep, _⟩ :=
      Roster.stateOf_of_mem_expired wellformed.sound inside
    refine ⟨(Roster.mem_among_of_stateOf asleep).mpr rfl, ?_⟩
    have after := rouses.stateOf task
    rw [if_pos inside, asleep] at after
    exact (Roster.mem_among_of_stateOf after).mpr rfl
  have others {task : TaskHandle}
      (outside : task ∉ kernel.roster.expired kernel.now) :
      next.roster.stateOf task = kernel.roster.stateOf task := by
    rw [rouses.stateOf, if_neg outside]
  constructor
  case waiting =>
    intro task waits
    by_cases expired : task ∈ kernel.roster.expired kernel.now
    · exact Finset.mem_union_right _ (expires expired).2
    · exact Finset.mem_union_left _
        ((Roster.mem_among_congr (others expired)).mpr waits)
  case awoken =>
    ext task
    rw [List.mem_toFinset]
    refine ⟨fun inside => ?_, fun inside => Finset.mem_inter.mpr (expires inside)⟩
    obtain ⟨waits, active⟩ := Finset.mem_inter.mp inside
    by_contra outside
    exact notMem_active_of_waiting waits
      ((Roster.mem_among_congr (others outside)).mp active)
  case resumes => exact resumes

end Kernel

end EventScheduler
