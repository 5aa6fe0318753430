import EventScheduler.Proofs.Scheduler.Releases
import EventScheduler.Proofs.Scheduler.Slots
import EventScheduler.Proofs.Scheduler.Stale
import Mathlib.Algebra.BigOperators.Intervals

/-!
# How far generations tell handles apart

The generation of a slot says how often the slot was freed, but only modulo
65536.  So a handle comes back exactly when its slot was freed a multiple of
65536 times since it was issued, and until then it is stale.
-/

namespace EventScheduler

variable {S : Signature}

/-! ### Generations along a run -/

/-- What becomes of a slot, move by move: its generation counts how often it is
freed, and what is in it stays there until then. -/
structure Recycles (generation : Nat → UInt16) (taken : Nat → Prop)
    (freed : Nat → Nat) : Prop where
  advances (count : Nat) :
    generation (count + 1) = generation count + UInt16.ofNat (freed count)
  lasts {count : Nat} : freed count = 0 → taken count → taken (count + 1)

namespace Recycles

variable {generation : Nat → UInt16} {taken : Nat → Prop} {freed : Nat → Nat}
  {first last : Nat}

theorem generation_eq (recycles : Recycles generation taken freed)
    (later : first ≤ last) :
    generation last = generation first +
      UInt16.ofNat (∑ count ∈ Finset.Ico first last, freed count) := by
  induction last, later using Nat.le_induction with
  | base => simp
  | succ last later ih =>
      rw [recycles.advances, ih, Finset.sum_Ico_succ_top later,
        UInt16.ofNat_add, UInt16.add_assoc]

/-- What is in a slot that is not freed stays there. -/
theorem taken_of_sum (recycles : Recycles generation taken freed)
    (later : first < last) (issued : freed first = 0 → taken (first + 1))
    (kept : ∑ count ∈ Finset.Ico first last, freed count = 0) :
    taken last := by
  induction last, later using Nat.le_induction with
  | base =>
      rw [Finset.sum_Ico_succ_top le_rfl, Finset.Ico_self, Finset.sum_empty,
        Nat.zero_add] at kept
      exact issued kept
  | succ last later ih =>
      rw [Finset.sum_Ico_succ_top (Nat.le_of_succ_le later),
        Nat.add_eq_zero_iff] at kept
      exact recycles.lasts kept.2 (ih kept.1)

/-- A slot that is empty again has the generation of its issue if and only if it
was freed a positive multiple of 65536 times. -/
theorem generation_eq_iff (recycles : Recycles generation taken freed)
    (later : first < last) (issued : freed first = 0 → taken (first + 1))
    (vacant : ¬ taken last) :
    generation last = generation first ↔
      ∃ rounds > 0, ∑ count ∈ Finset.Ico first last, freed count =
        rounds * 65536 := by
  -- Otherwise what was put into the slot would still be there.
  have positive : ∑ count ∈ Finset.Ico first last, freed count ≠ 0 :=
    fun kept => vacant (recycles.taken_of_sum later issued kept)
  rw [recycles.generation_eq later.le]
  generalize ∑ count ∈ Finset.Ico first last, freed count = times at positive ⊢
  have wraps : generation first + UInt16.ofNat times = generation first ↔
      times % 65536 = 0 := by
    rw [← UInt16.toNat_inj, UInt16.toNat_add, UInt16.toNat_ofNat']
    have bound := (generation first).toNat_lt
    omega
  rw [wraps]
  constructor
  · intro multiple
    exact ⟨times / 65536, by omega, by omega⟩
  · rintro ⟨rounds, _, rfl⟩
    exact Nat.mul_mod_left rounds 65536

end Recycles

/-! ### Task slots -/

namespace Kernel

variable {kernel next : Kernel S} {deed : Deed} {task : TaskHandle}

/-- Who is started gets an empty slot. -/
theorem Change.exists_seat (change : Change kernel deed next)
    (starts : deed.started? = some task) :
    ∃ index, kernel.roster.handleAt index = task ∧
      kernel.roster.entry index = none ∧
      (next.roster.entry index).isSome = true := by
  cases change with
  | start started holds | handle unhandled started holds watched =>
      cases starts
      obtain ⟨index, entry, vacant, fits, _, filled⟩ :=
        Roster.exists_of_insert started
      refine ⟨index, fits, vacant, ?_⟩
      rw [roster_of_holds rfl holds, filled, Roster.entry_seat_self]
      rfl
  | _ => cases starts

end Kernel

namespace Machine

variable [Application S] {machine : Machine S} {move : Move S}
  {task : TaskHandle} {deed : Deed}

/-- The move puts a new task into the table under that handle, if only to drop
it again because the event that it is to handle has no room for a watcher. -/
inductive Inserts (machine : Machine S) (task : TaskHandle) (move : Move S) :
    Prop
  | starts (does : machine.Does (.starts task) move)
  | handles {event : EventHandle}
      (does : machine.Does (.handles event task) move)
  | drops {event : EventHandle} {body : S.Body} {name : Option String}
      (asks : machine.asksHandler? move = some (event, body, name))
      (dropped : machine.kernel.dropped? event body name = some task)

theorem Does.exists_seat (does : machine.Does deed move)
    (wellformed : machine.kernel.Wellformed)
    (starts : deed.started? = some task) :
    ∃ index, machine.kernel.roster.handleAt index = task ∧
      machine.kernel.roster.entry index = none ∧
      ((machine.move move).kernel.roster.entry index).isSome = true := by
  obtain ⟨middle, change, quiet⟩ := does.exists_change wellformed starts
  obtain ⟨index, fits, vacant, filled⟩ := change.exists_seat starts
  refine ⟨index, fits, vacant, ?_⟩
  refine quiet.isSome_entry (change.wellformed wellformed) ?_ filled
  rintro deed rfl
  exact nofun

/-- Who is put into the table gets an empty slot, and keeps it unless it is
dropped again. -/
theorem Inserts.exists_seat (inserts : machine.Inserts task move)
    (wellformed : machine.kernel.Wellformed) :
    ∃ index, machine.kernel.roster.handleAt index = task ∧
      machine.kernel.roster.entry index = none ∧
      (machine.freed? move ≠ some task →
        ((machine.move move).kernel.roster.entry index).isSome = true) := by
  cases inserts with
  | starts does | handles does =>
      obtain ⟨index, fits, vacant, filled⟩ := does.exists_seat wellformed rfl
      exact ⟨index, fits, vacant, fun _ => filled⟩
  | drops asks dropped =>
      obtain ⟨index, next, fits, _, spoils⟩ :=
        Kernel.exists_spoils wellformed dropped
      refine ⟨index, fits, spoils.vacant_of_spoils, fun kept => ?_⟩
      -- The move that puts the handler there frees the slot again.
      rw [freed?_of_asksHandler asks] at kept
      exact absurd dropped kept

end Machine

namespace Run

variable [Application S]

def taskFrees (run : Run S) (slot count : Nat) : Nat :=
  match (run.after count).freed? (run.moves count) with
  | some task => if task.index = slot then 1 else 0
  | none => 0

def eventFrees (run : Run S) (slot : Fin maxEvents) (count : Nat) : Nat :=
  ((run.after count).freedEvents (run.moves count)).count slot

private theorem taskFrees_cases (run : Run S) (index : SlotIndex)
    (count : Nat) :
    (run.taskFrees index count = 0 ∧
        Kernel.Evolves (fun deed => deed.freed? ≠ some index.val)
          (run.after count).kernel (run.after (count + 1)).kernel) ∨
      run.taskFrees index count = 1 ∧
        (run.after (count + 1)).kernel.roster.generation index =
          (run.after count).kernel.roster.generation index + 1 := by
  unfold taskFrees
  split
  · next task freed =>
      split
      · next same =>
          obtain ⟨_, _, advances, _⟩ :=
            Machine.freed_of_freed? (run.wellformed count) freed same
          exact Or.inr ⟨rfl, advances⟩
      · next other =>
          refine Or.inl ⟨rfl, evolves_of_kept fun known freedToo => ?_⟩
          cases freed.symm.trans freedToo
          exact other
  · next kept =>
      refine Or.inl ⟨rfl, evolves_of_kept fun known freed => ?_⟩
      cases kept.symm.trans freed

theorem task_recycles (run : Run S) (index : SlotIndex) :
    Recycles (fun count => (run.after count).kernel.roster.generation index)
      (fun count =>
        ((run.after count).kernel.roster.entry index).isSome = true)
      (run.taskFrees index) := by
  constructor
  case advances =>
    intro count
    rcases run.taskFrees_cases index count with
      ⟨never, evolves⟩ | ⟨once, advances⟩
    · rw [never, evolves.generation_eq (run.wellformed count) fun _ => id]
      simp
    · rw [once]
      exact advances
  case lasts =>
    intro count unfreed present
    rcases run.taskFrees_cases index count with
      ⟨_, evolves⟩ | ⟨once, _⟩
    · exact evolves.isSome_entry (run.wellformed count) (fun _ => id) present
    · cases once.symm.trans unfreed

theorem event_recycles (run : Run S) (index : Fin maxEvents) :
    Recycles
      (fun count => ((run.after count).kernel.events.slot index).generation)
      (fun count => ((run.after count).kernel.events.slot index).state ≠ .free)
      (run.eventFrees index) where
  advances count := (run.freesEvents count).generation index
  lasts {count} unfreed used :=
    (run.freesEvents count).claimed (List.count_eq_zero.mp unfreed) used

/-- Two handles of one task slot are the same if and only if the slot was freed
a positive multiple of 65536 times in between. -/
theorem task_eq_iff {run : Run S} {first last : Nat}
    {earlier later : TaskHandle} (before : first < last)
    (issued : (run.after first).Inserts earlier (run.moves first))
    (issuedToo : (run.after last).Inserts later (run.moves last))
    (slot : later.index = earlier.index) :
    later = earlier ↔ ∃ rounds > 0,
      ∑ count ∈ Finset.Ico first last, run.taskFrees earlier.index count =
        rounds * 65536 := by
  obtain ⟨index, rfl, _, filled⟩ := issued.exists_seat (run.wellformed first)
  obtain ⟨place, rfl, vacant, _⟩ := issuedToo.exists_seat (run.wellformed last)
  obtain rfl : place = index := Fin.ext slot
  have recycles := run.task_recycles place
  have kept : run.taskFrees place first = 0 →
      ((run.after (first + 1)).kernel.roster.entry place).isSome = true := by
    refine fun unfreed => filled fun freed => ?_
    unfold taskFrees at unfreed
    rw [freed] at unfreed
    simp [Roster.handleAt] at unfreed
  refine Iff.trans ?_
    (recycles.generation_eq_iff before kept (by simp [vacant]))
  unfold Roster.handleAt
  rw [TaskHandle.mk.injEq, and_iff_right rfl]

private theorem event_eq_iff {run : Run S} {first last : Nat}
    {earlier later : EventHandle} (before : first < last)
    (issued : (run.after first).Does (.claims earlier) (run.moves first))
    (issuedToo : (run.after last).Does (.claims later) (run.moves last))
    (slot : later.index = earlier.index) :
    later = earlier ↔ ∃ rounds > 0,
      ∑ count ∈ Finset.Ico first last, run.eventFrees earlier.index count =
        rounds * 65536 := by
  obtain ⟨events, claimed, after⟩ := issued.exists_claim
  obtain ⟨_, claimedToo, _⟩ := issuedToo.exists_claim
  have reshapes := Events.claim_reshapes claimed
  have fits := reshapes.fits rfl
  have fitsToo := (Events.claim_reshapes claimedToo).fits rfl
  have free := Events.free_of_claim claimedToo
  rw [slot] at fitsToo free
  have recycles := run.event_recycles earlier.index
  have kept : run.eventFrees earlier.index first = 0 →
      ((run.after (first + 1)).kernel.events.slot earlier.index).state ≠
        .free := by
    intro _ empty
    obtain ⟨pending, enabled⟩ :=
      (reshapes.enabled earlier.index).mpr (Or.inl rfl)
    change (((run.after first).move (run.moves first)).kernel.events.slot
      _).state = _ at empty
    rw [after] at empty
    cases enabled.symm.trans empty
  refine Iff.trans ?_
    (recycles.generation_eq_iff before kept (not_not_intro free))
  rw [fits, fitsToo]
  cases earlier
  cases later
  rw [EventHandle.mk.injEq, and_iff_right slot]

/-- How far handles can be told apart, seen from move `count` of a run. -/
structure TellsHandlesApart (run : Run S) (count : Nat) : Prop where
  /-- A task that is put into the table has the handle of a former task of its
  slot if and only if the slot was freed a positive multiple of 65536 times
  since that one was put there.  Only a reap frees it, or the loss of a handler
  that its event has no room for. -/
  tasks {first : Nat} {earlier later : TaskHandle} (before : first < count)
    (issued : (run.after first).Inserts earlier (run.moves first))
    (issuedToo : (run.after count).Inserts later (run.moves count))
    (slot : later.index = earlier.index) :
    later = earlier ↔ ∃ rounds > 0,
      ∑ move ∈ Finset.Ico first count, run.taskFrees earlier.index move =
        rounds * 65536
  /-- It is the same with events that are claimed.  Only a release frees their
  slots. -/
  events {first : Nat} {earlier later : EventHandle} (before : first < count)
    (issued : (run.after first).Does (.claims earlier) (run.moves first))
    (issuedToo : (run.after count).Does (.claims later) (run.moves count))
    (slot : later.index = earlier.index) :
    later = earlier ↔ ∃ rounds > 0,
      ∑ move ∈ Finset.Ico first count, run.eventFrees earlier.index move =
        rounds * 65536
  /-- A stale handle of a task comes to nothing from outside the tasks. -/
  outside {task : TaskHandle}
    (stale : (run.after count).kernel.tasks.Stale task) :
    (run.after count).toScheduler.Ignores task
  /-- It comes to nothing from inside a body either. -/
  inside {task : TaskHandle} {role : Role} {program : Program S (role.Result S)}
    (stale : (run.after count).kernel.tasks.Stale task)
    (control : (run.after count).control = .body role program) :
    (run.after count).kernel.Ignores role.task task
  /-- A stale handle of an event comes to nothing. -/
  registry {event : EventHandle}
    (stale : (run.after count).kernel.events.Stale event) :
    (run.after count).kernel.events.Ignores event

/-- Two handles of a slot are the same exactly if the slot was freed a positive
multiple of 65536 times in between, and a handle comes to nothing as long as it
is stale. -/
theorem tellsHandlesApart (run : Run S) (count : Nat) :
    run.TellsHandlesApart count where
  tasks := task_eq_iff
  events := event_eq_iff
  outside := ignores_of_stale
  inside := ignores_of_asked
  registry := Events.Stale.ignores

end Run

end EventScheduler
