import EventScheduler.Proofs.Deadline
import EventScheduler.Proofs.Task.Roster

/-!
# Sound rosters

In a sound roster the tasks on the run queue are active, the tasks on the timer
list are the sleeping ones by ascending deadline, and the live tasks are
counted.  An active task need not be on the run queue: it may be running.

Every operation keeps a roster sound that suspends only active tasks, and puts
to sleep and retires only live ones.
-/

namespace EventScheduler.Roster

variable {S : Signature}

def isLive (roster : Roster S) (index : SlotIndex) : Bool :=
  (roster.state? index).any fun state => !state.isDead

/-- The lists fit what the tasks are doing. -/
structure Sound (roster : Roster S) : Prop where
  /-- No slot is queued twice. -/
  run_nodup : roster.run.Nodup
  /-- No slot sleeps twice. -/
  timers_nodup : roster.timers.Nodup
  /-- The tasks on the run queue are active. -/
  active {index : SlotIndex} :
    index ∈ roster.run → roster.state? index = some .active
  /-- The tasks on the timer list are those that sleep. -/
  mem_timers_iff {index : SlotIndex} : index ∈ roster.timers ↔
    ∃ deadline, roster.state? index = some (.timer deadline)
  /-- Nothing sleeps for ever. -/
  not_never {index : SlotIndex} {deadline : Deadline} :
    roster.state? index = some (.timer deadline) → deadline.isNever = false
  /-- Deadlines ascend along the timer list. -/
  sorted : roster.timers.Pairwise fun first second =>
    roster.due first ≤ roster.due second
  /-- The live tasks are counted. -/
  live_eq : roster.live = (List.finRange maxTasks).countP roster.isLive

theorem due_eq {roster : Roster S} {index : SlotIndex} {deadline : Deadline}
    (state : roster.state? index = some (.timer deadline)) :
    roster.due index = deadline := by
  unfold due
  rw [state]

theorem due_congr {roster other : Roster S} {index : SlotIndex}
    (same : other.state? index = roster.state? index) :
    other.due index = roster.due index := by
  unfold due
  rw [same]

/-- How a count changes with the answer at one slot. -/
private theorem countP_finRange_change (first second : SlotIndex → Bool)
    (index : SlotIndex)
    (elsewhere : ∀ other, other ≠ index → second other = first other) :
    (List.finRange maxTasks).countP second + (first index).toNat =
      (List.finRange maxTasks).countP first + (second index).toNat := by
  have split := List.perm_cons_erase (List.mem_finRange index)
  have rest : ((List.finRange maxTasks).erase index).countP second =
      ((List.finRange maxTasks).erase index).countP first := by
    refine List.countP_congr fun other inside => ?_
    have different :=
      ((List.nodup_finRange maxTasks).mem_erase_iff.mp inside).1
    rw [elsewhere other different]
  rw [split.countP_eq, split.countP_eq, List.countP_cons, List.countP_cons, rest]
  cases first index <;> cases second index <;> simp

namespace Sound

variable {roster other : Roster S} {index : SlotIndex}

theorem notMem_run (sound : roster.Sound)
    (different : roster.state? index ≠ some .active) : index ∉ roster.run :=
  fun inside => different (sound.active inside)

theorem notMem_timers (sound : roster.Sound)
    (awake : ∀ deadline, roster.state? index ≠ some (.timer deadline)) :
    index ∉ roster.timers := fun inside =>
  let ⟨deadline, state⟩ := sound.mem_timers_iff.mp inside
  awake deadline state

/-- No slot is on both lists. -/
theorem disjoint (sound : roster.Sound) (queued : index ∈ roster.run) :
    index ∉ roster.timers := by
  refine sound.notMem_timers fun deadline asleep => ?_
  have clash := (sound.active queued).symm.trans asleep
  cases clash

/-! ### Kinds of change -/

/-- Only what the tasks are doing, the lists and the count matter. -/
theorem congr (sound : roster.Sound)
    (states : ∀ index, other.state? index = roster.state? index)
    (run : other.run = roster.run) (timers : other.timers = roster.timers)
    (live : other.live = roster.live) : other.Sound where
  run_nodup := run ▸ sound.run_nodup
  timers_nodup := timers ▸ sound.timers_nodup
  active inside := (states _).trans (sound.active (run ▸ inside))
  mem_timers_iff := by
    intro index
    rw [timers, states]
    exact sound.mem_timers_iff
  not_never state := sound.not_never ((states _).symm.trans state)
  sorted := by
    rw [timers]
    exact sound.sorted.imp fun {first second} ordered => by
      rwa [due_congr (states first), due_congr (states second)]
  live_eq := by
    rw [live, sound.live_eq]
    refine List.countP_congr fun index _ => ?_
    unfold isLive
    rw [states]

/-- The live tasks stay counted when one slot changes. -/
private theorem live_eq_of_change (sound : roster.Sound)
    (elsewhere : ∀ slot, slot ≠ index →
      other.state? slot = roster.state? slot)
    (live : other.live + (roster.isLive index).toNat =
      roster.live + (other.isLive index).toNat) :
    other.live = (List.finRange maxTasks).countP other.isLive := by
  have counted := countP_finRange_change roster.isLive other.isLive index
    fun slot different => by
      unfold isLive
      rw [elsewhere slot different]
  have before := sound.live_eq
  omega

/-- A slot is taken off its list, and its task does something else than sleep
from then on. -/
theorem takeOff (sound : roster.Sound)
    (elsewhere : ∀ slot, slot ≠ index →
      other.state? slot = roster.state? slot)
    (awake : ∀ deadline, other.state? index ≠ some (.timer deadline))
    (run : other.run = roster.run.erase index)
    (timers : other.timers = roster.timers.erase index)
    (live : other.live + (roster.isLive index).toNat =
      roster.live + (other.isLive index).toNat) : other.Sound where
  run_nodup := run ▸ sound.run_nodup.erase index
  timers_nodup := timers ▸ sound.timers_nodup.erase index
  active := by
    intro slot inside
    rw [run, sound.run_nodup.mem_erase_iff] at inside
    rw [elsewhere slot inside.1]
    exact sound.active inside.2
  mem_timers_iff := by
    intro slot
    rw [timers, sound.timers_nodup.mem_erase_iff, sound.mem_timers_iff]
    by_cases same : slot = index
    · subst same
      simp [awake]
    · simp [same, elsewhere slot same]
  not_never := by
    intro slot deadline state
    have different : slot ≠ index := fun same => awake deadline (same ▸ state)
    exact sound.not_never ((elsewhere slot different).symm.trans state)
  sorted := by
    rw [timers]
    refine (sound.sorted.erase index).imp_of_mem ?_
    intro first second firstInside secondInside ordered
    rw [sound.timers_nodup.mem_erase_iff] at firstInside secondInside
    rwa [due_congr (elsewhere first firstInside.1),
      due_congr (elsewhere second secondInside.1)]
  live_eq := sound.live_eq_of_change elsewhere live

/-- An active task that is on no list is appended to the run queue. -/
theorem enqueue (sound : roster.Sound)
    (state : roster.state? index = some .active) (off : index ∉ roster.run) :
    (roster.enqueue index).Sound where
  run_nodup := by
    have apart : ∀ slot ∈ roster.run, ∀ single ∈ [index], slot ≠ single := by
      intro slot inside single only
      rw [List.mem_singleton.mp only]
      exact ne_of_mem_of_not_mem inside off
    exact List.nodup_append.mpr
      ⟨sound.run_nodup, List.nodup_singleton index, apart⟩
  timers_nodup := sound.timers_nodup
  active := by
    intro slot inside
    rcases List.mem_append.mp inside with queued | single
    · exact sound.active queued
    · rw [List.mem_singleton.mp single]
      exact state
  mem_timers_iff := sound.mem_timers_iff
  not_never := sound.not_never
  sorted := sound.sorted
  live_eq := sound.live_eq

/-- The head of the run queue is taken off. -/
theorem tail (sound : roster.Sound) {rest : List SlotIndex}
    (queue : roster.run = index :: rest) :
    ({ roster with run := rest } : Roster S).Sound where
  run_nodup := (List.nodup_cons.mp (queue ▸ sound.run_nodup)).2
  timers_nodup := sound.timers_nodup
  active inside := sound.active (queue ▸ List.mem_cons_of_mem index inside)
  mem_timers_iff := sound.mem_timers_iff
  not_never := sound.not_never
  sorted := sound.sorted
  live_eq := sound.live_eq

/-- A slot behind every one that is due no later keeps the order. -/
private theorem sorted_orderedInsert {due : SlotIndex → Deadline}
    {slots : List SlotIndex} (index : SlotIndex)
    (sorted : slots.Pairwise fun first second => due first ≤ due second) :
    (slots.orderedInsert (fun first second => due first < due second)
      index).Pairwise fun first second => due first ≤ due second := by
  induction slots with
  | nil => exact List.pairwise_singleton _ index
  | cons slot rest ih =>
      obtain ⟨slotFirst, restSorted⟩ := List.pairwise_cons.mp sorted
      rw [List.orderedInsert_cons]
      split
      · next earlier =>
          refine List.pairwise_cons.mpr ⟨fun later inside => ?_, sorted⟩
          have next := Deadline.le_of_lt earlier
          rcases List.mem_cons.mp inside with rfl | inRest
          · exact next
          · exact Deadline.le_trans next (slotFirst later inRest)
      · next notEarlier =>
          refine List.pairwise_cons.mpr ⟨fun later inside => ?_, ih restSorted⟩
          rcases (List.mem_orderedInsert _).mp inside with rfl | inRest
          · exact Deadline.not_lt.mp notEarlier
          · exact slotFirst later inRest

/-- A slot is taken off its list and inserted into the timer list. -/
theorem putToSleep (sound : roster.Sound) {deadline : Deadline}
    (elsewhere : ∀ slot, slot ≠ index →
      other.state? slot = roster.state? slot)
    (asleep : other.state? index = some (.timer deadline))
    (ever : deadline.isNever = false)
    (run : other.run = roster.run.erase index)
    (timers : other.timers = (roster.timers.erase index).orderedInsert
      (fun first second => other.due first < other.due second) index)
    (live : other.live + (roster.isLive index).toNat =
      roster.live + (other.isLive index).toNat) : other.Sound where
  run_nodup := run ▸ sound.run_nodup.erase index
  timers_nodup := by
    rw [timers, (List.perm_orderedInsert _ index _).nodup_iff,
      List.nodup_cons]
    exact ⟨sound.timers_nodup.not_mem_erase, sound.timers_nodup.erase index⟩
  active := by
    intro slot inside
    rw [run, sound.run_nodup.mem_erase_iff] at inside
    rw [elsewhere slot inside.1]
    exact sound.active inside.2
  mem_timers_iff := by
    intro slot
    rw [timers, List.mem_orderedInsert, sound.timers_nodup.mem_erase_iff,
      sound.mem_timers_iff]
    by_cases same : slot = index
    · subst same
      simp [asleep]
    · simp [same, elsewhere slot same]
  not_never := by
    intro slot later state
    by_cases same : slot = index
    · subst same
      have equal := asleep.symm.trans state
      cases equal
      exact ever
    · exact sound.not_never ((elsewhere slot same).symm.trans state)
  sorted := by
    rw [timers]
    refine sorted_orderedInsert index ?_
    refine (sound.sorted.erase index).imp_of_mem ?_
    intro first second firstInside secondInside ordered
    rw [sound.timers_nodup.mem_erase_iff] at firstInside secondInside
    rwa [due_congr (elsewhere first firstInside.1),
      due_congr (elsewhere second secondInside.1)]
  live_eq := sound.live_eq_of_change elsewhere live

end Sound

end EventScheduler.Roster
