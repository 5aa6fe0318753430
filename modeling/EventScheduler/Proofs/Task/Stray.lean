import EventScheduler.Proofs.Task.Alive

/-!
# The active task off the run queue

At most one active task is off the run queue: the one that runs, or the one
that yielded.  This module says what the changes of a roster do to it, and to
the bodies of the other tasks.
-/

namespace EventScheduler.Roster

variable {S : Signature} {roster other : Roster S} {stray : Option TaskHandle}

/-- The only active task off the run queue is `stray`. -/
structure Strays (roster : Roster S) (stray : Option TaskHandle) : Prop where
  iff (index : SlotIndex) :
    (roster.state? index = some .active ∧ index ∉ roster.run) ↔
      stray = some (roster.handleAt index)
  named {task : TaskHandle} :
    stray = some task → ∃ index, roster.handleAt index = task

/-- Every live task but the running one has its body. -/
def Bodied (roster : Roster S) (running : Option TaskHandle) : Prop :=
  ∀ index entry, roster.entry index = some entry →
    entry.state.isDead = false → running ≠ some (roster.handleAt index) →
      entry.body.isSome = true

theorem handleAt_congr {index : SlotIndex}
    (same : other.generation index = roster.generation index) :
    other.handleAt index = roster.handleAt index := by
  unfold handleAt
  rw [same]

namespace Strays

/-- The stray task is alive. -/
theorem alive (strays : roster.Strays stray) {task : TaskHandle}
    (named : stray = some task) : roster.Alive task := by
  obtain ⟨index, fits⟩ := strays.named named
  rw [← fits] at named
  obtain ⟨active, _⟩ := (strays.iff index).mpr named
  refine alive_iff.mpr ⟨index, fits, ?_⟩
  rw [isLive_eq active]
  rfl

/-- The stray task is active. -/
theorem active (strays : roster.Strays stray) {task : TaskHandle}
    (named : stray = some task) : roster.EachNamed task (· = .active) := by
  intro index entry found
  obtain ⟨fits, _⟩ := find?_eq_some_iff.mp found
  rw [← fits] at named
  obtain ⟨state, _⟩ := (strays.iff index).mpr named
  exact Option.some.inj ((state?_of_find? found).symm.trans state)

theorem congr (strays : roster.Strays stray)
    (generation : other.generation = roster.generation)
    (states : ∀ index, other.state? index = roster.state? index)
    (run : ∀ index, index ∈ other.run ↔ index ∈ roster.run) :
    other.Strays stray where
  iff index := by
    rw [states, run, handleAt_congr (congrFun generation index)]
    exact strays.iff index
  named known := by
    obtain ⟨index, fits⟩ := strays.named known
    exact ⟨index, (handleAt_congr (congrFun generation index)).trans fits⟩

/-- One slot changes and is not that of a stray task afterwards. -/
theorem settle (strays : roster.Strays stray) {index : SlotIndex}
    (generation : ∀ slot, slot ≠ index →
      other.generation slot = roster.generation slot)
    (states : ∀ slot, slot ≠ index → other.state? slot = roster.state? slot)
    (run : ∀ slot, slot ≠ index → (slot ∈ other.run ↔ slot ∈ roster.run))
    (settled : ¬ (other.state? index = some .active ∧ index ∉ other.run)) :
    other.Strays
      (if stray = some (roster.handleAt index) then none else stray) where
  iff slot := by
    by_cases same : slot = index
    · subst same
      refine ⟨fun astray => absurd astray settled, fun named => ?_⟩
      split at named
      · cases named
      · next notStray =>
          obtain ⟨known, fits⟩ := strays.named named
          have sameSlot : known = slot :=
            Fin.ext (congrArg TaskHandle.index fits)
          rw [sameSlot] at fits
          exact absurd (fits ▸ named) notStray
    · rw [states slot same, run slot same,
        handleAt_congr (generation slot same), strays.iff]
      split
      · next wasStray =>
          rw [wasStray, Option.some_inj]
          refine ⟨fun equal => ?_, fun impossible => nomatch impossible⟩
          exact absurd (roster.handleAt_injective equal).symm same
      · exact Iff.rfl
  named known := by
    split at known
    · cases known
    · next notStray =>
        obtain ⟨slot, fits⟩ := strays.named known
        have different : slot ≠ index := fun same =>
          notStray (by rw [known, ← fits, same])
        exact ⟨slot, (handleAt_congr (generation slot different)).trans fits⟩

/-- One slot changes that is not that of the stray task, before or after. -/
theorem settle_other (strays : roster.Strays stray) {index : SlotIndex}
    (before : ¬ (roster.state? index = some .active ∧ index ∉ roster.run))
    (generation : ∀ slot, slot ≠ index →
      other.generation slot = roster.generation slot)
    (states : ∀ slot, slot ≠ index → other.state? slot = roster.state? slot)
    (run : ∀ slot, slot ≠ index → (slot ∈ other.run ↔ slot ∈ roster.run))
    (after : ¬ (other.state? index = some .active ∧ index ∉ other.run)) :
    other.Strays stray := by
  have settled := strays.settle generation states run after
  have notStray : stray ≠ some (roster.handleAt index) := fun named =>
    before ((strays.iff index).mpr named)
  rwa [if_neg notStray] at settled

theorem insert (strays : roster.Strays stray) (body : S.Body)
    (name : Option String) : (roster.insert body name).2.Strays stray := by
  cases started : (roster.insert body name).1 with
  | error error =>
      rw [insert_of_error started]
      exact strays
  | ok task =>
      obtain ⟨index, entry, vacant, _, _, filled⟩ := exists_of_insert started
      rw [filled]
      refine strays.settle_other ?_ (fun _ _ => rfl)
        (fun slot different => roster.state?_seat_of_ne entry different) ?_ ?_
      · rintro ⟨active, _⟩
        unfold state? at active
        rw [vacant] at active
        cases active
      · intro slot different
        simp [seat, different]
      · rintro ⟨_, off⟩
        exact off (List.mem_append_right _ List.mem_cons_self)

theorem wake (strays : roster.Strays stray) {index : SlotIndex}
    {entry : TaskEntry S} (present : roster.entry index = some entry)
    (waiting : entry.state.isWaiting = true) :
    (roster.wake index entry).Strays stray := by
  refine strays.settle_other ?_ (fun _ _ => rfl)
    (fun slot different => roster.state?_setEntry_of_ne _ different) ?_ ?_
  · rintro ⟨active, _⟩
    rw [state?_of_entry present] at active
    rw [Option.some.inj active] at waiting
    cases waiting
  · intro slot different
    change slot ∈ roster.run.erase index ++ [index] ↔ _
    simp [different, List.mem_erase_of_ne different]
  · rintro ⟨_, off⟩
    exact off (List.mem_append_right _ List.mem_cons_self)

/-- A task that leaves its list and is not active any more is not stray. -/
private theorem of_leaves (strays : roster.Strays stray) {index : SlotIndex}
    {task : TaskHandle} (fits : roster.handleAt index = task)
    (generation : other.generation = roster.generation)
    (states : ∀ slot, slot ≠ index → other.state? slot = roster.state? slot)
    (run : other.run = roster.run.erase index)
    (inactive : other.state? index ≠ some .active) :
    other.Strays (if stray = some task then none else stray) := by
  rw [← fits]
  refine strays.settle (fun slot _ => congrFun generation slot) states ?_
    fun active => inactive active.1
  intro slot different
  rw [run, List.mem_erase_of_ne different]

theorem retire (strays : roster.Strays stray) {task : TaskHandle}
    (alive : roster.Alive task) (exit : S.Exit) :
    (roster.retire task exit).2.Strays
      (if stray = some task then none else stray) := by
  obtain ⟨index, entry, found, _⟩ := alive
  have fits := (find?_eq_some_iff.mp found).1
  rw [retire_of_find? exit found]
  refine strays.of_leaves fits rfl
    (fun slot different => roster.state?_bury_of_ne entry exit different) rfl ?_
  rw [state?_of_entry (roster.entry_bury_self index entry exit)]
  intro active
  cases active

theorem suspend (strays : roster.Strays stray) {task : TaskHandle}
    (alive : roster.Alive task) :
    (roster.suspend task).Strays
      (if stray = some task then none else stray) := by
  obtain ⟨index, entry, found, _⟩ := alive
  have fits := (find?_eq_some_iff.mp found).1
  unfold Roster.suspend
  rw [found]
  refine strays.of_leaves fits rfl
    (fun slot different => roster.state?_setEntry_of_ne _ different) rfl ?_
  intro active
  have clash := (roster.state?_setEntry_self index _).symm.trans active
  cases clash

theorem sleep (strays : roster.Strays stray) {task : TaskHandle}
    (alive : roster.Alive task) (deadline : Deadline) :
    (roster.sleep task deadline).Strays
      (if stray = some task then none else stray) := by
  unfold Roster.sleep
  split
  · exact strays.suspend alive
  · obtain ⟨index, entry, found, _⟩ := alive
    have fits := (find?_eq_some_iff.mp found).1
    rw [found]
    refine strays.of_leaves fits rfl
      (fun slot different => roster.state?_setEntry_of_ne _ different) rfl ?_
    intro active
    have clash := (roster.state?_setEntry_self index _).symm.trans active
    cases clash

theorem free (strays : roster.Strays stray) {index : SlotIndex}
    (gone : roster.isLive index = false) :
    (roster.free index).Strays stray := by
  refine strays.settle_other ?_ ?_
    (fun slot different => roster.state?_free_of_ne different)
    (fun _ _ => Iff.rfl) ?_
  · rintro ⟨active, _⟩
    rw [isLive_eq active] at gone
    cases gone
  · intro slot different
    exact Function.update_of_ne different ..
  · rintro ⟨active, _⟩
    rw [roster.state?_free_self] at active
    cases active

theorem forgetJoiner (strays : roster.Strays stray) (task : TaskHandle) :
    (roster.forgetJoiner task).Strays stray :=
  strays.congr rfl (state?_forgetJoiner roster task) fun _ => Iff.rfl

theorem addJoiner (strays : roster.Strays stray) (task joiner : TaskHandle) :
    (roster.addJoiner task joiner).2.Strays stray := by
  unfold Roster.addJoiner
  split
  · exact strays
  · next index entry found =>
      split
      · exact strays
      · refine strays.congr rfl (fun slot => ?_) fun _ => Iff.rfl
        by_cases same : slot = index
        · subst same
          rw [state?_setEntry_self, state?_of_find? found]
        · exact roster.state?_setEntry_of_ne _ same

theorem update (strays : roster.Strays stray) (task : TaskHandle)
    {change : TaskEntry S → TaskEntry S}
    (keeps : ∀ entry, (change entry).state = entry.state) :
    (roster.update task change).Strays stray := by
  refine strays.congr ?_ (state?_update roster task keeps) fun _ => ?_ <;>
    unfold Roster.update <;> split <;> rfl

/-- The head of the run queue becomes the stray task. -/
theorem popRunnable (strays : roster.Strays none) (sound : roster.Sound)
    {task : TaskHandle} (first : roster.popRunnable.1 = some task) :
    roster.popRunnable.2.Strays (some task) := by
  unfold Roster.popRunnable at first ⊢
  split at first
  · cases first
  · next index rest queue =>
      cases first
      have off : index ∉ rest :=
        (List.nodup_cons.mp (queue ▸ sound.run_nodup)).1
      have active : roster.state? index = some .active :=
        sound.active (queue ▸ List.mem_cons_self)
      constructor
      · intro slot
        by_cases same : slot = index
        · subst same
          exact ⟨fun _ => rfl, fun _ => ⟨active, off⟩⟩
        · refine ⟨fun astray => ?_, fun named => ?_⟩
          · have queued : slot ∉ roster.run := by
              rw [queue]
              exact fun inside =>
                (List.mem_cons.mp inside).elim same astray.2
            have impossible := (strays.iff slot).mp ⟨astray.1, queued⟩
            cases impossible
          · exact absurd (roster.handleAt_injective (Option.some.inj named)).symm
              same
      · intro known named
        exact ⟨index, Option.some.inj named⟩

/-- The stray task goes back to the run queue. -/
theorem requeue (strays : roster.Strays stray) (sound : roster.Sound)
    {task : TaskHandle} (named : stray = some task) :
    (roster.requeue task).Strays none := by
  obtain ⟨index, fits⟩ := strays.named named
  have astray : roster.state? index = some .active ∧ index ∉ roster.run :=
    (strays.iff index).mpr (by rw [named, fits])
  obtain ⟨entry, present, state⟩ := Option.map_eq_some_iff.mp astray.1
  have found := find?_eq_some_iff.mpr ⟨fits, present⟩
  have awake : index ∉ roster.timers := by
    refine sound.notMem_timers fun deadline asleep => ?_
    rw [astray.1] at asleep
    cases asleep
  have settled : (roster.enqueue index).Strays
      (if stray = some (roster.handleAt index) then none else stray) :=
    strays.settle (fun _ _ => rfl) (fun _ _ => rfl)
      (fun slot different => by simp [enqueue, different])
      (fun active => active.2 (List.mem_append_right _ List.mem_cons_self))
  rw [named, fits, if_pos rfl] at settled
  unfold Roster.requeue
  rw [found]
  simp only [state, astray.2, awake, or_self, if_false]
  exact settled

/-- A task that is not stray stays where it is. -/
theorem requeue_of_ne (strays : roster.Strays stray) {task : TaskHandle}
    (different : stray ≠ some task) : (roster.requeue task).Strays stray := by
  unfold Roster.requeue
  split
  · exact strays
  · next index entry found =>
      split
      · next state =>
          split
          · exact strays
          · next off =>
              have active : roster.state? index = some .active := by
                rw [state?_of_find? found, state]
              have named := (strays.iff index).mp
                ⟨active, fun queued => off (Or.inl queued)⟩
              rw [(find?_eq_some_iff.mp found).1] at named
              exact absurd named different
      · exact strays

theorem promoteExpired (strays : roster.Strays stray) (sound : roster.Sound)
    (now : Tick) : (roster.promoteExpired now).2.Strays stray := by
  -- One sleeper after the other is woken; the list left over is the measure.
  generalize left : roster.timers = timers
  induction timers generalizing roster with
  | nil =>
      rw [promoteExpired_of_nil now left]
      exact strays
  | cons index rest ih =>
      cases passed : (roster.due index).reached now with
      | false =>
          rw [promoteExpired_of_not_reached sound left passed]
          exact strays
      | true =>
          obtain ⟨entry, deadline, present, asleep⟩ :=
            sound.entry_of_mem_timers (left ▸ List.mem_cons_self)
          have waiting : entry.state.isWaiting = true := by
            rw [asleep]
            rfl
          rw [promoteExpired_of_reached sound left present passed]
          refine ih (strays.wake present waiting) (sound.wake present waiting) ?_
          change roster.timers.erase index = rest
          rw [left, List.erase_cons_head]

end Strays

end EventScheduler.Roster
