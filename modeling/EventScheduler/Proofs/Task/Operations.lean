import EventScheduler.Proofs.Task.Holds
import EventScheduler.Proofs.Task.Sound

/-!
# Operations on sound rosters

Every operation of a task table keeps its roster sound, and a table that holds a
sound roster does to its links what the roster does to its lists.
-/

namespace EventScheduler

namespace Roster

variable {S : Signature} {roster : Roster S}

def EachNamed (roster : Roster S) (task : TaskHandle)
    (holds : S.State → Prop) : Prop :=
  ∀ index entry, roster.find? task = some (index, entry) → holds entry.state

theorem isLive_eq {index : SlotIndex} {state : S.State}
    (found : roster.state? index = some state) :
    roster.isLive index = !state.isDead := by
  unfold isLive
  rw [found]
  rfl

/-- A slot found empty has no task. -/
theorem state?_of_vacant {index : SlotIndex}
    (found : ((List.finRange maxTasks).find? fun index =>
      (roster.entry index).isNone) = some index) :
    roster.state? index = none := by
  have empty := List.find?_some found
  unfold state?
  rw [Option.isNone_iff_eq_none.mp empty]
  rfl

theorem isLive_of_none {index : SlotIndex}
    (empty : roster.state? index = none) : roster.isLive index = false := by
  unfold isLive
  rw [empty]
  rfl

theorem isLive_of_vacant {index : SlotIndex}
    (vacant : roster.entry index = none) : roster.isLive index = false := by
  refine isLive_of_none ?_
  unfold state?
  rw [vacant]
  rfl

theorem state?_of_find? {task : TaskHandle} {index : SlotIndex}
    {entry : TaskEntry S} (found : roster.find? task = some (index, entry)) :
    roster.state? index = some entry.state :=
  state?_of_entry (find?_eq_some_iff.mp found).2

theorem state?_update (roster : Roster S) (task : TaskHandle)
    {change : TaskEntry S → TaskEntry S}
    (keeps : ∀ entry, (change entry).state = entry.state) (index : SlotIndex) :
    (roster.update task change).state? index = roster.state? index := by
  unfold update
  split
  · next slot entry found =>
      by_cases same : index = slot
      · subst same
        rw [state?_setEntry_self, state?_of_find? found, keeps]
      · exact roster.state?_setEntry_of_ne _ same
  · rfl

/-- A task that is started gets an empty slot and goes to the tail of the run
queue. -/
theorem exists_of_insert {body : S.Body} {name : Option String}
    {task : TaskHandle} (started : (roster.insert body name).1 = .ok task) :
    ∃ index entry, roster.entry index = none ∧
      roster.handleAt index = task ∧
      entry = { state := .active, body := some body, joiners := .none, name } ∧
      (roster.insert body name).2 = roster.seat index entry := by
  unfold Roster.insert at started ⊢
  split at started
  · cases started
  · next index found =>
      have vacant := List.find?_some found
      exact ⟨index, _, Option.isNone_iff_eq_none.mp vacant,
        Except.ok.inj started, rfl, rfl⟩

theorem retire_of_find? {task : TaskHandle} {index : SlotIndex}
    {entry : TaskEntry S} (exit : S.Exit)
    (found : roster.find? task = some (index, entry)) :
    roster.retire task exit =
      (entry.joiners, roster.bury index entry exit) := by
  unfold Roster.retire
  rw [found]

theorem reap_of_find? {task : TaskHandle} {index : SlotIndex}
    {entry : TaskEntry S} {exit : S.Exit}
    (found : roster.find? task = some (index, entry))
    (dead : entry.state = .dead exit) :
    roster.reap task = (.ok (some exit), roster.free index) := by
  unfold Roster.reap
  rw [found]
  dsimp only
  rw [dead]

/-- A task that is reaped is dead, and its slot is freed. -/
theorem exists_of_reap {task : TaskHandle} {exit : S.Exit}
    (reaped : (roster.reap task).1 = .ok (some exit)) :
    ∃ index, roster.isLive index = false ∧
      (roster.reap task).2 = roster.free index := by
  cases found : roster.find? task with
  | none =>
      unfold Roster.reap at reaped
      rw [found] at reaped
      cases reaped
  | some named =>
      obtain ⟨index, entry⟩ := named
      cases state : entry.state with
      | dead known =>
          have freed := reap_of_find? found state
          rw [freed]
          refine ⟨index, ?_, rfl⟩
          rw [isLive_eq (state?_of_find? found), state]
          rfl
      | active | suspended | timer =>
          unfold Roster.reap at reaped
          simp only [found, state] at reaped
          cases reaped

theorem state?_forgetJoiner (roster : Roster S) (task : TaskHandle)
    (index : SlotIndex) :
    (roster.forgetJoiner task).state? index = roster.state? index := by
  unfold state? forgetJoiner
  rw [Option.map_map]
  rfl

namespace Sound

/-- A task starts to do something else than sleep, off its list. -/
private theorem setEntry_remove (sound : roster.Sound) (index : SlotIndex)
    (entry : TaskEntry S) (live : Nat)
    (awake : ∀ deadline, entry.state ≠ .timer deadline)
    (counted : live + (roster.isLive index).toNat =
      roster.live + (!entry.state.isDead).toNat) :
    ({ (roster.setEntry index entry).remove index with live } :
      Roster S).Sound := by
  have state := roster.state?_setEntry_self index entry
  refine sound.takeOff
    (fun slot different => roster.state?_setEntry_of_ne entry different)
    (fun deadline asleep => ?_) rfl rfl ?_
  · exact awake deadline (Option.some.inj (state.symm.trans asleep))
  · exact counted.trans (congrArg (fun flag : Bool => roster.live + flag.toNat)
      (isLive_eq state).symm)

private theorem setEntry_remove_enqueue (sound : roster.Sound)
    (index : SlotIndex) (entry : TaskEntry S) (live : Nat)
    (active : entry.state = .active)
    (counted : live + (roster.isLive index).toNat = roster.live + 1) :
    (({ (roster.setEntry index entry).remove index with live } :
      Roster S).enqueue index).Sound := by
  have taken := sound.setEntry_remove index entry live (by simp [active])
    (by rw [active]; exact counted)
  refine taken.enqueue ?_ sound.run_nodup.not_mem_erase
  exact (roster.state?_setEntry_self index entry).trans (by rw [active])

theorem empty : (Roster.empty : Roster S).Sound where
  run_nodup := List.nodup_nil
  timers_nodup := List.nodup_nil
  active inside := absurd inside List.not_mem_nil
  mem_timers_iff := by
    intro index
    simp [Roster.empty, state?]
  not_never := by
    intro index deadline state
    cases state
  sorted := List.Pairwise.nil
  live_eq := by
    refine (List.countP_eq_zero.mpr fun index _ => ?_).symm
    exact Bool.false_ne_true

theorem update (sound : roster.Sound) (task : TaskHandle)
    {change : TaskEntry S → TaskEntry S}
    (keeps : ∀ entry, (change entry).state = entry.state) :
    (roster.update task change).Sound := by
  refine sound.congr (state?_update roster task keeps) ?_ ?_ ?_ <;>
    unfold Roster.update <;> split <;> rfl

theorem insert (sound : roster.Sound) (body : S.Body) (name : Option String) :
    (roster.insert body name).2.Sound := by
  unfold Roster.insert
  split
  · exact sound
  · next index found =>
      have vacant := state?_of_vacant found
      have notRun : index ∉ roster.run := sound.notMem_run (by simp [vacant])
      have notTimers : index ∉ roster.timers :=
        sound.notMem_timers (by simp [vacant])
      have started := sound.setEntry_remove_enqueue index
        { state := .active, body := some body, joiners := .none, name }
        (roster.live + 1) rfl (by simp [isLive_of_none vacant])
      have run : roster.run.erase index = roster.run :=
        List.erase_of_not_mem notRun
      have timers : roster.timers.erase index = roster.timers :=
        List.erase_of_not_mem notTimers
      unfold remove at started
      simp only [setEntry, run, timers] at started
      exact started

theorem popRunnable (sound : roster.Sound) : roster.popRunnable.2.Sound := by
  unfold Roster.popRunnable
  split
  · exact sound
  · next index rest queue => exact sound.tail queue

/-- A task that waits is woken. -/
theorem wake (sound : roster.Sound) {index : SlotIndex} {entry : TaskEntry S}
    (present : roster.entry index = some entry)
    (waiting : entry.state.isWaiting = true) :
    (roster.wake index entry).Sound := by
  refine sound.setEntry_remove_enqueue index _ roster.live rfl ?_
  rw [isLive_eq (state?_of_entry present)]
  cases state : entry.state <;>
    simp [state, TaskState.isWaiting, TaskState.isDead] at waiting ⊢

theorem activate (sound : roster.Sound) (task : TaskHandle) :
    (roster.activate task).2.Sound := by
  unfold Roster.activate
  split
  · exact sound
  · next index entry found =>
      split
      · next waiting => exact sound.wake (find?_eq_some_iff.mp found).2 waiting
      · exact sound

theorem requeue (sound : roster.Sound) (task : TaskHandle) :
    (roster.requeue task).Sound := by
  unfold Roster.requeue
  split
  · exact sound
  · next index entry found =>
      split
      · next state =>
          split
          · exact sound
          · next off =>
              refine sound.enqueue ?_ fun queued => off (Or.inl queued)
              rw [state?_of_find? found, state]
      · exact sound

theorem suspend (sound : roster.Sound) {task : TaskHandle}
    (alive : roster.EachNamed task fun state => state.isDead = false) :
    (roster.suspend task).Sound := by
  unfold Roster.suspend
  split
  · exact sound
  · next index entry found =>
      refine sound.setEntry_remove index _ roster.live
        (fun _ asleep => nomatch asleep) ?_
      rw [isLive_eq (state?_of_find? found), alive index entry found]
      rfl

theorem sleep (sound : roster.Sound) {task : TaskHandle}
    (alive : roster.EachNamed task fun state => state.isDead = false)
    (deadline : Deadline) : (roster.sleep task deadline).Sound := by
  unfold Roster.sleep
  split
  · exact sound.suspend alive
  · next ever =>
      split
      · exact sound
      · next index entry found =>
          have state := roster.state?_setEntry_self index
            { entry with state := .timer deadline }
          refine sound.putToSleep
            (fun slot different => roster.state?_setEntry_of_ne _ different)
            state (by simpa using ever) rfl rfl ?_
          have before := isLive_eq (state?_of_find? found)
          rw [alive index entry found] at before
          have after := isLive_eq state
          exact congrArg (roster.live + ·)
            (congrArg Bool.toNat (before.trans after.symm))

/-- Where a task is live, the count is not zero. -/
theorem live_pos (sound : roster.Sound) {index : SlotIndex}
    (live : roster.isLive index = true) : 0 < roster.live := by
  rw [sound.live_eq]
  exact List.countP_pos_iff.mpr ⟨index, List.mem_finRange index, live⟩

theorem retire (sound : roster.Sound) {task : TaskHandle}
    (alive : roster.EachNamed task fun state => state.isDead = false)
    (exit : S.Exit) : (roster.retire task exit).2.Sound := by
  unfold Roster.retire
  split
  · exact sound
  · next index entry found =>
      have live : roster.isLive index = true := by
        rw [isLive_eq (state?_of_find? found), alive index entry found]
        rfl
      have positive := sound.live_pos live
      refine sound.setEntry_remove index _ (roster.live - 1)
        (fun _ asleep => nomatch asleep) ?_
      rw [live]
      change roster.live - 1 + 1 = roster.live + 0
      omega

theorem addJoiner (sound : roster.Sound) (task joiner : TaskHandle) :
    (roster.addJoiner task joiner).2.Sound := by
  unfold Roster.addJoiner
  split
  · exact sound
  · next index entry found =>
      split
      · exact sound
      · next added joiners _ =>
          refine sound.congr (fun slot => ?_) rfl rfl rfl
          by_cases same : slot = index
          · subst same
            rw [state?_setEntry_self, state?_of_find? found]
          · exact roster.state?_setEntry_of_ne _ same

theorem forgetJoiner (sound : roster.Sound) (task : TaskHandle) :
    (roster.forgetJoiner task).Sound :=
  sound.congr (state?_forgetJoiner roster task) rfl rfl rfl

/-- A slot without a live task is emptied. -/
theorem free (sound : roster.Sound) {index : SlotIndex}
    (gone : roster.isLive index = false) : (roster.free index).Sound := by
  have after := roster.state?_free_self index
  have notRun : index ∉ roster.run := by
    intro inside
    rw [isLive_eq (sound.active inside)] at gone
    cases gone
  have notTimers : index ∉ roster.timers := by
    intro inside
    obtain ⟨deadline, state⟩ := sound.mem_timers_iff.mp inside
    rw [isLive_eq state] at gone
    cases gone
  refine sound.takeOff
    (fun slot different => roster.state?_free_of_ne different)
    (fun deadline asleep => ?_) (List.erase_of_not_mem notRun).symm
    (List.erase_of_not_mem notTimers).symm ?_
  · have clash := after.symm.trans asleep
    cases clash
  · rw [gone, isLive_of_none after]
    rfl

theorem reap (sound : roster.Sound) (task : TaskHandle) :
    (roster.reap task).2.Sound := by
  unfold Roster.reap
  split
  · exact sound
  · next index entry found =>
      split
      · next exit state =>
          refine sound.free ?_
          rw [isLive_eq (state?_of_find? found), state]
          rfl
      · exact sound

end Sound

/-! ### Dropping a task that was just started -/

/-- A task that dies as soon as it is started, and is reaped, leaves nothing
behind but the next generation of its slot. -/
theorem Sound.discard (sound : roster.Sound) {body : S.Body}
    {name : Option String} {task : TaskHandle} (exit : S.Exit)
    (started : (roster.insert body name).1 = .ok task) :
    (roster.insert body name).2.EachNamed task (·.isDead = false) ∧
      ∃ index, roster.handleAt index = task ∧ roster.entry index = none ∧
        (((roster.insert body name).2.retire task exit).2.reap task) =
          (.ok (some exit), roster.free index) := by
  obtain ⟨index, entry, vacant, fits, fresh, filled⟩ :=
    exists_of_insert started
  have empty : roster.state? index = none := by
    unfold state?
    rw [vacant]
    rfl
  have notRun : index ∉ roster.run := sound.notMem_run (by simp [empty])
  have notTimers : index ∉ roster.timers :=
    sound.notMem_timers (by simp [empty])
  have found : (roster.seat index entry).find? task = some (index, entry) :=
    find?_eq_some_iff.mpr ⟨fits, entry_seat_self ..⟩
  have foundDead : ((roster.seat index entry).bury index entry exit).find?
      task = some (index, _) :=
    find?_eq_some_iff.mpr ⟨fits, entry_bury_self ..⟩
  rw [filled]
  constructor
  · intro other named foundToo
    have same := found.symm.trans foundToo
    cases same
    rw [fresh]
    rfl
  · refine ⟨index, fits, vacant, ?_⟩
    rw [retire_of_find? exit found, reap_of_find? foundDead rfl]
    refine congrArg (Prod.mk _) (Roster.ext rfl ?_ ?_ ?_ ?_)
    · exact (Function.update_idem ..).trans (Function.update_idem ..)
    · change (roster.run ++ [index]).erase index = roster.run
      rw [List.erase_append_right _ notRun, List.erase_cons_head,
        List.append_nil]
    · exact List.erase_of_not_mem notTimers
    · exact Nat.add_sub_cancel roster.live 1

/-! ### Expired timers -/

/-- If the first sleeper is not due, none is. -/
theorem promoteExpired_of_not_reached {now : Tick}
    (sound : roster.Sound) {index : SlotIndex} {rest : List SlotIndex}
    (timers : roster.timers = index :: rest)
    (early : (roster.due index).reached now = false) :
    roster.promoteExpired now = (0, roster) := by
  have sorted := sound.sorted
  rw [timers] at sorted
  have first := (List.pairwise_cons.mp sorted).1
  obtain ⟨deadline, state⟩ :=
    sound.mem_timers_iff.mp (timers ▸ List.mem_cons_self)
  have ever : (roster.due index).isNever = false := by
    rw [due_eq state]
    exact sound.not_never state
  have none : ∀ slot ∈ roster.timers, (roster.due slot).reached now = false := by
    intro slot inside
    rw [timers] at inside
    rcases List.mem_cons.mp inside with rfl | later
    · exact early
    · by_contra passed
      rw [Bool.not_eq_false] at passed
      have passedToo := Deadline.reached_of_le (first slot later) ever passed
      rw [early] at passedToo
      cases passedToo
  have nothing : (roster.timers.filter fun slot =>
      (roster.due slot).reached now) = [] :=
    List.filter_eq_nil_iff.mpr fun slot inside => by
      rw [none slot inside]
      exact Bool.false_ne_true
  have everything : (roster.timers.filter fun slot =>
      ¬ (roster.due slot).reached now) = roster.timers :=
    List.filter_eq_self.mpr fun slot inside => by
      rw [none slot inside]
      rfl
  unfold promoteExpired
  rw [everything, nothing]
  simp

/-- The first sleeper, if it is due, is woken before the others. -/
theorem promoteExpired_of_reached {now : Tick}
    (sound : roster.Sound) {index : SlotIndex} {rest : List SlotIndex}
    {entry : TaskEntry S} (timers : roster.timers = index :: rest)
    (present : roster.entry index = some entry)
    (passed : (roster.due index).reached now = true) :
    roster.promoteExpired now =
      (((roster.wake index entry).promoteExpired now).1 + 1,
        ((roster.wake index entry).promoteExpired now).2) := by
  have distinct := sound.timers_nodup
  rw [timers] at distinct
  have notRest : index ∉ rest := (List.nodup_cons.mp distinct).1
  have notRun : index ∉ roster.run := fun queued =>
    sound.disjoint queued (timers ▸ List.mem_cons_self)
  have wokenTimers : (roster.wake index entry).timers = rest := by
    change roster.timers.erase index = rest
    rw [timers, List.erase_cons_head]
  have wokenRun : (roster.wake index entry).run = roster.run ++ [index] := by
    change roster.run.erase index ++ [index] = _
    rw [List.erase_of_not_mem notRun]
  have due : ∀ slot ∈ rest,
      (roster.wake index entry).due slot = roster.due slot := fun slot inside =>
    due_congr (roster.state?_setEntry_of_ne _
      (ne_of_mem_of_not_mem inside notRest))
  -- The others are due as before, so the split into due and not yet due is the
  -- same after the first one was woken.
  have expired : (rest.filter fun slot =>
        ((roster.wake index entry).due slot).reached now) =
      rest.filter fun slot => (roster.due slot).reached now :=
    List.filter_congr fun slot inside => by rw [due slot inside]
  have kept : (rest.filter fun slot =>
        ¬ ((roster.wake index entry).due slot).reached now) =
      rest.filter fun slot => ¬ (roster.due slot).reached now :=
    List.filter_congr fun slot inside => by rw [due slot inside]
  have notExpired :
      index ∉ rest.filter fun slot => (roster.due slot).reached now :=
    fun inside => notRest (List.mem_filter.mp inside).1
  unfold promoteExpired
  rw [wokenTimers, wokenRun, expired, kept, timers]
  simp only [List.filter_cons, passed, if_true, not_true_eq_false, decide_false,
    Bool.false_eq_true, if_false, List.length_cons, List.append_assoc,
    List.singleton_append, Prod.mk.injEq, true_and]
  ext : 1
  · rfl
  · funext slot
    by_cases same : slot = index
    · subst same
      simp only [List.mem_cons, true_or, if_true, notExpired, if_false, present]
      exact (roster.entry_setEntry_self slot _).symm
    · simp only [List.mem_cons, same, false_or]
      rw [show (roster.wake index entry).entry slot = roster.entry slot from
        roster.entry_setEntry_of_ne _ same]
  · rfl
  · rfl
  · rfl

theorem promoteExpired_of_nil (now : Tick) (timers : roster.timers = []) :
    roster.promoteExpired now = (0, roster) := by
  unfold promoteExpired
  rw [timers]
  refine Prod.ext rfl (Roster.ext rfl ?_ ?_ timers.symm rfl)
  · funext slot
    simp only [List.filter_nil, List.not_mem_nil, if_false]
  · exact List.append_nil roster.run

theorem Sound.entry_of_mem_timers (sound : roster.Sound) {index : SlotIndex}
    (inside : index ∈ roster.timers) : ∃ entry deadline,
      roster.entry index = some entry ∧ entry.state = .timer deadline := by
  obtain ⟨deadline, state⟩ := sound.mem_timers_iff.mp inside
  obtain ⟨entry, present, same⟩ := Option.map_eq_some_iff.mp state
  exact ⟨entry, deadline, present, same⟩

theorem Sound.promoteExpired (sound : roster.Sound) (now : Tick) :
    (roster.promoteExpired now).2.Sound := by
  -- One sleeper after the other is woken; the list left over is the measure.
  generalize left : roster.timers = timers
  induction timers generalizing roster with
  | nil =>
      rw [promoteExpired_of_nil now left]
      exact sound
  | cons index rest ih =>
      cases passed : (roster.due index).reached now with
      | false =>
          rw [promoteExpired_of_not_reached sound left passed]
          exact sound
      | true =>
          obtain ⟨entry, deadline, present, asleep⟩ :=
            sound.entry_of_mem_timers (left ▸ List.mem_cons_self)
          rw [promoteExpired_of_reached sound left present passed]
          refine ih (sound.wake present (by rw [asleep]; rfl)) ?_
          change roster.timers.erase index = rest
          rw [left, List.erase_cons_head]

end Roster

end EventScheduler
