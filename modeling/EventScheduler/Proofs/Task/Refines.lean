import EventScheduler.Proofs.Task.Alive

/-!
# Operations on tables

A table that holds a sound roster does to its links what the operation of the
same name does to the lists of the roster.  None of the operations is a fault,
provided that only active tasks are suspended and only live ones are put to
sleep or retired.
-/

namespace EventScheduler

/-- What comes after something that is no fault. -/
theorem bind_of_ok {Error First Second : Type} {result : Except Error First}
    {value : First} (done : result = .ok value)
    (next : First → Except Error Second) : (result >>= next) = next value := by
  rw [done]
  rfl

/-- Reaping a task that is alive changes nothing. -/
theorem TaskTable.eq_of_reap_none {S : Signature} {table reaped : TaskTable S}
    {task : TaskHandle} (done : table.reap task = .ok (none, reaped)) :
    reaped = table := by
  unfold TaskTable.reap at done
  split at done
  · cases done
  · split at done <;> cases done
    rfl

namespace TaskTable.Holds

variable {S : Signature} {table : TaskTable S} {roster : Roster S}

/-! ### Reading a table -/

theorem hasRunnable (holds : table.Holds roster) :
    table.hasRunnable = !roster.run.isEmpty := by
  have head : table.runHead = roster.run.head? :=
    (holds.threaded.leads .run).first_eq
  unfold TaskTable.hasRunnable
  rw [head]
  cases roster.run <;> rfl

theorem nextDeadline (holds : table.Holds roster) (sound : roster.Sound) :
    table.nextDeadline = .ok (roster.timers.head?.map roster.due) := by
  have head : table.timerHead = roster.timers.head? :=
    (holds.threaded.leads .timer).first_eq
  unfold TaskTable.nextDeadline
  rw [head]
  cases timers : roster.timers with
  | nil => rfl
  | cons index rest =>
      obtain ⟨deadline, asleep⟩ :=
        sound.mem_timers_iff.mp (timers ▸ List.mem_cons_self)
      dsimp only [List.head?_cons]
      rw [holds.deadlineOf asleep]
      rfl

theorem mem_liveTasks_iff (holds : table.Holds roster) {task : TaskHandle} :
    task ∈ table.liveTasks ↔ roster.Alive task := by
  have live (index : SlotIndex) :
      table.isLiveAt index = roster.isLive index := by
    unfold isLiveAt Roster.isLive Roster.state?
    rw [show table.slots[index].entry = _ from holds.entry index]
    cases roster.entry index <;> rfl
  have handles (index : SlotIndex) :
      table.handleAt index = roster.handleAt index := holds.handleAt index
  unfold liveTasks
  rw [Roster.alive_iff]
  simp only [List.mem_map, List.mem_filter, List.mem_finRange, true_and, live,
    handles]
  exact exists_congr fun index => and_comm

/-! ### Changing a table -/

theorem insert (holds : table.Holds roster) (sound : roster.Sound)
    (body : S.Body) (name : Option String) :
    ∃ inserted, table.insert body name =
        .ok ((roster.insert body name).1.map fun task => (task, inserted)) ∧
      inserted.Holds (roster.insert body name).2 := by
  have vacancies : (fun index : SlotIndex =>
      table.slots[index].entry.isNone) =
      fun index => (roster.entry index).isNone :=
    funext fun index => congrArg Option.isNone (holds.entry index)
  unfold TaskTable.insert Roster.insert
  rw [vacancies]
  cases found : (List.finRange maxTasks).find? fun index =>
      (roster.entry index).isNone with
  | none => exact ⟨table, rfl, holds⟩
  | some index =>
      have vacant := Roster.state?_of_vacant found
      have notRun : index ∉ roster.run := sound.notMem_run (by simp [vacant])
      have notTimers : index ∉ roster.timers :=
        sound.notMem_timers (by simp [vacant])
      have filled := (holds.setEntry index
        { state := .active, body := some body, joiners := .none, name }).setLive
          (table.live + 1)
      obtain ⟨pushed, done, pushedHolds⟩ := filled.pushRun notRun notTimers
      rw [holds.live] at pushedHolds
      refine ⟨pushed, ?_, pushedHolds⟩
      refine (bind_of_ok done _).trans ?_
      exact congrArg (fun task => Except.ok (Except.ok (task, pushed)))
        (pushedHolds.handleAt index)

theorem popRunnable (holds : table.Holds roster) (sound : roster.Sound) :
    ∃ popped, table.popRunnable = .ok (roster.popRunnable.1, popped) ∧
      popped.Holds roster.popRunnable.2 := by
  unfold TaskTable.popRunnable Roster.popRunnable
  rw [holds.threaded.linked_eq]
  change ∃ popped, table.popFrom roster.run = _ ∧ _
  split
  · next queue =>
      rw [queue]
      exact ⟨table, rfl, holds⟩
  · next index rest queue =>
      rw [queue]
      have active := sound.active (queue ▸ List.mem_cons_self)
      obtain ⟨unlinked, done, unlinkedHolds⟩ := holds.unlink index
      have removed : roster.remove index = { roster with run := rest } := by
        unfold Roster.remove
        rw [queue, List.erase_cons_head,
          List.erase_of_not_mem (sound.disjoint (queue ▸ List.mem_cons_self))]
      rw [removed] at unlinkedHolds
      refine ⟨unlinked, ?_, unlinkedHolds⟩
      have state : unlinked.slots[index].entry.map TaskEntry.state =
          some .active :=
        (unlinkedHolds.state_map index).trans active
      unfold popFrom
      rw [done]
      simp only [bind, Except.bind, state]
      exact congrArg (fun task => Except.ok (some task, unlinked))
        (unlinkedHolds.handleAt index)

/-- A slot is taken off its list and appended to the run queue. -/
private theorem unlink_pushRun (holds : table.Holds roster)
    (runNodup : roster.run.Nodup) (timersNodup : roster.timers.Nodup)
    (index : SlotIndex) :
    ∃ unlinked pushed, table.unlink index = .ok unlinked ∧
      unlinked.pushRun index = .ok pushed ∧
      unlinked.Holds (roster.remove index) ∧
      pushed.Holds ((roster.remove index).enqueue index) := by
  obtain ⟨unlinked, unlinkDone, unlinkedHolds⟩ := holds.unlink index
  obtain ⟨pushed, pushDone, pushedHolds⟩ := unlinkedHolds.pushRun
    runNodup.not_mem_erase timersNodup.not_mem_erase
  exact ⟨unlinked, pushed, unlinkDone, pushDone, unlinkedHolds, pushedHolds⟩

theorem activate (holds : table.Holds roster) (sound : roster.Sound)
    (task : TaskHandle) :
    ∃ activated, table.activate task =
        .ok ((roster.activate task).1, activated) ∧
      activated.Holds (roster.activate task).2 := by
  unfold TaskTable.activate Roster.activate
  rw [holds.find?]
  cases found : roster.find? task with
  | none => exact ⟨table, rfl, holds⟩
  | some named =>
      obtain ⟨index, entry⟩ := named
      cases waiting : entry.state.isWaiting with
      | false =>
          refine ⟨table, ?_, ?_⟩ <;> simp only [waiting, Bool.false_eq_true,
            if_false]
          exact holds
      | true =>
          obtain ⟨unlinked, pushed, unlinkDone, pushDone, -, pushedHolds⟩ :=
            (holds.setEntry index
              { entry with state := .active }).unlink_pushRun
                sound.run_nodup sound.timers_nodup index
          refine ⟨pushed, ?_, ?_⟩ <;> simp only [waiting, if_true]
          · exact (bind_of_ok unlinkDone _).trans (bind_of_ok pushDone _)
          · exact pushedHolds

theorem requeue (holds : table.Holds roster) {task : TaskHandle}
    (inRange : task.index < maxTasks) :
    ∃ requeued, table.requeue task = .ok requeued ∧
      requeued.Holds (roster.requeue task) := by
  unfold TaskTable.requeue Roster.requeue TaskTable.state TaskTable.entry
  rw [dif_pos inRange, holds.find?]
  cases found : roster.find? task with
  | none =>
      refine ⟨table, ?_, holds⟩
      simp only [Except.map]
      split
      · next known => cases known
      · rfl
  | some named =>
      obtain ⟨index, entry⟩ := named
      have same : (⟨task.index, inRange⟩ : SlotIndex) = index :=
        Fin.ext (congrArg TaskHandle.index
          (Roster.find?_eq_some_iff.mp found).1).symm
      simp only [same, Except.map]
      cases state : entry.state with
      | active =>
          cases marked : table.slots[index].list with
          | none =>
              have off := (holds.threaded.list_eq_none_iff index).mp marked
              have notRun : index ∉ roster.run := off .run
              have notTimers : index ∉ roster.timers := off .timer
              simp only [notRun, notTimers, or_self, if_false]
              exact holds.pushRun notRun notTimers
          | some list =>
              have on := (holds.threaded.mem_iff list index).mpr marked
              have somewhere : index ∈ roster.run ∨ index ∈ roster.timers := by
                cases list with
                | run => exact Or.inl on
                | timer => exact Or.inr on
              refine ⟨table, rfl, ?_⟩
              simp only [somewhere, if_true]
              exact holds
      | suspended =>
          refine ⟨table, ?_, holds⟩
          cases marked : table.slots[index].list <;> rfl
      | timer deadline =>
          refine ⟨table, ?_, holds⟩
          cases marked : table.slots[index].list <;> rfl
      | dead exit =>
          refine ⟨table, ?_, holds⟩
          cases marked : table.slots[index].list <;> rfl

theorem suspend (holds : table.Holds roster) {task : TaskHandle}
    (active : roster.EachNamed task (· = .active)) :
    ∃ suspended, table.suspend task = .ok suspended ∧
      suspended.Holds (roster.suspend task) := by
  unfold TaskTable.suspend Roster.suspend
  rw [holds.find?]
  cases found : roster.find? task with
  | none => exact ⟨table, rfl, holds⟩
  | some named =>
      obtain ⟨index, entry⟩ := named
      have state : entry.state = .active := active index entry found
      obtain ⟨unlinked, done, unlinkedHolds⟩ :=
        (holds.setEntry index { entry with state := .suspended }).unlink index
      refine ⟨unlinked, ?_, unlinkedHolds⟩
      simp only [state]
      exact done

/-- Only an active task can be suspended. -/
theorem active_of_suspend (holds : table.Holds roster) {task : TaskHandle}
    {suspended : TaskTable S} (done : table.suspend task = .ok suspended) :
    roster.EachNamed task (· = .active) := by
  intro index entry found
  unfold TaskTable.suspend at done
  rw [holds.find?, found] at done
  cases state : entry.state with
  | active => rfl
  | suspended | timer | dead =>
      simp only [state] at done
      cases done

theorem sleep (holds : table.Holds roster) (sound : roster.Sound)
    {task : TaskHandle} {deadline : Deadline}
    (active : deadline.isNever = true → roster.EachNamed task (· = .active)) :
    ∃ asleep, table.sleep task deadline = .ok asleep ∧
      asleep.Holds (roster.sleep task deadline) := by
  unfold TaskTable.sleep Roster.sleep
  cases never : deadline.isNever with
  | true =>
      simp only [if_true]
      exact holds.suspend (active never)
  | false =>
      simp only [Bool.false_eq_true, if_false]
      rw [holds.find?]
      cases found : roster.find? task with
      | none => exact ⟨table, rfl, holds⟩
      | some named =>
          obtain ⟨index, entry⟩ := named
          have due : (roster.setEntry index
              { entry with state := .timer deadline }).due index = deadline :=
            Roster.due_eq (roster.state?_setEntry_self index _)
          obtain ⟨unlinked, unlinkDone, unlinkedHolds⟩ := (holds.setEntry index
            { entry with state := .timer deadline }).unlink index
          obtain ⟨inserted, insertDone, insertedHolds⟩ :=
            unlinkedHolds.insertTimer sound.run_nodup.not_mem_erase
              sound.timers_nodup.not_mem_erase (by
                intro slot inside
                have kept := sound.timers_nodup.mem_erase_iff.mp inside
                obtain ⟨until_, state⟩ := sound.mem_timers_iff.mp kept.2
                exact ⟨until_,
                  (roster.state?_setEntry_of_ne _ kept.1).trans state⟩)
          refine ⟨inserted, (bind_of_ok unlinkDone _).trans ?_, insertedHolds⟩
          rw [← due]
          exact insertDone

theorem retire (holds : table.Holds roster) (sound : roster.Sound)
    {task : TaskHandle}
    (alive : roster.EachNamed task fun state => state.isDead = false)
    (exit : S.Exit) :
    ∃ retired, table.retire task exit =
        .ok ((roster.retire task exit).1, retired) ∧
      retired.Holds (roster.retire task exit).2 := by
  unfold TaskTable.retire Roster.retire
  rw [holds.find?]
  cases found : roster.find? task with
  | none => exact ⟨table, rfl, holds⟩
  | some named =>
      obtain ⟨index, entry⟩ := named
      have notDead : entry.state.isDead = false := alive index entry found
      have positive : table.live ≠ 0 := by
        rw [holds.live]
        exact (sound.live_pos (by
          rw [Roster.isLive_eq (Roster.state?_of_find? found), notDead]
          rfl)).ne'
      obtain ⟨unlinked, done, unlinkedHolds⟩ := ((holds.setEntry index
        { entry with
          state := .dead exit, body := none, joiners := .none }).setLive
            (table.live - 1)).unlink index
      rw [holds.live] at unlinkedHolds
      refine ⟨unlinked, ?_, unlinkedHolds⟩
      simp only [notDead, Bool.false_eq_true, if_false, positive]
      exact bind_of_ok done _

theorem addJoiner (holds : table.Holds roster) (task joiner : TaskHandle) :
    ∃ joined, table.addJoiner task joiner =
        (roster.addJoiner task joiner).1.map (fun added => (added, joined)) ∧
      joined.Holds (roster.addJoiner task joiner).2 := by
  unfold TaskTable.addJoiner Roster.addJoiner
  rw [holds.find?]
  cases found : roster.find? task with
  | none => exact ⟨table, rfl, holds⟩
  | some named =>
      obtain ⟨index, entry⟩ := named
      cases inserted : entry.joiners.insert joiner with
      | error refusal =>
          refine ⟨table, ?_, ?_⟩ <;> simp only [inserted]
          · rfl
          · exact holds
      | ok result =>
          refine ⟨table.setEntry index { entry with joiners := result.2 },
            ?_, ?_⟩ <;> simp only [inserted]
          · rfl
          · exact holds.setEntry index _

theorem forgetJoiner (holds : table.Holds roster) (task : TaskHandle) :
    (table.forgetJoiner task).Holds (roster.forgetJoiner task) := by
  have slots : ∀ index, (table.forgetJoiner task).slot index =
      { table.slot index with
        entry := (table.slot index).entry.map fun entry =>
          { entry with joiners := (entry.joiners.remove task).2 } } :=
    fun index => Vector.getElem_map ..
  exact {
    threaded := holds.threaded.congr (fun list => by cases list <;> rfl) rfl
      (fun index => by rw [slots]) (fun index => by rw [slots])
    generation := fun index => by
      rw [slots]
      exact holds.generation index
    entry := fun index => by
      rw [slots]
      exact congrArg (Option.map _) (holds.entry index)
    live := holds.live }

/-- A slot is emptied, and no handle issued for it fits any more. -/
theorem free (holds : table.Holds roster) (index : SlotIndex) :
    (table.modify index fun slot =>
      { slot with generation := slot.generation + 1, entry := none }).Holds
        (roster.free index) where
  threaded := holds.threaded.congr (head_modify table index _) rfl
    (fun other => by rw [slot_modify]; split <;> rfl)
    (fun other => by rw [slot_modify]; split <;> rfl)
  generation other := by
    rw [slot_modify]
    by_cases same : other = index
    · subst same
      rw [if_pos rfl]
      exact (congrArg (· + 1) (holds.generation other)).trans
        (Function.update_self other _ roster.generation).symm
    · rw [if_neg same, holds.generation]
      exact (Function.update_of_ne same _ roster.generation).symm
  entry other := by
    rw [slot_modify]
    by_cases same : other = index
    · subst same
      rw [if_pos rfl]
      exact (Function.update_self other none roster.entry).symm
    · rw [if_neg same, holds.entry]
      exact (Function.update_of_ne same none roster.entry).symm
  live := holds.live

theorem reap (holds : table.Holds roster) (task : TaskHandle) :
    ∃ reaped, table.reap task =
        (roster.reap task).1.map (fun exit => (exit, reaped)) ∧
      reaped.Holds (roster.reap task).2 := by
  unfold TaskTable.reap Roster.reap
  rw [holds.find?]
  cases found : roster.find? task with
  | none => exact ⟨table, rfl, holds⟩
  | some named =>
      obtain ⟨index, entry⟩ := named
      cases state : entry.state with
      | dead exit =>
          refine ⟨table.modify index fun slot =>
            { slot with generation := slot.generation + 1, entry := none },
            ?_, ?_⟩ <;> simp only [state]
          · rfl
          · exact holds.free index
      | active | suspended | timer =>
          refine ⟨table, ?_, ?_⟩ <;> simp only [state]
          · rfl
          · exact holds

/-- One expired slot is moved: it is unlinked, its task becomes active, and it
is appended to the run queue. -/
private theorem wakeFirst (holds : table.Holds roster) (sound : roster.Sound)
    {index : SlotIndex} {entry : TaskEntry S}
    (present : roster.entry index = some entry) :
    ∃ unlinked woken, table.unlink index = .ok unlinked ∧
      (unlinked.modify index fun slot => { slot with
        entry := slot.entry.map fun entry =>
          { entry with state := .active } }).pushRun index = .ok woken ∧
      woken.Holds (roster.wake index entry) := by
  obtain ⟨unlinked, unlinkDone, unlinkedHolds⟩ := holds.unlink index
  have change : (unlinked.modify index fun slot => { slot with
      entry := slot.entry.map fun entry =>
        { entry with state := .active } }) =
      unlinked.setEntry index { entry with state := .active } := by
    have known : unlinked.slots[index].entry = some entry :=
      (unlinkedHolds.entry index).trans present
    unfold TaskTable.setEntry modify
    simp only [known]
    rfl
  obtain ⟨woken, pushDone, wokenHolds⟩ :=
    (unlinkedHolds.setEntry index { entry with state := .active }).pushRun
      sound.run_nodup.not_mem_erase sound.timers_nodup.not_mem_erase
  exact ⟨unlinked, woken, unlinkDone, change ▸ pushDone, wokenHolds⟩

theorem promoteExpired (holds : table.Holds roster) (sound : roster.Sound)
    (now : Tick) :
    ∃ promoted, table.promoteExpired now =
        .ok ((roster.promoteExpired now).1, promoted) ∧
      promoted.Holds (roster.promoteExpired now).2 := by
  unfold TaskTable.promoteExpired
  rw [holds.threaded.linked_eq]
  change ∃ promoted, table.promoteFrom now roster.timers = _ ∧ _
  -- The table works along the timer list; the roster filters it.
  generalize left : roster.timers = timers
  induction timers generalizing table roster with
  | nil =>
      rw [Roster.promoteExpired_of_nil now left]
      exact ⟨table, rfl, holds⟩
  | cons index rest ih =>
      obtain ⟨entry, deadline, present, asleep⟩ :=
        sound.entry_of_mem_timers (left ▸ List.mem_cons_self)
      have state : roster.state? index = some (.timer deadline) := by
        rw [Roster.state?_of_entry present, asleep]
      have known := holds.deadlineOf state
      unfold promoteFrom
      rw [bind_of_ok known]
      cases passed : (roster.due index).reached now with
      | false =>
          rw [Roster.promoteExpired_of_not_reached sound left passed]
          exact ⟨table, rfl, holds⟩
      | true =>
          obtain ⟨unlinked, woken, unlinkDone, pushDone, wokenHolds⟩ :=
            holds.wakeFirst sound present
          have remaining : (roster.wake index entry).timers = rest := by
            change roster.timers.erase index = rest
            rw [left, List.erase_cons_head]
          obtain ⟨promoted, done, promotedHolds⟩ := ih wokenHolds
            (sound.wake present (by rw [asleep]; rfl)) remaining
          rw [Roster.promoteExpired_of_reached sound left present passed]
          refine ⟨promoted, ?_, promotedHolds⟩
          rw [if_pos rfl, bind_of_ok unlinkDone, bind_of_ok pushDone,
            bind_of_ok done]
          rfl

theorem update (holds : table.Holds roster) (task : TaskHandle)
    (change : TaskEntry S → TaskEntry S) :
    (table.update task change).Holds (roster.update task change) := by
  unfold TaskTable.update Roster.update
  rw [holds.find?]
  cases found : roster.find? task with
  | none => exact holds
  | some named => exact holds.setEntry named.1 (change named.2)

theorem empty : (TaskTable.empty : TaskTable S).Holds .empty where
  threaded := {
    leads := fun list => by cases list <;> rfl
    mem_iff := fun list index => by
      have unmarked :
          ((TaskTable.empty : TaskTable S).slot index).list = none := by
        simp [TaskTable.slot, TaskTable.empty]
      rw [unmarked]
      cases list <;> simp [Roster.lists, Roster.empty]
    tail := rfl
    next_eq_none := fun index _ => by
      simp [TaskTable.slot, TaskTable.empty] }
  generation index := by simp [TaskTable.slot, TaskTable.empty, Roster.empty]
  entry index := by simp [TaskTable.slot, TaskTable.empty, Roster.empty]
  live := rfl

end TaskTable.Holds

end EventScheduler
