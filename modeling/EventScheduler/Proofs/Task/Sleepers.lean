import EventScheduler.Proofs.Task.Operations

/-!
# The order of sleeping tasks

Tasks that sleep until the same time are told apart by when they were put to
sleep.  Everything but putting a task to sleep only takes sleepers off the timer
list; a task that is put to sleep comes behind all that sleep until then.
-/

namespace EventScheduler.Roster

variable {S : Signature} {roster other third : Roster S}
  {since : SlotIndex → Nat} {count : Nat}

/-- Tasks that are due at the same time sleep in the order in which they were
put to sleep, all of them by one of the first `count` operations. -/
structure InOrder (roster : Roster S) (since : SlotIndex → Nat)
    (count : Nat) : Prop where
  pairwise : roster.timers.Pairwise fun first second =>
    roster.due first = roster.due second → since first < since second
  past {index : SlotIndex} : index ∈ roster.timers → since index < count

structure Thins (roster other : Roster S) : Prop where
  sublist : other.timers.Sublist roster.timers
  due {index : SlotIndex} :
    index ∈ other.timers → other.due index = roster.due index
  generation {index : SlotIndex} : index ∈ other.timers →
    other.generation index = roster.generation index

theorem InOrder.later {countToo : Nat} (order : roster.InOrder since count)
    (later : count ≤ countToo) : roster.InOrder since countToo :=
  ⟨order.pairwise, fun inside => Nat.lt_of_lt_of_le (order.past inside) later⟩

theorem InOrder.thin (order : roster.InOrder since count)
    (thins : roster.Thins other) : other.InOrder since count where
  pairwise := by
    refine (order.pairwise.sublist thins.sublist).imp_of_mem ?_
    intro first second firstInside secondInside later same
    apply later
    rw [← thins.due firstInside, ← thins.due secondInside, same]
  past inside := order.past (thins.sublist.subset inside)

theorem InOrder.congr {sinceToo : SlotIndex → Nat}
    (order : roster.InOrder since count)
    (same : ∀ index ∈ roster.timers, sinceToo index = since index) :
    roster.InOrder sinceToo count where
  pairwise := by
    refine order.pairwise.imp_of_mem ?_
    intro first second firstInside secondInside later
    rwa [same first firstInside, same second secondInside]
  past {index} inside := by
    rw [same index inside]
    exact order.past inside

/-! ### Operations that put nobody to sleep -/

theorem Thins.refl (roster : Roster S) : roster.Thins roster where
  sublist := List.Sublist.refl _
  due _ := rfl
  generation _ := rfl

theorem Thins.trans (before : roster.Thins other) (after : other.Thins third) :
    roster.Thins third where
  sublist := after.sublist.trans before.sublist
  due inside :=
    (after.due inside).trans (before.due (after.sublist.subset inside))
  generation inside := (after.generation inside).trans
    (before.generation (after.sublist.subset inside))

/-- One slot is taken off its list, if it is on one, and changes. -/
theorem Thins.of_change {index : SlotIndex} (sound : roster.Sound)
    (timers : other.timers = roster.timers.erase index)
    (states : ∀ slot, slot ≠ index →
      other.state? slot = roster.state? slot)
    (generation : ∀ slot, slot ≠ index →
      other.generation slot = roster.generation slot) :
    roster.Thins other where
  sublist := timers ▸ List.erase_sublist
  due {slot} inside := by
    rw [timers, sound.timers_nodup.mem_erase_iff] at inside
    exact due_congr (states slot inside.1)
  generation {slot} inside := by
    rw [timers, sound.timers_nodup.mem_erase_iff] at inside
    exact generation slot inside.1

/-- Nothing that matters to the timer list changes. -/
theorem Thins.of_eq (timers : other.timers = roster.timers)
    (states : ∀ slot, other.state? slot = roster.state? slot)
    (generation : other.generation = roster.generation) :
    roster.Thins other where
  sublist := timers ▸ List.Sublist.refl _
  due {slot} _ := due_congr (states slot)
  generation {slot} _ := congrFun generation slot

theorem wake_thins (sound : roster.Sound) (index : SlotIndex)
    (entry : TaskEntry S) : roster.Thins (roster.wake index entry) :=
  .of_change sound rfl
    (fun _ different => roster.state?_setEntry_of_ne _ different) fun _ _ => rfl

theorem activate_thins (sound : roster.Sound) (task : TaskHandle) :
    roster.Thins (roster.activate task).2 := by
  unfold Roster.activate
  split
  · exact .refl roster
  · split
    · exact wake_thins sound _ _
    · exact .refl roster

theorem suspend_thins (sound : roster.Sound) (task : TaskHandle) :
    roster.Thins (roster.suspend task) := by
  unfold suspend
  split
  · exact .refl roster
  · exact .of_change sound rfl
      (fun _ different => roster.state?_setEntry_of_ne _ different)
      fun _ _ => rfl

theorem retire_thins (sound : roster.Sound) (task : TaskHandle)
    (exit : S.Exit) : roster.Thins (roster.retire task exit).2 := by
  unfold Roster.retire
  split
  · exact .refl roster
  · exact .of_change sound rfl
      (fun _ different => roster.state?_bury_of_ne _ exit different)
      fun _ _ => rfl

theorem promoteExpired_thins (roster : Roster S) (now : Tick) :
    roster.Thins (roster.promoteExpired now).2 where
  sublist := List.filter_sublist
  due := by
    intro slot inside
    have early := (List.mem_filter.mp inside).2
    have kept : slot ∉ roster.timers.filter fun index =>
        (roster.due index).reached now := by
      intro expired
      have passed := (List.mem_filter.mp expired).2
      simp [passed] at early
    apply due_congr
    unfold state? promoteExpired
    simp only [kept, if_false]
  generation _ := rfl

theorem insert_thins (sound : roster.Sound) (body : S.Body)
    (name : Option String) : roster.Thins (roster.insert body name).2 := by
  unfold Roster.insert
  split
  · exact .refl roster
  · next index found =>
      have vacant := state?_of_vacant found
      have off : index ∉ roster.timers :=
        sound.notMem_timers (by simp [vacant])
      exact .of_change sound (List.erase_of_not_mem off).symm
        (fun _ different => roster.state?_seat_of_ne _ different)
        fun _ _ => rfl

theorem popRunnable_thins (roster : Roster S) :
    roster.Thins roster.popRunnable.2 := by
  unfold Roster.popRunnable
  split
  · exact .refl roster
  · exact .of_eq rfl (fun _ => rfl) rfl

theorem requeue_thins (roster : Roster S) (task : TaskHandle) :
    roster.Thins (roster.requeue task) := by
  unfold Roster.requeue
  split
  · exact .refl roster
  · split
    · split
      · exact .refl roster
      · exact .of_eq rfl (fun _ => rfl) rfl
    · exact .refl roster

/-- A slot that is freed does not sleep. -/
theorem free_thins (sound : roster.Sound) {index : SlotIndex}
    (gone : roster.isLive index = false) : roster.Thins (roster.free index) := by
  have off : index ∉ roster.timers := by
    refine sound.notMem_timers fun deadline asleep => ?_
    rw [isLive_eq asleep] at gone
    cases gone
  exact .of_change sound (List.erase_of_not_mem off).symm
    (fun _ different => roster.state?_free_of_ne different)
    fun _ different => Function.update_of_ne different ..

theorem reap_thins (sound : roster.Sound) (task : TaskHandle) :
    roster.Thins (roster.reap task).2 := by
  unfold Roster.reap
  split
  · exact .refl roster
  · next index entry found =>
      split
      · next exit state =>
          refine free_thins sound ?_
          rw [isLive_eq (state?_of_find? found), state]
          rfl
      · exact .refl roster

theorem addJoiner_thins (roster : Roster S) (task joiner : TaskHandle) :
    roster.Thins (roster.addJoiner task joiner).2 := by
  unfold Roster.addJoiner
  split
  · exact .refl roster
  · next index entry found =>
      split
      · exact .refl roster
      · refine .of_eq rfl (fun slot => ?_) rfl
        by_cases same : slot = index
        · subst same
          rw [state?_setEntry_self, state?_of_find? found]
        · exact roster.state?_setEntry_of_ne _ same

theorem forgetJoiner_thins (roster : Roster S) (task : TaskHandle) :
    roster.Thins (roster.forgetJoiner task) :=
  .of_eq rfl (state?_forgetJoiner roster task) rfl

theorem update_thins (roster : Roster S) (task : TaskHandle)
    {change : TaskEntry S → TaskEntry S}
    (keeps : ∀ entry, (change entry).state = entry.state) :
    roster.Thins (roster.update task change) := by
  refine .of_eq ?_ (state?_update roster task keeps) ?_ <;>
    unfold Roster.update <;> split <;> rfl

/-! ### Putting a task to sleep -/

/-- A task that is put to sleep comes behind all that sleep until then. -/
private theorem pairwise_orderedInsert {due : SlotIndex → Deadline}
    {slots : List SlotIndex} {index : SlotIndex}
    (sorted : slots.Pairwise fun first second => due first ≤ due second)
    (order : slots.Pairwise fun first second =>
      due first = due second → since first < since second)
    (past : ∀ slot ∈ slots, since slot < since index) :
    (slots.orderedInsert (fun first second => due first < due second)
      index).Pairwise fun first second =>
        due first = due second → since first < since second := by
  induction slots with
  | nil => exact List.pairwise_singleton _ index
  | cons slot rest ih =>
      obtain ⟨slotFirst, restSorted⟩ := List.pairwise_cons.mp sorted
      obtain ⟨slotOrder, restOrder⟩ := List.pairwise_cons.mp order
      rw [List.orderedInsert_cons]
      split
      · next earlier =>
          refine List.pairwise_cons.mpr ⟨fun later inside same => ?_, order⟩
          -- Everything from here on is due later, so nothing is due then.
          have behind : due slot ≤ due later := by
            rcases List.mem_cons.mp inside with rfl | inRest
            · exact Deadline.le_refl _
            · exact slotFirst later inRest
          rw [← same] at behind
          exact absurd earlier (Deadline.not_lt.mpr behind)
      · refine List.pairwise_cons.mpr ⟨fun later inside same => ?_, ?_⟩
        · rcases (List.mem_orderedInsert _).mp inside with rfl | inRest
          · exact past slot List.mem_cons_self
          · exact slotOrder later inRest same
        · exact ih restSorted restOrder fun later inside =>
            past later (List.mem_cons_of_mem slot inside)

theorem sleep_generation (roster : Roster S) (task : TaskHandle)
    (deadline : Deadline) :
    (roster.sleep task deadline).generation = roster.generation := by
  unfold Roster.sleep Roster.suspend
  split
  · split <;> rfl
  · split <;> rfl

/-- A task that is put to sleep by operation number `count` comes behind all
that sleep until then. -/
theorem InOrder.sleep (order : roster.InOrder since count)
    (sound : roster.Sound) {task : TaskHandle} {deadline : Deadline}
    {index : SlotIndex} {entry : TaskEntry S} {sinceToo : SlotIndex → Nat}
    (ever : deadline.isNever = false)
    (found : roster.find? task = some (index, entry))
    (elsewhere : ∀ slot ∈ roster.timers, slot ≠ index →
      sinceToo slot = since slot) (newest : sinceToo index = count) :
    (roster.sleep task deadline).InOrder sinceToo (count + 1) := by
  let asleep := (roster.setEntry index
    { entry with state := .timer deadline }).remove index
  have same : roster.sleep task deadline = asleep.schedule index := by
    unfold Roster.sleep
    simp only [ever, found, Bool.false_eq_true, if_false]
    rfl
  have thins : roster.Thins asleep :=
    .of_change sound rfl (fun slot different =>
      roster.state?_setEntry_of_ne _ different) fun _ _ => rfl
  have absent : index ∉ asleep.timers := sound.timers_nodup.not_mem_erase
  have thinned := (order.thin thins).congr fun slot inside =>
    elsewhere slot (thins.sublist.subset inside)
      (ne_of_mem_of_not_mem inside absent)
  have sorted : asleep.timers.Pairwise fun first second =>
      asleep.due first ≤ asleep.due second := by
    refine (sound.sorted.sublist thins.sublist).imp_of_mem ?_
    intro first second firstInside secondInside ordered
    rwa [thins.due firstInside, thins.due secondInside]
  rw [same]
  constructor
  · refine pairwise_orderedInsert sorted thinned.pairwise fun slot inside => ?_
    rw [newest]
    exact thinned.past inside
  · intro slot inside
    rcases (List.mem_orderedInsert _).mp inside with rfl | sleeping
    · rw [newest]
      exact Nat.lt_succ_self count
    · exact Nat.lt_succ_of_lt (thinned.past sleeping)

end EventScheduler.Roster
