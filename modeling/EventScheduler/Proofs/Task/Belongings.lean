import EventScheduler.Proofs.Task.Stray

/-!
# What tasks keep

Most operations only change what a task is doing and where it is linked.  Its
body, its joiners and its being dead or alive stay, and so does the handle that
names it.
-/

namespace EventScheduler

variable {S : Signature}

def TaskEntry.belongings (entry : TaskEntry S) :
    Option S.Body × TaskSet maxJoiners × Bool :=
  (entry.body, entry.joiners, entry.state.isDead)

namespace Roster

variable {roster other : Roster S}

/-- Only what tasks are doing and the lists change. -/
structure Keeps (roster other : Roster S) : Prop where
  generation : other.generation = roster.generation
  belongings (index : SlotIndex) :
    (other.entry index).map TaskEntry.belongings =
      (roster.entry index).map TaskEntry.belongings

namespace Keeps

theorem refl (roster : Roster S) : roster.Keeps roster where
  generation := rfl
  belongings _ := rfl

theorem trans {third : Roster S} (before : roster.Keeps other)
    (after : other.Keeps third) : roster.Keeps third where
  generation := after.generation.trans before.generation
  belongings index := (after.belongings index).trans (before.belongings index)

theorem of_setEntry {index : SlotIndex} {entry changed : TaskEntry S}
    (present : roster.entry index = some entry)
    (generation : other.generation = roster.generation)
    (entries : other.entry = (roster.setEntry index changed).entry)
    (same : changed.belongings = entry.belongings) : roster.Keeps other where
  generation := generation
  belongings slot := by
    rw [entries]
    by_cases here : slot = index
    · subst here
      rw [entry_setEntry_self, present]
      exact congrArg some same
    · rw [entry_setEntry_of_ne roster changed here]

theorem wake {index : SlotIndex} {entry : TaskEntry S}
    (present : roster.entry index = some entry)
    (waiting : entry.state.isWaiting = true) :
    roster.Keeps (roster.wake index entry) := by
  have alive : entry.state.isDead = false := by
    cases state : entry.state with
    | active | suspended | timer => rfl
    | dead exit =>
        rw [state] at waiting
        cases waiting
  refine .of_setEntry present rfl rfl ?_
  unfold TaskEntry.belongings
  rw [alive]
  rfl

theorem suspend {task : TaskHandle} (alive : roster.Alive task) :
    roster.Keeps (roster.suspend task) := by
  obtain ⟨index, entry, found, notDead⟩ := alive
  unfold Roster.suspend
  rw [found]
  refine .of_setEntry (find?_eq_some_iff.mp found).2 rfl rfl ?_
  unfold TaskEntry.belongings
  rw [notDead]
  rfl

theorem sleep {task : TaskHandle} (alive : roster.Alive task)
    (deadline : Deadline) : roster.Keeps (roster.sleep task deadline) := by
  unfold Roster.sleep
  split
  · exact suspend alive
  · obtain ⟨index, entry, found, notDead⟩ := alive
    rw [found]
    refine .of_setEntry (find?_eq_some_iff.mp found).2 rfl rfl ?_
    unfold TaskEntry.belongings
    rw [notDead]
    rfl

theorem requeue (roster : Roster S) (task : TaskHandle) :
    roster.Keeps (roster.requeue task) := by
  unfold Roster.requeue
  split
  · exact .refl roster
  · split
    · split
      · exact .refl roster
      · exact ⟨rfl, fun _ => rfl⟩
    · exact .refl roster

theorem popRunnable (roster : Roster S) :
    roster.Keeps roster.popRunnable.2 := by
  unfold Roster.popRunnable
  split
  · exact .refl roster
  · exact ⟨rfl, fun _ => rfl⟩

theorem promoteExpired (sound : roster.Sound) (now : Tick) :
    roster.Keeps (roster.promoteExpired now).2 := by
  generalize left : roster.timers = timers
  induction timers generalizing roster with
  | nil =>
      rw [promoteExpired_of_nil now left]
      exact .refl roster
  | cons index rest ih =>
      cases passed : (roster.due index).reached now with
      | false =>
          rw [promoteExpired_of_not_reached sound left passed]
          exact .refl roster
      | true =>
          obtain ⟨entry, deadline, present, asleep⟩ :=
            sound.entry_of_mem_timers (left ▸ List.mem_cons_self)
          have waiting : entry.state.isWaiting = true := by
            rw [asleep]
            rfl
          rw [promoteExpired_of_reached sound left present passed]
          refine (wake present waiting).trans
            (ih (sound.wake present waiting) ?_)
          change roster.timers.erase index = rest
          rw [left, List.erase_cons_head]

theorem exists_entry (keeps : roster.Keeps other) {index : SlotIndex}
    {entry : TaskEntry S} (present : other.entry index = some entry) :
    ∃ before, roster.entry index = some before ∧
      before.body = entry.body ∧ before.joiners = entry.joiners ∧
      before.state.isDead = entry.state.isDead := by
  have same := keeps.belongings index
  rw [present] at same
  obtain ⟨before, known, equal⟩ := Option.map_eq_some_iff.mp same.symm
  obtain ⟨body, joiners, dead⟩ :
      before.body = entry.body ∧ before.joiners = entry.joiners ∧
        before.state.isDead = entry.state.isDead := by
    simpa [TaskEntry.belongings] using equal
  exact ⟨before, known, body, joiners, dead⟩

theorem symm (keeps : roster.Keeps other) : other.Keeps roster where
  generation := keeps.generation.symm
  belongings index := (keeps.belongings index).symm

theorem alive_iff (keeps : roster.Keeps other) {task : TaskHandle} :
    other.Alive task ↔ roster.Alive task := by
  refine alive_congr keeps.generation fun index => Bool.eq_iff_iff.mpr ?_
  rw [isLive_eq_true_iff, isLive_eq_true_iff]
  constructor
  · rintro ⟨entry, present, notDead⟩
    obtain ⟨before, known, _, _, dead⟩ := keeps.exists_entry present
    exact ⟨before, known, dead.trans notDead⟩
  · rintro ⟨entry, present, notDead⟩
    obtain ⟨after, known, _, _, dead⟩ := keeps.symm.exists_entry present
    exact ⟨after, known, dead.trans notDead⟩

end Keeps

/-! ### Bodies -/

namespace Bodied

variable {running : Option TaskHandle}

/-- Every live task has its body because it had it before. -/
theorem of_before (bodied : roster.Bodied running)
    (before : ∀ index entry, other.entry index = some entry →
      entry.state.isDead = false → entry.body.isSome = true ∨
        ∃ before, roster.entry index = some before ∧
          before.state.isDead = false ∧ before.body = entry.body ∧
          other.generation index = roster.generation index) :
    other.Bodied running := by
  intro index entry present notDead notRunning
  rcases before index entry present notDead with
    hasBody | ⟨known, presentBefore, notDeadBefore, same, generation⟩
  · exact hasBody
  · rw [← same]
    refine bodied index known presentBefore notDeadBefore ?_
    rwa [← handleAt_congr generation]

theorem keeps (bodied : roster.Bodied running) (keeps : roster.Keeps other) :
    other.Bodied running :=
  bodied.of_before fun index _ present notDead =>
    let ⟨before, known, body, _, dead⟩ := keeps.exists_entry present
    Or.inr ⟨before, known, dead.trans notDead, body,
      congrFun keeps.generation index⟩

/-- One slot changes: its task is dead, or has its body, or keeps what it had. -/
theorem of_change (bodied : roster.Bodied running) {index : SlotIndex}
    (elsewhere : ∀ slot, slot ≠ index → other.entry slot = roster.entry slot ∧
      other.generation slot = roster.generation slot)
    (here : ∀ entry, other.entry index = some entry →
      entry.state.isDead = false → entry.body.isSome = true ∨
        ∃ before, roster.entry index = some before ∧
          before.state.isDead = false ∧ before.body = entry.body ∧
          other.generation index = roster.generation index) :
    other.Bodied running := by
  refine bodied.of_before fun slot entry present notDead => ?_
  by_cases same : slot = index
  · subst same
    exact here entry present notDead
  · obtain ⟨unchanged, generation⟩ := elsewhere slot same
    rw [unchanged] at present
    exact Or.inr ⟨entry, present, notDead, rfl, generation⟩

theorem insert (bodied : roster.Bodied running) (body : S.Body)
    (name : Option String) : (roster.insert body name).2.Bodied running := by
  cases started : (roster.insert body name).1 with
  | error error =>
      rw [insert_of_error started]
      exact bodied
  | ok task =>
      obtain ⟨index, entry, _, _, fresh, filled⟩ := exists_of_insert started
      rw [filled]
      refine bodied.of_change (fun slot (different : slot ≠ index) =>
        ⟨roster.entry_seat_of_ne entry different, rfl⟩) fun known present _ => ?_
      rw [entry_seat_self] at present
      rw [← Option.some.inj present, fresh]
      exact Or.inl rfl

theorem retire (bodied : roster.Bodied running) {task : TaskHandle}
    (alive : roster.Alive task) (exit : S.Exit) :
    (roster.retire task exit).2.Bodied running := by
  obtain ⟨index, entry, found, _⟩ := alive
  rw [retire_of_find? exit found]
  refine bodied.of_change (fun slot different =>
    ⟨roster.entry_bury_of_ne entry exit different, rfl⟩) ?_
  intro known present notDead
  rw [entry_bury_self] at present
  rw [← Option.some.inj present] at notDead
  cases notDead

theorem free (bodied : roster.Bodied running) (index : SlotIndex) :
    (roster.free index).Bodied running := by
  refine bodied.of_change (fun slot different =>
    ⟨roster.entry_free_of_ne different, Function.update_of_ne different ..⟩) ?_
  intro known present _
  rw [entry_free_self] at present
  cases present

theorem forgetJoiner (bodied : roster.Bodied running) (task : TaskHandle) :
    (roster.forgetJoiner task).Bodied running := by
  refine bodied.of_before fun index entry present notDead => ?_
  obtain ⟨before, known, same⟩ := Option.map_eq_some_iff.mp present
  rw [← same] at notDead ⊢
  exact Or.inr ⟨before, known, notDead, rfl, rfl⟩

theorem addJoiner (bodied : roster.Bodied running) (task joiner : TaskHandle) :
    (roster.addJoiner task joiner).2.Bodied running := by
  unfold Roster.addJoiner
  split
  · exact bodied
  · next index entry found =>
      split
      · exact bodied
      · next added joiners _ =>
          refine bodied.of_change (fun slot different =>
            ⟨roster.entry_setEntry_of_ne _ different, rfl⟩) ?_
          intro known present notDead
          rw [entry_setEntry_self] at present
          rw [← Option.some.inj present] at notDead ⊢
          exact Or.inr
            ⟨entry, (find?_eq_some_iff.mp found).2, notDead, rfl, rfl⟩

/-- The body of one task is taken or given back. -/
theorem update (bodied : roster.Bodied running) {task : TaskHandle}
    {now : Option TaskHandle} {body : Option S.Body}
    (others : ∀ other, other ≠ task → now ≠ some other →
      running ≠ some other)
    (here : now ≠ some task → body.isSome = true) :
    (roster.update task fun entry => { entry with body }).Bodied now := by
  intro index entry present notDead notRunning
  have same : (roster.update task fun entry => { entry with body }).handleAt
      index = roster.handleAt index := by
    unfold Roster.update
    split <;> rfl
  rw [same] at notRunning
  unfold Roster.update at present
  split at present
  · next slot known found =>
      obtain ⟨fits, _⟩ := find?_eq_some_iff.mp found
      by_cases equal : index = slot
      · subst equal
        rw [entry_setEntry_self] at present
        rw [← Option.some.inj present]
        exact here (fits ▸ notRunning)
      · rw [entry_setEntry_of_ne roster _ equal] at present
        refine bodied index entry present notDead (others _ ?_ notRunning)
        exact fun fitsToo =>
          equal (roster.handleAt_injective (fitsToo.trans fits.symm))
  · next stale =>
      refine bodied index entry present notDead (others _ ?_ notRunning)
      intro fits
      rw [find?_eq_some_iff.mpr ⟨fits, present⟩] at stale
      cases stale

end Bodied

end Roster

end EventScheduler
