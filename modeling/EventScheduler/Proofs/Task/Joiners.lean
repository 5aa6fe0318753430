import EventScheduler.Proofs.Task.Belongings
import EventScheduler.Proofs.Task.Sets

/-!
# Who joined whom

The tasks that joined a task are alive, and the task is not one of them.  A dead
task has been joined by nobody any more.
-/

namespace EventScheduler

namespace Roster

variable {S : Signature} {roster other : Roster S}

/-- Only live tasks have joined a task, and only a live one, but not itself. -/
structure Joined (roster : Roster S) : Prop where
  alive {index : SlotIndex} {entry : TaskEntry S} {joiner : TaskHandle} :
    roster.entry index = some entry → joiner ∈ entry.joiners.toList →
      roster.Alive joiner
  bereft {index : SlotIndex} {entry : TaskEntry S} :
    roster.entry index = some entry → entry.state.isDead = true →
      entry.joiners.toList = []
  apart {index : SlotIndex} {entry : TaskEntry S} :
    roster.entry index = some entry →
      roster.handleAt index ∉ entry.joiners.toList

namespace Joined

/-- Every task was joined by nobody, or by tasks that still live and had joined
it before. -/
theorem of_before (joined : roster.Joined)
    (before : ∀ index entry, other.entry index = some entry →
      entry.joiners.toList = [] ∨
        ∃ before, roster.entry index = some before ∧
          before.state.isDead = entry.state.isDead ∧
          other.generation index = roster.generation index ∧
          ∀ joiner ∈ entry.joiners.toList,
            joiner ∈ before.joiners.toList ∧ other.Alive joiner) :
    other.Joined where
  alive {index entry joiner} present inside := by
    rcases before index entry present with nobody | ⟨_, _, _, _, kept⟩
    · rw [nobody] at inside
      cases inside
    · exact (kept joiner inside).2
  bereft {index entry} present dead := by
    rcases before index entry present with
      nobody | ⟨known, presentBefore, same, _, kept⟩
    · exact nobody
    · have nobody := joined.bereft presentBefore (same.trans dead)
      refine List.eq_nil_iff_forall_not_mem.mpr fun joiner inside => ?_
      have already := (kept joiner inside).1
      rw [nobody] at already
      cases already
  apart {index entry} present inside := by
    rcases before index entry present with
      nobody | ⟨known, presentBefore, _, generation, kept⟩
    · rw [nobody] at inside
      cases inside
    · refine joined.apart presentBefore ?_
      rw [← handleAt_congr generation]
      exact (kept _ inside).1

/-- Whoever lived lives, and one slot changes, in which nobody new has joined. -/
theorem of_change (joined : roster.Joined) {index : SlotIndex}
    (alive : ∀ task, roster.Alive task → other.Alive task)
    (elsewhere : ∀ slot, slot ≠ index → other.entry slot = roster.entry slot ∧
      other.generation slot = roster.generation slot)
    (here : ∀ entry, other.entry index = some entry →
      entry.joiners.toList = [] ∨
        ∃ before, roster.entry index = some before ∧
          before.state.isDead = entry.state.isDead ∧
          other.generation index = roster.generation index ∧
          entry.joiners = before.joiners) :
    other.Joined := by
  refine joined.of_before fun slot entry present => ?_
  by_cases same : slot = index
  · subst same
    rcases here entry present with
      nobody | ⟨before, known, dead, generation, equal⟩
    · exact Or.inl nobody
    · refine Or.inr ⟨before, known, dead, generation, fun joiner inside => ?_⟩
      rw [equal] at inside
      exact ⟨inside, alive joiner (joined.alive known inside)⟩
  · obtain ⟨unchanged, generation⟩ := elsewhere slot same
    rw [unchanged] at present
    exact Or.inr ⟨entry, present, rfl, generation, fun joiner inside =>
      ⟨inside, alive joiner (joined.alive present inside)⟩⟩

theorem empty : (Roster.empty : Roster S).Joined := by
  constructor <;> intro index entry <;> intros <;> contradiction

theorem keeps (joined : roster.Joined) (keeps : roster.Keeps other) :
    other.Joined := by
  refine joined.of_before fun index entry present => ?_
  obtain ⟨before, known, _, same, dead⟩ := keeps.exists_entry present
  refine Or.inr ⟨before, known, dead, congrFun keeps.generation index, ?_⟩
  intro joiner inside
  rw [← same] at inside
  exact ⟨inside, keeps.alive_iff.mpr (joined.alive known inside)⟩

theorem insert (joined : roster.Joined) {body : S.Body} {name : Option String}
    {task : TaskHandle} (started : (roster.insert body name).1 = .ok task) :
    (roster.insert body name).2.Joined := by
  have alive (known : TaskHandle) (lives : roster.Alive known) :
      (roster.insert body name).2.Alive known :=
    (alive_insert_iff started).mpr (Or.inr lives)
  obtain ⟨index, entry, _, _, fresh, filled⟩ := exists_of_insert started
  rw [filled] at alive ⊢
  refine joined.of_change alive (fun slot (different : slot ≠ index) =>
    ⟨roster.entry_seat_of_ne entry different, rfl⟩) fun known present => ?_
  rw [entry_seat_self] at present
  rw [← Option.some.inj present, fresh]
  exact Or.inl rfl

/-- A task dies, and is forgotten where it had joined. -/
theorem retire (joined : roster.Joined) {task : TaskHandle}
    (alive : roster.Alive task) (exit : S.Exit) :
    ((roster.retire task exit).2.forgetJoiner task).Joined := by
  refine joined.of_before fun slot entry present => ?_
  obtain ⟨buried, presentBuried, same⟩ := Option.map_eq_some_iff.mp present
  subst same
  have lives (joiner : TaskHandle) (known : roster.Alive joiner)
      (different : joiner ≠ task) :
      ((roster.retire task exit).2.forgetJoiner task).Alive joiner :=
    (alive_forgetJoiner_iff task).mpr
      ((alive_retire_iff alive exit).mpr ⟨known, different⟩)
  obtain ⟨index, known, found, _⟩ := alive
  rw [retire_of_find? exit found] at lives ⊢ presentBuried
  by_cases here : slot = index
  · subst here
    have gone := (roster.entry_bury_self slot known exit).symm.trans
      presentBuried
    rw [← Option.some.inj gone]
    exact Or.inl rfl
  · have kept := (roster.entry_bury_of_ne known exit here).symm.trans
      presentBuried
    refine Or.inr ⟨buried, kept, rfl, rfl, fun joiner inside => ?_⟩
    obtain ⟨already, different⟩ := TaskSet.mem_remove.mp inside
    exact ⟨already, lives joiner (joined.alive kept already) different⟩

theorem free (joined : roster.Joined) {index : SlotIndex}
    (gone : roster.isLive index = false) : (roster.free index).Joined := by
  refine joined.of_change (fun _ => (alive_free_iff gone).mpr)
    (fun slot different =>
      ⟨roster.entry_free_of_ne different, Function.update_of_ne different ..⟩)
    fun known present => ?_
  rw [entry_free_self] at present
  cases present

/-- Only what is no concern of the joiners changes about a task. -/
theorem update (joined : roster.Joined) (task : TaskHandle)
    (body : Option S.Body) :
    (roster.update task fun entry => { entry with body }).Joined := by
  have alive (known : TaskHandle) (lives : roster.Alive known) :
      (roster.update task fun entry => { entry with body }).Alive known := by
    refine (alive_update_iff task ?_).mpr lives
    exact fun _ => rfl
  unfold Roster.update at alive ⊢
  split at alive
  · next index entry found =>
      refine joined.of_change alive (fun slot different =>
        ⟨roster.entry_setEntry_of_ne _ different, rfl⟩) fun known present => ?_
      rw [entry_setEntry_self] at present
      rw [← Option.some.inj present]
      exact Or.inr ⟨entry, (find?_eq_some_iff.mp found).2, rfl, rfl, rfl⟩
  · exact joined

/-- A live task joins another live task. -/
theorem addJoiner (joined : roster.Joined) {task joiner : TaskHandle}
    (different : task ≠ joiner) (alive : roster.Alive task)
    (joinerAlive : roster.Alive joiner) :
    (roster.addJoiner task joiner).2.Joined := by
  have lives (known : TaskHandle) :
      (roster.addJoiner task joiner).2.Alive known ↔ roster.Alive known :=
    alive_addJoiner_iff task joiner
  obtain ⟨index, entry, found, notDead⟩ := alive
  obtain ⟨fits, present⟩ := find?_eq_some_iff.mp found
  unfold Roster.addJoiner at lives ⊢
  rw [found] at lives ⊢
  dsimp only at lives ⊢
  cases grown : entry.joiners.insert joiner with
  | error refused => exact joined
  | ok result =>
      obtain ⟨added, joiners⟩ := result
      simp only [grown] at lives ⊢
      have here := roster.entry_setEntry_self index { entry with joiners }
      have elsewhere (slot : SlotIndex) (apart : slot ≠ index) :
          (roster.setEntry index { entry with joiners }).entry slot =
            roster.entry slot :=
        roster.entry_setEntry_of_ne _ apart
      constructor
      · intro slot known other stored inside
        rw [lives]
        by_cases same : slot = index
        · rw [same, here] at stored
          rw [← Option.some.inj stored] at inside
          rcases (TaskSet.mem_insert grown).mp inside with already | rfl
          · exact joined.alive present already
          · exact joinerAlive
        · rw [elsewhere slot same] at stored
          exact joined.alive stored inside
      · intro slot known stored dead
        by_cases same : slot = index
        · rw [same, here] at stored
          rw [← Option.some.inj stored, notDead] at dead
          cases dead
        · rw [elsewhere slot same] at stored
          exact joined.bereft stored dead
      · intro slot known stored inside
        by_cases same : slot = index
        · rw [same, here] at stored
          rw [← Option.some.inj stored, same] at inside
          rcases (TaskSet.mem_insert grown).mp inside with already | equal
          · exact joined.apart present already
          · exact different (fits.symm.trans equal)
        · rw [elsewhere slot same] at stored
          exact joined.apart stored inside

end Joined

end Roster

end EventScheduler
