import EventScheduler.Proofs.Kernel.Entries

/-!
# The run queue between two turns

Outside the turns of the loop, tasks come to the run queue at its tail, when
they are started or woken, and leave it when they die.  So tasks that were
started meanwhile are on it in the order in which they were started.
-/

namespace EventScheduler

variable {S : Signature}

namespace Deed

/-- What only the turns of the loop do to the run queue. -/
def isOfTurn : Deed → Bool
  | .promotes | .requeues _ | .pops _ | .parks _ => true
  | _ => false

/-- The run queue after a change that no turn is needed for. -/
def lineUp (deed : Deed) (line : List TaskHandle) : List TaskHandle :=
  match deed with
  | .starts task | .handles _ task | .wakes task => line ++ [task]
  | .dies task => line.filter (· ≠ task)
  | _ => line

/-- A task is started outside the turns of the loop, and nobody is reaped. -/
theorem between_of_started {deed : Deed} {task : TaskHandle}
    (starts : deed.started? = some task) :
    deed.isOfTurn = false ∧ ∀ other, deed ≠ .reaps other := by
  cases deed with
  | starts | handles => exact ⟨rfl, fun _ impossible => nomatch impossible⟩
  | _ => cases starts

end Deed

namespace Roster

variable {roster other : Roster S} {task : TaskHandle}

theorem queued_congr (run : other.run = roster.run)
    (generation : ∀ index ∈ roster.run,
      other.generation index = roster.generation index) :
    other.queued = roster.queued := by
  unfold queued
  rw [run]
  refine List.map_congr_left fun index inside => ?_
  unfold Roster.handleAt
  rw [generation index inside]

theorem queued_insert {body : S.Body} {name : Option String}
    (started : (roster.insert body name).1 = .ok task) :
    (roster.insert body name).2.queued = roster.queued ++ [task] := by
  obtain ⟨index, entry, _, fits, _, filled⟩ := exists_of_insert started
  rw [filled, ← fits]
  exact List.map_append

/-- A slot that is taken off the run queue is that of one task. -/
theorem map_erase_run (sound : roster.Sound) {index : SlotIndex}
    (fits : roster.handleAt index = task) :
    (roster.run.erase index).map roster.handleAt =
      roster.queued.filter (· ≠ task) := by
  unfold queued
  rw [sound.run_nodup.erase_eq_filter, List.filter_map]
  congr 1
  refine List.filter_congr fun slot _ => ?_
  have apart : roster.handleAt slot = task ↔ slot = index := by
    rw [← fits]
    exact roster.handleAt_injective.eq_iff
  by_cases same : slot = index
  · simp [same, fits]
  · simp [same, apart]

theorem queued_retire (sound : roster.Sound) (alive : roster.Alive task)
    (exit : S.Exit) :
    (roster.retire task exit).2.queued = roster.queued.filter (· ≠ task) := by
  obtain ⟨index, entry, found, _⟩ := alive
  rw [retire_of_find? exit found]
  exact map_erase_run sound (find?_eq_some_iff.mp found).1

theorem queued_suspend (sound : roster.Sound) (alive : roster.Alive task) :
    (roster.suspend task).queued = roster.queued.filter (· ≠ task) := by
  obtain ⟨index, entry, found, _⟩ := alive
  unfold suspend
  rw [found]
  exact map_erase_run sound (find?_eq_some_iff.mp found).1

theorem queued_sleep (sound : roster.Sound) (alive : roster.Alive task)
    (deadline : Deadline) :
    (roster.sleep task deadline).queued = roster.queued.filter (· ≠ task) := by
  unfold sleep
  split
  · exact queued_suspend sound alive
  · obtain ⟨index, entry, found, _⟩ := alive
    rw [found]
    exact map_erase_run sound (find?_eq_some_iff.mp found).1

/-- A slot without a live task is on no list, so its handle does not matter. -/
theorem queued_free (sound : roster.Sound) {index : SlotIndex}
    (gone : roster.isLive index = false) :
    (roster.free index).queued = roster.queued := by
  refine queued_congr rfl fun slot inside => ?_
  refine Function.update_of_ne ?_ ..
  rintro rfl
  rw [isLive_eq (sound.active inside)] at gone
  cases gone

theorem run_update (roster : Roster S) (task : TaskHandle)
    (change : TaskEntry S → TaskEntry S) :
    (roster.update task change).run = roster.run ∧
      (roster.update task change).generation = roster.generation := by
  unfold update
  split <;> exact ⟨rfl, rfl⟩

/-- The task is there, dead or alive, and it is not blocked. -/
def Settled (roster : Roster S) (task : TaskHandle) : Prop :=
  ∃ state, roster.stateOf task = some state ∧ state.isWaiting = false

theorem stateOf_of_mem_queued (sound : roster.Sound)
    (inside : task ∈ roster.queued) : roster.stateOf task = some .active := by
  obtain ⟨index, queued, rfl⟩ := List.mem_map.mp inside
  unfold stateOf
  rw [entryOf_handleAt]
  exact sound.active queued

theorem stateOf_of_mem_asleep (sound : roster.Sound)
    (inside : task ∈ roster.asleep) :
    ∃ deadline, roster.stateOf task = some (.timer deadline) := by
  obtain ⟨index, asleep, rfl⟩ := List.mem_map.mp inside
  obtain ⟨deadline, known⟩ := sound.mem_timers_iff.mp asleep
  unfold stateOf
  rw [entryOf_handleAt]
  exact ⟨deadline, known⟩

end Roster

namespace Kernel

variable {kernel next : Kernel S} {deed : Deed} {task : TaskHandle}

theorem Change.queued (change : Change kernel deed next)
    (wellformed : kernel.Wellformed) (between : deed.isOfTurn = false) :
    next.roster.queued = deed.lineUp kernel.roster.queued := by
  have sound := wellformed.sound
  cases change with
  | world | clock | count | watch | unwatch | resign | claim | occur | drain
  | release | abandon | giveBack => rfl
  | promote | requeue | pop | suspend | sleep => cases between
  | start started holds | handle unhandled started holds watched =>
      rw [roster_of_holds rfl holds]
      exact Roster.queued_insert started
  | wake found waiting holds =>
      rw [roster_of_holds rfl holds]
      exact (Roster.rouses_wake sound found waiting).queued
  | die alive notRunning holds =>
      rw [roster_of_holds rfl holds]
      exact Roster.queued_retire sound alive _
  | spoil vacant holds =>
      rw [roster_of_holds rfl holds]
      exact Roster.queued_free sound (Roster.isLive_of_vacant vacant)
  | @join task joiner tasks different alive joinerAlive holds =>
      rw [roster_of_holds rfl holds]
      unfold Roster.addJoiner
      split
      · rfl
      · split <;> rfl
  | reap dead holds =>
      obtain ⟨index, entry, found, died, freed⟩ := Roster.find?_of_reap dead
      rw [roster_of_holds rfl holds, freed]
      refine Roster.queued_free sound ?_
      rw [Roster.isLive_eq (Roster.state?_of_find? found), died]
      rfl
  | take idle holds | restore body running holds =>
      rw [roster_of_holds rfl holds]
      obtain ⟨run, generation⟩ := Roster.run_update kernel.roster _ _
      exact Roster.queued_congr run fun index _ => congrFun generation index

/-- A pop takes the head of the run queue. -/
theorem Change.queued_of_pops (change : Change kernel (.pops task) next) :
    kernel.roster.queued = task :: next.roster.queued := by
  cases change with
  | @pop _ tasks first holds =>
      have popped : ({ kernel with tasks } : Kernel S).roster =
          kernel.roster.popRunnable.2 := roster_of_holds rfl holds
      rw [popped]
      unfold Roster.popRunnable at first ⊢
      split at first
      · cases first
      · next index rest run =>
          cases first
          unfold Roster.queued
          rw [run]
          rfl

/-- Whoever is parked is not on the run queue, and the others stay there. -/
theorem Change.queued_of_parks (change : Change kernel (.parks task) next)
    (wellformed : kernel.Wellformed) :
    next.roster.queued = kernel.roster.queued.filter (· ≠ task) := by
  have sound := wellformed.sound
  cases change with
  | suspend alive holds =>
      rw [roster_of_holds rfl holds]
      exact Roster.queued_suspend sound alive
  | sleep deadline alive holds =>
      rw [roster_of_holds rfl holds]
      exact Roster.queued_sleep sound alive deadline

/-- If nobody starts, wakes or dies and no turn goes on, the run queue stays. -/
theorem Evolves.queued_eq {may : Deed → Prop} (evolves : Evolves may kernel next)
    (wellformed : kernel.Wellformed)
    (still : ∀ deed, may deed → deed.isOfTurn = false ∧
      ∀ line, deed.lineUp line = line) :
    next.roster.queued = kernel.roster.queued := by
  induction evolves with
  | refl => rfl
  | step before change allowed ih =>
      obtain ⟨between, stays⟩ := still _ allowed
      rw [change.queued (before.wellformed wellformed) between, stays, ih]

/-- Who dies leaves the run queue, and nobody else does. -/
theorem Buries.queued (buries : kernel.Buries task next)
    (wellformed : kernel.Wellformed) :
    next.roster.queued = kernel.roster.queued.filter (· ≠ task) := by
  obtain ⟨first, middle, before, dies, after⟩ := buries
  have quietly : ∀ deed : Deed, deed = .quiet → deed.isOfTurn = false ∧
      ∀ line, deed.lineUp line = line := by
    rintro deed rfl
    exact ⟨rfl, fun _ => rfl⟩
  have firstToo := before.wellformed wellformed
  rw [after.queued_eq (dies.wellformed firstToo) quietly,
    dies.queued firstToo rfl, before.queued_eq wellformed quietly]
  rfl

/-! ### Tasks in the order in which they were started -/

theorem Change.stateOf_of_started (change : Change kernel deed next)
    (starts : deed.started? = some task) :
    kernel.roster.stateOf task = none ∧
      next.roster.stateOf task = some .active := by
  have seated {tasks : TaskTable S} {body : S.Body} {name : Option String}
      (same : next.tasks = tasks)
      (started : (kernel.roster.insert body name).1 = .ok task)
      (holds : tasks.Holds (kernel.roster.insert body name).2) :
      kernel.roster.stateOf task = none ∧
        next.roster.stateOf task = some .active := by
    obtain ⟨index, entry, vacant, fits, fresh, filled⟩ :=
      Roster.exists_of_insert started
    have seat : next.roster.handleAt index = task := by
      rw [roster_of_holds same holds, filled]
      exact fits
    unfold Roster.stateOf
    constructor
    · rw [← fits, Roster.entryOf_handleAt, vacant]
      rfl
    · rw [← seat, Roster.entryOf_handleAt, roster_of_holds same holds, filled,
        Roster.entry_seat_self, fresh]
      rfl
  cases change with
  | start started holds | handle unhandled started holds watched =>
      cases starts
      exact seated rfl started holds
  | _ => cases starts

theorem Change.not_settled_of_wakes (change : Change kernel (.wakes task) next) :
    ¬ kernel.roster.Settled task := by
  rintro ⟨state, known, unblocked⟩
  cases change with
  | wake found waiting holds =>
      unfold Roster.stateOf at known
      rw [Roster.entryOf_of_find? found] at known
      cases known
      rw [waiting] at unblocked
      cases unblocked

theorem Change.settled (change : Change kernel deed next)
    (wellformed : kernel.Wellformed) (between : deed.isOfTurn = false)
    (unreaped : deed ≠ .reaps task) (settled : kernel.roster.Settled task) :
    next.roster.Settled task := by
  obtain ⟨state, known, unblocked⟩ := settled
  have alters := change.alters wellformed task
  unfold Roster.Settled
  unfold Roster.stateOf at known ⊢
  generalize kernel.roster.entryOf task = before at alters known
  generalize next.roster.entryOf task = after at alters ⊢
  cases alters with
  | still | bereaves | joins | hands => exact ⟨state, known, unblocked⟩
  | starts => cases known
  | wakes => exact ⟨_, rfl, rfl⟩
  | parks parked =>
      subst parked
      cases between
  | dies => exact ⟨_, rfl, rfl⟩
  | reaps reaped => exact absurd reaped unreaped

/-- The given tasks are not blocked, and those of them that are on the run queue
are there in the given order. -/
structure LinedUp (kernel : Kernel S) (line : List TaskHandle) : Prop where
  settled {task : TaskHandle} : task ∈ line → kernel.roster.Settled task
  order : kernel.roster.queued.filter (· ∈ line) =
    line.filter (· ∈ kernel.roster.queued)

theorem linedUp_nil (kernel : Kernel S) : kernel.LinedUp [] where
  settled impossible := nomatch impossible
  order := by simp

private theorem order_append {line queue : List TaskHandle}
    (order : queue.filter (· ∈ line) = line.filter (· ∈ queue))
    (fresh : task ∉ line) (off : task ∉ queue) :
    (queue ++ [task]).filter (· ∈ line ++ [task]) =
      (line ++ [task]).filter (· ∈ queue ++ [task]) := by
  have others {list other : List TaskHandle} (absent : task ∉ list) :
      list.filter (· ∈ other ++ [task]) = list.filter (· ∈ other) := by
    refine List.filter_congr fun member inside => ?_
    have different : member ≠ task := ne_of_mem_of_not_mem inside absent
    simp [different]
  rw [List.filter_append, List.filter_append, others fresh, others off, order]
  simp

private theorem order_wake {line queue : List TaskHandle}
    (order : queue.filter (· ∈ line) = line.filter (· ∈ queue))
    (other : task ∉ line) :
    (queue ++ [task]).filter (· ∈ line) =
      line.filter (· ∈ queue ++ [task]) := by
  have same : line.filter (· ∈ queue ++ [task]) = line.filter (· ∈ queue) := by
    refine List.filter_congr fun member inside => ?_
    have different : member ≠ task := ne_of_mem_of_not_mem inside other
    simp [different]
  rw [List.filter_append, same, order]
  simp [other]

private theorem order_die {line queue : List TaskHandle}
    (order : queue.filter (· ∈ line) = line.filter (· ∈ queue)) :
    (queue.filter (· ≠ task)).filter (· ∈ line) =
      line.filter (· ∈ queue.filter (· ≠ task)) := by
  have left := congrArg (List.filter (· ≠ task)) order
  simp only [List.filter_filter, List.mem_filter] at left ⊢
  simpa [Bool.and_comm] using left

theorem Change.linedUp {line : List TaskHandle} (change : Change kernel deed next)
    (wellformed : kernel.Wellformed) (between : deed.isOfTurn = false)
    (unreaped : ∀ task, deed ≠ .reaps task) (linedUp : kernel.LinedUp line) :
    next.LinedUp (line ++ deed.started?.toList) where
  settled := by
    intro task inside
    rcases List.mem_append.mp inside with already | starts
    · exact change.settled wellformed between (unreaped task)
        (linedUp.settled already)
    · have active := (change.stateOf_of_started
        (Option.mem_toList.mp starts)).2
      exact ⟨_, active, rfl⟩
  order := by
    have order := linedUp.order
    have begins {task : TaskHandle} (starts : deed.started? = some task) :
        task ∉ line ∧ task ∉ kernel.roster.queued := by
      have nothing := (change.stateOf_of_started starts).1
      constructor
      · intro inside
        obtain ⟨state, known, _⟩ := linedUp.settled inside
        cases nothing.symm.trans known
      · intro queued
        cases nothing.symm.trans
          (Roster.stateOf_of_mem_queued wellformed.sound queued)
    rw [change.queued wellformed between]
    cases deed with
    | starts task | handles event task =>
        obtain ⟨fresh, off⟩ := begins rfl
        exact order_append order fresh off
    | wakes task =>
        refine (List.append_nil line).symm ▸ order_wake order fun inside => ?_
        exact change.not_settled_of_wakes (linedUp.settled inside)
    | dies task => exact (List.append_nil line).symm ▸ order_die order
    | _ => exact (List.append_nil line).symm ▸ order

/-- While nobody is started, the tasks stay where they are in the line. -/
theorem Evolves.linedUp {may : Deed → Prop} {line : List TaskHandle}
    (evolves : Evolves may kernel next) (wellformed : kernel.Wellformed)
    (still : ∀ deed, may deed → deed.isOfTurn = false ∧
      deed.started? = none ∧ ∀ task, deed ≠ .reaps task)
    (linedUp : kernel.LinedUp line) : next.LinedUp line := by
  induction evolves with
  | refl => exact linedUp
  | step before change allowed ih =>
      obtain ⟨between, unstarted, unreaped⟩ := still _ allowed
      have next := change.linedUp (before.wellformed wellformed) between
        unreaped ih
      rwa [unstarted, Option.toList_none, List.append_nil] at next

end Kernel

end EventScheduler
