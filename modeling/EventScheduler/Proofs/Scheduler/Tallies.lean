import EventScheduler.Proofs.Kernel.Tallies
import EventScheduler.Proofs.Scheduler.Line

/-!
# How often tasks begin to wait and are woken

The scheduler counts how many tasks it made active that waited, whoever woke
them, and does not count those whose timer expired.  So whoever began to wait
was counted, or its timer expired, or it died, or it is waiting now.
-/

namespace EventScheduler

variable {S : Signature}

namespace Deed

variable {deed : Deed}

/-- Only the task that dies gets another state. -/
private theorem Buries.eq_of_concerns {task other : TaskHandle}
    (fits : deed.Buries task) (concerns : deed.Concerns other) :
    other = task := by
  rcases fits with rfl | rfl
  · cases concerns with
    | starts impossible => cases impossible
  · cases concerns with
    | starts impossible => cases impossible
    | dies => rfl

private theorem Buries.not_wakes {task : TaskHandle} (fits : deed.Buries task) :
    ¬ deed.Wakes := by
  rintro ⟨other, rfl⟩
  rcases fits with impossible | impossible <;> cases impossible

theorem isLively_of_accounted [Application S] {machine next : Machine S}
    {move : Move S} (accounts : machine.Accounts move next deed)
    (calm : machine.control.turns = false)
    (spares : ∀ closing, next.closings ≠ closing :: machine.closings) :
    deed.isLively = true := by
  have still : deed.turns = false := by
    rw [Bool.eq_false_iff]
    intro turns
    rw [accounts.turns turns] at calm
    cases calm
  cases deed with
  | promotes => cases still
  | parks => cases still
  | dies task =>
      cases accounts.dies rfl with
      | slice steps control =>
          rw [control] at calm
          cases calm
      | close same closings => exact absurd closings (spares _)
  | _ => rfl

end Deed

/-! ### What a move does to those who wait -/

namespace Kernel

variable {kernel middle next : Kernel S} {task : TaskHandle}

/-- Those who waited wait still, are active or are dead, and the active ones were
counted. -/
structure Books (kernel next : Kernel S) : Prop where
  kept : kernel.waiting ⊆ next.waiting ∪ (next.active ∪ next.deceased)
  resumes :
    next.stats.resumes = kernel.stats.resumes + (kernel.awoken next).card

private theorem books_of_tallies (same : middle.waiting = kernel.waiting)
    (resumes : middle.stats.resumes = kernel.stats.resumes)
    (tallies : middle.Tallies next) : kernel.Books next where
  kept := by
    rw [← same]
    exact tallies.woken.trans
      (Finset.union_subset_union_right Finset.subset_union_left)
  resumes := by
    rw [tallies.resumes, resumes]
    unfold awoken
    rw [same]

private theorem Books.of_same
    (same : ∀ task, middle.roster.stateOf task = kernel.roster.stateOf task)
    (resumes : middle.stats.resumes = kernel.stats.resumes)
    (books : middle.Books next) : kernel.Books next := by
  have waiting : middle.waiting = kernel.waiting := Roster.among_congr same
  constructor
  · rw [← waiting]
    exact books.kept
  · rw [books.resumes, resumes]
    unfold awoken
    rw [waiting]

/-- Only one task gets another state, and that is not the active one. -/
private theorem books_of_others (task : TaskHandle)
    (others : ∀ other, other ≠ task →
      next.roster.stateOf other = kernel.roster.stateOf other)
    (kept : task ∈ kernel.waiting → task ∈ next.waiting ∪ next.deceased)
    (idle : task ∉ kernel.awoken next)
    (resumes : next.stats.resumes = kernel.stats.resumes) :
    kernel.Books next where
  kept := by
    intro other waits
    by_cases same : other = task
    · subst same
      rcases Finset.mem_union.mp (kept waits) with still | dead
      · exact Finset.mem_union_left _ still
      · exact Finset.mem_union_right _ (Finset.mem_union_right _ dead)
    · exact Finset.mem_union_left _
        ((Roster.mem_among_congr (others other same)).mpr waits)
  resumes := by
    have nobody : kernel.awoken next = ∅ := by
      refine Finset.eq_empty_of_forall_notMem fun other inside => ?_
      by_cases same : other = task
      · exact idle (same ▸ inside)
      · obtain ⟨waits, active⟩ := Finset.mem_inter.mp inside
        exact notMem_active_of_waiting waits
          ((Roster.mem_among_congr (others other same)).mp active)
    rw [nobody]
    exact resumes

private theorem books_of_begins {closing : Closing} {body : Option S.Body}
    (begins : kernel.Begins closing body next)
    (wellformed : kernel.Wellformed) : kernel.Books next := by
  have dead := begins.retires.stateOf
  refine books_of_others closing.task (fun other different => ?_)
    (fun _ => ?_) (fun inside => ?_) ?_
  · exact begins.buries.evolves.stateOf_eq wellformed
      fun _ fits concerns => different (fits.eq_of_concerns concerns)
  · exact Finset.mem_union_right _ ((Roster.mem_among_of_stateOf dead).mpr rfl)
  · cases (Roster.mem_among_of_stateOf dead).mp (Finset.mem_inter.mp inside).2
  · exact begins.buries.evolves.resumes_eq fun _ => Deed.Buries.not_wakes

/-- Who waits no more was woken or has died, and who did not wait before began
to. -/
private theorem card_waiting
    (kept : kernel.waiting ⊆ next.waiting ∪ (next.active ∪ next.deceased)) :
    next.waiting.card + (kernel.awoken next).card +
        (kernel.waiting ∩ next.deceased).card =
      kernel.waiting.card + (next.waiting \ kernel.waiting).card := by
  have gone : kernel.waiting \ next.waiting =
      kernel.awoken next ∪ kernel.waiting ∩ next.deceased := by
    ext task
    simp only [awoken, Finset.mem_sdiff, Finset.mem_union, Finset.mem_inter]
    constructor
    · rintro ⟨waits, ended⟩
      have found := kept waits
      simp only [Finset.mem_union] at found
      rcases found with still | active | dead
      · exact absurd still ended
      · exact Or.inl ⟨waits, active⟩
      · exact Or.inr ⟨waits, dead⟩
    · rintro (⟨waits, active⟩ | ⟨waits, dead⟩)
      · exact ⟨waits, fun still => notMem_active_of_waiting still active⟩
      · exact ⟨waits, Roster.notMem_among_of_mem
          (fun _ ended => (TaskState.not_isDead ended).1) dead⟩
  have apart :
      Disjoint (kernel.awoken next) (kernel.waiting ∩ next.deceased) := by
    refine Finset.disjoint_left.mpr fun task early late => ?_
    exact Roster.notMem_among_of_mem
      (fun _ ended => (TaskState.not_isDead ended).2)
      (Finset.mem_inter.mp late).2 (Finset.mem_inter.mp early).2
  have left := Finset.card_inter_add_card_sdiff kernel.waiting next.waiting
  have right := Finset.card_inter_add_card_sdiff next.waiting kernel.waiting
  rw [gone, Finset.card_union_of_disjoint apart] at left
  rw [Finset.inter_comm] at right
  omega

end Kernel

namespace Scheduler

variable {scheduler after : Scheduler S} {task : TaskHandle} {step : S.Step}
  {value : Option S.Output}

/-- Whoever ran is not woken with the end of its slice, whatever it does. -/
private theorem Applied.books (applied : scheduler.Applied task step value after)
    (wellformed : scheduler.kernel.Wellformed)
    (active : scheduler.kernel.roster.stateOf task = some .active) :
    scheduler.kernel.Books after.kernel := by
  cases applied with
  | yields => exact Kernel.books_of_tallies rfl rfl (.refl _)
  | parks change =>
      refine Kernel.books_of_others task (fun other different => ?_)
        (fun waits => ?_) (fun inside => ?_) (change.resumes_eq ?_)
      · refine change.stateOf_eq wellformed fun concerns => ?_
        cases concerns with
        | starts impossible => cases impossible
        | parks => exact different rfl
      · cases (Roster.mem_among_of_stateOf active).mp waits
      · cases (Roster.mem_among_of_stateOf active).mp
          (Finset.mem_inter.mp inside).1
      · rintro ⟨_, impossible⟩
        cases impossible
  | @ends _ recorded buried kernel _ _ _ _ _ _ before dies wakes _ _ retires =>
      have middle := before.wellformed wellformed
      have recordedToo (other : TaskHandle) :
          recorded.roster.stateOf other =
            scheduler.kernel.roster.stateOf other := by
        refine before.stateOf_eq wellformed ?_
        rintro deed rfl concerns
        cases concerns with
        | starts impossible => cases impossible
      have same : buried.waiting = scheduler.kernel.waiting := by
        ext other
        by_cases here : other = task
        · subst here
          unfold Kernel.waiting
          rw [Roster.mem_among_of_stateOf retires.stateOf,
            Roster.mem_among_of_stateOf active]
          rfl
        · refine Roster.mem_among_congr (Eq.trans ?_ (recordedToo other))
          exact dies.evolves.stateOf_eq middle
            fun _ fits concerns => here (fits.eq_of_concerns concerns)
      have resumes : buried.stats.resumes = scheduler.kernel.stats.resumes := by
        refine Eq.trans (dies.evolves.resumes_eq fun _ => Deed.Buries.not_wakes)
          (before.resumes_eq ?_)
        rintro deed rfl ⟨_, impossible⟩
        cases impossible
      exact Kernel.books_of_tallies same resumes
        (wakes.tallies (dies.evolves.wellformed middle)
          fun _ => Deed.Wakes.isLively)

end Scheduler

/-! ### Picking a task -/

private def Deed.Picks (deed : Deed) : Prop :=
  deed = .quiet ∨
    ∃ task, deed = .requeues task ∨ deed = .pops task ∨ deed = .begins task

namespace Machine

variable {machine next : Machine S} {move : Move S}

def promotes (machine : Machine S) (move : Move S) : Bool :=
  match move, machine.control with
  | .step, .pick => true
  | _, _ => false

/-- How many tasks a move takes off the timer list because their timer
expired. -/
def promoted (machine : Machine S) (move : Move S) : Nat :=
  if machine.promotes move then
    match machine.kernel.tasks.promoteExpired machine.kernel.now with
    | .ok (count, _) => count
    | .error _ => 0
  else
    0

theorem promotes_eq_true_iff : machine.promotes move = true ↔
    move = .step ∧ machine.control = .pick := by
  unfold promotes
  cases move <;> cases machine.control <;> simp

variable [Application S]

/-- Nobody but those whose timer expired gets another state where the loop picks
a task. -/
private theorem Transition.exists_promoted
    (transition : Transition machine .step next) (steady : machine.Steady)
    (control : machine.control = .pick) :
    ∃ promoted, Kernel.Change machine.kernel .promotes promoted ∧
      Kernel.Evolves Deed.Picks promoted next.kernel := by
  have queuedUp {scheduler : Scheduler S}
      (queued : machine.toScheduler.QueuedUp scheduler) :
      ∃ promoted, Kernel.Change machine.kernel .promotes promoted ∧
        Kernel.Evolves Deed.Picks promoted scheduler.kernel := by
    obtain ⟨_, promoted, promotes, requeues⟩ := queued
    refine ⟨promoted, promotes, ?_⟩
    cases yielded : machine.yielded with
    | none =>
        rw [yielded] at requeues
        rw [requeues]
        exact .refl _
    | some task =>
        rw [yielded] at requeues
        exact .single requeues (Or.inr ⟨task, Or.inl rfl⟩)
  cases transition with
  | still rests =>
      have final := rests rfl
      rw [control] at final
      cases final
  | faults fault failed =>
      have harmless : FaultsOnly (fun _ => False) machine.advance :=
        steady.pick_faultsOnly control
      exact absurd (failed rfl) (harmless fault)
  | outside evolves other => exact absurd rfl other
  | picksNothing control queued => exact queuedUp queued
  | @picks scheduler popped recorded kernel task body control queued pops evolves
      begins =>
      obtain ⟨promoted, promotes, requeued⟩ := queuedUp queued
      refine ⟨promoted, promotes, ?_⟩
      refine Kernel.Evolves.step ?_ begins
        (Or.inr ⟨task, Or.inr (Or.inr rfl)⟩)
      refine Kernel.Evolves.trans ?_ (evolves.mono fun _ => Or.inl)
      exact requeued.step pops (Or.inr ⟨task, Or.inr (Or.inl rfl)⟩)
  | ends known | dispatches known | drains known | idles known | wakes known
  | stalls known | answers known | kills _ known | endsSlice known
  | endsClose known | concludes known | returns known | sweepsOn known
  | swept known | passes known | sweeps _ known =>
      cases control.symm.trans known

end Machine

/-! ### Runs -/

namespace Run

variable [Application S] {run : Run S} {count first last : Nat}
  {task : TaskHandle}

/-- The tasks that waited before a move and are active after it. -/
def awoken (run : Run S) (count : Nat) : Finset TaskHandle :=
  (run.after count).kernel.awoken (run.after (count + 1)).kernel

/-- How often a waiting task became active for another reason than that its timer
expired. -/
def wakings (run : Run S) : Nat → Nat
  | 0 => 0
  | count + 1 => run.wakings count +
      if (run.after count).promotes (run.moves count) then 0
      else (run.awoken count).card

/-- How many tasks were made active because their timer expired. -/
def expiries (run : Run S) : Nat → Nat
  | 0 => 0
  | count + 1 =>
      run.expiries count + (run.after count).promoted (run.moves count)

def blockings (run : Run S) : Nat → Nat
  | 0 => 0
  | count + 1 => run.blockings count +
      ((run.after (count + 1)).kernel.waiting \
        (run.after count).kernel.waiting).card

def losses (run : Run S) : Nat → Nat
  | 0 => 0
  | count + 1 => run.losses count +
      ((run.after count).kernel.waiting ∩
        (run.after (count + 1)).kernel.deceased).card

/-- The end of a slice wakes those who joined the task, if it ends. -/
private theorem books_of_slice {step : S.Step} {body : S.Body}
    (control : (run.after count).control =
      .body (.slice task) (.pure (step, body)))
    (steps : run.moves count = .step) :
    (run.after count).kernel.Books (run.after (count + 1)).kernel := by
  have steady := run.steady count
  have wellformed := steady.placed.wellformed
  have running := steady.running_of_slice control
  have ends := Kernel.endSlice_evolves wellformed body running
  have same (other : TaskHandle) :
      ((run.after count).kernel.endSlice task body).roster.stateOf other =
        (run.after count).kernel.roster.stateOf other := by
    refine ends.stateOf_eq wellformed fun concerns => ?_
    cases concerns with
    | starts impossible => cases impossible
  have active : ((run.after count).kernel.endSlice task body).roster.stateOf
      task = some .active := by
    rw [same]
    exact (run.state_eq_ok_iff count).mp (state_of_running running)
  obtain ⟨value, scheduler, applied, moved⟩ := steady.exists_applied control
  rw [after_succ steps, moved]
  exact (applied.books (ends.wellformed wellformed) active).of_same same rfl

/-- Where the loop does not pick a task, those who are woken are counted. -/
private theorem books_of_calm
    (calm : (run.after count).promotes (run.moves count) = false) :
    (run.after count).kernel.Books (run.after (count + 1)).kernel := by
  have wellformed := run.wellformed count
  cases turns : (run.after count).control.turns with
  | false =>
      cases began : run.begun? count with
      | some closing =>
          obtain ⟨body, begins, _⟩ :=
            (run.nests count).begun (begun?_eq_some_iff.mp began)
          exact Kernel.books_of_begins begins.begins wellformed
      | none =>
          refine Kernel.books_of_tallies rfl rfl ((run.accounted count).tallies
            wellformed fun deed accounts =>
              Deed.isLively_of_accounted accounts turns fun closing begins => ?_)
          cases began.symm.trans (begun?_eq_some_iff.mpr begins)
  | true =>
      by_cases steps : run.moves count = .step
      · cases control : (run.after count).control with
        | pick =>
            have picks := Machine.promotes_eq_true_iff.mpr ⟨steps, control⟩
            cases calm.symm.trans picks
        | body role program =>
            rw [control] at turns
            cases role with
            | close closing => cases turns
            | slice task =>
                cases program with
                | ask => cases turns
                | pure result => exact books_of_slice control steps
        | _ =>
            rw [control] at turns
            cases turns
      · change (run.after count).kernel.Books
          ((run.after count).move (run.moves count)).kernel
        rcases Machine.move_of_busy (Control.isIdle_of_turns turns) steps with
          ⟨fault, same⟩ | ⟨registry, world, same⟩ <;>
        · rw [same]
          refine Kernel.books_of_tallies ?_ ?_ (.refl _) <;> rfl

/-- Where the loop picks a task, those are woken whose timer expired. -/
private theorem promotes_of_picks
    (picks : (run.after count).promotes (run.moves count) = true) :
    (run.after count).kernel.Promotes (run.after (count + 1)).kernel := by
  have wellformed := run.wellformed count
  obtain ⟨steps, control⟩ := Machine.promotes_eq_true_iff.mp picks
  have transition := run.transition count
  rw [steps] at transition
  obtain ⟨promoted, change, evolves⟩ :=
    transition.exists_promoted (run.steady count) control
  have promotes := change.promotes wellformed
  have same (task : TaskHandle) :
      (run.after (count + 1)).kernel.roster.stateOf task =
        promoted.roster.stateOf task := by
    refine evolves.stateOf_eq (change.wellformed wellformed) ?_
    rintro deed (rfl | ⟨other, rfl | rfl | rfl⟩) concerns <;>
    · cases concerns with
      | starts impossible => cases impossible
  have waiting : (run.after (count + 1)).kernel.waiting = promoted.waiting :=
    Roster.among_congr same
  have active : (run.after (count + 1)).kernel.active = promoted.active :=
    Roster.among_congr same
  constructor
  · rw [waiting, active]
    exact promotes.waiting
  · unfold Kernel.awoken
    rw [active]
    exact promotes.awoken
  · rw [← promotes.resumes]
    refine evolves.resumes_eq ?_
    rintro deed (rfl | ⟨other, rfl | rfl | rfl⟩) ⟨_, impossible⟩ <;>
      cases impossible

/-- As many tasks are woken as are taken off the timer list. -/
private theorem card_awoken_of_picks
    (picks : (run.after count).promotes (run.moves count) = true) :
    (run.awoken count).card = (run.after count).promoted (run.moves count) := by
  have wellformed := run.wellformed count
  obtain ⟨tasks, promoted, _⟩ := wellformed.holds.promoteExpired
    wellformed.sound (run.after count).kernel.now
  unfold awoken Machine.promoted
  rw [(promotes_of_picks picks).awoken, if_pos picks, promoted,
    List.toFinset_card_of_nodup (Roster.nodup_expired wellformed.sound _)]
  exact List.length_map _

private theorem kept (run : Run S) (count : Nat) :
    (run.after count).kernel.waiting ⊆
      (run.after (count + 1)).kernel.waiting ∪
        ((run.after (count + 1)).kernel.active ∪
          (run.after (count + 1)).kernel.deceased) := by
  cases picks : (run.after count).promotes (run.moves count) with
  | false => exact (books_of_calm picks).kept
  | true =>
      exact (promotes_of_picks picks).waiting.trans
        (Finset.union_subset_union_right Finset.subset_union_left)

/-- Whoever waits and did not wait some time before blocked since. -/
private theorem exists_blocked (later : first ≤ last)
    (awake : task ∉ (run.after first).kernel.waiting)
    (waits : task ∈ (run.after last).kernel.waiting) :
    ∃ ended, first ≤ ended ∧ ended < last ∧ ∃ result,
      (run.after ended).control = .body (.slice task) (.pure result) := by
  induction last, later using Nat.le_induction with
  | base => exact absurd waits awake
  | succ last later ih =>
      rcases (run.accounted last).mem_waiting (run.wellformed last) waits with
        already | accounts
      · obtain ⟨ended, since, early, blocks⟩ := ih already
        exact ⟨ended, since, Nat.lt_succ_of_lt early, blocks⟩
      · exact ⟨last, later, Nat.lt_succ_self last, accounts.parks rfl⟩

/-- Who wakes up a second time blocked since, at the end of a slice that began
since. -/
private theorem exists_slice_of_awoken (later : first < last)
    (woken : task ∈ run.awoken first) (again : task ∈ run.awoken last) :
    ∃ began ended, first ≤ began ∧ began < ended ∧ ended < last ∧
      run.picked? began = some task ∧ ∃ result,
        (run.after ended).control = .body (.slice task) (.pure result) := by
  obtain ⟨waited, active⟩ := Finset.mem_inter.mp woken
  obtain ⟨ended, since, early, result, control⟩ := exists_blocked later
    (fun still => Kernel.notMem_active_of_waiting still active)
    (Finset.mem_inter.mp again).1
  have elsewhere : (run.after first).kernel.running ≠ some task := by
    intro running
    have known := (run.state_eq_ok_iff first).mp (state_of_running running)
    cases (Roster.mem_among_of_stateOf known).mp waited
  obtain ⟨began, after, before, picked⟩ := exists_picked_of_running
    (Nat.le_of_succ_le since) elsewhere
    ((run.steady ended).running_of_slice control)
  exact ⟨began, ended, after, before, early, picked, result, control⟩

/-- Those who are woken are counted, or their timer expired. -/
private theorem card_awoken (run : Run S) (count : Nat) :
    (run.awoken count).card =
      (if (run.after count).promotes (run.moves count) then 0
        else (run.awoken count).card) +
        (run.after count).promoted (run.moves count) := by
  cases picks : (run.after count).promotes (run.moves count) with
  | false =>
      have nobody : (run.after count).promoted (run.moves count) = 0 := by
        unfold Machine.promoted
        rw [picks]
        rfl
      rw [nobody]
      rfl
  | true => exact (card_awoken_of_picks picks).trans (Nat.zero_add _).symm

/-! ### What is counted -/

/-- What the counter of resumes counts in the first moves of a run. -/
structure CountsWakings (run : Run S) (count : Nat) : Prop where
  /-- It counts the waiting tasks that became active, but for those whose timer
  expired. -/
  resumes : (run.after count).kernel.stats.resumes = run.wakings count
  /-- Whoever began to wait was counted, or its timer expired, or it died waiting,
  or it waits now. -/
  conserved : run.blockings count =
    (run.after count).kernel.stats.resumes + run.expiries count +
      run.losses count + (run.after count).kernel.waiting.card
  /-- Those who are not counted slept until a deadline that has passed. -/
  expires : (run.after count).promotes (run.moves count) = true →
    (run.awoken count).card = (run.after count).promoted (run.moves count) ∧
      ∀ task ∈ run.awoken count, ∃ deadline,
        (run.after count).state task = .ok (.timer deadline) ∧
          deadline.reached (run.after count).kernel.now = true
  /-- Who is woken again has had a slice since, which ended with it blocking. -/
  once {task : TaskHandle} {last : Nat} : count < last →
    task ∈ run.awoken count → task ∈ run.awoken last →
      ∃ began ended, count ≤ began ∧ began < ended ∧ ended < last ∧
        run.picked? began = some task ∧ ∃ result,
          (run.after ended).control = .body (.slice task) (.pure result)

/-- Every waiting task that is woken is counted once. -/
theorem countsWakings (run : Run S) (count : Nat) :
    run.CountsWakings count := by
  have resumes (count : Nat) :
      (run.after count).kernel.stats.resumes = run.wakings count := by
    induction count with
    | zero => rfl
    | succ count ih =>
        unfold wakings
        rw [← ih]
        cases picks : (run.after count).promotes (run.moves count) with
        | false => exact (books_of_calm picks).resumes
        | true => exact (promotes_of_picks picks).resumes
  constructor
  case resumes => exact resumes count
  case conserved =>
    rw [resumes]
    induction count with
    | zero =>
        have nobody : (run.after 0).kernel.waiting = ∅ := by
          refine Finset.eq_empty_of_forall_notMem fun task waits => ?_
          obtain ⟨state, known, _⟩ := Roster.mem_among_iff.mp waits
          have empty : (run.after 0).kernel.roster = .empty :=
            Kernel.roster_new run.world
          unfold Roster.stateOf at known
          rw [empty, Roster.entryOf_empty] at known
          cases known
        rw [nobody]
        rfl
    | succ count ih =>
        have card := Kernel.card_waiting (run.kept count)
        have woken := run.card_awoken count
        unfold blockings losses expiries wakings
        unfold Run.awoken at woken ⊢
        omega
  case expires =>
    intro picks
    refine ⟨card_awoken_of_picks picks, fun task inside => ?_⟩
    unfold Run.awoken at inside
    rw [(promotes_of_picks picks).awoken, List.mem_toFinset] at inside
    obtain ⟨deadline, asleep, reached⟩ :=
      Roster.stateOf_of_mem_expired (run.wellformed count).sound inside
    exact ⟨deadline, (run.state_eq_ok_iff count).mpr asleep, reached⟩
  case once => exact exists_slice_of_awoken

end Run

end EventScheduler
