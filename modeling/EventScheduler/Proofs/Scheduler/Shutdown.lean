import EventScheduler.Proofs.Scheduler.Sweep

/-!
# What the loop leaves behind

The loop ends when no task is live, and then nothing is left at all.  Or a task
reports a shutdown: then all tasks that are live are killed by ascending slot,
whatever their closes do, and only tasks that closes started meanwhile survive.
Those are on the run queue in the order in which they were started.
-/

namespace EventScheduler

variable {S : Signature}

/-! ### When nobody is left -/

namespace Kernel

/-- No task is live, and nothing names any. -/
structure Deserted (kernel : Kernel S) : Prop where
  nobody (task : TaskHandle) : kernel.isAlive task = false
  runQueue : kernel.tasks.runQueue = []
  timers : kernel.tasks.timerList = []
  watchers (index : Fin maxEvents) : kernel.watchers.watching index = []
  joiners (index : SlotIndex) (entry : TaskEntry S) :
    (kernel.tasks.slot index).entry = some entry → entry.joiners.toList = []
  handlers (index : Fin maxEvents) : kernel.handlers.entry index = none

variable {kernel : Kernel S} {task : TaskHandle}

theorem deserted_of_nobody (wellformed : kernel.Wellformed)
    (related : kernel.Related)
    (nobody : ∀ task, ¬ kernel.roster.Alive task) : kernel.Deserted := by
  have sound := wellformed.sound
  constructor
  case nobody =>
    intro task
    rw [Bool.eq_false_iff, ne_eq, isAlive_iff wellformed]
    exact nobody task
  case runQueue =>
    refine List.eq_nil_iff_forall_not_mem.mpr fun task queued => ?_
    have active := Roster.stateOf_of_mem_queued sound queued
    exact nobody task (Roster.alive_iff_stateOf.mpr ⟨_, active, rfl⟩)
  case timers =>
    refine List.eq_nil_iff_forall_not_mem.mpr fun task asleep => ?_
    obtain ⟨deadline, known⟩ := Roster.stateOf_of_mem_asleep sound asleep
    exact nobody task (Roster.alive_iff_stateOf.mpr ⟨_, known, rfl⟩)
  case watchers =>
    intro index
    refine List.eq_nil_iff_forall_not_mem.mpr fun task inside => ?_
    exact nobody task (related.watching inside)
  case joiners =>
    intro index entry present
    refine List.eq_nil_iff_forall_not_mem.mpr fun task inside => ?_
    exact nobody task (related.joined.alive present inside)
  case handlers =>
    intro index
    refine Option.eq_none_iff_forall_ne_some.mpr fun handled known => ?_
    exact nobody handled.2 (related.handling known)

private theorem pairwise_liveTasks (kernel : Kernel S) :
    kernel.tasks.liveTasks.Pairwise fun task other =>
      task.index < other.index := by
  unfold TaskTable.liveTasks
  rw [List.pairwise_map]
  exact (List.pairwise_lt_finRange maxTasks).filter _

/-- If no active task is off the run queue, all are on it. -/
theorem mem_queued_of_active (placed : kernel.Placed none)
    (active : kernel.roster.stateOf task = some .active) :
    task ∈ kernel.roster.queued := by
  obtain ⟨entry, known, state⟩ := Option.map_eq_some_iff.mp active
  obtain ⟨index, found⟩ := Roster.entryOf_eq_some_iff.mp known
  have fits := (Roster.find?_eq_some_iff.mp found).1
  refine List.mem_map.mpr ⟨index, ?_, fits⟩
  by_contra off
  have stray := (placed.strays.iff index).mp
    ⟨state ▸ Roster.state?_of_find? found, off⟩
  cases stray

end Kernel

private theorem Scheduler.nobody_of_patience [Environment S.World]
    {scheduler : Scheduler S} (wellformed : scheduler.kernel.Wellformed)
    (patience : scheduler.patience = .ok none) (task : TaskHandle) :
    ¬ scheduler.kernel.roster.Alive task := by
  have empty : scheduler.kernel.roster.live = 0 := by
    rw [patience_eq wellformed] at patience
    have answer := Except.ok.inj patience
    split at answer
    · cases answer
    · split at answer
      · cases answer
      · split at answer
        · assumption
        · cases answer
  intro alive
  obtain ⟨index, _, live⟩ := Roster.alive_iff.mp alive
  have positive := wellformed.sound.live_pos live
  omega

namespace Run

variable [Application S]

/-! ### Shutdowns -/

structure Returns (run : Run S) (count : Nat) (value : Option S.Output) :
    Prop where
  unfinished : (run.after count).control.isFinal = false
  ended : (run.after (count + 1)).control = .concluded (.ended value)

structure Reports (run : Run S) (task : TaskHandle) (value : S.Output)
    (count : Nat) : Prop where
  control : ∃ body, (run.after count).control =
    .body (.slice task) (.pure (.shutdown value, body))
  steps : run.moves count = .step

/-- A task reports a shutdown in move `first`, and in move `last` the loop ends
with it. -/
structure ShutsDown (run : Run S) (value : S.Output) (reporter : TaskHandle)
    (first last : Nat) : Prop where
  reports : run.Reports reporter value first
  before : first < last
  sweeping {moment : Nat} : first < moment → moment ≤ last →
    ∃ doomed, (run.after moment).Sweeping value doomed
  returns : run.Returns last (some value)

def byStep (run : Run S) (event : Machine S → Option TaskHandle)
    (count : Nat) : Option TaskHandle :=
  match run.moves count with
  | .step => event (run.after count)
  | _ => none

def during (run : Run S) (event : Machine S → Option TaskHandle)
    (first last : Nat) : List TaskHandle :=
  (List.range' first (last - first)).filterMap (run.byStep event)

/-- The tasks that closes start, in the order in which they are started. -/
def newcomers (run : Run S) (first last : Nat) : List TaskHandle :=
  run.during Machine.newcomer? first last

/-- The tasks that a shutdown comes to, one after the other. -/
def visited (run : Run S) (first last : Nat) : List TaskHandle :=
  run.during Machine.visit? first last

variable {run : Run S} {event : Machine S → Option TaskHandle}
  {task reporter : TaskHandle} {value : S.Output}
  {count first last moment later : Nat}

theorem byStep_eq_some_iff : run.byStep event count = some task ↔
    run.moves count = .step ∧ event (run.after count) = some task := by
  unfold byStep
  cases run.moves count <;> simp

theorem byStep_eq_none (nothing : run.moves count = .step →
    event (run.after count) = none) : run.byStep event count = none := by
  refine Option.eq_none_iff_forall_ne_some.mpr fun task known => ?_
  obtain ⟨steps, happens⟩ := byStep_eq_some_iff.mp known
  cases (nothing steps).symm.trans happens

theorem during_self (run : Run S) (event : Machine S → Option TaskHandle)
    (first : Nat) : run.during event first first = [] := by
  simp [during]

theorem during_succ (after : first ≤ last) :
    run.during event first (last + 1) =
      run.during event first last ++ (run.byStep event last).toList := by
  unfold during
  rw [Nat.succ_sub after, List.range'_1_concat, List.filterMap_append,
    Nat.add_sub_cancel' after]
  cases happens : run.byStep event last <;> simp [happens]

theorem mem_during_iff : task ∈ run.during event first last ↔
    ∃ moment, first ≤ moment ∧ moment < last ∧
      run.byStep event moment = some task := by
  unfold during
  simp only [List.mem_filterMap, List.mem_range'_1]
  constructor
  · rintro ⟨moment, ⟨since, early⟩, happens⟩
    exact ⟨moment, since, by omega, happens⟩
  · rintro ⟨moment, since, early, happens⟩
    exact ⟨moment, ⟨since, by omega⟩, happens⟩

theorem unfaulted_of_le (after : count ≤ later)
    (unfaulted : (run.after later).control.isFaulted = false) :
    (run.after count).control.isFaulted = false := by
  induction later, after using Nat.le_induction with
  | base => exact unfaulted
  | succ later after ih =>
      exact ih ((run.transition later).isFaulted unfaulted)

/-- Who is alive stays so, or ends. -/
theorem alive_or_ends (alive : (run.after count).kernel.roster.Alive task) :
    (run.after (count + 1)).kernel.roster.Alive task ∨
      ∃ exit, run.Ends count task exit := by
  rcases (run.accounted count).alive_or_dies
    (run.wellformed count) alive with still | accounts
  · exact Or.inl still
  · refine Or.inr ?_
    cases accounts.dies rfl with
    | slice steps control exits dead => exact ⟨_, .slice control steps exits⟩
    | close same closings dead => exact ⟨_, .kill same closings⟩

/-- What begins and is over in the end was over at some time for the first
time. -/
private theorem exists_over (inside : Nat → Prop) (begins : inside (first + 1))
    (after : first < last) (gone : ¬ inside last) :
    ∃ ended, first < ended ∧ ended < last ∧ ¬ inside (ended + 1) ∧
      ∀ moment, first < moment → moment ≤ ended → inside moment := by
  classical
  have outside : ∃ moment, first < moment ∧ ¬ inside moment :=
    ⟨last, after, gone⟩
  obtain ⟨since, ends⟩ := Nat.find_spec outside
  have early : Nat.find outside ≤ last := Nat.find_min' outside ⟨after, gone⟩
  obtain ⟨ended, same⟩ :=
    Nat.exists_eq_add_one_of_ne_zero (Nat.ne_zero_of_lt since)
  rw [same] at since ends early
  have later : first ≠ ended := by
    rintro rfl
    exact ends begins
  refine ⟨ended, by omega, early, ends, fun moment known late => ?_⟩
  by_contra out
  have sooner : moment < Nat.find outside := by omega
  exact Nat.find_min outside sooner ⟨known, out⟩

/-- A close that is over came to its end with a step. -/
private theorem exists_dies {closing : Closing}
    (begins : run.begun? first = some closing) (after : first < last)
    (unfaulted : (run.after last).control.isFaulted = false)
    (gone : closing ∉ (run.after last).closings) :
    ∃ ended, ended < last ∧
      run.Dies closing.task first .cancelled ended := by
  have entered : closing ∈ (run.after (first + 1)).closings := by
    rw [begun?_eq_some_iff.mp begins]
    exact List.mem_cons_self
  obtain ⟨ended, since, early, left, inside⟩ :=
    exists_over (fun moment => closing ∈ (run.after moment).closings) entered
      after gone
  have member := inside ended since (Nat.le_refl _)
  have sound : (run.after (ended + 1)).control.isFaulted = false :=
    unfaulted_of_le early unfaulted
  refine ⟨ended, early, ?_⟩
  cases run.nests ended with
  | begins _ _ known => exact absurd (known ▸ List.mem_cons_of_mem _ member) left
  | keeps known => exact absurd (known ▸ member) left
  | fails faulted _ =>
      rw [sound] at faulted
      cases faulted
  | ends control settles answers known =>
      rw [known] at member
      obtain rfl := (List.mem_cons.mp member).resolve_right left
      refine .killed rfl begins since inside control ?_
      by_contra other
      have busy : (run.after ended).control.isIdle = false := by
        rw [control]
        rfl
      rcases Machine.control_of_move busy other with same | faulted
      · cases control.symm.trans (same.symm.trans answers)
      · rw [show ((run.after ended).move _).control.isFaulted = _ from sound]
          at faulted
        cases faulted

/-- A shutdown that is under way was reported. -/
private theorem exists_reports {doomed : List TaskHandle}
    (unfaulted : (run.after last).control.isFaulted = false)
    (sweeping : (run.after last).Sweeping value doomed) :
    ∃ reporter first, run.Reports reporter value first ∧ first < last ∧
      ∀ moment, first < moment → moment ≤ last →
        ∃ doomed, (run.after moment).Sweeping value doomed := by
  induction last generalizing doomed with
  | zero => rcases sweeping with impossible | impossible <;> cases impossible
  | succ last ih =>
      have steady := run.steady last
      have transition := run.transition last
      have since {others : List TaskHandle}
          (before : (run.after last).Sweeping value others) :
          ∃ reporter first, run.Reports reporter value first ∧
            first < last + 1 ∧ ∀ moment, first < moment → moment ≤ last + 1 →
              ∃ doomed, (run.after moment).Sweeping value doomed := by
        obtain ⟨reporter, first, reports, early, going⟩ :=
          ih (transition.isFaulted unfaulted) before
        refine ⟨reporter, first, reports, Nat.lt_succ_of_lt early,
          fun moment after late => ?_⟩
        rcases Nat.le_succ_iff.mp late with earlier | rfl
        · exact going moment after earlier
        · exact ⟨doomed, sweeping⟩
      cases transition.sweeping steady unfaulted sweeping with
      | @reports reporter body steps control live =>
          refine ⟨reporter, last, ⟨⟨body, control⟩, steps⟩,
            Nat.lt_succ_self last, fun moment after late => ?_⟩
          obtain rfl : moment = last + 1 := by omega
          exact ⟨doomed, sweeping⟩
      | waits before => exact since before
      | passes steps control | kills steps control => exact since (Or.inl control)

theorem Returns.exists_shutsDown (returns : run.Returns last (some value)) :
    ∃ reporter first, run.ShutsDown value reporter first last := by
  obtain ⟨control, _⟩ :=
    (run.transition last).ended_cases returns.unfinished returns.ended
  obtain ⟨reporter, first, reports, before, sweeping⟩ :=
    exists_reports (by rw [control]; rfl) (Or.inl control)
  exact ⟨reporter, first, reports, before, fun {moment} => sweeping moment,
    returns⟩

/-! ### From the report to the end -/

namespace ShutsDown

variable (shuts : run.ShutsDown value reporter first last)

include shuts

private theorem unfaulted (early : moment ≤ last + 1) :
    (run.after moment).control.isFaulted = false := by
  refine unfaulted_of_le early ?_
  rw [shuts.returns.ended]
  rfl

private theorem isIdle (since : first < moment) (early : moment ≤ last) :
    (run.after moment).control.isIdle = false := by
  obtain ⟨doomed, sweeping⟩ := shuts.sweeping since early
  exact sweeping.isIdle (run.steady moment)
    (shuts.unfaulted (Nat.le_succ_of_le early))

private theorem turns (since : first < moment) (early : moment ≤ last) :
    (run.after moment).control.turns = false := by
  obtain ⟨doomed, sweeping⟩ := shuts.sweeping since early
  exact sweeping.turns (run.steady moment)
    (shuts.unfaulted (Nat.le_succ_of_le early))

/-- No slice ends. -/
private theorem control_ne_slice (since : first < moment) (early : moment ≤ last)
    (result : S.Step × S.Body) :
    (run.after moment).control ≠ .body (.slice task) (.pure result) := by
  intro control
  have turns := shuts.turns since early
  rw [control] at turns
  cases turns

/-- In the end the shutdown has nothing left to do. -/
private theorem ended : (run.after last).control = .sweep value [] ∧
    (run.after (last + 1)).kernel = (run.after last).kernel :=
  (run.transition last).ended_cases shuts.returns.unfinished
    shuts.returns.ended

/-- No task runs. -/
theorem running (since : first < moment) (early : moment ≤ last + 1) :
    (run.after moment).kernel.running = none := by
  rcases Nat.le_succ_iff.mp early with earlier | rfl
  · obtain ⟨doomed, sweeping⟩ := shuts.sweeping since earlier
    exact sweeping.running (run.steady moment) (shuts.unfaulted early)
  · rw [shuts.ended.2]
    obtain ⟨doomed, sweeping⟩ := shuts.sweeping shuts.before (Nat.le_refl _)
    exact sweeping.running (run.steady last)
      (shuts.unfaulted (Nat.le_succ last))

/-! #### Who dies -/

private theorem stateOf_dead {exit : S.Exit} (since : first < moment)
    (after : moment ≤ later) (early : later ≤ last + 1)
    (dead : (run.after moment).kernel.roster.stateOf task =
      some (.dead exit)) :
    (run.after later).kernel.roster.stateOf task = some (.dead exit) := by
  induction later, after using Nat.le_induction with
  | base => exact dead
  | succ later after ih =>
      exact dead_succ (ih (by omega)) (shuts.isIdle (by omega) (by omega))

private theorem dead_of_closes (since : first < moment) (after : moment < later)
    (early : later ≤ last + 1) (closes : run.closes task moment = true) :
    (run.after later).kernel.roster.stateOf task =
      some (.dead .cancelled) := by
  obtain ⟨closing, killed, closings⟩ := closes_iff.mp closes
  exact shuts.stateOf_dead (Nat.lt_succ_of_lt since) after early
    (Ends.kill killed closings).dead.2

/-- Who lives is spared as long as it is not killed. -/
private theorem alive_or_closes (since : first < moment) (after : moment ≤ later)
    (early : later ≤ last)
    (alive : (run.after moment).kernel.roster.Alive task) :
    (run.after later).kernel.roster.Alive task ∨
      ∃ between, moment ≤ between ∧ between < later ∧
        run.closes task between = true := by
  induction later, after using Nat.le_induction with
  | base => exact Or.inl alive
  | succ later after ih =>
      rcases ih (by omega) with still | ⟨between, known, earlier, closes⟩
      · rcases alive_or_ends still with lives | ⟨exit, ends⟩
        · exact Or.inl lives
        · refine Or.inr ⟨later, after, Nat.lt_succ_self later, ?_⟩
          cases ends with
          | slice control =>
              exact absurd control
                (shuts.control_ne_slice (by omega) (by omega) _)
          | kill killed closings => exact closes_iff.mpr ⟨_, killed, closings⟩
      · exact Or.inr ⟨between, known, by omega, closes⟩

/-- Whoever was alive after the report is there, dead or alive. -/
private theorem stateOf_ne_none (since : first < moment) (early : moment ≤ last)
    (alive : (run.after (first + 1)).kernel.roster.Alive task) :
    (run.after moment).kernel.roster.stateOf task ≠ none := by
  rcases shuts.alive_or_closes (Nat.lt_succ_self first) since early alive with
    lives | ⟨between, known, earlier, closes⟩
  · obtain ⟨state, known, _⟩ := Roster.alive_iff_stateOf.mp lives
    rw [known]
    exact Option.some_ne_none state
  · rw [shuts.dead_of_closes known earlier (Nat.le_succ_of_le early) closes]
    exact Option.some_ne_none _

/-- Who reports the shutdown is the only one that its slice ends. -/
private theorem alive_succ_iff :
    (run.after (first + 1)).kernel.roster.Alive task ↔
      (run.after first).kernel.roster.Alive task ∧ task ≠ reporter := by
  obtain ⟨body, control⟩ := shuts.reports.control
  have dead : (run.after (first + 1)).kernel.roster.stateOf reporter = _ :=
    (Ends.slice control shuts.reports.steps rfl).dead.2
  constructor
  · intro alive
    constructor
    · rcases (run.accounted first).alive_or_started
        (run.wellformed first) alive with
        already | ⟨deed, accounts, starts⟩
      · exact already
      · have does := accounts.starts starts
        rw [shuts.reports.steps] at does
        cases does with
        | request asks => cases control.symm.trans asks
    · rintro rfl
      exact Roster.not_alive_of_dead dead alive
  · rintro ⟨alive, other⟩
    rcases alive_or_ends alive with still | ⟨exit, ends⟩
    · exact still
    · cases ends with
      | slice known =>
          cases control.symm.trans known
          exact absurd rfl other
      | kill killed closings =>
          rcases (run.transition first).begins_cases (run.steady first)
            closings with
            idle | ⟨role, request, rest, asks⟩ | ⟨value, doomed, sweeps⟩
          · rw [control] at idle
            cases idle
          · cases control.symm.trans asks
          · cases control.symm.trans sweeps

/-! #### Whom the shutdown comes to -/

/-- With the report the shutdown begins; then it waits or comes to the next
task. -/
private theorem sweepsOn {doomed : List TaskHandle} (early : moment < last)
    (sweeping : (run.after (moment + 1)).Sweeping value doomed) :
    (run.after moment).SweepsOn (run.moves moment) (run.after (moment + 1))
      value doomed :=
  (run.transition moment).sweeping (run.steady moment)
    (shuts.unfaulted (Nat.le_succ_of_le early)) sweeping

/-- With the report itself it comes to nobody. -/
private theorem visit_first : run.byStep Machine.visit? first = none := by
  obtain ⟨body, control⟩ := shuts.reports.control
  refine byStep_eq_none fun _ => ?_
  unfold Machine.visit?
  rw [control]

private theorem visited_append {doomed : List TaskHandle}
    (since : first < moment) (early : moment ≤ last)
    (sweeping : (run.after moment).Sweeping value doomed) :
    run.visited first moment ++ doomed =
      (run.after (first + 1)).kernel.tasks.liveTasks := by
  induction moment, since using Nat.le_induction generalizing doomed with
  | base =>
      obtain ⟨body, control⟩ := shuts.reports.control
      unfold visited
      rw [during_succ (Nat.le_refl first), during_self, shuts.visit_first]
      cases shuts.sweepsOn shuts.before sweeping with
      | reports steps known live => exact live
      | waits before busy =>
          obtain ⟨closing, impossible⟩ := before.closes (run.steady first) control
          cases impossible
      | passes steps known | kills steps known =>
          cases control.symm.trans known
  | succ moment since ih =>
      unfold visited at ih ⊢
      rw [during_succ (by omega)]
      have comes {task : TaskHandle} (steps : run.moves moment = .step)
          (control : (run.after moment).control =
            .sweep value (task :: doomed)) :
          run.during Machine.visit? first moment ++
              (run.byStep Machine.visit? moment).toList ++ doomed =
            (run.after (first + 1)).kernel.tasks.liveTasks := by
        have visit : run.byStep Machine.visit? moment = some task := by
          refine byStep_eq_some_iff.mpr ⟨steps, ?_⟩
          unfold Machine.visit?
          rw [control]
        rw [visit, List.append_assoc]
        exact ih (by omega) (Or.inl control)
      cases shuts.sweepsOn early sweeping with
      | reports steps control =>
          exact absurd control (shuts.control_ne_slice since (by omega) _)
      | waits before busy =>
          rw [byStep_eq_none busy, Option.toList_none, List.append_nil]
          exact ih (by omega) before
      | passes steps control | kills steps control =>
          exact comes steps control

/-- In the end it has come to all that were alive after the report. -/
private theorem visited_eq : run.visited first last =
    (run.after (first + 1)).kernel.tasks.liveTasks := by
  have all := shuts.visited_append shuts.before (Nat.le_refl last)
    (Or.inl shuts.ended.1)
  rwa [List.append_nil] at all

private theorem mem_visited_iff : task ∈ run.visited first last ↔
    (run.after (first + 1)).kernel.roster.Alive task := by
  rw [shuts.visited_eq]
  exact (run.wellformed _).holds.mem_liveTasks_iff

/-- It kills whom it comes to, if that is still alive. -/
private theorem visit_cases (since : first < moment) (early : moment < last)
    (visit : run.byStep Machine.visit? moment = some task) :
    (run.after moment).kernel.roster.Alive task ∧
        (∃ closing, closing.task = task ∧ run.begun? moment = some closing) ∨
      ¬ (run.after moment).kernel.roster.Alive task ∧
        run.begun? moment = none := by
  obtain ⟨steps, visit⟩ := byStep_eq_some_iff.mp visit
  obtain ⟨doomed, sweeping⟩ := shuts.sweeping (Nat.lt_succ_of_lt since) early
  cases shuts.sweepsOn early sweeping with
  | reports _ control =>
      exact absurd control (shuts.control_ne_slice since (Nat.le_of_lt early) _)
  | waits before busy => cases (busy steps).symm.trans visit
  | passes _ control gone closings =>
      unfold Machine.visit? at visit
      rw [control] at visit
      cases visit
      refine Or.inr ⟨gone, ?_⟩
      refine Option.eq_none_iff_forall_ne_some.mpr fun closing begins => ?_
      have longer := begun?_eq_some_iff.mp begins
      exact List.cons_ne_self _ _ (longer.symm.trans closings)
  | kills _ control begins closings =>
      unfold Machine.visit? at visit
      rw [control] at visit
      cases visit
      exact Or.inl ⟨begins.begins.alive, _, rfl, begun?_eq_some_iff.mpr closings⟩

/-- Everybody who was alive after the report is killed. -/
private theorem exists_closes
    (alive : (run.after (first + 1)).kernel.roster.Alive task) :
    ∃ between, first < between ∧ between < last ∧
      run.closes task between = true := by
  obtain ⟨moment, since, early, visit⟩ :=
    mem_during_iff.mp (shuts.mem_visited_iff.mpr alive)
  have after : first < moment := by
    refine Nat.lt_of_le_of_ne since ?_
    rintro rfl
    cases shuts.visit_first.symm.trans visit
  rcases shuts.alive_or_closes (Nat.lt_succ_self first) after
    (Nat.le_of_lt early) alive with lives | ⟨between, known, earlier, closes⟩
  · rcases shuts.visit_cases after early visit with
      ⟨_, closing, killed, begins⟩ | ⟨gone, _⟩
    · exact ⟨moment, after, early,
        closes_iff.mpr ⟨closing, killed, begun?_eq_some_iff.mp begins⟩⟩
    · exact absurd lives gone
  · exact ⟨between, known, by omega, closes⟩

/-! #### Who is started meanwhile -/

/-- A newcomer was not there before, and it lives. -/
private theorem newcomer_cases (since : first ≤ moment)
    (starts : run.byStep Machine.newcomer? moment = some task) :
    first < moment ∧ (run.after moment).kernel.roster.stateOf task = none ∧
      (run.after (moment + 1)).kernel.roster.Alive task := by
  obtain ⟨steps, known⟩ := byStep_eq_some_iff.mp starts
  have steady := run.steady moment
  obtain ⟨deed, middle, change, begins, quiet⟩ :=
    Machine.exists_of_newcomer? steady known
  obtain ⟨nothing, active⟩ := change.stateOf_of_started begins
  have same : ((run.after moment).move .step).kernel.roster.stateOf task =
      middle.roster.stateOf task := by
    refine quiet.stateOf_eq (change.wellformed steady.placed.wellformed) ?_
    rintro deed rfl concerns
    cases concerns with
    | starts impossible => cases impossible
  refine ⟨Nat.lt_of_le_of_ne since ?_, nothing, ?_⟩
  · rintro rfl
    obtain ⟨body, control⟩ := shuts.reports.control
    unfold Machine.newcomer? at known
    rw [control] at known
    cases known
  · rw [after_succ steps]
    exact Roster.alive_iff_stateOf.mpr ⟨_, same.trans active, rfl⟩

private theorem newcomers_succ_self : run.newcomers first (first + 1) = [] := by
  refine List.eq_nil_iff_forall_not_mem.mpr fun task inside => ?_
  obtain ⟨moment, since, early, starts⟩ := mem_during_iff.mp inside
  have after := (shuts.newcomer_cases since starts).1
  omega

/-- What a move comes to while the shutdown is under way. -/
private theorem calm (since : first < moment) (early : moment ≤ last)
    {deed : Deed} (accounts : (run.after moment).Accounts (run.moves moment)
      (run.after (moment + 1)) deed) :
    deed.isOfTurn = false ∧ (∀ task, deed ≠ .reaps task) ∧
      ∀ task, deed.started? = some task →
        run.byStep Machine.newcomer? moment = some task := by
  refine ⟨?_, ?_, ?_⟩
  · refine Deed.isOfTurn_of_turns (Bool.eq_false_iff.mpr fun turning => ?_)
    have turns := shuts.turns since early
    rw [accounts.turns turning] at turns
    cases turns
  · rintro task rfl
    have idle := (accounts.reaps rfl).eq_reap.1
    rw [shuts.isIdle since early] at idle
    cases idle
  · intro task starts
    obtain ⟨doomed, sweeping⟩ := shuts.sweeping since early
    exact byStep_eq_some_iff.mpr (sweeping.newcomer?_eq (run.steady moment)
      (shuts.unfaulted (Nat.le_succ_of_le early)) (accounts.starts starts) starts)

/-- The newcomers are on the run queue in the order in which they were
started. -/
private theorem linedUp (since : first < moment) (early : moment ≤ last) :
    (run.after moment).kernel.LinedUp (run.newcomers first moment) := by
  induction moment, since using Nat.le_induction with
  | base =>
      rw [shuts.newcomers_succ_self]
      exact Kernel.linedUp_nil _
  | succ moment since ih =>
      have steady := run.steady moment
      have wellformed := steady.placed.wellformed
      have before := ih (by omega)
      unfold newcomers at before ⊢
      rw [during_succ (by omega)]
      cases starts : run.byStep Machine.newcomer? moment with
      | none =>
          rw [Option.toList_none, List.append_nil]
          refine (run.accounted moment).linedUp wellformed
            (fun deed accounts => ?_) before
          obtain ⟨between, unreaped, newcomer⟩ :=
            shuts.calm since (by omega) accounts
          refine ⟨between, ?_, unreaped⟩
          refine Option.eq_none_iff_forall_ne_some.mpr fun task known => ?_
          cases starts.symm.trans (newcomer task known)
      | some task =>
          obtain ⟨steps, known⟩ := byStep_eq_some_iff.mp starts
          obtain ⟨deed, middle, change, begins, quiet⟩ :=
            Machine.exists_of_newcomer? steady known
          obtain ⟨between, unreaped⟩ := Deed.between_of_started begins
          have lined := change.linedUp wellformed between unreaped before
          rw [begins] at lined
          rw [after_succ steps]
          refine quiet.linedUp (change.wellformed wellformed) ?_ lined
          rintro deed rfl
          exact ⟨rfl, rfl, fun _ impossible => nomatch impossible⟩

/-- Who lives lived after the report, or is a newcomer. -/
private theorem alive_cases (since : first < moment) (early : moment ≤ last)
    (alive : (run.after moment).kernel.roster.Alive task) :
    (run.after (first + 1)).kernel.roster.Alive task ∨
      task ∈ run.newcomers first moment := by
  induction moment, since using Nat.le_induction with
  | base => exact Or.inl alive
  | succ moment since ih =>
      unfold newcomers at ih ⊢
      rw [during_succ (by omega), List.mem_append, Option.mem_toList]
      rcases (run.accounted moment).alive_or_started
        (run.wellformed moment) alive with
        already | ⟨deed, accounts, starts⟩
      · exact (ih (by omega) already).imp_right Or.inl
      · exact Or.inr (Or.inr
          ((shuts.calm since (by omega) accounts).2.2 task starts))

private theorem not_alive_of_newcomer (inside : task ∈ run.newcomers first last) :
    ¬ (run.after (first + 1)).kernel.roster.Alive task := by
  obtain ⟨moment, since, early, starts⟩ := mem_during_iff.mp inside
  obtain ⟨after, nothing, _⟩ := shuts.newcomer_cases since starts
  exact fun alive =>
    shuts.stateOf_ne_none after (Nat.le_of_lt early) alive nothing

/-- In the end the newcomers live that were not killed. -/
private theorem alive_iff : (run.after last).kernel.roster.Alive task ↔
    task ∈ run.newcomers first last ∧ ∀ between, first < between →
      between < last → run.closes task between = false := by
  have spared (alive : (run.after last).kernel.roster.Alive task)
      (between : Nat) (since : first < between) (early : between < last) :
      run.closes task between = false := by
    refine Bool.eq_false_iff.mpr fun closes => ?_
    have dead := shuts.dead_of_closes since early (Nat.le_succ last) closes
    exact Roster.not_alive_of_dead dead alive
  constructor
  · intro alive
    refine ⟨?_, spared alive⟩
    rcases shuts.alive_cases shuts.before (Nat.le_refl last) alive with
      before | newcomer
    · obtain ⟨between, since, early, closes⟩ := shuts.exists_closes before
      rw [spared alive between since early] at closes
      cases closes
    · exact newcomer
  · rintro ⟨newcomer, spared⟩
    obtain ⟨moment, since, early, starts⟩ := mem_during_iff.mp newcomer
    obtain ⟨after, _, alive⟩ := shuts.newcomer_cases since starts
    rcases shuts.alive_or_closes (Nat.lt_succ_of_lt after) early
      (Nat.le_refl last) alive with lives | ⟨between, known, earlier, closes⟩
    · exact lives
    · rw [spared between (by omega) earlier] at closes
      cases closes

/-- And they are active. -/
private theorem active_of_alive
    (alive : (run.after last).kernel.roster.Alive task) :
    (run.after last).kernel.roster.stateOf task = some .active := by
  have lined := shuts.linedUp shuts.before (Nat.le_refl last)
  obtain ⟨state, known, unblocked⟩ := lined.settled (shuts.alive_iff.mp alive).1
  obtain ⟨stateToo, knownToo, notDead⟩ := Roster.alive_iff_stateOf.mp alive
  cases known.symm.trans knownToo
  cases state with
  | active => exact known
  | dead exit => cases notDead
  | suspended | timer => cases unblocked

private theorem queued_eq : (run.after last).kernel.roster.queued =
    (run.newcomers first last).filter (run.after last).kernel.isAlive := by
  have steady := run.steady last
  have wellformed := steady.placed.wellformed
  have control := shuts.ended.1
  have placed : (run.after last).kernel.Placed none := by
    have nobody : (run.after last).stray = none := by
      rw [steady.stray_eq_running (by rw [control]; rfl)]
      exact shuts.running shuts.before (Nat.le_succ last)
    exact nobody ▸ steady.placed
  have mem_queued (task : TaskHandle) :
      task ∈ (run.after last).kernel.roster.queued ↔
        (run.after last).kernel.roster.Alive task := by
    constructor
    · intro queued
      have active := Roster.stateOf_of_mem_queued wellformed.sound queued
      exact Roster.alive_iff_stateOf.mpr ⟨_, active, rfl⟩
    · exact fun alive =>
        Kernel.mem_queued_of_active placed (shuts.active_of_alive alive)
  have order := (shuts.linedUp shuts.before (Nat.le_refl last)).order
  rw [List.filter_eq_self.mpr fun task queued => decide_eq_true
    (shuts.alive_iff.mp ((mem_queued task).mp queued)).1] at order
  rw [order]
  refine List.filter_congr fun task _ => ?_
  rw [Bool.eq_iff_iff, decide_eq_true_eq, mem_queued,
    Kernel.isAlive_iff wellformed]

/-- Only a close that asks for it kills a newcomer. -/
private theorem asks_of_closes (newcomer : task ∈ run.newcomers first last)
    (since : first < moment) (early : moment < last)
    (closes : run.closes task moment = true) :
    ∃ closing request rest, (run.after moment).control =
      .body (.close closing) (.ask request rest) := by
  have steady := run.steady moment
  obtain ⟨closing, killed, closings⟩ := closes_iff.mp closes
  obtain ⟨doomed, sweeping⟩ := shuts.sweeping since (Nat.le_of_lt early)
  rcases (run.transition moment).begins_cases steady closings with
    idle | ⟨role, request, rest, asks⟩ | ⟨other, others, sweeps⟩
  · rw [shuts.isIdle since (Nat.le_of_lt early)] at idle
    cases idle
  · obtain ⟨closing, rfl⟩ := sweeping.closes steady asks
    exact ⟨closing, request, rest, asks⟩
  · obtain ⟨rfl, rfl⟩ := sweeping.eq_of_control steady sweeps
    have all := shuts.visited_append since (Nat.le_of_lt early) sweeping
    have doomed : task ∈ (run.after (first + 1)).kernel.tasks.liveTasks := by
      rw [← all, killed]
      exact List.mem_append_right _ List.mem_cons_self
    exact absurd ((run.wellformed _).holds.mem_liveTasks_iff.mp doomed)
      (shuts.not_alive_of_newcomer newcomer)

end ShutsDown

/-- What a shutdown leaves behind that was reported in move `first` and ended the
loop in move `last`. -/
structure Aftermath (run : Run S) (value : S.Output) (reporter : TaskHandle)
    (first last : Nat) : Prop where
  returned : (run.after (last + 1)).state reporter =
    .ok (.dead (.returned value))
  /-- All others that were alive were killed, and their closes were run once, from
  beginning to end. -/
  killed {task : TaskHandle} :
    (run.after first).kernel.isAlive task = true → task ≠ reporter →
      (run.after (last + 1)).state task = .ok (.dead .cancelled) ∧
        run.timesClosed task (last + 1) = 1 ∧
        ∃ begun ended, first < begun ∧ ended < last ∧
          run.Dies task begun .cancelled ended
  /-- The shutdown came to each of them, by ascending slot. -/
  visited {task : TaskHandle} : task ∈ run.visited first last ↔
    (run.after first).kernel.isAlive task = true ∧ task ≠ reporter
  ascending : (run.visited first last).Pairwise fun task other =>
    task.index < other.index
  /-- It killed those that were still alive then. -/
  sweeps {moment : Nat} {task : TaskHandle} : first < moment → moment < last →
    run.byStep Machine.visit? moment = some task →
      (run.begun? moment).map Closing.task =
        if (run.after moment).kernel.isAlive task then some task else none
  timers : (run.after (last + 1)).timers = []
  yielded : (run.after (last + 1)).yielded = none
  /-- No task has run since the report. -/
  running {moment : Nat} : first < moment → moment ≤ last + 1 →
    (run.after moment).kernel.running = none
  /-- The live tasks are those that closes started since and that were not
  killed. -/
  live {task : TaskHandle} :
    (run.after (last + 1)).kernel.isAlive task = true ↔
      task ∈ run.newcomers first last ∧ ∀ moment, first < moment →
        moment < last → run.closes task moment = false
  /-- Only closes kill what closes started. -/
  asked {moment : Nat} {task : TaskHandle} : task ∈ run.newcomers first last →
    first < moment → moment < last → run.closes task moment = true →
      ∃ closing request rest, (run.after moment).control =
        .body (.close closing) (.ask request rest)
  active {task : TaskHandle} :
    (run.after (last + 1)).kernel.isAlive task = true →
      (run.after (last + 1)).state task = .ok .active
  /-- They are the run queue, in the order in which they were started. -/
  runQueue : (run.after (last + 1)).runQueue =
    (run.newcomers first last).filter (run.after (last + 1)).kernel.isAlive

theorem ShutsDown.aftermath (shuts : run.ShutsDown value reporter first last) :
    run.Aftermath value reporter first last := by
  obtain ⟨control, kernel⟩ := shuts.ended
  constructor
  case returned =>
    obtain ⟨body, reports⟩ := shuts.reports.control
    rw [run.state_eq_ok_iff]
    exact shuts.stateOf_dead (Nat.lt_succ_self first)
      (Nat.succ_le_succ (Nat.le_of_lt shuts.before)) (Nat.le_refl _)
      (Ends.slice reports shuts.reports.steps rfl).dead.2
  case killed =>
    intro task alive other
    have before := shuts.alive_succ_iff.mpr ⟨(run.isAlive_iff first).mp alive, other⟩
    obtain ⟨between, since, early, closes⟩ := shuts.exists_closes before
    have dead := (run.state_eq_ok_iff _).mpr
      (shuts.dead_of_closes since (Nat.lt_succ_of_lt early) (Nat.le_refl _) closes)
    refine ⟨dead, timesClosed_of_killed dead, between, ?_⟩
    obtain ⟨closing, rfl, closings⟩ := closes_iff.mp closes
    -- The loop has ended by then, so the close has come to its end.
    have left : closing ∉ (run.after last).closings := by
      rw [(run.steady last).closings_eq_nil (by rw [control]; rfl)]
      exact List.not_mem_nil
    obtain ⟨ended, sooner, dies⟩ := exists_dies (begun?_eq_some_iff.mpr closings)
      early (shuts.unfaulted (Nat.le_succ last)) left
    exact ⟨ended, since, sooner, dies⟩
  case visited =>
    intro task
    rw [shuts.mem_visited_iff, shuts.alive_succ_iff, run.isAlive_iff]
  case ascending =>
    rw [shuts.visited_eq]
    exact Kernel.pairwise_liveTasks _
  case sweeps =>
    intro moment task since early visit
    rcases shuts.visit_cases since early visit with
      ⟨alive, closing, killed, begins⟩ | ⟨gone, nothing⟩
    · rw [begins, if_pos ((run.isAlive_iff moment).mpr alive), ← killed]
      rfl
    · rw [nothing, if_neg fun alive => gone ((run.isAlive_iff moment).mp alive)]
      rfl
  case timers =>
    change (run.after (last + 1)).kernel.roster.asleep = []
    rw [kernel]
    -- Whoever sleeps is alive, but only tasks that have never run are alive,
    -- and these are in the run queue.
    refine List.eq_nil_iff_forall_not_mem.mpr fun task asleep => ?_
    obtain ⟨deadline, known⟩ :=
      Roster.stateOf_of_mem_asleep (run.wellformed last).sound asleep
    have alive := Roster.alive_iff_stateOf.mpr ⟨_, known, rfl⟩
    cases known.symm.trans (shuts.active_of_alive alive)
  case yielded =>
    apply (run.steady (last + 1)).yielded_eq_none
    rw [shuts.returns.ended]
    rfl
  case running => exact shuts.running
  case live =>
    intro task
    rw [run.isAlive_iff, kernel]
    exact shuts.alive_iff
  case asked => exact shuts.asks_of_closes
  case active =>
    intro task alive
    have alive := (run.isAlive_iff (last + 1)).mp alive
    rw [kernel] at alive
    rw [run.state_eq_ok_iff, kernel]
    exact shuts.active_of_alive alive
  case runQueue =>
    change (run.after (last + 1)).kernel.roster.queued = _
    rw [kernel]
    exact shuts.queued_eq

/-- What is left behind when the loop ends. -/
structure EndsByShutdownOrDeserted (run : Run S) (count : Nat) : Prop where
  /-- The value with which the loop ends was reported by a task. -/
  reported {value : S.Output} : run.Returns count (some value) →
    ∃ reporter first, run.ShutsDown value reporter first count
  aftermath {value : S.Output} {reporter : TaskHandle} {first : Nat} :
    run.ShutsDown value reporter first count →
      run.Aftermath value reporter first count
  /-- The loop ends without a value only when nobody is left. -/
  deserted : run.Returns count none → (run.after (count + 1)).kernel.Deserted

private theorem deserted_of_returns (returns : run.Returns count none) :
    (run.after (count + 1)).kernel.Deserted := by
  have steady := run.steady count
  have wellformed := steady.placed.wellformed
  obtain ⟨patience, evolves⟩ :=
    (run.transition count).ended_cases returns.unfinished returns.ended
  refine Kernel.deserted_of_nobody (run.wellformed (count + 1))
    (run.related (count + 1)) fun task alive => ?_
  rcases evolves.alive_or_started wellformed alive with
    already | ⟨deed, rfl, impossible⟩
  · exact Scheduler.nobody_of_patience wellformed patience task already
  · cases impossible

end Run

end EventScheduler
