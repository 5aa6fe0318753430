import EventScheduler.Proofs.Deadline
import EventScheduler.VirtualClock
import Mathlib.Data.List.Perm.Basic

/-!
# What a virtual clock goes through

However often interrupts are scripted and the clock is slept for, the interrupts
that are still to come are in the order of their times, and those at one time in
the order in which they were scripted.  A sleep raises the first of them or
lasts until the deadline, and the clock never goes back.
-/

namespace EventScheduler

inductive ClockAction
  | script (tick : Tick) (event : EventHandle)
  | sleep (deadline : Deadline)

def Wakeup.world {World : Type} : Wakeup World → World
  | .due world | .woken world _ | .stalled world => world

namespace VirtualClock

variable {clock : VirtualClock} {tick now : Tick} {event : EventHandle}
  {interrupts : List (Tick × EventHandle)} {deadline : Deadline}

/-! ### Scripting interrupts -/

/-- No interrupt comes before an earlier one. -/
def Sorted (interrupts : List (Tick × EventHandle)) : Prop :=
  interrupts.Pairwise fun first second => first.1.ticks ≤ second.1.ticks

def during (tick : Tick) (interrupts : List (Tick × EventHandle)) :
    List (Tick × EventHandle) :=
  interrupts.filter fun interrupt => interrupt.1 = tick

theorem during_append (tick : Tick)
    (first second : List (Tick × EventHandle)) :
    during tick (first ++ second) = during tick first ++ during tick second :=
  List.filter_append ..

theorem perm_insertInterrupt (tick : Tick) (event : EventHandle)
    (interrupts : List (Tick × EventHandle)) :
    (insertInterrupt tick event interrupts).Perm
      ((tick, event) :: interrupts) := by
  induction interrupts with
  | nil => exact .refl _
  | cons first rest ih =>
      unfold insertInterrupt
      split
      · exact (ih.cons first).trans (.swap _ _ rest)
      · exact .refl _

theorem sorted_insertInterrupt (sorted : Sorted interrupts) (tick : Tick)
    (event : EventHandle) : Sorted (insertInterrupt tick event interrupts) := by
  induction interrupts with
  | nil => exact List.pairwise_singleton ..
  | cons first rest ih =>
      obtain ⟨before, restSorted⟩ := List.pairwise_cons.mp sorted
      unfold insertInterrupt
      split
      · next earlier =>
          refine List.pairwise_cons.mpr ⟨fun other inside => ?_, ih restSorted⟩
          rcases List.mem_cons.mp
            ((perm_insertInterrupt tick event rest).mem_iff.mp inside) with
            rfl | already
          · exact earlier
          · exact before other already
      · next later =>
          refine List.pairwise_cons.mpr ⟨fun other inside => ?_, sorted⟩
          have behind : tick.ticks ≤ first.1.ticks :=
            UInt64.le_of_lt (UInt64.not_le.mp later)
          rcases List.mem_cons.mp inside with rfl | already
          · exact behind
          · exact UInt64.le_trans behind (before other already)

/-- A new interrupt comes behind those at the same time. -/
theorem during_insertInterrupt (sorted : Sorted interrupts) (other tick : Tick)
    (event : EventHandle) :
    during other (insertInterrupt tick event interrupts) =
      during other (interrupts ++ [(tick, event)]) := by
  induction interrupts with
  | nil => rfl
  | cons first rest ih =>
      obtain ⟨before, restSorted⟩ := List.pairwise_cons.mp sorted
      unfold insertInterrupt
      split
      · have rest := ih restSorted
        unfold during at rest ⊢
        rw [List.filter_cons, rest, List.cons_append, List.filter_cons]
      · next later =>
          -- Whatever comes from here on is later.
          have apart (interrupt : Tick × EventHandle)
              (inside : interrupt ∈ first :: rest) :
              interrupt.1 ≠ tick := by
            rintro rfl
            apply later
            rcases List.mem_cons.mp inside with rfl | already
            · exact UInt64.le_refl _
            · exact before interrupt already
          change during other ([(tick, event)] ++ first :: rest) = _
          rw [during_append, during_append]
          by_cases same : tick = other
          · subst same
            have nothing : during tick (first :: rest) = [] :=
              List.filter_eq_nil_iff.mpr fun interrupt inside => by
                simpa using apart interrupt inside
            rw [nothing, List.append_nil, List.nil_append]
          · have nothing : during other [(tick, event)] = [] := by
              simp [during, same]
            rw [nothing, List.append_nil, List.nil_append]

/-- If the first interrupt is not early, none is. -/
theorem le_of_sorted (sorted : Sorted interrupts)
    (late : ∀ interrupt, interrupts.head? = some interrupt →
      tick.ticks ≤ interrupt.1.ticks) :
    ∀ interrupt ∈ interrupts, tick.ticks ≤ interrupt.1.ticks := by
  cases interrupts with
  | nil => exact fun _ inside => absurd inside List.not_mem_nil
  | cons first rest =>
      intro interrupt inside
      have behind := late first rfl
      rcases List.mem_cons.mp inside with rfl | already
      · exact behind
      · exact UInt64.le_trans behind
          ((List.pairwise_cons.mp sorted).1 interrupt already)

/-! ### Sleeping -/

/-- How a sleep ends: it lasts until the deadline, the first interrupt ends it,
or nothing does. -/
inductive Sleeps (clock : VirtualClock) (deadline : Deadline) :
    Wakeup VirtualClock → Prop
  | due {tick : Tick} (ever : deadline.tick? = some tick)
      (late : ∀ interrupt, clock.interrupts.head? = some interrupt →
        tick.ticks ≤ interrupt.1.ticks) :
      Sleeps clock deadline (.due
        ({ clock with sleeps := deadline :: clock.sleeps }.moveTo tick))
  | woken {tick : Tick} {event : EventHandle}
      {rest : List (Tick × EventHandle)}
      (first : clock.interrupts = (tick, event) :: rest)
      (early : ∀ due, deadline.tick? = some due → tick.ticks < due.ticks) :
      Sleeps clock deadline (.woken
        ({ clock with
          interrupts := rest
          sleeps := deadline :: clock.sleeps }.moveTo tick)
        [.occurred event])
  | stalled (never : deadline = .never) (nothing : clock.interrupts = []) :
      Sleeps clock deadline
        (.stalled { clock with sleeps := deadline :: clock.sleeps })

theorem sleeps_sleepUntil (clock : VirtualClock) (deadline : Deadline) :
    clock.Sleeps deadline (clock.sleepUntil deadline) := by
  unfold sleepUntil
  dsimp only
  split
  · next nothing =>
      split
      · next tick ever =>
          refine .due ever fun interrupt first => ?_
          rw [nothing] at first
          cases first
      · next never =>
          exact .stalled ((Deadline.tick?_eq_none_iff deadline).mp never) nothing
  · next tick event rest first =>
      split
      · next early =>
          refine .woken first fun due ever => ?_
          rw [ever] at early
          simpa using early
      · next late =>
          split
          · next due ever =>
              refine .due ever fun interrupt same => ?_
              rw [first] at same
              cases same
              rw [ever] at late
              simpa using late
          · next never =>
              rw [never] at late
              exact absurd rfl late

theorem le_moveTo (clock : VirtualClock) (tick : Tick) :
    clock.now.ticks ≤ (clock.moveTo tick).now.ticks ∧
      tick.ticks ≤ (clock.moveTo tick).now.ticks := by
  unfold moveTo Tick.max
  dsimp only
  split
  · next later => exact ⟨later, UInt64.le_refl _⟩
  · next earlier =>
      exact ⟨UInt64.le_refl _, UInt64.le_of_lt (UInt64.not_le.mp earlier)⟩

theorem reached_moveTo (clock : VirtualClock)
    (ever : deadline.tick? = some tick) :
    deadline.reached (clock.moveTo tick).now = true := by
  obtain ⟨finite, rfl⟩ := Deadline.tick?_eq_some_iff.mp ever
  refine Deadline.reached_iff.mpr ⟨finite, ?_⟩
  exact UInt64.le_iff_toNat_le.mp (clock.le_moveTo ⟨deadline.word⟩).2

theorem le_sleepUntil (clock : VirtualClock) (deadline : Deadline) :
    clock.now.ticks ≤ (clock.sleepUntil deadline).world.now.ticks := by
  generalize ended : clock.sleepUntil deadline = wakeup
  have sleeps := clock.sleeps_sleepUntil deadline
  rw [ended] at sleeps
  cases sleeps with
  | due | woken => exact (le_moveTo _ _).1
  | stalled => exact UInt64.le_refl _

/-! ### Chronicles -/

/-- The interrupt that ends a sleep, with the time for which it was scripted. -/
def raised? (clock : VirtualClock) (deadline : Deadline) :
    Option (Tick × EventHandle) :=
  match clock.sleepUntil deadline with
  | .woken _ _ => clock.interrupts.head?
  | _ => none

/-- A virtual clock with its past. -/
structure Chronicle where
  clock : VirtualClock
  /-- All interrupts, in the order in which they were scripted. -/
  scripted : List (Tick × EventHandle)
  /-- The interrupts that ended a sleep, first raised first. -/
  raised : List (Tick × EventHandle)

namespace Chronicle

def act (past : Chronicle) : ClockAction → Chronicle
  | .script tick event =>
      { past with
        clock := past.clock.interruptAt tick event
        scripted := past.scripted ++ [(tick, event)] }
  | .sleep deadline =>
      { past with
        clock := (past.clock.sleepUntil deadline).world
        raised := past.raised ++ (past.clock.raised? deadline).toList }

def after (now : Tick) (actions : List ClockAction) : Chronicle :=
  actions.foldl act ⟨startingAt now, [], []⟩

/-- Every interrupt was raised or is to come, in order. -/
structure Accounts (past : Chronicle) : Prop where
  sorted : Sorted past.clock.interrupts
  during (tick : Tick) :
    during tick past.raised ++ during tick past.clock.interrupts =
      during tick past.scripted
  once : (past.raised ++ past.clock.interrupts).Perm past.scripted

theorem Accounts.act {past : Chronicle} (accounts : past.Accounts)
    (action : ClockAction) : (past.act action).Accounts := by
  cases action with
  | script tick event =>
      constructor
      · exact sorted_insertInterrupt accounts.sorted tick event
      · intro other
        change _ ++ VirtualClock.during other
          (insertInterrupt tick event past.clock.interrupts) = _
        rw [during_insertInterrupt accounts.sorted, during_append,
          ← List.append_assoc]
        change VirtualClock.during other past.raised ++ _ ++ _ = _
        rw [accounts.during, ← during_append]
        rfl
      · refine ((perm_insertInterrupt tick event _).append_left _).trans ?_
        refine List.perm_middle.trans ?_
        exact ((accounts.once.cons _).trans
          (List.perm_append_singleton _ _).symm)
  | sleep deadline =>
      have sleeps := past.clock.sleeps_sleepUntil deadline
      unfold Chronicle.act raised?
      dsimp only
      generalize past.clock.sleepUntil deadline = wakeup at sleeps ⊢
      cases sleeps with
      | due | stalled =>
          simp only [Option.toList_none, List.append_nil]
          exact ⟨accounts.sorted, accounts.during, accounts.once⟩
      | @woken tick event rest first early =>
          obtain ⟨sorted, during, once⟩ := accounts
          rw [first] at sorted during once ⊢
          constructor
          · exact (List.pairwise_cons.mp sorted).2
          · intro other
            rw [← during other]
            change VirtualClock.during other (past.raised ++ [(tick, event)]) ++
              VirtualClock.during other rest = _
            rw [← during_append, ← during_append, List.append_assoc]
            rfl
          · refine .trans ?_ once
            change ((past.raised ++ [(tick, event)]) ++ rest).Perm _
            rw [List.append_assoc]
            exact .refl _

theorem Accounts.foldl {past : Chronicle} (accounts : past.Accounts)
    (actions : List ClockAction) : (actions.foldl Chronicle.act past).Accounts := by
  induction actions generalizing past with
  | nil => exact accounts
  | cons action rest ih => exact ih (accounts.act action)

theorem accounts_after (now : Tick) (actions : List ClockAction) :
    (after now actions).Accounts := by
  refine Accounts.foldl ⟨?_, fun _ => rfl, .refl _⟩ actions
  exact List.Pairwise.nil

theorem le_act (past : Chronicle) (action : ClockAction) :
    past.clock.now.ticks ≤ (past.act action).clock.now.ticks := by
  cases action with
  | script => exact UInt64.le_refl _
  | sleep deadline => exact past.clock.le_sleepUntil deadline

theorem le_foldl (past : Chronicle) (actions : List ClockAction) :
    past.clock.now.ticks ≤ (actions.foldl act past).clock.now.ticks := by
  induction actions generalizing past with
  | nil => exact UInt64.le_refl _
  | cons action rest ih => exact UInt64.le_trans (past.le_act action) (ih _)

end Chronicle

/-- What is true of a clock for which interrupts were scripted and that was slept
for. -/
structure Honest (now : Tick) (actions : List ClockAction) : Prop where
  /-- The interrupts that are still to come are in the order of their times. -/
  sorted : Sorted (Chronicle.after now actions).clock.interrupts
  /-- Those for one time were scripted after those for the same time that were
  raised, and all are in the order in which they were scripted. -/
  inOrder (tick : Tick) :
    during tick (Chronicle.after now actions).raised ++
        during tick (Chronicle.after now actions).clock.interrupts =
      during tick (Chronicle.after now actions).scripted
  /-- Whatever was scripted was raised once or is still to come. -/
  once : ((Chronicle.after now actions).raised ++
      (Chronicle.after now actions).clock.interrupts).Perm
    (Chronicle.after now actions).scripted
  onward (later : List ClockAction) :
    (Chronicle.after now actions).clock.now.ticks ≤
      (Chronicle.after now (actions ++ later)).clock.now.ticks
  /-- A sleep that lasts until the deadline ends when it has passed, and nothing
  comes before the deadline any more. -/
  due {deadline : Deadline} {clock : VirtualClock} :
    (Chronicle.after now actions).clock.sleepUntil deadline = .due clock →
      deadline.reached clock.now = true ∧
        clock.interrupts = (Chronicle.after now actions).clock.interrupts ∧
        ∀ interrupt ∈ clock.interrupts,
          deadline.word ≤ interrupt.1.ticks
  /-- Otherwise the first interrupt ends it, which comes before the deadline and
  not before its own time. -/
  woken {deadline : Deadline} {clock : VirtualClock}
      {interrupts : List Interrupt} :
    (Chronicle.after now actions).clock.sleepUntil deadline =
        .woken clock interrupts →
      ∃ tick event,
        (Chronicle.after now actions).clock.interrupts =
          (tick, event) :: clock.interrupts ∧
        interrupts = [.occurred event] ∧ tick.ticks ≤ clock.now.ticks ∧
        (deadline = .never ∨ tick.ticks < deadline.word)
  /-- Only with nothing to come and no deadline does it never end. -/
  stalled {deadline : Deadline} {clock : VirtualClock} :
    (Chronicle.after now actions).clock.sleepUntil deadline = .stalled clock →
      deadline = .never ∧
        (Chronicle.after now actions).clock.interrupts = []

theorem honest (now : Tick) (actions : List ClockAction) :
    Honest now actions := by
  have accounts := Chronicle.accounts_after now actions
  constructor
  case sorted => exact accounts.sorted
  case inOrder => exact accounts.during
  case once => exact accounts.once
  case onward =>
    intro later
    unfold Chronicle.after
    rw [List.foldl_append]
    exact Chronicle.le_foldl _ later
  case due =>
    intro deadline clock ended
    have sleeps :=
      (Chronicle.after now actions).clock.sleeps_sleepUntil deadline
    rw [ended] at sleeps
    cases sleeps with
    | due ever late =>
        have reached := reached_moveTo { (Chronicle.after now actions).clock with
          sleeps := deadline :: (Chronicle.after now actions).clock.sleeps } ever
        obtain ⟨_, rfl⟩ := Deadline.tick?_eq_some_iff.mp ever
        exact ⟨reached, rfl, le_of_sorted accounts.sorted late⟩
  case woken =>
    intro deadline clock interrupts ended
    have sleeps :=
      (Chronicle.after now actions).clock.sleeps_sleepUntil deadline
    rw [ended] at sleeps
    cases sleeps with
    | woken first early =>
        refine ⟨_, _, first, rfl, (le_moveTo _ _).2, ?_⟩
        cases ever : deadline.isNever with
        | true => exact Or.inl (Deadline.isNever_iff.mp ever)
        | false =>
            exact Or.inr
              (early _ (Deadline.tick?_eq_some_iff.mpr ⟨ever, rfl⟩))
  case stalled =>
    intro deadline clock ended
    have sleeps :=
      (Chronicle.after now actions).clock.sleeps_sleepUntil deadline
    rw [ended] at sleeps
    cases sleeps with
    | stalled never nothing => exact ⟨never, nothing⟩

end VirtualClock

end EventScheduler
