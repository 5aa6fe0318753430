import EventScheduler.Proofs.Event.Registry
import Mathlib.Data.List.Basic

/-!
# The queue of pending events

That an event is pending is written down twice: as a mark in its slot and as a
place in the queue.  Every operation on the registry changes both alike.  It
takes some events out of the queue and may add one at its end, and these are
the events whose mark it clears and sets.
-/

namespace EventScheduler.Events

variable {events next : Events} {event other : EventHandle}
variable {gone : List EventHandle} {joined : Option EventHandle}

theorem isPending_iff :
    events.isPending event = true ↔
      events.slot event.index =
        { generation := event.generation, state := .enabled true } := by
  unfold isPending state slot
  cases events.slots[event.index] with
  | mk generation state =>
      by_cases fits : generation = event.generation <;> simp [fits]

theorem isEnabled_of_isPending (pending : events.isPending event = true) :
    events.isEnabled event = true := by
  unfold isPending at pending
  unfold isEnabled
  rw [eq_of_beq pending]

/-- When the slot of a claimed event changes, only that event can start or stop
being pending. -/
theorem isPending_of_slot (changed : EventSlot)
    (claimed : events.isClaimed event = true)
    (slots : next.slots =
      events.slots.set event.index changed event.index.isLt)
    (fits : changed.state = .enabled true →
      changed.generation = event.generation) :
    next.isPending other = true ↔
      if other = event then changed.state = .enabled true
      else events.isPending other = true := by
  rw [isPending_iff, slot_of_set slots]
  by_cases equal : other = event
  · subst equal
    rw [if_pos rfl, if_pos rfl]
    refine ⟨congrArg EventSlot.state, fun state => ?_⟩
    rw [← fits state, ← state]
  · rw [if_neg equal]
    by_cases same : other.index = event.index
    · rw [if_pos same]
      refine iff_of_false (fun slot => ?_) (fun pending => ?_)
      · rw [slot] at fits
        have generation := fits rfl
        cases event
        cases other
        cases same
        cases generation
        exact equal rfl
      · have claimedToo :=
          isClaimed_of_isEnabled (isEnabled_of_isPending pending)
        exact equal (eq_of_isClaimed claimedToo claimed same)
    · rw [if_neg same, isPending_iff]

/-- The queue holds the pending events, each of them once, and is not longer
than it may be. -/
structure Consistent (events : Events) : Prop where
  nodup : events.queue.Nodup
  bounded : events.queue.length ≤ queueDepth
  mem_iff {event : EventHandle} :
    event ∈ events.queue ↔ events.isPending event = true

/-- The events `gone` stop being pending and `joined` becomes pending, and the
queue follows. -/
structure Turnover (events : Events) (gone : List EventHandle)
    (joined : Option EventHandle) (next : Events) : Prop where
  queue : next.queue =
    events.queue.filter (fun event => event ∉ gone) ++ joined.toList
  pending {event : EventHandle} : next.isPending event = true ↔
    events.isPending event = true ∧ event ∉ gone ∨ joined = some event
  wakes : next.wakes = events.wakes + joined.toList.length
  left : gone.Sublist events.queue
  fits : joined.isSome = true → events.queue.length < queueDepth
  fresh {event : EventHandle} : joined = some event →
    events.isPending event = false

namespace Consistent

theorem empty : Consistent Events.empty where
  nodup := List.nodup_nil
  bounded := Nat.zero_le _
  mem_iff {event} := by
    rw [isPending_iff]
    simp [Events.empty, slot]

theorem isEnabled_of_mem (consistent : events.Consistent)
    (queued : event ∈ events.queue) : events.isEnabled event = true :=
  isEnabled_of_isPending (consistent.mem_iff.mp queued)

theorem turnover (consistent : events.Consistent)
    (turnover : events.Turnover gone joined next) : next.Consistent where
  nodup := by
    rw [turnover.queue]
    refine List.nodup_append.mpr ⟨consistent.nodup.filter _, ?_, ?_⟩
    · cases joined <;> simp
    · rintro event stays _ joins rfl
      have kept := consistent.mem_iff.mp (List.mem_filter.mp stays).1
      have fresh := turnover.fresh (Option.mem_toList.mp joins)
      rw [kept] at fresh
      cases fresh
  bounded := by
    rw [turnover.queue, List.length_append]
    have shorter := List.length_filter_le
      (fun event => decide (event ∉ gone)) events.queue
    cases known : joined with
    | none => exact Nat.le_trans shorter consistent.bounded
    | some event =>
        have fits := turnover.fits (by rw [known]; rfl)
        simp only [Option.toList_some, List.length_singleton]
        omega
  mem_iff {event} := by
    rw [turnover.queue, turnover.pending]
    simp [consistent.mem_iff]

end Consistent

namespace Turnover

/-- The queue, the marks and the wakes are as they were. -/
theorem still (queue : next.queue = events.queue)
    (pending : ∀ event, next.isPending event = events.isPending event)
    (wakes : next.wakes = events.wakes) :
    events.Turnover [] none next where
  queue := by simp [queue]
  pending := by simp [pending]
  wakes := by simp [wakes]
  left := List.nil_sublist _
  fits impossible := nomatch impossible
  fresh impossible := nomatch impossible

/-- An event loses its slot, or the use of it, and its place in the queue. -/
theorem drop {changed : EventSlot} (consistent : events.Consistent)
    (claimed : events.isClaimed event = true)
    (slots : next.slots =
      events.slots.set event.index changed event.index.isLt)
    (disabled : changed.state ≠ .enabled true)
    (queue : next.queue = events.queue.filter fun queued => queued != event)
    (wakes : next.wakes = events.wakes) :
    events.Turnover (if events.isPending event then [event] else []) none
      next where
  queue := by
    rw [queue, Option.toList_none, List.append_nil]
    refine List.filter_congr fun other queued => ?_
    split
    · by_cases equal : other = event <;> simp [equal]
    · next idle =>
        -- An event that is not pending is not in the queue to begin with.
        have apart : other ≠ event := fun equal =>
          idle (consistent.mem_iff.mp (equal ▸ queued))
        simp [apart]
  pending {other} := by
    rw [isPending_of_slot changed claimed slots
      fun enabled => absurd enabled disabled]
    by_cases equal : other = event
    · subst equal
      cases events.isPending other <;> simp [disabled]
    · rw [if_neg equal]
      split <;> simp [equal]
  wakes := by simp [wakes]
  left := by
    split
    · next pending =>
        exact List.singleton_sublist.mpr (consistent.mem_iff.mpr pending)
    · exact List.nil_sublist _
  fits impossible := nomatch impossible
  fresh impossible := nomatch impossible

/-- What joins or was pending before leaves or is pending after. -/
theorem balance (consistent : events.Consistent)
    (turnover : events.Turnover gone joined next) (event : EventHandle) :
    (if joined = some event then 1 else 0) +
        (if events.isPending event then 1 else 0) =
      gone.count event + if next.isPending event then 1 else 0 := by
  have after : next.isPending event = true ↔
      events.isPending event = true ∧ event ∉ gone ∨ joined = some event :=
    turnover.pending
  have nodup := turnover.left.nodup consistent.nodup
  rw [nodup.count]
  by_cases joins : joined = some event
  · have idle := turnover.fresh joins
    have stays : event ∉ gone := fun left => by
      have pending := consistent.mem_iff.mp (turnover.left.subset left)
      rw [idle] at pending
      cases pending
    simp [joins, idle, stays, after.mpr (Or.inr joins)]
  · by_cases leaves : event ∈ gone
    · have pending := consistent.mem_iff.mp (turnover.left.subset leaves)
      simp [joins, leaves, pending, after]
    · simp [joins, leaves, after]

end Turnover

/-! ### What each operation does -/

theorem claim_turnover (done : events.claim = .ok (event, next)) :
    events.Turnover [] none next := by
  unfold claim at done
  split at done
  · cases done
  · next index found =>
      obtain ⟨rfl, rfl⟩ := Prod.mk.inj (Except.ok.inj done)
      have holds := List.find?_some found
      have free : (events.slot index).state = .free := beq_iff_eq.mp holds
      refine .still rfl (fun other => ?_) rfl
      rw [Bool.eq_iff_iff, isPending_iff, isPending_iff, slot_of_set rfl]
      split
      · next same =>
          -- The slot was free before and is enabled but idle now.
          subst same
          refine iff_of_false (by simp) fun equal => ?_
          rw [equal] at free
          cases free
      · exact Iff.rfl

theorem setPending_turnover {queued : Bool}
    (done : events.setPending event = .ok (queued, next)) :
    events.Turnover [] (if queued then some event else none) next := by
  unfold setPending at done
  split at done
  · next state =>
      split at done
      · next fits =>
          cases done
          have idle : events.isPending event = false := by
            unfold isPending
            rw [state]
            rfl
          have claimed : events.isClaimed event = true := by
            unfold isClaimed
            rw [state]
            rfl
          have generation := (isClaimed_iff.mp claimed).1
          refine ⟨?_, fun {other} => ?_, rfl, List.nil_sublist _,
            fun _ => fits, ?_⟩
          · simp [setState]
          · rw [isPending_of_slot
              { events.slot event.index with state := .enabled true } claimed
              rfl fun _ => generation]
            by_cases equal : other = event
            · simp [equal]
            · have different : event ≠ other := fun same => equal same.symm
              simp [equal, different]
          · rintro other ⟨⟩
            exact idle
      · cases done
  · cases done
    exact .still rfl (fun _ => rfl) rfl

/-- The call ends the program exactly if the event is enabled and idle and the
queue is full. -/
theorem setPending_error_iff {fault : Fault} :
    events.setPending event = .error fault ↔
      fault = .queueOverflow ∧ events.isEnabled event = true ∧
        events.isPending event = false ∧ queueDepth ≤ events.queue.length := by
  unfold setPending isEnabled isPending
  split
  · next state =>
      rw [state]
      generalize events.queue.length = length
      by_cases fits : length < queueDepth
      · rw [if_pos fits]
        refine iff_of_false (fun impossible => nomatch impossible) ?_
        rintro ⟨-, -, -, full⟩
        exact absurd fits (Nat.not_lt.mpr full)
      · rw [if_neg fits]
        refine ⟨?_, ?_⟩
        · rintro ⟨⟩
          exact ⟨rfl, rfl, rfl, Nat.le_of_not_lt fits⟩
        · rintro ⟨rfl, -⟩
          rfl
  · next other =>
      refine iff_of_false (fun impossible => nomatch impossible) ?_
      rintro ⟨-, enabled, idle, -⟩
      cases known : events.state event with
      | free | abandoned => simp [known] at enabled
      | enabled pending =>
          cases pending with
          | false => exact other known
          | true => simp [known] at idle

theorem release_turnover (consistent : events.Consistent)
    (done : events.release event = (true, next)) :
    events.Turnover (if events.isPending event then [event] else []) none
      next := by
  have claimed := isClaimed_of_release done
  unfold release at done
  rw [if_pos claimed] at done
  cases done
  exact .drop consistent claimed rfl (by simp) rfl rfl

theorem abandon_turnover (consistent : events.Consistent)
    (done : events.abandon event = (true, next)) :
    events.Turnover (if events.isPending event then [event] else []) none
      next := by
  have enabled := isEnabled_of_abandon done
  unfold abandon at done
  rw [if_pos enabled] at done
  cases done
  exact .drop consistent (isClaimed_of_isEnabled enabled) rfl (by simp) rfl rfl

theorem eq_of_release_eq_false (refused : events.release event = (false, next)) :
    next = events := by
  unfold release at refused
  split at refused
  · cases refused
  · cases refused
    rfl

theorem eq_of_abandon_eq_false (refused : events.abandon event = (false, next)) :
    next = events := by
  unfold abandon at refused
  split at refused
  · cases refused
  · cases refused
    rfl

theorem releaseAbandoned_turnover (consistent : events.Consistent)
    (event : EventHandle) :
    events.Turnover [] none (events.releaseAbandoned event).2 := by
  unfold releaseAbandoned
  split
  · next abandoned =>
      have idle : events.isPending event = false := by
        unfold isPending
        rw [abandoned]
        rfl
      cases released : events.release event with
      | mk done next =>
          cases done with
          | true =>
              have turnover := release_turnover consistent released
              rwa [if_neg (Bool.eq_false_iff.mp idle)] at turnover
          | false =>
              rw [eq_of_release_eq_false released]
              exact .still rfl (fun _ => rfl) rfl
  · exact .still rfl (fun _ => rfl) rfl

private theorem isEnabled_setState (enabled : events.isEnabled event = true)
    (mark : Bool) :
    (events.setState event (.enabled mark)).isEnabled other =
      events.isEnabled other := by
  rw [Bool.eq_iff_iff, isEnabled_iff, isEnabled_iff]
  unfold Enabled
  have slots : (events.setState event (.enabled mark)).slots =
      events.slots.set event.index
        { events.slot event.index with state := .enabled mark }
        event.index.isLt := rfl
  rw [slot_of_set slots]
  split
  · next same =>
      rw [same]
      refine and_congr_right fun _ => iff_of_true ⟨mark, rfl⟩ ?_
      exact (isEnabled_iff.mp enabled).2
  · exact Iff.rfl

/-- Clearing the marks of enabled events succeeds and touches nothing else. -/
theorem exists_ok_of_clearPending {drained : List EventHandle}
    (enabled : ∀ event ∈ drained, events.isEnabled event = true) :
    ∃ next, events.clearPending drained = .ok next ∧
      next.queue = events.queue ∧ next.wakes = events.wakes ∧
        ∀ event, next.isPending event = true ↔
          events.isPending event = true ∧ event ∉ drained := by
  induction drained generalizing events with
  | nil => exact ⟨events, rfl, rfl, rfl, by simp⟩
  | cons event rest ih =>
      have first := enabled event List.mem_cons_self
      have claimed := isClaimed_of_isEnabled first
      obtain ⟨next, cleared, queue, wakes, pending⟩ :=
        ih (fun other member => (isEnabled_setState first false).trans
          (enabled other (List.mem_cons_of_mem _ member)))
      refine ⟨next, ?_, queue, wakes, fun other => ?_⟩
      · rw [clearPending, if_pos first, cleared]
      · rw [pending, isPending_of_slot
          { events.slot event.index with state := .enabled false } claimed rfl
          fun impossible => nomatch impossible]
        by_cases equal : other = event <;> simp [equal]

/-- The drain takes every queued event and cannot fail. -/
theorem exists_ok_of_takePending (consistent : events.Consistent) :
    ∃ next, events.takePending = .ok (events.queue, next) ∧
      events.Turnover events.queue none next := by
  have enabled : ∀ event ∈ events.queue,
      { events with queue := [] }.isEnabled event = true :=
    fun event queued => consistent.isEnabled_of_mem queued
  obtain ⟨next, cleared, queue, wakes, pending⟩ :=
    exists_ok_of_clearPending enabled
  refine ⟨next, ?_, ?_⟩
  · unfold takePending
    dsimp only
    rw [cleared]
    rfl
  · refine ⟨?_, fun {event} => ?_, by simp [wakes], .refl _, ?_, ?_⟩
    · rw [queue]
      simp
    · rw [pending]
      simp [isPending, state]
    · intro impossible
      cases impossible
    · intro event impossible
      cases impossible

end EventScheduler.Events
