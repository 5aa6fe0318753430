import EventScheduler.Proofs.Event.Queue

/-!
# Occurrences

The scheduler and the interrupts use the registry in any order, one operation
at a time.  A log of the operations with their answers tells how often each
event was queued, drained and dropped.  No occurrence is lost and none is made
up, and events are drained in the order in which they became pending.
-/

namespace EventScheduler

/-- An operation of the scheduler or of an interrupt on the registry. -/
inductive EventOperation
  | claim
  | claimInto (cell : Option EventHandle)
  | release (event : EventHandle)
  | abandon (event : EventHandle)
  /-- Take what is queued into an empty buffer. -/
  | takePending
  /-- An interrupt, inside or outside a critical section. -/
  | setPending (event : EventHandle)
  | releaseAbandoned (event : EventHandle)

namespace EventOperation

abbrev Answer : EventOperation → Type
  | .claim => Except Error EventHandle
  | .claimInto _ => CellClaim
  | .release _ | .abandon _ | .setPending _ | .releaseAbandoned _ => Bool
  | .takePending => List EventHandle

end EventOperation

namespace Events

/-- What a claim answers and leaves behind; a failed claim leaves the registry
as it was. -/
def afterClaim (events : Events) :
    Except Error (EventHandle × Events) → Except Error EventHandle × Events
  | .error error => (.error error, events)
  | .ok (event, events) => (.ok event, events)

def perform (events : Events) : (operation : EventOperation) →
    Except Fault (operation.Answer × Events)
  | .claim => .ok (events.afterClaim events.claim)
  | .claimInto cell => .ok (events.claimInto cell)
  | .release event => .ok (events.release event)
  | .abandon event => .ok (events.abandon event)
  | .takePending => events.takeInto []
  | .setPending event => events.setPending event
  | .releaseAbandoned event => .ok (events.releaseAbandoned event)

end Events

/-- An operation that was served, and what it found and answered. -/
structure Served where
  before : Events
  operation : EventOperation
  answer : operation.Answer

namespace Served

def raised : Served → Option EventHandle
  | ⟨_, .setPending event, true⟩ => some event
  | _ => none

def drained : Served → List EventHandle
  | ⟨_, .takePending, events⟩ => events
  | _ => []

/-- The event that went away while it was pending. -/
def dropped : Served → Option EventHandle
  | ⟨before, .release event, true⟩ | ⟨before, .abandon event, true⟩ =>
      if before.isPending event then some event else none
  | _ => none

end Served

namespace Events

variable {events next : Events}

private theorem afterClaim_turnover (events : Events) :
    events.Turnover [] none (events.afterClaim events.claim).2 := by
  cases claimed : events.claim with
  | error error => exact .still rfl (fun _ => rfl) rfl
  | ok result => exact claim_turnover claimed

private theorem claimInto_turnover (events : Events)
    (cell : Option EventHandle) :
    events.Turnover [] none (events.claimInto cell).2 := by
  rcases events.claimInto_cases cell with
    ⟨error, kept⟩ | ⟨event, next, claimed, granted⟩
  · rw [kept]
    exact .still rfl (fun _ => rfl) rfl
  · rw [granted]
    exact claim_turnover claimed

private theorem toList_ite (event : EventHandle) (pending : Bool) :
    (if pending then some event else none).toList =
      if pending then [event] else [] := by
  cases pending <;> rfl

/-- The log says what joined and what left the queue. -/
theorem perform_turnover (consistent : events.Consistent)
    {operation : EventOperation} {answer : operation.Answer}
    (done : events.perform operation = .ok (answer, next)) :
    events.Turnover
      (Served.drained ⟨events, operation, answer⟩ ++
        (Served.dropped ⟨events, operation, answer⟩).toList)
      (Served.raised ⟨events, operation, answer⟩) next := by
  cases operation with
  | claim =>
      have turnover := events.afterClaim_turnover
      rwa [Except.ok.inj done] at turnover
  | claimInto cell =>
      have turnover := events.claimInto_turnover cell
      rwa [Except.ok.inj done] at turnover
  | release event =>
      have released := Except.ok.inj done
      cases answer with
      | false =>
          rw [eq_of_release_eq_false released]
          exact .still rfl (fun _ => rfl) rfl
      | true =>
          have turnover := release_turnover consistent released
          rwa [← toList_ite] at turnover
  | abandon event =>
      have abandoned := Except.ok.inj done
      cases answer with
      | false =>
          rw [eq_of_abandon_eq_false abandoned]
          exact .still rfl (fun _ => rfl) rfl
      | true =>
          have turnover := abandon_turnover consistent abandoned
          rwa [← toList_ite] at turnover
  | takePending =>
      obtain ⟨after, taken, turnover⟩ := exists_ok_of_takePending consistent
      cases taken.symm.trans (takePending_of_takeInto done)
      rwa [← List.append_nil events.queue] at turnover
  | setPending event =>
      have turnover := setPending_turnover done
      cases answer <;> exact turnover
  | releaseAbandoned event =>
      have turnover := releaseAbandoned_turnover consistent event
      rwa [Except.ok.inj done] at turnover

/-- Only an event that does not fit into the queue ends the program. -/
theorem perform_error_iff (consistent : events.Consistent)
    {operation : EventOperation} {fault : Fault} :
    events.perform operation = .error fault ↔
      fault = .queueOverflow ∧ ∃ event, operation = .setPending event ∧
        events.isEnabled event = true ∧ events.isPending event = false ∧
          (events.queue.filter fun queued => queued != event).length =
            queueDepth := by
  cases operation with
  | takePending =>
      obtain ⟨after, taken, _⟩ := exists_ok_of_takePending consistent
      have performed : events.perform .takePending =
          .ok (events.queue, after) := taken
      rw [performed]
      exact iff_of_false (fun impossible => nomatch impossible) (by simp)
  | setPending event =>
      have performed : events.perform (.setPending event) =
        events.setPending event := rfl
      rw [performed, setPending_error_iff]
      refine and_congr_right fun _ => ⟨?_, ?_⟩
      · rintro ⟨enabled, idle, full⟩
        refine ⟨event, rfl, enabled, idle, ?_⟩
        have others : (events.queue.filter fun queued => queued != event) =
            events.queue := by
          refine List.filter_eq_self.mpr fun queued member => ?_
          have pending := consistent.mem_iff.mp member
          refine bne_iff_ne.mpr fun same => ?_
          rw [same, idle] at pending
          cases pending
        rw [others]
        exact Nat.le_antisymm consistent.bounded full
      · rintro ⟨_, ⟨⟩, enabled, idle, full⟩
        refine ⟨enabled, idle, ?_⟩
        rw [← full]
        exact List.length_filter_le _ _
  | _ => exact iff_of_false (fun impossible => nomatch impossible) (by simp)

end Events

/-- Operations that were served, the last one first. -/
abbrev EventLog := List Served

namespace EventLog

variable {log : EventLog} {events : Events}

def timesRaised (log : EventLog) (event : EventHandle) : Nat :=
  log.countP fun served => served.raised = some event

def timesDrained (log : EventLog) (event : EventHandle) : Nat :=
  (log.flatMap Served.drained).count event

def timesDropped (log : EventLog) (event : EventHandle) : Nat :=
  log.countP fun served => served.dropped = some event

/-- How many operations were served since the event was queued last. -/
def age (log : EventLog) (event : EventHandle) : Nat :=
  log.findIdx fun served => served.raised = some event

/-- What comes of any operations, in any order, of which none ends the
program. -/
inductive Reached : EventLog → Events → Prop
  | start : Reached [] .empty
  | serve {log : EventLog} {events next : Events} (reached : Reached log events)
      (operation : EventOperation) {answer : operation.Answer}
      (done : events.perform operation = .ok (answer, next)) :
      Reached (⟨events, operation, answer⟩ :: log) next

/-- Every occurrence is accounted for. -/
structure Balanced (log : EventLog) (events : Events) : Prop where
  nodup : events.queue.Nodup
  bounded : events.queue.length ≤ queueDepth
  /-- Queued are the enabled events with the pending mark. -/
  mem_iff (event : EventHandle) : event ∈ events.queue ↔
    getElem events.slots event.index event.index_lt =
      { generation := event.generation, state := .enabled true }
  ordered : events.queue.Pairwise fun first second =>
    log.age second < log.age first
  balance (event : EventHandle) : log.timesRaised event =
    log.timesDrained event + log.timesDropped event +
      if events.isPending event then 1 else 0
  wakes : events.wakes = log.countP fun served => served.raised.isSome
  /-- Only an enabled event that is not pending overflows the queue, and only
  when it is full of other events. -/
  fault_iff (operation : EventOperation) (fault : Fault) :
    events.perform operation = .error fault ↔
      fault = .queueOverflow ∧ ∃ event, operation = .setPending event ∧
        events.isEnabled event = true ∧ events.isPending event = false ∧
          (events.queue.filter fun queued => queued != event).length =
            queueDepth

theorem age_cons (served : Served) (log : EventLog) (event : EventHandle) :
    EventLog.age (served :: log) event =
      if served.raised = some event then 0 else log.age event + 1 := by
  unfold age
  rw [List.findIdx_cons]
  by_cases raised : served.raised = some event <;> simp [raised]

private structure Kept (log : EventLog) (events : Events) : Prop where
  consistent : events.Consistent
  ordered : events.queue.Pairwise fun first second =>
    log.age second < log.age first
  balance (event : EventHandle) : log.timesRaised event =
    log.timesDrained event + log.timesDropped event +
      if events.isPending event then 1 else 0
  wakes : events.wakes = log.countP fun served => served.raised.isSome

private theorem Kept.serve (kept : Kept log events) {next : Events}
    {operation : EventOperation} {answer : operation.Answer}
    (done : events.perform operation = .ok (answer, next)) :
    Kept (⟨events, operation, answer⟩ :: log) next := by
  have turnover := Events.perform_turnover kept.consistent done
  generalize Served.mk events operation answer = served at turnover ⊢
  constructor
  case consistent => exact kept.consistent.turnover turnover
  case ordered =>
    have notRaised {event : EventHandle} (queued : event ∈ events.queue) :
        served.raised ≠ some event := fun raised => by
      have pending := kept.consistent.mem_iff.mp queued
      rw [turnover.fresh raised] at pending
      cases pending
    rw [turnover.queue]
    refine List.pairwise_append.mpr ⟨?_, ?_, ?_⟩
    · refine List.Pairwise.filter _ (kept.ordered.imp_of_mem ?_)
      intro first second queued queuedToo older
      rw [age_cons, age_cons, if_neg (notRaised queued),
        if_neg (notRaised queuedToo)]
      exact Nat.succ_lt_succ older
    · cases served.raised <;> simp
    · intro first stays second joins
      have queued := (List.mem_filter.mp stays).1
      rw [age_cons, age_cons, if_neg (notRaised queued),
        if_pos (Option.mem_toList.mp joins)]
      exact Nat.succ_pos _
  case balance =>
    intro event
    have before := kept.balance event
    have step := turnover.balance kept.consistent event
    have dropped : served.dropped.toList.count event =
        if served.dropped = some event then 1 else 0 := by
      cases served.dropped <;> simp [List.count_singleton]
    rw [List.count_append, dropped] at step
    unfold timesRaised timesDrained timesDropped at before ⊢
    rw [List.countP_cons, List.countP_cons, List.flatMap_cons,
      List.count_append]
    simp only [decide_eq_true_eq]
    omega
  case wakes =>
    rw [turnover.wakes, List.countP_cons, kept.wakes]
    cases served.raised <;> rfl

private theorem Reached.kept (reached : Reached log events) :
    Kept log events := by
  induction reached with
  | start =>
      refine ⟨.empty, List.Pairwise.nil, fun event => ?_, rfl⟩
      have idle : ¬ Events.empty.isPending event = true := fun pending =>
        List.not_mem_nil (Events.Consistent.empty.mem_iff.mpr pending)
      rw [if_neg idle]
      rfl
  | serve reached operation done ih => exact ih.serve done

/-- Whatever the scheduler and the interrupts did, no occurrence was lost or
made up. -/
theorem Reached.balanced (reached : Reached log events) :
    Balanced log events := by
  have kept := reached.kept
  have consistent := kept.consistent
  constructor
  case nodup => exact consistent.nodup
  case bounded => exact consistent.bounded
  case mem_iff =>
    intro event
    rw [consistent.mem_iff, Events.isPending_iff]
    rfl
  case ordered => exact kept.ordered
  case balance => exact kept.balance
  case wakes => exact kept.wakes
  case fault_iff =>
    intro operation fault
    exact Events.perform_error_iff consistent

/-- An event is drained, occurs again and is released while it is pending. -/
theorem balanced_drained_and_dropped :
    ∃ log events, Reached log events ∧ log.timesRaised ⟨0, 0⟩ = 2 ∧
      log.timesDrained ⟨0, 0⟩ = 1 ∧ log.timesDropped ⟨0, 0⟩ = 1 ∧
        Balanced log events := by
  have claimed := Reached.start.serve .claim rfl
  have occurred := claimed.serve (.setPending ⟨0, 0⟩) rfl
  have drained := occurred.serve .takePending rfl
  have again := drained.serve (.setPending ⟨0, 0⟩) rfl
  have released := again.serve (.release ⟨0, 0⟩) rfl
  exact ⟨_, _, released, rfl, rfl, rfl, released.balanced⟩

end EventLog

end EventScheduler
