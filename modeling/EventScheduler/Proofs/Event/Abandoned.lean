import EventScheduler.Proofs.Event.Queue
import EventScheduler.Proofs.Event.Slots

/-!
# Abandoned events

An abandoned event is out of use, and its slot is not claimed again, until the
slot is freed.  This module says what the registry answers until then, and that
an interrupt frees the slot only if it gives the event back.
-/

namespace EventScheduler.Events

variable {events next : Events} {event other : EventHandle}

/-- What the registry answers about an event that is out of use. -/
structure Withdrawn (events : Events) (event : EventHandle) : Prop where
  /-- The handle still fits its slot. -/
  generation : (events.slot event.index).generation = event.generation
  isEnabled : events.isEnabled event = false
  isPending : events.isPending event = false
  setPending : events.setPending event = .ok (false, events)
  abandon : events.abandon event = (false, events)
  claim {claimed : EventHandle} {next : Events} :
    events.claim = .ok (claimed, next) → claimed.index ≠ event.index
  claimInto {cell : Option EventHandle} {claimed : EventHandle} :
    (events.claimInto cell).1.answer = .ok claimed →
      claimed.index ≠ event.index
  /-- A cell that holds the event is not free for another claim, and goes on
  holding it. -/
  held : events.claimInto (some event) =
    (⟨.error .eventAlreadyClaimed, some event⟩, events)
  /-- The event can be given back, which frees its slot. -/
  releaseAbandoned : ∃ next, events.releaseAbandoned event = (true, next) ∧
    next.slot event.index = ⟨event.generation + 1, .free⟩

theorem isClaimed_of_abandoned (abandoned : events.state event = .abandoned) :
    events.isClaimed event = true := by
  unfold isClaimed
  rw [abandoned]
  rfl

theorem slot_of_abandoned (abandoned : events.state event = .abandoned) :
    events.slot event.index = ⟨event.generation, .abandoned⟩ := by
  have fits := (isClaimed_iff.mp (isClaimed_of_abandoned abandoned)).1
  have state : (events.slot event.index).state = .abandoned :=
    (if_pos fits).symm.trans abandoned
  rw [← fits, ← state]

theorem abandoned_of_slot
    (slot : events.slot event.index = ⟨event.generation, .abandoned⟩) :
    events.state event = .abandoned := by
  have fits := congrArg EventSlot.generation slot
  unfold Events.state
  exact (if_pos fits).trans (congrArg EventSlot.state slot)

private theorem slot_of_release (claimed : events.isClaimed event = true) :
    ∃ next, events.release event = (true, next) ∧
      next.slot event.index = ⟨event.generation + 1, .free⟩ := by
  have fits := (isClaimed_iff.mp claimed).1
  unfold release
  rw [if_pos claimed]
  refine ⟨_, rfl, ?_⟩
  rw [slot_of_set rfl, if_pos rfl]
  exact congrArg (fun generation => EventSlot.mk (generation + 1) .free) fits

theorem withdrawn_of_abandoned (abandoned : events.state event = .abandoned) :
    events.Withdrawn event := by
  have claimed := isClaimed_of_abandoned abandoned
  have slot := slot_of_abandoned abandoned
  have disabled : events.isEnabled event = false := by
    unfold isEnabled
    rw [abandoned]
  have apart {known : EventHandle} {next : Events}
      (done : events.claim = .ok (known, next)) :
      known.index ≠ event.index := by
    intro same
    have free := free_of_claim done
    rw [same, slot] at free
    cases free
  constructor
  case generation => rw [slot]
  case isEnabled => exact disabled
  case isPending =>
    unfold isPending
    rw [abandoned]
    rfl
  case setPending =>
    unfold setPending
    rw [abandoned]
  case abandon =>
    unfold abandon
    rw [disabled]
    rfl
  case claim => exact apart
  case claimInto =>
    intro cell known granted
    obtain ⟨next, done, _⟩ := claimInto_eq_of_ok granted
    exact apart done
  case held =>
    unfold claimInto
    rw [Option.any_some, claimed]
    rfl
  case releaseAbandoned =>
    unfold releaseAbandoned
    rw [if_pos abandoned]
    exact slot_of_release claimed

theorem abandoned_of_abandon (done : events.abandon event = (true, next)) :
    next.state event = .abandoned := by
  have claimed := isClaimed_of_isEnabled (isEnabled_of_abandon done)
  unfold abandon at done
  split at done
  · cases done
    exact state_setState_self events .abandoned fun free => by
      unfold isClaimed at claimed
      rw [free] at claimed
      cases claimed
  · cases done

/-! ### Interrupts -/

/-- Only the release of the event itself frees the slot of an event that is
claimed. -/
theorem eq_of_mem_freedIf {freed : Bool}
    (inside : event.index ∈ other.freedIf freed)
    (claimed : events.isClaimed event = true)
    (claimedToo : freed = true → events.isClaimed other = true) :
    other = event ∧ freed = true := by
  unfold EventHandle.freedIf at inside
  split at inside
  · next frees =>
      refine ⟨?_, frees⟩
      exact (eq_of_isClaimed claimed (claimedToo frees)
        (List.mem_singleton.mp inside)).symm
  · cases inside

private theorem abandoned_of_setPending {queued : Bool}
    (done : events.setPending other = .ok (queued, next))
    (abandoned : events.state event = .abandoned) :
    next.state event = .abandoned := by
  have slot := slot_of_abandoned abandoned
  unfold setPending at done
  split at done
  · next enabled =>
      have apart : other.index ≠ event.index := by
        intro same
        have claimed : events.isClaimed other = true := by
          unfold isClaimed
          rw [enabled]
          rfl
        have equal := eq_of_isClaimed claimed
          (isClaimed_of_abandoned abandoned) same
        rw [equal, abandoned] at enabled
        cases enabled
      split at done
      · cases done
        exact (state_setState_of_ne events _ apart).trans abandoned
      · cases done
  · cases done
    exact abandoned

private theorem abandoned_of_givenBack (different : other ≠ event)
    (abandoned : events.state event = .abandoned) :
    (events.releaseAbandoned other).2.state event = .abandoned := by
  unfold releaseAbandoned
  split
  · next abandonedToo =>
      have claimed := isClaimed_of_abandoned abandoned
      have claimedToo := isClaimed_of_abandoned abandonedToo
      have apart : event.index ≠ other.index := fun same =>
        different (eq_of_isClaimed claimed claimedToo same).symm
      unfold release
      rw [if_pos claimedToo]
      refine abandoned_of_slot ?_
      rw [slot_of_set rfl, if_neg apart]
      exact slot_of_abandoned abandoned
  · exact abandoned

theorem abandoned_of_interrupt {interrupt : Interrupt}
    (done : events.interrupt interrupt = .ok next)
    (kept : interrupt ≠ .givenBack event)
    (abandoned : events.state event = .abandoned) :
    next.state event = .abandoned := by
  cases interrupt with
  | occurred known =>
      unfold Events.interrupt at done
      dsimp only at done
      cases pending : events.setPending known with
      | error fault =>
          rw [pending] at done
          cases done
      | ok result =>
          rw [pending] at done
          cases done
          exact abandoned_of_setPending pending abandoned
  | givenBack known =>
      cases done
      exact abandoned_of_givenBack (fun same => kept (congrArg _ same))
        abandoned

theorem eq_of_mem_freedBy {interrupt : Interrupt}
    (inside : event.index ∈ events.freedBy interrupt)
    (abandoned : events.state event = .abandoned) :
    interrupt = .givenBack event := by
  cases interrupt with
  | occurred known => cases inside
  | givenBack known =>
      have claimed := isClaimed_of_abandoned abandoned
      have same := (eq_of_mem_freedIf inside claimed fun frees =>
        isClaimed_of_abandoned (releaseAbandoned_eq_true_iff.mp frees)).1
      rw [same]

/-- Of interrupts served in a row, too, only one that gives the event back frees
its slot. -/
theorem mem_of_mem_freedByAll {interrupts : List Interrupt}
    (inside : event.index ∈ events.freedByAll interrupts)
    (abandoned : events.state event = .abandoned) :
    .givenBack event ∈ interrupts := by
  induction interrupts generalizing events with
  | nil => cases inside
  | cons interrupt rest ih =>
      by_cases gives : interrupt = .givenBack event
      · rw [gives]
        exact List.mem_cons_self
      · unfold freedByAll at inside
        split at inside
        · next next served =>
            rcases List.mem_append.mp inside with first | later
            · exact absurd (eq_of_mem_freedBy first abandoned) gives
            · have still := abandoned_of_interrupt served gives abandoned
              exact List.mem_cons_of_mem interrupt (ih later still)
        · cases inside

end EventScheduler.Events
