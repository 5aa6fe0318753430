import EventScheduler.Event.Registry
import Mathlib.Tactic.Common

/-!
# What operations do to event slots

An operation on the registry leaves enabled slots enabled, but for the one it
releases or abandons, and claims nothing, but for the event it issues.
-/

namespace EventScheduler.Events

def slot (events : Events) (index : Fin maxEvents) : EventSlot :=
  getElem events.slots index index.isLt

def Enabled (events : Events) (index : Fin maxEvents) : Prop :=
  ∃ pending, (events.slot index).state = .enabled pending

variable {events next : Events} {event other : EventHandle}

theorem slot_of_set {index : Fin maxEvents} {changed : EventSlot}
    (slots : next.slots = events.slots.set index changed index.isLt)
    (other : Fin maxEvents) :
    next.slot other = if other = index then changed else events.slot other := by
  unfold slot
  rw [slots]
  by_cases same : other = index
  · subst same
    simp
  · have apart : index.val ≠ other.val := fun equal =>
      same (Fin.ext equal).symm
    simp [same, apart]

theorem isClaimed_iff :
    events.isClaimed event = true ↔
      (events.slot event.index).generation = event.generation ∧
        (events.slot event.index).state ≠ .free := by
  unfold isClaimed state slot
  generalize events.slots[event.index] = slot
  by_cases fits : slot.generation = event.generation <;> simp [fits]

theorem isEnabled_iff :
    events.isEnabled event = true ↔
      (events.slot event.index).generation = event.generation ∧
        events.Enabled event.index := by
  unfold isEnabled state Enabled slot
  generalize events.slots[event.index] = slot
  by_cases fits : slot.generation = event.generation
  · cases known : slot.state <;> simp [fits, known]
  · simp [fits]

theorem isClaimed_of_isEnabled (enabled : events.isEnabled event = true) :
    events.isClaimed event = true := by
  obtain ⟨fits, pending, state⟩ := isEnabled_iff.mp enabled
  refine isClaimed_iff.mpr ⟨fits, ?_⟩
  rw [state]
  exact fun impossible => nomatch impossible

/-- Only one handle of a slot is claimed at a time. -/
theorem eq_of_isClaimed (claimed : events.isClaimed event = true)
    (claimedToo : events.isClaimed other = true)
    (same : event.index = other.index) : event = other := by
  obtain ⟨fits, _⟩ := isClaimed_iff.mp claimed
  obtain ⟨fitsToo, _⟩ := isClaimed_iff.mp claimedToo
  have generation : event.generation = other.generation := by
    rw [← fits, ← fitsToo, same]
  cases event
  cases other
  cases same
  cases generation
  rfl

/-- Enabled slots stay enabled, but for `lost`, and nothing is claimed anew, but
`issued`. -/
structure Follows (events : Events) (lost : Option (Fin maxEvents))
    (issued : Option EventHandle) (next : Events) : Prop where
  enabled {index : Fin maxEvents} : lost ≠ some index →
    events.Enabled index → next.Enabled index
  claimed {event : EventHandle} : next.isClaimed event = true →
    events.isClaimed event = true ∨ issued = some event

namespace Follows

theorem refl (events : Events) : events.Follows none none events where
  enabled _ enabled := enabled
  claimed claimed := Or.inl claimed

theorem trans {third : Events} (before : events.Follows none none next)
    (after : next.Follows none none third) :
    events.Follows none none third where
  enabled here enabled := after.enabled here (before.enabled here enabled)
  claimed claimed := by
    rcases after.claimed claimed with already | impossible
    · exact before.claimed already
    · cases impossible

/-- Only the queue changes. -/
theorem of_slots (same : next.slots = events.slots) :
    events.Follows none none next where
  enabled _ enabled := by
    unfold Enabled slot at enabled ⊢
    rwa [same]
  claimed {event} claimed := by
    have equal : next.slot event.index = events.slot event.index := by
      unfold slot
      rw [same]
    rw [isClaimed_iff, equal, ← isClaimed_iff] at claimed
    exact Or.inl claimed

/-- One slot changes. -/
theorem of_slot {index : Fin maxEvents} {changed : EventSlot}
    {lost : Option (Fin maxEvents)} {issued : Option EventHandle}
    (slots : next.slots = events.slots.set index changed index.isLt)
    (enabled : lost ≠ some index →
      ∃ pending, changed.state = .enabled pending)
    (claimed : changed.state ≠ .free → ∀ event : EventHandle,
      event.index = index → event.generation = changed.generation →
        events.isClaimed event = true ∨ issued = some event) :
    events.Follows lost issued next where
  enabled {other} here enabledBefore := by
    unfold Enabled at enabledBefore ⊢
    rw [slot_of_set slots]
    split
    · next same =>
        rw [same] at here
        exact enabled here
    · exact enabledBefore
  claimed {event} claimedAfter := by
    rw [isClaimed_iff, slot_of_set slots] at claimedAfter
    split at claimedAfter
    · next same =>
        exact claimed claimedAfter.2 event same claimedAfter.1.symm
    · exact Or.inl (isClaimed_iff.mpr claimedAfter)

end Follows

/-- A claimed slot is put to another use. -/
private theorem setState_follows (claimed : events.isClaimed event = true)
    {lost : Option (Fin maxEvents)} {state : EventState}
    (enabled : lost ≠ some event.index → ∃ pending, state = .enabled pending)
    (slots : next.slots = (events.setState event state).slots) :
    events.Follows lost none next := by
  refine .of_slot slots enabled fun _ other same generation => Or.inl ?_
  obtain ⟨fits, used⟩ := isClaimed_iff.mp claimed
  refine isClaimed_iff.mpr ?_
  rw [same]
  exact ⟨generation.symm, used⟩

theorem claim_follows (done : events.claim = .ok (event, next)) :
    events.Follows none (some event) next := by
  unfold claim at done
  split at done
  · cases done
  · next index found =>
      obtain ⟨rfl, rfl⟩ := Prod.mk.inj (Except.ok.inj done)
      refine .of_slot rfl (fun _ => ⟨false, rfl⟩) ?_
      rintro _ ⟨known, generation⟩ same equal
      cases same
      cases equal
      exact Or.inr rfl

/-- The slot of an event that is claimed was free. -/
theorem free_of_claim (done : events.claim = .ok (event, next)) :
    (events.slot event.index).state = .free := by
  unfold claim at done
  split at done
  · cases done
  · next index found =>
      obtain ⟨rfl, rfl⟩ := Prod.mk.inj (Except.ok.inj done)
      have holds := List.find?_some found
      exact beq_iff_eq.mp holds

theorem not_isClaimed_of_claim (done : events.claim = .ok (event, next)) :
    events.isClaimed event = false :=
  Bool.eq_false_iff.mpr fun claimed =>
    (isClaimed_iff.mp claimed).2 (free_of_claim done)

/-- A claim into a cell is refused, and nothing changes, or it is a claim of an
event, which the cell holds from then on. -/
theorem claimInto_cases (events : Events) (cell : Option EventHandle) :
    (∃ error, events.claimInto cell = (⟨.error error, cell⟩, events)) ∨
      ∃ event next, events.claim = .ok (event, next) ∧
        events.claimInto cell = (⟨.ok event, some event⟩, next) := by
  unfold claimInto
  split
  · exact Or.inl ⟨.eventAlreadyClaimed, rfl⟩
  · cases claimed : events.claim with
    | error error => exact Or.inl ⟨error, rfl⟩
    | ok result => exact Or.inr ⟨result.1, result.2, rfl, rfl⟩

theorem claimInto_eq_of_error {cell : Option EventHandle} {error : Error}
    (refused : (events.claimInto cell).1.answer = .error error) :
    events.claimInto cell = (⟨.error error, cell⟩, events) := by
  rcases events.claimInto_cases cell with
    ⟨known, kept⟩ | ⟨event, next, _, granted⟩
  · rw [kept] at refused ⊢
    cases refused
    rfl
  · rw [granted] at refused
    cases refused

theorem claimInto_eq_of_ok {cell : Option EventHandle}
    (granted : (events.claimInto cell).1.answer = .ok event) :
    ∃ next, events.claim = .ok (event, next) ∧
      events.claimInto cell = (⟨.ok event, some event⟩, next) := by
  rcases events.claimInto_cases cell with
    ⟨error, kept⟩ | ⟨known, next, claimed, same⟩
  · rw [kept] at granted
    cases granted
  · rw [same] at granted
    cases granted
    exact ⟨next, claimed, same⟩

theorem setPending_follows {queued : Bool}
    (done : events.setPending event = .ok (queued, next)) :
    events.Follows none none next := by
  unfold setPending at done
  split at done
  · next state =>
      split at done
      · cases done
        have claimed : events.isClaimed event = true := by
          unfold isClaimed
          rw [state]
          rfl
        exact setState_follows claimed (fun _ => ⟨true, rfl⟩) rfl
      · cases done
  · cases done
    exact .refl _

theorem clearPending_follows {drained : List EventHandle}
    (done : events.clearPending drained = .ok next) :
    events.Follows none none next := by
  induction drained generalizing events with
  | nil =>
      cases done
      exact .refl _
  | cons event rest ih =>
      unfold clearPending at done
      split at done
      · next enabled =>
          have claimed := isClaimed_of_isEnabled enabled
          have first : events.Follows none none
              (events.setState event (.enabled false)) :=
            setState_follows claimed (fun _ => ⟨false, rfl⟩) rfl
          exact first.trans (ih done)
      · cases done

theorem takePending_follows {drained : List EventHandle}
    (done : events.takePending = .ok (drained, next)) :
    events.Follows none none next := by
  unfold takePending at done
  dsimp only at done
  cases cleared : { events with queue := [] }.clearPending events.queue with
  | error fault =>
      rw [cleared] at done
      cases done
  | ok after =>
      rw [cleared] at done
      cases done
      have emptied : events.Follows none none { events with queue := [] } :=
        .of_slots rfl
      exact emptied.trans (clearPending_follows cleared)

theorem takePending_of_takeInto {buffer : List EventHandle}
    {result : List EventHandle × Events}
    (done : events.takeInto buffer = .ok result) :
    events.takePending = .ok result := by
  unfold takeInto at done
  split at done
  · exact done
  · cases done

theorem release_follows (done : events.release event = (true, next)) :
    events.Follows (some event.index) none next := by
  unfold release at done
  split at done
  · cases done
    refine .of_slot rfl (fun apart => absurd rfl apart) ?_
    exact fun used => absurd rfl used
  · cases done

theorem isClaimed_of_release (done : events.release event = (true, next)) :
    events.isClaimed event = true := by
  unfold release at done
  split at done
  · assumption
  · cases done

theorem isEnabled_of_abandon (done : events.abandon event = (true, next)) :
    events.isEnabled event = true := by
  unfold abandon at done
  split at done
  · assumption
  · cases done

/-- A released event is not claimed any more. -/
theorem not_isClaimed_of_release (done : events.release event = (true, next)) :
    next.isClaimed event = false := by
  unfold release at done
  split at done
  · cases done
    refine Bool.eq_false_iff.mpr fun claimed => ?_
    refine (isClaimed_iff.mp claimed).2 ?_
    unfold slot dequeue
    simp
  · cases done

theorem abandon_follows (done : events.abandon event = (true, next)) :
    events.Follows (some event.index) none next := by
  have claimed := isClaimed_of_isEnabled (isEnabled_of_abandon done)
  unfold abandon at done
  split at done
  · cases done
    exact setState_follows claimed (fun apart => absurd rfl apart) rfl
  · cases done

theorem not_enabled_of_abandoned
    (abandoned : events.state event = .abandoned) :
    ¬ events.Enabled event.index := by
  rintro ⟨pending, enabled⟩
  unfold state at abandoned
  dsimp only at abandoned
  split at abandoned
  · have clash := enabled.symm.trans abandoned
    cases clash
  · cases abandoned

theorem releaseAbandoned_follows (events : Events) (event : EventHandle) :
    events.Follows none none (events.releaseAbandoned event).2 := by
  unfold releaseAbandoned
  split
  · next abandoned =>
      cases released : events.release event with
      | mk done next =>
          cases done with
          | false =>
              unfold release at released
              split at released
              · cases released
              · cases released
                exact .refl events
          | true =>
              have follows := release_follows released
              refine ⟨fun {index} _ enabled => ?_, follows.claimed⟩
              refine follows.enabled ?_ enabled
              rintro ⟨⟩
              -- An abandoned slot is not enabled.
              exact not_enabled_of_abandoned abandoned enabled
  · exact .refl events

end EventScheduler.Events
