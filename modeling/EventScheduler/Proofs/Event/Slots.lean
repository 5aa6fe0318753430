import EventScheduler.Proofs.Event.Registry

/-!
# Event slots that are freed

Only a release, or a release of what was abandoned, frees an event slot, and
then its generation advances by one.  No other operation touches a generation,
and only claims, releases and abandonments change which events are enabled.
-/

namespace EventScheduler

def EventHandle.freedIf (event : EventHandle) (freed : Bool) :
    List (Fin maxEvents) :=
  if freed then [event.index] else []

namespace Events

/-- One slot may be freed, the event of one may cease to be enabled, and that of
one may be issued; the others keep their generation, and stay enabled or not as
they were.  A claimed slot stays claimed unless it is freed. -/
structure Reshapes (events : Events) (freed lost : Option (Fin maxEvents))
    (issued : Option EventHandle) (next : Events) : Prop where
  generation (index : Fin maxEvents) : (next.slot index).generation =
    if freed = some index then (events.slot index).generation + 1
    else (events.slot index).generation
  enabled (index : Fin maxEvents) : next.Enabled index ↔
    issued.map EventHandle.index = some index ∨
      events.Enabled index ∧ lost ≠ some index
  emptied {index : Fin maxEvents} :
    freed = some index → (next.slot index).state = .free
  claimed {index : Fin maxEvents} : freed ≠ some index →
    (events.slot index).state ≠ .free → (next.slot index).state ≠ .free
  fits {event : EventHandle} : issued = some event →
    (events.slot event.index).generation = event.generation

variable {events next third : Events} {event other : EventHandle}
  {freed lost : Option (Fin maxEvents)} {issued : Option EventHandle}

namespace Reshapes

/-- No slot changes but for what is pending. -/
theorem still (generation : ∀ index,
      (next.slot index).generation = (events.slot index).generation)
    (enabled : ∀ index, next.Enabled index ↔ events.Enabled index)
    (claimed : ∀ index, (events.slot index).state ≠ .free →
      (next.slot index).state ≠ .free) :
    events.Reshapes none none none next where
  generation index := by
    rw [generation, if_neg (Option.some_ne_none index).symm]
  enabled index := by simp [enabled]
  emptied := nofun
  claimed {index} _ := claimed index
  fits := nofun

theorem of_slots (same : next.slots = events.slots) :
    events.Reshapes none none none next := by
  have equal (index : Fin maxEvents) : next.slot index = events.slot index := by
    unfold slot
    rw [same]
  refine .still (fun index => by rw [equal]) (fun index => ?_) fun index => ?_
  · unfold Enabled
    rw [equal]
  · rw [equal]
    exact id

/-- An event that is issued, or was enabled and is not lost, is enabled. -/
theorem isEnabled_iff (reshapes : events.Reshapes freed lost issued next) :
    next.isEnabled event = true ↔ issued = some event ∨
      events.isEnabled event = true ∧ lost ≠ some event.index := by
  have kept (enabled : next.Enabled event.index) :
      (next.slot event.index).generation =
        (events.slot event.index).generation := by
    rw [reshapes.generation, if_neg]
    intro freed
    obtain ⟨pending, state⟩ := enabled
    cases state.symm.trans (reshapes.emptied freed)
  rw [Events.isEnabled_iff, Events.isEnabled_iff, reshapes.enabled]
  constructor
  · rintro ⟨generation, enabled⟩
    have fits := kept ((reshapes.enabled _).mpr enabled)
    rw [generation] at fits
    rcases enabled with named | ⟨enabled, stays⟩
    · obtain ⟨known, same, index⟩ := Option.map_eq_some_iff.mp named
      have generationToo := reshapes.fits same
      refine Or.inl (same.trans (congrArg some ?_))
      cases known
      cases event
      cases index
      exact congrArg (EventHandle.mk _) (generationToo.symm.trans fits.symm)
    · exact Or.inr ⟨⟨fits.symm, enabled⟩, stays⟩
  · rintro (same | ⟨⟨generation, enabled⟩, stays⟩)
    · have named : issued.map EventHandle.index = some event.index := by
        rw [same]
        rfl
      have enabled := (reshapes.enabled _).mpr (Or.inl named)
      exact ⟨(kept enabled).trans (reshapes.fits same), Or.inl named⟩
    · have enabledToo := (reshapes.enabled _).mpr (Or.inr ⟨enabled, stays⟩)
      exact ⟨(kept enabledToo).trans generation, Or.inr ⟨enabled, stays⟩⟩

/-- One slot changes. -/
theorem of_slot (index : Fin maxEvents) {changed : EventSlot}
    (slots : next.slots = events.slots.set index changed index.isLt)
    (elsewhere : ∀ other ≠ index, freed ≠ some other ∧ lost ≠ some other ∧
      issued.map EventHandle.index ≠ some other)
    (generation : changed.generation =
      if freed = some index then (events.slot index).generation + 1
      else (events.slot index).generation)
    (enabled : (∃ pending, changed.state = .enabled pending) ↔
      issued.map EventHandle.index = some index ∨
        events.Enabled index ∧ lost ≠ some index)
    (emptied : freed = some index → changed.state = .free)
    (claimed : freed ≠ some index → (events.slot index).state ≠ .free →
      changed.state ≠ .free)
    (fits : ∀ {event}, issued = some event →
      (events.slot event.index).generation = event.generation) :
    events.Reshapes freed lost issued next where
  generation other := by
    rw [slot_of_set slots]
    by_cases same : other = index
    · subst same
      rw [if_pos rfl]
      exact generation
    · rw [if_neg same, if_neg (elsewhere other same).1]
  enabled other := by
    unfold Enabled
    rw [slot_of_set slots]
    by_cases same : other = index
    · subst same
      rw [if_pos rfl]
      exact enabled
    · obtain ⟨_, kept, other⟩ := elsewhere other same
      rw [if_neg same]
      simp [kept, other]
  emptied {other} freed := by
    by_cases same : other = index
    · subst same
      rw [slot_of_set slots, if_pos rfl]
      exact emptied freed
    · exact absurd freed (elsewhere other same).1
  claimed {other} kept used := by
    rw [slot_of_set slots]
    split
    · next same =>
        rw [same] at kept used
        exact claimed kept used
    · exact used
  fits := fits

theorem trans (before : events.Reshapes none none none next)
    (after : next.Reshapes none none none third) :
    events.Reshapes none none none third := by
  refine .still (fun index => ?_) (fun index => ?_) fun index used => ?_
  · rw [after.generation, before.generation]
    simp
  · rw [after.enabled, before.enabled]
    simp
  · exact after.claimed nofun (before.claimed nofun used)

end Reshapes

/-- A slot that is in use is enabled or not, as before. -/
private theorem setState_reshapes {state : EventState}
    (enabled : (∃ pending, state = .enabled pending) ↔
      events.Enabled event.index) (used : state ≠ .free)
    (slots : next.slots = (events.setState event state).slots) :
    events.Reshapes none none none next := by
  refine .of_slot event.index slots ?_ ?_ ?_ ?_ ?_ ?_
  · simp
  · rfl
  · simpa using enabled
  · exact nofun
  · exact fun _ _ => used
  · exact nofun

theorem claim_reshapes (done : events.claim = .ok (event, next)) :
    events.Reshapes none none (some event) next := by
  unfold claim at done
  split at done
  · cases done
  · next index found =>
      obtain ⟨rfl, rfl⟩ := Prod.mk.inj (Except.ok.inj done)
      refine .of_slot index rfl ?_ rfl ?_ ?_ ?_ ?_
      · exact fun other different => by simp [different.symm]
      · simp
      · exact nofun
      · exact fun _ _ => nofun
      · rintro _ ⟨⟩
        rfl

theorem setPending_reshapes {queued : Bool}
    (done : events.setPending event = .ok (queued, next)) :
    events.Reshapes none none none next := by
  unfold setPending at done
  split at done
  · next state =>
      split at done
      · cases done
        have enabled : events.isEnabled event = true := by
          unfold isEnabled
          rw [state]
        exact setState_reshapes (iff_of_true ⟨true, rfl⟩
          (Events.isEnabled_iff.mp enabled).2) (by decide) rfl
      · cases done
  · cases done
    exact .of_slots rfl

private theorem clearPending_reshapes {drained : List EventHandle}
    (done : events.clearPending drained = .ok next) :
    events.Reshapes none none none next := by
  induction drained generalizing events with
  | nil =>
      cases done
      exact .of_slots rfl
  | cons event rest ih =>
      unfold clearPending at done
      split at done
      · next enabled =>
          have first : events.Reshapes none none none
              (events.setState event (.enabled false)) :=
            setState_reshapes (iff_of_true ⟨false, rfl⟩
              (Events.isEnabled_iff.mp enabled).2) (by decide) rfl
          exact first.trans (ih done)
      · cases done

theorem takePending_reshapes {drained : List EventHandle}
    (done : events.takePending = .ok (drained, next)) :
    events.Reshapes none none none next := by
  unfold takePending at done
  dsimp only at done
  cases cleared : { events with queue := [] }.clearPending events.queue with
  | error fault =>
      rw [cleared] at done
      cases done
  | ok after =>
      rw [cleared] at done
      cases done
      have emptied : events.Reshapes none none none
          { events with queue := [] } := .of_slots rfl
      exact emptied.trans (clearPending_reshapes cleared)

theorem release_reshapes (done : events.release event = (true, next)) :
    events.Reshapes (some event.index) (some event.index) none next := by
  unfold release at done
  split at done
  · cases done
    refine .of_slot event.index rfl ?_ ?_ ?_ ?_ ?_ ?_
    · exact fun other different => by simp [different.symm]
    · rw [if_pos rfl]
      rfl
    · simp
    · exact fun _ => rfl
    · exact fun kept => absurd rfl kept
    · exact nofun
  · cases done

theorem abandon_reshapes (done : events.abandon event = (true, next)) :
    events.Reshapes none (some event.index) none next := by
  unfold abandon at done
  split at done
  · cases done
    refine .of_slot event.index rfl ?_ rfl ?_ ?_ ?_ ?_
    · exact fun other different => by simp [different.symm]
    · simp
    · exact nofun
    · exact fun _ _ => nofun
    · exact nofun
  · cases done

theorem releaseAbandoned_reshapes (events : Events) (event : EventHandle) :
    events.Reshapes
      (if events.state event = .abandoned then some event.index else none) none
      none (events.releaseAbandoned event).2 := by
  unfold releaseAbandoned
  split
  · next abandoned =>
      have claimed : events.isClaimed event = true := by
        unfold isClaimed
        rw [abandoned]
        rfl
      have released : events.release event =
          (true, (events.release event).2) := by
        unfold release
        rw [if_pos claimed]
      have reshapes := release_reshapes released
      refine ⟨reshapes.generation, fun index => ?_, reshapes.emptied,
        reshapes.claimed, reshapes.fits⟩
      rw [reshapes.enabled]
      -- An abandoned slot is not enabled.
      have apart : events.Enabled index → event.index ≠ index := by
        rintro enabled rfl
        exact not_enabled_of_abandoned abandoned enabled
      simpa using apart
  · exact .of_slots rfl

/-! ### How often slots are freed -/

/-- The listed slots were freed, each as often as it is listed, and what is
claimed in the others stays so. -/
structure Frees (events : Events) (freed : List (Fin maxEvents))
    (next : Events) : Prop where
  generation (index : Fin maxEvents) : (next.slot index).generation =
    (events.slot index).generation + UInt16.ofNat (freed.count index)
  claimed {index : Fin maxEvents} : index ∉ freed →
    (events.slot index).state ≠ .free → (next.slot index).state ≠ .free

theorem Frees.refl (events : Events) : events.Frees [] events where
  generation index := by simp
  claimed _ used := used

theorem Frees.append {first second : List (Fin maxEvents)}
    (before : events.Frees first next) (after : next.Frees second third) :
    events.Frees (first ++ second) third where
  generation index := by
    rw [after.generation, before.generation, List.count_append,
      UInt16.ofNat_add, UInt16.add_assoc]
  claimed {index} kept used := by
    rw [List.mem_append, not_or] at kept
    exact after.claimed kept.2 (before.claimed kept.1 used)

theorem Reshapes.frees (reshapes : events.Reshapes freed lost issued next) :
    events.Frees freed.toList next where
  generation index := by
    rw [reshapes.generation]
    cases freed with
    | none => simp
    | some slot =>
        by_cases same : slot = index
        · subst same
          simp
        · simp [same]
  claimed {index} kept used := by
    refine reshapes.claimed ?_ used
    rintro rfl
    exact kept (Option.mem_toList.mpr rfl)

theorem releaseAbandoned_eq_true_iff :
    (events.releaseAbandoned event).1 = true ↔
      events.state event = .abandoned := by
  unfold releaseAbandoned
  split
  · next abandoned =>
      have claimed : events.isClaimed event = true := by
        unfold isClaimed
        rw [abandoned]
        rfl
      unfold release
      rw [if_pos claimed]
      exact iff_of_true rfl abandoned
  · next other => exact iff_of_false Bool.false_ne_true other

theorem releaseAbandoned_frees (events : Events) (event : EventHandle) :
    events.Frees (event.freedIf (events.releaseAbandoned event).1)
      (events.releaseAbandoned event).2 := by
  have frees := (releaseAbandoned_reshapes events event).frees
  unfold EventHandle.freedIf
  by_cases abandoned : events.state event = .abandoned
  · rw [if_pos abandoned] at frees
    rwa [if_pos (releaseAbandoned_eq_true_iff.mpr abandoned)]
  · rw [if_neg abandoned] at frees
    rwa [if_neg (mt releaseAbandoned_eq_true_iff.mp abandoned)]

def freedBy (events : Events) : Interrupt → List (Fin maxEvents)
  | .occurred _ => []
  | .givenBack event => event.freedIf (events.releaseAbandoned event).1

def freedByAll (events : Events) : List Interrupt → List (Fin maxEvents)
  | [] => []
  | interrupt :: rest =>
      match events.interrupt interrupt with
      | .ok next => events.freedBy interrupt ++ next.freedByAll rest
      | .error _ => []

theorem interrupt_frees {interrupt : Interrupt}
    (done : events.interrupt interrupt = .ok next) :
    events.Frees (events.freedBy interrupt) next := by
  cases interrupt with
  | occurred event =>
      unfold interrupt at done
      dsimp only at done
      cases pending : events.setPending event with
      | error fault =>
          rw [pending] at done
          cases done
      | ok result =>
          rw [pending] at done
          cases done
          exact (setPending_reshapes pending).frees
  | givenBack event =>
      cases done
      exact releaseAbandoned_frees events event

theorem serve_frees {interrupts : List Interrupt}
    (done : events.serve interrupts = .ok next) :
    events.Frees (events.freedByAll interrupts) next := by
  induction interrupts generalizing events with
  | nil =>
      cases done
      exact .refl _
  | cons interrupt rest ih =>
      unfold serve at done
      unfold freedByAll
      cases served : events.interrupt interrupt with
      | error fault =>
          rw [served] at done
          cases done
      | ok middle =>
          rw [served] at done
          exact (interrupt_frees served).append (ih done)

end Events

end EventScheduler
