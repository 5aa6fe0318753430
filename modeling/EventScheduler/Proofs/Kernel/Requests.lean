import EventScheduler.Proofs.Event.Registry
import EventScheduler.Proofs.Kernel.Operations

/-!
# Which changes a request makes

A request of a body is answered at once, or it begins a kill and is answered
with the verdict of what the kill is part of.
-/

namespace EventScheduler

variable {S : Signature}

namespace Request

/-- What may happen while a request of the task `current` is answered. -/
def May (current : TaskHandle) :
    (request : Request S) → request.Reply → Deed → Prop
  | .store _, _, deed => deed = .quiet
  | .start _ _, answer, deed =>
      deed = .quiet ∨ ∃ task, answer = .ok task ∧ deed = .starts task
  | .resume _, _, deed => deed.Wakes
  | .join task, _, deed => deed = .joins task current
  | .claim, answer, deed => ∃ event, answer = .ok event ∧ deed = .claims event
  | .claimInto _, grant, deed =>
      ∃ event, grant.answer = .ok event ∧ deed = .claims event
  | .release event, _, deed =>
      (∃ task, deed = .resigns event task) ∨ deed.Settles (.release event)
  | .abandon event, _, deed =>
      (∃ task, deed = .resigns event task) ∨ deed.Settles (.abandon event)
  | .releaseAbandoned event, _, deed => deed = .givesBack event
  | .setPending event, _, deed => deed = .occurs event
  | .handle event _, answer, deed =>
      deed = .quiet ∨ (∃ index, deed = .spoils index) ∨
        ∃ task, answer = .ok task ∧ deed = .handles event task
  | .watch event, _, deed => deed = .watches event current
  | .unwatch event, _, deed => deed = .unwatches event current
  | .wait _ _ _, _, deed => deed.Waits current
  | _, _, _ => False

def errand? : Request S → Option Errand
  | .kill _ | .stopHandler _ => some .kill
  | .release event => some (.release event)
  | .abandon event => some (.abandon event)
  | _ => none

end Request

namespace Kernel

variable {kernel next : Kernel S}

private theorem answerClaim_evolves {answer : Except Error EventHandle}
    (done : kernel.answerClaim kernel.events.claim =
      .ok (.answered answer next)) :
    Evolves (fun deed => ∃ event, answer = .ok event ∧ deed = .claims event)
      kernel next := by
  cases claimed : kernel.events.claim with
  | error error =>
      rw [claimed] at done
      cases done
      exact .refl kernel
  | ok result =>
      rw [claimed] at done
      cases done
      exact .single (.claim claimed) ⟨result.1, rfl, rfl⟩

private theorem claimInto_evolves {cell : Option EventHandle}
    {claim : CellClaim}
    (done : kernel.answerFrom (kernel.events.claimInto cell) =
      .ok (.answered claim next)) :
    Evolves (fun deed =>
      ∃ event, claim.answer = .ok event ∧ deed = .claims event)
      kernel next := by
  rcases kernel.events.claimInto_cases cell with
    ⟨error, kept⟩ | ⟨event, events, claimed, granted⟩
  · rw [kept] at done
    cases done
    exact .refl kernel
  · rw [granted] at done
    cases done
    exact .single (.claim claimed) ⟨event, rfl, rfl⟩

variable [Environment S.World]

theorem settlesAtOnce_evolves {event : EventHandle} {errand : Errand}
    {verdict : Bool}
    (settles : kernel.SettlesAtOnce event errand verdict next) :
    Evolves (fun deed => (∃ task, deed = .resigns event task) ∨
      deed.Settles errand) kernel next := by
  rcases settles with ⟨_, done⟩ | ⟨task, handled, running, done⟩
  · have settled := settle_evolves kernel errand
    rw [done] at settled
    exact settled.mono fun deed fits => Or.inr fits
  · have settled := settle_evolves
      { kernel with handlers := kernel.handlers.forget task } errand
    rw [done] at settled
    refine Evolves.trans (.single (.resign handled running) ?_)
      (settled.mono fun deed fits => Or.inr fits)
    exact Or.inl ⟨task, rfl⟩

theorem perform_answered (wellformed : kernel.Wellformed)
    {current : TaskHandle} {request : Request S} {reply : request.Reply}
    (done : kernel.perform current request = .ok (.answered reply next)) :
    Evolves (request.May current reply) kernel next := by
  cases request with
  | current | now | load | isAlive | isWaiting | state | name | isEnabled
  | isPending | queued | handler =>
      cases done
      exact .refl kernel
  | store world =>
      cases done
      exact .single (.world world) rfl
  | start body name =>
      obtain ⟨⟨answer, after⟩, started, ended⟩ := exists_ok_of_bind done
      cases ended
      exact start_evolves wellformed started
  | resume task =>
      simp only [perform] at done
      split at done
      · cases done
        exact .refl kernel
      · obtain ⟨⟨answer, after⟩, resumed, ended⟩ := exists_ok_of_bind done
        cases ended
        exact resume_evolves wellformed resumed
  | kill task =>
      simp only [perform] at done
      split at done
      · cases done
        exact .refl kernel
      · rw [startKill_answered done]
        exact .refl kernel
  | join task =>
      cases done
      exact join_evolves wellformed task current
  | claim => exact answerClaim_evolves done
  | claimInto cell => exact claimInto_evolves done
  | release event | abandon event =>
      exact settlesAtOnce_evolves (startErrand_answered wellformed done)
  | releaseAbandoned event =>
      cases done
      exact .single (.giveBack event) rfl
  | setPending event =>
      obtain ⟨⟨answer, events⟩, pending, ended⟩ := exists_ok_of_bind done
      cases ended
      exact .single (.occur pending) rfl
  | handle event body =>
      obtain ⟨⟨answer, after⟩, handled, ended⟩ := exists_ok_of_bind done
      cases ended
      exact handle_evolves wellformed handled
  | stopHandler event =>
      simp only [perform, startStop] at done
      split at done
      · rw [startKill_answered done]
        exact .refl kernel
      · cases done
        exact .refl kernel
  | watch event =>
      cases done
      exact watch_evolves wellformed event current
  | unwatch event =>
      cases done
      exact unwatch_evolves kernel event current
  | wait events deadline poll =>
      cases done
      exact wait_evolves wellformed current events deadline poll

/-- A request that is not answered at once begins a kill. -/
theorem perform_underway (wellformed : kernel.Wellformed)
    {current : TaskHandle} {request : Request S} {closing : Closing}
    {body : Option S.Body} {reply : Bool → request.Reply}
    (done : kernel.perform current request =
      .ok (.underway closing body reply next)) :
    kernel.Begins closing body next ∧ request.errand? = some closing.errand ∧
      ∀ event, closing.errand.event? = some event →
        kernel.handlers.get? event = some closing.task := by
  cases request with
  | current | now | load | isAlive | isWaiting | state | name | isEnabled
  | isPending | queued | handler | store | join | claimInto
  | releaseAbandoned | watch | unwatch | wait => cases done
  | start | setPending | handle =>
      obtain ⟨⟨answer, after⟩, _, ended⟩ := exists_ok_of_bind done
      cases ended
  | resume task =>
      simp only [perform] at done
      split at done
      · cases done
      · obtain ⟨⟨answer, after⟩, _, ended⟩ := exists_ok_of_bind done
        cases ended
  | kill task =>
      simp only [perform] at done
      split at done
      · cases done
      · obtain ⟨begins, errand, _⟩ := startKill_underway wellformed done
        refine ⟨begins, by rw [errand]; rfl, fun event same => ?_⟩
        rw [errand] at same
        cases same
  | claim =>
      cases claimed : kernel.events.claim <;>
        simp only [perform, claimed] at done <;> cases done
  | release event =>
      have started : kernel.startErrand event (.release event) =
          .ok (.underway closing body reply next) := done
      obtain ⟨begins, errand, handled⟩ :=
        startErrand_underway wellformed started
      refine ⟨begins, by rw [errand]; rfl, fun other same => ?_⟩
      rw [errand] at same
      cases same
      exact handled
  | abandon event =>
      have started : kernel.startErrand event (.abandon event) =
          .ok (.underway closing body reply next) := done
      obtain ⟨begins, errand, handled⟩ :=
        startErrand_underway wellformed started
      refine ⟨begins, by rw [errand]; rfl, fun other same => ?_⟩
      rw [errand] at same
      cases same
      exact handled
  | stopHandler event =>
      simp only [perform, startStop] at done
      split at done
      · obtain ⟨begins, errand, _⟩ := startKill_underway wellformed done
        refine ⟨begins, by rw [errand]; rfl, fun other same => ?_⟩
        rw [errand] at same
        cases same
      · cases done

end Kernel

end EventScheduler
