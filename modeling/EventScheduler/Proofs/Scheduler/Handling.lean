import EventScheduler.Proofs.Scheduler.Relations

/-!
# Who handles an event

A task handles an event from when it was started to do so, as long as it lives
and the event is not claimed anew.  It is registered as the handler unless it
abandoned the event itself.
-/

namespace EventScheduler

variable {S : Signature}

/-! ### Giving up an event -/

namespace Kernel

/-- Waking tasks leaves events and handlers as they were. -/
theorem wakes_keep {kernel next : Kernel S}
    (evolves : Evolves Deed.Wakes kernel next) :
    next.events = kernel.events ∧ next.handlers = kernel.handlers ∧
      next.running = kernel.running := by
  induction evolves with
  | refl => exact ⟨rfl, rfl, rfl⟩
  | step before change woken ih =>
      obtain ⟨other, rfl⟩ := woken
      cases change with
      | wake found waiting holds => exact ih

end Kernel

namespace Machine

variable [Application S] {machine : Machine S} {event : EventHandle}

/-- A release or an abandonment of the event comes to its end, and the verdict
is true. -/
inductive GivesUp (machine : Machine S) (event : EventHandle) : Move S → Prop
  | calledRelease {kernel : Kernel S} (idle : machine.control.isIdle = true)
      (done : machine.kernel.startRelease event = .ok (.answered true kernel)) :
      GivesUp machine event (.call (.release event))
  | calledAbandon {kernel : Kernel S} (idle : machine.control.isIdle = true)
      (done : machine.kernel.startAbandon event = .ok (.answered true kernel)) :
      GivesUp machine event (.call (.abandon event))
  | askedRelease {role : Role} {rest : Bool → Program S (role.Result S)}
      {kernel : Kernel S}
      (control : machine.control = .body role (.ask (.release event) rest))
      (done : machine.kernel.startRelease event = .ok (.answered true kernel)) :
      GivesUp machine event .step
  | askedAbandon {role : Role} {rest : Bool → Program S (role.Result S)}
      {kernel : Kernel S}
      (control : machine.control = .body role (.ask (.abandon event) rest))
      (done : machine.kernel.startAbandon event = .ok (.answered true kernel)) :
      GivesUp machine event .step
  | closed {closing : Closing} {kernel : Kernel S}
      (control : machine.control = .body (.close closing) (.pure ()))
      (onEvent : closing.errand.event? = some event)
      (done : machine.kernel.complete closing = .ok (true, kernel)) :
      GivesUp machine event .step

theorem kernel_of_called {call : Call} {errand : Errand}
    {verdict : Bool} {kernel : Kernel S}
    (idle : machine.control.isIdle = true)
    (launches : launch machine.toScheduler call =
      ofStarted machine.toScheduler
        ((machine.kernel.startErrand event errand).map fun started =>
          started.map .ok))
    (done : machine.kernel.startErrand event errand =
      .ok (.answered verdict kernel)) :
    (machine.move (.call call)).kernel = kernel := by
  unfold Machine.move
  dsimp only
  rw [if_pos idle, launches, done]
  rfl

end Machine

/-! ### Who handles an event -/

namespace Run

variable [Application S]

/-- Something happened that has to do with a task, and ever since the task is
alive and nothing undid it. -/
inductive Since (run : Run S) (task : TaskHandle)
    (happens undone : Machine S → Move S → Prop) : Nat → Prop
  | now {count : Nat} (here : happens (run.after count) (run.moves count))
      (alive : (run.after (count + 1)).kernel.isAlive task = true) :
      Since run task happens undone (count + 1)
  | still {count : Nat} (before : Since run task happens undone count)
      (lasting : ¬ undone (run.after count) (run.moves count))
      (alive : (run.after (count + 1)).kernel.isAlive task = true) :
      Since run task happens undone (count + 1)

/-- The task was started to handle the event since the event was claimed. -/
def Handles (run : Run S) (event : EventHandle) (task : TaskHandle) :
    Nat → Prop :=
  run.Since task (fun machine => machine.Does (.handles event task))
    fun machine => machine.Does (.claims event)

variable {run : Run S} {count : Nat} {event : EventHandle} {task : TaskHandle}
  {happens undone : Machine S → Move S → Prop}

theorem isAlive_of_handled
    (handled : (run.after count).kernel.handlers.get? event = some task) :
    (run.after count).kernel.isAlive task = true := by
  have stored := Handlers.get?_eq_some_iff.mp handled
  exact (run.isAlive_iff count).mpr
    ((run.related count).handling stored)

theorem Since.alive (since : run.Since task happens undone count) :
    (run.after count).kernel.roster.Alive task := by
  cases since with
  | now _ alive | still _ _ alive =>
      exact (run.isAlive_iff _).mp alive

/-- The task is the handler of the event, unless the event is not claimed. -/
def Registered (run : Run S) (event : EventHandle) (task : TaskHandle)
    (count : Nat) : Prop :=
  (run.after count).kernel.handlers.get? event = some task ∨
    (run.after count).kernel.events.isClaimed event = false

theorem Registered.succ (registered : run.Registered event task count)
    (alive : (run.after count).kernel.roster.Alive task)
    (aliveAfter : (run.after (count + 1)).kernel.roster.Alive task)
    (unclaimed : ¬ (run.after count).Does (.claims event) (run.moves count))
    (stays : ¬ (run.after count).Resigns event task (run.moves count)) :
    run.Registered event task (count + 1) := by
  by_cases claimed :
    (run.after (count + 1)).kernel.events.isClaimed event = true
  · refine (run.accounted count).keeps_handler (run.wellformed count)
      (run.related count) (fun deed accounts => ⟨?_, ?_, ?_⟩) aliveAfter
      registered
    · exact not_started accounts alive
    · rintro rfl
      apply unclaimed
      apply accounts.claims
      simp [Deed.issued?]
    · rintro rfl
      rcases accounts.resigns rfl with impossible | gone
      · exact stays impossible
      · rw [claimed] at gone
        cases gone
  · exact Or.inr (by simpa using claimed)

end Run

end EventScheduler
