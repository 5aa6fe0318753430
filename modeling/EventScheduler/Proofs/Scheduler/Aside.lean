import EventScheduler.Proofs.Scheduler.Steady

/-!
# Steps that nobody asked for

Only where a body asks for something, where a close has come to its end, or
where the loop sleeps can a task start, can it begin or cease to watch an event
without dying, and can an event go away.  Every other step goes through changes
that leave all that aside.
-/

namespace EventScheduler

variable {S : Signature}

namespace Deed

/-- Nobody starts, nobody begins to watch anything or ceases to but by dying,
and no event goes away. -/
def isAside : Deed → Bool
  | .starts _ | .watches _ _ | .unwatches _ _ | .handles _ _ | .releases _
  | .abandons _ | .givesBack _ => false
  | _ => true

variable {deed : Deed}

theorem Wakes.isAside (fits : deed.Wakes) : deed.isAside = true := by
  obtain ⟨task, rfl⟩ := fits
  rfl

private theorem Drains.isAside (fits : deed.Drains) : deed.isAside = true := by
  rcases fits with rfl | rfl | fits
  · rfl
  · rfl
  · exact fits.isAside

private theorem Idles.isAside (fits : deed.Idles) : deed.isAside = true := by
  rcases fits with fits | rfl
  · exact Drains.isAside fits
  · rfl

private theorem Buries.isAside {task : TaskHandle} (fits : deed.Buries task) :
    deed.isAside = true := by
  rcases fits with rfl | rfl <;> rfl

end Deed

namespace Kernel

variable {kernel next : Kernel S}

private theorem aside_of_quiet (evolves : Evolves (· = .quiet) kernel next) :
    Evolves (fun deed => deed.isAside = true) kernel next := by
  refine evolves.mono ?_
  rintro deed rfl
  rfl

private theorem Buries.aside {task : TaskHandle}
    (buries : kernel.Buries task next) :
    Evolves (fun deed => deed.isAside = true) kernel next :=
  buries.evolves.mono fun _ => Deed.Buries.isAside

theorem Begins.aside {closing : Closing} {body : Option S.Body}
    (begins : kernel.Begins closing body next) :
    Evolves (fun deed => deed.isAside = true) kernel next :=
  begins.buries.aside

end Kernel

private theorem Scheduler.QueuedUp.aside {scheduler next : Scheduler S}
    (queued : scheduler.QueuedUp next) :
    Kernel.Evolves (fun deed => deed.isAside = true) scheduler.kernel
      next.kernel := by
  obtain ⟨_, middle, promotes, requeues⟩ := queued
  have promoted : Kernel.Evolves (fun deed => deed.isAside = true)
      scheduler.kernel middle := .single promotes rfl
  cases yielded : scheduler.yielded with
  | none =>
      rw [yielded] at requeues
      rw [requeues]
      exact promoted
  | some task =>
      rw [yielded] at requeues
      exact promoted.step requeues rfl

private theorem Scheduler.Applied.aside {scheduler after : Scheduler S}
    {task : TaskHandle} {step : S.Step} {value : Option S.Output}
    (applied : scheduler.Applied task step value after) :
    Kernel.Evolves (fun deed => deed.isAside = true) scheduler.kernel
      after.kernel := by
  cases applied with
  | yields => exact .refl _
  | parks change => exact .single change rfl
  | ends before dies wakes =>
      exact ((Kernel.aside_of_quiet before).trans dies.aside).trans
        (wakes.mono fun _ => Deed.Wakes.isAside)

/-- Whether nobody waits for an answer, no close has run, and the loop does not
sleep. -/
def Control.isCalm : Control S → Bool
  | .body _ (.ask _ _) => false
  | .body (.close _) (.pure _) => false
  | .sleep _ => false
  | _ => true

namespace Machine

variable [Application S] {machine next : Machine S}

theorem Transition.aside (transition : Transition machine .step next)
    (calm : machine.control.isCalm = true) :
    Kernel.Evolves (fun deed => deed.isAside = true) machine.kernel
      next.kernel := by
  cases transition with
  | still | faults | concludes | returns | sweepsOn | swept | passes =>
      exact .refl _
  | outside evolves other => exact absurd rfl other
  | ends control patience evolves => exact Kernel.aside_of_quiet evolves
  | dispatches control patience =>
      exact machine.kernel.countDispatch_evolves.mono fun _ counts =>
        counts ▸ rfl
  | drains control evolves => exact evolves.mono fun _ => Deed.Drains.isAside
  | idles control evolves =>
      exact (Kernel.countWait_evolves evolves).mono fun _ => Deed.Idles.isAside
  | wakes control evolves | stalls control evolves =>
      rw [control] at calm
      cases calm
  | picksNothing control queued empty drained => exact queued.aside
  | picks body control queued pops evolves begins =>
      exact ((queued.aside.step pops rfl).trans
        (Kernel.aside_of_quiet evolves)).step begins rfl
  | answers control done evolves | kills body control begins done
  | endsClose control wakes settles resumed =>
      rw [control] at calm
      cases calm
  | endsSlice control ends applied =>
      have ended : Kernel.Evolves (fun deed => deed.isAside = true)
          machine.kernel _ := .single ends rfl
      exact ended.trans applied.aside
  | sweeps body control begins => exact begins.begins.aside

/-- A kill that is asked for from outside. -/
theorem aside_of_kill (steady : machine.Steady) (task : TaskHandle) :
    Kernel.Evolves (fun deed => deed.isAside = true) machine.kernel
      (ofStarted machine.toScheduler
        (machine.kernel.startKill task)).kernel := by
  cases started : machine.kernel.startKill task with
  | error fault => exact .refl _
  | ok result =>
      cases result with
      | answered answer kernel =>
          rw [Kernel.startKill_answered started]
          exact .refl _
      | underway closing body reply kernel =>
          obtain ⟨begins, _, _⟩ :=
            Kernel.startKill_underway steady.placed.wellformed started
          exact begins.aside

end Machine

end EventScheduler
