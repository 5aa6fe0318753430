import EventScheduler.Proofs.Scheduler.Threads

/-!
# The body of a task between two slices

Whatever the others do, the body that a task left behind at the end of its slice
is there for its next slice or for its close.
-/

namespace EventScheduler

variable {S : Signature}

namespace Deed

variable {deed : Deed} {task other : TaskHandle}

theorem Calm.keepsBody (calm : deed.Calm) (spared : deed ≠ .dies task) :
    deed.KeepsBody task where
  begins := by
    rintro rfl
    exact calm
  ends := by
    rintro rfl
    exact calm
  dies := spared

theorem keepsBody_of_isAsked (asked : deed.isAsked = true) : deed.KeepsBody task :=
  (calm_of_isAsked asked).keepsBody (by rintro rfl; cases asked)

theorem Outside.keepsBody (fits : deed.Outside) : deed.KeepsBody task := by
  rcases fits with rfl | ⟨event, rfl | rfl⟩ <;> exact keepsBody_of_isAsked rfl

end Deed

private theorem keepsBody_of_applied {scheduler after : Scheduler S}
    {task other : TaskHandle} {step : S.Step} {value : Option S.Output}
    (applied : scheduler.Applied other step value after) (apart : other ≠ task) :
    Kernel.Evolves (fun deed => deed.KeepsBody task) scheduler.kernel
      after.kernel := by
  cases applied with
  | yields => exact .refl _
  | parks change => exact .single change ⟨nofun, nofun, nofun⟩
  | ends quiet dies wakes =>
      refine ((quiet.mono ?_).trans (dies.evolves.mono ?_)).trans
        (wakes.mono ?_)
      · rintro deed rfl
        exact ⟨nofun, nofun, nofun⟩
      · rintro deed (rfl | rfl)
        · exact ⟨nofun, nofun, nofun⟩
        · exact ⟨nofun, nofun, fun same => apart (Deed.dies.inj same)⟩
      · exact fun _ fits => Deed.keepsBody_of_isAsked fits.isAsked

namespace Machine

variable {machine next : Machine S} {move : Move S} {task : TaskHandle}

variable [Application S]

/-- Where no program of a task has begun, and none begins, its body stays where it
is. -/
theorem Transition.keepsBody (transition : machine.Transition move next)
    (before : machine.Clear task) (after : next.Clear task) :
    Kernel.Evolves (fun deed => deed.KeepsBody task) machine.kernel
      next.kernel := by
  have calmly {may : Deed → Prop} {kernel : Kernel S}
      (evolves : Kernel.Evolves may machine.kernel kernel)
      (calm : ∀ deed, may deed → deed.Calm) (spared : ¬ may (.dies task)) :
      Kernel.Evolves (fun deed => deed.KeepsBody task) machine.kernel kernel :=
    evolves.mono fun deed allowed => (calm deed allowed).keepsBody
      (by rintro rfl; exact spared allowed)
  have close {closing : Closing} {body : Option S.Body} {kernel : Kernel S}
      (begins : machine.BeginsClose closing body kernel)
      (apart : closing.task ≠ task) :
      Kernel.Evolves (fun deed => deed.KeepsBody task) machine.kernel kernel := by
    refine calmly begins.begins.buries.evolves (fun _ => Deed.Buries.calm) ?_
    rintro (impossible | same)
    · cases impossible
    · exact apart (Deed.dies.inj same).symm
  -- Bodies are taken out where a program begins and put back where it ends, and
  -- the task is clear of programs on both sides.
  cases transition with
  | still | faults | faultsCall | callsRun | callsNothing | concludes | returns
  | sweepsOn | swept | passes => exact .refl _
  | outside evolves => exact evolves.mono fun _ => Deed.Outside.keepsBody
  | operates idle done yielded evolves =>
      exact evolves.mono fun _ fits => Deed.keepsBody_of_isAsked fits.isAsked
  | callsErrand idle onEvent settles =>
      refine (Kernel.settlesAtOnce_evolves settles).mono ?_
      rintro deed (⟨other, rfl⟩ | settled)
      · exact ⟨nofun, nofun, nofun⟩
      · exact Deed.keepsBody_of_isAsked settled.isAsked
  | callsClose body idle begins | kills body control begins
  | sweeps body control begins =>
      exact close begins (after _ (mem_roles_of_control rfl))
  | ends control patience evolves =>
      exact calmly evolves Deed.quiet_calm nofun
  | dispatches control =>
      exact calmly machine.kernel.countDispatch_evolves Deed.counts_calm nofun
  | drains control evolves =>
      refine calmly evolves (fun _ => Deed.Drains.calm) ?_
      rintro (impossible | impossible | ⟨_, impossible⟩) <;> cases impossible
  | idles control evolves =>
      refine calmly (Kernel.countWait_evolves evolves)
        (fun _ => Deed.Idles.calm) ?_
      rintro ((impossible | impossible | ⟨_, impossible⟩) | impossible) <;>
        cases impossible
  | wakes control evolves | stalls control evolves =>
      exact evolves.mono fun _ => Deed.Outside.keepsBody
  | picksNothing control queued =>
      exact queued.evolves.mono fun _ => Deed.keepsBody_of_queues
  | @picks scheduler popped recorded kernel other body control queued pops
      evolves begins =>
      have apart : other ≠ task := after _ (mem_roles_of_control rfl)
      refine ((Kernel.Evolves.step ?_ pops ⟨nofun, nofun, nofun⟩).trans
        (evolves.mono ?_)).step begins ⟨?_, nofun, nofun⟩
      · exact queued.evolves.mono fun _ => Deed.keepsBody_of_queues
      · rintro deed rfl
        exact ⟨nofun, nofun, nofun⟩
      · exact fun same => apart (Deed.begins.inj same)
  | answers control done evolves =>
      refine evolves.mono fun deed fits => ?_
      rcases fits.isAsked_or with asked | ⟨_, _, rfl, _⟩
      · exact Deed.keepsBody_of_isAsked asked
      · exact ⟨nofun, nofun, nofun⟩
  | @endsSlice other step body value scheduler control ends applied =>
      have apart : other ≠ task :=
        before (.slice other) (mem_roles_of_control (by rw [control]; rfl))
      have ended : Kernel.Evolves (fun deed => deed.KeepsBody task) machine.kernel
          (machine.kernel.endSlice other body) :=
        .single ends ⟨nofun, fun same => apart (Deed.ends.inj same), nofun⟩
      exact ended.trans (keepsBody_of_applied applied apart)
  | @endsClose closing verdict woke middle kernel control wakes settles =>
      have settled := middle.settle_evolves closing.errand
      rw [settles] at settled
      exact (wakes.mono fun _ fits => Deed.keepsBody_of_isAsked fits.isAsked).trans
        (settled.mono fun _ fits => Deed.keepsBody_of_isAsked fits.isAsked)

end Machine

namespace Run

variable [Application S] {run : Run S} {task : TaskHandle} {count : Nat}

/-- Between two of its programs a task is alive and its body stays where it is. -/
theorem bodyOf_of_clear (before : (run.after count).Clear task)
    (after : (run.after (count + 1)).Clear task)
    (alive : (run.after count).kernel.roster.Alive task) :
    (run.after (count + 1)).kernel.roster.Alive task ∧
      (run.after (count + 1)).kernel.roster.bodyOf task =
        (run.after count).kernel.roster.bodyOf task :=
  ((run.transition count).keepsBody before after).bodyOf_eq (run.wellformed count)
    (fun _ => id) alive

/-- A slice leaves its body behind, unless it ends the task. -/
theorem bodyOf_of_slice {step : S.Step} {body : S.Body}
    (control : (run.after count).control =
      .body (.slice task) (.pure (step, body)))
    (steps : run.moves count = .step) (goesOn : step.exit? = none) :
    (run.after (count + 1)).kernel.roster.Alive task ∧
      (run.after (count + 1)).kernel.roster.bodyOf task = some body := by
  have wellformed := run.wellformed count
  have running := (run.steady count).running_of_slice control
  have alive := (run.steady count).sane.alive running
  have ends := Kernel.endSlice_evolves wellformed body running
  have wellformedToo := ends.wellformed wellformed
  have held := Kernel.bodyOf_endSlice wellformed alive body
  have aliveToo : ((run.after count).kernel.endSlice task body).roster.Alive
      task :=
    (ends.alive_iff wellformed).mpr (Or.inr ⟨alive, nofun⟩)
  obtain ⟨value, scheduler, applied, moved⟩ :=
    (run.steady count).exists_applied control
  rw [after_succ steps, moved]
  cases applied with
  | yields => exact ⟨aliveToo, held⟩
  | parks change =>
      obtain ⟨aliveAfter, same⟩ :=
        change.bodyOf_eq wellformedToo ⟨nofun, nofun, nofun⟩ aliveToo
      exact ⟨aliveAfter, same.trans held⟩
  | ends _ _ _ _ exits => cases goesOn.symm.trans exits

end Run

end EventScheduler
