import EventScheduler.Proofs.Kernel.Operations
import EventScheduler.Proofs.Task.Belongings

/-!
# Where the tasks of a kernel are

Every change of a kernel leaves at most one active task off the run queue, and
this module says which one.  It also leaves every live task but the running one
its body.
-/

namespace EventScheduler

variable {S : Signature}

namespace Deed

def stray (deed : Deed) (before : Option TaskHandle) : Option TaskHandle :=
  match deed with
  | .pops task => some task
  | .requeues task | .parks task | .dies task =>
      if before = some task then none else before
  | _ => before

def Calm : Deed → Prop
  | .pops _ | .requeues _ | .parks _ | .begins _ | .ends _ => False
  | _ => True

end Deed

namespace Kernel

/-- The tasks are linked as they should be, the only active one off the run
queue is `stray`, and every live one that does not run has its body. -/
structure Placed (kernel : Kernel S) (stray : Option TaskHandle) : Prop where
  wellformed : kernel.Wellformed
  strays : kernel.roster.Strays stray
  bodied : kernel.roster.Bodied kernel.running

variable {kernel next : Kernel S} {stray : Option TaskHandle} {deed : Deed}

private theorem Placed.of_holds {tasks : TaskTable S} {roster : Roster S}
    (wellformed : kernel.Wellformed) (same : kernel.tasks = tasks)
    (holds : tasks.Holds roster) (strays : roster.Strays stray)
    (bodied : roster.Bodied kernel.running) : kernel.Placed stray := by
  have equal : kernel.roster = roster := by
    unfold Kernel.roster
    rw [same]
    exact holds.roster_eq
  exact ⟨wellformed, equal ▸ strays, equal ▸ bodied⟩

/-- The active task off the run queue exists, and it is on no list. -/
theorem Placed.exists_stray {task : TaskHandle}
    (placed : kernel.Placed (some task)) :
    ∃ index entry, kernel.roster.find? task = some (index, entry) ∧
      entry.state = .active ∧ index ∉ kernel.roster.run ∧
      index ∉ kernel.roster.timers := by
  obtain ⟨wellformed, strays, _⟩ := placed
  obtain ⟨index, fits⟩ := strays.named rfl
  obtain ⟨active, off⟩ := (strays.iff index).mpr (congrArg some fits.symm)
  obtain ⟨entry, present, state⟩ := Option.map_eq_some_iff.mp active
  have awake := wellformed.sound.notMem_timers fun deadline asleep =>
    nomatch active.symm.trans asleep
  exact ⟨index, entry, Roster.find?_eq_some_iff.mpr ⟨fits, present⟩, state, off,
    awake⟩

theorem Change.placed (change : Change kernel deed next)
    (placed : kernel.Placed stray)
    (free : ∀ task, deed = .pops task → stray = none) :
    next.Placed (deed.stray stray) := by
  have after := change.wellformed placed.wellformed
  have sound := placed.wellformed.sound
  have strays := placed.strays
  have bodied := placed.bodied
  cases change with
  | world | clock | count | watch | unwatch | resign | claim | occur | drain
  | release | abandon | giveBack => exact ⟨after, strays, bodied⟩
  | start started holds =>
      exact .of_holds after rfl holds (strays.insert _ _) (bodied.insert _ _)
  | handle unhandled started holds watched =>
      exact .of_holds after rfl holds (strays.insert _ _) (bodied.insert _ _)
  | wake found waiting holds =>
      have present := (Roster.find?_eq_some_iff.mp found).2
      exact .of_holds after rfl holds (strays.wake present waiting)
        (bodied.keeps (.wake present waiting))
  | die alive notRunning holds =>
      exact .of_holds after rfl holds
        ((strays.retire alive _).forgetJoiner _)
        ((bodied.retire alive _).forgetJoiner _)
  | spoil vacant holds =>
      have gone := Roster.isLive_of_vacant vacant
      exact .of_holds after rfl holds (strays.free gone) (bodied.free _)
  | join different alive joinerAlive holds =>
      exact .of_holds after rfl holds (strays.addJoiner _ _)
        (bodied.addJoiner _ _)
  | reap dead holds =>
      obtain ⟨index, gone, reaped⟩ := Roster.exists_of_reap dead
      -- The slot is freed, and a dead task is on no list.
      rw [reaped] at holds
      exact .of_holds after rfl holds (strays.free gone) (bodied.free _)
  | promote holds =>
      exact .of_holds after rfl holds (strays.promoteExpired sound _)
        (bodied.keeps (.promoteExpired sound _))
  | requeue holds =>
      refine .of_holds after rfl holds ?_ (bodied.keeps (.requeue _ _))
      -- The task that yielded was the one off all lists, and now nobody is;
      -- anybody else leaves that one as it is.
      unfold Deed.stray
      dsimp only
      split
      · next named => exact strays.requeue sound named
      · next different => exact strays.requeue_of_ne different
  | pop first holds =>
      -- A task is taken from the queue only while nobody else is off the lists.
      have none := free _ rfl
      rw [none] at strays
      exact .of_holds after rfl holds (strays.popRunnable sound first)
        (bodied.keeps (.popRunnable _))
  | take idle holds =>
      refine .of_holds after rfl holds (strays.update _ fun _ => rfl)
        (bodied.update ?_ ?_)
      · intro other different _
        rw [idle]
        exact (Option.some_ne_none other).symm
      · intro notRunning
        exact absurd rfl notRunning
  | restore body running holds =>
      refine .of_holds after rfl holds (strays.update _ fun _ => rfl)
        (bodied.update ?_ fun _ => rfl)
      intro other different _ same
      rw [running] at same
      exact different (Option.some.inj same).symm
  | suspend alive holds =>
      exact .of_holds after rfl holds (strays.suspend alive)
        (bodied.keeps (.suspend alive))
  | sleep deadline alive holds =>
      exact .of_holds after rfl holds (strays.sleep alive deadline)
        (bodied.keeps (.sleep alive deadline))

theorem Change.running_eq (change : Change kernel deed next)
    (begins : ∀ task, deed ≠ .begins task) (ends : ∀ task, deed ≠ .ends task) :
    next.running = kernel.running := by
  cases change with
  | take => exact absurd rfl (begins _)
  | restore => exact absurd rfl (ends _)
  | _ => rfl

theorem Change.running_eq_of_calm (change : Change kernel deed next)
    (calm : deed.Calm) : next.running = kernel.running := by
  refine change.running_eq ?_ ?_ <;> rintro task rfl <;> exact absurd calm id

theorem Evolves.running_eq {may : Deed → Prop} (evolves : Evolves may kernel next)
    (begins : ∀ task, ¬ may (.begins task)) (ends : ∀ task, ¬ may (.ends task)) :
    next.running = kernel.running := by
  induction evolves with
  | refl => rfl
  | step _ change allowed ih =>
      rw [change.running_eq, ih]
      · rintro task rfl
        exact begins task allowed
      · rintro task rfl
        exact ends task allowed

private theorem Change.placed_of_calm (change : Change kernel deed next)
    (placed : kernel.Placed stray) (calm : deed.Calm)
    (spared : ∀ task, deed = .dies task →
      stray ≠ some task ∨ stray = kernel.running) : next.Placed stray := by
  have after := change.placed placed (by
    rintro task rfl
    exact absurd calm id)
  have kept : deed.stray stray = stray := by
    cases change with
    | pop | requeue | suspend | sleep => exact absurd calm id
    | die alive notRunning holds =>
        refine if_neg ?_
        rcases spared _ rfl with different | same
        · exact different
        · rw [same]
          exact notRunning
    | _ => rfl
  rwa [kept] at after

/-- Changes that neither begin nor end a slice leave the stray task where it
is, unless they kill it; the running task is never killed. -/
theorem Evolves.placed {may : Deed → Prop} (evolves : Evolves may kernel next)
    (calm : ∀ deed, may deed → deed.Calm)
    (spared : ∀ task, may (.dies task) →
      stray ≠ some task ∨ stray = kernel.running)
    (placed : kernel.Placed stray) :
    next.running = kernel.running ∧ next.Placed stray := by
  induction evolves with
  | refl => exact ⟨rfl, placed⟩
  | step _ change allowed ih =>
      obtain ⟨running, middle⟩ := ih
      have harmless := calm _ allowed
      refine ⟨(change.running_eq_of_calm harmless).trans running, ?_⟩
      refine change.placed_of_calm middle harmless fun task dies => ?_
      rw [running]
      exact spared task (dies ▸ allowed)

theorem Change.running_of_begins {task : TaskHandle}
    (change : Change kernel (.begins task) next) :
    next.running = some task := by
  cases change
  rfl

/-- The stray task dies. -/
theorem Buries.placed {task : TaskHandle} (buries : kernel.Buries task next)
    (placed : kernel.Placed (some task)) :
    next.running = kernel.running ∧ next.Placed none := by
  obtain ⟨first, middle, before, dies, after⟩ := buries
  have quiet : ∀ deed : Deed, deed = .quiet → deed.Calm := by
    rintro deed rfl
    trivial
  obtain ⟨firstRunning, firstPlaced⟩ := before.placed quiet
    (fun _ impossible => nomatch impossible) placed
  have dead := dies.placed firstPlaced fun _ impossible => nomatch impossible
  have left : (Deed.dies task).stray (some task) = none := if_pos rfl
  rw [left] at dead
  obtain ⟨running, last⟩ := after.placed quiet
    (fun _ impossible => nomatch impossible) dead
  refine ⟨?_, last⟩
  rw [running, dies.running_eq_of_calm trivial, firstRunning]

end Kernel

end EventScheduler
