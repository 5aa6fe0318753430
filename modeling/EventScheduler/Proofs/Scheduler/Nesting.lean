import EventScheduler.Proofs.Scheduler.Dispatch
import EventScheduler.Proofs.Scheduler.Slots
import Mathlib.Data.Finset.Card
import Mathlib.Data.Prod.Lex

/-!
# How deep kills nest

A close may start new tasks and kill, stop, release and abandon again, and what
it kills is closed inside it.  Every close takes the slot of a live task and
makes it the slot of a dead one, and no slot of a dead task is used again before
the task is reaped, which nothing does in the middle of an operation.  So there
are at most as many closes between two reaps as there are slots, and if every
program of a body comes to its end, so does whatever began with it.

The measure of an operation is how many slots are not those of dead tasks, then
how many callers wait, and then what is left of the program that goes on.
-/

namespace EventScheduler

variable {S : Signature}

namespace Control

/-- Whether bodies are at work, or somebody is being killed. -/
def isBusy : Control S → Bool
  | .body _ _ | .verdict _ | .sweep _ _ => true
  | _ => false

theorem isFinal_of_isBusy {control : Control S}
    (busy : control.isBusy = true) : control.isFinal = false := by
  cases control with
  | body | verdict | sweep => rfl
  | _ => cases busy

theorem isBase_of_not_isBusy {control : Control S}
    (calm : control.isBusy = false) (unfaulted : control.isFaulted = false) :
    control.isBase = true := by
  cases control with
  | body | verdict | sweep => cases calm
  | faulted => cases unfaulted
  | _ => rfl

theorem isIdle_of_isBusy {control : Control S}
    (busy : control.isBusy = true) : control.isIdle = false := by
  cases control with
  | body | verdict | sweep => rfl
  | _ => cases busy

/-- Less is left to do: the program of a body got an answer or has ended, or a
shutdown has passed over a task. -/
inductive Shrinks : Control S → Control S → Prop
  | answers {role : Role} {request : Request S}
      (rest : request.Reply → Program S (role.Result S))
      (reply : request.Reply) :
      Shrinks (.body role (rest reply)) (.body role (.ask request rest))
  | ends {role : Role} (result : role.Result S) (verdict : Bool) :
      Shrinks (.verdict verdict) (.body role (.pure result))
  | passes (value : S.Output) (task : TaskHandle) (doomed : List TaskHandle) :
      Shrinks (.sweep value doomed) (.sweep value (task :: doomed))

/-- Every program comes to its end, whatever it is answered. -/
theorem wellFounded_shrinks : WellFounded (Shrinks (S := S)) := by
  have minimal {control : Control S}
      (last : ∀ less, ¬ Shrinks less control) : Acc Shrinks control :=
    ⟨_, fun less shrinks => absurd shrinks (last less)⟩
  have verdict (verdict : Bool) : Acc Shrinks (.verdict verdict : Control S) :=
    minimal fun _ shrinks => nomatch shrinks
  refine ⟨fun control => ?_⟩
  cases control with
  | body role program =>
      induction program with
      | pure result =>
          refine ⟨_, fun less shrinks => ?_⟩
          cases shrinks with
          | ends result known => exact verdict known
      | ask request rest ih =>
          refine ⟨_, fun less shrinks => ?_⟩
          cases shrinks with
          | answers rest reply => exact ih reply
  | sweep value doomed =>
      induction doomed with
      | nil => exact minimal fun _ shrinks => nomatch shrinks
      | cons task doomed ih =>
          refine ⟨_, fun less shrinks => ?_⟩
          cases shrinks with
          | passes => exact ih
  | _ => exact minimal fun _ shrinks => nomatch shrinks

end Control

namespace Machine

def toil (machine : Machine S) : ℕ × ℕ × Control S :=
  (maxTasks - machine.kernel.deadSlots.card, machine.callers.length,
    machine.control)

def Eases : ℕ × ℕ × Control S → ℕ × ℕ × Control S → Prop :=
  Prod.Lex (· < ·) (Prod.Lex (· < ·) Control.Shrinks)

theorem wellFounded_eases : WellFounded (Eases (S := S)) :=
  WellFounded.prod_lex Nat.lt_wfRel.wf
    (WellFounded.prod_lex Nat.lt_wfRel.wf Control.wellFounded_shrinks)

variable {machine next : Machine S} {move : Move S}

private theorem eases_of_buried
    (grows : machine.kernel.deadSlots ⊆ next.kernel.deadSlots)
    (buried : ∃ index, index ∉ machine.kernel.deadSlots ∧
      index ∈ next.kernel.deadSlots) : Eases next.toil machine.toil := by
  obtain ⟨index, alive, dead⟩ := buried
  have more := Finset.card_lt_card
    (Finset.ssubset_iff_of_subset grows |>.mpr ⟨index, dead, alive⟩)
  have bound := next.kernel.card_deadSlots_le
  refine Prod.Lex.left _ _ ?_
  omega

/-- No slot of a dead task was freed, and less is left to do. -/
private theorem eases_of_grows
    (grows : machine.kernel.deadSlots ⊆ next.kernel.deadSlots)
    (less : Prod.Lex (· < ·) Control.Shrinks
      (next.callers.length, next.control)
      (machine.callers.length, machine.control)) :
    Eases next.toil machine.toil := by
  have more := Finset.card_le_card grows
  rcases Nat.eq_or_lt_of_le (Nat.sub_le_sub_left more maxTasks) with
    same | fewer
  · unfold toil
    rw [same]
    exact Prod.Lex.right _ less
  · exact Prod.Lex.left _ _ fewer

/-- A shutdown buries the task that asked for it. -/
private theorem buried_of_value {scheduler after : Scheduler S}
    {task : TaskHandle} {step : S.Step} {value : S.Output}
    (applied : scheduler.Applied task step (some value) after)
    (wellformed : scheduler.kernel.Wellformed)
    (alive : machine.kernel.roster.Alive task)
    (same : ∀ index ∈ machine.kernel.deadSlots,
      after.kernel.roster.handleAt index =
        machine.kernel.roster.handleAt index) :
    ∃ index, index ∉ machine.kernel.deadSlots ∧
      index ∈ after.kernel.deadSlots := by
  have exits : step.exit? = some (.returned value) := by
    have asked := applied.value_eq
    cases step <;> cases asked
    rfl
  obtain ⟨index, dead, fits⟩ :=
    Kernel.exists_mem_deadSlots (applied.stateOf_dead wellformed exits)
  refine ⟨index, fun already => ?_, dead⟩
  obtain ⟨entry, present, died⟩ := Kernel.mem_deadSlots_iff.mp already
  obtain ⟨known, stored, living⟩ := Roster.alive_iff_entryOf.mp alive
  rw [← fits, same index already, Roster.entryOf_handleAt, present] at stored
  cases stored
  rw [died] at living
  cases living

variable [Application S]

/-- Only a reap frees the slot of a dead task. -/
theorem Transition.deadSlots_subset (transition : Transition machine move next)
    (steady : machine.Steady)
    (unreaped : ∀ task, machine.control.isIdle = true →
      move ≠ .operate (.reap task)) {index : SlotIndex}
    (dead : index ∈ machine.kernel.deadSlots) :
    index ∈ next.kernel.deadSlots ∧
      next.kernel.roster.handleAt index =
        machine.kernel.roster.handleAt index := by
  refine (transition.accounted steady).mem_deadSlots steady.placed.wellformed
    (fun task accounts => ?_) dead
  obtain ⟨idle, reaps⟩ := (accounts.reaps rfl).eq_reap
  exact unreaped task idle reaps

/-- A step in the middle of an operation leaves less to do, unless no body is at
work any more. -/
theorem Transition.eases (transition : Transition machine .step next)
    (steady : machine.Steady) (busy : machine.control.isBusy = true) :
    next.control.isBusy = false ∨ Eases next.toil machine.toil := by
  have grows : machine.kernel.deadSlots ⊆ next.kernel.deadSlots :=
    fun index dead => (transition.deadSlots_subset steady
      (fun _ _ impossible => nomatch impossible) dead).1
  have kept (index : SlotIndex) (dead : index ∈ machine.kernel.deadSlots) :=
    (transition.deadSlots_subset steady
      (fun _ _ impossible => nomatch impossible) dead).2
  -- A close buries one more task, and nothing frees the slot of a dead one here:
  -- the first part of the measure falls.
  have begun {closing : Closing} {body : Option S.Body}
      (begins : machine.BeginsClose closing body next.kernel) :
      Eases next.toil machine.toil := by
    obtain ⟨index, _, _, live, buried⟩ := begins.begins.exists_buried
    refine eases_of_buried grows ⟨index, Kernel.notMem_deadSlots live, ?_⟩
    rw [buried]
    exact Finset.mem_insert_self _ _
  cases transition with
  | still rests =>
      have final := rests rfl
      rw [Control.isFinal_of_isBusy busy] at final
      cases final
  | outside evolves other => exact absurd rfl other
  | faults | concludes | swept => exact Or.inl rfl
  | ends control | dispatches control | drains control | idles control
  | wakes control | stalls control | picksNothing control
  | picks body control =>
      rw [control] at busy
      cases busy
  | answers control =>
      refine Or.inr (eases_of_grows grows ?_)
      rw [control]
      exact Prod.Lex.right _ (.answers _ _)
  | kills body control begins => exact Or.inr (begun begins)
  | sweeps body control begins => exact Or.inr (begun begins)
  | @endsClose closing _ _ _ _ control =>
      refine Or.inr (eases_of_grows grows ?_)
      have result : (Role.close closing).Result S := ()
      rw [control]
      exact Prod.Lex.right _ (.ends result _)
  | returns control waiting | sweepsOn control waiting =>
      refine Or.inr (eases_of_grows grows ?_)
      rw [waiting]
      exact Prod.Lex.left _ _ (Nat.lt_succ_self _)
  | passes control =>
      refine Or.inr (eases_of_grows grows ?_)
      rw [control]
      exact Prod.Lex.right _ (.passes _ _ _)
  | endsSlice control ends applied =>
      rename_i value scheduler
      cases value with
      | none => exact Or.inl rfl
      | some value =>
          have running := steady.running_of_slice control
          refine Or.inr (eases_of_buried grows (buried_of_value applied
            (ends.wellformed steady.placed.wellformed)
            (steady.sane.alive running) kept))

end Machine

namespace Run

variable [Application S] {run : Run S} {count last : Nat}
  {closing : Closing} {index : SlotIndex}

def Reaps (run : Run S) (count : Nat) : Prop :=
  (run.after count).control.isIdle = true ∧
    ∃ task, run.moves count = .operate (.reap task)

def closesBegun (run : Run S) : Nat → Nat
  | 0 => 0
  | count + 1 => run.closesBegun count + (run.begun? count).isSome.toNat

/-! ### Slots of dead tasks -/

private theorem deadSlots_succ (unreaped : ¬ run.Reaps count)
    (dead : index ∈ (run.after count).kernel.deadSlots) :
    index ∈ (run.after (count + 1)).kernel.deadSlots ∧
      (run.after (count + 1)).kernel.roster.handleAt index =
        (run.after count).kernel.roster.handleAt index :=
  (run.transition count).deadSlots_subset (run.steady count)
    (fun task idle reaps => unreaped ⟨idle, task, reaps⟩) dead

/-- As long as nobody is reaped, no slot of a dead task is freed or used
again. -/
private theorem deadSlots_of_le (later : count ≤ last)
    (unreaped : ∀ between, count ≤ between → between < last →
      ¬ run.Reaps between)
    (dead : index ∈ (run.after count).kernel.deadSlots) :
    index ∈ (run.after last).kernel.deadSlots ∧
      (run.after last).kernel.roster.handleAt index =
        (run.after count).kernel.roster.handleAt index := by
  induction last, later using Nat.le_induction with
  | base => exact ⟨dead, rfl⟩
  | succ last later ih =>
      obtain ⟨already, same⟩ := ih fun between since early =>
        unreaped between since (Nat.lt_succ_of_lt early)
      obtain ⟨still, kept⟩ :=
        deadSlots_succ (unreaped last later (Nat.lt_succ_self last)) already
      exact ⟨still, kept.trans same⟩

/-- The innermost close takes the slot of a live task. -/
private theorem exists_buried (began : run.begun? count = some closing) :
    ∃ index, (run.after count).kernel.roster.handleAt index = closing.task ∧
      (run.after (count + 1)).kernel.roster.handleAt index = closing.task ∧
      (run.after count).kernel.roster.isLive index = true ∧
      (run.after (count + 1)).kernel.deadSlots =
        insert index (run.after count).kernel.deadSlots := by
  obtain ⟨body, begins, _⟩ :=
    (run.nests count).begun (begun?_eq_some_iff.mp began)
  exact begins.begins.exists_buried

/-- Every close takes a slot that was not one of a dead task before. -/
private theorem closesBegun_le (later : count ≤ last)
    (unreaped : ∀ between, count ≤ between → between < last →
      ¬ run.Reaps between) :
    run.closesBegun last + (run.after count).kernel.deadSlots.card ≤
      run.closesBegun count + (run.after last).kernel.deadSlots.card := by
  induction last, later using Nat.le_induction with
  | base => exact Nat.le_refl _
  | succ last later ih =>
      have before := ih fun between since early =>
        unreaped between since (Nat.lt_succ_of_lt early)
      have step : (run.after last).kernel.deadSlots.card +
          (run.begun? last).isSome.toNat ≤
            (run.after (last + 1)).kernel.deadSlots.card := by
        cases began : run.begun? last with
        | none =>
            have still : (run.after last).kernel.deadSlots ⊆
                (run.after (last + 1)).kernel.deadSlots := fun index dead =>
              (deadSlots_succ (unreaped last later (Nat.lt_succ_self last))
                dead).1
            exact Finset.card_le_card still
        | some closing =>
            obtain ⟨index, _, _, live, buried⟩ := exists_buried began
            rw [buried, Finset.card_insert_of_notMem
              (Kernel.notMem_deadSlots live)]
            exact Nat.le_refl _
      change run.closesBegun last + (run.begun? last).isSome.toNat + _ ≤ _
      omega

/-- A slot is freed by a reap of the dead task in it, or it is empty and was that
of a handler that is refused. -/
private theorem frees_of_ne
    (freed : (run.after (count + 1)).kernel.roster.generation index ≠
      (run.after count).kernel.roster.generation index) :
    (run.after (count + 1)).kernel.roster.entry index = none ∧
      (run.Reaps count ∧ index ∈ (run.after count).kernel.deadSlots ∨
        (run.after count).RefusesHandler (run.moves count) ∧
          (run.after count).kernel.roster.entry index = none ∧
          run.begun? count = none) := by
  have wellformed := run.wellformed count
  by_cases frees : ∃ task,
      (run.after count).freed? (run.moves count) = some task ∧
        task.index = index.val
  · obtain ⟨task, frees, slot⟩ := frees
    obtain ⟨_, cause, _, emptied⟩ :=
      Machine.freed_of_freed? wellformed frees slot
    refine ⟨emptied, ?_⟩
    generalize moves : run.moves count = move at cause
    cases cause with
    | reaps idle dead => exact Or.inl ⟨⟨idle, _, moves⟩, dead⟩
    | drops refuses vacant =>
        refine Or.inr ⟨refuses, vacant, Option.eq_none_iff_forall_ne_some.mpr
          fun closing began => ?_⟩
        have same := (refuses.keeps wellformed).1
        have longer := begun?_eq_some_iff.mp began
        rw [after_succ moves, same] at longer
        exact List.cons_ne_self _ _ longer.symm
  · have kept : Kernel.Evolves (fun deed => deed.freed? ≠ some index.val)
        (run.after count).kernel (run.after (count + 1)).kernel :=
      evolves_of_kept fun task frees' slot => frees ⟨task, frees', slot⟩
    exact absurd (kept.generation_eq wellformed fun _ same => same) freed

/-! ### How deep closes nest -/

/-- Nobody is closed twice at the same time. -/
private theorem nodup_closings (run : Run S) (count : Nat) :
    ((run.after count).closings.map Closing.task).Nodup := by
  induction count with
  | zero => exact List.nodup_nil
  | succ count ih =>
      cases run.nests count with
      | begins begins control closings =>
          rw [closings, List.map_cons, List.nodup_cons]
          refine ⟨fun twice => ?_, ih⟩
          obtain ⟨other, inside, same⟩ := List.mem_map.mp twice
          have dead := dead_of_mem_closings inside
          rw [same] at dead
          exact Roster.not_alive_of_dead dead begins.begins.alive
      | ends control settles answers closings =>
          rw [closings, List.map_cons, List.nodup_cons] at ih
          exact ih.2
      | keeps closings => exact closings ▸ ih
      | fails faulted closings => exact ih.sublist (closings.sublist.map _)

/-- Whoever is being closed has a slot of its own, which is one of a dead
task. -/
private theorem length_closings_le (run : Run S) (count : Nat) :
    (run.after count).closings.length ≤
      (run.after count).kernel.deadSlots.card := by
  have named : ((run.after count).closings.map Closing.task).toFinset ⊆
      (run.after count).kernel.deadSlots.image
        (run.after count).kernel.roster.handleAt := by
    intro task inside
    obtain ⟨closing, closes, rfl⟩ :=
      List.mem_map.mp (List.mem_toFinset.mp inside)
    obtain ⟨index, dead, fits⟩ :=
      Kernel.exists_mem_deadSlots (dead_of_mem_closings closes)
    exact Finset.mem_image.mpr ⟨index, dead, fits⟩
  have fewer := (Finset.card_le_card named).trans Finset.card_image_le
  rwa [List.toFinset_card_of_nodup (run.nodup_closings count),
    List.length_map] at fewer

/-! ### Coming to an end -/

/-- Steps are taken again and again. -/
def Proceeds (run : Run S) : Prop :=
  ∀ first, ∃ later, first ≤ later ∧ run.moves later = .step

/-- What comes in the middle of an operation before the next step changes
nothing that matters to bodies, if it is no fault. -/
private theorem exists_step (gap : Nat)
    (steps : run.moves (count + gap) = .step)
    (busy : (run.after count).control.isBusy = true) :
    ∃ later, count ≤ later ∧ ((run.after later).control.isBusy = false ∨
      run.moves later = .step ∧
        (run.after later).toil = (run.after count).toil) := by
  induction gap generalizing count with
  | zero => exact ⟨count, Nat.le_refl _, Or.inr ⟨steps, rfl⟩⟩
  | succ gap ih =>
      by_cases now : run.moves count = .step
      · exact ⟨count, Nat.le_refl _, Or.inr ⟨now, rfl⟩⟩
      · rcases Machine.move_of_busy (Control.isIdle_of_isBusy busy) now with
          ⟨fault, same⟩ | ⟨registry, world, same⟩
        · refine ⟨count + 1, Nat.le_succ _, Or.inl ?_⟩
          change ((run.after count).move (run.moves count)).control.isBusy = _
          rw [same]
          rfl
        · have next : run.after (count + 1) = { run.after count with
              kernel :=
                { (run.after count).kernel with events := registry, world } } :=
            same
          have steps : run.moves (count + 1 + gap) = .step := by
            rw [← steps]
            congr 1
            omega
          obtain ⟨later, since, found⟩ := ih steps (by rw [next]; exact busy)
          refine ⟨later, Nat.le_of_succ_le since, ?_⟩
          rw [next] at found
          exact found

/-- If steps are taken again and again, there is a time when no body is at
work. -/
theorem exists_not_busy (proceeds : run.Proceeds) (count : Nat) :
    ∃ last, count ≤ last ∧ (run.after last).control.isBusy = false := by
  induction toil : (run.after count).toil using
      Machine.wellFounded_eases.induction generalizing count with
  | _ toil ih =>
      subst toil
      cases busy : (run.after count).control.isBusy with
      | false => exact ⟨count, Nat.le_refl _, busy⟩
      | true =>
          obtain ⟨next, since, steps⟩ := proceeds count
          obtain ⟨gap, rfl⟩ := Nat.exists_eq_add_of_le since
          obtain ⟨later, after, rested | ⟨steps, same⟩⟩ :=
            exists_step gap steps busy
          · exact ⟨later, after, rested⟩
          · cases busyToo : (run.after later).control.isBusy with
            | false => exact ⟨later, after, busyToo⟩
            | true =>
                have transition := run.transition later
                rw [steps] at transition
                rcases transition.eases (run.steady later) busyToo with
                  rested | eased
                · exact ⟨later + 1, Nat.le_succ_of_le after, rested⟩
                · rw [same] at eased
                  obtain ⟨last, beyond, rested⟩ := ih _ eased (later + 1) rfl
                  exact ⟨last, by omega, rested⟩

/-- A close that is not running any more came to its end, if there was no
fault. -/
private theorem exists_returned (later : count ≤ last)
    (inside : closing ∈ (run.after count).closings)
    (gone : closing ∉ (run.after last).closings) :
    ∃ between, count ≤ between ∧ between ≤ last ∧
      ((run.after between).control = .faulted .queueOverflow ∨
        (run.after between).control = .body (.close closing) (.pure ())) := by
  induction last, later using Nat.le_induction with
  | base => exact absurd inside gone
  | succ last later ih =>
      by_cases still : closing ∈ (run.after last).closings
      · cases run.nests last with
        | begins begins control closings =>
            rw [closings] at gone
            exact absurd (List.mem_cons_of_mem _ still) gone
        | ends control settles answers closings =>
            rw [closings] at still
            rcases List.mem_cons.mp still with rfl | outer
            · exact ⟨last, later, Nat.le_succ last, Or.inr control⟩
            · exact absurd outer gone
        | keeps closings => exact absurd (closings ▸ still) gone
        | fails faulted =>
            exact ⟨last + 1, Nat.le_succ_of_le later, Nat.le_refl _,
              Or.inl (control_of_isFaulted faulted)⟩
      · obtain ⟨between, since, early, found⟩ := ih still
        exact ⟨between, since, Nat.le_succ_of_le early, found⟩

private theorem closings_of_not_isBusy
    (calm : (run.after count).control.isBusy = false)
    (unfaulted : (run.after count).control.isFaulted = false) :
    (run.after count).closings = [] :=
  (run.steady count).closings_eq_nil
    (Control.isBase_of_not_isBusy calm unfaulted)

/-! ### Kills come to an end -/

/-- There is a time when no body is at work, unless the queue of pending events
overflows. -/
theorem exists_calm (proceeds : run.Proceeds) (first : Nat) :
    ∃ last, first ≤ last ∧
      ((run.after last).control = .faulted .queueOverflow ∨
        (run.after last).control.isBusy = false ∧
          (run.after last).closings = []) := by
  obtain ⟨last, later, rested⟩ := exists_not_busy proceeds first
  refine ⟨last, later, ?_⟩
  cases faulted : (run.after last).control.isFaulted with
  | true => exact Or.inl (control_of_isFaulted faulted)
  | false => exact Or.inr ⟨rested, closings_of_not_isBusy rested faulted⟩

/-- Every close uses up a slot, so closes nest finitely and come to an end. -/
structure EndsNestedCloses (run : Run S) (count : Nat) : Prop where
  /-- A close begins where one slot goes from a live task to a dead one. -/
  buries {closing : Closing} : run.begun? count = some closing →
    ∃ index, (run.after count).kernel.roster.handleAt index = closing.task ∧
      (run.after (count + 1)).kernel.roster.handleAt index = closing.task ∧
      (run.after count).kernel.roster.isLive index = true ∧
      (run.after (count + 1)).kernel.deadSlots =
        insert index (run.after count).kernel.deadSlots
  /-- As long as nobody is reaped, no slot of a dead task is freed or used
  again. -/
  keeps {last : Nat} : count ≤ last →
    (∀ between, count ≤ between → between < last → ¬ run.Reaps between) →
      (run.after count).kernel.deadSlots ⊆ (run.after last).kernel.deadSlots ∧
        ∀ index ∈ (run.after count).kernel.deadSlots,
          (run.after last).kernel.roster.handleAt index =
            (run.after count).kernel.roster.handleAt index
  /-- The only other slot that is freed is the empty one of a handler that is
  refused, and then nothing is closed. -/
  frees {index : SlotIndex} :
    (run.after (count + 1)).kernel.roster.generation index ≠
        (run.after count).kernel.roster.generation index →
      (run.after (count + 1)).kernel.roster.entry index = none ∧
        (run.Reaps count ∧ index ∈ (run.after count).kernel.deadSlots ∨
          (run.after count).RefusesHandler (run.moves count) ∧
            (run.after count).kernel.roster.entry index = none ∧
            run.begun? count = none)
  /-- Every close that begins makes for one more slot of a dead task. -/
  closes {last : Nat} : count ≤ last →
    (∀ between, count ≤ between → between < last → ¬ run.Reaps between) →
      run.closesBegun last + (run.after count).kernel.deadSlots.card ≤
        run.closesBegun count + (run.after last).kernel.deadSlots.card
  bounded {last : Nat} : count ≤ last →
    (∀ between, count ≤ between → between < last → ¬ run.Reaps between) →
      run.closesBegun last ≤ run.closesBegun count + maxTasks
  depth : (run.after count).closings.length ≤
      (run.after count).kernel.deadSlots.card ∧
    (run.after count).kernel.deadSlots.card ≤ maxTasks
  /-- Whatever bodies begin, there is a time when none is at work, unless the
  queue of pending events overflows. -/
  ends : run.Proceeds → ∃ last, count ≤ last ∧
    ((run.after last).control = .faulted .queueOverflow ∨
      (run.after last).control.isBusy = false ∧ (run.after last).closings = [])
  /-- So every close that begins comes to its end. -/
  returns {closing : Closing} : run.begun? count = some closing →
    run.Proceeds → ∃ last, count < last ∧
      ((run.after last).control = .faulted .queueOverflow ∨
        (run.after last).control = .body (.close closing) (.pure ()))

/-- Nested kills are well-founded in every run. -/
theorem endsNestedCloses (run : Run S) (count : Nat) :
    run.EndsNestedCloses count := by
  constructor
  case buries => exact exists_buried
  case keeps =>
    intro last later unreaped
    exact ⟨fun index dead => (deadSlots_of_le later unreaped dead).1,
      fun index dead => (deadSlots_of_le later unreaped dead).2⟩
  case frees => exact frees_of_ne
  case closes => exact closesBegun_le
  case bounded =>
    intro last later unreaped
    have used := closesBegun_le later unreaped
    have room := (run.after last).kernel.card_deadSlots_le
    omega
  case depth =>
    exact ⟨run.length_closings_le count,
      (run.after count).kernel.card_deadSlots_le⟩
  case ends => exact fun proceeds => exists_calm proceeds count
  case returns =>
    intro closing began proceeds
    obtain ⟨last, later, faulted | ⟨_, nothing⟩⟩ :=
      exists_calm proceeds (count + 1)
    · exact ⟨last, later, Or.inl faulted⟩
    · have inside : closing ∈ (run.after (count + 1)).closings := by
        rw [begun?_eq_some_iff.mp began]
        exact List.mem_cons_self
      obtain ⟨between, since, _, found⟩ := exists_returned later inside
        (nothing ▸ List.not_mem_nil)
      exact ⟨between, since, found⟩

end Run

end EventScheduler
