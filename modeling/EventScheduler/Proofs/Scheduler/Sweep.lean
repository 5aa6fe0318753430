import EventScheduler.Proofs.Scheduler.Joining

/-!
# What a shutdown is about to do

After a task has reported a shutdown, the tasks that are left are killed one
after the other.  Until that is over, nothing but closes runs: no slice begins,
nobody is reaped, and tasks are started by closes only.
-/

namespace EventScheduler

variable {S : Signature}

/-! ### Who is started -/

def Request.started? : (request : Request S) → request.Reply → Option TaskHandle
  | .start _ _, .ok task => some task
  | .handle _ _, .ok task => some task
  | _, _ => none

theorem Request.May.started?_eq {current task : TaskHandle}
    {request : Request S} {reply : request.Reply} {deed : Deed}
    (comes : request.May current reply deed)
    (starts : deed.started? = some task) :
    request.started? reply = some task := by
  cases deed with
  | starts known =>
      obtain ⟨body, name, rfl, same⟩ := comes.eq_start
      cases same
      exact starts
  | handles event known =>
      obtain ⟨body, rfl, same⟩ := comes.eq_handle
      cases same
      exact starts
  | _ => cases starts

theorem Kernel.exists_started [Environment S.World] {kernel next : Kernel S}
    (wellformed : kernel.Wellformed) {current task : TaskHandle}
    {request : Request S} {reply : request.Reply}
    (done : kernel.perform current request = .ok (.answered reply next))
    (started : request.started? reply = some task) :
    ∃ deed middle, Change kernel deed middle ∧ deed.started? = some task ∧
      Evolves (· = .quiet) middle next := by
  cases request with
  | start body name =>
      obtain ⟨⟨answer, after⟩, known, ended⟩ := exists_ok_of_bind done
      cases ended
      cases answer with
      | error error => cases started
      | ok task =>
          obtain ⟨middle, starts, quiet⟩ := start_cases wellformed known
          exact ⟨_, middle, starts, started, quiet⟩
  | handle event body =>
      obtain ⟨⟨answer, after⟩, known, ended⟩ := exists_ok_of_bind done
      cases ended
      cases answer with
      | error error => cases started
      | ok task =>
          obtain ⟨middle, handles, quiet⟩ := handle_cases wellformed known
          exact ⟨_, middle, handles, started, quiet⟩
  | _ => cases started

namespace Machine

variable {machine next : Machine S} {value : S.Output}
  {doomed : List TaskHandle} {task : TaskHandle} {move : Move S}

/-- A shutdown is to kill the given tasks next, or once it has the verdict that
it waits for. -/
def Sweeping (machine : Machine S) (value : S.Output)
    (doomed : List TaskHandle) : Prop :=
  machine.control = .sweep value doomed ∨
    Caller.sweep value doomed ∈ machine.callers

def visit? (machine : Machine S) : Option TaskHandle :=
  match machine.control with
  | .sweep _ (task :: _) => some task
  | _ => none

private theorem visit?_eq_none {known : Control S}
    (control : machine.control = known)
    (elsewhere : known.doomed = []) : machine.visit? = none := by
  unfold visit?
  rw [control]
  cases known with
  | sweep value doomed =>
      cases doomed with
      | nil => rfl
      | cons task rest => cases elsewhere
  | _ => rfl

private theorem notMem_callers_of_base (steady : machine.Steady)
    (base : machine.control.isBase = true) (caller : Caller S) :
    caller ∉ machine.callers := by
  rw [steady.base base]
  exact List.not_mem_nil

/-! ### While a shutdown is under way -/

namespace Sweeping

theorem control_cases (sweeping : machine.Sweeping value doomed)
    (steady : machine.Steady) (unfaulted : machine.control.isFaulted = false) :
    machine.control = .sweep value doomed ∨
      (∃ closing program, machine.control = .body (.close closing) program) ∨
      ∃ verdict, machine.control = .verdict verdict := by
  rcases sweeping with control | waits
  · exact Or.inl control
  have inside : machine.control.isBase ≠ true := fun base =>
    notMem_callers_of_base steady base _ waits
  cases control : machine.control with
  | body role program =>
      cases role with
      | slice task => exact absurd (by rw [control]; rfl) inside
      | close closing => exact Or.inr (Or.inl ⟨closing, program, rfl⟩)
  | verdict verdict => exact Or.inr (Or.inr ⟨verdict, rfl⟩)
  | faulted fault =>
      rw [control] at unfaulted
      cases unfaulted
  | _ => exact absurd (by rw [control]; rfl) inside

theorem isIdle (sweeping : machine.Sweeping value doomed)
    (steady : machine.Steady) (unfaulted : machine.control.isFaulted = false) :
    machine.control.isIdle = false := by
  rcases sweeping.control_cases steady unfaulted with
    control | ⟨closing, program, control⟩ | ⟨verdict, control⟩ <;>
    rw [control] <;> rfl

theorem turns (sweeping : machine.Sweeping value doomed)
    (steady : machine.Steady) (unfaulted : machine.control.isFaulted = false) :
    machine.control.turns = false := by
  rcases sweeping.control_cases steady unfaulted with
    control | ⟨closing, program, control⟩ | ⟨verdict, control⟩ <;>
    rw [control] <;> rfl

/-- Nothing runs but closes. -/
theorem closes (sweeping : machine.Sweeping value doomed)
    (steady : machine.Steady) {role : Role}
    {program : Program S (role.Result S)}
    (control : machine.control = .body role program) :
    ∃ closing, role = .close closing := by
  cases role with
  | close closing => exact ⟨closing, rfl⟩
  | slice task =>
      rcases sweeping with known | waits
      · cases known.symm.trans control
      · exact absurd waits
          (notMem_callers_of_base steady (by rw [control]; rfl) _)

theorem eq_of_control (sweeping : machine.Sweeping value doomed)
    (steady : machine.Steady) {other : S.Output} {others : List TaskHandle}
    (control : machine.control = .sweep other others) :
    other = value ∧ others = doomed := by
  rcases sweeping with known | waits
  · cases known.symm.trans control
    exact ⟨rfl, rfl⟩
  · exact absurd waits
      (notMem_callers_of_base steady (by rw [control]; rfl) _)

/-- Above a shutdown only closes wait for verdicts. -/
private theorem slices_of_stacked {callers : List (Caller S)}
    (stacked : Stacked callers)
    (waits : Caller.sweep value doomed ∈ callers) :
    callers.filterMap Caller.slice? = [] := by
  induction callers with
  | nil => cases waits
  | cons caller rest ih =>
      obtain ⟨alone, below⟩ := stacked
      rcases List.mem_cons.mp waits with rfl | later
      · rw [alone rfl]
        rfl
      · have inner : caller.isBase ≠ true := by
          intro base
          rw [alone base] at later
          cases later
        have nobody : caller.slice? = none := by
          cases caller with
          | sweep => exact absurd rfl inner
          | body role rest =>
              cases role with
              | slice task => exact absurd rfl inner
              | close closing => rfl
        rw [List.filterMap_cons_none nobody]
        exact ih below later

/-- Nobody runs. -/
theorem running (sweeping : machine.Sweeping value doomed)
    (steady : machine.Steady) (unfaulted : machine.control.isFaulted = false) :
    machine.kernel.running = none := by
  have control : machine.control.slices = [] := by
    rcases sweeping.control_cases steady unfaulted with
      control | ⟨closing, program, control⟩ | ⟨verdict, control⟩ <;>
      rw [control] <;> rfl
  have callers : machine.callers.filterMap Caller.slice? = [] := by
    rcases sweeping with control | waits
    · rw [steady.base (by rw [control]; rfl)]
      rfl
    · exact slices_of_stacked steady.stacked waits
  have carriedOut := steady.slices unfaulted
  unfold slices at carriedOut
  rw [control, callers, List.append_nil] at carriedOut
  exact Option.toList_eq_nil_iff.mp carriedOut.symm

end Sweeping

variable [Application S]

def newcomer? (machine : Machine S) : Option TaskHandle :=
  match machine.control with
  | .body (.close closing) (.ask request _) =>
      match machine.kernel.perform closing.task request with
      | .ok (.answered reply _) => request.started? reply
      | _ => none
  | _ => none

/-- Whoever is started during a shutdown is started by a close. -/
theorem Sweeping.newcomer?_eq (sweeping : machine.Sweeping value doomed)
    (steady : machine.Steady) (unfaulted : machine.control.isFaulted = false)
    {deed : Deed} (does : machine.Does deed move)
    (starts : deed.started? = some task) :
    move = .step ∧ machine.newcomer? = some task := by
  cases does with
  | operation idle =>
      rw [sweeping.isIdle steady unfaulted] at idle
      cases idle
  | @request role request reply rest kernel control done comes =>
      refine ⟨rfl, ?_⟩
      obtain ⟨closing, rfl⟩ := sweeping.closes steady control
      unfold newcomer?
      rw [control]
      dsimp only
      rw [show machine.kernel.perform closing.task request = _ from done]
      exact comes.started?_eq starts

theorem exists_of_newcomer? (steady : machine.Steady)
    (starts : machine.newcomer? = some task) :
    ∃ deed middle, Kernel.Change machine.kernel deed middle ∧
      deed.started? = some task ∧
      Kernel.Evolves (· = .quiet) middle (machine.move .step).kernel := by
  unfold newcomer? at starts
  split at starts
  · next closing result request rest control =>
      split at starts
      · next reply kernel done =>
          rw [move_of_answered control done]
          exact Kernel.exists_started steady.placed.wellformed done starts
      · cases starts
  · cases starts

/-! ### How a shutdown goes on -/

/-- A move after which a shutdown is under way: a task reports it, or it comes to
the next task, or it waits. -/
inductive SweepsOn (machine : Machine S) (move : Move S) (next : Machine S)
    (value : S.Output) (doomed : List TaskHandle) : Prop
  | reports {task : TaskHandle} {body : S.Body} (steps : move = .step)
      (control : machine.control =
        .body (.slice task) (.pure (.shutdown value, body)))
      (live : doomed = next.kernel.tasks.liveTasks)
  | waits (before : machine.Sweeping value doomed)
      (busy : move = .step → machine.visit? = none)
  | passes {task : TaskHandle} (steps : move = .step)
      (control : machine.control = .sweep value (task :: doomed))
      (gone : ¬ machine.kernel.roster.Alive task)
      (closings : next.closings = machine.closings)
  | kills {closing : Closing} {body : Option S.Body} (steps : move = .step)
      (control : machine.control = .sweep value (closing.task :: doomed))
      (begins : machine.BeginsClose closing body next.kernel)
      (closings : next.closings = closing :: machine.closings)

theorem Transition.sweeping (transition : Transition machine move next)
    (steady : machine.Steady) (unfaulted : next.control.isFaulted = false)
    (sweeping : next.Sweeping value doomed) :
    machine.SweepsOn move next value doomed := by
  have alone {known : Control S} (control : machine.control = known)
      (base : known.isBase = true) :
      Caller.sweep value doomed ∉ machine.callers :=
    notMem_callers_of_base steady (control ▸ base) _
  -- A shutdown waits above a verdict only, so where nobody can wait for one the
  -- sweep is what the control says.
  cases transition with
  | still rests =>
      refine .waits sweeping fun steps => ?_
      have final := rests steps
      apply visit?_eq_none rfl
      cases control : machine.control with
      | sweep value doomed =>
          rw [control] at final
          cases final
      | _ => rfl
  | faults | faultsCall => cases unfaulted
  | outside evolves other =>
      exact .waits sweeping fun steps => absurd steps other
  | operates idle => exact .waits sweeping fun impossible => nomatch impossible
  | callsRun | callsNothing | callsErrand | callsClose =>
      rcases sweeping with impossible | impossible <;> cases impossible
  | ends control | dispatches control | drains control | idles control
  | wakes control | stalls control | picksNothing control
  | picks body control | swept control =>
      rcases sweeping with impossible | waits
      · cases impossible
      · exact absurd waits (alone control rfl)
  | answers control | endsClose control =>
      rcases sweeping with impossible | waits
      · cases impossible
      · exact .waits (Or.inr waits) fun _ => visit?_eq_none control rfl
  | kills body control begins =>
      rcases sweeping with impossible | waits
      · cases impossible
      rcases List.mem_cons.mp waits with impossible | below
      · cases impossible
      · exact .waits (Or.inr below) fun _ => visit?_eq_none control rfl
  | endsSlice control ends applied =>
      rename_i task step body result scheduler
      -- A sweep begins only where the slice ended with a shutdown.
      rcases sweeping with control' | waits
      · cases result with
        | none => cases control'
        | some known =>
            cases control'
            have reported := applied.value_eq
            cases step with
            | shutdown value =>
                cases reported
                exact .reports rfl control rfl
            | _ => cases reported
      · exact absurd waits (alone control rfl)
  | concludes control callers =>
      rcases sweeping with impossible | waits
      · cases impossible
      · rw [callers] at waits
        cases waits
  | returns control waiting =>
      rcases sweeping with impossible | waits
      · cases impossible
      · refine .waits (Or.inr ?_) fun _ => visit?_eq_none control rfl
        rw [waiting]
        exact List.mem_cons_of_mem _ waits
  | sweepsOn control waiting =>
      refine .waits (Or.inr ?_) fun _ => visit?_eq_none control rfl
      rw [waiting]
      rcases sweeping with same | waits
      · cases same
        exact List.mem_cons_self
      · exact List.mem_cons_of_mem _ waits
  | passes control gone =>
      rcases sweeping with same | waits
      · cases same
        exact .passes rfl control gone (by
          unfold closings
          rw [control]
          rfl)
      · exact absurd waits (alone control rfl)
  | sweeps body control begins killed =>
      rcases sweeping with impossible | waits
      · cases impossible
      rcases List.mem_cons.mp waits with same | below
      · cases same
        subst killed
        refine .kills rfl control begins ?_
        unfold closings
        rw [control]
        rfl
      · exact absurd below (alone control rfl)

/-- A close begins where somebody outside or a body asks for it, or where a
shutdown comes to its task. -/
theorem Transition.begins_cases (transition : Transition machine move next)
    (steady : machine.Steady) {closing : Closing}
    (closings : next.closings = closing :: machine.closings) :
    machine.control.isIdle = true ∨
      (∃ role request rest, machine.control = .body role (.ask request rest)) ∨
      ∃ value doomed, machine.control = .sweep value (closing.task :: doomed) := by
  have longer {before : List Closing} (same : next.closings = before)
      (fewer : before.length ≤ machine.closings.length) : False := by
    have more := congrArg List.length (same.symm.trans closings)
    rw [List.length_cons] at more
    omega
  obtain ⟨body, _, known⟩ := (transition.nests steady).begun closings
  cases transition with
  | still | outside => exact (longer rfl (Nat.le_refl _)).elim
  | operates idle | callsClose body idle => exact Or.inl idle
  | answers control | kills body control =>
      exact Or.inr (Or.inl ⟨_, _, _, control⟩)
  | endsSlice => split at known <;> cases known
  | @returns _ role _ _ control waiting =>
      have before := closings_of_control control rfl
      rw [waiting] at before
      refine (longer (Eq.trans ?_ before.symm) (Nat.le_refl _)).elim
      cases role with
      | slice task => rfl
      | close outer => rfl
  | sweeps body control begins killed =>
      obtain rfl := Role.close.inj (Control.body.inj known).1
      subst killed
      exact Or.inr (Or.inr ⟨_, _, control⟩)
  | _ => cases known

/-- The loop ends when a shutdown has come to its end, or at the beginning of a
turn when no task is live. -/
theorem Transition.ended_cases (transition : Transition machine move next)
    (unfinished : machine.control.isFinal = false) {value : Option S.Output}
    (ended : next.control = .concluded (.ended value)) :
    match value with
    | some value =>
        machine.control = .sweep value [] ∧ next.kernel = machine.kernel
    | none => machine.patience = .ok none ∧
        Kernel.Evolves (· = .quiet) machine.kernel next.kernel := by
  cases transition with
  | still | outside | operates =>
      rw [show machine.control = _ from ended] at unfinished
      cases unfinished
  | ends control patience evolves =>
      cases ended
      exact ⟨patience, evolves⟩
  | swept control =>
      cases ended
      exact ⟨control, rfl⟩
  | endsSlice => split at ended <;> cases ended
  | _ => cases ended

/-- Between two operations nothing but a step goes on. -/
theorem control_of_move (busy : machine.control.isIdle = false)
    (other : move ≠ .step) :
    (machine.move move).control = machine.control ∨
      (machine.move move).control.isFaulted = true := by
  cases move with
  | step => exact absurd rfl other
  | call call | operate operation =>
      unfold Machine.move
      dsimp only
      rw [if_neg (by simp [busy])]
      exact Or.inl rfl
  | interrupt interrupt =>
      unfold Machine.move Machine.interrupt
      dsimp only
      split
      · exact Or.inl rfl
      · exact Or.inl rfl
      · exact Or.inr rfl
  | outside world => exact Or.inl rfl

end Machine

end EventScheduler
