import EventScheduler.Proofs.Kernel.Bodies
import EventScheduler.Proofs.Marked
import EventScheduler.Proofs.Scheduler.Closes

/-!
# The program of one task

A slice or the close of a body is a program that is carried out request by
request, and that waits while other bodies are closed.  At any time no more than
one program of a task has begun and not ended.  So if programs are marked, each
task has a thread: what is left of its program, with the marks that are still to
come.
-/

namespace EventScheduler

variable {S : Signature}

theorem Deed.keepsBody_of_queues {deed : Deed} {task : TaskHandle}
    (queues : deed = .promotes ∨ ∃ other,
      deed = .requeues other ∨ deed = .pops other) : deed.KeepsBody task := by
  rcases queues with rfl | ⟨other, rfl | rfl⟩ <;> constructor <;> simp

/-- Queueing up takes tasks to the run queue, and nothing else. -/
theorem Scheduler.QueuedUp.evolves {scheduler next : Scheduler S}
    (queued : scheduler.QueuedUp next) :
    Kernel.Evolves (fun deed => deed = .promotes ∨ ∃ other,
      deed = .requeues other ∨ deed = .pops other) scheduler.kernel
      next.kernel := by
  obtain ⟨_, middle, promotes, requeues⟩ := queued
  have promoted : Kernel.Evolves (fun deed => deed = .promotes ∨ ∃ other,
      deed = .requeues other ∨ deed = .pops other) scheduler.kernel middle :=
    .single promotes (Or.inl rfl)
  cases yielded : scheduler.yielded with
  | none =>
      rw [yielded] at requeues
      rw [requeues]
      exact promoted
  | some other =>
      rw [yielded] at requeues
      exact promoted.step requeues (Or.inr ⟨other, Or.inl rfl⟩)

/-! ### Programs that have begun -/

def Control.role? : Control S → Option Role
  | .body role _ => some role
  | _ => none

def Caller.frame? :
    Caller S → Option ((role : Role) × (Bool → Program S (role.Result S)))
  | .body role rest => some ⟨role, rest⟩
  | .sweep _ _ => none

namespace Machine

/-- The programs that wait for a verdict, innermost first. -/
def frames (machine : Machine S) :
    List ((role : Role) × (Bool → Program S (role.Result S))) :=
  machine.callers.filterMap Caller.frame?

def roles (machine : Machine S) : List Role :=
  machine.control.role?.toList ++ machine.frames.map Sigma.fst

/-- No program of the task has begun and not ended. -/
def Clear (machine : Machine S) (task : TaskHandle) : Prop :=
  ∀ role ∈ machine.roles, role.task ≠ task

variable {machine next : Machine S} {move : Move S} {task : TaskHandle}
  {role : Role}

theorem mem_roles_of_control (control : machine.control.role? = some role) :
    role ∈ machine.roles :=
  List.mem_append_left _ (Option.mem_toList.mpr control)

theorem mem_roles_of_frames
    {frame : (role : Role) × (Bool → Program S (role.Result S))}
    (inside : frame ∈ machine.frames) : frame.1 ∈ machine.roles :=
  List.mem_append_right _ (List.mem_map_of_mem inside)

theorem mem_roles_of_append
    {frame : (role : Role) × (Bool → Program S (role.Result S))}
    {inner outer : List ((role : Role) × (Bool → Program S (role.Result S)))}
    (frames : machine.frames = inner ++ frame :: outer) :
    frame.1 ∈ machine.roles := by
  refine mem_roles_of_frames ?_
  rw [frames]
  exact List.mem_append_right _ List.mem_cons_self

theorem mem_roles_cases (inside : role ∈ machine.roles) :
    machine.control.role? = some role ∨
      ∃ frame ∈ machine.frames, frame.1 = role := by
  rcases List.mem_append.mp inside with known | waits
  · exact Or.inl (Option.mem_toList.mp known)
  · exact Or.inr (List.mem_map.mp waits)

theorem clear_iff : machine.Clear task ↔
    (∀ role, machine.control.role? = some role → role.task ≠ task) ∧
      ∀ frame ∈ machine.frames, frame.1.task ≠ task := by
  constructor
  · exact fun clear => ⟨fun role known => clear role (mem_roles_of_control known),
      fun frame inside => clear frame.1 (mem_roles_of_frames inside)⟩
  · rintro ⟨control, frames⟩ role inside
    rcases mem_roles_cases inside with known | ⟨frame, member, rfl⟩
    · exact control role known
    · exact frames frame member

theorem slices_eq (machine : Machine S) :
    machine.slices = machine.roles.filterMap Role.slice? := by
  unfold slices roles frames
  rw [List.filterMap_append, List.filterMap_map, List.filterMap_filterMap]
  refine congrArg₂ (· ++ ·) ?_ (List.filterMap_congr fun caller _ => ?_)
  · cases machine.control with
    | body role program => cases role <;> rfl
    | _ => rfl
  · cases caller <;> rfl

theorem closings_eq (machine : Machine S) :
    machine.closings = machine.roles.filterMap Role.closing? := by
  unfold closings roles frames
  rw [List.filterMap_append, List.filterMap_map, List.filterMap_filterMap]
  refine congrArg₂ (· ++ ·) ?_ (List.filterMap_congr fun caller _ => ?_)
  · cases machine.control with
    | body role program => cases role <;> rfl
    | _ => rfl
  · cases caller <;> rfl

/-- The running task is the one whose slice has begun. -/
theorem Steady.running_iff (steady : machine.Steady)
    (sound : machine.control.isFaulted = false) :
    machine.kernel.running = some task ↔ .slice task ∈ machine.roles := by
  rw [← Option.mem_toList, ← steady.slices sound, slices_eq, List.mem_filterMap]
  constructor
  · rintro ⟨role, inside, same⟩
    cases role with
    | slice other =>
        cases same
        exact inside
    | close closing => cases same
  · exact fun inside => ⟨_, inside, rfl⟩

theorem mem_closings_iff {closing : Closing} :
    closing ∈ machine.closings ↔ .close closing ∈ machine.roles := by
  rw [closings_eq, List.mem_filterMap]
  constructor
  · rintro ⟨role, inside, same⟩
    cases role with
    | slice other => cases same
    | close other =>
        cases same
        exact inside
  · exact fun inside => ⟨_, inside, rfl⟩

/-- Whoever lives and does not run has no program: its slices run, and whoever is
being closed is dead. -/
theorem Steady.clear (steady : machine.Steady)
    (sound : machine.control.isFaulted = false)
    (dead : ∀ closing ∈ machine.closings,
      ¬ machine.kernel.roster.Alive closing.task)
    (alive : machine.kernel.roster.Alive task)
    (elsewhere : machine.kernel.running ≠ some task) : machine.Clear task := by
  rintro role inside rfl
  cases role with
  | slice named => exact elsewhere ((steady.running_iff sound).mpr inside)
  | close closing => exact dead closing (mem_closings_iff.mpr inside) alive

variable [Application S]

inductive Opens (machine : Machine S) :
    (role : Role) → Program S (role.Result S) → Prop
  | slice {task : TaskHandle} {body : S.Body}
      (held : machine.kernel.body? task = some body)
      (alive : machine.kernel.roster.Alive task) (clear : machine.Clear task)
      (idle : machine.kernel.running = none) :
      Opens machine (.slice task) (Application.resume body)
  | close {closing : Closing}
      (alive : machine.kernel.roster.Alive closing.task)
      (clear : machine.Clear closing.task) :
      Opens machine (.close closing)
        (closeProgram (machine.kernel.body? closing.task))

theorem Opens.clear {program : Program S (role.Result S)}
    (opens : machine.Opens role program) : machine.Clear role.task := by
  cases opens with
  | slice _ _ clear => exact clear
  | close _ clear => exact clear

theorem Opens.alive {program : Program S (role.Result S)}
    (opens : machine.Opens role program) :
    machine.kernel.roster.Alive role.task := by
  cases opens with
  | slice _ alive => exact alive
  | close alive => exact alive

inductive Shifts (machine next : Machine S) : Move S → Prop
  | stays {move : Move S} (other : move ≠ .step)
      (control : next.control = machine.control)
      (frames : next.frames = machine.frames) : Shifts machine next move
  | passes {move : Move S} (before : machine.control.role? = none)
      (after : next.control.role? = none)
      (frames : next.frames = machine.frames) : Shifts machine next move
  | opens {move : Move S} {role : Role} {program : Program S (role.Result S)}
      (before : machine.control.role? = none)
      (opens : machine.Opens role program)
      (control : next.control = .body role program)
      (frames : next.frames = machine.frames) : Shifts machine next move
  | answers {role : Role} {request : Request S} {reply : request.Reply}
      {rest : request.Reply → Program S (role.Result S)}
      (control : machine.control = .body role (.ask request rest))
      (done : machine.kernel.perform role.task request =
        .ok (.answered reply next.kernel))
      (goesOn : next.control = .body role (rest reply))
      (frames : next.frames = machine.frames) : Shifts machine next .step
  | kills {role : Role} {request : Request S} {reply : Bool → request.Reply}
      {rest : request.Reply → Program S (role.Result S)} {closing : Closing}
      {body : Option S.Body} {program : Program S Unit}
      (control : machine.control = .body role (.ask request rest))
      (done : machine.kernel.perform role.task request =
        .ok (.underway closing body reply next.kernel))
      (opens : machine.Opens (.close closing) program)
      (begins : next.control = .body (.close closing) program)
      (frames : next.frames =
        ⟨role, fun verdict => rest (reply verdict)⟩ :: machine.frames) :
      Shifts machine next .step
  | ends {role : Role} {result : role.Result S}
      (control : machine.control = .body role (.pure result))
      (after : next.control.role? = none)
      (frames : next.frames = machine.frames) : Shifts machine next .step
  | returns {verdict : Bool} {role : Role}
      {rest : Bool → Program S (role.Result S)}
      (control : machine.control = .verdict verdict)
      (goesOn : next.control = .body role (rest verdict))
      (frames : machine.frames = ⟨role, rest⟩ :: next.frames) :
      Shifts machine next .step

/-- A slice begins with the body that is kept for its task. -/
theorem Steady.opens_of_pick (steady : machine.Steady)
    (control : machine.control = .pick) {program : Program S (S.Step × S.Body)}
    (begins : machine.step.control = .body (.slice task) program) :
    machine.Opens (.slice task) program := by
  have wellformed := steady.placed.wellformed
  have base : machine.control.isBase = true := by
    rw [control]
    rfl
  have idle := steady.running_eq_none base (by rw [control]; rfl)
  have clear : machine.Clear task := by
    intro role inside
    unfold roles frames at inside
    rw [control, steady.base base] at inside
    cases inside
  unfold step at begins
  split at begins
  next next done =>
    simp only [advance, control] at done
    obtain ⟨ready, queues, done⟩ := exists_ok_of_bind done
    obtain ⟨⟨first, popped⟩, pop, done⟩ := exists_ok_of_bind done
    have queued : machine.toScheduler.QueuedUp ready :=
      Scheduler.queueUp_evolves wellformed queues
    obtain ⟨_, placed⟩ := placed_of_queuedUp steady idle queued
    cases first with
    | none =>
        cases done
        cases begins
    | some first =>
        obtain ⟨⟨body, kernel⟩, began, done⟩ := exists_ok_of_bind done
        cases done
        cases begins
        obtain ⟨_, pops⟩ := Scheduler.pop_evolves placed.wellformed pop
        have poppedPlaced := pops.placed placed fun _ _ => rfl
        have evolves := (queued.evolves).step pops
          (Or.inr ⟨task, Or.inr rfl⟩)
        have alive : machine.kernel.roster.Alive task := by
          refine (evolves.alive_or_started wellformed
            (poppedPlaced.strays.alive rfl)).resolve_right ?_
          rintro ⟨deed, rfl | ⟨other, rfl | rfl⟩, started⟩ <;> cases started
        have held : (popped.kernel.record (.runs task)).body? task =
            some body := Kernel.body?_of_beginSlice began
        change popped.kernel.body? task = some body at held
        refine .slice ?_ alive clear idle
        rw [Kernel.body?_eq wellformed, ← held,
          Kernel.body?_eq poppedPlaced.wellformed]
        exact (evolves.bodyOf_eq wellformed (fun _ => Deed.keepsBody_of_queues)
          alive).2.symm
  next fault failed => cases begins

theorem Transition.shifts (transition : machine.Transition move next)
    (steady : machine.Steady) (moved : machine.move move = next)
    (dead : ∀ closing ∈ machine.closings,
      ¬ machine.kernel.roster.Alive closing.task)
    (sound : next.control.isFaulted = false) : machine.Shifts next move := by
  have soundBefore := transition.isFaulted sound
  have aside (idle : machine.control.isIdle = true) :
      machine.control.role? = none ∧ machine.frames = [] := by
    have callers := steady.base (Control.idle_cases idle).1
    unfold frames
    rw [callers]
    refine ⟨?_, rfl⟩
    cases known : machine.control with
    | body => rw [known] at idle; cases idle
    | _ => rfl
  have close {closing : Closing} {body : Option S.Body} {kernel : Kernel S}
      (begins : machine.BeginsClose closing body kernel) :
      machine.Opens (.close closing) (closeProgram body) := by
    have alive := begins.begins.alive
    have clear := steady.clear soundBefore dead alive begins.begins.notRunning
    obtain ⟨entry, known, _, rfl⟩ := begins.begins.retires.entryOf
    have held : machine.kernel.body? closing.task = entry.body := by
      rw [Kernel.body?_eq steady.placed.wellformed]
      unfold Roster.bodyOf
      rw [known]
      rfl
    rw [← held]
    exact .close alive clear
  cases transition with
  | still rests =>
      cases move with
      | step =>
          have final := rests rfl
          have nobody : machine.control.role? = none := by
            cases known : machine.control with
            | body => rw [known] at final; cases final
            | _ => rfl
          exact .passes nobody nobody rfl
      | _ => exact .stays (fun impossible => nomatch impossible) rfl rfl
  | faults | faultsCall => cases sound
  | outside evolves other => exact .stays other rfl rfl
  | operates idle => exact .passes (aside idle).1 (aside idle).1 rfl
  | callsRun idle | callsNothing idle | callsErrand idle =>
      exact .passes (aside idle).1 rfl (aside idle).2.symm
  | callsClose body idle begins =>
      exact .opens (aside idle).1 (close begins) rfl (aside idle).2.symm
  | ends control | dispatches control | drains control | idles control
  | wakes control | stalls control | picksNothing control | concludes control
  | swept control | passes control =>
      exact .passes (by rw [control]; rfl) rfl rfl
  | picks body control =>
      have opens : machine.Opens (.slice _) (Application.resume body) :=
        steady.opens_of_pick control (congrArg (·.control) moved)
      exact .opens (by rw [control]; rfl) opens rfl rfl
  | answers control done => exact .answers control done rfl rfl
  | kills body control begins done =>
      exact .kills control done (close begins) rfl rfl
  | endsSlice control =>
      refine .ends control ?_ rfl
      split <;> rfl
  | endsClose control => exact .ends control rfl rfl
  | returns control waiting =>
      refine .returns control rfl ?_
      unfold frames
      rw [waiting]
      rfl
  | sweepsOn control waiting =>
      refine .passes (by rw [control]; rfl) rfl ?_
      unfold frames
      rw [waiting]
      rfl
  | sweeps body control begins =>
      exact .opens (by rw [control]; rfl) (close begins) rfl rfl

end Machine

/-! ### Threads -/

/-- What is left of the program of a task. -/
inductive Thread (S : Signature) (Mark : Type)
  /-- No program has begun. -/
  | idle
  | goes (role : Role) (rest : Marked S Mark (role.Result S))
  /-- It waits for a verdict. -/
  | waits (role : Role) (rest : Bool → Marked S Mark (role.Result S))

variable {Mark : Type}

section Marking

variable [Application S]

def Marking.program? (marking : Marking S Mark) :
    (role : Role) → Option S.Body → Option (Marked S Mark (role.Result S))
  | .slice _, body => body.map marking.resume
  | .close _, some body => some (marking.close body)
  | .close _, none => some (.pure ())

namespace Thread

/-- A program goes on up to its next request. -/
def enter (role : Role) (program : Marked S Mark (role.Result S)) :
    Thread S Mark × List Mark :=
  (.goes role program.bare, program.marks)

/-- What a move makes of the thread of a task, and the marks that are passed. -/
def move (marking : Marking S Mark) (task : TaskHandle) (machine : Machine S)
    (move : Move S) (thread : Thread S Mark) : Thread S Mark × List Mark :=
  let next := machine.move move
  if next.control.isFaulted then
    (thread, [])
  else
    match thread with
    | .idle =>
        match next.control.role? with
        | some role =>
            if role.task = task then
              match marking.program? role (machine.kernel.body? task) with
              | some program => enter role program
              | none => (thread, [])
            else
              (thread, [])
        | none => (thread, [])
    | .goes role rest =>
        match move, rest with
        | .step, .pure _ => (.idle, [])
        | .step, .ask request rest =>
            match machine.kernel.perform role.task request with
            | .ok (.answered reply _) => enter role (rest reply)
            | .ok (.underway _ _ reply _) =>
                (.waits role fun verdict => rest (reply verdict), [])
            | .error _ => (thread, [])
        | _, _ => (thread, [])
    | .waits role rest =>
        match machine.control with
        | .verdict verdict =>
            if next.control.role? = some role then
              enter role (rest verdict)
            else
              (thread, [])
        | _ => (thread, [])

/-- The thread of a task is what the machine is to do for it. -/
inductive Follows (task : TaskHandle) (machine : Machine S) :
    Thread S Mark → Prop
  | idle (clear : machine.Clear task) : Follows task machine .idle
  | goes {role : Role} {rest : Marked S Mark (role.Result S)}
      (own : role.task = task) (bare : rest.isBare = true)
      (control : machine.control = .body role rest.erase)
      (frames : ∀ frame ∈ machine.frames, frame.1.task ≠ task) :
      Follows task machine (.goes role rest)
  | waits {role : Role} {rest : Bool → Marked S Mark (role.Result S)}
      {inner outer :
        List ((role : Role) × (Bool → Program S (role.Result S)))}
      (own : role.task = task)
      (control : ∀ other, machine.control.role? = some other →
        other.task ≠ task)
      (frames : machine.frames =
        inner ++ ⟨role, fun verdict => (rest verdict).erase⟩ :: outer)
      (inside : ∀ frame ∈ inner, frame.1.task ≠ task)
      (outside : ∀ frame ∈ outer, frame.1.task ≠ task) :
      Follows task machine (.waits role rest)

variable {machine : Machine S} {move : Move S} {task : TaskHandle}
  {marking : Marking S Mark} {role : Role}

theorem exists_program (marking : Marking S Mark)
    {program : Program S (role.Result S)}
    (opens : machine.Opens role program) :
    ∃ marked, marking.program? role (machine.kernel.body? role.task) =
      some marked ∧ marked.erase = program := by
  cases opens with
  | slice held =>
      refine ⟨marking.resume _, ?_, marking.erase_resume _⟩
      unfold Role.task
      rw [held]
      rfl
  | @close closing =>
      unfold Role.task
      dsimp only
      cases machine.kernel.body? closing.task with
      | none => exact ⟨.pure (), rfl, rfl⟩
      | some body => exact ⟨marking.close body, rfl, marking.erase_close body⟩

/-- Nothing begins as long as no program of the task is carried out. -/
theorem move_idle_of_elsewhere (elsewhere : ∀ role,
      (machine.move move).control.role? = some role → role.task ≠ task) :
    Thread.move marking task machine move (.idle : Thread S Mark) =
      (.idle, []) := by
  unfold Thread.move
  dsimp only
  split
  · rfl
  · split
    · next role known => rw [if_neg (elsewhere role known)]
    · rfl

theorem move_idle_of_opens {program : Marked S Mark (role.Result S)}
    (own : role.task = task)
    (sound : (machine.move move).control.isFaulted = false)
    (known : (machine.move move).control.role? = some role)
    (begins : marking.program? role (machine.kernel.body? task) =
      some program) :
    Thread.move marking task machine move (.idle : Thread S Mark) =
      enter role program := by
  unfold Thread.move
  dsimp only
  rw [sound, known]
  dsimp only
  rw [if_neg Bool.false_ne_true, if_pos own, begins]

theorem move_goes_of_ne {rest : Marked S Mark (role.Result S)}
    (other : move ≠ .step) :
    Thread.move marking task machine move (.goes role rest) =
      (.goes role rest, []) := by
  unfold Thread.move
  dsimp only
  split
  · rfl
  · cases move with
    | step => exact absurd rfl other
    | _ => cases rest <;> rfl

theorem move_goes_of_answered {request : Request S} {reply : request.Reply}
    {rest : request.Reply → Marked S Mark (role.Result S)} {kernel : Kernel S}
    (sound : (machine.move .step).control.isFaulted = false)
    (done : machine.kernel.perform role.task request =
      .ok (.answered reply kernel)) :
    Thread.move marking task machine .step (.goes role (.ask request rest)) =
      enter role (rest reply) := by
  unfold Thread.move
  dsimp only
  rw [sound, if_neg Bool.false_ne_true, done]

theorem move_goes_of_underway {request : Request S}
    {reply : Bool → request.Reply}
    {rest : request.Reply → Marked S Mark (role.Result S)} {closing : Closing}
    {body : Option S.Body} {kernel : Kernel S}
    (sound : (machine.move .step).control.isFaulted = false)
    (done : machine.kernel.perform role.task request =
      .ok (.underway closing body reply kernel)) :
    Thread.move marking task machine .step (.goes role (.ask request rest)) =
      (.waits role fun verdict => rest (reply verdict), []) := by
  unfold Thread.move
  dsimp only
  rw [sound, if_neg Bool.false_ne_true, done]

theorem move_goes_of_ended {result : role.Result S}
    (sound : (machine.move .step).control.isFaulted = false) :
    Thread.move marking task machine .step
      (.goes role (.pure result : Marked S Mark _)) = (.idle, []) := by
  unfold Thread.move
  dsimp only
  rw [sound, if_neg Bool.false_ne_true]

theorem move_waits_of_elsewhere {rest : Bool → Marked S Mark (role.Result S)}
    (elsewhere : ∀ verdict, machine.control = .verdict verdict →
      (machine.move move).control.role? ≠ some role) :
    Thread.move marking task machine move (.waits role rest) =
      (.waits role rest, []) := by
  unfold Thread.move
  dsimp only
  split
  · rfl
  · split
    · next verdict known => rw [if_neg (elsewhere verdict known)]
    · rfl

theorem move_waits_of_returned {verdict : Bool}
    {rest : Bool → Marked S Mark (role.Result S)}
    (sound : (machine.move move).control.isFaulted = false)
    (control : machine.control = .verdict verdict)
    (known : (machine.move move).control.role? = some role) :
    Thread.move marking task machine move (.waits role rest) =
      enter role (rest verdict) := by
  unfold Thread.move
  dsimp only
  rw [sound, if_neg Bool.false_ne_true, control]
  exact if_pos known

omit [Application S] in
private theorem follows_enter {next : Machine S}
    {program : Marked S Mark (role.Result S)} (own : role.task = task)
    (control : next.control = .body role program.erase)
    (frames : ∀ frame ∈ next.frames, frame.1.task ≠ task) :
    Follows task next (enter role program).1 :=
  .goes own (Marked.isBare_bare program)
    (by rw [Marked.erase_bare]; exact control) frames

/-- What a move can do to the thread of a task, with the marks that are passed.
-/
inductive Advances (marking : Marking S Mark) (task : TaskHandle)
    (machine : Machine S) (move : Move S) :
    Thread S Mark → Thread S Mark × List Mark → Prop
  | stays (thread : Thread S Mark) :
      Advances marking task machine move thread (thread, [])
  | begins {role : Role} {program : Program S (role.Result S)}
      {marked : Marked S Mark (role.Result S)} (own : role.task = task)
      (opens : machine.Opens role program)
      (known : marking.program? role (machine.kernel.body? task) = some marked) :
      Advances marking task machine move .idle (enter role marked)
  | answers {role : Role} {request : Request S} {reply : request.Reply}
      {rest : request.Reply → Marked S Mark (role.Result S)} {kernel : Kernel S}
      (steps : move = .step)
      (done : machine.kernel.perform role.task request =
        .ok (.answered reply kernel)) :
      Advances marking task machine move (.goes role (.ask request rest))
        (enter role (rest reply))
  | kills {role : Role} {request : Request S} {reply : Bool → request.Reply}
      {rest : request.Reply → Marked S Mark (role.Result S)} {closing : Closing}
      {body : Option S.Body} {kernel : Kernel S}
      (done : machine.kernel.perform role.task request =
        .ok (.underway closing body reply kernel)) :
      Advances marking task machine move (.goes role (.ask request rest))
        (.waits role fun verdict => rest (reply verdict), [])
  | returns {role : Role} {rest : Bool → Marked S Mark (role.Result S)}
      (verdict : Bool) :
      Advances marking task machine move (.waits role rest)
        (enter role (rest verdict))
  | ends {role : Role} {result : role.Result S} (steps : move = .step) :
      Advances marking task machine move (.goes role (.pure result)) (.idle, [])

variable {thread after : Thread S Mark} {marks : List Mark}

theorem Advances.of_idle (advances :
      Advances marking task machine move .idle (after, marks)) :
    (after = .idle ∧ marks = []) ∨ ∃ role program marked, role.task = task ∧
      machine.Opens role program ∧
      marking.program? role (machine.kernel.body? task) = some marked ∧
      enter role marked = (after, marks) := by
  cases advances with
  | stays => exact Or.inl ⟨rfl, rfl⟩
  | begins own opens known => exact Or.inr ⟨_, _, _, own, opens, known, rfl⟩

structure KeepsUp (marking : Marking S Mark) (task : TaskHandle)
    (machine : Machine S) (move : Move S) (thread : Thread S Mark) :
    Prop where
  follows : Follows task (machine.move move)
    (Thread.move marking task machine move thread).1
  advances : Advances marking task machine move thread
    (Thread.move marking task machine move thread)

private theorem keepsUp_of_clear (marking : Marking S Mark)
    (clear : (machine.move move).Clear task) :
    KeepsUp marking task machine move .idle := by
  constructor <;> rw [move_idle_of_elsewhere (Machine.clear_iff.mp clear).1]
  · exact .idle clear
  · exact .stays _

private theorem keepsUp_of_opens {program : Program S (role.Result S)}
    (marking : Marking S Mark) (opens : machine.Opens role program)
    (control : (machine.move move).control = .body role program)
    (frames : ∀ frame ∈ (machine.move move).frames,
      frame.1.task ≠ role.task) :
    KeepsUp marking role.task machine move .idle := by
  obtain ⟨marked, known, rfl⟩ := exists_program marking opens
  constructor <;> rw [move_idle_of_opens rfl (by rw [control]; rfl)
    (by rw [control]; rfl) known]
  · exact follows_enter rfl control frames
  · exact .begins rfl opens known

private theorem keepsUp_idle (marking : Marking S Mark)
    (clear : machine.Clear task)
    (shifts : machine.Shifts (machine.move move) move) :
    KeepsUp marking task machine move .idle := by
  obtain ⟨elsewhere, waiting⟩ := Machine.clear_iff.mp clear
  -- An idle thread goes on only where a program of the task itself opens.
  cases shifts with
  | stays other control frames =>
      refine keepsUp_of_clear marking (Machine.clear_iff.mpr ⟨?_, ?_⟩)
      · rwa [control]
      · rwa [frames]
  | passes before after frames | ends control after frames =>
      refine keepsUp_of_clear marking (Machine.clear_iff.mpr ⟨?_, ?_⟩)
      · intro role known
        cases after.symm.trans known
      · rwa [frames]
  | @opens _ role program before opens control frames =>
      rw [← frames] at waiting
      by_cases own : role.task = task
      · subst own
        exact keepsUp_of_opens marking opens control waiting
      · refine keepsUp_of_clear marking
          (Machine.clear_iff.mpr ⟨fun other known => ?_, waiting⟩)
        rw [control] at known
        cases known
        exact own
  | @answers role request reply rest control done goesOn frames =>
      refine keepsUp_of_clear marking
        (Machine.clear_iff.mpr ⟨fun other known => ?_, ?_⟩)
      · rw [goesOn] at known
        cases known
        exact elsewhere role (by rw [control]; rfl)
      · rwa [frames]
  | @kills role request reply rest closing body program control done opens goesOn
      frames =>
      have apart : role.task ≠ task := elsewhere role (by rw [control]; rfl)
      have waitingToo : ∀ frame ∈ (machine.move .step).frames,
          frame.1.task ≠ task := by
        rw [frames]
        exact List.forall_mem_cons.mpr ⟨apart, waiting⟩
      by_cases own : closing.task = task
      · subst own
        exact keepsUp_of_opens marking opens goesOn waitingToo
      · refine keepsUp_of_clear marking
          (Machine.clear_iff.mpr ⟨fun other known => ?_, waitingToo⟩)
        rw [goesOn] at known
        cases known
        exact own
  | @returns verdict role rest control goesOn frames =>
      rw [frames] at waiting
      obtain ⟨apart, waiting⟩ := List.forall_mem_cons.mp waiting
      refine keepsUp_of_clear marking
          (Machine.clear_iff.mpr ⟨fun other known => ?_, waiting⟩)
      rw [goesOn] at known
      cases known
      exact apart

private theorem keepsUp_goes {rest : Marked S Mark (role.Result S)}
    (marking : Marking S Mark) (own : role.task = task)
    (bare : rest.isBare = true) (control : machine.control = .body role rest.erase)
    (frames : ∀ frame ∈ machine.frames, frame.1.task ≠ task)
    (shifts : machine.Shifts (machine.move move) move)
    (sound : (machine.move move).control.isFaulted = false) :
    KeepsUp marking task machine move (.goes role rest) := by
  have busy : machine.control.role? = some role := by
    rw [control]
    rfl
  cases shifts with
  | stays other goesOn same =>
      rw [← same] at frames
      constructor <;> rw [move_goes_of_ne other]
      · exact .goes own bare (goesOn.trans control) frames
      · exact .stays _
  | passes before | opens before => cases before.symm.trans busy
  | returns verdict =>
      rw [verdict] at busy
      cases busy
  | answers asks done goesOn same =>
      obtain ⟨rfl, erased⟩ := Control.body.inj (control.symm.trans asks)
      obtain ⟨rest, rfl, later⟩ :=
        Marked.exists_ask_of_erase bare (eq_of_heq erased)
      rw [← later] at goesOn
      rw [← same] at frames
      constructor <;> rw [move_goes_of_answered sound done]
      · exact follows_enter own goesOn frames
      · exact .answers rfl done
  | kills asks done opens goesOn same =>
      obtain ⟨rfl, erased⟩ := Control.body.inj (control.symm.trans asks)
      obtain ⟨rest, rfl, later⟩ :=
        Marked.exists_ask_of_erase bare (eq_of_heq erased)
      simp only [← later] at same
      constructor <;> rw [move_goes_of_underway sound done]
      · refine .waits own (fun other known => ?_)
          (same.trans (List.nil_append _).symm) (List.forall_mem_nil _) frames
        rw [goesOn] at known
        cases known
        -- Whoever is killed is not the one who asks for it.
        rintro rfl
        exact opens.clear role (Machine.mem_roles_of_control busy) own
      · exact .kills done
  | ends finished after same =>
      obtain ⟨rfl, erased⟩ := Control.body.inj (control.symm.trans finished)
      obtain rfl := Marked.eq_pure_of_erase bare (eq_of_heq erased)
      rw [← same] at frames
      constructor <;> rw [move_goes_of_ended sound]
      · refine .idle (Machine.clear_iff.mpr ⟨fun other known => ?_, frames⟩)
        cases after.symm.trans known
      · exact .ends rfl

private theorem keepsUp_of_apart {rest : Bool → Marked S Mark (role.Result S)}
    {inner outer : List ((role : Role) × (Bool → Program S (role.Result S)))}
    (marking : Marking S Mark) (own : role.task = task)
    (apart : ∀ verdict, machine.control = .verdict verdict →
      (machine.move move).control.role? ≠ some role)
    (elsewhere : ∀ other, (machine.move move).control.role? = some other →
      other.task ≠ task)
    (frames : (machine.move move).frames =
      inner ++ ⟨role, fun verdict => (rest verdict).erase⟩ :: outer)
    (inside : ∀ frame ∈ inner, frame.1.task ≠ task)
    (outside : ∀ frame ∈ outer, frame.1.task ≠ task) :
    KeepsUp marking task machine move (.waits role rest) := by
  constructor <;> rw [move_waits_of_elsewhere apart]
  · exact .waits own elsewhere frames inside outside
  · exact .stays _

private theorem keepsUp_waits {rest : Bool → Marked S Mark (role.Result S)}
    {inner outer : List ((role : Role) × (Bool → Program S (role.Result S)))}
    (marking : Marking S Mark) (own : role.task = task)
    (elsewhere : ∀ other, machine.control.role? = some other →
      other.task ≠ task)
    (frames : machine.frames =
      inner ++ ⟨role, fun verdict => (rest verdict).erase⟩ :: outer)
    (inside : ∀ frame ∈ inner, frame.1.task ≠ task)
    (outside : ∀ frame ∈ outer, frame.1.task ≠ task)
    (shifts : machine.Shifts (machine.move move) move)
    (sound : (machine.move move).control.isFaulted = false) :
    KeepsUp marking task machine move (.waits role rest) := by
  have keeps
      (goesOn : ∀ other, (machine.move move).control.role? = some other →
        other.task ≠ task)
      (same : (machine.move move).frames = machine.frames) :
      KeepsUp marking task machine move (.waits role rest) :=
    keepsUp_of_apart marking own (fun _ _ known => goesOn role known own) goesOn
      (same.trans frames) inside outside
  have busy := Machine.mem_roles_of_append frames
  cases shifts with
  | stays other control same =>
      exact keeps (by rwa [control]) same
  | passes before after same | ends control after same =>
      refine keeps (fun other known => ?_) same
      cases after.symm.trans known
  | opens before opens control same =>
      refine keeps (fun other known => ?_) same
      rw [control] at known
      cases known
      rintro rfl
      exact opens.clear role busy own
  | answers control done goesOn same =>
      refine keeps (fun other known => ?_) same
      rw [goesOn] at known
      cases known
      exact elsewhere _ (by rw [control]; rfl)
  | @kills asking request reply later closing body program control done opens
      goesOn same =>
      have apart : closing.task ≠ task := by
        rintro rfl
        exact opens.clear role busy own
      refine keepsUp_of_apart marking own (fun verdict impossible => ?_)
        (fun other known => ?_) (same.trans (congrArg _ frames))
        (List.forall_mem_cons.mpr
          ⟨elsewhere asking (by rw [control]; rfl), inside⟩) outside
      · rw [control] at impossible
        cases impossible
      · rw [goesOn] at known
        cases known
        exact apart
  -- The verdict goes to the innermost frame. If that is the one of the task,
  -- the thread goes on, and else it waits as before.
  | @returns verdict other later control goesOn same =>
      cases inner with
      | nil =>
          obtain ⟨first, others⟩ := List.cons.inj (same.symm.trans frames)
          cases first
          subst others
          constructor <;>
            rw [move_waits_of_returned sound control (by rw [goesOn]; rfl)]
          · exact follows_enter own goesOn outside
          · exact .returns verdict
      | cons head inner =>
          obtain ⟨rfl, others⟩ := List.cons.inj (same.symm.trans frames)
          obtain ⟨apart, inside⟩ := List.forall_mem_cons.mp inside
          have known : (machine.move .step).control.role? = some other := by
            rw [goesOn]
            rfl
          refine keepsUp_of_apart marking own (fun _ _ impossible => ?_)
            (fun _ impossible => ?_) others inside outside
          · cases known.symm.trans impossible
            exact apart own
          · cases known.symm.trans impossible
            exact apart

/-- A move carries the program of a task on as the thread says, whatever it
does. -/
theorem Follows.keepsUp (follows : Follows task machine thread)
    (marking : Marking S Mark)
    (shifts : machine.Shifts (machine.move move) move)
    (sound : (machine.move move).control.isFaulted = false) :
    KeepsUp marking task machine move thread := by
  cases follows with
  | idle clear => exact keepsUp_idle marking clear shifts
  | goes own bare control frames =>
      exact keepsUp_goes marking own bare control frames shifts sound
  | waits own control frames inside outside =>
      exact keepsUp_waits marking own control frames inside outside shifts sound

def role? : Thread S Mark → Option Role
  | .idle => none
  | .goes role _ => some role
  | .waits role _ => some role

omit [Application S] in
theorem Follows.role_iff (follows : Follows task machine thread) :
    role ∈ machine.roles ∧ role.task = task ↔ thread.role? = some role := by
  cases follows with
  | idle clear =>
      exact ⟨fun ⟨inside, own⟩ => absurd own (clear role inside), nofun⟩
  | @goes own rest ours bare control frames =>
      constructor
      · rintro ⟨inside, theirs⟩
        rcases Machine.mem_roles_cases inside with known | ⟨frame, waits, rfl⟩
        · rw [control] at known
          exact known
        · exact absurd theirs (frames frame waits)
      · intro same
        cases same
        exact ⟨Machine.mem_roles_of_control (by rw [control]; rfl), ours⟩
  | @waits own rest inner outer ours control frames inside outside =>
      constructor
      · rintro ⟨member, theirs⟩
        rcases Machine.mem_roles_cases member with known | ⟨frame, waits, rfl⟩
        · exact absurd theirs (control role known)
        · rw [frames] at waits
          rcases List.mem_append.mp waits with waits | waits
          · exact absurd theirs (inside frame waits)
          · rcases List.mem_cons.mp waits with rfl | waits
            · rfl
            · exact absurd theirs (outside frame waits)
      · intro same
        cases same
        exact ⟨Machine.mem_roles_of_append frames, ours⟩

end Thread

namespace Run

def thread (run : Run S) (marking : Marking S Mark) (task : TaskHandle) :
    Nat → Thread S Mark
  | 0 => .idle
  | count + 1 =>
      (Thread.move marking task (run.after count) (run.moves count)
        (run.thread marking task count)).1

def marks (run : Run S) (marking : Marking S Mark) (task : TaskHandle)
    (count : Nat) : List Mark :=
  (Thread.move marking task (run.after count) (run.moves count)
    (run.thread marking task count)).2

variable {run : Run S} {count : Nat}

/-- What has failed does not go on. -/
theorem advances_of_faulted (run : Run S) (marking : Marking S Mark)
    (task : TaskHandle)
    (faulted : (run.after (count + 1)).control.isFaulted = true) :
    run.thread marking task (count + 1) = run.thread marking task count ∧
      run.marks marking task count = [] := by
  have failed : ((run.after count).move (run.moves count)).control.isFaulted =
      true := faulted
  have moved : Thread.move marking task (run.after count) (run.moves count)
      (run.thread marking task count) = (run.thread marking task count, []) := by
    unfold Thread.move
    dsimp only
    exact if_pos failed
  exact Prod.mk.inj moved

private theorem clear_new (run : Run S) (task : TaskHandle) :
    (run.after 0).Clear task := nofun

private theorem shifts (run : Run S)
    (unfaulted : (run.after (count + 1)).control.isFaulted = false) :
    (run.after count).Shifts (run.after (count + 1)) (run.moves count) := by
  refine (run.transition count).shifts (run.steady count) rfl ?_ unfaulted
  exact fun closing inside =>
    Roster.not_alive_of_dead (dead_of_mem_closings inside)

/-- As long as there is no fault, the thread of a task is what the machine is to
do for it. -/
theorem follows (run : Run S) (marking : Marking S Mark) (task : TaskHandle)
    (unfaulted : (run.after count).control.isFaulted = false) :
    Thread.Follows task (run.after count) (run.thread marking task count) := by
  induction count with
  | zero => exact .idle (run.clear_new task)
  | succ count ih =>
      have before := (run.transition count).isFaulted unfaulted
      exact ((ih before).keepsUp marking (run.shifts unfaulted)
        unfaulted).follows

theorem advances (run : Run S) (marking : Marking S Mark) (task : TaskHandle)
    (unfaulted : (run.after (count + 1)).control.isFaulted = false) :
    Thread.Advances marking task (run.after count) (run.moves count)
      (run.thread marking task count)
      (run.thread marking task (count + 1), run.marks marking task count) := by
  have before := (run.transition count).isFaulted unfaulted
  exact ((run.follows marking task before).keepsUp marking
    (run.shifts unfaulted) unfaulted).advances

end Run

end Marking

end EventScheduler
