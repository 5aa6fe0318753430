import EventScheduler.Proofs.Kernel.Placement
import EventScheduler.Proofs.Scheduler.Transitions

/-!
# Where the tasks of a scheduler are

In every state of every run each live task is in exactly one place: on the run
queue, running, yielded, suspended, or on the timer list.  The one active task
off the run queue is the running one or the one that yielded, and nobody yields
while a body runs.
-/

namespace EventScheduler

variable {S : Signature}

/-! ### Deeds that begin and end no slice -/

namespace Deed

variable {deed : Deed}

theorem Outside.calm (fits : deed.Outside) : deed.Calm := by
  rcases fits with rfl | ⟨event, rfl | rfl⟩ <;> trivial

theorem Wakes.calm (fits : deed.Wakes) : deed.Calm := by
  obtain ⟨task, rfl⟩ := fits
  trivial

theorem Drains.calm (fits : deed.Drains) : deed.Calm := by
  rcases fits with rfl | rfl | fits
  · trivial
  · trivial
  · exact fits.calm

theorem Idles.calm (fits : deed.Idles) : deed.Calm := by
  rcases fits with fits | rfl
  · exact fits.calm
  · trivial

theorem Buries.calm {task : TaskHandle} (fits : deed.Buries task) :
    deed.Calm := by
  rcases fits with rfl | rfl <;> trivial

/-- What comes of an operation or a request that is answered at once, but for a
handler that gives up its event. -/
def isAsked : Deed → Bool
  | .counts | .dies _ | .resigns _ _ | .drains | .promotes | .requeues _
  | .pops _ | .begins _ | .ends _ | .parks _ => false
  | _ => true

theorem calm_of_isAsked (asked : deed.isAsked = true) : deed.Calm := by
  cases deed with
  | requeues | pops | begins | ends | parks => cases asked
  | _ => trivial

theorem Wakes.isAsked (fits : deed.Wakes) : deed.isAsked = true := by
  obtain ⟨task, rfl⟩ := fits
  rfl

theorem Waits.isAsked {task : TaskHandle} (fits : deed.Waits task) :
    deed.isAsked = true := by
  rcases fits with rfl | ⟨event, rfl | rfl⟩ <;> rfl

theorem Settles.isAsked {errand : Errand} (fits : deed.Settles errand) :
    deed.isAsked = true := by
  cases errand with
  | kill => exact fits.elim
  | release event => rcases fits with rfl | rfl <;> rfl
  | abandon event =>
      cases fits
      rfl

theorem Settles.calm {errand : Errand} (fits : deed.Settles errand) :
    deed.Calm :=
  calm_of_isAsked fits.isAsked

private theorem isAsked_of_handle {event : EventHandle}
    {answer : Except Error TaskHandle}
    (fits : deed = .quiet ∨ (∃ index, deed = .spoils index) ∨
      ∃ task, answer = .ok task ∧ deed = .handles event task) :
    deed.isAsked = true := by
  rcases fits with rfl | ⟨index, rfl⟩ | ⟨task, _, rfl⟩ <;> rfl

private theorem isAsked_of_start {answer : Except Error TaskHandle}
    (fits : deed = .quiet ∨
      ∃ task, answer = .ok task ∧ deed = .starts task) :
    deed.isAsked = true := by
  rcases fits with rfl | ⟨task, _, rfl⟩ <;> rfl

private theorem isAsked_of_claim {answer : Except Error EventHandle}
    (fits : ∃ event, answer = .ok event ∧ deed = .claims event) :
    deed.isAsked = true := by
  obtain ⟨event, _, rfl⟩ := fits
  rfl

theorem calm_of_errand {event : EventHandle} {errand : Errand}
    (fits : (∃ task, deed = .resigns event task) ∨ deed.Settles errand) :
    deed.Calm := by
  rcases fits with ⟨task, rfl⟩ | fits
  · trivial
  · exact fits.calm

theorem quiet_calm (deed : Deed) (quiet : deed = .quiet) : deed.Calm := by
  rw [quiet]
  trivial

theorem counts_calm (deed : Deed) (counts : deed = .counts) : deed.Calm := by
  rw [counts]
  trivial

end Deed

/-- Only a handler that releases or abandons its event gives it up. -/
theorem Request.May.isAsked_or {current : TaskHandle} {request : Request S}
    {reply : request.Reply} {deed : Deed}
    (fits : request.May current reply deed) :
    deed.isAsked = true ∨ ∃ event task, deed = .resigns event task ∧
      (request = .release event ∨ request = .abandon event) := by
  cases request with
  | store | join | releaseAbandoned | setPending | watch | unwatch =>
      cases fits
      exact Or.inl rfl
  | start => exact Or.inl (Deed.isAsked_of_start fits)
  | resume => exact Or.inl (Deed.Wakes.isAsked fits)
  | claim | claimInto => exact Or.inl (Deed.isAsked_of_claim fits)
  | handle => exact Or.inl (Deed.isAsked_of_handle fits)
  | wait => exact Or.inl (Deed.Waits.isAsked fits)
  | release event =>
      rcases fits with ⟨task, same⟩ | fits
      · exact Or.inr ⟨event, task, same, Or.inl rfl⟩
      · exact Or.inl fits.isAsked
  | abandon event =>
      rcases fits with ⟨task, same⟩ | fits
      · exact Or.inr ⟨event, task, same, Or.inr rfl⟩
      · exact Or.inl fits.isAsked
  | _ => exact fits.elim

theorem Request.May.calm {current : TaskHandle} {request : Request S}
    {reply : request.Reply} {deed : Deed}
    (fits : request.May current reply deed) : deed.Calm := by
  rcases fits.isAsked_or with asked | ⟨_, _, rfl, _⟩
  · exact Deed.calm_of_isAsked asked
  · trivial

theorem Operation.May.isAsked {operation : Operation S}
    {answer : operation.Answer} {deed : Deed}
    (fits : operation.May answer deed) : deed.isAsked = true := by
  cases operation with
  | start => exact Deed.isAsked_of_start fits
  | resume => exact Deed.Wakes.isAsked fits
  | claim | claimInto => exact Deed.isAsked_of_claim fits
  | handle => exact Deed.isAsked_of_handle fits
  | reap | setPending | releaseAbandoned | watch | unwatch =>
      cases fits
      rfl

/-! ### The slice that is carried out -/

def Role.slice? : Role → Option TaskHandle
  | .slice task => some task
  | .close _ => none

namespace Control

def slices : Control S → List TaskHandle
  | .body role _ => role.slice?.toList
  | _ => []

def isFaulted : Control S → Bool
  | .faulted _ => true
  | _ => false

/-- Whether a turn has begun and no task was picked yet, so that the one that
yielded last still waits to be queued. -/
def awaitsPick : Control S → Bool
  | .turn | .dispatch _ true | .pick | .faulted _ => true
  | _ => false

def isBase : Control S → Bool
  | .body role _ => role.slice?.isSome
  | .verdict _ | .faulted _ => false
  | _ => true

variable {control : Control S}

theorem isFaulted_of_isBase (base : control.isBase = true) :
    control.isFaulted = false := by
  cases control with
  | faulted fault => cases base
  | _ => rfl

theorem idle_cases (idle : control.isIdle = true) :
    control.isBase = true ∧ control.awaitsPick = false ∧
      control.slices = [] := by
  cases control with
  | concluded | stalled => exact ⟨rfl, rfl, rfl⟩
  | _ => cases idle

end Control

namespace Caller

def slice? : Caller S → Option TaskHandle
  | .body role _ => role.slice?
  | .sweep _ _ => none

def isBase : Caller S → Bool
  | .body role _ => role.slice?.isSome
  | .sweep _ _ => true

theorem filterMap_slice?_cons (caller : Caller S) (callers : List (Caller S)) :
    (caller :: callers).filterMap slice? =
      caller.slice?.toList ++ callers.filterMap slice? := by
  cases known : caller.slice? with
  | none => exact List.filterMap_cons_none known
  | some task => exact List.filterMap_cons_some known

end Caller

namespace Machine

def slices (machine : Machine S) : List TaskHandle :=
  machine.control.slices ++ machine.callers.filterMap Caller.slice?

def stray (machine : Machine S) : Option TaskHandle :=
  machine.kernel.running.or machine.yielded

theorem stray_of_running {machine : Machine S} {task : TaskHandle}
    (running : machine.kernel.running = some task) :
    machine.stray = some task := by
  unfold Machine.stray
  rw [running]
  rfl

theorem stray_of_idle {machine : Machine S}
    (idle : machine.kernel.running = none) :
    machine.stray = machine.yielded := by
  unfold Machine.stray
  rw [idle]
  rfl

/-- Below a slice or a shutdown nobody waits for a verdict. -/
def Stacked : List (Caller S) → Prop
  | [] => True
  | caller :: rest => (caller.isBase = true → rest = []) ∧ Stacked rest

structure Steady (machine : Machine S) : Prop where
  placed : machine.kernel.Placed machine.stray
  yielded : machine.yielded ≠ none →
    machine.kernel.running = none ∧ machine.control.awaitsPick = true
  slices : machine.control.isFaulted = false →
    machine.slices = machine.kernel.running.toList
  stacked : Stacked machine.callers
  base : machine.control.isBase = true → machine.callers = []

namespace Steady

variable {machine : Machine S}

theorem yielded_eq_none (steady : machine.Steady)
    (busy : machine.control.awaitsPick = false) : machine.yielded = none := by
  by_contra waits
  rw [(steady.yielded waits).2] at busy
  cases busy

theorem slices_eq_nil (steady : machine.Steady)
    (base : machine.control.isBase = true)
    (control : machine.control.slices = []) : machine.slices = [] := by
  unfold Machine.slices
  rw [control, steady.base base]
  rfl

theorem running_eq_none (steady : machine.Steady)
    (base : machine.control.isBase = true)
    (control : machine.control.slices = []) : machine.kernel.running = none := by
  have slices := steady.slices (Control.isFaulted_of_isBase base)
  rw [steady.slices_eq_nil base control] at slices
  cases running : machine.kernel.running with
  | none => rfl
  | some task =>
      rw [running] at slices
      cases slices

/-- Where no task was left to be queued, the stray task is the running one. -/
theorem stray_eq_running (steady : machine.Steady)
    (busy : machine.control.awaitsPick = false) :
    machine.stray = machine.kernel.running := by
  unfold stray
  rw [steady.yielded_eq_none busy, Option.or_none]

/-- What the buffer for drained events holds does not matter. -/
theorem buffer (steady : machine.Steady) (drained : List EventHandle) :
    Steady { machine with drained } :=
  ⟨steady.placed, steady.yielded, steady.slices, steady.stacked, steady.base⟩

/-- A fault leaves everything else as it was. -/
theorem fault (steady : machine.Steady) (fault : Fault)
    {callers : List (Caller S)} (stacked : Stacked callers) :
    Steady { machine with control := .faulted fault, callers } where
  placed := steady.placed
  yielded waits := ⟨(steady.yielded waits).1, rfl⟩
  slices sound := nomatch sound
  stacked := stacked
  base impossible := nomatch impossible

/-- The kernel changes and the control goes on, but no slice begins or ends and
nobody yields. -/
theorem goOn (steady : machine.Steady) {kernel : Kernel S}
    {control : Control S} {callers : List (Caller S)} {may : Deed → Prop}
    (sound : control.isFaulted = false → machine.control.isFaulted = false)
    (evolves : Kernel.Evolves may machine.kernel kernel)
    (calm : ∀ deed, may deed → deed.Calm)
    (spared : ∀ task, may (.dies task) → machine.control.awaitsPick = false)
    (awaits : machine.yielded ≠ none → control.awaitsPick = true)
    (slices : control.slices ++ callers.filterMap Caller.slice? =
      machine.slices)
    (stacked : Stacked callers) (base : control.isBase = true → callers = []) :
    Steady { machine with kernel, control, callers } := by
  have harmless : ∀ task, may (.dies task) →
      machine.stray ≠ some task ∨ machine.stray = machine.kernel.running :=
    fun task dies => Or.inr (steady.stray_eq_running (spared task dies))
  obtain ⟨running, placed⟩ := evolves.placed calm harmless steady.placed
  refine ⟨?_, ?_, ?_, stacked, base⟩
  · unfold stray at placed ⊢
    dsimp only
    rwa [running]
  · intro waits
    exact ⟨running.trans (steady.yielded waits).1, awaits waits⟩
  · intro soundToo
    exact slices.trans ((steady.slices (sound soundToo)).trans
      (congrArg Option.toList running.symm))

/-- Nobody waits for a verdict and no slice is carried out, before or after. -/
theorem proceed (steady : machine.Steady) {before control : Control S}
    {kernel : Kernel S} {may : Deed → Prop} (known : machine.control = before)
    (base : before.isBase = true) (slices : before.slices = [])
    (evolves : Kernel.Evolves may machine.kernel kernel)
    (calm : ∀ deed, may deed → deed.Calm)
    (spared : ∀ task, may (.dies task) → before.awaitsPick = false)
    (awaits : machine.yielded ≠ none → control.awaitsPick = true)
    (nothing : control.slices = []) :
    Steady { machine with kernel, control } := by
  subst known
  have callers := steady.base base
  refine steady.goOn (fun _ => Control.isFaulted_of_isBase base) evolves calm
    spared awaits ?_ steady.stacked fun _ => callers
  rw [steady.slices_eq_nil base slices, nothing, callers]
  rfl

/-- An operation begins. -/
theorem call (steady : machine.Steady) {control : Control S}
    {kernel : Kernel S} {may : Deed → Prop}
    (idle : machine.control.isIdle = true)
    (evolves : Kernel.Evolves may machine.kernel kernel)
    (calm : ∀ deed, may deed → deed.Calm) (nothing : control.slices = []) :
    Steady { machine with kernel, control, callers := [] } := by
  obtain ⟨base, busy, slices⟩ := Control.idle_cases idle
  refine steady.goOn (fun _ => Control.isFaulted_of_isBase base) evolves calm
    (fun _ _ => busy) (fun waits => absurd (steady.yielded_eq_none busy) waits)
    ?_ trivial fun _ => rfl
  rw [steady.slices_eq_nil base slices, nothing]
  rfl

/-- A kill begins, and what was about to go on waits for its verdict. -/
theorem begin (steady : machine.Steady) {closing : Closing}
    {body : Option S.Body} {kernel : Kernel S} {caller : Caller S}
    (program : Program S Unit)
    (sound : machine.control.isFaulted = false)
    (busy : machine.control.awaitsPick = false)
    (begins : machine.BeginsClose closing body kernel)
    (slice : caller.slice?.toList = machine.control.slices)
    (base : caller.isBase = true → machine.control.isBase = true) :
    Steady { machine with
      kernel
      control := .body (.close closing) program
      callers := caller :: machine.callers } := by
  refine steady.goOn (fun _ => sound) begins.begins.buries.evolves
    (fun _ => Deed.Buries.calm) (fun _ _ => busy)
    (fun waits => absurd (steady.yielded_eq_none busy) waits) ?_
    ⟨fun known => steady.base (base known), steady.stacked⟩
    fun impossible => nomatch impossible
  rw [Caller.filterMap_slice?_cons, slice]
  rfl

/-- Nobody waits to be queued before a pick. -/
theorem nobody (steady : machine.Steady) {known control : Control S}
    (same : machine.control = known) (busy : known.awaitsPick = false) :
    machine.yielded ≠ none → control.awaitsPick = true := by
  intro waits
  rw [← same] at busy
  exact absurd (steady.yielded_eq_none busy) waits

/-- The innermost caller goes on with a verdict. -/
theorem answer (steady : machine.Steady) {verdict : Bool} {caller : Caller S}
    {callers : List (Caller S)} {control : Control S}
    (known : machine.control = .verdict verdict)
    (waiting : machine.callers = caller :: callers)
    (slice : control.slices = caller.slice?.toList)
    (base : control.isBase = true → caller.isBase = true) :
    Steady { machine with control, callers } := by
  have busy : machine.control.awaitsPick = false := by
    rw [known]
    rfl
  have stacked := steady.stacked
  rw [waiting] at stacked
  refine steady.goOn (fun _ => by rw [known]; rfl) (.refl _) Deed.quiet_calm
    (fun _ _ => busy) (fun waits => absurd (steady.yielded_eq_none busy) waits) ?_
    stacked.2 fun based => stacked.1 (base based)
  unfold Machine.slices
  rw [known, waiting, Caller.filterMap_slice?_cons, slice]
  rfl

end Steady

/-! ### Transitions -/

variable {machine next : Machine S}

private theorem patience_of_yielded (waits : machine.yielded ≠ none) :
    machine.patience = .ok (some .elapsed) := by
  unfold Scheduler.patience
  rw [Option.isSome_iff_ne_none.mpr waits]
  exact if_pos rfl

/-- Once the run queue of a turn is complete, every active task is on it. -/
theorem placed_of_queuedUp (steady : machine.Steady)
    {scheduler : Scheduler S} (idle : machine.kernel.running = none)
    (queued : machine.toScheduler.QueuedUp scheduler) :
    scheduler.kernel.running = none ∧ scheduler.kernel.Placed none := by
  obtain ⟨_, middle, promotes, requeues⟩ := queued
  have promoted := promotes.placed steady.placed fun _ impossible =>
    nomatch impossible
  have stray : Deed.promotes.stray machine.stray = machine.yielded :=
    stray_of_idle idle
  have same : middle.running = none :=
    (promotes.running_eq_of_calm trivial).trans idle
  rw [stray] at promoted
  cases yielded : machine.yielded with
  | none =>
      rw [yielded] at requeues promoted
      rw [requeues]
      exact ⟨same, promoted⟩
  | some task =>
      rw [yielded] at requeues promoted
      have placed := requeues.placed promoted fun _ impossible =>
        nomatch impossible
      have left : (Deed.requeues task).stray (some task) = none := if_pos rfl
      rw [left] at placed
      have kept := requeues.running_eq (fun _ impossible => nomatch impossible)
        fun _ impossible => nomatch impossible
      exact ⟨kept.trans same, placed⟩

theorem Steady.placed_of_queueUp (steady : machine.Steady)
    (control : machine.control = .pick) {ready : Scheduler S}
    (queued : machine.queueUp = .ok ready) : ready.kernel.Placed none := by
  have idle := steady.running_eq_none (by rw [control]; rfl)
    (by rw [control]; rfl)
  exact (placed_of_queuedUp steady idle
    (Scheduler.queueUp_evolves steady.placed.wellformed queued)).2

private theorem steady_of_picksNothing (steady : machine.Steady)
    {scheduler : Scheduler S} (control : machine.control = .pick)
    (queued : machine.toScheduler.QueuedUp scheduler) :
    Steady { machine with toScheduler := scheduler, control := .turn } := by
  have base : machine.control.isBase = true := by
    rw [control]
    rfl
  have idle := steady.running_eq_none base (by rw [control]; rfl)
  obtain ⟨running, placed⟩ := placed_of_queuedUp steady idle queued
  have yielded := queued.1
  refine ⟨?_, fun waits => absurd yielded waits, fun _ => ?_, steady.stacked,
    fun _ => steady.base base⟩
  · unfold Machine.stray
    dsimp only
    rw [running, yielded]
    exact placed
  · unfold Machine.slices
    dsimp only
    rw [steady.base base, running]
    rfl

/-- A task whose slice is carried out is the running one. -/
theorem Steady.running_of_slice (steady : machine.Steady) {task : TaskHandle}
    {program : Program S (S.Step × S.Body)}
    (control : machine.control = .body (.slice task) program) :
    machine.kernel.running = some task := by
  have slices := steady.slices (by rw [control]; rfl)
  unfold Machine.slices at slices
  rw [control] at slices
  cases running : machine.kernel.running with
  | none =>
      rw [running] at slices
      cases slices
  | some other =>
      rw [running] at slices
      rw [(List.cons.inj slices).1]

/-- At the end of its slice the task that ran is the stray one. -/
theorem Steady.placed_of_ends (steady : machine.Steady) {task : TaskHandle}
    {program : Program S (S.Step × S.Body)} {kernel : Kernel S}
    (control : machine.control = .body (.slice task) program)
    (ends : Kernel.Change machine.kernel (.ends task) kernel) :
    kernel.Placed (some task) := by
  have stray : Deed.stray (.ends task) machine.stray = some task :=
    stray_of_running (steady.running_of_slice control)
  have placed := ends.placed steady.placed fun _ impossible =>
    nomatch impossible
  rwa [stray] at placed

/-- At the end of a slice nobody runs any more, so what is stray is what
yielded. -/
private theorem placed_of_applied {scheduler next : Scheduler S}
    {task : TaskHandle} {step : S.Step} {value : Option S.Output}
    (applied : scheduler.Applied task step value next)
    (idle : scheduler.kernel.running = none) (yielded : scheduler.yielded = none)
    (placed : scheduler.kernel.Placed (some task)) :
    next.kernel.running = none ∧ next.kernel.Placed next.yielded ∧
      (next.yielded ≠ none → value = none) := by
  cases applied with
  | yields => exact ⟨idle, placed, fun _ => rfl⟩
  | parks change =>
      have parked := change.placed placed fun _ impossible => nomatch impossible
      have gone : Deed.stray (.parks task) (some task) = none := if_pos rfl
      rw [gone] at parked
      have kept := change.running_eq (fun _ impossible => nomatch impossible)
        fun _ impossible => nomatch impossible
      refine ⟨kept.trans idle, ?_, fun waits => absurd yielded waits⟩
      dsimp only
      rw [yielded]
      exact parked
  | ends before dies wakes left =>
      obtain ⟨firstRunning, first⟩ := before.placed Deed.quiet_calm
        (fun _ impossible => nomatch impossible) placed
      obtain ⟨deadRunning, dead⟩ := dies.placed first
      obtain ⟨lastRunning, last⟩ := wakes.placed
        (fun _ fits => Deed.Wakes.calm fits)
        (fun _ impossible => nomatch impossible) dead
      rw [yielded, ite_self] at left
      refine ⟨?_, ?_, fun waits => absurd left waits⟩
      · rw [lastRunning, deadRunning, firstRunning, idle]
      · rw [left]
        exact last

private theorem steady_of_endsSlice (steady : machine.Steady)
    {task : TaskHandle} {step : S.Step} {body : S.Body}
    {value : Option S.Output} {scheduler : Scheduler S} {after : Control S}
    (control : machine.control = .body (.slice task) (.pure (step, body)))
    (ends : Kernel.Change machine.kernel (.ends task)
      (machine.kernel.endSlice task body))
    (applied : Scheduler.Applied
      { machine.toScheduler with kernel := machine.kernel.endSlice task body }
      task step value scheduler)
    (slices : after.slices = [])
    (awaits : value = none → after.awaitsPick = true) :
    Steady { machine with toScheduler := scheduler, control := after } := by
  have callers : machine.callers = [] := steady.base (by rw [control]; rfl)
  have yielded : machine.yielded = none :=
    steady.yielded_eq_none (by rw [control]; rfl)
  have placed := steady.placed_of_ends control ends
  obtain ⟨idle, placedAfter, unyielding⟩ :=
    placed_of_applied applied rfl yielded placed
  refine ⟨?_, fun waits => ⟨idle, awaits (unyielding waits)⟩, fun _ => ?_,
    steady.stacked, fun _ => callers⟩
  · unfold Machine.stray
    dsimp only
    rw [idle]
    exact placedAfter
  · unfold Machine.slices
    dsimp only
    rw [slices, callers, idle]
    rfl

private theorem steady_of_answers (steady : machine.Steady) {role : Role}
    {program rest : Program S (role.Result S)} {kernel : Kernel S}
    {may : Deed → Prop} (control : machine.control = .body role program)
    (evolves : Kernel.Evolves may machine.kernel kernel)
    (calm : ∀ deed, may deed → deed.Calm) :
    Steady { machine with kernel, control := .body role rest } := by
  have busy : machine.control.awaitsPick = false := by
    rw [control]
    rfl
  refine steady.goOn (fun _ => by rw [control]; rfl) evolves calm
    (fun _ _ => busy) (fun waits => absurd (steady.yielded_eq_none busy) waits) ?_
    steady.stacked fun base => steady.base ?_
  · unfold Machine.slices
    rw [control]
    rfl
  · rw [control]
    exact base

private theorem steady_of_endsClose [Environment S.World]
    (steady : machine.Steady)
    {closing : Closing} {program : Program S Unit} {verdict : Bool}
    {middle kernel : Kernel S}
    (control : machine.control = .body (.close closing) program)
    (wakes : Kernel.Evolves Deed.Wakes machine.kernel middle)
    (settles : middle.settle closing.errand = (verdict, kernel)) :
    Steady { machine with kernel, control := .verdict verdict } := by
  have settled := middle.settle_evolves closing.errand
  rw [settles] at settled
  have evolves : Kernel.Evolves
      (fun deed => deed.Wakes ∨ deed.Settles closing.errand)
      machine.kernel kernel :=
    (wakes.mono fun _ => Or.inl).trans (settled.mono fun _ => Or.inr)
  refine steady.goOn (fun _ => by rw [control]; rfl) evolves ?_
    (fun _ _ => by rw [control]; rfl) (steady.nobody control rfl) ?_
    steady.stacked fun impossible => nomatch impossible
  · rintro deed (fits | fits)
    · exact fits.calm
    · exact fits.calm
  · unfold Machine.slices
    rw [control]
    rfl

variable [Application S]

private theorem steady_of_picks (steady : machine.Steady)
    {scheduler : Scheduler S} {popped recorded kernel : Kernel S}
    {task : TaskHandle} (body : S.Body) (control : machine.control = .pick)
    (queued : machine.toScheduler.QueuedUp scheduler)
    (pops : Kernel.Change scheduler.kernel (.pops task) popped)
    (evolves : Kernel.Evolves (· = .quiet) popped recorded)
    (begins : Kernel.Change recorded (.begins task) kernel) :
    Steady { machine with
      kernel
      yielded := none
      control := .body (.slice task) (Application.resume body) } := by
  have base : machine.control.isBase = true := by
    rw [control]
    rfl
  have idle := steady.running_eq_none base (by rw [control]; rfl)
  obtain ⟨_, placed⟩ := placed_of_queuedUp steady idle queued
  have poppedPlaced := pops.placed placed fun _ _ => rfl
  obtain ⟨_, recordedPlaced⟩ := evolves.placed Deed.quiet_calm
    (fun _ impossible => nomatch impossible) poppedPlaced
  have begun := begins.placed recordedPlaced fun _ impossible =>
    nomatch impossible
  have running := begins.running_of_begins
  refine ⟨?_, fun waits => absurd rfl waits, fun _ => ?_, steady.stacked,
    fun _ => steady.base base⟩
  · unfold Machine.stray
    dsimp only
    rw [running]
    exact begun
  · unfold Machine.slices
    dsimp only
    rw [steady.base base, running]
    rfl

/-- What every move preserves. -/
theorem Transition.steady {move : Move S}
    (transition : Transition machine move next)
    (steady : machine.Steady) : next.Steady := by
  cases transition with
  | still => exact steady
  | faults fault failed => exact steady.fault fault steady.stacked
  | outside evolves =>
      refine steady.goOn id evolves (fun _ => Deed.Outside.calm) ?_
        (fun waits => (steady.yielded waits).2) rfl steady.stacked steady.base
      rintro task (impossible | ⟨_, impossible | impossible⟩) <;>
        cases impossible
  | operates idle done yielded evolves =>
      rename_i operation answer scheduler
      obtain ⟨kernel, drained, left⟩ := scheduler
      cases yielded
      have after := steady.goOn id evolves
        (fun _ fits => Deed.calm_of_isAsked fits.isAsked)
        (fun _ _ => (Control.idle_cases idle).2.1)
        (fun waits => (steady.yielded waits).2) rfl steady.stacked steady.base
      exact after.buffer drained
  | faultsCall idle fault => exact steady.fault fault trivial
  | callsRun idle => exact steady.call idle (.refl _) Deed.quiet_calm rfl
  | callsNothing idle answer =>
      exact steady.call idle (.refl _) Deed.quiet_calm rfl
  | callsErrand idle onEvent settles =>
      exact steady.call idle (Kernel.settlesAtOnce_evolves settles)
        (fun _ => Deed.calm_of_errand) rfl
  | callsClose body idle begins =>
      exact steady.call idle begins.begins.buries.evolves
        (fun _ => Deed.Buries.calm) rfl
  | ends control patience evolves =>
      -- Whoever yielded last still waits to be queued, so the loop cannot have
      -- come to its end.
      refine steady.proceed control rfl rfl evolves Deed.quiet_calm
        (fun _ impossible => nomatch impossible) (fun waits => ?_) rfl
      rw [patience_of_yielded waits] at patience
      cases patience
  | dispatches control patience =>
      refine steady.proceed control rfl rfl
        machine.kernel.countDispatch_evolves Deed.counts_calm
        (fun _ impossible => nomatch impossible) (fun waits => ?_) rfl
      rw [patience_of_yielded waits] at patience
      cases patience
      rfl
  | drains control evolves =>
      rename_i deadline woke kernel
      have after : Steady { machine with kernel, control := .pick } := by
        refine steady.proceed control rfl rfl evolves (fun _ => Deed.Drains.calm)
          ?_ (fun _ => rfl) rfl
        rintro task (impossible | impossible | ⟨_, impossible⟩) <;>
          cases impossible
      exact after.buffer []
  | idles control evolves =>
      rename_i deadline kernel
      have after : Steady { machine with
          kernel := kernel.countWait
          control := .sleep deadline } :=
        steady.proceed control rfl rfl (Kernel.countWait_evolves evolves)
          (fun _ => Deed.Idles.calm) (fun _ _ => rfl)
          (steady.nobody control rfl) rfl
      exact after.buffer []
  | wakes control evolves | stalls control evolves =>
      exact steady.proceed control rfl rfl evolves (fun _ => Deed.Outside.calm)
        (fun _ _ => rfl) (steady.nobody control rfl) rfl
  -- From here on a slice may begin or end, and with it who runs.
  | picksNothing control queued empty drained =>
      exact steady_of_picksNothing steady control queued
  | picks body control queued pops evolves begins =>
      exact steady_of_picks steady body control queued pops evolves begins
  | answers control done evolves =>
      exact steady_of_answers steady control evolves fun _ => Request.May.calm
  | kills body control begins =>
      refine steady.begin _ (by rw [control]; rfl) (by rw [control]; rfl)
        begins ?_ ?_ <;> rw [control]
      · rfl
      · exact id
  | endsSlice control ends applied =>
      rename_i value scheduler
      refine steady_of_endsSlice steady control ends applied ?_ ?_ <;>
        cases value
      · rfl
      · rfl
      · exact fun _ => rfl
      · exact fun impossible => nomatch impossible
  | endsClose control wakes settles =>
      exact steady_of_endsClose steady control wakes settles
  | concludes control callers =>
      refine steady.goOn (fun _ => by rw [control]; rfl) (.refl _)
        Deed.quiet_calm (fun _ impossible => nomatch impossible)
        (steady.nobody control rfl) ?_ steady.stacked fun _ => callers
      unfold Machine.slices
      rw [control]
      rfl
  | returns control waiting =>
      exact steady.answer control waiting rfl id
  | sweepsOn control waiting =>
      exact steady.answer control waiting rfl id
  | swept control | passes control =>
      exact steady.proceed control rfl rfl (.refl _) Deed.quiet_calm
        (fun _ _ => rfl) (steady.nobody control rfl) rfl
  | sweeps body control begins =>
      refine steady.begin _ (by rw [control]; rfl) (by rw [control]; rfl)
        begins ?_ ?_ <;> rw [control]
      · rfl
      · exact id

/-- What has failed does not go on. -/
theorem Transition.isFaulted {move : Move S}
    (transition : Transition machine move next)
    (unfaulted : next.control.isFaulted = false) :
    machine.control.isFaulted = false := by
  have ready (idle : machine.control.isIdle = true) :
      machine.control.isFaulted = false :=
    Control.isFaulted_of_isBase (Control.idle_cases idle).1
  cases transition with
  | still | outside | operates => exact unfaulted
  | faults | faultsCall => cases unfaulted
  | callsRun idle | callsNothing idle | callsErrand idle
  | callsClose body idle => exact ready idle
  | ends control | dispatches control | drains control | idles control
  | wakes control | stalls control | picksNothing control
  | picks body control | answers control | kills body control
  | endsSlice control | endsClose control | concludes control
  | returns control | sweepsOn control | swept control | passes control
  | sweeps body control =>
      rw [control]
      rfl

end Machine

end EventScheduler
