import EventScheduler.Proofs.Event.Abandoned
import EventScheduler.Proofs.Kernel.Waiting
import EventScheduler.Proofs.Scheduler.Faults
import EventScheduler.Proofs.Scheduler.Handling
import EventScheduler.Proofs.Scheduler.Releases

/-!
# Events out of use

An event that was abandoned stays out of use, and its slot claimed, until it is
given back or released.  Meanwhile nobody waits for it and nothing comes of it.
-/

namespace EventScheduler

variable {S : Signature}

/-! ### The end of an errand -/

namespace Kernel

variable [Environment S.World] {kernel next : Kernel S} {event : EventHandle}

theorem exists_release (settles : kernel.settle (.release event) = (true, next)) :
    kernel.events.release event = (true, next.events) := by
  unfold settle at settles
  dsimp only at settles
  split at settles
  · cases settles
  · next events released =>
      split at settles <;> cases settles <;> exact released

theorem exists_abandon (settles : kernel.settle (.abandon event) = (true, next)) :
    kernel.events.abandon event = (true, next.events) := by
  unfold settle at settles
  dsimp only at settles
  split at settles
  · cases settles
  · next events abandoned =>
      cases settles
      exact abandoned

end Kernel

namespace Machine

variable [Application S]

/-- An errand on an event comes to its end in the move, and the verdict is
true. -/
inductive Settles (machine : Machine S) : Errand → Move S → Prop
  | calledRelease {event : EventHandle} {kernel : Kernel S}
      (idle : machine.control.isIdle = true)
      (done : machine.kernel.startRelease event = .ok (.answered true kernel)) :
      Settles machine (.release event) (.call (.release event))
  | calledAbandon {event : EventHandle} {kernel : Kernel S}
      (idle : machine.control.isIdle = true)
      (done : machine.kernel.startAbandon event = .ok (.answered true kernel)) :
      Settles machine (.abandon event) (.call (.abandon event))
  | askedRelease {event : EventHandle} {role : Role}
      {rest : Bool → Program S (role.Result S)} {kernel : Kernel S}
      (control : machine.control = .body role (.ask (.release event) rest))
      (done : machine.kernel.startRelease event = .ok (.answered true kernel)) :
      Settles machine (.release event) .step
  | askedAbandon {event : EventHandle} {role : Role}
      {rest : Bool → Program S (role.Result S)} {kernel : Kernel S}
      (control : machine.control = .body role (.ask (.abandon event) rest))
      (done : machine.kernel.startAbandon event = .ok (.answered true kernel)) :
      Settles machine (.abandon event) .step
  /-- The close of the handler that was in the way has run. -/
  | closed {closing : Closing} {kernel : Kernel S}
      (control : machine.control = .body (.close closing) (.pure ()))
      (done : machine.kernel.complete closing = .ok (true, kernel)) :
      Settles machine closing.errand .step

/-- The move gives the abandoned event back: from outside, from a body, or by an
interrupt, be the processor asleep or not. -/
inductive GivesBack (machine : Machine S) (event : EventHandle) :
    Move S → Prop
  | operation (idle : machine.control.isIdle = true) :
      GivesBack machine event (.operate (.releaseAbandoned event))
  | request {role : Role} {rest : Bool → Program S (role.Result S)}
      (control :
        machine.control = .body role (.ask (.releaseAbandoned event) rest)) :
      GivesBack machine event .step
  | interrupt : GivesBack machine event (.interrupt (.givenBack event))
  | asleep {deadline : Deadline} {world : S.World}
      {interrupts : List Interrupt} (control : machine.control = .sleep deadline)
      (woken : Environment.sleepUntil machine.kernel.world deadline =
        .woken world interrupts)
      (inside : .givenBack event ∈ interrupts) : GivesBack machine event .step

variable {machine : Machine S} {move : Move S} {event : EventHandle}

theorem Settles.exists_settle {errand : Errand}
    (settles : machine.Settles errand move)
    (wellformed : machine.kernel.Wellformed) :
    ∃ middle : Kernel S, middle.events = machine.kernel.events ∧
      middle.settle errand = (true, (machine.move move).kernel) := by
  cases settles with
  | calledRelease idle done | calledAbandon idle done =>
      rw [kernel_of_called idle rfl done]
      have settles := Kernel.startErrand_answered wellformed done
      exact settles.exists_settle.imp fun _ => And.right
  | askedRelease control done | askedAbandon control done =>
      rw [move_of_answered control done]
      have settles := Kernel.startErrand_answered wellformed done
      exact settles.exists_settle.imp fun _ => And.right
  | closed control done =>
      rw [move_of_closed control done]
      obtain ⟨_, middle, wakes, _, settled⟩ :=
        Kernel.complete_evolves wellformed done
      exact ⟨middle, (Kernel.wakes_keep wakes).1, settled⟩

theorem abandoned_of_settles (settles : machine.Settles (.abandon event) move)
    (wellformed : machine.kernel.Wellformed) :
    (machine.move move).kernel.events.state event = .abandoned := by
  obtain ⟨middle, _, settled⟩ := settles.exists_settle wellformed
  exact Events.abandoned_of_abandon (Kernel.exists_abandon settled)

theorem not_isClaimed_of_settles
    (settles : machine.Settles (.release event) move)
    (wellformed : machine.kernel.Wellformed) :
    (machine.move move).kernel.events.isClaimed event = false := by
  obtain ⟨middle, _, settled⟩ := settles.exists_settle wellformed
  exact Events.not_isClaimed_of_release (Kernel.exists_release settled)

/-! ### Who frees the slot -/

private theorem eq_of_mem_freed {errand : Errand} {verdict : Bool}
    {middle next : Kernel S} (same : middle.events = machine.kernel.events)
    (settled : middle.settle errand = (verdict, next))
    (inside : event.index ∈ errand.freed verdict)
    (claimed : machine.kernel.events.isClaimed event = true) :
    errand = .release event ∧ verdict = true := by
  cases errand with
  | release known =>
      obtain ⟨rfl, rfl⟩ := Events.eq_of_mem_freedIf inside claimed fun frees => by
        rw [frees] at settled
        rw [← same]
        exact Events.isClaimed_of_release (Kernel.exists_release settled)
      exact ⟨rfl, rfl⟩
  | kill | abandon => cases inside

private theorem settles_of_mem_freedByErrand {errand : Errand}
    {other : EventHandle} (wellformed : machine.kernel.Wellformed)
    (inside : event.index ∈ machine.kernel.freedByErrand other errand)
    (claimed : machine.kernel.events.isClaimed event = true) :
    errand = .release event ∧ ∃ kernel,
      machine.kernel.startErrand other errand = .ok (.answered true kernel) := by
  unfold Kernel.freedByErrand at inside
  split at inside
  · next verdict kernel done =>
      obtain ⟨middle, _, same, settled⟩ := Kernel.SettlesAtOnce.exists_settle
        (Kernel.startErrand_answered wellformed done)
      obtain ⟨rfl, rfl⟩ := eq_of_mem_freed same settled inside claimed
      exact ⟨rfl, kernel, done⟩
  · cases inside

private theorem frees_of_asked (wellformed : machine.kernel.Wellformed)
    {role : Role} {request : Request S} {reply : request.Reply}
    {rest : request.Reply → Program S (role.Result S)} {kernel : Kernel S}
    (control : machine.control = .body role (.ask request rest))
    (done : machine.kernel.perform role.task request =
      .ok (.answered reply kernel))
    (inside : event.index ∈ request.freed reply)
    (claimed : machine.kernel.events.isClaimed event = true) :
    machine.GivesBack event .step ∨ machine.Settles (.release event) .step := by
  cases request with
  | release known =>
      have started : machine.kernel.startErrand known (.release known) =
        .ok (.answered reply kernel) := done
      obtain ⟨middle, _, same, settled⟩ := Kernel.SettlesAtOnce.exists_settle
        (Kernel.startErrand_answered wellformed started)
      obtain ⟨equal, rfl⟩ := eq_of_mem_freed same settled inside claimed
      cases equal
      exact Or.inr (.askedRelease control done)
  | releaseAbandoned known =>
      cases done
      obtain ⟨rfl, _⟩ := Events.eq_of_mem_freedIf inside claimed fun frees =>
        Events.isClaimed_of_abandoned
          (Events.releaseAbandoned_eq_true_iff.mp frees)
      exact Or.inl (.request control)
  | _ => cases inside

private theorem frees_of_step (wellformed : machine.kernel.Wellformed)
    (inside : event.index ∈ machine.freedByStep)
    (abandoned : machine.kernel.events.state event = .abandoned) :
    machine.GivesBack event .step ∨ machine.Settles (.release event) .step := by
  have claimed := Events.isClaimed_of_abandoned abandoned
  unfold freedByStep at inside
  split at inside
  · next role request rest control =>
      split at inside
      · next reply kernel done =>
          exact frees_of_asked wellformed control done inside claimed
      · cases inside
  · next closing result control =>
      split at inside
      · next verdict kernel done =>
          obtain ⟨_, middle, wakes, _, settled⟩ :=
            Kernel.complete_evolves wellformed done
          obtain ⟨errand, rfl⟩ := eq_of_mem_freed
            (Kernel.wakes_keep wakes).1 settled inside claimed
          rw [← errand]
          exact Or.inr (.closed control done)
      · cases inside
  · next deadline control =>
      split at inside
      · next world interrupts woken =>
          split at inside
          · exact Or.inl (.asleep control woken
              (Events.mem_of_mem_freedByAll inside abandoned))
          · cases inside
      · cases inside
  · cases inside

/-- The slot of an abandoned event is freed only by giving the event back or by
a release of it. -/
theorem frees_of_mem_freedEvents (wellformed : machine.kernel.Wellformed)
    (inside : event.index ∈ machine.freedEvents move)
    (abandoned : machine.kernel.events.state event = .abandoned) :
    machine.GivesBack event move ∨ machine.Settles (.release event) move := by
  have claimed := Events.isClaimed_of_abandoned abandoned
  cases move with
  | step => exact frees_of_step wellformed inside abandoned
  | call call =>
      unfold freedEvents at inside
      dsimp only at inside
      split at inside
      · next idle =>
          cases call with
          | release known =>
              obtain ⟨equal, kernel, done⟩ :=
                settles_of_mem_freedByErrand wellformed inside claimed
              cases equal
              exact Or.inr (.calledRelease idle done)
          | abandon known =>
              -- To abandon an event frees no slot.
              obtain ⟨impossible, _⟩ :=
                settles_of_mem_freedByErrand wellformed inside claimed
              cases impossible
          | kill | stopHandler | run => cases inside
      · cases inside
  | operate operation =>
      unfold freedEvents at inside
      dsimp only at inside
      split at inside
      · next idle =>
          split at inside
          · next answer scheduler done =>
              cases operation with
              | releaseAbandoned known =>
                  cases done
                  obtain ⟨rfl, _⟩ := Events.eq_of_mem_freedIf inside claimed
                    fun frees => Events.isClaimed_of_abandoned
                      (Events.releaseAbandoned_eq_true_iff.mp frees)
                  exact Or.inl (.operation idle)
              | _ => cases inside
          · cases inside
      · cases inside
  | interrupt interrupt =>
      unfold freedEvents at inside
      dsimp only at inside
      split at inside
      · cases inside
      · split at inside
        · have gives := Events.eq_of_mem_freedBy inside abandoned
          subst gives
          exact Or.inl .interrupt
        · cases inside
  | outside world => cases inside

end Machine

/-! ### Kernels in which an event is out of use -/

namespace Kernel

variable {kernel : Kernel S} {event : EventHandle}

private theorem watch_of_disabled (disabled : kernel.events.isEnabled event = false)
    {task : TaskHandle} (alive : kernel.isAlive task = true) :
    kernel.watch event task = (.error .eventDisabled, kernel) := by
  have refused : kernel.watchers.watch kernel.events event task =
      .error .eventDisabled := by
    unfold WatcherMap.watch
    rw [disabled]
    rfl
  unfold isAlive at alive
  unfold watch
  split at alive
  · next state known =>
      rw [known]
      cases state with
      | dead exit => cases alive
      | active | suspended | timer =>
          dsimp only
          rw [refused]
  · cases alive

variable [Environment S.World]

/-- What the kernel answers to those who want to wait for an event that is out
of use, and who waits for it. -/
structure Shuns (kernel : Kernel S) (event : EventHandle) : Prop where
  registry : kernel.events.Withdrawn event
  /-- Nobody who is alive can watch the event. -/
  watch {task : TaskHandle} : kernel.isAlive task = true →
    kernel.watch event task = (.error .eventDisabled, kernel)
  /-- Nobody can wait for several events of which it is one. -/
  wait {task : TaskHandle} {events : List EventHandle} {deadline : Deadline}
    {poll : S.World → Option S.Answer × S.World} : event ∈ events →
      (kernel.wait task events deadline poll).1 = .error .eventDisabled
  handle (body : S.Body) (name : Option String) :
    kernel.handle event body name = .ok (.error .eventDisabled, kernel)
  watchers : (kernel.watchers.watchers event).toList = []
  /-- The event is not among those that are drained next. -/
  queue : event ∉ kernel.events.queue

/-- Nobody has to do with an event that is out of use. -/
theorem shuns_of_abandoned (related : kernel.Related)
    (consistent : kernel.events.Consistent)
    (abandoned : kernel.events.state event = .abandoned) :
    kernel.Shuns event := by
  have withdrawn := Events.withdrawn_of_abandoned abandoned
  constructor
  case registry => exact withdrawn
  case watch => exact watch_of_disabled withdrawn.isEnabled
  case wait =>
    intro task events deadline poll inside
    exact (kernel.attempt_of_wait task events deadline poll).disabled_iff.mpr
      ⟨event, inside, withdrawn.isEnabled⟩
  case handle =>
    intro body name
    unfold handle
    rw [withdrawn.isEnabled]
    rfl
  case watchers =>
    refine List.eq_nil_iff_forall_not_mem.mpr fun task inside => ?_
    exact Events.not_enabled_of_abandoned abandoned (related.enabled inside)
  case queue =>
    intro queued
    have enabled := consistent.isEnabled_of_mem queued
    rw [withdrawn.isEnabled] at enabled
    cases enabled

end Kernel

/-! ### Runs -/

namespace Run

variable [Application S] {run : Run S} {event : EventHandle}

/-- A move does not claim the slot of an abandoned event. -/
private theorem not_enabled_succ {count : Nat}
    (abandoned : (run.after count).kernel.events.state event = .abandoned) :
    ¬ (run.after (count + 1)).kernel.events.Enabled event.index := by
  have each {before after : Kernel S} {deed : Deed}
      (accounts : (run.after count).Accounts (run.moves count)
        (run.after (count + 1)) deed)
      (change : Kernel.Change before deed after)
      (disabled : ¬ before.events.Enabled event.index) :
      ¬ after.events.Enabled event.index := by
    intro enabled
    rcases (change.reshapes.enabled event.index).mp enabled with
      issued | ⟨already, _⟩
    · obtain ⟨claimed, issues, same⟩ := Option.map_eq_some_iff.mp issued
      have does := accounts.claims (by rw [issues]; exact Option.some_ne_none _)
      cases deed with
      | claims known =>
          cases issues
          obtain ⟨events, done, _⟩ := does.exists_claim
          exact (Events.withdrawn_of_abandoned abandoned).claim done same
      | _ => cases issues
    · exact disabled already
  exact (run.accounted count).keeps each
    (Events.not_enabled_of_abandoned abandoned)

/-- An abandoned event is given back, or released, or it stays abandoned. -/
theorem abandoned_succ {count : Nat}
    (abandoned : (run.after count).kernel.events.state event = .abandoned)
    (keeps : ¬ (run.after count).GivesBack event (run.moves count))
    (holds : ¬ (run.after count).Settles (.release event) (run.moves count)) :
    (run.after (count + 1)).kernel.events.state event = .abandoned := by
  have kept : event.index ∉ (run.after count).freedEvents (run.moves count) := by
    intro inside
    rcases Machine.frees_of_mem_freedEvents (run.wellformed count) inside
      abandoned with gives | releases
    · exact keeps gives
    · exact holds releases
  have frees := run.freesEvents count
  have slot := Events.slot_of_abandoned abandoned
  have used : ((run.after (count + 1)).kernel.events.slot event.index).state ≠
      .free := frees.claimed kept (by rw [slot]; exact nofun)
  have generation :
      ((run.after (count + 1)).kernel.events.slot event.index).generation =
        event.generation := by
    refine (frees.generation event.index).trans ?_
    rw [List.count_eq_zero.mpr kept, slot]
    simp
  have disabled := not_enabled_succ abandoned
  unfold Events.Enabled at disabled
  refine Events.abandoned_of_slot ?_
  generalize (run.after (count + 1)).kernel.events.slot event.index = known
    at used generation disabled
  cases known with
  | mk known state =>
      cases generation
      cases state with
      | free => exact absurd rfl used
      | enabled pending => exact absurd ⟨pending, rfl⟩ disabled
      | abandoned => rfl

/-- What becomes of abandoned events, seen from move `count` of a run. -/
structure KeepsAbandonedOutOfUse (run : Run S) (count : Nat) : Prop where
  /-- Who abandons an event with the verdict true takes it out of use. -/
  begins {event : EventHandle}
    (abandons :
      (run.after count).Settles (.abandon event) (run.moves count)) :
    (run.after (count + 1)).kernel.events.state event = .abandoned
  /-- An event that is out of use stays so, on the same claim of its slot, as
  long as it is neither given back nor released. -/
  lasts {event : EventHandle} {last : Nat} (later : count ≤ last)
    (abandoned : (run.after count).kernel.events.state event = .abandoned)
    (kept : ∀ move, count ≤ move → move < last →
      ¬ (run.after move).GivesBack event (run.moves move) ∧
        ¬ (run.after move).Settles (.release event) (run.moves move)) :
    (run.after last).kernel.events.state event = .abandoned
  /-- Nobody can claim its slot or wait for it, and nothing comes of its
  occurrences. -/
  shuns {event : EventHandle}
    (abandoned : (run.after count).kernel.events.state event = .abandoned) :
    (run.after count).kernel.Shuns event
  /-- A release that comes to its end frees the slot, be the event abandoned or
  not. -/
  ends {event : EventHandle}
    (releases :
      (run.after count).Settles (.release event) (run.moves count)) :
    (run.after (count + 1)).kernel.events.isClaimed event = false

/-- An abandoned event stays out of use until it is given back or released. -/
theorem keepsAbandonedOutOfUse (run : Run S) (count : Nat) :
    run.KeepsAbandonedOutOfUse count where
  begins abandons :=
    Machine.abandoned_of_settles abandons (run.wellformed count)
  lasts {event last} later abandoned kept := by
    induction last, later using Nat.le_induction with
    | base => exact abandoned
    | succ last later ih =>
        have before := ih fun move since early =>
          kept move since (early.trans (Nat.lt_succ_self last))
        have here := kept last later (Nat.lt_succ_self last)
        exact abandoned_succ before here.1 here.2
  shuns abandoned :=
    Kernel.shuns_of_abandoned (run.related count) (run.guarded count).consistent
      abandoned
  ends releases :=
    Machine.not_isClaimed_of_settles releases (run.wellformed count)

end Run

/-! ### A release of an abandoned event -/

/-- A handler whose close starts another one, and a handler that does nothing. -/
inductive Truant
  | returns (event : EventHandle)
  | stays

namespace Truant

abbrev signature : Signature :=
  ⟨Truant, Unit, Unit, Unit, Unit⟩

instance : Application signature where
  now _ := ⟨0⟩
  sleepUntil world _ := .stalled world
  record _ world := world
  resume body := .pure (.suspend, body)
  close
    | .returns event => .ask (.handle event .stays) fun _ => .pure ()
    | .stays => .pure ()

def event : EventHandle := ⟨0, 0⟩

/-- An event is claimed, abandoned and released, and then one is claimed
again. -/
def releasing : Run signature where
  world := ()
  moves
    | 0 => .operate .claim
    | 1 => .call (.abandon event)
    | 2 => .call (.release event)
    | _ => .operate .claim

/-- Nobody gives the abandoned event back, and its slot is claimed again all the
same. -/
theorem releasing_reclaims :
    (releasing.after 2).kernel.events.state event = .abandoned ∧
      (∀ move, ¬ (releasing.after move).GivesBack event
        (releasing.moves move)) ∧
      (releasing.after 3).kernel.events.state event = .free ∧
      (releasing.after 4).kernel.events.state ⟨event.index, 1⟩ =
        .enabled false := by
  refine ⟨by decide +kernel, fun move gives => ?_, by decide +kernel,
    by decide +kernel⟩
  match move, gives with
  | 0, gives | 1, gives | 2, gives | _ + 3, gives => cases gives

end Truant

end EventScheduler
