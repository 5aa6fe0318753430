import EventScheduler.Scenario.Body
import EventScheduler.Scheduler.Machine
import EventScheduler.Scheduler.Operations

/-!
# Sessions

A session gives a scheduler one command after the other and keeps, for each,
the reply, the notes it left, and the scheduler as it was afterwards.
-/

namespace EventScheduler.Scenario

/-- What comes of a command: a reply or a fault, and the scheduler. -/
abbrev Outcome : Type := Except Fault Reply × Scheduler scripted

namespace Session

def reply (scheduler : Scheduler scripted) (reply : Reply) : Outcome :=
  (.ok reply, scheduler)

def replyTo {α : Type} (answer : α → Reply)
    (result : α × Scheduler scripted) : Outcome :=
  (.ok (answer result.1), result.2)

def replyOr {α : Type} (answer : α → Reply)
    (result : Except Error α × Scheduler scripted) : Outcome :=
  replyTo (Reply.ofExcept answer) result

def guarded {α : Type} (scheduler : Scheduler scripted)
    (result : Except Fault α) (answer : α → Outcome) : Outcome :=
  match result with
  | .ok value => answer value
  | .error fault => (.error fault, scheduler)

/-- Reply to the start of a task, which gets a name if it succeeded. -/
def replyStarted (name : String) :
    Except Error TaskHandle × Scheduler scripted → Outcome
  | (.error error, scheduler) => reply scheduler (.refused error)
  | (.ok task, scheduler) =>
      reply (scheduler.modifyWorld fun world => world.bindTask name task)
        (.task (some task))

def replyClaimed (name : String) :
    Except Error EventHandle × Scheduler scripted → Outcome
  | (.error error, scheduler) => reply scheduler (.refused error)
  | (.ok event, scheduler) =>
      reply (scheduler.modifyWorld fun world => world.bindEvent name event)
        (.event (some event))

/-- The reply of an operation that ran bodies, given the deadlines it slept
for. -/
def conclude (machine : Machine scripted) : Except Fault Reply :=
  let sleeps := machine.kernel.world.clock.sleeps.reverse
  match machine.control with
  | .concluded (.answered answer) => .ok (Reply.ofExcept .flag answer)
  | .concluded (.ended (some value)) => .ok (.ran (.shutdown value) sleeps)
  | .concluded (.ended none) => .ok (.ran .done sleeps)
  | .stalled => .ok (.ran .idle sleeps)
  | .faulted fault => .error fault
  | _ => .ok .unfinished

def call (budget : Nat) (scheduler : Scheduler scripted) (call : Call) :
    Outcome :=
  let machine := (Machine.launch scheduler call).run budget
  (conclude machine, machine.toScheduler)

def withTask (scheduler : Scheduler scripted) (name : String)
    (act : TaskHandle → Outcome) : Outcome :=
  match scheduler.kernel.world.findTask none name with
  | some task => act task
  | none => reply scheduler .unbound

def withEvent (scheduler : Scheduler scripted) (name : String)
    (act : EventHandle → Outcome) : Outcome :=
  match scheduler.kernel.world.events.lookup name with
  | some event => act event
  | none => reply scheduler .unbound

def withBody (scheduler : Scheduler scripted) (script : Script)
    (act : Body → Option String → Outcome) : Outcome :=
  match script.build scheduler.kernel.world with
  | some (body, name) => act body name
  | none => reply scheduler .unbound

/-- Mark the events of several names pending.  Answers which of them were
queued; an event without a handle is passed over. -/
def markPending (scheduler : Scheduler scripted) :
    List String →
      Except Fault (List (Option Bool) × Scheduler scripted)
  | [] => .ok ([], scheduler)
  | name :: rest =>
      match scheduler.kernel.world.events.lookup name with
      | some event => do
          let (queued, scheduler) ← scheduler.setPending event
          let (flags, scheduler) ← markPending scheduler rest
          return (some queued :: flags, scheduler)
      | none => do
          let (flags, scheduler) ← markPending scheduler rest
          return (none :: flags, scheduler)

def operate (budget : Nat) (scheduler : Scheduler scripted)
    (operation : Operation) : Outcome :=
  let kernel := scheduler.kernel
  match operation with
  | .start task script => withBody scheduler script fun body name =>
      guarded scheduler (scheduler.start body name) (replyStarted task)
  | .resume task => withTask scheduler task fun task =>
      guarded scheduler (scheduler.resume task) (replyTo .flag)
  | .kill task => withTask scheduler task fun task =>
      call budget scheduler (.kill task)
  | .join task => withTask scheduler task fun task =>
      reply scheduler (Reply.ofExcept .joined (scheduler.join task))
  | .alive task => withTask scheduler task fun task =>
      reply scheduler (.flag (kernel.isAlive task))
  | .waiting task => withTask scheduler task fun task =>
      reply scheduler (.flag (kernel.isWaiting task))
  | .state task => withTask scheduler task fun task =>
      reply scheduler (Reply.ofExcept .state (scheduler.state task))
  | .name task => withTask scheduler task fun task =>
      reply scheduler (.text (kernel.name task))
  | .claim event => replyClaimed event scheduler.claim
  | .claimInto event =>
      let cell := kernel.world.events.lookup event
      let (claim, scheduler) := scheduler.claimInto cell
      replyClaimed event (claim.answer, scheduler)
  | .release event => withEvent scheduler event fun event =>
      call budget scheduler (.release event)
  | .abandon event => withEvent scheduler event fun event =>
      call budget scheduler (.abandon event)
  | .releaseAbandoned event => withEvent scheduler event fun event =>
      replyTo .flag (scheduler.releaseAbandoned event)
  | .setPending event => withEvent scheduler event fun event =>
      guarded scheduler (scheduler.setPending event) (replyTo .flag)
  | .setPendingAll events =>
      guarded scheduler (markPending scheduler events) (replyTo .flags)
  | .enabled event => withEvent scheduler event fun event =>
      reply scheduler (.flag (kernel.events.isEnabled event))
  | .pending event => withEvent scheduler event fun event =>
      reply scheduler (.flag (kernel.events.isPending event))
  | .queued => reply scheduler (.count kernel.events.queued)
  | .handler event => withEvent scheduler event fun event =>
      reply scheduler (.task (scheduler.handler event))
  | .stopHandler event => withEvent scheduler event fun event =>
      call budget scheduler (.stopHandler event)
  | .now => reply scheduler (.tick scheduler.now)
  | .advance count =>
      let now := scheduler.now.advance count
      reply (scheduler.modifyWorld fun world => world.setNow now) .nothing
  | .setClock tick =>
      reply (scheduler.modifyWorld fun world => world.setNow tick) .nothing
  | .set counter value =>
      let change (world : World) : World := world.setCounter counter value
      reply (scheduler.modifyWorld change) .nothing
  | .add counter value =>
      let change (world : World) : World :=
        world.setCounter counter (world.counter counter + value)
      reply (scheduler.modifyWorld change) .nothing

/-- Start, kill and reap a task a number of times.  Answers the last one. -/
def churnTask (budget : Nat) (scheduler : Scheduler scripted)
    (last : Option TaskHandle) : (count : Nat) → Outcome
  | 0 => reply scheduler (.task last)
  | count + 1 =>
      guarded scheduler (scheduler.start (.pauses [] 0) none) fun started =>
        match started with
        | (.error error, scheduler) => reply scheduler (.refused error)
        | (.ok task, scheduler) =>
            let killed := (call budget scheduler (.kill task)).2
            guarded killed (killed.reap task) fun reaped =>
              match reaped with
              | (.error error, scheduler) => reply scheduler (.refused error)
              | (.ok _, scheduler) =>
                  churnTask budget scheduler (some task) count

/-- Claim and release an event a number of times.  Answers the last one. -/
def churnEvent (budget : Nat) (scheduler : Scheduler scripted)
    (last : Option EventHandle) : (count : Nat) → Outcome
  | 0 => reply scheduler (.event last)
  | count + 1 =>
      match scheduler.claim with
      | (.error error, scheduler) => reply scheduler (.refused error)
      | (.ok event, scheduler) =>
          let released := (call budget scheduler (.release event)).2
          churnEvent budget released (some event) count

def perform (budget : Nat) (scheduler : Scheduler scripted) :
    Command → Outcome
  | .operation shared => operate budget scheduler shared
  | .current => reply scheduler (.task scheduler.kernel.running)
  | .live => reply scheduler (.count scheduler.live)
  | .reap task => withTask scheduler task fun task =>
      guarded scheduler (scheduler.reap task) (replyOr .exit)
  | .handle event task script => withEvent scheduler event fun event =>
      withBody scheduler script fun body name =>
        guarded scheduler (scheduler.handle event body name)
          (replyStarted task)
  | .watch event task => withEvent scheduler event fun event =>
      withTask scheduler task fun task =>
        replyOr (fun () => .accepted) (scheduler.watch event task)
  | .unwatch event task => withEvent scheduler event fun event =>
      withTask scheduler task fun task =>
        replyTo .flag (scheduler.unwatch event task)
  | .interrupt tick event => withEvent scheduler event fun event =>
      let change (world : World) : World :=
        { world with clock := world.clock.interruptAt tick event }
      reply (scheduler.modifyWorld change) .nothing
  | .forge task handle =>
      reply (scheduler.modifyWorld fun world => world.bindTask task handle)
        (.task (some handle))
  | .churnTask count => churnTask budget scheduler none count
  | .churnEvent count => churnEvent budget scheduler none count
  | .run =>
      let change (world : World) : World :=
        { world with clock := { world.clock with sleeps := [] } }
      call budget (scheduler.modifyWorld change) .run

/-- One command of a session after the fact. -/
structure Entry where
  result : Except Fault Reply
  /-- The notes that were made meanwhile. -/
  notes : List Note
  scheduler : Scheduler scripted

/-- Carry out a command and collect the notes it leaves. -/
def enter (budget : Nat) (scheduler : Scheduler scripted)
    (command : Command) : Entry :=
  let fresh := scheduler.modifyWorld fun world => { world with notes := [] }
  let (result, scheduler) := perform budget fresh command
  { result
    notes := scheduler.kernel.world.notes.reverse
    scheduler }

/-- Carry out commands in order, up to the first fault. -/
def play (budget : Nat) (scheduler : Scheduler scripted) :
    List Command → List Entry
  | [] => []
  | command :: rest =>
      let entry := enter budget scheduler command
      match entry.result with
      | .error _ => [entry]
      | .ok _ => entry :: play budget entry.scheduler rest

end Session

def initial (now : Tick) (scripts : Bindings Script) (recording : Bool) :
    Scheduler scripted :=
  .new
    { clock := .startingAt now
      tasks := []
      events := []
      counters := []
      scripts
      recording
      notes := [] }

end EventScheduler.Scenario
