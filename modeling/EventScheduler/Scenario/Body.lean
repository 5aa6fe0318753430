import EventScheduler.HandlerTask
import EventScheduler.Scenario.World

/-!
# Bodies of scripted tasks

A script is turned into a body when its task is started.  The body remembers
how far it has come, and its slices and its close are programs.
-/

namespace EventScheduler.Scenario

/-- The callbacks of a scripted handler task, with what they remember. -/
structure Callbacks where
  /-- The event, as it was when the task was started. -/
  event : EventHandle
  calls : List (List Action × Option String)
  /-- How many calls there were. -/
  count : Nat
  /-- What to do in the end. -/
  done : List Action

/-- A list of instructions with a position in it. -/
structure Routine where
  code : List Instruction
  /-- The instructions still to come in this pass. -/
  rest : List Instruction
  /-- How many passes follow this one; none if there are no instructions. -/
  passes : Nat
  /-- The deadline of the instruction that is being tried again. -/
  deadline : Option Deadline
  /-- What to do when the task is killed. -/
  close : Option (List Action)

/-- The body of a scripted task. -/
inductive Body
  /-- The steps still to come, and the value that follows. -/
  | pauses (steps : List (Step Int String)) (value : Int)
  /-- A handler task; `twice` makes a close run twice. -/
  | handler (loop : HandlerTask Callbacks) (twice : Bool)
  | routine (routine : Routine)

abbrev scripted : Signature where
  Body := Body
  Output := Int
  Failure := String
  World := World
  Answer := String

/-! ### From scripts to bodies -/

/-- The script that is stored under the name in place of which it stands.  A
name may stand for another one, at most `depth` times in a row. -/
def Script.resolve (world : World) :
    (depth : Nat) → Script → Option Script
  | 0, _ => none
  | depth + 1, .stored name =>
      match world.scripts.lookup name with
      | some script => script.resolve world depth
      | none => none
  | _ + 1, script => some script

/-- The body of a script, with the name of its task.  There is none if the
script names an event that has no handle.  Pauses are read at tick zero. -/
def Script.build (world : World) (script : Script) :
    Option (Body × Option String) :=
  match script.resolve world (world.scripts.length + 1) with
  | some (.pauses name list value) =>
      some (.pauses (list.map (Pause.step ⟨0⟩)) value, name)
  | some (.handler name event calls done twice) =>
      match world.events.lookup event with
      | some event =>
          let callbacks := { event, calls, count := 0, done }
          some (.handler (.new event callbacks) twice, name)
      | none => none
  | some (.routine name code repeats close) =>
      let passes := if code.isEmpty then 0 else repeats - 1
      some (.routine
        { code, rest := code, passes, deadline := none, close }, name)
  | some (.stored _) | none => none

/-! ### What bodies do -/

def note (about : TaskHandle → Note) : Program scripted Unit := do
  let task ← Request.current.send
  Program.modifyWorld fun world => world.note (about task)

def noteTime (about : TaskHandle → Tick → Note) : Program scripted Unit := do
  let now ← Request.now.send
  note fun task => about task now

def findTask (name : String) : Program scripted (Option TaskHandle) := do
  let task ← Request.current.send
  return (← Request.load.send).findTask task name

def withTask (name : String) (act : TaskHandle → Program scripted Reply) :
    Program scripted Reply := do
  match ← findTask name with
  | some task => act task
  | none => return .unbound

def withEvent (name : String) (act : EventHandle → Program scripted Reply) :
    Program scripted Reply := do
  match (← Request.load.send).events.lookup name with
  | some event => act event
  | none => return .unbound

def Reply.ofExcept {α : Type} (accepted : α → Reply) :
    Except Error α → Reply
  | .ok value => accepted value
  | .error error => .refused error

def bindStarted (name : String) :
    Except Error TaskHandle → Program scripted Reply
  | .error error => return .refused error
  | .ok task => do
      Program.modifyWorld fun world => world.bindTask name task
      return .task (some task)

def bindClaimed (name : String) :
    Except Error EventHandle → Program scripted Reply
  | .error error => return .refused error
  | .ok event => do
      Program.modifyWorld fun world => world.bindEvent name event
      return .event (some event)

def markPending :
    List String → Program scripted (List (Option Bool))
  | [] => return []
  | name :: rest => do
      let world ← Request.load.send
      let flag ←
        match world.events.lookup name with
        | some event => do
            let queued ← (Request.setPending event).send
            pure (some queued)
        | none => pure none
      return flag :: (← markPending rest)

def findEvents (world : World) (names : List String) :
    Option (List EventHandle) :=
  names.mapM fun name => world.events.lookup name

def tryWait (names : List String) (deadline : Deadline)
    (condition : Condition) : Program scripted Reply := do
  match findEvents (← Request.load.send) names with
  | none => return .unbound
  | some events =>
      let outcome ← (Request.wait events deadline fun world : World =>
        (world.answer? condition, world)).send
      return Reply.ofExcept .waited outcome

/-- What an operation does when a task does it. -/
def Operation.program : Operation → Program scripted Reply
  | .start task script => do
      match script.build (← Request.load.send) with
      | none => return .unbound
      | some (body, title) =>
          bindStarted task (← (Request.start body title).send)
  | .resume task => withTask task fun task => do
      return .flag (← (Request.resume task).send)
  | .kill task => withTask task fun task => do
      return Reply.ofExcept .flag (← (Request.kill task).send)
  | .join task => withTask task fun task => do
      return Reply.ofExcept .joined (← (Request.join task).send)
  | .alive task => withTask task fun task => do
      return .flag (← (Request.isAlive task).send)
  | .waiting task => withTask task fun task => do
      return .flag (← (Request.isWaiting task).send)
  | .state task => withTask task fun task => do
      return Reply.ofExcept .state (← (Request.state task).send)
  | .name task => withTask task fun task => do
      return .text (← (Request.name task).send)
  | .claim event => do
      bindClaimed event (← Request.claim.send)
  | .claimInto event => do
      let cell := (← Request.load.send).events.lookup event
      bindClaimed event (← (Request.claimInto cell).send).answer
  | .release event => withEvent event fun event => do
      return .flag (← (Request.release event).send)
  | .abandon event => withEvent event fun event => do
      return .flag (← (Request.abandon event).send)
  | .releaseAbandoned event => withEvent event fun event => do
      return .flag (← (Request.releaseAbandoned event).send)
  | .setPending event => withEvent event fun event => do
      return .flag (← (Request.setPending event).send)
  | .setPendingAll events => do
      return .flags (← markPending events)
  | .enabled event => withEvent event fun event => do
      return .flag (← (Request.isEnabled event).send)
  | .pending event => withEvent event fun event => do
      return .flag (← (Request.isPending event).send)
  | .queued => do
      return .count (← Request.queued.send)
  | .handler event => withEvent event fun event => do
      return .task (← (Request.handler event).send)
  | .stopHandler event => withEvent event fun event => do
      return Reply.ofExcept .flag (← (Request.stopHandler event).send)
  | .now => do
      return .tick (← Request.now.send)
  | .advance count => do
      Program.modifyWorld fun world =>
        world.setNow (world.clock.now.advance count)
      return .nothing
  | .setClock tick => do
      Program.modifyWorld fun world => world.setNow tick
      return .nothing
  | .set counter value => do
      Program.modifyWorld fun world => world.setCounter counter value
      return .nothing
  | .add counter value => do
      Program.modifyWorld fun world =>
        world.setCounter counter (world.counter counter + value)
      return .nothing

def Action.program : Action → Program scripted Reply
  | .operation shared => shared.program
  | .current => do
      return .task (some (← Request.current.send))
  | .after count => do
      return .deadline (.after (← Request.now.send) count)
  | .handle event task script => withEvent event fun event => do
      match script.build (← Request.load.send) with
      | none => return .unbound
      | some (body, _) =>
          bindStarted task (← (Request.handle event body).send)
  | .watch event => withEvent event fun event => do
      let result ← (Request.watch event).send
      return Reply.ofExcept (fun () => .accepted) result
  | .unwatch event => withEvent event fun event => do
      return .flag (← (Request.unwatch event).send)
  | .waitOnce events moment condition => do
      let now ← Request.now.send
      tryWait events (moment.deadline now) condition

/-- Do an action and note what came of it. -/
def Action.run (action : Action) : Program scripted Unit := do
  let reply ← action.program
  note fun task => .reply task action.word reply

def runActions : List Action → Program scripted Unit
  | [] => return ()
  | action :: rest => do
      action.run
      runActions rest

instance : EventHandler scripted Callbacks where
  handle callbacks := do
    let count := callbacks.count + 1
    note fun task => .call task callbacks.event count
    match callbacks.calls with
    | [] => return (.ok (), { callbacks with count })
    | (actions, failure) :: calls =>
        runActions actions
        let callbacks := { callbacks with count, calls }
        match failure with
        | some failure => return (.error failure, callbacks)
        | none => return (.ok (), callbacks)
  done callbacks := do
    noteTime .done
    runActions callbacks.done
    return callbacks

namespace Routine

def goTo (routine : Routine) (passes : Nat) (rest : List Instruction)
    (deadline : Option Deadline) : Routine :=
  { routine with passes, rest, deadline }

/--
Follow instructions until one gives control back.  Answers nothing if none of
them does.  `deadline` belongs to the first instruction, if it is being tried
again.
-/
def follow (routine : Routine) (passes : Nat) :
    (deadline : Option Deadline) → List Instruction →
      Program scripted (Option (Step Int String × Routine))
  | _, [] => return none
  | _, .pause pause :: rest => do
      let now ← Request.now.send
      return some (pause.step now, routine.goTo passes rest none)
  | _, .act action :: rest => do
      action.run
      routine.follow passes none rest
  | _, .joinWait task :: rest => do
      let reply ← (Operation.join task).program
      note fun current => .reply current "join_wait" reply
      if reply = .joined .pending then
        return some
          (.suspend, routine.goTo passes (.joinWait task :: rest) none)
      else
        routine.follow passes none rest
  | deadline, .wait events moment condition :: rest => do
      let now ← Request.now.send
      let deadline := deadline.getD (moment.deadline now)
      let reply ← tryWait events deadline condition
      note fun current => .reply current "wait" reply
      if reply = .waited .pending then
        return some (.park (some deadline),
          routine.goTo passes (.wait events moment condition :: rest)
            (some deadline))
      else
        routine.follow passes none rest

/-- Go through all instructions until one gives control back, but no more than
`passes` times, and then end. -/
def repeatCode (routine : Routine) :
    (passes : Nat) → Program scripted (Step Int String × Routine)
  | 0 => return (.finish 0, routine.goTo 0 [] none)
  | passes + 1 => do
      match ← routine.follow passes none routine.code with
      | some slice => return slice
      | none => routine.repeatCode passes

def resume (routine : Routine) :
    Program scripted (Step Int String × Routine) := do
  noteTime .turn
  match ← routine.follow routine.passes routine.deadline routine.rest with
  | some slice => return slice
  | none => routine.repeatCode routine.passes

end Routine

instance : Application scripted where
  resume
    | .pauses [] value => return (.finish value, .pauses [] value)
    | .pauses (step :: steps) value => return (step, .pauses steps value)
    | .handler loop twice => do
        let (step, loop) ← loop.resume
        return (step, .handler loop twice)
    | .routine routine => do
        let (step, routine) ← routine.resume
        return (step, .routine routine)
  close
    | .pauses _ _ => return ()
    | .handler loop twice => do
        let loop ← loop.close (S := scripted)
        if twice then
          let _ ← loop.close (S := scripted)
          return ()
    | .routine routine =>
        match routine.close with
        | some actions => do
            noteTime .close
            runActions actions
        | none => return ()

end EventScheduler.Scenario
