import EventScheduler.HandlerTask
import EventScheduler.Proofs.Marked

/-!
# What a handler task does with its callbacks

The loop of a handler task with a mark wherever a callback is called or fails.
However often its close is forwarded, it stops watching the event right before
it is done, and it is done once.
-/

namespace EventScheduler

variable {S : Signature} {Callbacks Result : Type}

namespace HandlerTask

/-- What happens with the callbacks of a handler task. -/
inductive Mark
  /-- The callback for an occurrence is called. -/
  | handle
  /-- It has failed. -/
  | failure
  /-- The callback for the end is called. -/
  | done
deriving DecidableEq

/-- How far a slice or a close has come. -/
inductive Stage
  /-- The callback for an occurrence was called. -/
  | handles
  /-- It has failed, or the task was killed, and the event is still to be
  unwatched. -/
  | stops
  /-- The callback for the end was called. -/
  | cleans

def closeTimes [EventHandler S Callbacks] :
    Nat → HandlerTask Callbacks → Program S Unit
  | 0, _ => pure ()
  | times + 1, loop => do
      let loop ← loop.close
      closeTimes times loop

/-! ### The loop with marks -/

section Marked

variable [EventHandler S Callbacks]

def markedFinish (loop : HandlerTask Callbacks) :
    Marked S Mark (HandlerTask Callbacks) :=
  if loop.finished then
    pure loop
  else do
    let _ ← Marked.ofProgram (Request.unwatch loop.event).send
    Marked.passes .done do
      let callbacks ← Marked.ofProgram (EventHandler.done loop.callbacks)
      return { loop with callbacks, finished := true }

def markedResume (loop : HandlerTask Callbacks) :
    Marked S Mark (S.Step × HandlerTask Callbacks) :=
  Marked.passes .handle do
    let (result, callbacks) ←
      Marked.ofProgram (EventHandler.handle loop.callbacks)
    let loop := { loop with callbacks }
    match result with
    | .ok () => return (.suspend, loop)
    | .error failure =>
        Marked.passes .failure do
          let loop ← loop.markedFinish
          return (.fail failure, loop)

def markedCloseTimes : Nat → HandlerTask Callbacks → Marked S Mark Unit
  | 0, _ => pure ()
  | times + 1, loop => do
      let loop ← loop.markedFinish
      markedCloseTimes times loop

theorem erase_markedFinish (loop : HandlerTask Callbacks) :
    (loop.markedFinish : Marked S Mark _).erase = loop.finish := by
  unfold markedFinish finish
  split
  · rfl
  · refine congrArg (Program.ask _) (funext fun _ => ?_)
    refine (Marked.erase_bind (.ofProgram (EventHandler.done loop.callbacks))
      _).trans ?_
    rw [Marked.erase_ofProgram]
    rfl

theorem erase_markedResume (loop : HandlerTask Callbacks) :
    (loop.markedResume : Marked S Mark _).erase = loop.resume := by
  unfold markedResume resume
  refine (Marked.erase_bind _ _).trans ?_
  rw [Marked.erase_ofProgram]
  refine congrArg (Program.bind _) (funext fun (result, callbacks) => ?_)
  cases result with
  | ok => rfl
  | error failure =>
      refine (Marked.erase_bind _ _).trans ?_
      rw [erase_markedFinish]
      rfl

theorem erase_markedCloseTimes (times : Nat) (loop : HandlerTask Callbacks) :
    (loop.markedCloseTimes times : Marked S Mark _).erase =
      loop.closeTimes times := by
  induction times generalizing loop with
  | zero => rfl
  | succ times ih =>
      refine (Marked.erase_bind _ _).trans ?_
      rw [erase_markedFinish]
      exact congrArg (Program.bind _) (funext ih)

end Marked

/-! ### What comes next -/

/-- From this stage on, what is left asks for nothing but what the callbacks ask
for, except that the event is unwatched right before the callback for the end is
called, and it ends as it should. -/
inductive Abides (event : EventHandle) (ends : Stage → Result → Prop) :
    Stage → Marked S Mark Result → Prop
  | ends {stage : Stage} {result : Result} (fits : ends stage result) :
      Abides event ends stage (.pure result)
  | asks {stage : Stage} {request : Request S}
      {next : request.Reply → Marked S Mark Result} (calls : stage ≠ .stops)
      (later : ∀ reply, Abides event ends stage (next reply)) :
      Abides event ends stage (.ask request next)
  | fails {rest : Marked S Mark Result}
      (later : Abides event ends .stops rest) :
      Abides event ends .handles (.passes .failure rest)
  | stops {rest : Bool → Marked S Mark Result}
      (later : ∀ reply, Abides event ends .cleans (rest reply)) :
      Abides event ends .stops
        (.ask (.unwatch event) fun reply => .passes .done (rest reply))

variable {event : EventHandle} {ends : Stage → Result → Prop} {stage : Stage}

/-- No mark comes before the next request but that the callback has failed. -/
theorem Abides.bare {program : Marked S Mark Result}
    (abides : Abides event ends stage program) :
    Abides event ends stage program.bare ∧ program.marks = [] ∨
      stage = .handles ∧ Abides event ends .stops program.bare ∧
        program.marks = [.failure] := by
  cases abides with
  | ends fits => exact Or.inl ⟨.ends fits, rfl⟩
  | asks calls later => exact Or.inl ⟨.asks calls later, rfl⟩
  | stops later => exact Or.inl ⟨.stops later, rfl⟩
  | fails later =>
      refine Or.inr ⟨rfl, ?_⟩
      cases later with
      | ends fits => exact ⟨.ends fits, rfl⟩
      | asks calls later => exact ⟨.asks calls later, rfl⟩
      | stops later => exact ⟨.stops later, rfl⟩

/-- A callback does what it likes. -/
theorem abides_ofProgram {First : Type} (program : Program S First)
    {next : First → Marked S Mark Result} (calls : stage ≠ .stops)
    (later : ∀ result, Abides event ends stage (next result)) :
    Abides event ends stage ((Marked.ofProgram program).bind next) := by
  induction program with
  | pure result => exact later result
  | ask request rest ih => exact .asks calls ih

section Loops

variable [EventHandler S Callbacks] {loop : HandlerTask Callbacks}

theorem abides_markedFinish (named : loop.event = event)
    (fresh : loop.finished = false)
    {next : HandlerTask Callbacks → Marked S Mark Result}
    (later : ∀ callbacks, Abides event ends .cleans
      (next { loop with callbacks, finished := true })) :
    Abides event ends .stops (loop.markedFinish.bind next) := by
  subst named
  unfold markedFinish
  rw [fresh]
  refine .stops fun _ => ?_
  change Abides loop.event ends .cleans (Marked.bind (Marked.bind _ _) next)
  rw [Marked.bind_assoc]
  exact abides_ofProgram _ (fun impossible => nomatch impossible) later

/-- If the callback for an occurrence does not fail, the loop goes on as before,
and if it fails, the task fails. -/
theorem exists_markedResume (named : loop.event = event)
    (fresh : loop.finished = false)
    {next : S.Step × HandlerTask Callbacks → Marked S Mark Result}
    (suspends : ∀ other : HandlerTask Callbacks, other.event = event →
      other.finished = false →
        Abides event ends .handles (next (.suspend, other)))
    (fails : ∀ failure other, Abides event ends .cleans
      (next (.fail failure, other))) :
    ∃ rest, loop.markedResume.bind next = .passes .handle rest ∧
      Abides event ends .handles rest := by
  refine ⟨_, rfl, ?_⟩
  change Abides event ends .handles (Marked.bind (Marked.bind _ _) next)
  rw [Marked.bind_assoc]
  refine abides_ofProgram _ (fun impossible => nomatch impossible)
    fun (result, callbacks) => ?_
  cases result with
  | ok => exact suspends _ named fresh
  | error failure =>
      refine .fails ?_
      change Abides event ends .stops (Marked.bind (Marked.bind _ _) next)
      rw [Marked.bind_assoc]
      have left : ({ loop with callbacks } : HandlerTask Callbacks).event =
          event := named
      exact abides_markedFinish left fresh fun _ => fails failure _

/-- A loop that has ended is not ended again. -/
theorem markedCloseTimes_of_finished (finished : loop.finished = true)
    (times : Nat) : (loop.markedCloseTimes times : Marked S Mark _) = .pure () := by
  induction times with
  | zero => rfl
  | succ times ih =>
      unfold markedCloseTimes markedFinish
      rw [finished]
      exact ih

theorem abides_markedCloseTimes {ends : Stage → Unit → Prop}
    (named : loop.event = event) (fresh : loop.finished = false)
    (ended : ends .cleans ()) (repeats : Nat) :
    Abides event ends .stops
      (loop.markedCloseTimes (repeats + 1) : Marked S Mark _) := by
  refine abides_markedFinish named fresh fun _ => ?_
  rw [markedCloseTimes_of_finished rfl]
  exact .ends ended

end Loops

end HandlerTask

/-! ### Bodies that are handler tasks -/

/-- How a handler task is part of a body, which forwards its slices and its close
to it. -/
structure Forwarding (S : Signature) [Application S] (Callbacks : Type)
    [EventHandler S Callbacks] where
  loop? : S.Body → Option (HandlerTask Callbacks)
  setLoop : S.Body → HandlerTask Callbacks → S.Body
  /-- How often a close is forwarded again. -/
  repeats : S.Body → Nat
  loop?_setLoop {body : S.Body} {loop : HandlerTask Callbacks}
    (other : HandlerTask Callbacks) : loop? body = some loop →
      loop? (setLoop body other) = some other
  resume {body : S.Body} {loop : HandlerTask Callbacks} :
    loop? body = some loop →
      Application.resume body = do
        let (step, loop) ← loop.resume
        return (step, setLoop body loop)
  close {body : S.Body} {loop : HandlerTask Callbacks} :
    loop? body = some loop →
      Application.close body = loop.closeTimes (repeats body + 1)

namespace Forwarding

variable [Application S] [EventHandler S Callbacks]
  (forwarding : Forwarding S Callbacks)

def marking : Marking S HandlerTask.Mark where
  resume body :=
    match forwarding.loop? body with
    | some loop => do
        let (step, loop) ← loop.markedResume
        return (step, forwarding.setLoop body loop)
    | none => .ofProgram (Application.resume body)
  close body :=
    match forwarding.loop? body with
    | some loop => loop.markedCloseTimes (forwarding.repeats body + 1)
    | none => .ofProgram (Application.close body)
  erase_resume body := by
    split
    · next loop known =>
        refine (Marked.erase_bind _ _).trans ?_
        rw [HandlerTask.erase_markedResume, forwarding.resume known]
        rfl
    · exact Marked.erase_ofProgram _
  erase_close body := by
    split
    · next loop known =>
        rw [HandlerTask.erase_markedCloseTimes, forwarding.close known]
    · exact Marked.erase_ofProgram _

end Forwarding

end EventScheduler
