import EventScheduler.Environment
import EventScheduler.Task.State

/-!
# Programs of tasks

What a body does in one slice, or while it is closed, is a program: a tree of
requests to the kernel that branches on the answers.  Programs are finite along
every branch, so a body always gives control back.
-/

namespace EventScheduler

/-- What a body can ask of the kernel. -/
inductive Request (S : Signature)
  /-- The handle of the task itself. -/
  | current
  /-- The time that the last dispatch saw. -/
  | now
  /-- The world outside. -/
  | load
  /-- Replace the world outside. -/
  | store (world : S.World)
  | start (body : S.Body) (name : Option String)
  | resume (task : TaskHandle)
  | kill (task : TaskHandle)
  /-- Learn how a task ended, or be resumed when it does. -/
  | join (task : TaskHandle)
  | isAlive (task : TaskHandle)
  | isWaiting (task : TaskHandle)
  | state (task : TaskHandle)
  | name (task : TaskHandle)
  | claim
  /-- Claim an event into a cell. -/
  | claimInto (cell : Option EventHandle)
  | release (event : EventHandle)
  /-- Hand an event over to whoever is outside the tasks. -/
  | abandon (event : EventHandle)
  | releaseAbandoned (event : EventHandle)
  | setPending (event : EventHandle)
  /-- Whether an event can be watched. -/
  | isEnabled (event : EventHandle)
  | isPending (event : EventHandle)
  | queued
  | handle (event : EventHandle) (body : S.Body)
  | handler (event : EventHandle)
  | stopHandler (event : EventHandle)
  /-- Be resumed whenever an event becomes pending. -/
  | watch (event : EventHandle)
  | unwatch (event : EventHandle)
  /-- Try once to get an answer to a condition, or else watch the events. -/
  | wait (events : List EventHandle) (deadline : Deadline)
      (poll : S.World → Option S.Answer × S.World)

/-- What the kernel answers to a request. -/
abbrev Request.Reply {S : Signature} : Request S → Type
  | .current => TaskHandle
  | .now => Tick
  | .load => S.World
  | .store _ => Unit
  | .start _ _ => Except Error TaskHandle
  | .resume _ => Bool
  | .kill _ => Except Error Bool
  | .join _ => Except Error (Readiness S.Exit)
  | .isAlive _ => Bool
  | .isWaiting _ => Bool
  | .state _ => Except Error S.State
  | .name _ => Option String
  | .claim => Except Error EventHandle
  | .claimInto _ => CellClaim
  | .release _ => Bool
  | .abandon _ => Bool
  | .releaseAbandoned _ => Bool
  | .setPending _ => Bool
  | .isEnabled _ => Bool
  | .isPending _ => Bool
  | .queued => Nat
  | .handle _ _ => Except Error TaskHandle
  | .handler _ => Option TaskHandle
  | .stopHandler _ => Except Error Bool
  | .watch _ => Except Error Unit
  | .unwatch _ => Bool
  | .wait _ _ _ => Except Error (Readiness (Option S.Answer))

/-- A tree of requests that ends in a result. -/
inductive Program (S : Signature) (Result : Type)
  | pure (result : Result)
  /-- Ask the kernel, and go on with its answer. -/
  | ask (request : Request S) (next : request.Reply → Program S Result)

def Request.send {S : Signature} (request : Request S) :
    Program S request.Reply :=
  .ask request .pure

namespace Program

variable {S : Signature} {First Second : Type}

def bind (first : Program S First) (next : First → Program S Second) :
    Program S Second :=
  match first with
  | .pure result => next result
  | .ask request rest => .ask request fun reply => (rest reply).bind next

instance : Monad (Program S) where
  pure := Program.pure
  bind := Program.bind

theorem bind_pure (program : Program S First) :
    program.bind .pure = program := by
  induction program with
  | pure result => rfl
  | ask request rest ih => simp [Program.bind, ih]

theorem bind_assoc {Third : Type} (program : Program S First)
    (next : First → Program S Second) (last : Second → Program S Third) :
    (program.bind next).bind last =
      program.bind fun result => (next result).bind last := by
  induction program with
  | pure result => rfl
  | ask request rest ih => simp [Program.bind, ih]

instance : LawfulMonad (Program S) :=
  LawfulMonad.mk' (Program S) bind_pure (fun _ _ => rfl) bind_assoc

def modifyWorld (change : S.World → S.World) : Program S Unit := do
  let world ← Request.load.send
  (Request.store (change world)).send

end Program

/-- How the bodies of an application behave. -/
class Application (S : Signature) extends Environment S.World where
  /-- Run one slice.  The body that comes back is kept for the next one. -/
  resume : S.Body → Program S (S.Step × S.Body)
  close : S.Body → Program S Unit

end EventScheduler
