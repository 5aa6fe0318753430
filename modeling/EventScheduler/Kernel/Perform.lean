import EventScheduler.Kernel.Kill

/-!
# Serving the requests of a body

`Kernel.perform` says what each request of a body does to the kernel and what
it answers.
-/

namespace EventScheduler

namespace Kernel

variable {S : Signature} [Environment S.World]

/-- Answer a request without changing the kernel. -/
def answer {Reply : Type} (kernel : Kernel S) (reply : Reply) :
    Except Fault (Started S Reply) :=
  .ok (.answered reply kernel)

def answerWith {Reply : Type} (result : Reply × Kernel S) :
    Except Fault (Started S Reply) :=
  .ok (.answered result.1 result.2)

def answerFrom {Reply : Type} (kernel : Kernel S) (result : Reply × Events) :
    Except Fault (Started S Reply) :=
  .ok (.answered result.1 { kernel with events := result.2 })

def answerClaim (kernel : Kernel S) :
    Except Error (EventHandle × Events) →
      Except Fault (Started S (Except Error EventHandle))
  | .error error => kernel.answer (.error error)
  | .ok (event, events) => kernel.answerFrom (.ok event, events)

/-- Serve one request of the task `current`. -/
def perform (kernel : Kernel S) (current : TaskHandle) :
    (request : Request S) → Except Fault (Started S request.Reply)
  | .current => kernel.answer current
  | .now => kernel.answer kernel.now
  | .load => kernel.answer kernel.world
  | .store world => answer { kernel with world } ()
  | .start body name => do answerWith (← kernel.start body name)
  | .resume task =>
      if task = current then kernel.answer false
      else do answerWith (← kernel.resume task)
  | .kill task =>
      if task = current then kernel.answer (.error .selfKill)
      else kernel.startKill task
  | .join task => answerWith (kernel.join task current)
  | .isAlive task => kernel.answer (kernel.isAlive task)
  | .isWaiting task => kernel.answer (kernel.isWaiting task)
  | .state task => kernel.answer (kernel.tasks.state task)
  | .name task => kernel.answer (kernel.name task)
  | .claim => kernel.answerClaim kernel.events.claim
  | .claimInto cell => kernel.answerFrom (kernel.events.claimInto cell)
  | .release event => kernel.startRelease event
  | .abandon event => kernel.startAbandon event
  | .releaseAbandoned event =>
      kernel.answerFrom (kernel.events.releaseAbandoned event)
  | .setPending event => do
      kernel.answerFrom (← kernel.events.setPending event)
  | .isEnabled event => kernel.answer (kernel.events.isEnabled event)
  | .isPending event => kernel.answer (kernel.events.isPending event)
  | .queued => kernel.answer kernel.events.queued
  | .handle event body => do answerWith (← kernel.handle event body none)
  | .handler event => kernel.answer (kernel.handlers.get? event)
  | .stopHandler event => kernel.startStop event
  | .watch event => answerWith (kernel.watch event current)
  | .unwatch event => answerWith (kernel.unwatch event current)
  | .wait events deadline poll =>
      answerWith (kernel.wait current events deadline poll)

end Kernel

end EventScheduler
