import EventScheduler.Program

/-!
# Programs with marks

What a body does in one slice is a tree of requests, in which nothing shows
where one of its parts begins.  A marked program is such a tree with marks in
between the requests.  The marks do nothing: without them it is a program again.
-/

namespace EventScheduler

/-- A program with marks in between its requests. -/
inductive Marked (S : Signature) (Mark Result : Type)
  | pure (result : Result)
  | ask (request : Request S) (next : request.Reply → Marked S Mark Result)
  /-- Pass a mark. -/
  | passes (mark : Mark) (rest : Marked S Mark Result)

namespace Marked

variable {S : Signature} {Mark Result First Second : Type}

def erase : Marked S Mark Result → Program S Result
  | .pure result => .pure result
  | .ask request next => .ask request fun reply => (next reply).erase
  | .passes _ rest => rest.erase

def ofProgram : Program S Result → Marked S Mark Result
  | .pure result => .pure result
  | .ask request next => .ask request fun reply => ofProgram (next reply)

def bind (first : Marked S Mark First) (next : First → Marked S Mark Second) :
    Marked S Mark Second :=
  match first with
  | .pure result => next result
  | .ask request rest => .ask request fun reply => (rest reply).bind next
  | .passes mark rest => .passes mark (rest.bind next)

instance : Monad (Marked S Mark) where
  pure := Marked.pure
  bind := Marked.bind

def marks : Marked S Mark Result → List Mark
  | .passes mark rest => mark :: rest.marks
  | _ => []

/-- What is left when the marks before the first request have been passed. -/
def bare : Marked S Mark Result → Marked S Mark Result
  | .passes _ rest => rest.bare
  | program => program

def isBare : Marked S Mark Result → Bool
  | .passes _ _ => false
  | _ => true

@[simp]
theorem erase_ofProgram (program : Program S Result) :
    (ofProgram program : Marked S Mark Result).erase = program := by
  induction program with
  | pure result => rfl
  | ask request next ih => exact congrArg (Program.ask request) (funext ih)

theorem erase_bind (first : Marked S Mark First)
    (next : First → Marked S Mark Second) :
    (first.bind next).erase =
      first.erase.bind fun result => (next result).erase := by
  induction first with
  | pure result => rfl
  | ask request rest ih => exact congrArg (Program.ask request) (funext ih)
  | passes mark rest ih => exact ih

theorem bind_assoc {Third : Type} (program : Marked S Mark First)
    (next : First → Marked S Mark Second)
    (last : Second → Marked S Mark Third) :
    (program.bind next).bind last =
      program.bind fun result => (next result).bind last := by
  induction program with
  | pure result => rfl
  | ask request rest ih => exact congrArg (Marked.ask request) (funext ih)
  | passes mark rest ih => exact congrArg (Marked.passes mark) ih

@[simp]
theorem erase_bare (program : Marked S Mark Result) :
    program.bare.erase = program.erase := by
  induction program with
  | passes mark rest ih => exact ih
  | _ => rfl

@[simp]
theorem isBare_bare (program : Marked S Mark Result) :
    program.bare.isBare = true := by
  induction program with
  | passes mark rest ih => exact ih
  | _ => rfl

theorem eq_pure_of_erase {program : Marked S Mark Result} {result : Result}
    (bare : program.isBare = true) (erased : program.erase = .pure result) :
    program = .pure result := by
  cases program with
  | pure => exact congrArg Marked.pure (Program.pure.inj erased)
  | ask => cases erased
  | passes => cases bare

theorem exists_ask_of_erase {program : Marked S Mark Result}
    {request : Request S} {next : request.Reply → Program S Result}
    (bare : program.isBare = true) (erased : program.erase = .ask request next) :
    ∃ rest, program = .ask request rest ∧
      ∀ reply, (rest reply).erase = next reply := by
  cases program with
  | pure => cases erased
  | ask _ rest =>
      cases erased
      exact ⟨rest, rfl, fun _ => rfl⟩
  | passes => cases bare

end Marked

/-- How the programs of all bodies are marked. -/
structure Marking (S : Signature) [Application S] (Mark : Type) where
  resume : S.Body → Marked S Mark (S.Step × S.Body)
  close : S.Body → Marked S Mark Unit
  erase_resume (body : S.Body) : (resume body).erase = Application.resume body
  erase_close (body : S.Body) : (close body).erase = Application.close body

end EventScheduler
