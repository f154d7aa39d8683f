import Mathlib.Tactic.TypeStar

/-!
# Programs that talk to shared services

A program is a tree of requests. What a service answers, a result or a failure,
selects the rest. `Program.run` follows a program on its own, when one function
performs every request.
-/

namespace OnePersonLab.Lib

/-- What a program may ask for, and what it may be answered. -/
structure Interface where
  Request : Type
  Response : Request → Type
  Failure : Type

/-- The answer to a request: a response, or a failure to catch or pass on. -/
abbrev Interface.Answer (I : Interface) (request : I.Request) : Type :=
  Except I.Failure (I.Response request)

inductive Program (I : Interface) (α : Type) where
  | done (outcome : Except I.Failure α)
  | request (request : I.Request) (next : I.Answer request → Program I α)

namespace Program

variable {I : Interface} {α β : Type}

def bind (f : α → Program I β) : Program I α → Program I β
  | .done (.ok value) => f value
  | .done (.error failure) => .done (.error failure)
  | .request asked next => .request asked fun answer => (next answer).bind f

def tryCatch (handler : I.Failure → Program I α) : Program I α → Program I α
  | .done (.ok value) => .done (.ok value)
  | .done (.error failure) => handler failure
  | .request asked next => .request asked fun answer => (next answer).tryCatch handler

instance : Monad (Program I) where
  pure value := .done (.ok value)
  bind program f := program.bind f

instance : MonadLift (Except I.Failure) (Program I) where
  monadLift outcome := .done outcome

instance : MonadExceptOf I.Failure (Program I) where
  throw failure := .done (.error failure)
  tryCatch program handler := program.tryCatch handler

/-- Ask, and pass the answer on. -/
def call (request : I.Request) : Program I (I.Response request) :=
  .request request .done

theorem pure_def (value : α) : (pure value : Program I α) = .done (.ok value) := rfl

theorem bind_def (program : Program I α) (f : α → Program I β) :
    program >>= f = program.bind f := rfl

theorem tryCatch_def (program : Program I α) (handler : I.Failure → Program I α) :
    MonadExcept.tryCatch program handler = program.tryCatch handler := rfl

theorem throw_def (failure : I.Failure) :
    (throw failure : Program I α) = .done (.error failure) := rfl

theorem lift_def (outcome : Except I.Failure α) :
    (liftM outcome : Program I α) = .done outcome := rfl

@[simp] theorem ok_bind (value : α) (f : α → Program I β) :
    (.done (.ok value) : Program I α) >>= f = f value := rfl

@[simp] theorem error_bind (failure : I.Failure) (f : α → Program I β) :
    (.done (.error failure) : Program I α) >>= f = .done (.error failure) := rfl

@[simp] theorem request_bind (asked : I.Request) (next : I.Answer asked → Program I α)
    (f : α → Program I β) :
    Program.request asked next >>= f = .request asked fun answer => next answer >>= f := rfl

section Run

variable {World : Type*} (perform : World → (request : I.Request) → World × I.Answer request)

/-- Follow the program on its own from a world. -/
def run : Program I α → World → World × Except I.Failure α
  | .done outcome, world => (world, outcome)
  | .request asked next, world =>
    (next (perform world asked).2).run (perform world asked).1

variable {perform}

@[simp] theorem run_done (outcome : Except I.Failure α) (world : World) :
    (.done outcome : Program I α).run perform world = (world, outcome) := rfl

@[simp] theorem run_call (asked : I.Request) (world : World) :
    (call asked).run perform world = perform world asked := rfl

end Run

end Program

end OnePersonLab.Lib
