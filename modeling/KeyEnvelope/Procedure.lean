/-!
# Procedures

A procedure is a finite tree of requests: it is done, or it asks for something and
goes on with the answer. What the answers are is decided by whoever runs it, one
request at a time, so that the steps of several procedures can also be interleaved.
-/

namespace KeyEnvelope

/-- The requests that a procedure may make and what answers each of them. -/
structure Interface where
  Request : Type
  Answer : Request → Type

inductive Procedure (I : Interface) (α : Type) where
  | done (value : α)
  | ask (request : I.Request) (resume : I.Answer request → Procedure I α)

namespace Procedure

variable {I : Interface} {α β σ : Type}

def bind : Procedure I α → (α → Procedure I β) → Procedure I β
  | done value, next => next value
  | ask request resume, next => ask request fun answer => (resume answer).bind next

instance : Monad (Procedure I) where
  pure := done
  bind := bind

def request (request : I.Request) : Procedure I (I.Answer request) :=
  ask request done

def run (serve : (request : I.Request) → σ → I.Answer request × σ) : Procedure I α → σ → α × σ
  | done value, state => (value, state)
  | ask request resume, state =>
    let (answer, next) := serve request state
    (resume answer).run serve next

end Procedure

end KeyEnvelope
