import KeyEnvelope.Proofs.Procedure

/-!
# Traces

The trace of a run holds its requests with their answers. It is the one history, among
all that a procedure could have, that the run makes come about; so what is known of all
histories under a contract is known of the trace. A record holds what the requests of a run do,
each in its state.
-/

namespace KeyEnvelope.Procedure

variable {I : Interface} {α β σ τ : Type}
  {serve : (request : I.Request) → σ → I.Answer request × σ}

def trace (serve : (request : I.Request) → σ → I.Answer request × σ) :
    Procedure I α → σ → List (Exchange I)
  | done _, _ => []
  | ask request resume, state =>
    let (answer, next) := serve request state
    ⟨request, answer⟩ :: (resume answer).trace serve next

@[simp]
theorem trace_done (value : α) (state : σ) :
    (done value : Procedure I α).trace serve state = [] := rfl

theorem trace_bind (procedure : Procedure I α) (next : α → Procedure I β) (state : σ) :
    (procedure.bind next).trace serve state =
      procedure.trace serve state ++
        (next (procedure.run serve state).1).trace serve (procedure.run serve state).2 := by
  induction procedure generalizing state with
  | done value => rfl
  | ask request resume inductionHypothesis =>
    exact congrArg (List.cons _) (inductionHypothesis _ _)

theorem leads_trace (procedure : Procedure I α) (state : σ) :
    procedure.Leads (procedure.trace serve state) (done (procedure.run serve state).1) := by
  induction procedure generalizing state with
  | done value => exact .nil
  | ask request resume inductionHypothesis => exact .cons (inductionHypothesis _ _)

theorem Asks.trace {allowed : I.Request → Prop} {procedure : Procedure I α}
    (asks : procedure.Asks allowed) (state : σ) :
    ∀ exchange ∈ procedure.trace serve state, allowed exchange.1 :=
  asks.leads (leads_trace procedure state)

/-- What the requests of a run keep one by one, the run keeps. -/
theorem run_keeps {allowed : I.Request → Prop} (held : σ → Prop)
    (keeps : ∀ request state, allowed request → held state → held (serve request state).2)
    {procedure : Procedure I α} {state : σ}
    (traced : ∀ exchange ∈ procedure.trace serve state, allowed exchange.1)
    (holds : held state) : held (procedure.run serve state).2 := by
  induction procedure generalizing state with
  | done value => exact holds
  | ask request resume inductionHypothesis =>
    obtain ⟨permitted, later⟩ := List.forall_mem_cons.mp traced
    exact inductionHypothesis _ later (keeps request state permitted holds)

/-- A run under a contract comes to the goal in a state to which its trace leads. -/
theorem Meets.trace {contract : Contract I τ} {goal : α → τ → Prop} {relates : σ → τ → Prop}
    (keeps : ∀ request state ghost, contract.permits request → relates state ghost →
      ∃ next, contract.serves request ghost (serve request state).1 next ∧
        relates (serve request state).2 next)
    {procedure : Procedure I α} (state : σ) {ghost : τ} (related : relates state ghost)
    (meets : procedure.Meets contract goal ghost) :
    ∃ next, contract.Follows ghost (procedure.trace serve state) next ∧
      goal (procedure.run serve state).1 next := by
  induction procedure generalizing state ghost with
  | done value => exact ⟨ghost, .nil, meets⟩
  | ask request resume inductionHypothesis =>
    obtain ⟨next, served, nextRelated⟩ := keeps request state ghost meets.1 related
    obtain ⟨final, follows, met⟩ := inductionHypothesis _ _ nextRelated (meets.2 _ next served)
    exact ⟨final, .cons served follows, met⟩

/-- What each request of a run is said to do in the state in which it is made. -/
def record {γ : Type} (serve : (request : I.Request) → σ → I.Answer request × σ)
    (does : I.Request → σ → List γ) : Procedure I α → σ → List γ
  | done _, _ => []
  | ask request resume, state =>
    let (answer, next) := serve request state
    does request state ++ (resume answer).record serve does next

/-- A run keeps to a contract together with its record. -/
theorem Meets.record {γ : Type} {contract : Contract I τ} {goal : α → τ → Prop}
    {does : I.Request → σ → List γ} {relates : σ → List γ → τ → Prop}
    (keeps : ∀ request state done ghost, contract.permits request → relates state done ghost →
      ∃ next, contract.serves request ghost (serve request state).1 next ∧
        relates (serve request state).2 (done ++ does request state) next)
    {procedure : Procedure I α} (state : σ) {done : List γ} {ghost : τ}
    (related : relates state done ghost) (meets : procedure.Meets contract goal ghost) :
    ∃ next, goal (procedure.run serve state).1 next ∧
      relates (procedure.run serve state).2 (done ++ procedure.record serve does state) next := by
  induction procedure generalizing state done ghost with
  | done value => exact ⟨ghost, meets, by rwa [Procedure.record, List.append_nil]⟩
  | ask request resume inductionHypothesis =>
    obtain ⟨next, served, nextRelated⟩ := keeps request state done ghost meets.1 related
    have later := inductionHypothesis _ _ nextRelated (meets.2 _ next served)
    rwa [List.append_assoc] at later

end KeyEnvelope.Procedure
