import KeyEnvelope.Proofs.Operation

/-!
# Operations side by side

Two operations run side by side, each in surroundings of its own. They come to a common goal
if both succeed or both fail, with results and states that are related, and if the same is
seen of both runs: what is seen of a run is what is seen of its requests, one after the other.
-/

namespace KeyEnvelope

/-- What is seen of a run, given what is seen of a request in a state. -/
def Procedure.observe {I : Interface} {σ ν α : Type}
    (serve : (request : I.Request) → σ → I.Answer request × σ) (see : I.Request → σ → List ν) :
    Procedure I α → σ → List ν
  | done _, _ => []
  | ask request resume, state =>
    let (answer, next) := serve request state
    see request state ++ (resume answer).observe serve see next

theorem Procedure.observe_bind {I : Interface} {σ ν α β : Type}
    {serve : (request : I.Request) → σ → I.Answer request × σ} {see : I.Request → σ → List ν}
    (procedure : Procedure I α) (next : α → Procedure I β) (state : σ) :
    (procedure.bind next).observe serve see state =
      procedure.observe serve see state ++
        (next (procedure.run serve state).1).observe serve see (procedure.run serve state).2 := by
  induction procedure generalizing state with
  | done value => rfl
  | ask request resume inductionHypothesis =>
    refine Eq.trans (congrArg (see request state ++ ·) (inductionHypothesis _ _)) ?_
    exact (List.append_assoc _ _ _).symm

/-- Both results are values that are related, or both are failures that are. -/
inductive Paired {α β : Type} (values : α → β → Prop) (failures : Failure → Failure → Prop) :
    Except Failure α → Except Failure β → Prop where
  | ok {value other} : values value other → Paired values failures (.ok value) (.ok other)
  | error {failure other} :
    failures failure other → Paired values failures (.error failure) (.error other)

theorem Paired.mono {α β : Type} {values weaker : α → β → Prop}
    {failures weakerFailures : Failure → Failure → Prop}
    {result : Except Failure α} {other : Except Failure β}
    (paired : Paired values failures result other)
    (implies : ∀ value other, values value other → weaker value other)
    (impliesFailures : ∀ failure other, failures failure other → weakerFailures failure other) :
    Paired weaker weakerFailures result other := by
  cases paired with
  | ok alike => exact .ok (implies _ _ alike)
  | error alike => exact .error (impliesFailures _ _ alike)

/-- What holds of pairs of either sort holds whichever it is. -/
theorem Paired.split {α β : Type} {values : α → β → Prop} {failures : Failure → Failure → Prop}
    {common : Prop} {result : Except Failure α} {other : Except Failure β}
    (paired : Paired (fun value other => values value other ∧ common)
      (fun failure other => failures failure other ∧ common) result other) :
    Paired values failures result other ∧ common := by
  cases paired with
  | ok alike => exact ⟨.ok alike.1, alike.2⟩
  | error alike => exact ⟨.error alike.1, alike.2⟩

theorem Paired.refl {α : Type} (result : Except Failure α) : Paired Eq Eq result result := by
  cases result with
  | error failure => exact .error rfl
  | ok value => exact .ok rfl

/-- The surroundings of two runs, and what is seen of the requests of each. -/
structure Pairing (D E σ τ ν : Type) where
  serve : (request : Surroundings.Request D) → σ → Surroundings.Answer request × σ
  serveOther : (request : Surroundings.Request E) → τ → Surroundings.Answer request × τ
  see : Surroundings.Request D → σ → List ν
  seeOther : Surroundings.Request E → τ → List ν

namespace Pairing

variable {D E σ τ ν α β γ δ : Type} (pairing : Pairing D E σ τ ν)
  (values : α → β → σ → τ → Prop) (failures : Failure → Failure → σ → τ → Prop)

/-- Both operations succeed with values that are related in the states that they lead to, or both
fail with failures that are, and the same is seen of both. -/
def Meets (operation : Operation D α) (other : Operation E β) (state : σ) (otherState : τ) :
    Prop :=
  let ran := operation.run.run pairing.serve state
  let otherRan := other.run.run pairing.serveOther otherState
  Paired (fun value otherValue => values value otherValue ran.2 otherRan.2)
      (fun failure otherFailure => failures failure otherFailure ran.2 otherRan.2)
      ran.1 otherRan.1 ∧
    operation.run.observe pairing.serve pairing.see state =
      other.run.observe pairing.serveOther pairing.seeOther otherState

variable {pairing values failures} {operation : Operation D α} {other : Operation E β}
  {state : σ} {otherState : τ}

theorem Meets.mono {weaker : α → β → σ → τ → Prop}
    {weakerFailures : Failure → Failure → σ → τ → Prop}
    (meets : pairing.Meets values failures operation other state otherState)
    (implies : ∀ value other state otherState,
      values value other state otherState → weaker value other state otherState)
    (impliesFailures : ∀ failure other state otherState,
      failures failure other state otherState → weakerFailures failure other state otherState) :
    pairing.Meets weaker weakerFailures operation other state otherState :=
  ⟨meets.1.mono (fun _ _ => implies _ _ _ _) (fun _ _ => impliesFailures _ _ _ _), meets.2⟩

theorem meets_pure {value : α} {otherValue : β} (alike : values value otherValue state otherState) :
    pairing.Meets values failures (pure value) (pure otherValue) state otherState :=
  ⟨.ok alike, rfl⟩

theorem meets_throw {failure otherFailure : Failure}
    (alike : failures failure otherFailure state otherState) :
    pairing.Meets values failures (throw failure) (throw otherFailure) state otherState :=
  ⟨.error alike, rfl⟩

/-- Whatever comes after both operations, it is enough to know how they ended. -/
theorem Meets.andThen {middle : α → β → σ → τ → Prop}
    {middleFailures : Failure → Failure → σ → τ → Prop} {values : γ → δ → σ → τ → Prop}
    {next : Except Failure α → Operation D γ} {otherNext : Except Failure β → Operation E δ}
    (first : pairing.Meets middle middleFailures operation other state otherState)
    (succeeded : ∀ value other state otherState, middle value other state otherState →
      pairing.Meets values failures (next (.ok value)) (otherNext (.ok other)) state otherState)
    (failed : ∀ failure other state otherState, middleFailures failure other state otherState →
      pairing.Meets values failures (next (.error failure)) (otherNext (.error other))
        state otherState) :
    pairing.Meets values failures (operation.andThen next) (other.andThen otherNext)
      state otherState := by
  obtain ⟨paired, seen⟩ := first
  have later : pairing.Meets values failures (next (operation.run.run pairing.serve state).1)
      (otherNext (other.run.run pairing.serveOther otherState).1)
      (operation.run.run pairing.serve state).2
      (other.run.run pairing.serveOther otherState).2 := by
    generalize (operation.run.run pairing.serve state).1 = result at paired ⊢
    generalize (other.run.run pairing.serveOther otherState).1 = otherResult at paired ⊢
    cases paired with
    | ok alike => exact succeeded _ _ _ _ alike
    | error alike => exact failed _ _ _ _ alike
  have split : (operation.andThen next).run =
      operation.run.bind fun result => (next result).run := rfl
  have otherSplit : (other.andThen otherNext).run =
      other.run.bind fun result => (otherNext result).run := rfl
  simp only [Meets, split, otherSplit, Procedure.run_bind, Procedure.observe_bind, seen]
  exact ⟨later.1, congrArg (_ ++ ·) later.2⟩

theorem Meets.bind {middle : α → β → σ → τ → Prop} {values : γ → δ → σ → τ → Prop}
    {next : α → Operation D γ} {otherNext : β → Operation E δ}
    (first : pairing.Meets middle failures operation other state otherState)
    (rest : ∀ value other state otherState, middle value other state otherState →
      pairing.Meets values failures (next value) (otherNext other) state otherState) :
    pairing.Meets values failures (operation >>= next) (other >>= otherNext) state otherState := by
  show pairing.Meets values failures
    (operation.andThen fun result => ExceptT.mk (ExceptT.bindCont next result))
    (other.andThen fun result => ExceptT.mk (ExceptT.bindCont otherNext result)) state otherState
  exact first.andThen rest fun _ _ _ _ alike => meets_throw alike

end Pairing

end KeyEnvelope
