import KeyEnvelope.Proofs.Calls
import KeyEnvelope.Strategy.Filling

/-!
# Parameters are filled in at once

A strategy sets fields only when nothing can fail any more. Filling in parameters is
therefore the same as performing the operation on a copy of them and taking the whole
copy over if it succeeds.
-/

namespace KeyEnvelope

namespace Filling

variable {Draft α : Type}

/-- Takes over what an operation makes of the parameters, if it succeeds. -/
def atOnce (operation : Parameters → Operation Draft Parameters) : Filling Draft Unit := do
  let outcome ← ofOperation (operation (← get))
  set fun _ => outcome

/-- The result of a filling, with the parameters after it. -/
def takeOver (parameters : Parameters) :
    Except Failure Parameters → Except Failure Unit × Parameters
  | .ok outcome => (.ok (), outcome)
  | .error failure => (.error failure, parameters)

/-- Started from the parameters, a filling asks for what the operation asks for, and
takes its outcome over. -/
def TakesOver (filling : Filling Draft Unit) (operation : Operation Draft Parameters)
    (parameters : Parameters) : Prop :=
  filling.start parameters = operation.run.bind fun result => .done (takeOver parameters result)

variable {parameters : Parameters}

theorem TakesOver.get {next : Parameters → Filling Draft Unit}
    {operation : Operation Draft Parameters}
    (takesOver : TakesOver (next parameters) operation parameters) :
    TakesOver (get >>= next) operation parameters := takesOver

theorem TakesOver.bind {operation : Operation Draft α} {next : α → Filling Draft Unit}
    {rest : α → Operation Draft Parameters}
    (takesOver : ∀ value, TakesOver (next value) (rest value) parameters) :
    TakesOver (ofOperation operation >>= next) (operation >>= rest) parameters := by
  refine (Procedure.bind_assoc _ _ _).trans
    (Eq.trans (congrArg _ (funext fun result => ?_)) (Procedure.bind_assoc _ _ _).symm)
  cases result with
  | error failure => rfl
  | ok value => exact takesOver value

theorem takesOver_atOnce (operation : Parameters → Operation Draft Parameters) :
    TakesOver (atOnce operation) (operation parameters) parameters := by
  apply TakesOver.get
  refine (Procedure.bind_assoc _ _ _).trans (congrArg _ (funext fun result => ?_))
  cases result <;> rfl

theorem eq_atOnce {filling : Filling Draft Unit}
    {operation : Parameters → Operation Draft Parameters}
    (takesOver : ∀ parameters, TakesOver filling (operation parameters) parameters) :
    filling = atOnce operation :=
  funext fun parameters => (takesOver parameters).trans (takesOver_atOnce operation).symm

theorem takesOver_throw (failure : Failure) :
    TakesOver (throw failure : Filling Draft Unit) (throw failure) parameters := rfl

theorem takesOver_set (change : Parameters → Parameters) :
    TakesOver (set change : Filling Draft Unit) (pure (change parameters)) parameters := rfl

end Filling

namespace Strategy

open Filling

variable {Draft : Type}

theorem wrapInto_eq_atOnce (registry : KeyWrap.Registry) :
    (wrapInto registry : Filling Draft Unit) = atOnce (wrap registry) := by
  apply eq_atOnce
  intro parameters
  unfold wrapInto wrap wrapPlanned
  -- The steps of both are the same, up to the end where the fields are set one by one.
  apply TakesOver.get
  apply TakesOver.bind
  intro plan
  apply TakesOver.bind
  intro created
  apply TakesOver.bind
  intro kek
  apply TakesOver.bind
  intro wrapped
  rfl

theorem unwrapInto_eq_atOnce (registry : KeyWrap.Registry) :
    (unwrapInto registry : Filling Draft Unit) = atOnce (unwrap registry) := by
  apply eq_atOnce
  intro parameters
  unfold unwrapInto unwrap
  apply TakesOver.get
  apply TakesOver.bind
  intro path
  cases given : parameters.encryptedKey with
  | none => exact takesOver_throw _
  | some wrapped =>
    apply TakesOver.bind
    intro replication
    apply TakesOver.bind
    intro found
    cases found with
    | false => exact TakesOver.bind fun _ => takesOver_throw _
    | true =>
      apply TakesOver.bind
      intro kek
      apply TakesOver.bind
      intro key
      rw [← given]
      exact takesOver_set _

theorem encryptInto_eq_atOnce (strategy : Strategy) :
    (strategy.encryptInto : Filling Draft Unit) = atOnce fun parameters =>
      strategy.encrypt parameters := by
  cases strategy with
  | enveloping registry => exact wrapInto_eq_atOnce registry
  | passing => rfl

theorem decryptInto_eq_atOnce (strategy : Strategy) :
    (strategy.decryptInto : Filling Draft Unit) = atOnce fun parameters =>
      strategy.decrypt parameters := by
  cases strategy with
  | enveloping registry => exact unwrapInto_eq_atOnce registry
  | passing => rfl

end Strategy

/-- What a filling leads to in a store: the parameters as it leaves them count also if it
fails. -/
structure Filled (α σ : Type) where
  result : Except Failure α
  parameters : Parameters
  state : σ

namespace Storage.Client

def fill (client : Client) (conditions : Conditions) {α : Type} (filling : Filling client.Draft α)
    (parameters : Parameters) (state : client.State) : Filled α client.State :=
  let ((result, filled), (next, _)) := (filling.start parameters).run
    (client.attend conditions.source) (state, conditions.disturbances)
  ⟨result, filled, next⟩

variable {client : Client} {conditions : Conditions}
  {operation : Parameters → Operation client.Draft Parameters} {parameters : Parameters}
  {state : client.State}

theorem fill_atOnce :
    client.fill conditions (Filling.atOnce operation) parameters state =
      let performed := client.perform conditions (operation parameters) state
      let filled := Filling.takeOver parameters performed.1
      ⟨filled.1, filled.2, performed.2⟩ := by
  have started : (Filling.atOnce operation).start parameters = _ :=
    Filling.takesOver_atOnce operation
  simp only [fill, perform, started, Procedure.run_bind]
  rfl

theorem fill_encryptInto (strategy : Strategy) :
    client.fill conditions strategy.encryptInto parameters state =
      let performed := client.perform conditions (strategy.encrypt parameters) state
      let filled := Filling.takeOver parameters performed.1
      ⟨filled.1, filled.2, performed.2⟩ := by
  rw [Strategy.encryptInto_eq_atOnce]
  exact fill_atOnce

theorem fill_decryptInto (strategy : Strategy) :
    client.fill conditions strategy.decryptInto parameters state =
      let performed := client.perform conditions (strategy.decrypt parameters) state
      let filled := Filling.takeOver parameters performed.1
      ⟨filled.1, filled.2, performed.2⟩ := by
  rw [Strategy.decryptInto_eq_atOnce]
  exact fill_atOnce

/-- Taking the outcome over asks for nothing more. -/
theorem exchanges_atOnce :
    client.exchanges conditions ((Filling.atOnce operation).start parameters) state =
      client.exchanges conditions (operation parameters).run state := by
  have started : (Filling.atOnce operation).start parameters = _ :=
    Filling.takesOver_atOnce operation
  simp only [exchanges, started, Procedure.trace_bind, Procedure.trace_done, List.append_nil]

end Storage.Client

end KeyEnvelope
