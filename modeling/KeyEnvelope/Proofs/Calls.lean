import KeyEnvelope.Proofs.Operation
import KeyEnvelope.Proofs.Procedure.Trace
import KeyEnvelope.Strategy

/-!
# Calls on a store

Calls of strategies and key stores come one after the other. Each has a random
source of its own, and while it goes on its requests to the store may fail, or a
check may overlook a record that is there. Whatever befalls a request befalls it
instead of being served: a draft that was to be published then is discarded.
-/

namespace KeyEnvelope

/-- What may befall a request to a store. -/
inductive Disturbance where
  | fault (error : SystemError)
  /-- A record that is there is not seen. -/
  | oversight

/-- What a call finds when it is made. -/
structure Conditions where
  source : Randomness.Source
  /-- What befalls the requests to the store, in their order; later ones are left
  alone. -/
  disturbances : List (Option Disturbance)

namespace Storage.Client

/-- Fails with an error of the system; only that a draft cannot be published has an
effect. -/
def fail (client : Client) (error : SystemError) :
    (request : Request client.Draft) → client.State → Answer request × client.State
  | .contains _, state => (.error (.system error), state)
  | .create _ _, state => (.error (.system error), state)
  | .write _ _, state => (.error (.system error), state)
  | .publish draft, state => (.error (.system error), (client.serve (.discard draft) state).state)
  | .discard draft, state => ((), (client.serve (.discard draft) state).state)
  | .openRecord _, state => (.error (.system error), state)
  | .read _ _, state => (.error (.system error), state)

def handle (client : Client) (request : Request client.Draft) (state : client.State) :
    Answer request × client.State :=
  let served := client.serve request state
  (served.answer, served.state)

/-- Says of every record that there is none. -/
def overlook (client : Client) :
    (request : Request client.Draft) → client.State → Answer request × client.State
  | .contains _, state => (.ok false, state)
  | request, state => client.handle request state

def handleDisturbed (client : Client) :
    Option Disturbance → (request : Request client.Draft) → client.State →
      Answer request × client.State
  | none => client.handle
  | some (.fault error) => client.fail error
  | some .oversight => client.overlook

/-- Serves what an operation asks for, and counts off what befalls its requests to
the store. -/
def attend (client : Client) (source : Randomness.Source) :
    (request : Surroundings.Request client.Draft) → client.State × List (Option Disturbance) →
      Surroundings.Answer request × (client.State × List (Option Disturbance))
  | .storage request, (state, disturbances) =>
    let (answer, next) := client.handleDisturbed disturbances.head?.join request state
    (answer, (next, disturbances.tail))
  | .draw generator count, surroundings => (source generator count, surroundings)
  | .note _, surroundings => ((), surroundings)

/-- The result of an operation, and the store after it. -/
def perform (client : Client) (conditions : Conditions) {α : Type}
    (operation : Operation client.Draft α) (state : client.State) :
    Except Failure α × client.State :=
  let (result, (next, _)) :=
    operation.run.run (client.attend conditions.source) (state, conditions.disturbances)
  (result, next)

/-- What a procedure asks its surroundings for, each request with its answer. -/
def exchanges (client : Client) (conditions : Conditions) {α : Type}
    (procedure : Procedure (Surroundings.interface client.Draft) α) (state : client.State) :
    List (Exchange (Surroundings.interface client.Draft)) :=
  procedure.trace (client.attend conditions.source) (state, conditions.disturbances)

end Storage.Client

open Storage

inductive Call where
  | encrypt (registry : KeyWrap.Registry) (parameters : Parameters)
  | decrypt (registry : KeyWrap.Registry) (parameters : Parameters)
  | contains (path : Text)
  | ensure (generator : Randomness.Generator) (replication : Int) (path : Text) (bits : Int)
  | load (path : Text)

namespace Call

def Result : Call → Type
  | encrypt _ _ | decrypt _ _ => Parameters
  | contains _ | ensure _ _ _ _ => Bool
  | load _ => Bytes

def operation {Draft : Type} : (call : Call) → Operation Draft call.Result
  | encrypt registry parameters => (Strategy.enveloping registry).encrypt parameters
  | decrypt registry parameters => (Strategy.enveloping registry).decrypt parameters
  | contains path => KeyStore.contains path
  | ensure generator replication path bits => KeyStore.ensure generator replication path bits
  | load path => KeyStore.load path

end Call

/-- The store after calls that are made one after the other, each under its own
conditions. -/
def Storage.Client.performAll (client : Client) (calls : List (Call × Conditions))
    (state : client.State) : client.State :=
  calls.foldl
    (fun state (call, conditions) => (client.perform conditions call.operation state).2) state

def Storage.Client.exchangesAll (client : Client) :
    List (Call × Conditions) → client.State → List (Exchange (Surroundings.interface client.Draft))
  | [], _ => []
  | (call, conditions) :: rest, state =>
    client.exchanges conditions call.operation.run state ++
      client.exchangesAll rest (client.perform conditions call.operation state).2

/-- An operation comes to its goal if every request is served as the contract says,
whatever befalls it. -/
theorem Storage.Client.perform_meets (client : Client) {α τ : Type}
    {contract : Contract (Surroundings.interface client.Draft) τ}
    {relates : client.State → τ → Prop}
    {goal : Except Failure α → τ → Prop} {conditions : Conditions}
    (storage : ∀ disturbance (request : Request client.Draft) state ghost,
      contract.permits (.storage request) → relates state ghost →
      ∃ next, contract.serves (.storage request) ghost
        (client.handleDisturbed disturbance request state).1 next ∧
        relates (client.handleDisturbed disturbance request state).2 next)
    (draws : ∀ generator count state ghost, relates state ghost →
      ∃ next, contract.serves (.draw generator count) ghost
        (conditions.source generator count) next ∧ relates state next)
    (notes : ∀ event state ghost, relates state ghost →
      ∃ next, contract.serves (.note event) ghost () next ∧ relates state next)
    {operation : Operation client.Draft α} {state : client.State} {ghost : τ}
    (related : relates state ghost) (meets : operation.Meets contract goal ghost) :
    ∃ next, goal (client.perform conditions operation state).1 next ∧
      relates (client.perform conditions operation state).2 next := by
  have keeps (request : Surroundings.Request client.Draft)
      (surroundings : client.State × List (Option Disturbance)) (ghost : τ)
      (permitted : contract.permits request) (related : relates surroundings.1 ghost) :
      ∃ next, contract.serves request ghost
        (client.attend conditions.source request surroundings).1 next ∧
        relates (client.attend conditions.source request surroundings).2.1 next := by
    cases request with
    | storage request =>
      exact storage surroundings.2.head?.join request surroundings.1 ghost permitted related
    | draw generator count => exact draws generator count surroundings.1 ghost related
    | note event => exact notes event surroundings.1 ghost related
  exact Procedure.Meets.run keeps (state, conditions.disturbances) related meets

section Sequence

variable {client : Client} {α β : Type} {conditions : Conditions}
  {operation : Operation client.Draft α} {next : α → Operation client.Draft β}
  {state after : client.State}

/-- What follows an operation is performed in the store that it leaves behind, with
what is left to befall it. -/
theorem Storage.Client.perform_bind_of_ok {value : α}
    (performed : client.perform conditions operation state = (.ok value, after)) :
    ∃ later : Conditions, client.perform conditions (operation >>= next) state =
      client.perform later (next value) after := by
  have split : (operation >>= next).run = operation.run.bind (ExceptT.bindCont next) := rfl
  rcases ran : operation.run.run (client.attend conditions.source)
      (state, conditions.disturbances) with ⟨result, reached, disturbances⟩
  simp only [perform, ran, Prod.mk.injEq] at performed
  obtain ⟨rfl, rfl⟩ := performed
  refine ⟨⟨conditions.source, disturbances⟩, ?_⟩
  simp only [perform, split, Procedure.run_bind, ran]
  rfl

theorem Storage.Client.perform_bind_of_error {failure : Failure}
    (performed : client.perform conditions operation state = (.error failure, after)) :
    client.perform conditions (operation >>= next) state = (.error failure, after) := by
  have split : (operation >>= next).run = operation.run.bind (ExceptT.bindCont next) := rfl
  rcases ran : operation.run.run (client.attend conditions.source)
      (state, conditions.disturbances) with ⟨result, reached, disturbances⟩
  simp only [perform, ran, Prod.mk.injEq] at performed
  obtain ⟨rfl, rfl⟩ := performed
  simp only [perform, split, Procedure.run_bind, ran]
  rfl

end Sequence

end KeyEnvelope
