import KeyEnvelope.Proofs.Procedure
import KeyEnvelope.Surroundings

/-!
# Operations under contracts

An operation meets a goal under a contract step by step: every step has one rule,
which says what is left to show once it has been answered.
-/

namespace KeyEnvelope.Operation

variable {Draft σ α β : Type}

/-- The goal is about the result, be it a value or a failure, and the state after
it. -/
def Meets (contract : Contract (Surroundings.interface Draft) σ)
    (goal : Except Failure α → σ → Prop) (operation : Operation Draft α) (state : σ) : Prop :=
  Procedure.Meets contract goal operation.run state

variable {contract : Contract (Surroundings.interface Draft) σ}
  {goal : Except Failure α → σ → Prop} {state : σ}

theorem Meets.mono {weaker : Except Failure α → σ → Prop}
    (implies : ∀ result state, goal result state → weaker result state)
    {operation : Operation Draft α}
    (meets : operation.Meets contract goal state) : operation.Meets contract weaker state :=
  Procedure.Meets.mono implies meets

theorem Meets.and {other : Except Failure α → σ → Prop} {operation : Operation Draft α}
    (meets : operation.Meets contract goal state)
    (otherMeets : operation.Meets contract other state) :
    operation.Meets contract (fun result state => goal result state ∧ other result state) state :=
  Procedure.Meets.and meets otherMeets

@[simp]
theorem meets_pure {value : α} :
    (pure value : Operation Draft α).Meets contract goal state ↔ goal (.ok value) state := Iff.rfl

@[simp]
theorem meets_throw {failure : Failure} :
    (throw failure : Operation Draft α).Meets contract goal state ↔
      goal (.error failure) state := Iff.rfl

@[simp]
theorem meets_ofExcept {result : Except Failure α} :
    (ofExcept result : Operation Draft α).Meets contract goal state ↔ goal result state := Iff.rfl

@[simp]
theorem meets_bind {goal : Except Failure β → σ → Prop} {operation : Operation Draft α}
    {next : α → Operation Draft β} :
    (operation >>= next).Meets contract goal state ↔
      operation.Meets contract (fun result state =>
        match result with
        | .ok value => (next value).Meets contract goal state
        | .error failure => goal (.error failure) state) state := by
  refine (Procedure.meets_bind _ _ state).trans ⟨?_, ?_⟩
  all_goals
    refine Procedure.Meets.mono fun result state => ?_
    cases result <;> exact id

@[simp]
theorem meets_andThen {goal : Except Failure β → σ → Prop} {operation : Operation Draft α}
    {next : Except Failure α → Operation Draft β} :
    (operation.andThen next).Meets contract goal state ↔
      operation.Meets contract (fun result state =>
        (next result).Meets contract goal state) state :=
  Procedure.meets_bind _ _ state

@[simp]
theorem meets_note {event : Log.Event} {goal : Except Failure Unit → σ → Prop} :
    (note event : Operation Draft Unit).Meets contract goal state ↔
      contract.permits (.note event) ∧
        ∀ answer next, contract.serves (.note event) state answer next →
          goal (.ok ()) next := Iff.rfl

@[simp]
theorem meets_draw {generator : Randomness.Generator} {count : Nat}
    {goal : Except Failure Bytes → σ → Prop} :
    (draw generator count : Operation Draft Bytes).Meets contract goal state ↔
      contract.permits (.draw generator count) ∧
        ∀ answer next, contract.serves (.draw generator count) state answer next →
          goal answer next := Iff.rfl

@[simp]
theorem meets_contains {path : Text} {goal : Except Failure Bool → σ → Prop} :
    (contains path : Operation Draft Bool).Meets contract goal state ↔
      contract.permits (.storage (.contains path)) ∧
        ∀ answer next, contract.serves (.storage (.contains path)) state answer next →
          goal answer next := Iff.rfl

@[simp]
theorem meets_create {path : Text} {replication : Option Int}
    {goal : Except Failure Draft → σ → Prop} :
    (create path replication : Operation Draft Draft).Meets contract goal state ↔
      contract.permits (.storage (.create path replication)) ∧
        ∀ answer next, contract.serves (.storage (.create path replication)) state answer next →
          goal answer next := Iff.rfl

@[simp]
theorem meets_write {draft : Draft} {chunk : Bytes} {goal : Except Failure Draft → σ → Prop} :
    (write draft chunk).Meets contract goal state ↔
      contract.permits (.storage (.write draft chunk)) ∧
        ∀ answer next, contract.serves (.storage (.write draft chunk)) state answer next →
          goal answer next := Iff.rfl

@[simp]
theorem meets_publish {draft : Draft} {goal : Except Failure Unit → σ → Prop} :
    (publish draft).Meets contract goal state ↔
      contract.permits (.storage (.publish draft)) ∧
        ∀ answer next, contract.serves (.storage (.publish draft)) state answer next →
          goal answer next := Iff.rfl

@[simp]
theorem meets_discard {draft : Draft} {goal : Except Failure Unit → σ → Prop} :
    (discard draft).Meets contract goal state ↔
      contract.permits (.storage (.discard draft)) ∧
        ∀ answer next, contract.serves (.storage (.discard draft)) state answer next →
          goal (.ok ()) next := Iff.rfl

@[simp]
theorem meets_openRecord {path : Text} {goal : Except Failure Storage.Reader → σ → Prop} :
    (openRecord path : Operation Draft Storage.Reader).Meets contract goal state ↔
      contract.permits (.storage (.openRecord path)) ∧
        ∀ answer next, contract.serves (.storage (.openRecord path)) state answer next →
          goal answer next := Iff.rfl

@[simp]
theorem meets_read {reader : Storage.Reader} {count : Int}
    {goal : Except Failure (Bytes × Storage.Reader) → σ → Prop} :
    (read reader count : Operation Draft (Bytes × Storage.Reader)).Meets contract goal state ↔
      contract.permits (.storage (.read reader count)) ∧
        ∀ answer next, contract.serves (.storage (.read reader count)) state answer next →
          goal answer next := Iff.rfl

theorem bind_assoc {γ : Type} (operation : Operation Draft α) (next : α → Operation Draft β)
    (last : β → Operation Draft γ) :
    operation >>= next >>= last = operation >>= fun value => next value >>= last := by
  refine (Procedure.bind_assoc _ _ _).trans (congrArg _ (funext fun result => ?_))
  cases result <;> rfl

section Stateless

variable {contract : Contract (Surroundings.interface Draft) Unit}

/-- A contract without a state is kept to if every step keeps to it. -/
theorem Meets.bind {operation : Operation Draft α} {next : α → Operation Draft β}
    (first : operation.Meets contract (fun _ _ => True) ())
    (rest : ∀ value, (next value).Meets contract (fun _ _ => True) ()) :
    (operation >>= next).Meets contract (fun _ _ => True) () := by
  apply meets_bind.mpr
  apply first.mono
  intro result state _
  cases result with
  | error failure => trivial
  | ok value => exact rest value

theorem Meets.andThen {operation : Operation Draft α} {next : Except Failure α → Operation Draft β}
    (first : operation.Meets contract (fun _ _ => True) ())
    (rest : ∀ result, (next result).Meets contract (fun _ _ => True) ()) :
    (operation.andThen next).Meets contract (fun _ _ => True) () := by
  apply meets_andThen.mpr
  apply first.mono
  intro result state _
  exact rest result

end Stateless

end KeyEnvelope.Operation
