import KeyEnvelope.Proofs.Operation
import KeyEnvelope.Strategy

/-!
# Operations that only read

Looking for a key, loading it and unwrapping with it ask for nothing that would
change a store. What a store keeps while it is read, it keeps while these operations
go on.
-/

namespace KeyEnvelope

variable {Draft σ α β : Type}

/-- Requests that look for records, read them, or note an event. -/
def Surroundings.Request.IsReading : Surroundings.Request Draft → Prop
  | .storage (.contains _) | .storage (.openRecord _) | .storage (.read _ _) | .note _ => True
  | _ => False

namespace Operation

def OnlyReads (operation : Operation Draft α) : Prop :=
  Procedure.Asks Surroundings.Request.IsReading operation.run

theorem OnlyReads.meets {operation : Operation Draft α}
    {contract : Contract (Surroundings.interface Draft) σ}
    {held : σ → Prop} {state : σ} (onlyReads : operation.OnlyReads)
    (permits : ∀ request : Surroundings.Request Draft, request.IsReading → contract.permits request)
    (keeps : ∀ (request : Surroundings.Request Draft) state answer next, request.IsReading →
      contract.serves request state answer next → held state → held next)
    (holds : held state) : operation.Meets contract (fun _ next => held next) state :=
  Procedure.Asks.meets permits keeps onlyReads holds

theorem OnlyReads.bind {operation : Operation Draft α} {next : α → Operation Draft β}
    (first : operation.OnlyReads) (rest : ∀ value, (next value).OnlyReads) :
    (operation >>= next).OnlyReads :=
  Meets.bind first rest

theorem OnlyReads.andThen {operation : Operation Draft α}
    {next : Except Failure α → Operation Draft β}
    (first : operation.OnlyReads) (rest : ∀ result, (next result).OnlyReads) :
    (operation.andThen next).OnlyReads :=
  Meets.andThen first rest

theorem onlyReads_pure (value : α) : (pure value : Operation Draft α).OnlyReads := trivial

theorem onlyReads_throw (failure : Failure) :
    (throw failure : Operation Draft α).OnlyReads := trivial

theorem onlyReads_ofExcept (result : Except Failure α) :
    (ofExcept result : Operation Draft α).OnlyReads := trivial

theorem onlyReads_note (event : Log.Event) : (note event : Operation Draft Unit).OnlyReads :=
  ⟨trivial, fun _ _ _ => trivial⟩

theorem onlyReads_contains (path : Text) : (contains path : Operation Draft Bool).OnlyReads :=
  ⟨trivial, fun _ _ _ => trivial⟩

theorem onlyReads_openRecord (path : Text) :
    (openRecord path : Operation Draft Storage.Reader).OnlyReads :=
  ⟨trivial, fun _ _ _ => trivial⟩

theorem onlyReads_read (reader : Storage.Reader) (count : Int) :
    (read reader count : Operation Draft (Bytes × Storage.Reader)).OnlyReads :=
  ⟨trivial, fun _ _ _ => trivial⟩

end Operation

open Operation

namespace KeyStore

theorem contains_onlyReads (path : Text) : (contains path : Operation Draft Bool).OnlyReads := by
  apply (onlyReads_contains path).andThen
  intro result
  split
  · exact onlyReads_pure _
  · exact (onlyReads_note _).bind fun _ => onlyReads_throw _
  · exact onlyReads_throw _

theorem afterCreation_onlyReads (path : Text) (bits replication : Int)
    (result : Except Failure Unit) :
    (afterCreation path bits replication result : Operation Draft Bool).OnlyReads := by
  unfold afterCreation
  split
  · exact (onlyReads_note _).bind fun _ => onlyReads_pure _
  · split
    · exact (onlyReads_note _).bind fun _ => onlyReads_pure _
    · exact (onlyReads_note _).bind fun _ => onlyReads_throw _
  · exact onlyReads_throw _

theorem ofRecord_onlyReads (path : Text) (result : Except StorageIssue α) :
    (ofRecord path result : Operation Draft α).OnlyReads := by
  cases result <;> trivial

theorem readRecord_onlyReads (path : Text) :
    (readRecord path : Operation Draft Bytes).OnlyReads := by
  apply (onlyReads_openRecord path).bind
  intro reader
  apply (onlyReads_read _ _).bind
  intro header
  apply (ofRecord_onlyReads _ _).bind
  intro length
  apply (onlyReads_read _ _).bind
  intro key
  exact ofRecord_onlyReads _ _

theorem load_onlyReads (path : Text) : (load path : Operation Draft Bytes).OnlyReads := by
  apply (readRecord_onlyReads path).andThen
  intro result
  split
  · exact onlyReads_pure _
  · split
    · exact onlyReads_throw _
    · exact (onlyReads_note _).bind fun _ => onlyReads_throw _
  · exact onlyReads_throw _

end KeyStore

namespace Strategy

section Noting

variable {contract : Contract (Surroundings.interface Draft) σ} {held : σ → Prop}
  (permits : ∀ event, contract.permits (.note event))
  (keeps : ∀ event state answer next, contract.serves (.note event) state answer next →
    held state → held next)

include permits keeps

theorem notes_meets (events : List Log.Event) {state : σ} (holds : held state) :
    (events.forM Operation.note : Operation Draft PUnit).Meets contract
      (fun result next => result = .ok () ∧ held next) state := by
  induction events generalizing state with
  | nil => exact ⟨rfl, holds⟩
  | cons event rest inductionHypothesis =>
    rw [List.forM_eq_forM, List.forM_cons, Operation.meets_bind, Operation.meets_note]
    refine ⟨permits event, ?_⟩
    intro answer next served
    exact inductionHypothesis (keeps event state answer next served holds)

/-- Noting the events about an outcome changes neither the outcome nor what notes
leave as it is. -/
theorem settle_meets (outcome : Except Failure Bytes) {state : σ} (holds : held state) :
    (settle outcome : Operation Draft Bytes).Meets contract
      (fun result next => result = outcome ∧ held next) state := by
  rw [settle, Operation.meets_bind]
  apply (notes_meets permits keeps (KeyWrap.outcomeEvents outcome) holds).mono
  rintro result next ⟨rfl, held⟩
  exact ⟨rfl, held⟩

end Noting

theorem settle_onlyReads (outcome : Except Failure Bytes) :
    (settle outcome : Operation Draft Bytes).OnlyReads := by
  have settled : (settle outcome : Operation Draft Bytes).Meets
      ⟨Surroundings.Request.IsReading, fun _ _ _ _ => True⟩
      (fun result _ => result = outcome ∧ True) () :=
    settle_meets (fun _ => trivial) (fun _ _ _ _ _ => id) outcome trivial
  exact settled.mono fun _ _ _ => trivial

theorem unwrap_onlyReads (registry : KeyWrap.Registry) (parameters : Parameters) :
    (unwrap registry parameters : Operation Draft Parameters).OnlyReads := by
  apply (onlyReads_ofExcept _).bind
  intro path
  split
  · apply (onlyReads_ofExcept _).bind
    intro _
    apply (KeyStore.contains_onlyReads path).bind
    intro found
    split
    · apply (KeyStore.load_onlyReads _).bind
      intro kek
      exact (settle_onlyReads _).bind fun _ => onlyReads_pure _
    · exact (onlyReads_note _).bind fun _ => onlyReads_throw _
  · exact onlyReads_throw _

theorem wrapPlanned_onlyReads (registry : KeyWrap.Registry) (parameters : Parameters)
    (plan : Plan) :
    (wrapPlanned registry parameters plan : Operation Draft Parameters).OnlyReads :=
  (KeyStore.load_onlyReads _).bind fun _ => (settle_onlyReads _).bind fun _ => onlyReads_pure _

end Strategy

end KeyEnvelope
