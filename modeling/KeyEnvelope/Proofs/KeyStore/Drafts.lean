import KeyEnvelope.Proofs.KeyStore.Reading
import KeyEnvelope.Proofs.Strategy

/-!
# Drafts stay with their operation

An operation writes, publishes and discards only drafts that it has begun itself.
Whatever can be said of all drafts that a store hands out can therefore be said of
all that come back to it.
-/

namespace KeyEnvelope

variable {Draft α β : Type}

namespace Surroundings

/-- The draft that a request is about, if it is about one, is the requester's own. -/
def Request.StaysWithin (own : Draft → Prop) : Request Draft → Prop
  | .storage (.write draft _) | .storage (.publish draft) | .storage (.discard draft) => own draft
  | _ => True

/-- The draft that is handed out, if one is, becomes the requester's own. -/
def HandsOut (own : Draft → Prop) : (request : Request Draft) → Answer request → Prop
  | .storage (.create _ _), .ok draft => own draft
  | .storage (.write _ _), .ok draft => own draft
  | _, _ => True

def careful (own : Draft → Prop) : Contract (interface Draft) Unit where
  permits request := request.StaysWithin own
  serves request _ answer _ := HandsOut own request answer

theorem Request.IsReading.staysWithin {own : Draft → Prop} :
    {request : Request Draft} → request.IsReading → request.StaysWithin own
  | .storage (.contains _), _ | .storage (.openRecord _), _ => trivial
  | .storage (.read _ _), _ | .note _, _ => trivial

end Surroundings

open Surroundings

namespace Operation

variable {own : Draft → Prop}

/-- The operation asks about its own drafts only. -/
def IsCareful (own : Draft → Prop) (operation : Operation Draft α) : Prop :=
  operation.Meets (careful own) (fun _ _ => True) ()

theorem IsCareful.bind {operation : Operation Draft α} {next : α → Operation Draft β}
    (first : operation.IsCareful own) (rest : ∀ value, (next value).IsCareful own) :
    (operation >>= next).IsCareful own :=
  Meets.bind first rest

theorem IsCareful.andThen {operation : Operation Draft α}
    {next : Except Failure α → Operation Draft β}
    (first : operation.IsCareful own) (rest : ∀ result, (next result).IsCareful own) :
    (operation.andThen next).IsCareful own :=
  Meets.andThen first rest

theorem OnlyReads.isCareful {operation : Operation Draft α} (onlyReads : operation.OnlyReads) :
    operation.IsCareful own := by
  have keeps : ∀ request state answer next, request.IsReading →
      (careful own).serves request state answer next → True → True :=
    fun _ _ _ _ _ _ _ => trivial
  exact onlyReads.meets (fun _ reading => reading.staysWithin) keeps trivial

end Operation

open Operation

namespace KeyStore

variable {own : Draft → Prop}

theorem writeRecord_meets {draft : Draft} (owned : own draft) (key : Bytes) :
    (writeRecord draft key).Meets (careful own)
      (fun result _ => ∀ written, result = .ok written → own written) () := by
  simp only [writeRecord, meets_bind, meets_ofExcept, meets_write]
  cases KeyRecord.checkLength key with
  | error failure => simp
  | ok _ =>
    refine ⟨owned, ?_⟩
    intro answer _ handed
    cases answer with
    | error failure => simp
    | ok started =>
      refine ⟨handed, ?_⟩
      rintro answer _ handed written rfl
      exact handed

theorem createRecord_isCareful (path : Text) (replication : Int) (key : Bytes) :
    (createRecord path replication key : Operation Draft Unit).IsCareful own := by
  apply meets_bind.mpr
  refine meets_create.mpr ⟨trivial, ?_⟩
  intro answer _ handed
  cases answer with
  | error failure => trivial
  | ok draft =>
    have owned : own draft := handed
    apply meets_andThen.mpr
    apply (writeRecord_meets owned key).mono
    intro result _ writtenOwned
    cases result with
    | ok written => exact ⟨writtenOwned written rfl, fun _ _ _ => trivial⟩
    | error failure => exact meets_bind.mpr ⟨owned, fun _ _ _ => trivial⟩

theorem ensure_isCareful (generator : Randomness.Generator) (replication : Int) (path : Text)
    (bits : Int) :
    (ensure generator replication path bits : Operation Draft Bool).IsCareful own := by
  unfold ensure
  split
  · exact (onlyReads_throw _).isCareful
  · apply (contains_onlyReads path).isCareful.bind
    intro found
    split
    · exact (onlyReads_pure _).isCareful
    · have drawn : (draw generator (bits / 8).toNat : Operation Draft Bytes).IsCareful own :=
        ⟨trivial, fun _ _ _ => trivial⟩
      apply drawn.bind
      intro key
      apply (createRecord_isCareful path replication key).andThen
      intro result
      exact (afterCreation_onlyReads path bits replication result).isCareful

end KeyStore

namespace Strategy

variable {own : Draft → Prop}

theorem wrap_isCareful (registry : KeyWrap.Registry) (parameters : Parameters) :
    (wrap registry parameters : Operation Draft Parameters).IsCareful own :=
  (onlyReads_ofExcept _).isCareful.bind fun _ =>
    (KeyStore.ensure_isCareful _ _ _ _).bind fun _ => (wrapPlanned_onlyReads _ _ _).isCareful

end Strategy

/-- No draft is begun but for the path. -/
def Surroundings.Request.BeginsAt (path : Text) : Request Draft → Prop
  | .storage (.create other _) => other = path
  | _ => True

theorem Surroundings.Request.IsReading.beginsAt {path : Text} :
    {request : Request Draft} → request.IsReading → request.BeginsAt path
  | .storage (.contains _), _ | .storage (.openRecord _), _ => trivial
  | .storage (.read _ _), _ | .note _, _ => trivial

namespace Operation

/-- The operation begins drafts for the path only. -/
def BeginsOnly (path : Text) (operation : Operation Draft α) : Prop :=
  Procedure.Asks (Surroundings.Request.BeginsAt path) operation.run

variable {path : Text}

theorem BeginsOnly.bind {operation : Operation Draft α} {next : α → Operation Draft β}
    (first : operation.BeginsOnly path) (rest : ∀ value, (next value).BeginsOnly path) :
    (operation >>= next).BeginsOnly path :=
  Meets.bind first rest

theorem BeginsOnly.andThen {operation : Operation Draft α}
    {next : Except Failure α → Operation Draft β}
    (first : operation.BeginsOnly path) (rest : ∀ result, (next result).BeginsOnly path) :
    (operation.andThen next).BeginsOnly path :=
  Meets.andThen first rest

theorem OnlyReads.beginsOnly {operation : Operation Draft α} (onlyReads : operation.OnlyReads) :
    operation.BeginsOnly path :=
  Procedure.Asks.mono (fun _ reading => reading.beginsAt) onlyReads

end Operation

namespace KeyStore

variable {path : Text}

theorem writeRecord_beginsOnly (draft : Draft) (key : Bytes) :
    (writeRecord draft key).BeginsOnly path := by
  apply (onlyReads_ofExcept _).beginsOnly.bind
  intro _
  have write (draft : Draft) (chunk : Bytes) : (Operation.write draft chunk).BeginsOnly path :=
    ⟨trivial, fun _ _ _ => trivial⟩
  exact (write draft _).bind fun begun => write begun key

theorem createRecord_beginsOnly (path : Text) (replication : Int) (key : Bytes) :
    (createRecord path replication key : Operation Draft Unit).BeginsOnly path := by
  have begun : (create path (some replication) : Operation Draft Draft).BeginsOnly path :=
    ⟨rfl, fun _ _ _ => trivial⟩
  apply begun.bind
  intro draft
  apply (writeRecord_beginsOnly draft key).andThen
  intro result
  cases result with
  | ok written => exact ⟨trivial, fun _ _ _ => trivial⟩
  | error failure => exact ⟨trivial, fun _ _ _ => trivial⟩

theorem ensure_beginsOnly (generator : Randomness.Generator) (replication : Int) (path : Text)
    (bits : Int) :
    (ensure generator replication path bits : Operation Draft Bool).BeginsOnly path := by
  unfold ensure
  split
  · exact (onlyReads_throw _).beginsOnly
  · apply (contains_onlyReads path).beginsOnly.bind
    intro found
    split
    · exact (onlyReads_pure _).beginsOnly
    · have drawn : (draw generator (bits / 8).toNat : Operation Draft Bytes).BeginsOnly path :=
        ⟨trivial, fun _ _ _ => trivial⟩
      apply drawn.bind
      intro key
      apply (createRecord_beginsOnly path replication key).andThen
      intro result
      exact (afterCreation_onlyReads path bits replication result).beginsOnly

end KeyStore

/-- A key is wrapped under a key encryption key whose path the parameters give, and no draft is
begun but for that. -/
theorem Strategy.wrap_beginsOnly {registry : KeyWrap.Registry} {parameters : Parameters}
    {path : Text} (located : keyPath parameters = .ok path) :
    (wrap registry parameters : Operation Draft Parameters).BeginsOnly path := by
  cases planned : plan registry parameters with
  | error failure =>
    rw [wrap, planned]
    exact (onlyReads_throw failure).beginsOnly
  | ok plan =>
    obtain ⟨suite, targeted, -⟩ := plan_eq_ok_iff.mp planned
    obtain rfl : path = plan.path :=
      Except.ok.inj (located.symm.trans (target_eq_ok_iff.mp targeted).1)
    rw [wrap, planned]
    exact (KeyStore.ensure_beginsOnly _ _ _ _).bind fun _ =>
      (wrapPlanned_onlyReads _ _ _).beginsOnly

end KeyEnvelope
