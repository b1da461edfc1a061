import KeyEnvelope.Proofs.KeyStore.Complaints
import KeyEnvelope.Proofs.Provisioning
import KeyEnvelope.Proofs.Storage.Creation

/-!
# What passes through a key store

A key store has failures of its own for errors of the system, and lets everything else pass that
its store fails with. If the store fails as it is expected to, so does the key store; what is
foreign to both comes through unchanged.
-/

namespace KeyEnvelope

variable {Draft α β : Type} {source : Randomness.Source} {foreign : Text → Failure → Prop}
  {allowed reasons : Failure → Prop}

namespace Failure

def IsSystem (failure : Failure) : Prop :=
  ∃ error, failure = .system error

/-- The path is refused for its form, or there is an error of the system. -/
def IsExpected (failure : Failure) (path : Text) : Prop :=
  failure = .configuration (.pathTraversal path) ∨ failure.IsSystem

end Failure

namespace Surroundings

/-- A store fails as it is expected to, except that something foreign may come in the way of a
record that is to be created or opened. -/
def Answers (source : Randomness.Source) (foreign : Text → Failure → Prop) :
    (request : Request Draft) → Answer request → Prop
  | .storage (.contains path), answer =>
    ∀ failure, answer = .error failure → failure.IsExpected path
  | .storage (.create path _), answer =>
    ∀ failure, answer = .error failure → failure.IsExpected path ∨ foreign path failure
  | .storage (.openRecord path), answer =>
    ∀ failure, answer = .error failure → failure.IsExpected path ∨ foreign path failure
  | .storage request, answer => Conforms (.storage request) answer
  | .draw generator count, answer => answer = source generator count
  | .note _, _ => True

def answering (source : Randomness.Source) (foreign : Text → Failure → Prop) :
    Contract (interface Draft) Unit where
  permits request := request.IsCountable
  serves request _ answer _ := Answers source foreign request answer

end Surroundings

open Surroundings

namespace Operation

/-- Whatever is answered, the operation fails in the allowed ways only. -/
def FailsOnly (source : Randomness.Source) (foreign : Text → Failure → Prop)
    (allowed : Failure → Prop) (operation : Operation Draft α) : Prop :=
  operation.Meets (answering source foreign)
    (fun result _ => ∀ failure, result = .error failure → allowed failure) ()

theorem FailsOnly.mono {operation : Operation Draft α}
    (fails : operation.FailsOnly source foreign reasons)
    (implies : ∀ failure, reasons failure → allowed failure) :
    operation.FailsOnly source foreign allowed :=
  Meets.mono (fun _ _ reason failure failed => implies failure (reason failure failed)) fails

theorem FailsOnly.bind {operation : Operation Draft α} {next : α → Operation Draft β}
    (first : operation.FailsOnly source foreign allowed)
    (rest : ∀ value, (next value).FailsOnly source foreign allowed) :
    (operation >>= next).FailsOnly source foreign allowed := by
  apply meets_bind.mpr
  apply Meets.mono ?_ first
  intro result _ reason
  cases result with
  | error failure => simpa using reason failure rfl
  | ok value => exact rest value

theorem FailsOnly.andThen {operation : Operation Draft α}
    {next : Except Failure α → Operation Draft β}
    (first : operation.FailsOnly source foreign reasons)
    (failed : ∀ failure, reasons failure → (next (.error failure)).FailsOnly source foreign allowed)
    (rest : ∀ value, (next (.ok value)).FailsOnly source foreign allowed) :
    (operation.andThen next).FailsOnly source foreign allowed := by
  apply meets_andThen.mpr
  apply Meets.mono ?_ first
  intro result _ reason
  cases result with
  | error failure => exact failed failure (reason failure rfl)
  | ok value => exact rest value

theorem failsOnly_pure (value : α) :
    (pure value : Operation Draft α).FailsOnly source foreign allowed :=
  nofun

theorem failsOnly_throw {failure : Failure} (reason : allowed failure) :
    (throw failure : Operation Draft α).FailsOnly source foreign allowed := by
  rintro _ ⟨⟩
  exact reason

theorem failsOnly_note (event : Log.Event) :
    (note event : Operation Draft Unit).FailsOnly source foreign allowed :=
  ⟨trivial, fun _ _ _ => nofun⟩

theorem failsOnly_discard (draft : Draft) : (discard draft).FailsOnly source foreign allowed :=
  ⟨trivial, fun _ _ _ => nofun⟩

section System

variable (system : ∀ error, allowed (.system error))

include system

theorem allowed_of_conforms {result : Except Failure α}
    (conforms : ∀ failure, result = .error failure → ∃ error, failure = .system error) :
    ∀ failure, result = .error failure → allowed failure := by
  intro failure failed
  obtain ⟨error, rfl⟩ := conforms failure failed
  exact system error

theorem failsOnly_write (draft : Draft) (chunk : Bytes) :
    (write draft chunk).FailsOnly source foreign allowed := by
  refine ⟨trivial, fun result _ conforms => allowed_of_conforms system ?_⟩
  rintro failure rfl
  exact conforms failure rfl

theorem failsOnly_writeAll (draft : Draft) (chunks : List Bytes) :
    (Body.writeAll draft chunks).FailsOnly source foreign allowed := by
  induction chunks generalizing draft with
  | nil => exact failsOnly_pure draft
  | cons chunk rest inductionHypothesis =>
    exact (failsOnly_write system draft chunk).bind inductionHypothesis

theorem failsOnly_publish (draft : Draft) : (publish draft).FailsOnly source foreign allowed := by
  refine ⟨trivial, fun result _ conforms => allowed_of_conforms system ?_⟩
  rintro failure rfl
  exact conforms failure rfl

theorem failsOnly_read (reader : Storage.Reader) {count : Nat}
    (countable : count < 9223372036854775808) :
    (read reader count : Operation Draft _).FailsOnly source foreign allowed := by
  refine ⟨⟨by omega, by omega⟩, fun result _ conforms => allowed_of_conforms system ?_⟩
  rintro failure rfl
  exact conforms failure rfl

end System

variable {path : Text} {body : Body}

theorem failsOnly_contains (path : Text) :
    (contains path : Operation Draft Bool).FailsOnly source foreign (·.IsExpected path) :=
  ⟨trivial, fun _ _ answers => answers⟩

theorem failsOnly_create (path : Text) (replication : Option Int) :
    (create path replication : Operation Draft Draft).FailsOnly source foreign
      (fun failure => failure.IsExpected path ∨ foreign path failure) :=
  ⟨trivial, fun _ _ answers => answers⟩

theorem failsOnly_openRecord (path : Text) :
    (openRecord path : Operation Draft Storage.Reader).FailsOnly source foreign
      (fun failure => failure.IsExpected path ∨ foreign path failure) :=
  ⟨trivial, fun _ _ answers => answers⟩

/-- A record that can be written fails to be created as it fails to be begun, or with an error of
the system. -/
theorem failsOnly_creating (path : Text) (replication : Option Int)
    (complete : body.ending = .ok ()) :
    (creating path replication body : Operation Draft Unit).FailsOnly source foreign
      (fun failure => failure.IsExpected path ∨ foreign path failure) := by
  have system (error : SystemError) :
      (Failure.system error).IsExpected path ∨ foreign path (.system error) :=
    .inl (.inr ⟨error, rfl⟩)
  apply (failsOnly_create path replication).bind
  intro draft
  have filled : (body.fill draft).FailsOnly source foreign
      (fun failure => failure.IsExpected path ∨ foreign path failure) := by
    apply (failsOnly_writeAll system draft body.chunks).bind
    intro written
    rw [complete]
    exact failsOnly_pure written
  apply filled.andThen
  · intro failure reason
    exact (failsOnly_discard draft).bind fun _ => failsOnly_throw reason
  · exact failsOnly_publish system

end Operation

open Operation

namespace KeyStore

variable {path : Text}

theorem ofRecord_failsOnly (path : Text) (result : Except StorageIssue α) :
    (ofRecord path result : Operation Draft α).FailsOnly source foreign Failure.IsOwn := by
  cases result with
  | error issue => exact failsOnly_throw trivial
  | ok value => exact failsOnly_pure value

theorem contains_failsOnly (path : Text) :
    (contains path : Operation Draft Bool).FailsOnly source foreign Failure.IsOwn := by
  apply (failsOnly_contains path).andThen
  · rintro failure (rfl | ⟨error, rfl⟩)
    · exact failsOnly_throw trivial
    · exact (failsOnly_note _).bind fun _ => failsOnly_throw trivial
  · exact failsOnly_pure

theorem afterCreation_failsOnly (bits replication : Int) {result : Except Failure Unit}
    (reason : ∀ failure, result = .error failure →
      failure.IsExpected path ∨ foreign path failure) :
    (afterCreation path bits replication result : Operation Draft Bool).FailsOnly source foreign
      (fun failure => failure.IsOwn ∨ foreign path failure) := by
  unfold afterCreation
  split
  · exact (failsOnly_note _).bind fun _ => failsOnly_pure true
  · split
    · exact (failsOnly_note _).bind fun _ => failsOnly_pure false
    · exact (failsOnly_note _).bind fun _ => failsOnly_throw (.inl trivial)
  · rename_i failure notSystem
    apply failsOnly_throw
    rcases reason failure rfl with (rfl | ⟨error, rfl⟩) | strange
    · exact .inl trivial
    · exact absurd rfl (notSystem error)
    · exact .inr strange

theorem ensure_failsOnly (exact : source.IsExact) (generator : Randomness.Generator)
    (replication : Int) {bits : Int} (fitting : (bits / 8).toNat < 2147483648) :
    (ensure generator replication path bits : Operation Draft Bool).FailsOnly source foreign
      (fun failure => failure.IsOwn ∨ foreign path failure) := by
  unfold ensure
  split
  · exact failsOnly_throw (.inl trivial)
  · apply ((contains_failsOnly path).mono fun _ => .inl).bind
    intro found
    split
    · exact failsOnly_pure false
    · apply meets_bind.mpr
      refine meets_draw.mpr ⟨trivial, ?_⟩
      rintro _ _ rfl
      obtain ⟨key, drawn, length⟩ := exact generator (bits / 8).toNat
      have complete : (KeyRecord.body key).ending = .ok () := by
        rw [KeyRecord.body, KeyRecord.checkLength_eq_ok_iff.mpr (by omega)]
      simp only [drawn, createRecord_eq]
      apply (failsOnly_creating path (some replication) complete).andThen
      · intro failure reason
        apply afterCreation_failsOnly
        rintro _ ⟨⟩
        exact reason
      · intro created
        exact afterCreation_failsOnly bits replication nofun

/-- Before errors of the system are turned into failures of the key store. -/
def Untranslated (foreign : Text → Failure → Prop) (path : Text) (failure : Failure) : Prop :=
  failure.IsOwn ∨ failure.IsSystem ∨ foreign path failure

theorem readRecord_failsOnly (path : Text) :
    (readRecord path : Operation Draft Bytes).FailsOnly source foreign
      (Untranslated foreign path) := by
  have system (error : SystemError) : Untranslated foreign path (.system error) :=
    .inr (.inl ⟨error, rfl⟩)
  have opened : (Operation.openRecord path : Operation Draft _).FailsOnly source foreign
      (Untranslated foreign path) := by
    apply (failsOnly_openRecord path).mono
    rintro failure ((rfl | expected) | strange)
    · exact .inl trivial
    · exact .inr (.inl expected)
    · exact .inr (.inr strange)
  apply opened.bind
  intro reader
  apply (failsOnly_read system reader (by decide : KeyRecord.headerSize < _)).bind
  rintro ⟨header, reader⟩
  dsimp only
  cases announced : KeyRecord.keyLength header with
  | error issue => exact failsOnly_throw (.inl trivial)
  | ok length =>
    have bound := KeyRecord.length_lt_of_keyLength announced
    have small : length < 9223372036854775808 := by omega
    apply (failsOnly_read system reader small).bind
    rintro ⟨key, reader⟩
    exact (ofRecord_failsOnly path _).mono fun _ => .inl

theorem load_failsOnly (path : Text) :
    (load path : Operation Draft Bytes).FailsOnly source foreign
      (fun failure => failure.IsOwn ∨ foreign path failure) := by
  apply (readRecord_failsOnly path).andThen
  · intro failure reason
    cases failure with
    | system error =>
      dsimp only
      split
      · exact failsOnly_throw (.inl trivial)
      · exact (failsOnly_note _).bind fun _ => failsOnly_throw (.inl trivial)
    | _ =>
      rcases reason with own | ⟨_, ⟨⟩⟩ | strange
      · exact failsOnly_throw (.inl own)
      · exact failsOnly_throw (.inr strange)
  · exact failsOnly_pure

end KeyStore

end KeyEnvelope
