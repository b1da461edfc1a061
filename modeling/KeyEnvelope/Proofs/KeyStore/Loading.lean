import KeyEnvelope.KeyStore
import KeyEnvelope.Proofs.KeyRecord
import KeyEnvelope.Proofs.Operation
import KeyEnvelope.Proofs.Storage.Client

/-!
# Loading keys

A key that was loaded is the one that the record decodes to. This needs little of
the store: what a record holds when it is opened it still holds when it has been
read.
-/

namespace KeyEnvelope

variable {Draft σ : Type}

/-- Readers show what the records hold, which reading and noting do not change. -/
structure Reveals (contract : Contract (Surroundings.interface Draft) σ)
    (holds : Text → Bytes → σ → Prop) :
    Prop where
  permits (request : Surroundings.Request Draft) : contract.permits request
  opens {path : Text} {reader : Storage.Reader} {state next : σ} :
    contract.serves (.storage (.openRecord path)) state (.ok reader) next → holds path reader next
  reads {reader : Storage.Reader} {count : Int} {found : Bytes × Storage.Reader} {state next : σ} :
    contract.serves (.storage (.read reader count)) state (.ok found) next →
      found = Storage.readFrom reader count
  keepsRead {path : Text} {data : Bytes} {reader : Storage.Reader} {count : Int} {state next : σ}
    {answer : Except Failure (Bytes × Storage.Reader)} :
    contract.serves (.storage (.read reader count)) state answer next → holds path data state →
      holds path data next
  keepsNote {path : Text} {data : Bytes} {event : Log.Event} {state next : σ} {answer : Unit} :
    contract.serves (.note event) state answer next → holds path data state → holds path data next

/-- The record of a path is there, with the given data, and stays there while it is
looked for and read. -/
structure Offers (contract : Contract (Surroundings.interface Draft) σ) (path : Text) (data : Bytes)
    (offered : σ → Prop) : Prop where
  permits (request : Surroundings.Request Draft) : contract.permits request
  contains {state next : σ} {answer : Except Failure Bool} :
    contract.serves (.storage (.contains path)) state answer next → offered state →
      answer = .ok true ∧ offered next
  opens {state next : σ} {answer : Except Failure Storage.Reader} :
    contract.serves (.storage (.openRecord path)) state answer next → offered state →
      answer = .ok data ∧ offered next
  reads {reader : Storage.Reader} {count : Nat} {state next : σ}
    {answer : Except Failure (Bytes × Storage.Reader)} :
    contract.serves (.storage (.read reader count)) state answer next →
      count < 9223372036854775808 →
      offered state → answer = .ok (reader.take count, reader.drop count) ∧ offered next
  notes {event : Log.Event} {state next : σ} {answer : Unit} :
    contract.serves (.note event) state answer next → offered state → offered next

/-- Readers give all that they are asked for, which changes nothing about the state. -/
structure Readable (contract : Contract (Surroundings.interface Draft) σ) (held : σ → Prop) :
    Prop where
  permits (request : Surroundings.Request Draft) : contract.permits request
  reads {reader : Storage.Reader} {count : Nat} {state next : σ}
    {answer : Except Failure (Bytes × Storage.Reader)} :
    contract.serves (.storage (.read reader count)) state answer next →
      count < 9223372036854775808 →
      held state → answer = .ok (reader.take count, reader.drop count) ∧ held next

theorem Offers.readable {contract : Contract (Surroundings.interface Draft) σ} {path : Text}
    {data : Bytes} {offered : σ → Prop} (offers : Offers contract path data offered) :
    Readable contract offered :=
  ⟨offers.permits, offers.reads⟩

namespace KeyStore

variable {contract : Contract (Surroundings.interface Draft) σ}
  {holds : Text → Bytes → σ → Prop} {state : σ}

@[simp]
theorem meets_ofRecord {α : Type} {path : Text} {result : Except StorageIssue α}
    {goal : Except Failure α → σ → Prop} :
    (ofRecord path result : Operation Draft α).Meets contract goal state ↔
      goal (result.mapError (.storage path)) state := by
  cases result <;> exact Iff.rfl

/-- Reads the record that comes next, and leaves what follows it to be read. -/
def readNext (path : Text) (reader : Storage.Reader) :
    Operation Draft (Bytes × Storage.Reader) := do
  let (header, reader) ← Operation.read reader KeyRecord.headerSize
  let length ← ofRecord path (KeyRecord.keyLength header)
  let (key, reader) ← Operation.read reader length
  let key ← ofRecord path (KeyRecord.checkKey length key)
  return (key, reader)

/-- The record that is read is the one that comes next when it has been opened. -/
theorem readRecord_eq (path : Text) :
    (readRecord path : Operation Draft Bytes) =
      Operation.openRecord path >>= fun reader =>
        readNext path reader >>= fun (key, _) => pure key := by
  have alone (outcome : Except StorageIssue Bytes) (left : Storage.Reader) :
      (ofRecord path outcome >>= fun key => pure (key, left) >>= fun found => pure found.1 :
        Operation Draft Bytes) = ofRecord path outcome := by
    cases outcome <;> rfl
  simp only [readRecord, readNext, Operation.bind_assoc, alone]

/-- What is read next is what decoding finds. -/
theorem readNext_meets {held : σ → Prop} (readable : Readable contract held) (path : Text)
    (reader : Storage.Reader) (heldNow : held state) :
    (readNext path reader : Operation Draft (Bytes × Storage.Reader)).Meets contract
      (fun result next =>
        result = (KeyRecord.decode reader).mapError (.storage path) ∧ held next) state := by
  simp only [readNext, KeyRecord.decode, Operation.meets_bind, Operation.meets_read,
    Operation.meets_pure, meets_ofRecord]
  refine ⟨readable.permits _, ?_⟩
  intro header afterHeader headerServed
  obtain ⟨rfl, heldAfterHeader⟩ := readable.reads headerServed (by decide) heldNow
  cases announced : KeyRecord.keyLength (reader.take KeyRecord.headerSize) with
  | error issue => simp [announced, Except.mapError, heldAfterHeader]
  | ok length =>
    simp only [announced, Except.mapError, Checks.ok_bind]
    refine ⟨readable.permits _, ?_⟩
    intro found afterKey keyServed
    have bound := KeyRecord.length_lt_of_keyLength announced
    obtain ⟨rfl, heldAfterKey⟩ := readable.reads keyServed (by omega) heldAfterHeader
    cases checked : KeyRecord.checkKey length ((reader.drop KeyRecord.headerSize).take length) with
    | error issue => simp [checked, heldAfterKey]
    | ok key => simp [checked, heldAfterKey]

theorem readRecord_meets (reveals : Reveals contract holds) (path : Text) :
    (readRecord path : Operation Draft Bytes).Meets contract (fun result next =>
      ∀ key, result = .ok key →
      ∃ data rest, holds path data next ∧ KeyRecord.decode data = .ok (key, rest)) state := by
  simp only [readRecord, Operation.meets_bind, Operation.meets_openRecord, Operation.meets_read,
    meets_ofRecord]
  refine ⟨reveals.permits _, ?_⟩
  intro reader opened answered
  cases reader with
  | error failure => simp
  | ok data =>
    have held : holds path data opened := reveals.opens answered
    refine ⟨reveals.permits _, ?_⟩
    intro header afterHeader headerServed
    cases header with
    | error failure => simp
    | ok header =>
      obtain rfl := reveals.reads headerServed
      have heldAfterHeader := reveals.keepsRead headerServed held
      cases announced : KeyRecord.keyLength (data.take KeyRecord.headerSize) with
      | error issue => simp [Storage.readFrom_ofNat, announced, Except.mapError]
      | ok length =>
        simp only [Storage.readFrom_ofNat, announced, Except.mapError]
        refine ⟨reveals.permits _, ?_⟩
        intro found afterKey keyServed
        cases found with
        | error failure => simp
        | ok found =>
          obtain rfl := reveals.reads keyServed
          intro key checked
          have heldAfterKey := reveals.keepsRead keyServed heldAfterHeader
          simp only [Storage.readFrom_ofNat] at checked
          refine ⟨data, _, heldAfterKey,
            KeyRecord.decode_eq_ok_iff.mpr ⟨length, announced, ?_, rfl⟩⟩
          cases outcome : KeyRecord.checkKey length
            ((data.drop KeyRecord.headerSize).take length) with
          | error issue => simp [outcome] at checked
          | ok found => simpa [outcome] using checked

theorem load_meets (reveals : Reveals contract holds) (path : Text) :
    (load path : Operation Draft Bytes).Meets contract (fun result next => ∀ key, result = .ok key →
      ∃ data rest, holds path data next ∧ KeyRecord.decode data = .ok (key, rest)) state := by
  rw [load, Operation.meets_andThen]
  apply (readRecord_meets reveals path).mono
  intro result next found
  split
  · exact found
  · split
    · simp
    · simp [reveals.permits]
  · simp

section Offered

variable {path : Text} {data : Bytes} {offered : σ → Prop}
  (offers : Offers contract path data offered)
  (offeredNow : offered state)

include offers offeredNow

theorem readRecord_of_offers :
    (readRecord path : Operation Draft Bytes).Meets contract (fun result next =>
      result = ((KeyRecord.decode data).map Prod.fst).mapError (.storage path) ∧
        offered next) state := by
  rw [readRecord_eq]
  simp only [Operation.meets_bind, Operation.meets_openRecord]
  refine ⟨offers.permits _, ?_⟩
  intro reader opened answered
  obtain ⟨rfl, offeredThen⟩ := offers.opens answered offeredNow
  apply (readNext_meets offers.readable path data offeredThen).mono
  rintro result next ⟨rfl, offeredAfter⟩
  cases KeyRecord.decode data with
  | error issue => exact ⟨rfl, offeredAfter⟩
  | ok found => exact ⟨rfl, offeredAfter⟩

/-- A record that is there is loaded, unless it holds no key. -/
theorem load_of_offers :
    (load path : Operation Draft Bytes).Meets contract (fun result next =>
      result = ((KeyRecord.decode data).map Prod.fst).mapError (.storage path) ∧
        offered next) state := by
  rw [load, Operation.meets_andThen]
  apply (readRecord_of_offers offers offeredNow).mono
  rintro result next ⟨rfl, offeredThen⟩
  cases (KeyRecord.decode data).map Prod.fst with
  | error issue => exact ⟨rfl, offeredThen⟩
  | ok key => exact ⟨rfl, offeredThen⟩

theorem contains_of_offers :
    (contains path : Operation Draft Bool).Meets contract (fun result next =>
      result = .ok true ∧ offered next)
      state := by
  simp only [contains, Operation.meets_andThen, Operation.meets_contains]
  refine ⟨offers.permits _, ?_⟩
  intro answer next served
  obtain ⟨rfl, offeredThen⟩ := offers.contains served offeredNow
  exact ⟨rfl, offeredThen⟩

end Offered

end KeyStore

end KeyEnvelope
