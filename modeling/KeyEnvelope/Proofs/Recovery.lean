import KeyEnvelope.Proofs.KeyWrap.Wrapping
import KeyEnvelope.Proofs.Storage.Service
import KeyEnvelope.Proofs.Strategy

/-!
# Wrapped keys can be unwrapped

What was wrapped once is unwrapped whatever calls come between, in memory and in a
directory: the key was wrapped under the record of its path, no call takes that
record away, and unwrapping needs nothing else.
-/

namespace KeyEnvelope

namespace Call

theorem operation_isCareful {Draft : Type} (own : Draft → Prop) (call : Call) :
    (call.operation : Operation Draft call.Result).IsCareful own := by
  cases call with
  | encrypt registry parameters => exact Strategy.wrap_isCareful registry parameters
  | decrypt registry parameters => exact (Strategy.unwrap_onlyReads registry parameters).isCareful
  | contains path => exact (KeyStore.contains_onlyReads path).isCareful
  | ensure generator replication path bits =>
    exact KeyStore.ensure_isCareful generator replication path bits
  | load path => exact (KeyStore.load_onlyReads path).isCareful

end Call

namespace Storage.Custody

variable {client : Client} (custody : Custody client)

include custody

theorem keeps_call (call : Call) (conditions : Conditions) (state : client.State) :
    custody.Keeps state (client.perform conditions call.operation state).2 :=
  custody.keeps_perform (call.operation_isCareful _) conditions (custody.refl state)

theorem keeps_performAll (calls : List (Call × Conditions)) {before state : client.State}
    (keeps : custody.Keeps before state) :
    custody.Keeps before (client.performAll calls state) := by
  induction calls generalizing state with
  | nil => exact keeps
  | cons call rest inductionHypothesis =>
    exact inductionHypothesis (custody.keeps_perform (call.1.operation_isCareful _) call.2 keeps)

theorem unwraps {registry : KeyWrap.Registry} {parameters outcome reader : Parameters}
    {conditions : Conditions} {start after : client.State}
    (succeeds : (client.perform conditions (Strategy.wrap registry parameters) start).1 =
      .ok outcome)
    (keeps : custody.Keeps
      (client.perform conditions (Strategy.wrap registry parameters) start).2 after)
    (carries : reader.encryptedKey = outcome.encryptedKey)
    (sameOptions : reader.options = parameters.options)
    (sameSuite : reader.suite = parameters.suite)
    (named : (Strategy.algorithmName reader).isBlankText = false)
    (source : Randomness.Source) :
    (client.perform ⟨source, []⟩ (Strategy.unwrap registry reader) after).1 =
      .ok { reader with plaintextKey := parameters.plaintextKey } := by
  obtain ⟨plan, data, planned, held, kek, rest, wrapped, decoded, wrapping, rfl⟩ :=
    client.perform_disturbed
      (Strategy.wrap_meets (custody.reveals conditions.source) registry parameters start)
      outcome succeeds
  obtain ⟨suite, targeted, -, replicated, -⟩ := Strategy.plan_eq_ok_iff.mp planned
  obtain ⟨located, given, -⟩ := Strategy.target_eq_ok_iff.mp targeted
  have sameName : Strategy.suiteName reader = Strategy.suiteName parameters := by
    simp only [Strategy.suiteName, sameSuite, sameOptions]
  have samePath : Strategy.keyPath reader = .ok plan.path := by
    simpa only [Strategy.keyPath, sameOptions] using located
  have unwrapping : registry.unwrap (Strategy.algorithmName reader)
      (Strategy.suiteName reader) kek wrapped = .ok plan.key := by
    rw [sameName]
    exact KeyWrap.Registry.unwrap_of_wrap named wrapping
  have sameReplication : Setting.replication.resolveInt reader.options = .ok plan.replication := by
    rwa [sameOptions]
  have meets := Strategy.unwrap_meets (custody.offers source plan.path data) samePath carries
    sameReplication decoded unwrapping (custody.opens keeps held)
  rw [given]
  exact client.perform_calm meets

end Storage.Custody

/-- A key that was wrapped once is unwrapped after any calls, by whoever has the
wrapped key, the options and the suite. -/
theorem Storage.Location.unwraps_after_calls (location : Storage.Location)
    (registry : KeyWrap.Registry) (start : location.client.State) (conditions : Conditions)
    (parameters outcome : Parameters) (succeeds : (location.client.perform conditions
      ((Strategy.enveloping registry).encrypt parameters) start).1 = .ok outcome)
    (calls : List (Call × Conditions)) (reader : Parameters)
    (carries : reader.encryptedKey = outcome.encryptedKey)
    (sameOptions : reader.options = parameters.options)
    (sameSuite : reader.suite = parameters.suite)
    (named : (Strategy.algorithmName reader).isBlankText = false) (source : Randomness.Source) :
    let wrapped := (location.client.perform conditions
      ((Strategy.enveloping registry).encrypt parameters) start).2
    let later := location.client.performAll calls wrapped
    (location.client.perform ⟨source, []⟩ ((Strategy.enveloping registry).decrypt reader) later).1 =
      .ok { reader with plaintextKey := parameters.plaintextKey } :=
  location.custody.unwraps succeeds
    (location.custody.keeps_performAll calls (location.custody.refl _))
    carries sameOptions sameSuite named source

def Parameters.sample : Parameters :=
  { Parameters.empty with algorithm := some "AES", plaintextKey := some (List.replicate 24 1) }

/-- Memory with a key encryption key where the sample looks for it. -/
def Storage.Memory.sample : Memory :=
  ⟨[("/key_guardian/crypto/secret/keyEncryptionKey",
    ⟨KeyRecord.encode (List.replicate 16 7), none⟩)], []⟩

def Randomness.zeros : Randomness.Source :=
  fun _ count => .ok (List.replicate count 0)

theorem Parameters.wrap_sample : ∃ outcome,
    (Storage.Memory.client.perform ⟨Randomness.zeros, []⟩
      ((Strategy.enveloping .builtIn).encrypt .sample) .sample).1 = .ok outcome := by
  obtain ⟨wrapped, wrapping, -⟩ : ∃ wrapped,
      KeyWrap.Suite.aesWrap.mode.wrap (List.replicate 16 7) (List.replicate 24 1) =
        .ok wrapped ∧ _ :=
    KeyWrap.Mode.exists_wrap (by decide) (by decide)
  have wraps :
      KeyWrap.Registry.builtIn.wrap "AES" "AESWrap" (List.replicate 16 7) (List.replicate 24 1) =
        .ok wrapped :=
    KeyWrap.Registry.wrap_eq_ok_iff.mpr ⟨KeyWrap.Suite.aesWrap, by rfl, by decide, wrapping⟩
  have planned : Strategy.plan .builtIn .sample =
      .ok ⟨"/key_guardian/crypto/secret/keyEncryptionKey", List.replicate 24 1, 5, .system⟩ := by
    rfl
  exact ⟨_, Storage.Client.perform_calm (Strategy.wrap_of_offers planned
    (Storage.Memory.custody.offers Randomness.zeros _ (KeyRecord.encode (List.replicate 16 7)))
    (by decide) (by rfl) wraps (by rfl))⟩

/-- The sample is unwrapped again by a reader that names another algorithm, after a
call that failed and one that created another key encryption key. -/
theorem Storage.Location.unwraps_sample_after_calls :
    ∃ outcome,
      (Memory.client.perform ⟨Randomness.zeros, []⟩
        ((Strategy.enveloping .builtIn).encrypt .sample) .sample).1 = .ok outcome ∧
      let wrapped :=
        (Memory.client.perform ⟨Randomness.zeros, []⟩
          ((Strategy.enveloping .builtIn).encrypt .sample) .sample).2
      let calls : List (Call × Conditions) :=
        [(.encrypt .builtIn .sample,
          ⟨Randomness.zeros, [some .oversight, some (.fault (.coded .noEntry))]⟩),
          (.ensure .tokens 3 "/elsewhere" 128, ⟨Randomness.zeros, []⟩)]
      let reader : Parameters :=
        { Parameters.sample with
          algorithm := some "DES", keyLength := 0, plaintextKey := none, encryptedKey :=
            outcome.encryptedKey }
      (Memory.client.perform ⟨Randomness.zeros, []⟩ ((Strategy.enveloping .builtIn).decrypt reader)
        (Memory.client.performAll calls wrapped)).1 =
          .ok { reader with plaintextKey := some (List.replicate 24 1) } := by
  obtain ⟨outcome, succeeds⟩ := Parameters.wrap_sample
  refine ⟨outcome, succeeds, ?_⟩
  intro wrapped calls reader
  exact unwraps_after_calls .memory .builtIn .sample ⟨Randomness.zeros, []⟩ .sample outcome
    succeeds calls reader
    rfl rfl rfl (by rfl) Randomness.zeros

end KeyEnvelope
