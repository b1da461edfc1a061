import KeyEnvelope.Proofs.Provisioning

/-!
# Where key encryption keys come from

A suite says with which lengths it is used, and that is checked of the length that the
parameters ask for, before a key encryption key is created. A key encryption key that is
there is used as it is. It has the length that the parameters ask for only if it was created
for them; otherwise it has the length that its creator asked for, or was in the store from
the start.
-/

namespace KeyEnvelope

/-- Its suite is to be used with 32 bytes only. -/
def KeyWrap.Registry.strict : Registry :=
  .ofSuites [⟨"Strict", .plain, [], [32]⟩]

def Parameters.strict : Parameters :=
  { Parameters.sample with suite := some "Strict", keyLength := 256 }

namespace Storage

/-- What calls have provided is decoded to a key that parameters of theirs asked for. -/
theorem Drafting.asksFor_of_decode {client : Client} (drafting : Drafting client)
    {calls : List (Call × Conditions)} {path : Text} {data kek rest : Bytes}
    (ofStrategies : ∀ call ∈ calls, ∃ registry, call.1.Uses registry)
    (exact : ∀ call ∈ calls, call.2.source.IsExact)
    (provided : drafting.ProvidedBy calls path data)
    (decoded : KeyRecord.decode data = .ok (kek, rest)) :
    ∃ call ∈ calls, ∃ registry parameters, call.1 = .encrypt registry parameters ∧
      Strategy.AsksFor registry parameters kek.length := by
  obtain ⟨call, among, registry, parameters, key, encrypts, asksFor, -, decodes⟩ :=
    drafting.asksFor_of_providedBy ofStrategies exact provided
  obtain ⟨rfl, -⟩ := Prod.mk.inj (Except.ok.inj (decoded.symm.trans decodes))
  exact ⟨call, among, registry, parameters, encrypts, asksFor⟩

/-- A key is wrapped under what the record of its path decodes to. If there was no such record
before, this is the key that was asked for; if there was none at the start, it is the key that
was asked for by whoever wrapped a key before. -/
theorem Location.wraps_under_what_was_asked_for (location : Location)
    (start : location.client.State) (calls : List (Call × Conditions))
    (ofStrategies : ∀ call ∈ calls, ∃ registry, call.1.Uses registry)
    (exact : ∀ call ∈ calls, call.2.source.IsExact) (registry : KeyWrap.Registry)
    (parameters outcome : Parameters) (conditions : Conditions)
    (sourceExact : conditions.source.IsExact)
    (succeeds : (location.client.perform conditions
      ((Strategy.enveloping registry).encrypt parameters)
      (location.client.performAll calls start)).1 = .ok outcome) :
    let has := location.drafting.Has
    let before := location.client.performAll calls start
    let after := (location.client.perform conditions
      ((Strategy.enveloping registry).encrypt parameters) before).2
    ∃ suite path key data kek rest wrapped,
      registry.resolve (Strategy.algorithmName parameters) (Strategy.suiteName parameters) =
        .ok suite ∧
      suite.admitsKekBits parameters.keyLength = true ∧
      Strategy.keyPath parameters = .ok path ∧ parameters.plaintextKey = some key ∧
      outcome.encryptedKey = some wrapped ∧
      Custody.Holds location.client path data after ∧ KeyRecord.decode data = .ok (kek, rest) ∧
      registry.wrap (Strategy.algorithmName parameters) (Strategy.suiteName parameters) kek key =
        .ok wrapped ∧
      (¬has before path data → Strategy.AsksFor registry parameters kek.length) ∧
      (¬has start path data → Strategy.AsksFor registry parameters kek.length ∨
        ∃ call ∈ calls, ∃ earlier asking, call.1 = .encrypt earlier asking ∧
          Strategy.AsksFor earlier asking kek.length) := by
  intro has before after
  obtain ⟨plan, data, planned, held, kek, rest, wrapped, decoded, wrapping, rfl⟩ :=
    location.client.perform_disturbed
      (Strategy.wrap_meets (location.custody.reveals conditions.source) registry parameters before)
      outcome succeeds
  obtain ⟨suite, targeted, admitted, -, -⟩ := Strategy.plan_eq_ok_iff.mp planned
  obtain ⟨located, given, resolved⟩ := Strategy.target_eq_ok_iff.mp targeted
  have present : has after plan.path data := location.drafting.has_of_opened held
  have now : ¬has before plan.path data → Strategy.AsksFor registry parameters kek.length := by
    intro absent
    rcases location.drafting.has_perform location.custody (.encrypt registry parameters) present
      with earlier | provided
    · exact absurd earlier absent
    · obtain ⟨_, same, asked, asking, encrypts, asksFor⟩ := location.drafting.asksFor_of_decode
        (by simp [Call.Uses]) (by simpa using sourceExact) provided decoded
      obtain rfl := List.mem_singleton.mp same
      obtain ⟨rfl, rfl⟩ := Call.encrypt.inj encrypts
      exact asksFor
  have since : ¬has start plan.path data → Strategy.AsksFor registry parameters kek.length ∨
      ∃ call ∈ calls, ∃ earlier asking, call.1 = .encrypt earlier asking ∧
        Strategy.AsksFor earlier asking kek.length := by
    intro absent
    by_cases found : has before plan.path data
    · rcases location.drafting.has_performAll location.custody found with initial | provided
      · exact absurd initial absent
      · exact .inr (location.drafting.asksFor_of_decode ofStrategies exact provided decoded)
    · exact .inl (now found)
  exact ⟨suite, plan.path, plan.key, data, kek, rest, wrapped, resolved, admitted, located, given,
    rfl, held, decoded, wrapping, now, since⟩

/-- A key is wrapped with the strict suite under 16 bytes, which were created for a key that
could not be wrapped. -/
theorem Location.wraps_strictly_under_what_was_asked_for_before :
    let bare : Parameters :=
      { Parameters.empty with algorithm := some "AES", plaintextKey := some [] }
    let calls : List (Call × Conditions) := [(.encrypt .builtIn bare, ⟨Randomness.zeros, []⟩)]
    ∃ outcome kek wrapped,
      (Memory.client.perform ⟨Randomness.zeros, []⟩
        ((Strategy.enveloping .strict).encrypt .strict)
        (Memory.client.performAll calls .empty)).1 = .ok outcome ∧
      outcome.encryptedKey = some wrapped ∧
      KeyWrap.Registry.strict.wrap "AES" "Strict" kek (List.replicate 24 1) = .ok wrapped ∧
      (Strategy.AsksFor .strict .strict kek.length ∨
        ∃ call ∈ calls, ∃ earlier asking, call.1 = .encrypt earlier asking ∧
          Strategy.AsksFor earlier asking kek.length) := by
  intro bare calls
  have exact : Randomness.Source.IsExact Randomness.zeros := fun _ count => ⟨_, rfl, by simp⟩
  obtain ⟨outcome, succeeds⟩ := Checks.exists_ok_of_isOk
    (show (Memory.client.perform ⟨Randomness.zeros, []⟩
      ((Strategy.enveloping .strict).encrypt .strict)
      (Memory.client.performAll calls .empty)).1.isOk = true by decide +kernel)
  obtain ⟨suite, path, key, data, kek, rest, wrapped, -, -, -, given, carries, -, -, wrapping,
      -, origin⟩ :=
    wraps_under_what_was_asked_for .memory Memory.empty calls (by simp [calls, Call.Uses])
      (by simpa [calls] using exact) .strict .strict outcome ⟨Randomness.zeros, []⟩ exact succeeds
  obtain rfl : List.replicate 24 1 = key := Option.some.inj given
  refine ⟨outcome, kek, wrapped, succeeds, carries, wrapping, origin ?_⟩
  rintro ⟨replication, found⟩
  cases found

/-- The strict suite wraps under 16 bytes that are there already. -/
theorem Memory.not_wraps_under_listed_lengths_only :
    ¬∀ (registry : KeyWrap.Registry) (memory : Memory) (parameters outcome : Parameters)
        (suite : KeyWrap.Suite) (path : Text) (data kek rest : Bytes),
      (client.perform ⟨Randomness.zeros, []⟩ ((Strategy.enveloping registry).encrypt parameters)
        memory).1 = .ok outcome →
      registry.resolve (Strategy.algorithmName parameters) (Strategy.suiteName parameters) =
        .ok suite →
      Strategy.keyPath parameters = .ok path →
      Custody.Holds client path data
        (client.perform ⟨Randomness.zeros, []⟩ ((Strategy.enveloping registry).encrypt parameters)
          memory).2 →
      KeyRecord.decode data = .ok (kek, rest) → (kek.length : Int) ∈ suite.kekLengths := by
  intro listed
  obtain ⟨outcome, succeeds⟩ := Checks.exists_ok_of_isOk
    (show (client.perform ⟨Randomness.zeros, []⟩ ((Strategy.enveloping .strict).encrypt .strict)
      .sample).1.isOk = true by decide +kernel)
  have held : (client.serve (.openRecord "/key_guardian/crypto/secret/keyEncryptionKey")
      (client.perform ⟨Randomness.zeros, []⟩ ((Strategy.enveloping .strict).encrypt .strict)
        .sample).2).answer = .ok (KeyRecord.encode (List.replicate 16 7)) := by decide +kernel
  have length : ((List.replicate 16 (7 : UInt8)).length : Int) ∈ [(32 : Int)] :=
    listed .strict .sample .strict outcome ⟨"Strict", .plain, [], [32]⟩ _ _ _ [] succeeds (by rfl)
      (by rfl) held (by rfl)
  exact absurd length (by decide)

end Storage

end KeyEnvelope
