import KeyEnvelope.Proofs.KeyStore.Loading
import KeyEnvelope.Proofs.KeyStore.Reading
import KeyEnvelope.Proofs.KeyWrap.Wrapping
import KeyEnvelope.Strategy

/-!
# What a wrapped key was wrapped under

A strategy that wraps a key loads the key encryption key in any case, also if it has
just created it. What it wraps under is therefore what the record decodes to,
whoever published the record.
-/

namespace KeyEnvelope.Strategy

variable {Draft σ : Type} {contract : Contract (Surroundings.interface Draft) σ}

section Planning

variable {registry : KeyWrap.Registry} {parameters : Parameters} {plan : Plan} {failure : Failure}

theorem target_eq_ok_iff {path : Text} {key : Bytes} {suite : KeyWrap.Suite} :
    target registry parameters = .ok (path, key, suite) ↔
      keyPath parameters = .ok path ∧ parameters.plaintextKey = some key ∧
        registry.resolve (algorithmName parameters) (suiteName parameters) = .ok suite := by
  simp only [target, Checks.bind_eq_ok_iff]
  cases parameters.plaintextKey with
  | none => simp
  | some plaintext =>
    simp only [Checks.bind_eq_ok_iff, Checks.pure_eq_ok, Except.ok.injEq, Prod.mk.injEq,
      Option.some.injEq]
    constructor
    · rintro ⟨_, located, _, resolved, rfl, rfl, rfl⟩
      exact ⟨located, rfl, resolved⟩
    · rintro ⟨located, rfl, resolved⟩
      exact ⟨path, located, suite, resolved, rfl, rfl, rfl⟩

theorem checkKekBits_eq_ok_iff {suite : KeyWrap.Suite} {bits : Int} :
    suite.checkKekBits bits = .ok () ↔ suite.admitsKekBits bits = true := by
  simp [KeyWrap.Suite.checkKekBits]

theorem plan_eq_ok_iff :
    Strategy.plan registry parameters = .ok plan ↔
      ∃ suite, target registry parameters = .ok (plan.path, plan.key, suite) ∧
        suite.admitsKekBits parameters.keyLength = true ∧
        Setting.replication.resolveInt parameters.options = .ok plan.replication ∧
        Randomness.resolve parameters.generator parameters.provider = .ok plan.generator := by
  obtain ⟨path, key, replication, generator⟩ := plan
  simp only [Strategy.plan, Checks.bind_eq_ok_iff, Checks.pure_eq_ok, Except.ok.injEq,
    Plan.mk.injEq, ← checkKekBits_eq_ok_iff]
  constructor
  · rintro ⟨⟨path, key, suite⟩, targeted, _, checked, _, replicated, _, chosen, rfl, rfl, rfl, rfl⟩
    exact ⟨suite, targeted, checked, replicated, chosen⟩
  · rintro ⟨suite, targeted, checked, replicated, chosen⟩
    exact ⟨_, targeted, (), checked, _, replicated, _, chosen, rfl, rfl, rfl, rfl⟩

theorem configuration_of_keyPath_eq_error (fails : keyPath parameters = .error failure) :
    ∃ issue, failure = .configuration issue := by
  unfold keyPath at fails
  dsimp only at fails
  split at fails
  · exact ⟨_, (Except.error.inj fails).symm⟩
  · cases fails

theorem configuration_of_target_eq_error (fails : target registry parameters = .error failure) :
    ∃ issue, failure = .configuration issue := by
  simp only [target, Checks.bind_eq_error_iff] at fails
  rcases fails with fails | ⟨path, located, fails⟩
  · exact configuration_of_keyPath_eq_error fails
  · cases given : parameters.plaintextKey with
    | none =>
      simp only [given] at fails
      exact ⟨_, (Except.error.inj fails).symm⟩
    | some key =>
      simp only [given, Checks.bind_eq_error_iff] at fails
      rcases fails with fails | ⟨suite, resolved, fails⟩
      · exact KeyWrap.Registry.configuration_of_resolve_eq_error fails
      · cases fails

theorem configuration_of_resolveInt_eq_error {setting : Setting} {options : Options}
    (fails : setting.resolveInt options = .error failure) :
    ∃ issue, failure = .configuration issue := by
  unfold Setting.resolveInt at fails
  dsimp only at fails
  split at fails
  · cases fails
  · exact ⟨_, (Except.error.inj fails).symm⟩

/-- What goes wrong before the store is touched is a matter of configuration. -/
theorem configuration_of_plan_eq_error
    (fails : Strategy.plan registry parameters = .error failure) :
    ∃ issue, failure = .configuration issue := by
  simp only [Strategy.plan, Checks.bind_eq_error_iff] at fails
  rcases fails with
    fails | ⟨⟨path, key, suite⟩, -, fails | ⟨-, -, fails | ⟨replication, -, fails | ⟨_, -, fails⟩⟩⟩⟩
  · exact configuration_of_target_eq_error fails
  · unfold KeyWrap.Suite.checkKekBits at fails
    split at fails
    · cases fails
    · exact ⟨_, (Except.error.inj fails).symm⟩
  · exact configuration_of_resolveInt_eq_error fails
  · unfold Randomness.resolve at fails
    split at fails
    · exact ⟨_, (Except.error.inj fails).symm⟩
    · split at fails
      · cases fails
      · exact ⟨_, (Except.error.inj fails).symm⟩
  · cases fails

end Planning

/-- The outcome carries the key of the plan, wrapped under the key that the data of
a record decode to. -/
def Plan.Seals (plan : Plan) (registry : KeyWrap.Registry) (parameters : Parameters) (data : Bytes)
    (outcome : Parameters) : Prop :=
  ∃ kek rest wrapped, KeyRecord.decode data = .ok (kek, rest) ∧
    registry.wrap (algorithmName parameters) (suiteName parameters) kek plan.key = .ok wrapped ∧
    outcome = { parameters with encryptedKey := some wrapped, kekId := some plan.path }

theorem wrapPlanned_meets {holds : Text → Bytes → σ → Prop} (reveals : Reveals contract holds)
    (registry : KeyWrap.Registry) (parameters : Parameters) (plan : Plan) (state : σ) :
    (wrapPlanned registry parameters plan : Operation Draft Parameters).Meets contract
      (fun result next => ∀ outcome, result = .ok outcome →
        ∃ data, holds plan.path data next ∧ plan.Seals registry parameters data outcome)
      state := by
  simp only [wrapPlanned, Operation.meets_bind]
  apply (KeyStore.load_meets reveals plan.path).mono
  intro result loaded found
  cases result with
  | error failure => simp
  | ok kek =>
    obtain ⟨data, rest, held, decoded⟩ := found kek rfl
    apply (settle_meets (fun event => reveals.permits _) (fun _ _ _ _ => reveals.keepsNote)
      _ held).mono
    intro result next settled
    obtain ⟨rfl, heldAfter⟩ := settled
    cases wrapping : registry.wrap (algorithmName parameters)
      (suiteName parameters) kek plan.key with
    | error failure => simp
    | ok wrapped =>
      rintro outcome ⟨⟩
      exact ⟨data, heldAfter, kek, rest, wrapped, decoded, wrapping, rfl⟩

theorem wrap_meets {holds : Text → Bytes → σ → Prop} (reveals : Reveals contract holds)
    (registry : KeyWrap.Registry) (parameters : Parameters) (state : σ) :
    (wrap registry parameters : Operation Draft Parameters).Meets contract (fun result next =>
      ∀ outcome, result = .ok outcome → ∃ plan data, Strategy.plan registry parameters = .ok plan ∧
        holds plan.path data next ∧ plan.Seals registry parameters data outcome) state := by
  simp only [wrap, Operation.meets_bind, Operation.meets_ofExcept]
  cases planned : plan registry parameters with
  | error failure => simp
  | ok plan =>
    refine Operation.Meets.mono (fun result ensured _ => ?_)
      (Procedure.meets_trivial reveals.permits _ state)
    cases result with
    | error failure => simp
    | ok created =>
      apply (wrapPlanned_meets reveals registry parameters plan ensured).mono
      intro result next found outcome succeeds
      obtain ⟨data, held, sealed⟩ := found outcome succeeds
      exact ⟨plan, data, rfl, held, sealed⟩

/-- The outcome carries what the given wrapped key is unwrapped to, under the key that the
data of the record decode to. -/
def Opens (registry : KeyWrap.Registry) (parameters : Parameters) (data : Bytes)
    (outcome : Parameters) : Prop :=
  ∃ kek rest wrapped key, KeyRecord.decode data = .ok (kek, rest) ∧
    parameters.encryptedKey = some wrapped ∧
    registry.unwrap (algorithmName parameters) (suiteName parameters) kek wrapped = .ok key ∧
    outcome = { parameters with plaintextKey := some key }

theorem unwrap_opens {holds : Text → Bytes → σ → Prop} (reveals : Reveals contract holds)
    (registry : KeyWrap.Registry) (parameters : Parameters) (state : σ) :
    (unwrap registry parameters : Operation Draft Parameters).Meets contract (fun result next =>
      ∀ outcome, result = .ok outcome → ∃ path data, keyPath parameters = .ok path ∧
        holds path data next ∧ Opens registry parameters data outcome) state := by
  simp only [unwrap, Operation.meets_bind, Operation.meets_ofExcept]
  cases located : keyPath parameters with
  | error failure => simp
  | ok path =>
    cases given : parameters.encryptedKey with
    | none => simp
    | some wrapped =>
      simp only [Operation.meets_bind, Operation.meets_ofExcept]
      cases Setting.replication.resolveInt parameters.options with
      | error failure => simp
      | ok replication =>
        refine Operation.Meets.mono (fun result looked _ => ?_)
          (Procedure.meets_trivial reveals.permits _ state)
        rcases result with failure | _ | _
        · simp
        · refine ⟨reveals.permits _, ?_⟩
          intro _ _ _ outcome succeeds
          cases succeeds
        · simp only [if_true, Operation.meets_bind]
          apply (KeyStore.load_meets reveals path).mono
          intro result loaded found
          cases result with
          | error failure => simp
          | ok kek =>
            obtain ⟨data, rest, held, decoded⟩ := found kek rfl
            apply (settle_meets (fun event => reveals.permits _)
              (fun _ _ _ _ => reveals.keepsNote) _ held).mono
            rintro _ next ⟨rfl, heldAfter⟩
            cases unwrapping : registry.unwrap (algorithmName parameters)
              (suiteName parameters) kek wrapped with
            | error failure => simp
            | ok key =>
              rintro outcome ⟨⟩
              exact ⟨path, data, rfl, heldAfter, kek, rest, wrapped, key, decoded, given,
                unwrapping, by rw [given]⟩

/-- What wrapping comes to is decided by the record that is there. -/
theorem wrapPlanned_of_offers {registry : KeyWrap.Registry} {parameters : Parameters}
    {plan : Plan} {data rest kek : Bytes} {offered : σ → Prop}
    (offers : Offers contract plan.path data offered)
    (decoded : KeyRecord.decode data = .ok (kek, rest)) {state : σ} (offeredNow : offered state) :
    (wrapPlanned registry parameters plan : Operation Draft Parameters).Meets contract
      (fun result _ => result =
        (registry.wrap (algorithmName parameters) (suiteName parameters) kek plan.key).map
          fun wrapped =>
            { parameters with encryptedKey := some wrapped, kekId := some plan.path }) state := by
  simp only [wrapPlanned, Operation.meets_bind]
  apply (KeyStore.load_of_offers offers offeredNow).mono
  rintro result next ⟨rfl, offeredLoaded⟩
  simp only [decoded, Except.map, Except.mapError]
  apply (settle_meets (fun event => offers.permits _) (fun _ _ _ _ => offers.notes)
    _ offeredLoaded).mono
  rintro result next ⟨rfl, -⟩
  cases registry.wrap (algorithmName parameters) (suiteName parameters) kek plan.key with
  | error failure => exact rfl
  | ok wrapped => exact rfl

/-- A key is wrapped under the record that is there, and no other is created. -/
theorem wrap_of_offers {registry : KeyWrap.Registry} {parameters : Parameters} {plan : Plan}
    {data rest kek wrapped : Bytes} {offered : σ → Prop}
    (planned : Strategy.plan registry parameters = .ok plan)
    (offers : Offers contract plan.path data offered)
    (wholeBytes : ¬(parameters.keyLength ≤ 0 ∨ parameters.keyLength % 8 ≠ 0))
    (decoded : KeyRecord.decode data = .ok (kek, rest))
    (wrapping : registry.wrap (algorithmName parameters) (suiteName parameters) kek plan.key =
      .ok wrapped)
    {state : σ} (offeredNow : offered state) :
    (wrap registry parameters : Operation Draft Parameters).Meets contract
      (fun result _ => result = .ok
        { parameters with encryptedKey := some wrapped, kekId := some plan.path }) state := by
  simp only [wrap, KeyStore.ensure, Operation.meets_bind, Operation.meets_ofExcept, planned]
  rw [if_neg wholeBytes, Operation.meets_bind]
  apply (KeyStore.contains_of_offers offers offeredNow).mono
  rintro result next ⟨rfl, offeredThen⟩
  apply (wrapPlanned_of_offers offers decoded offeredThen).mono
  rintro result next rfl
  simp only [wrapping, Except.map]

/-- Nothing but the record at the path decides what a wrapped key is unwrapped to. -/
theorem unwrap_meets {registry : KeyWrap.Registry} {parameters : Parameters} {path : Text}
    {data rest kek wrapped key : Bytes} {replication : Int} {offered : σ → Prop}
    (offers : Offers contract path data offered)
    (located : keyPath parameters = .ok path) (given : parameters.encryptedKey = some wrapped)
    (replicated : Setting.replication.resolveInt parameters.options = .ok replication)
    (decoded : KeyRecord.decode data = .ok (kek, rest))
    (unwrapping : registry.unwrap (algorithmName parameters) (suiteName parameters) kek wrapped =
      .ok key)
    {state : σ} (offeredNow : offered state) :
    (unwrap registry parameters : Operation Draft Parameters).Meets contract
      (fun result _ => result = .ok { parameters with plaintextKey := some key }) state := by
  simp only [unwrap, Operation.meets_bind, Operation.meets_ofExcept, located, given, replicated]
  apply (KeyStore.contains_of_offers offers offeredNow).mono
  rintro result next ⟨rfl, offeredThen⟩
  simp only [if_true, Operation.meets_bind]
  apply (KeyStore.load_of_offers offers offeredThen).mono
  rintro result next ⟨rfl, offeredLoaded⟩
  simp only [decoded, Except.map, Except.mapError, unwrapping]
  apply (settle_meets (fun event => offers.permits _) (fun _ _ _ _ => offers.notes)
    (.ok key) offeredLoaded).mono
  rintro result next ⟨rfl, -⟩
  exact rfl

end KeyEnvelope.Strategy
