import KeyEnvelope.Proofs.Atomicity
import KeyEnvelope.Proofs.Recovery

/-!
# Settings for creation

The length of a key encryption key, its random generator and its replication matter only
when it is created. Unwrapping comes to the same whatever they are, with one exception: the
replication that is asked for is read in any case, and must be a number.
-/

namespace KeyEnvelope

open Storage

/-- The parameters differ at most in what is asked for when a key encryption key is
created. -/
structure Parameters.DiffersInCreation (parameters other : Parameters) : Prop where
  algorithm : parameters.algorithm = other.algorithm
  suite : parameters.suite = other.suite
  plaintextKey : parameters.plaintextKey = other.plaintextKey
  encryptedKey : parameters.encryptedKey = other.encryptedKey
  kekId : parameters.kekId = other.kekId
  options : ∀ key, key ≠ Setting.replication.key →
    Assoc.get? key parameters.options = Assoc.get? key other.options

namespace Strategy

variable {Draft : Type} {registry : KeyWrap.Registry} {parameters other : Parameters}
  {path : Text} {wrapped : Bytes} {failure : Failure}

/-- Looks up the key encryption key at a path and unwraps with it. -/
def unwrapUnder (registry : KeyWrap.Registry) (parameters : Parameters) (path : Text)
    (wrapped : Bytes) : Operation Draft Bytes := do
  if ← KeyStore.contains path then
    let kek ← KeyStore.load path
    settle (registry.unwrap (algorithmName parameters) (suiteName parameters) kek wrapped)
  else
    Operation.note (missingEvent path)
    throw (.kekMissing path none)

/-- The replication that is asked for is a number. -/
def checkReplication (parameters : Parameters) : Except Failure Unit := do
  let _ ← Setting.replication.resolveInt parameters.options

/-- The checks before the store is looked at. -/
def checkUnwrapping (parameters : Parameters) : Except Failure (Text × Bytes) := do
  let path ← keyPath parameters
  let some wrapped := parameters.encryptedKey | throw (.configuration .noEncryptedKey)
  checkReplication parameters
  return (path, wrapped)

theorem unwrap_of_check (checked : checkUnwrapping parameters = .ok (path, wrapped)) :
    (unwrap registry parameters : Operation Draft Parameters) =
      unwrapUnder registry parameters path wrapped >>= fun key =>
        pure { parameters with plaintextKey := some key } := by
  simp only [checkUnwrapping, Checks.bind_eq_ok_iff] at checked
  obtain ⟨found, located, rest⟩ := checked
  cases given : parameters.encryptedKey with
  | none => simp [given] at rest
  | some carried =>
    simp only [given, checkReplication, Checks.bind_eq_ok_iff, Checks.pure_eq_ok, Except.ok.injEq,
      Prod.mk.injEq] at rest
    obtain ⟨_, ⟨replication, replicated, -⟩, rfl, rfl⟩ := rest
    simp only [unwrap, unwrapUnder, located, given, replicated, Operation.bind_assoc]
    refine congrArg (KeyStore.contains found >>= ·) (funext fun present => ?_)
    cases present with
    | true => exact (Operation.bind_assoc _ _ _).symm
    | false => rfl

theorem unwrap_of_check_eq_error (refused : checkUnwrapping parameters = .error failure) :
    (unwrap registry parameters : Operation Draft Parameters) = throw failure := by
  simp only [checkUnwrapping, Checks.bind_eq_error_iff] at refused
  rcases refused with lost | ⟨found, located, rest⟩
  · rw [unwrap, lost]
    rfl
  · cases given : parameters.encryptedKey with
    | none =>
      simp only [given, Checks.throw_eq_error, Except.error.injEq] at rest
      subst rest
      simp only [unwrap, located, given]
      rfl
    | some carried =>
      simp only [given, checkReplication, Checks.bind_eq_error_iff] at rest
      rcases rest with (wrong | ⟨replication, -, wrong⟩) | ⟨_, -, wrong⟩
      · simp only [unwrap, located, given, wrong]
        rfl
      · cases wrong
      · cases wrong

section Differing

variable (differ : parameters.DiffersInCreation other)

include differ

theorem resolve_of_differs (setting : Setting) (different : setting.key ≠ Setting.replication.key) :
    setting.resolve parameters.options = setting.resolve other.options := by
  simp only [Setting.resolve, differ.options _ different]

theorem keyPath_of_differs : keyPath parameters = keyPath other := by
  simp only [keyPath, resolve_of_differs differ .keyLocation (by simp [Setting.key]),
    resolve_of_differs differ .storeDir (by simp [Setting.key])]

theorem checkUnwrapping_of_differs
    (readable : checkReplication parameters = checkReplication other) :
    checkUnwrapping parameters = checkUnwrapping other := by
  simp only [checkUnwrapping, keyPath_of_differs differ, differ.encryptedKey, readable]

theorem unwrapUnder_of_differs (path : Text) (wrapped : Bytes) :
    (unwrapUnder registry parameters path wrapped : Operation Draft Bytes) =
      unwrapUnder registry other path wrapped := by
  have sameSuite : suiteName parameters = suiteName other := by
    simp only [suiteName, differ.suite, resolve_of_differs differ .cipherSuite
      (by simp [Setting.key])]
  simp only [unwrapUnder, algorithmName, differ.algorithm, sameSuite]

end Differing

end Strategy

/-- Both come to the same result and the same key, and leave the same store behind. -/
structure Filled.ComesToSameKey {α σ : Type} (filled other : Filled α σ) : Prop where
  result : filled.result = other.result
  plaintextKey : filled.parameters.plaintextKey = other.parameters.plaintextKey
  state : filled.state = other.state

namespace Storage

namespace Client

variable {client : Client} {registry : KeyWrap.Registry} {parameters other : Parameters}
  {conditions : Conditions} {state : client.State}

theorem perform_map {α β : Type} (operation : Operation client.Draft α) (finish : α → β) :
    client.perform conditions (operation >>= fun value => pure (finish value)) state =
      let performed := client.perform conditions operation state
      (performed.1.map finish, performed.2) := by
  rcases performed : client.perform conditions operation state with ⟨failure | value, after⟩
  · exact perform_bind_of_error performed
  · obtain ⟨later, same⟩ := perform_bind_of_ok performed
    exact same

theorem fill_decryptInto_of_ok {strategy : Strategy} {outcome : Parameters}
    (decrypts : (client.perform conditions (strategy.decrypt parameters) state).1 = .ok outcome) :
    (client.fill conditions strategy.decryptInto parameters state).result = .ok () ∧
      (client.fill conditions strategy.decryptInto parameters state).parameters = outcome := by
  simp only [fill_decryptInto, decrypts, Filling.takeOver]
  exact ⟨trivial, trivial⟩

/-- Parameters that pass the same checks are filled in with the same key. -/
theorem fill_decryptInto_of_differs (differ : parameters.DiffersInCreation other)
    (readable : Strategy.checkReplication parameters = Strategy.checkReplication other) :
    (client.fill conditions (Strategy.enveloping registry).decryptInto parameters
      state).ComesToSameKey
      (client.fill conditions (Strategy.enveloping registry).decryptInto other state) := by
  have same := Strategy.checkUnwrapping_of_differs differ readable
  simp only [fill_decryptInto, Strategy.decrypt]
  cases checked : Strategy.checkUnwrapping parameters with
  | error failure =>
    rw [Strategy.unwrap_of_check_eq_error checked,
      Strategy.unwrap_of_check_eq_error (same.symm.trans checked)]
    exact ⟨rfl, differ.plaintextKey, rfl⟩
  | ok found =>
    obtain ⟨path, wrapped⟩ := found
    rw [Strategy.unwrap_of_check checked, Strategy.unwrap_of_check (same.symm.trans checked),
      perform_map, perform_map, Strategy.unwrapUnder_of_differs differ]
    rcases client.perform conditions (Strategy.unwrapUnder registry other path wrapped) state with
      ⟨failure | key, after⟩
    · exact ⟨rfl, differ.plaintextKey, rfl⟩
    · exact ⟨rfl, rfl, rfl⟩

theorem fill_decryptInto_of_unreadable {path : Text} {wrapped : Bytes} {failure : Failure}
    (located : Strategy.keyPath parameters = .ok path)
    (given : parameters.encryptedKey = some wrapped)
    (unreadable : Strategy.checkReplication parameters = .error failure) :
    client.fill conditions (Strategy.enveloping registry).decryptInto parameters state =
      ⟨.error failure, parameters, state⟩ := by
  have refused : Strategy.checkUnwrapping parameters = .error failure := by
    simp [Strategy.checkUnwrapping, located, given, unreadable]
  simp only [fill_decryptInto, Strategy.decrypt, Strategy.unwrap_of_check_eq_error refused]
  rfl

/-- Of parameters that differ only in what is asked for at creation, unwrapping makes the same,
if the replication that they ask for is read alike. If it is no number, that is what unwrapping
fails for, and the store is not looked at. -/
theorem unwrapping_depends_on_readable_replication (client : Client) (registry : KeyWrap.Registry)
    (parameters other : Parameters) (differ : parameters.DiffersInCreation other)
    (conditions : Conditions) (state : client.State) :
    let strategy := Strategy.enveloping registry
    let first := client.fill conditions strategy.decryptInto parameters state
    let second := client.fill conditions strategy.decryptInto other state
    (Strategy.checkReplication parameters = Strategy.checkReplication other →
      first.ComesToSameKey second) ∧
    ∀ path wrapped failure, Strategy.keyPath parameters = .ok path →
      parameters.encryptedKey = some wrapped →
      Strategy.checkReplication parameters = .error failure →
      first = ⟨.error failure, parameters, state⟩ :=
  ⟨fill_decryptInto_of_differs differ, fun _ _ _ => fill_decryptInto_of_unreadable⟩

end Client

/-- A reader for whom key encryption keys would be longer and made otherwise makes the same of
a wrapped key. -/
theorem Memory.unwrapping_depends_on_readable_replication_only :
    let reader : Parameters :=
      { Parameters.empty with
        algorithm := some "AES", encryptedKey := some (List.replicate 24 1),
        options := [(Setting.replication.key, " +0_3 ")] }
    let other : Parameters :=
      { reader with keyLength := 100, generator := some "dice", options := [] }
    let strategy := Strategy.enveloping .builtIn
    let conditions : Conditions :=
      ⟨Randomness.zeros, [none, some (.fault (.coded .noEntry))]⟩
    reader.DiffersInCreation other ∧
    Strategy.checkReplication reader = Strategy.checkReplication other ∧
    (client.fill conditions strategy.decryptInto reader .sample).ComesToSameKey
      (client.fill conditions strategy.decryptInto other .sample) := by
  intro reader other strategy conditions
  have differ : reader.DiffersInCreation other :=
    ⟨rfl, rfl, rfl, rfl, rfl, fun key different => if_neg (Ne.symm different)⟩
  have readable : Strategy.checkReplication reader = Strategy.checkReplication other := by rfl
  exact ⟨differ, readable,
    (client.unwrapping_depends_on_readable_replication .builtIn reader other differ conditions
      .sample).1 readable⟩

/-- What was wrapped is unwrapped by a reader that asks for five copies of a new key encryption
key, but not by one that writes the number as a word. -/
theorem Memory.unwrapping_fails_for_unreadable_replication :
    ∃ outcome memory,
      client.perform ⟨Randomness.zeros, []⟩ ((Strategy.enveloping .builtIn).encrypt .sample)
        .sample = (.ok outcome, memory) ∧
      let reader (replication : Text) : Parameters :=
        { Parameters.sample with
          plaintextKey := none, encryptedKey := outcome.encryptedKey,
          options := [(Setting.replication.key, replication)] }
      let strategy := Strategy.enveloping .builtIn
      let first := client.fill ⟨Randomness.zeros, []⟩ strategy.decryptInto (reader "5") memory
      let second := client.fill ⟨Randomness.zeros, []⟩ strategy.decryptInto (reader "five") memory
      (reader "5").DiffersInCreation (reader "five") ∧
      first.result = .ok () ∧ first.parameters.plaintextKey = some (List.replicate 24 1) ∧
      second.result = .error (.configuration (.notInteger Setting.replication.key "five")) ∧
      second.parameters.plaintextKey = none := by
  obtain ⟨outcome, succeeds⟩ := Parameters.wrap_sample
  have unwraps (reader : Parameters) (carries : reader.encryptedKey = outcome.encryptedKey)
      (optionless : reader.options = []) (sameSuite : reader.suite = none)
      (named : (Strategy.algorithmName reader).isBlankText = false) :=
    custody.unwraps succeeds (custody.refl _) carries optionless sameSuite named Randomness.zeros
  rcases performed : client.perform ⟨Randomness.zeros, []⟩
    ((Strategy.enveloping .builtIn).encrypt .sample) .sample with ⟨result, memory⟩
  rw [performed] at succeeds
  obtain rfl : result = .ok outcome := succeeds
  change client.perform _ (Strategy.wrap .builtIn .sample) _ = _ at performed
  rw [performed] at unwraps
  refine ⟨outcome, memory, rfl, ?_⟩
  obtain ⟨wrapped, path, located, rfl⟩ :=
    Client.perform_wrap_of_ok custody (congrArg Prod.fst performed)
  intro reader strategy first second
  have differ : (reader "5").DiffersInCreation (reader "five") :=
    ⟨rfl, rfl, rfl, rfl, rfl, fun key different =>
      (if_neg (Ne.symm different)).trans (if_neg (Ne.symm different)).symm⟩
  -- Five is the default, too: a reader without options is known to unwrap what was wrapped.
  let plain : Parameters := { reader "5" with options := [] }
  have toPlain (replication : Text) : (reader replication).DiffersInCreation plain :=
    ⟨rfl, rfl, rfl, rfl, rfl, fun key different => if_neg (Ne.symm different)⟩
  have alike : first.ComesToSameKey
      (client.fill ⟨Randomness.zeros, []⟩ strategy.decryptInto plain memory) :=
    Client.fill_decryptInto_of_differs (toPlain "5") (by rfl)
  obtain ⟨result, filled⟩ :
      (client.fill ⟨Randomness.zeros, []⟩ strategy.decryptInto plain memory).result = .ok () ∧ _ :=
    Client.fill_decryptInto_of_ok (unwraps plain rfl rfl rfl (by rfl))
  have unreadable : Strategy.checkReplication (reader "five") =
      .error (.configuration (.notInteger Setting.replication.key "five")) := by rfl
  have refused : second = ⟨.error _, reader "five", memory⟩ :=
    Client.fill_decryptInto_of_unreadable
      ((Strategy.keyPath_of_differs (toPlain "five")).trans located) rfl unreadable
  rw [alike.result, result, alike.plaintextKey, filled, refused]
  exact ⟨differ, rfl, rfl, rfl, rfl⟩

end Storage

end KeyEnvelope
