import KeyEnvelope.Proofs.Configuration.Integers
import KeyEnvelope.Proofs.CreationSettings
import KeyEnvelope.Proofs.Ownership
import KeyEnvelope.Proofs.Secrecy

/-!
# Implied and explicit defaults

A setting that is not among the options is read as its default. It makes no difference
therefore whether defaults are left out of the options or put into them: the parameters for
either are refused alike, ask the same of a store and are wrapped into the same, and what was
wrapped for one is unwrapped for the other.
-/

namespace KeyEnvelope

namespace Setting

/-- Each setting is read from both options as the same text. -/
def ReadAlike (options other : Options) : Prop :=
  ∀ setting : Setting, setting.resolve options = setting.resolve other

variable {options other : Options}

theorem ReadAlike.resolveInt (alike : ReadAlike options other) (setting : Setting) :
    setting.resolveInt options = setting.resolveInt other := by
  simp only [Setting.resolveInt, alike setting]

theorem readAlike_resolvedOptions {configuration : Configuration}
    (distinct : (configuration.options.map Prod.fst).Nodup) :
    ReadAlike configuration.resolvedOptions configuration.options := by
  intro setting
  have isDefault : Assoc.get? setting.key defaults = some setting.default :=
    get?_defaults_eq_some_iff.mpr ⟨setting, rfl, rfl⟩
  rw [resolve, resolve, Configuration.get?_resolvedOptions distinct, isDefault]
  cases Assoc.get? setting.key configuration.options <;> rfl

end Setting

variable {parameters : Parameters} {options : Options}
  {configuration : Configuration}

namespace Parameters

/-- Asks for the same but with these options. -/
def withOptions (parameters : Parameters) (options : Options) : Parameters :=
  { parameters with options }

theorem parametersFor_eq (distinct : (configuration.options.map Prod.fst).Nodup) :
    Bootstrap.parametersFor configuration = (ofOptions configuration.options).map
      fun parameters => parameters.withOptions configuration.resolvedOptions := by
  have alike := Setting.readAlike_resolvedOptions distinct
  unfold Bootstrap.parametersFor ofOptions
  rw [alike.resolveInt, alike, alike, alike, alike]
  cases Setting.keyLength.resolveInt configuration.options <;> rfl

end Parameters

namespace Strategy

variable {Draft : Type} {registry : KeyWrap.Registry}

theorem suiteName_withOptions (alike : Setting.ReadAlike options parameters.options) :
    suiteName (parameters.withOptions options) = suiteName parameters := by
  rw [suiteName, suiteName, Parameters.withOptions, alike]

theorem plan_withOptions (alike : Setting.ReadAlike options parameters.options) :
    plan registry (parameters.withOptions options) = plan registry parameters := by
  have samePath : keyPath (parameters.withOptions options) = keyPath parameters := by
    rw [keyPath, keyPath, Parameters.withOptions, alike, alike]
  have sameReplication : Setting.replication.resolveInt (parameters.withOptions options).options =
      Setting.replication.resolveInt parameters.options :=
    alike.resolveInt .replication
  unfold plan target
  rw [suiteName_withOptions alike, samePath, sameReplication]
  rfl

/-- Wrapping depends on the options only for what the settings are read as. -/
theorem wrap_withOptions (alike : Setting.ReadAlike options parameters.options) :
    (wrap registry (parameters.withOptions options) : Operation Draft Parameters) =
      wrap registry parameters >>= fun outcome => pure (outcome.withOptions options) := by
  simp only [wrap, wrapPlanned, plan_withOptions alike, suiteName_withOptions alike,
    Operation.bind_assoc]
  rfl

end Strategy

/-- Both come to the same result, the same wrapped key under the same key encryption key, and leave
the same store behind. -/
structure Filled.ComesToSameWrappedKey {α σ : Type} (filled other : Filled α σ) : Prop where
  result : filled.result = other.result
  encryptedKey : filled.parameters.encryptedKey = other.parameters.encryptedKey
  kekId : filled.parameters.kekId = other.parameters.kekId
  state : filled.state = other.state

namespace Storage

namespace Client

variable {client : Client} {conditions : Conditions} {state : client.State}
  {registry : KeyWrap.Registry} {outcome reader : Parameters}

theorem sights_map {α β : Type} (operation : Operation client.Draft α) (finish : α → β) :
    client.sights conditions (operation >>= fun value => pure (finish value)).run state =
      client.sights conditions operation.run state := by
  have split : (operation >>= fun value => pure (finish value)).run =
      operation.run.bind fun result => .done (result.map finish) := by
    refine congrArg operation.run.bind (funext fun result => ?_)
    cases result <;> rfl
  rw [sights, split, Procedure.observe_bind]
  exact List.append_nil _

/-- Parameters that are read alike are filled in with the same wrapped key. -/
theorem fill_encryptInto_withOptions (alike : Setting.ReadAlike options parameters.options) :
    (client.fill conditions (Strategy.enveloping registry).encryptInto parameters
      state).ComesToSameWrappedKey
      (client.fill conditions (Strategy.enveloping registry).encryptInto
        (parameters.withOptions options) state) := by
  simp only [fill_encryptInto, Strategy.encrypt, Strategy.wrap_withOptions alike, perform_map]
  rcases client.perform conditions (Strategy.wrap registry parameters) state with
    ⟨failure | outcome, after⟩
  · exact ⟨rfl, rfl, rfl, rfl⟩
  · exact ⟨rfl, rfl, rfl, rfl⟩

theorem sights_encryptInto_withOptions (alike : Setting.ReadAlike options parameters.options) :
    client.sights conditions ((Strategy.enveloping registry).encryptInto.start
        (parameters.withOptions options)) state =
      client.sights conditions ((Strategy.enveloping registry).encryptInto.start parameters)
        state := by
  simp only [sights_encryptInto, Strategy.encrypt, Strategy.wrap_withOptions alike, sights_map]

theorem isNamed_of_wrap (custody : Custody client)
    (succeeds : (client.perform conditions (Strategy.wrap registry parameters) state).1 =
      .ok outcome) :
    (Strategy.algorithmName parameters).isBlankText = false := by
  obtain ⟨plan, _, planned, _⟩ :=
    client.perform_disturbed
      (Strategy.wrap_meets (custody.reveals conditions.source) registry parameters state)
      outcome succeeds
  obtain ⟨suite, targeted, _⟩ := Strategy.plan_eq_ok_iff.mp planned
  obtain ⟨_, _, resolved⟩ := Strategy.target_eq_ok_iff.mp targeted
  exact (KeyWrap.Registry.resolve_eq_ok_iff.mp resolved).1

/-- What was wrapped is unwrapped at once by a reader that names the same key encryption key. -/
theorem fill_decryptInto_of_wrap (custody : Custody client)
    (succeeds : (client.fill conditions (Strategy.enveloping registry).encryptInto parameters
      state).result = .ok ())
    (carries : reader.encryptedKey = (client.fill conditions
      (Strategy.enveloping registry).encryptInto parameters state).parameters.encryptedKey)
    (agrees : reader.AgreesWith parameters) (source : Randomness.Source) :
    let unwrapped := client.fill ⟨source, []⟩ (Strategy.enveloping registry).decryptInto reader
      (client.fill conditions (Strategy.enveloping registry).encryptInto parameters state).state
    unwrapped.result = .ok () ∧ unwrapped.parameters.plaintextKey = parameters.plaintextKey := by
  simp only [fill_encryptInto] at succeeds carries ⊢
  have achieved := Filling.takeOver_of_ok succeeds
  have named : (Strategy.algorithmName reader).isBlankText = false := by
    rw [Strategy.algorithmName, agrees.algorithm]
    exact isNamed_of_wrap custody achieved
  have unwraps : (client.perform ⟨source, []⟩ ((Strategy.enveloping registry).decrypt reader)
      (client.perform conditions ((Strategy.enveloping registry).encrypt parameters) state).2).1 =
        .ok { reader with plaintextKey := parameters.plaintextKey } :=
    custody.unwraps achieved (custody.refl _) carries agrees.options agrees.suite named source
  obtain ⟨result, filled⟩ := fill_decryptInto_of_ok unwraps
  rw [filled]
  exact ⟨result, rfl⟩

/-- Whoever has had a key wrapped can have it unwrapped. -/
theorem fill_decryptInto_of_replaced (custody : Custody client) {key : Option Bytes}
    (succeeds : (client.fill conditions (Strategy.enveloping registry).encryptInto
      (parameters.replacePlaintextKey key) state).result = .ok ()) (source : Randomness.Source) :
    let wrapped := client.fill conditions (Strategy.enveloping registry).encryptInto
      (parameters.replacePlaintextKey key) state
    let unwrapped := client.fill ⟨source, []⟩ (Strategy.enveloping registry).decryptInto
      (parameters.replaceEncryptedKey wrapped.parameters.encryptedKey) wrapped.state
    unwrapped.result = .ok () ∧ unwrapped.parameters.plaintextKey = key := by
  intro wrapped unwrapped
  have carries : (parameters.replaceEncryptedKey wrapped.parameters.encryptedKey).encryptedKey =
      wrapped.parameters.encryptedKey := rfl
  have agrees : (parameters.replaceEncryptedKey wrapped.parameters.encryptedKey).AgreesWith
      (parameters.replacePlaintextKey key) :=
    ⟨rfl, rfl, rfl⟩
  exact fill_decryptInto_of_wrap custody succeeds carries agrees source

end Client

namespace Location

/-- Parameters for which the defaults are implied and those for which they are explicit are refused
alike. They have a key wrapped to the same, and ask and show the same meanwhile, whatever goes
wrong; and what was wrapped for one sort is unwrapped at once for the other. -/
theorem implied_defaults_are_as_explicit (location : Location) (registry : KeyWrap.Registry)
    (configuration : Configuration) (distinct : (configuration.options.map Prod.fst).Nodup) :
    (∀ failure, Parameters.ofOptions configuration.options = .error failure ↔
      Bootstrap.parametersFor configuration = .error failure) ∧
    ∀ implied explicit, Parameters.ofOptions configuration.options = .ok implied →
      Bootstrap.parametersFor configuration = .ok explicit → ∀ key conditions state,
      let strategy := Strategy.enveloping registry
      let client := location.client
      let encrypt (parameters : Parameters) := client.fill conditions strategy.encryptInto
        (parameters.replacePlaintextKey key) state
      let sights (parameters : Parameters) := client.sights conditions
        (strategy.encryptInto.start (parameters.replacePlaintextKey key)) state
      (encrypt implied).ComesToSameWrappedKey (encrypt explicit) ∧
      sights implied = sights explicit ∧
      ((encrypt implied).result = .ok () → ∀ source,
        let decrypt (reader writer : Parameters) := client.fill ⟨source, []⟩ strategy.decryptInto
          (reader.replaceEncryptedKey (encrypt writer).parameters.encryptedKey)
          (encrypt writer).state
        (decrypt explicit implied).result = .ok () ∧
        (decrypt explicit implied).parameters.plaintextKey = key ∧
        (decrypt implied explicit).result = .ok () ∧
        (decrypt implied explicit).parameters.plaintextKey = key) := by
  have alike := Setting.readAlike_resolvedOptions distinct
  have built := Parameters.parametersFor_eq distinct
  constructor
  · intro failure
    rw [built]
    cases Parameters.ofOptions configuration.options <;> simp [Except.map]
  · intro implied explicit builtImplied builtExplicit key conditions state strategy client encrypt
      sights
    rw [built, builtImplied] at builtExplicit
    obtain rfl : implied.withOptions configuration.resolvedOptions = explicit :=
      Except.ok.inj builtExplicit
    rw [← Parameters.options_of_ofOptions builtImplied] at alike
    -- To put a key in and to put the options in come to the same, whichever is first.
    let put := implied.replacePlaintextKey key
    have swap : (implied.withOptions configuration.resolvedOptions).replacePlaintextKey key =
        put.withOptions configuration.resolvedOptions := rfl
    have alike : Setting.ReadAlike configuration.resolvedOptions put.options := alike
    have same : (encrypt implied).ComesToSameWrappedKey
        (encrypt (implied.withOptions configuration.resolvedOptions)) := by
      simp only [encrypt, swap]
      exact Client.fill_encryptInto_withOptions alike
    refine ⟨same, ?_, ?_⟩
    · simp only [sights, swap]
      exact (Client.sights_encryptInto_withOptions alike).symm
    · intro succeeds source decrypt
      -- Both wrapped the same, so each reads as if it had wrapped it itself.
      have own (bag : Parameters) (succeeds : (encrypt bag).result = .ok ()) :
          (decrypt bag bag).result = .ok () ∧ (decrypt bag bag).parameters.plaintextKey = key :=
        Client.fill_decryptInto_of_replaced location.custody succeeds source
      have crossed : decrypt (implied.withOptions configuration.resolvedOptions) implied =
          decrypt (implied.withOptions configuration.resolvedOptions)
            (implied.withOptions configuration.resolvedOptions) := by
        simp only [decrypt, same.encryptedKey, same.state]
      have crossedBack : decrypt implied (implied.withOptions configuration.resolvedOptions) =
          decrypt implied implied := by
        simp only [decrypt, same.encryptedKey, same.state]
      rw [crossed, crossedBack]
      obtain ⟨result, given⟩ := own _ (same.result ▸ succeeds)
      exact ⟨result, given, own implied succeeds⟩

/-- Of two options that are given, one is no setting. A key that is wrapped while the other
defaults are implied is unwrapped while they are spelled out. -/
theorem implied_defaults_are_as_explicit_for_192_bits :
    let options : Options := [("unknown", "5"), (Setting.keyLength.key, " 192 ")]
    let implied : Parameters := ⟨some "AES", some "AESWrap", 192, none, none, none,
      some "urandom", some "os", options⟩
    let key := List.replicate 16 1
    let client := Location.memory.client
    let strategy := Strategy.enveloping .builtIn
    let wrapped := client.fill ⟨Randomness.zeros, []⟩ strategy.encryptInto
      (implied.replacePlaintextKey (some key)) Memory.empty
    Parameters.ofOptions options = .ok implied ∧ wrapped.result = .ok () ∧
    ∃ explicit, Bootstrap.parametersFor ⟨"INFO", options⟩ = .ok explicit ∧
      let unwrapped := client.fill ⟨Randomness.zeros, []⟩ strategy.decryptInto
        (explicit.replaceEncryptedKey wrapped.parameters.encryptedKey) wrapped.state
      unwrapped.result = .ok () ∧ unwrapped.parameters.plaintextKey = some key := by
  intro options implied key
  dsimp only
  have distinct : (options.map Prod.fst).Nodup := by
    simp [options, Setting.key]
  have builtImplied : Parameters.ofOptions options = .ok implied := by
    decide +kernel
  obtain ⟨explicit, builtExplicit⟩ := Checks.exists_ok_of_isOk
    (show (Bootstrap.parametersFor ⟨"INFO", options⟩).isOk = true by decide +kernel)
  have succeeds : (Location.memory.client.fill ⟨Randomness.zeros, []⟩
      (Strategy.enveloping .builtIn).encryptInto (implied.replacePlaintextKey (some key))
      Memory.empty).result = .ok () := by
    decide +kernel
  obtain ⟨_, alike⟩ :=
    implied_defaults_are_as_explicit .memory .builtIn ⟨"INFO", options⟩ distinct
  obtain ⟨_, _, decrypts⟩ := alike implied explicit builtImplied builtExplicit (some key)
    ⟨Randomness.zeros, []⟩ Memory.empty
  obtain ⟨result, given, _⟩ := decrypts succeeds Randomness.zeros
  dsimp only at result given
  exact ⟨builtImplied, succeeds, explicit, builtExplicit, result, given⟩

end Location

end Storage

end KeyEnvelope
