import KeyEnvelope.Proofs.KeyStore.Complaints
import KeyEnvelope.Proofs.Provisioning

/-!
# Errors of a store are translated

Whatever errors a store answers with, and at whatever point, wrapping and unwrapping fail
with a failure of the library or not at all. Which one it is depends on what the store was
asked for; it names the path of the key encryption key and holds the error.
-/

namespace KeyEnvelope

open Surroundings Operation

namespace KeyWrap

namespace Registry

variable {registry : Registry} {algorithm descriptor path : Text} {kek key wrapped : Bytes}
  {failure : Failure}

theorem concerns_of_wrap_eq_error (short : key.length < 2 ^ 32)
    (fails : registry.wrap algorithm descriptor kek key = .error failure) :
    failure.Concerns path := by
  simp only [wrap, Checks.bind_eq_error_iff] at fails
  rcases fails with fails | ⟨suite, -, fails⟩
  · obtain ⟨issue, rfl⟩ := configuration_of_resolve_eq_error fails
    simp
  · split at fails
    · obtain rfl := Except.error.inj fails
      simp
    · simp only [Checks.pure_eq_ok] at fails
      split at fails
      · cases fails
      · rename_i refuses
        have long := Mode.long_of_keyTooLong refuses
        unfold Padded.lengthLimit at long
        omega
      · obtain rfl := Except.error.inj fails
        simp

theorem concerns_of_unwrap_eq_error
    (fails : registry.unwrap algorithm descriptor kek wrapped = .error failure) :
    failure.Concerns path := by
  simp only [unwrap, Checks.bind_eq_error_iff] at fails
  rcases fails with fails | ⟨suite, -, fails⟩
  · obtain ⟨issue, rfl⟩ := configuration_of_resolve_eq_error fails
    simp
  · split at fails
    · obtain rfl := Except.error.inj fails
      simp
    · simp only [Checks.pure_eq_ok] at fails
      split at fails
      · cases fails
      · obtain rfl := Except.error.inj fails
        simp

end Registry

end KeyWrap

namespace Strategy

variable {Draft : Type} {parameters : Parameters} {path : Text} {account : Account}

theorem settle_accounts (outcome : Except Failure Bytes) :
    (settle outcome : Operation Draft Bytes).Meets (accounting path) (fun result next =>
      result = outcome ∧ next = account) account := by
  have keeps (event : Log.Event) (state : Account) (answer : Unit) (next : Account)
      (served : (accounting path : Contract (interface Draft) Account).serves (.note event) state
        answer next) (same : state = account) : next = account := by
    rw [served.2, Account.enter_note, same]
  exact settle_meets (fun _ => trivial) keeps outcome rfl

/-- A key is loaded and used, whatever for. -/
theorem loadAndSettle_accounts {operate : Bytes → Except Failure Bytes}
    {finish : Bytes → Parameters}
    (concerns : ∀ kek failure, operate kek = .error failure → failure.Concerns path)
    (clean : account.reported = []) (unread : account.chunks = []) :
    (KeyStore.load path >>= fun kek => settle (operate kek) >>= fun value =>
      pure (finish value) : Operation Draft Parameters).Meets (accounting path)
      (fun result next => next.Explains path result) account := by
  apply meets_bind.mpr
  apply (KeyStore.load_accounts clean unread).mono
  rintro (failure | kek) loaded explains
  · exact explains.error
  · apply meets_bind.mpr
    apply (settle_accounts (operate kek)).mono
    rintro (failure | value) _ ⟨same, rfl⟩
    · exact explains.of_ok (by simpa using concerns kek failure same.symm)
    · exact explains.of_ok (by simp)

theorem wrap_accounts (located : keyPath parameters = .ok path)
    (short : ∀ key, parameters.plaintextKey = some key → key.length < 2 ^ 32) :
    (wrap .builtIn parameters : Operation Draft Parameters).Meets (accounting path)
      (fun result next => next.Explains path result) .empty := by
  cases planned : plan .builtIn parameters with
  | error failure =>
    obtain ⟨issue, rfl⟩ := configuration_of_plan_eq_error planned
    rw [wrap_of_plan_eq_error planned]
    exact Account.explains_empty (by simp)
  | ok plan =>
    obtain ⟨suite, targeted, -⟩ := plan_eq_ok_iff.mp planned
    obtain ⟨targetLocated, given, -⟩ := target_eq_ok_iff.mp targeted
    obtain rfl : path = plan.path := Except.ok.inj (located.symm.trans targetLocated)
    have admitted := Contest.keyLength_of_plan planned
    rw [wrap_of_plan planned]
    apply meets_bind.mpr
    apply (KeyStore.ensure_accounts plan.generator plan.replication
      (show (parameters.keyLength / 8).toNat < 2147483648 by omega)).mono
    rintro _ next (⟨created, rfl, goesOn⟩ | ⟨failure, rfl, concerns, complained⟩)
    · have concerned (kek : Bytes) (failure : Failure) (fails : KeyWrap.Registry.builtIn.wrap
          (algorithmName parameters) (suiteName parameters) kek plan.key = .error failure) :
          failure.Concerns plan.path :=
        KeyWrap.Registry.concerns_of_wrap_eq_error (short plan.key given) fails
      rcases goesOn with rfl | rfl
      · exact loadAndSettle_accounts concerned rfl rfl
      · exact loadAndSettle_accounts concerned rfl rfl
    · rcases complained with rfl | rfl
      · exact Account.explains_empty (by simpa using concerns)
      · exact Account.explains_complain concerns

theorem wrap_of_keyPath_eq_error {registry : KeyWrap.Registry} {failure : Failure}
    (lost : keyPath parameters = .error failure) :
    (wrap registry parameters : Operation Draft Parameters) = throw failure := by
  have unplanned : plan registry parameters = .error failure := by
    rw [plan, target, lost]
    rfl
  exact wrap_of_plan_eq_error unplanned

theorem unwrap_of_keyPath_eq_error {registry : KeyWrap.Registry} {failure : Failure}
    (lost : keyPath parameters = .error failure) :
    (unwrap registry parameters : Operation Draft Parameters) = throw failure := by
  rw [unwrap, lost]
  rfl

theorem unwrap_accounts (registry : KeyWrap.Registry) (located : keyPath parameters = .ok path) :
    (unwrap registry parameters : Operation Draft Parameters).Meets (accounting path)
      (fun result next => next.Explains path result) .empty := by
  simp only [unwrap, meets_bind, meets_ofExcept, located]
  cases given : parameters.encryptedKey with
  | none => exact Account.explains_empty (by simp)
  | some wrapped =>
    simp only [meets_bind, meets_ofExcept]
    cases replicated : Setting.replication.resolveInt parameters.options with
    | error failure =>
      obtain ⟨issue, rfl⟩ := configuration_of_resolveInt_eq_error replicated
      exact Account.explains_empty (by simp)
    | ok replication =>
      apply (KeyStore.contains_accounts path .empty).mono
      rintro _ _ (⟨found, rfl, rfl⟩ | ⟨failure, rfl, concerns, rfl⟩)
      · cases found with
        | true =>
          have concerned (kek : Bytes) (failure : Failure) (fails : registry.unwrap
              (algorithmName parameters) (suiteName parameters) kek wrapped = .error failure) :
              failure.Concerns path := KeyWrap.Registry.concerns_of_unwrap_eq_error fails
          exact loadAndSettle_accounts concerned rfl rfl
        | false =>
          apply KeyStore.note_accounts
          exact Account.explains_empty (by simp)
      · exact Account.explains_complain concerns

end Strategy

namespace Storage

/-- The store complains about errors of the system only, unless it is asked to read more
than it can count. -/
def Client.Conforms (client : Client) : Prop :=
  ∀ (request : Request client.Draft) state, (Surroundings.Request.storage request).IsCountable →
    Surroundings.Conforms (.storage request) (client.serve request state).answer

/-- What becomes of the errors that a store answers with while a key is wrapped or unwrapped,
and of records that are none. -/
structure Translates {Draft : Type} (parameters : Parameters)
    (exchanges : List (Exchange (interface Draft))) (result : Except Failure Parameters) :
    Prop where
  own : ∀ failure, result = .error failure →
    failure.IsOwn ∧ ∀ path, failure.path? = some path → Strategy.keyPath parameters = .ok path
  /-- An error is reported, or it is gone on to open the record. -/
  complaints : ∀ request answer error, ⟨.storage request, answer⟩ ∈ exchanges →
    complaint? request answer = some (.system error) →
    ∃ path, Strategy.keyPath parameters = .ok path ∧
      match KeyStore.report? path request error with
      | some failure => result = .error failure
      | none => ∃ opened, ⟨.storage (.openRecord path), opened⟩ ∈ exchanges
  undecodable : ∀ issue, KeyRecord.issue? (chunksRead exchanges) = some issue →
    ∃ path, Strategy.keyPath parameters = .ok path ∧ result = .error (.storage path issue)

namespace Client

variable {client : Client} {conditions : Conditions} {parameters : Parameters} {path : Text}
  {state : client.State}

theorem conforms_handleDisturbed (conforms : client.Conforms) (disturbance : Option Disturbance)
    (request : Request client.Draft) (state : client.State)
    (countable : (Surroundings.Request.storage request).IsCountable) :
    Surroundings.Conforms (.storage request)
      (client.handleDisturbed disturbance request state).1 := by
  have served := conforms request state countable
  rcases disturbance with _ | error | _
  · exact served
  · cases request with
    | discard draft =>
      rintro failure ⟨⟩
    | _ =>
      rintro failure ⟨⟩
      exact ⟨error, rfl⟩
  · cases request with
    | contains path => rintro failure ⟨⟩
    | _ => exact served

theorem explained (conforms : client.Conforms) (exact : conditions.source.IsExact)
    {operation : Operation client.Draft Parameters}
    (accounts : operation.Meets (accounting path) (fun result next => next.Explains path result)
      .empty) (state : client.State) :
    (Account.empty.enterAll path (client.exchanges conditions operation.run state)).Explains path
      (client.perform conditions operation state).1 := by
  have keeps (request : Surroundings.Request client.Draft)
      (surroundings : client.State × List (Option Disturbance)) (account : Account)
      (countable : (accounting path).permits request) (_ : True) :
      ∃ next, (accounting path).serves request account
        (client.attend conditions.source request surroundings).1 next ∧ True := by
    refine ⟨_, ⟨?_, rfl⟩, trivial⟩
    cases request with
    | storage request => exact conforms_handleDisturbed conforms _ request _ countable
    | draw generator count => exact exact generator count
    | note event => trivial
  obtain ⟨final, follows, explains⟩ :=
    accounts.trace keeps (state, conditions.disturbances) trivial
  rwa [Account.eq_enterAll_of_follows follows] at explains

theorem translates_of_explains {exchanges : List (Exchange (interface client.Draft))}
    {result : Except Failure Parameters} (located : Strategy.keyPath parameters = .ok path)
    (explains : (Account.empty.enterAll path exchanges).Explains path result) :
    Translates parameters exchanges result where
  own failure fails := by
    have concerns := explains.concerns failure fails
    refine ⟨concerns.own, ?_⟩
    intro other names
    rw [concerns.located other names, located]
  complaints request answer error among complains := by
    have accounted : (Account.empty.enterAll path exchanges).Has
        (KeyStore.report? path request error) := Account.has_enterAll among complains
    refine ⟨path, located, ?_⟩
    cases reported : KeyStore.report? path request error with
    | some failure =>
      rw [reported] at accounted
      exact explains.reported failure accounted
    | none =>
      rw [reported] at accounted
      rcases Account.opened_enterAll (explains.opened accounted) with none | opened
      · cases none
      · exact opened
  undecodable issue wrong := by
    refine ⟨path, located, explains.undecodable issue ?_⟩
    rw [Account.chunks_enterAll]
    exact wrong

theorem translates_nothing {failure : Failure} (own : failure.IsOwn)
    (pathless : failure.path? = none) :
    Translates parameters ([] : List (Exchange (interface client.Draft))) (.error failure) where
  own other same := by
    obtain rfl := Except.error.inj same
    exact ⟨own, by simp [pathless]⟩
  complaints _ _ _ among := by cases among
  undecodable _ wrong := by cases wrong

/-- Every failure is one of the library; every error of a conforming store is reported as it
is to be, and every record that is none. -/
theorem translates_errors (client : Client) (conforms : client.Conforms) (conditions : Conditions)
    (exact : conditions.source.IsExact) (parameters : Parameters) (state : client.State) :
    let strategy := Strategy.enveloping .builtIn
    let encrypt : Operation client.Draft Parameters := strategy.encrypt parameters
    let decrypt : Operation client.Draft Parameters := strategy.decrypt parameters
    ((∀ key, parameters.plaintextKey = some key → key.length < 2 ^ 32) →
      Translates parameters (client.exchanges conditions encrypt.run state)
        (client.perform conditions encrypt state).1) ∧
    Translates parameters (client.exchanges conditions decrypt.run state)
      (client.perform conditions decrypt state).1 := by
  intro strategy encrypt decrypt
  cases located : Strategy.keyPath parameters with
  | error failure =>
    obtain ⟨issue, rfl⟩ := Strategy.configuration_of_keyPath_eq_error located
    have encrypts : encrypt = throw (.configuration issue) :=
      Strategy.wrap_of_keyPath_eq_error located
    have decrypts : decrypt = throw (.configuration issue) :=
      Strategy.unwrap_of_keyPath_eq_error located
    rw [encrypts, decrypts]
    constructor
    · intro short
      exact translates_nothing trivial rfl
    · exact translates_nothing trivial rfl
  | ok path =>
    constructor
    · intro short
      have explains := explained conforms exact (Strategy.wrap_accounts located short) state
      exact translates_of_explains located explains
    · have explains := explained conforms exact (Strategy.unwrap_accounts .builtIn located) state
      exact translates_of_explains located explains

end Client

namespace Memory

theorem conforms : client.Conforms := by
  intro request memory countable failure complains
  cases request with
  | publish draft =>
    simp only [serve, publish] at complains
    split at complains
    · exact ⟨_, (Option.some.inj complains).symm⟩
    · cases complains
  | openRecord path =>
    simp only [serve, openRecord] at complains
    split at complains
    · cases complains
    · exact ⟨_, (Option.some.inj complains).symm⟩
  | read reader count =>
    obtain ⟨nonneg, bounded⟩ := countable
    have counted : checkCount count = .ok () := if_neg (by omega)
    simp only [serve, read, counted] at complains
    cases complains
  | _ => cases complains

/-- That no record may be created is reported, and the key is not wrapped. -/
theorem translates_denied_creation :
    let denied : SystemError := .described .permission "denied" none
    (client.perform ⟨Randomness.zeros, [none, some (.fault denied)]⟩
      ((Strategy.enveloping .builtIn).encrypt .sample) .empty).1 =
        .error (.kekNotCreated "/key_guardian/crypto/secret/keyEncryptionKey" denied) := by
  intro denied
  have exact : Randomness.Source.IsExact Randomness.zeros := fun _ count => ⟨_, rfl, by simp⟩
  have translates := (client.translates_errors conforms
    ⟨Randomness.zeros, [none, some (.fault denied)]⟩ exact .sample .empty).1
    (by rintro _ ⟨⟩; decide)
  obtain ⟨path, located, reported⟩ := translates.complaints
    (.create "/key_guardian/crypto/secret/keyEncryptionKey" (some 5)) (.error (.system denied))
    denied (.tail _ (.tail _ (.head _))) rfl
  obtain rfl : "/key_guardian/crypto/secret/keyEncryptionKey" = path := Except.ok.inj located
  exact reported

end Memory

end Storage

end KeyEnvelope
