import KeyEnvelope.Proofs.Filling
import KeyEnvelope.Proofs.KeyWrap.Lengths
import KeyEnvelope.Proofs.Recovery
import KeyEnvelope.Proofs.Storage.Concealment
import KeyEnvelope.Proofs.Strategy

/-!
# Keys stay secret while they are wrapped

Of a key that is wrapped and of the key encryption key that it is wrapped under, only the
lengths matter for all that can be seen from outside: what is logged and what is asked of the
store, how wrapping ends, and how the parameters are shown afterwards.
-/

namespace KeyEnvelope

/-- The parameters are the same but for the bytes of the keys. -/
structure Parameters.SameButKeys (parameters other : Parameters) : Prop where
  algorithm : parameters.algorithm = other.algorithm
  suite : parameters.suite = other.suite
  keyLength : parameters.keyLength = other.keyLength
  plaintextKey : parameters.plaintextKey.map List.length = other.plaintextKey.map List.length
  encryptedKey : parameters.encryptedKey.map List.length = other.encryptedKey.map List.length
  kekId : parameters.kekId = other.kekId
  generator : parameters.generator = other.generator
  provider : parameters.provider = other.provider
  options : parameters.options = other.options

variable {parameters other : Parameters}

theorem Parameters.masked_eq {key key' : Option Bytes}
    (same : key.map List.length = key'.map List.length) : masked key = masked key' := by
  cases key <;> cases key' <;> simp_all [masked]

/-- What is shown of parameters does not tell them apart. -/
theorem Parameters.SameButKeys.summary_eq (same : parameters.SameButKeys other) :
    parameters.summary = other.summary := by
  unfold summary summaryWith
  rw [same.algorithm, same.suite, same.keyLength, same.kekId, masked_eq same.plaintextKey,
    masked_eq same.encryptedKey]

theorem Paired.of_map_length {result other : Except Failure Bytes}
    (same : result.map List.length = other.map List.length) :
    Paired SameLength Eq result other := by
  cases result with
  | error failure =>
    cases other with
    | error failure' => exact .error (Except.error.inj same)
    | ok value => cases same
  | ok value =>
    cases other with
    | error failure => cases same
    | ok value' => exact .ok (Except.ok.inj same)

namespace Strategy

/-- The plans are the same but for the bytes of the key. -/
structure Plan.SameButKey (plan other : Plan) : Prop where
  path : plan.path = other.path
  key : plan.key.length = other.key.length
  replication : plan.replication = other.replication
  generator : plan.generator = other.generator

theorem plan_paired (registry : KeyWrap.Registry) (same : parameters.SameButKeys other) :
    Paired (fun plan plan' => plan.SameButKey plan' ∧ keyPath parameters = .ok plan.path) Eq
      (plan registry parameters) (plan registry other) := by
  have samePath : keyPath parameters = keyPath other := by simp only [keyPath, same.options]
  have sameAlgorithm : algorithmName parameters = algorithmName other := by
    simp only [algorithmName, same.algorithm]
  have sameSuite : suiteName parameters = suiteName other := by
    simp only [suiteName, same.suite, same.options]
  unfold plan target
  rw [samePath, sameAlgorithm, sameSuite, same.keyLength, same.options, same.generator,
    same.provider]
  have sameKey := same.plaintextKey
  -- Both go through the same checks, and if one of them fails, it fails for both.
  cases keyPath other with
  | error failure => exact .error rfl
  | ok path =>
    generalize parameters.plaintextKey = given at sameKey
    generalize other.plaintextKey = given' at sameKey
    rcases given with _ | key <;> rcases given' with _ | key'
    · exact .error rfl
    · cases sameKey
    · cases sameKey
    · simp only [Checks.ok_bind]
      cases registry.resolve (algorithmName other) (suiteName other) with
      | error failure => exact .error rfl
      | ok suite =>
        simp only [Checks.ok_bind, Checks.pure_eq_ok]
        cases suite.checkKekBits other.keyLength with
        | error failure => exact .error rfl
        | ok _ =>
          simp only [Checks.ok_bind]
          cases Setting.replication.resolveInt other.options with
          | error failure => exact .error rfl
          | ok replication =>
            simp only [Checks.ok_bind]
            cases Randomness.resolve other.generator other.provider with
            | error failure => exact .error rfl
            | ok generator => exact .ok ⟨⟨rfl, Option.some.inj sameKey, rfl, rfl⟩, rfl⟩

variable {D E σ τ ν : Type} {coupling : Coupling D E σ τ ν} {state : σ} {otherState : τ}

theorem notes_agree (holds : coupling.Holds) (events : List Log.Event)
    (related : coupling.Related state otherState) :
    coupling.Agrees Eq (events.forM Operation.note) (events.forM Operation.note) state
      otherState := by
  induction events generalizing state otherState with
  | nil => exact Coupling.agrees_pure rfl related
  | cons event rest inductionHypothesis =>
    apply (holds.note event related).bind
    intro _ _ state otherState _ related
    exact inductionHypothesis related

theorem settle_agrees (holds : coupling.Holds) {outcome outcome' : Except Failure Bytes}
    (paired : Paired SameLength Eq outcome outcome') (related : coupling.Related state otherState) :
    coupling.Agrees SameLength (settle outcome) (settle outcome') state otherState := by
  cases paired with
  | ok same => exact Coupling.agrees_pure same related
  | error same =>
    subst same
    apply (notes_agree holds _ related).bind
    intro _ _ state otherState _ related
    exact Coupling.agrees_throw (.same _) related

theorem wrap_agrees (holds : coupling.Holds) (registry : KeyWrap.Registry)
    (same : parameters.SameButKeys other)
    (covered : ∀ path, keyPath parameters = .ok path → coupling.Covers path)
    (related : coupling.Related state otherState) :
    coupling.Agrees Parameters.SameButKeys (wrap registry parameters) (wrap registry other) state
      otherState := by
  unfold wrap
  have planned := plan_paired registry same
  generalize plan registry parameters = result at planned
  generalize plan registry other = result' at planned
  cases planned with
  | error same => exact Coupling.agrees_throw (same ▸ .same _) related
  | @ok plan plan' planned =>
    obtain ⟨samePlan, located⟩ := planned
    have sameAlgorithm : algorithmName parameters = algorithmName other := by
      simp only [algorithmName, same.algorithm]
    have sameSuite : suiteName parameters = suiteName other := by
      simp only [suiteName, same.suite, same.options]
    change coupling.Agrees _ (KeyStore.ensure _ _ _ _ >>= _) (KeyStore.ensure _ _ _ _ >>= _) _ _
    rw [← samePlan.path, ← samePlan.replication, ← samePlan.generator, ← same.keyLength]
    apply (KeyStore.ensure_agrees holds (covered _ located) _ _ _ related).bind
    intro _ _ state otherState _ related
    unfold wrapPlanned
    rw [← samePlan.path, ← sameAlgorithm, ← sameSuite]
    apply (KeyStore.load_agrees holds (covered _ located) related).bind
    intro kek kek' state otherState alike related
    have wrapped := Paired.of_map_length (registry.wrap_map_length_congr (algorithmName parameters)
      (suiteName parameters) (coupling.length_of_keys alike) samePlan.key)
    apply (settle_agrees holds wrapped related).bind
    intro wrapped wrapped' state otherState sameLength related
    refine Coupling.agrees_pure { same with encryptedKey := ?_, kekId := rfl } related
    exact congrArg some sameLength

theorem encrypt_agrees (holds : coupling.Holds) (strategy : Strategy)
    (same : parameters.SameButKeys other)
    (covered : ∀ path, keyPath parameters = .ok path → coupling.Covers path)
    (related : coupling.Related state otherState) :
    coupling.Agrees Parameters.SameButKeys (strategy.encrypt parameters) (strategy.encrypt other)
      state otherState := by
  cases strategy with
  | enveloping registry => exact wrap_agrees holds registry same covered related
  | passing => exact Coupling.agrees_pure { same with encryptedKey := same.plaintextKey } related

end Strategy

namespace Storage

/-- Filling in shows no more than the operation whose outcome is taken over. -/
theorem Client.sights_encryptInto {client : Client} {conditions : Conditions} {strategy : Strategy}
    {state : client.State} :
    client.sights conditions (strategy.encryptInto.start parameters) state =
      client.sights conditions (strategy.encrypt parameters).run state := by
  have started : (strategy.encryptInto : Filling client.Draft Unit).start parameters =
      (strategy.encrypt parameters).run.bind fun result =>
        .done (Filling.takeOver parameters result) := by
    rw [Strategy.encryptInto_eq_atOnce]
    exact Filling.takesOver_atOnce fun parameters => strategy.encrypt parameters
  rw [sights, started, Procedure.observe_bind]
  exact List.append_nil _

/-- Wrapping in stores that resemble each other, with sources of the same lengths. -/
theorem Resemblance.Holds.encrypt_alike {first second : Client}
    {resemblance : Resemblance first second} (holds : resemblance.Holds)
    (tolerance : resemblance.toTolerance = .ofLengths)
    (visible : resemblance.visible = fun _ => true) (strategy : Strategy)
    (same : parameters.SameButKeys other)
    (covered : ∀ path, Strategy.keyPath parameters = .ok path → resemblance.Covers path)
    {conditions others : Conditions}
    (draws : ∀ generator count, (conditions.source generator count).map List.length =
      (others.source generator count).map List.length)
    (befalls : conditions.disturbances = others.disturbances)
    {state : first.State} {otherState : second.State}
    (related : resemblance.Related state otherState) :
    let ran := first.perform conditions (strategy.encrypt parameters) state
    let otherRan := second.perform others (strategy.encrypt other) otherState
    Paired Parameters.SameButKeys Eq ran.1 otherRan.1 ∧ resemblance.Related ran.2 otherRan.2 ∧
      first.sights conditions (strategy.encrypt parameters).run state =
        second.sights others (strategy.encrypt other).run otherState := by
  intro ran otherRan
  obtain ⟨toTolerance, Covers, visibleEvents, Related, Drafted⟩ := resemblance
  obtain rfl : toTolerance = _ := tolerance
  obtain rfl : visibleEvents = _ := visible
  have coupled := holds.coupled fun generator count => Paired.of_map_length (draws generator count)
  have start : (Resemblance.mk _ Covers _ Related Drafted |>.coupling conditions.source
      others.source).Related (state, conditions.disturbances) (otherState, others.disturbances) :=
    ⟨related, befalls⟩
  obtain ⟨paired, seen⟩ := Strategy.encrypt_agrees coupled strategy same covered start
  obtain ⟨paired, related, -⟩ := paired.split
  exact ⟨paired.mono (fun _ _ alike => alike) fun _ _ alike => alike.eq, related, seen⟩

/-- Wrapping ends alike, shows the same and looks the same afterwards, whatever the bytes are
of the key to be wrapped, of the key encryption key in the store and of what is drawn at
random. What remains are parameters and a record that differ in such bytes only. -/
theorem Location.wrapping_hides_key_bytes (location : Location) (strategy : Strategy)
    (parameters other : Parameters) (same : parameters.SameButKeys other)
    (path : Text) (resolved : ∀ found, Strategy.keyPath parameters = .ok found → found = path)
    (conditions others : Conditions)
    (draws : ∀ generator count, (conditions.source generator count).map List.length =
      (others.source generator count).map List.length)
    (befalls : conditions.disturbances = others.disturbances)
    (state otherState : location.client.State) (stores : location.AlikeAt path state otherState) :
    let first := location.client.fill conditions strategy.encryptInto parameters state
    let second := location.client.fill others strategy.encryptInto other otherState
    first.result = second.result ∧
    location.client.sights conditions (strategy.encryptInto.start parameters) state =
      location.client.sights others (strategy.encryptInto.start other) otherState ∧
    first.parameters.SameButKeys second.parameters ∧
    first.parameters.summary = second.parameters.summary ∧
    location.AlikeAt path first.state second.state := by
  intro first second
  obtain ⟨resemblance, holds, tolerance, covers, visible, related⟩ :=
    location.exists_concealing path
  obtain ⟨paired, stores, seen⟩ := holds.encrypt_alike tolerance visible strategy same
    (fun found located => resolved found located ▸ covers) draws befalls
    (by rw [related]; exact stores)
  rw [related] at stores
  simp only [first, second, Client.fill_encryptInto, Client.sights_encryptInto]
  generalize location.client.perform conditions _ state = ran at paired stores ⊢
  generalize location.client.perform others _ otherState = otherRan at paired stores ⊢
  obtain ⟨result, next⟩ := ran
  obtain ⟨otherResult, otherNext⟩ := otherRan
  cases paired with
  | ok alike => exact ⟨rfl, seen, alike, alike.summary_eq, stores⟩
  | error alike => exact ⟨alike ▸ rfl, seen, same, same.summary_eq, stores⟩

/-- That the record with the key encryption key is overlooked makes no difference, either: the
other key is drawn in vain in both memories. -/
theorem Memory.wrapping_hides_overlooked_key :
    let kekPath : Text := "/key_guardian/crypto/secret/keyEncryptionKey"
    let stored : Memory := ⟨[(kekPath, ⟨KeyRecord.encode (List.replicate 16 9), none⟩)], []⟩
    let drawn : Randomness.Source := fun _ count => .ok (List.replicate count 3)
    let secret := { Parameters.sample with plaintextKey := some (List.replicate 24 2) }
    let strategy := Strategy.enveloping .builtIn
    let first := client.fill ⟨Randomness.zeros, [some .oversight]⟩ strategy.encryptInto .sample
      Memory.sample
    let second := client.fill ⟨drawn, [some .oversight]⟩ strategy.encryptInto secret stored
    first.result = second.result ∧
    client.sights ⟨Randomness.zeros, [some .oversight]⟩ (strategy.encryptInto.start .sample)
        Memory.sample =
      client.sights ⟨drawn, [some .oversight]⟩ (strategy.encryptInto.start secret) stored ∧
    first.parameters.SameButKeys second.parameters ∧
    first.parameters.summary = second.parameters.summary ∧
    AlikeAt kekPath first.state second.state := by
  intro kekPath stored drawn secret strategy
  have here : AlikeAt kekPath Memory.sample stored :=
    { writes := rfl
      elsewhere := fun place different => by
        have absent (record : MemoryRecord) :
            (⟨[(kekPath, record)], []⟩ : Memory).record? place = none := by
          simp [record?, Assoc.get?, Ne.symm different]
        exact (absent _).trans (absent _).symm
      here := .inr ⟨_, _, none, rfl, rfl, by decide, by unfold SameLength; decide⟩ }
  refine Location.wrapping_hides_key_bytes .memory strategy .sample secret ?_ kekPath ?_
    ⟨Randomness.zeros, [some .oversight]⟩ ⟨drawn, [some .oversight]⟩ ?_ rfl Memory.sample stored
    here
  · exact ⟨rfl, rfl, rfl, by decide, rfl, rfl, rfl, rfl, rfl⟩
  · rintro _ ⟨⟩
    rfl
  · intro generator count
    simp [Randomness.zeros, drawn, Except.map]

end Storage

end KeyEnvelope
