import KeyEnvelope.Proofs.KeyStore.Additions
import KeyEnvelope.Proofs.Race.Convergence
import KeyEnvelope.Proofs.Recovery

/-!
# What key encryption keys there are

A key encryption key is as long as the parameters ask for that it was created for, and their
suite is used with keys of that length. The suites of the library are used only with keys of
the cipher, so that whatever they have created can be wrapped under.
-/

namespace KeyEnvelope

open Storage Operation

/-- The source gives as many bytes as it is asked for. -/
def Randomness.Source.IsExact (source : Randomness.Source) : Prop :=
  ∀ generator count, ∃ key, source generator count = .ok key ∧ key.length = count

/-- The call wraps or unwraps a key with the registry. -/
def Call.Uses (registry : KeyWrap.Registry) : Call → Prop
  | .encrypt used _ | .decrypt used _ => used = registry
  | _ => False

namespace Strategy

variable {registry : KeyWrap.Registry} {parameters : Parameters}

/-- The parameters ask for a key encryption key of this length, and for a suite that is
used with it. -/
def AsksFor (registry : KeyWrap.Registry) (parameters : Parameters) (length : Nat) : Prop :=
  0 < length ∧ parameters.keyLength = 8 * length ∧
    ∃ suite, registry.resolve (algorithmName parameters) (suiteName parameters) = .ok suite ∧
      (length : Int) ∈ suite.kekLengths

theorem asksFor_of_plan {plan : Plan} {source : Randomness.Source} {key : Bytes}
    (planned : Strategy.plan registry parameters = .ok plan) (positive : 0 < parameters.keyLength)
    (exact : source.IsExact) (draws : (plan.provision parameters).Draws source key) :
    AsksFor registry parameters key.length := by
  obtain ⟨suite, targeted, admitted, -, -⟩ := plan_eq_ok_iff.mp planned
  obtain ⟨-, -, resolved⟩ := target_eq_ok_iff.mp targeted
  obtain ⟨drawn, given, length⟩ := exact plan.generator (parameters.keyLength / 8).toNat
  obtain rfl : drawn = key := Except.ok.inj (given.symm.trans draws.drawn)
  simp only [KeyWrap.Suite.admitsKekBits, Bool.and_eq_true, beq_iff_eq, List.contains_eq_mem,
    decide_eq_true_eq] at admitted
  have quotient : (drawn.length : Int) = parameters.keyLength / 8 := by omega
  refine ⟨by omega, by omega, suite, resolved, ?_⟩
  rw [quotient]
  exact admitted.2

theorem AsksFor.isKekLength {length : Nat} (asksFor : AsksFor .builtIn parameters length) :
    KeyWrap.IsKekLength length := by
  obtain ⟨-, -, suite, resolved, among⟩ := asksFor
  obtain ⟨-, found⟩ := KeyWrap.Registry.resolve_eq_ok_iff.mp resolved
  have lengths : suite.kekLengths = [16, 24, 32] := by
    rcases KeyWrap.Registry.get_builtIn found with rfl | rfl <;> rfl
  simp only [lengths, List.mem_cons, List.not_mem_nil, or_false] at among
  unfold KeyWrap.IsKekLength
  omega

/-- The parameters are to blame for the failure: for what they ask for, or for a key that
their suite does not wrap. -/
def IsToBlame (parameters : Parameters) (failure : Failure) : Prop :=
  (∃ issue, failure = .configuration issue) ∨
  ∃ key suite, parameters.plaintextKey = some key ∧
    KeyWrap.Registry.builtIn.resolve (algorithmName parameters) (suiteName parameters) =
      .ok suite ∧
    ((∃ issue, failure = .wrap issue ∧
      (key = [] ∨ suite = .aesWrap ∧ (key.length < 16 ∨ key.length % 8 ≠ 0))) ∨
    failure = .tooLarge KeyWrap.Refusal.keyTooLong.message ∧ 2 ^ 32 ≤ key.length)

end Strategy

theorem KeyWrap.Registry.wrap_builtIn_eq_error {algorithm descriptor : Text} {suite : Suite}
    {kek key : Bytes} {failure : Failure}
    (resolved : builtIn.resolve algorithm descriptor = .ok suite)
    (kekLength : IsKekLength kek.length)
    (fails : builtIn.wrap algorithm descriptor kek key = .error failure) :
    (∃ issue, failure = .wrap issue ∧
      (key = [] ∨ suite = .aesWrap ∧ (key.length < 16 ∨ key.length % 8 ≠ 0))) ∨
    failure = .tooLarge Refusal.keyTooLong.message ∧ 2 ^ 32 ≤ key.length := by
  rcases wrap_eq_error resolved kekLength fails with ⟨issue, rfl, broken⟩ | ⟨rfl, long⟩
  · refine .inl ⟨issue, rfl, broken.imp_right ?_⟩
    rintro ⟨mode, unfit⟩
    obtain ⟨-, found⟩ := resolve_eq_ok_iff.mp resolved
    rcases get_builtIn found with rfl | rfl
    · exact ⟨rfl, unfit⟩
    · cases mode
  · exact .inr ⟨rfl, long⟩

/-- The key that a call draws has the length that its parameters ask for. -/
theorem Call.asksFor_of_provision {call : Call} {registry : KeyWrap.Registry}
    {provision : Provision} {source : Randomness.Source} {key : Bytes}
    (uses : call.Uses registry) (provided : call.provision? = some provision)
    (positive : 0 < provision.bits) (exact : source.IsExact) (draws : provision.Draws source key) :
    ∃ parameters, call = .encrypt registry parameters ∧
      Strategy.AsksFor registry parameters key.length := by
  cases call with
  | encrypt used parameters =>
    obtain rfl : used = registry := uses
    cases planned : Strategy.plan used parameters with
    | error failure => simp [provision?, planned] at provided
    | ok plan =>
      obtain rfl : plan.provision parameters = provision := by
        simpa [provision?, planned] using provided
      exact ⟨parameters, rfl, Strategy.asksFor_of_plan planned positive exact draws⟩
  | decrypt used parameters => cases provided
  | contains path => exact uses.elim
  | ensure generator replication path bits => exact uses.elim
  | load path => exact uses.elim

namespace Storage.Drafting

variable {client : Client} (drafting : Drafting client)

/-- The data are the record of a key of a length that parameters asked for with which one of
the calls wrapped a key. -/
theorem asksFor_of_providedBy {calls : List (Call × Conditions)} {path : Text} {data : Bytes}
    (ofStrategies : ∀ call ∈ calls, ∃ registry, call.1.Uses registry)
    (exact : ∀ call ∈ calls, call.2.source.IsExact)
    (provided : drafting.ProvidedBy calls path data) :
    ∃ call ∈ calls, ∃ registry parameters key, call.1 = .encrypt registry parameters ∧
      Strategy.AsksFor registry parameters key.length ∧ data = KeyRecord.encode key ∧
      KeyRecord.decode data = .ok (key, []) := by
  obtain ⟨call, among, provision, key, provides, positive, -, draws, rfl⟩ := provided
  obtain ⟨registry, uses⟩ := ofStrategies call among
  obtain ⟨parameters, encrypts, asksFor⟩ :=
    Call.asksFor_of_provision uses provides positive (exact call among) draws
  have nonempty : key ≠ [] := List.length_pos_iff.mp asksFor.1
  have decoded : KeyRecord.decode (KeyRecord.encode key) = .ok (key, []) := by
    simpa using KeyRecord.decode_encode nonempty draws.fitting []
  exact ⟨call, among, registry, parameters, key, encrypts, asksFor, rfl, decoded⟩

end Storage.Drafting

namespace Storage.Memory

variable {memory : Memory} {source : Randomness.Source} {parameters : Parameters}
  {plan : Strategy.Plan}

/-- Every record is that of a key of the cipher, with nothing after it. -/
def IsUsable (memory : Memory) : Prop :=
  ∀ path record, memory.record? path = some record →
    ∃ key, KeyWrap.IsKekLength key.length ∧ record.data = KeyRecord.encode key

theorem isUsable_performAll {calls : List (Call × Conditions)}
    (builtIn : ∀ call ∈ calls, call.1.Uses .builtIn)
    (exact : ∀ call ∈ calls, call.2.source.IsExact) :
    IsUsable (client.performAll calls .empty) := by
  intro path record found
  have present : contents.Has (client.performAll calls .empty) path record.data :=
    ⟨record.replication, found⟩
  rcases drafting.has_performAll custody present with ⟨replication, earlier⟩ | provided
  · cases earlier
  · obtain ⟨call, among, registry, parameters, key, encrypts, asksFor, same, -⟩ :=
      drafting.asksFor_of_providedBy (fun call among => ⟨_, builtIn call among⟩) exact provided
    have uses := builtIn call among
    rw [encrypts] at uses
    obtain rfl : registry = .builtIn := uses
    exact ⟨key, asksFor.isKekLength, same⟩

theorem decode_of_isKekLength {key : Bytes} (kekLength : KeyWrap.IsKekLength key.length) :
    KeyRecord.decode (KeyRecord.encode key) = .ok (key, []) := by
  unfold KeyWrap.IsKekLength at kekLength
  have nonempty : key ≠ [] := List.length_pos_iff.mp (by omega)
  simpa using KeyRecord.decode_encode nonempty (by omega) []

/-- Nobody comes between the requests of a caller that is alone. -/
theorem calm_of_shared {α : Type} {goal : Except Failure α → Memory → Prop}
    {operation : Operation Draft α}
    (meets : operation.Meets (Contest.shared source) goal memory) :
    operation.Meets (client.calm source) goal memory := by
  apply Procedure.Meets.narrow (fun _ _ => trivial) ?_ meets
  intro request state answer next served
  refine ⟨state, .refl state, ?_⟩
  cases request with
  | storage request => exact served
  | draw generator count =>
    obtain ⟨rfl, rfl⟩ := served
    rfl
  | note event =>
    obtain rfl := served
    rfl

/-- After it has been made sure of, there is a key of the cipher at the path. -/
theorem ensure_usable (planned : Strategy.plan .builtIn parameters = .ok plan)
    (exact : source.IsExact) (usable : memory.IsUsable) :
    (plan.provision parameters).ensure.Meets (client.calm source) (fun result next =>
      (∃ created, result = .ok created) ∧ ∃ key, KeyWrap.IsKekLength key.length ∧
        Custody.Holds client plan.path (KeyRecord.encode key) next) memory := by
  have admitted := Contest.keyLength_of_plan planned
  have positive : 0 < parameters.keyLength := by omega
  have wholeBytes : parameters.keyLength % 8 = 0 := by omega
  obtain ⟨drawn, draws, length⟩ := exact plan.generator (parameters.keyLength / 8).toNat
  have present : (plan.provision parameters).ensure.Meets (client.calm source) _ memory :=
    calm_of_shared (Contest.ensure_meets positive wholeBytes draws)
  have added : (plan.provision parameters).ensure.Meets (client.calm source) _ memory :=
    Client.calm_of_disturbed (drafting.ensure_adds custody (plan.provision parameters))
  apply (present.and added).mono
  rintro result next ⟨⟨⟨data, found⟩, created⟩ | ⟨-, tooLong⟩, added⟩
  · have opened : Custody.Holds client plan.path data next := openRecord_eq_ok_iff.mpr found
    have usableBefore (has : contents.Has memory plan.path data) :
        ∃ key, KeyWrap.IsKekLength key.length ∧ data = KeyRecord.encode key := by
      obtain ⟨replication, recorded⟩ := has
      exact usable plan.path ⟨data, replication⟩ recorded
    have usableNow : ∃ key, KeyWrap.IsKekLength key.length ∧ data = KeyRecord.encode key := by
      rcases added with ⟨-, -, key, draws, adds⟩ | ⟨-, settled⟩
      · rcases adds plan.path data found with earlier | ⟨-, same⟩
        · exact usableBefore earlier
        · exact ⟨key, (Strategy.asksFor_of_plan planned positive exact draws).isKekLength, same⟩
      · exact usableBefore (settled plan.path data found)
    obtain ⟨key, kekLength, rfl⟩ := usableNow
    exact ⟨created, key, kekLength, opened⟩
  · omega

theorem wrap_of_usable (exact : source.IsExact) (usable : memory.IsUsable)
    (parameters : Parameters) :
    (Strategy.wrap .builtIn parameters).Meets (client.calm source) (fun result _ =>
      ∀ failure, result = .error failure → Strategy.IsToBlame parameters failure) memory := by
  cases planned : Strategy.plan .builtIn parameters with
  | error failure =>
    rw [Strategy.wrap_of_plan_eq_error planned]
    rintro _ ⟨⟩
    exact .inl (Strategy.configuration_of_plan_eq_error planned)
  | ok plan =>
    rw [Strategy.wrap_of_plan planned]
    apply meets_bind.mpr
    apply (ensure_usable planned exact usable).mono
    rintro _ next ⟨⟨created, rfl⟩, kek, kekLength, held⟩
    have decoded := decode_of_isKekLength kekLength
    apply (Strategy.wrapPlanned_of_offers (custody.offers source _ _) decoded held).mono
    rintro _ _ rfl failure fails
    obtain ⟨suite, targeted, -⟩ := Strategy.plan_eq_ok_iff.mp planned
    obtain ⟨-, given, resolved⟩ := Strategy.target_eq_ok_iff.mp targeted
    refine .inr ⟨plan.key, suite, given, resolved, ?_⟩
    cases wrapping : KeyWrap.Registry.builtIn.wrap (Strategy.algorithmName parameters)
      (Strategy.suiteName parameters) kek plan.key with
    | ok wrapped => simp [wrapping, Except.map] at fails
    | error other =>
      obtain rfl : other = failure := by simpa [wrapping, Except.map] using fails
      exact KeyWrap.Registry.wrap_builtIn_eq_error resolved kekLength wrapping

/-- Whatever calls have come before, every key encryption key can be read and wrapped under.
What a key is not wrapped for is therefore the configuration, or the key itself. -/
theorem provisioned_keys_are_usable (calls : List (Call × Conditions))
    (builtIn : ∀ call ∈ calls, call.1.Uses .builtIn)
    (exact : ∀ call ∈ calls, call.2.source.IsExact) :
    let memory : Memory := client.performAll calls .empty
    (∀ path record, memory.record? path = some record →
      ∃ key, record.data.length = 4 + key.length ∧
        (key.length = 16 ∨ key.length = 24 ∨ key.length = 32) ∧
        KeyRecord.decode record.data = .ok (key, []) ∧
        ∀ source, (client.perform ⟨source, []⟩ (KeyStore.load path) memory).1 = .ok key) ∧
    ∀ (source : Randomness.Source) (parameters : Parameters) (failure : Failure),
      source.IsExact →
      (client.perform ⟨source, []⟩ ((Strategy.enveloping .builtIn).encrypt parameters) memory).1 =
        .error failure →
      (∃ issue, failure = .configuration issue) ∨
      ∃ key suite, parameters.plaintextKey = some key ∧
        KeyWrap.Registry.builtIn.resolve (Strategy.algorithmName parameters)
          (Strategy.suiteName parameters) = .ok suite ∧
        ((∃ issue, failure = .wrap issue ∧
          (key = [] ∨ suite = .aesWrap ∧ (key.length < 16 ∨ key.length % 8 ≠ 0))) ∨
        failure = .tooLarge KeyWrap.Refusal.keyTooLong.message ∧ 2 ^ 32 ≤ key.length) := by
  intro memory
  have usable : memory.IsUsable := isUsable_performAll builtIn exact
  constructor
  · intro path record found
    obtain ⟨key, kekLength, same⟩ := usable path record found
    have decoded := decode_of_isKekLength kekLength
    refine ⟨key, by simp [same, KeyRecord.headerSize], kekLength, by rw [same, decoded], ?_⟩
    intro source
    have opened : Custody.Holds client path record.data memory :=
      openRecord_eq_ok_iff.mpr ⟨record.replication, found⟩
    have loaded := Client.perform_calm
      (KeyStore.load_of_offers (custody.offers source path record.data) opened)
    rw [loaded.1, same, decoded]
    rfl
  · intro source parameters failure sourceExact fails
    exact Client.perform_calm (wrap_of_usable sourceExact usable parameters) failure fails

/-- A key that is empty is not wrapped, but the key encryption key that was created for it
can be loaded, and a second attempt fails for the same reason. -/
theorem provisioned_key_is_usable_after_empty_key :
    let bare : Parameters :=
      { Parameters.empty with algorithm := some "AES", plaintextKey := some [] }
    let memory : Memory :=
      client.performAll [(.encrypt .builtIn bare, ⟨Randomness.zeros, []⟩)] .empty
    let path : Text := "/key_guardian/crypto/secret/keyEncryptionKey"
    (∃ key, (key.length = 16 ∨ key.length = 24 ∨ key.length = 32) ∧
      (client.perform ⟨Randomness.zeros, []⟩ (KeyStore.load path) memory).1 = .ok key) ∧
    ∃ failure,
      (client.perform ⟨Randomness.zeros, []⟩ ((Strategy.enveloping .builtIn).encrypt bare)
        memory).1 = .error failure ∧ Strategy.IsToBlame bare failure := by
  intro bare memory path
  have exact : Randomness.Source.IsExact Randomness.zeros := fun _ count => ⟨_, rfl, by simp⟩
  have usable := provisioned_keys_are_usable [(.encrypt .builtIn bare, ⟨Randomness.zeros, []⟩)]
    (by simp [Call.Uses]) (by simpa using exact)
  have created : memory.record? path =
      some ⟨KeyRecord.encode (List.replicate 16 0), some 5⟩ := by decide +kernel
  have fails : (client.perform ⟨Randomness.zeros, []⟩ ((Strategy.enveloping .builtIn).encrypt bare)
      memory).1 = .error (.wrap .empty) := by decide +kernel
  obtain ⟨key, -, kekLength, -, loads⟩ := usable.1 path _ created
  exact ⟨⟨key, kekLength, loads Randomness.zeros⟩, _, fails,
    usable.2 Randomness.zeros bare _ exact fails⟩

end Storage.Memory

end KeyEnvelope
