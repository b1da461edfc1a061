import KeyEnvelope.Proofs.Atomicity
import KeyEnvelope.Proofs.KeyWrap.Canonical
import KeyEnvelope.Proofs.Recovery

/-!
# Keys and what they are wrapped into

Parameters belong to somebody who replaces the keys in them and has them filled in, while
others use the same store. If there is a key in them beside a wrapped key, then the one is
what the other is unwrapped to: whoever replaces one of the two drops the other, and a
strategy fills in only what belongs to the one that is there.
-/

namespace KeyEnvelope

open Storage

namespace Parameters

/-- The parameters name the same key encryption key, and the same suite to use it with. -/
structure AgreesWith (parameters other : Parameters) : Prop where
  options : parameters.options = other.options
  suite : parameters.suite = other.suite
  algorithm : parameters.algorithm = other.algorithm

theorem AgreesWith.symm {parameters other : Parameters} (agrees : parameters.AgreesWith other) :
    other.AgreesWith parameters :=
  ⟨agrees.options.symm, agrees.suite.symm, agrees.algorithm.symm⟩

theorem AgreesWith.trans {parameters other third : Parameters}
    (agrees : parameters.AgreesWith other) (agreesToo : other.AgreesWith third) :
    parameters.AgreesWith third :=
  ⟨agrees.options.trans agreesToo.options, agrees.suite.trans agreesToo.suite,
    agrees.algorithm.trans agreesToo.algorithm⟩

/-- Asks for what the other parameters ask for, with the same keys. -/
def configuredAs (parameters other : Parameters) : Parameters :=
  { other with
    plaintextKey := parameters.plaintextKey
    encryptedKey := parameters.encryptedKey
    kekId := parameters.kekId }

end Parameters

/-- What the owner of parameters does, or somebody else to the store meanwhile. -/
inductive Deed where
  | replacePlaintextKey (key : Option Bytes)
  | replaceEncryptedKey (wrapped : Option Bytes)
  | encrypt (conditions : Conditions)
  | decrypt (conditions : Conditions)
  | configure (other : Parameters)
  | meanwhile (call : Call) (conditions : Conditions)

/-- Nothing else is asked for but another key encryption key to be created. -/
def Deed.Suits (parameters : Parameters) : Deed → Prop
  | configure other => parameters.AgreesWith other
  | _ => True

/-- Parameters in the hands of their owner, and the store that they are used with. -/
structure Possession (σ : Type) where
  parameters : Parameters
  state : σ

namespace Storage

namespace Client

def act (client : Client) (strategy : Strategy) (possession : Possession client.State) :
    Deed → Possession client.State
  | .replacePlaintextKey key =>
    { possession with parameters := possession.parameters.replacePlaintextKey key }
  | .replaceEncryptedKey wrapped =>
    { possession with parameters := possession.parameters.replaceEncryptedKey wrapped }
  | .encrypt conditions =>
    let filled :=
      client.fill conditions strategy.encryptInto possession.parameters possession.state
    ⟨filled.parameters, filled.state⟩
  | .decrypt conditions =>
    let filled :=
      client.fill conditions strategy.decryptInto possession.parameters possession.state
    ⟨filled.parameters, filled.state⟩
  | .configure other =>
    { possession with parameters := possession.parameters.configuredAs other }
  | .meanwhile call conditions =>
    { possession with state := (client.perform conditions call.operation possession.state).2 }

def actAll (client : Client) (strategy : Strategy) (deeds : List Deed)
    (possession : Possession client.State) : Possession client.State :=
  deeds.foldl (client.act strategy) possession

/-- With the key encryption key that the parameters name, the wrapped key is unwrapped to the
key. -/
def Unwraps (client : Client) (registry : KeyWrap.Registry) (parameters : Parameters)
    (state : client.State) (wrapped key : Bytes) : Prop :=
  ∃ path data kek rest, Strategy.keyPath parameters = .ok path ∧
    Custody.Holds client path data state ∧ KeyRecord.decode data = .ok (kek, rest) ∧
    registry.unwrap (Strategy.algorithmName parameters) (Strategy.suiteName parameters) kek
      wrapped = .ok key

namespace Unwraps

variable {client : Client} {registry : KeyWrap.Registry} {parameters other : Parameters}
  {before state : client.State} {wrapped second key : Bytes}

theorem of_agrees (unwraps : client.Unwraps registry parameters state wrapped key)
    (agrees : parameters.AgreesWith other) :
    client.Unwraps registry other state wrapped key := by
  obtain ⟨path, data, kek, rest, located, held, decoded, unwrapping⟩ := unwraps
  refine ⟨path, data, kek, rest, ?_, held, decoded, ?_⟩
  · simpa only [Strategy.keyPath, agrees.options] using located
  · simpa only [Strategy.algorithmName, Strategy.suiteName, agrees.options, agrees.suite,
      agrees.algorithm] using unwrapping

theorem of_keeps (custody : Custody client)
    (unwraps : client.Unwraps registry parameters before wrapped key)
    (keeps : custody.Keeps before state) :
    client.Unwraps registry parameters state wrapped key := by
  obtain ⟨path, data, kek, rest, located, held, decoded, unwrapping⟩ := unwraps
  exact ⟨path, data, kek, rest, located, custody.opens keeps held, decoded, unwrapping⟩

/-- A key is unwrapped from no more than one byte string. -/
theorem unique (unwraps : client.Unwraps registry parameters state wrapped key)
    (alsoUnwraps : client.Unwraps registry parameters state second key) : wrapped = second := by
  obtain ⟨path, data, kek, rest, located, held, decoded, unwrapping⟩ := unwraps
  obtain ⟨samePath, sameData, sameKek, sameRest, relocated, reheld, redecoded, reunwrapping⟩ :=
    alsoUnwraps
  obtain rfl : path = samePath := Except.ok.inj (located.symm.trans relocated)
  obtain rfl : data = sameData := Except.ok.inj (held.symm.trans reheld)
  obtain ⟨rfl, -⟩ := Prod.mk.inj (Except.ok.inj (decoded.symm.trans redecoded))
  obtain ⟨suite, resolved, -⟩ := KeyWrap.Registry.unwrap_eq_ok_iff.mp unwrapping
  have wraps := (KeyWrap.Registry.unwrap_eq_ok_iff_wrap resolved resolved).mp unwrapping
  have rewraps := (KeyWrap.Registry.unwrap_eq_ok_iff_wrap resolved resolved).mp reunwrapping
  exact Except.ok.inj (wraps.symm.trans rewraps)

end Unwraps

/-- A key beside a wrapped key is what this is unwrapped to, with what the parameters asked
for at the start and still ask for. -/
structure Pairs (client : Client) (registry : KeyWrap.Registry) (start : Parameters)
    (possession : Possession client.State) : Prop where
  agrees : start.AgreesWith possession.parameters
  unwraps : ∀ key wrapped, possession.parameters.plaintextKey = some key →
    possession.parameters.encryptedKey = some wrapped →
    client.Unwraps registry start possession.state wrapped key

section Custody

variable {client : Client} (custody : Custody client) {registry : KeyWrap.Registry}
  {start parameters outcome : Parameters} {conditions : Conditions} {state : client.State}
  {possession : Possession client.State}

include custody

/-- What a key is wrapped into is unwrapped to it. -/
theorem pairs_of_wrap (succeeds :
      (client.perform conditions (Strategy.wrap registry parameters) state).1 = .ok outcome) :
    client.Pairs registry parameters ⟨outcome,
      (client.perform conditions (Strategy.wrap registry parameters) state).2⟩ := by
  obtain ⟨plan, data, planned, held, kek, rest, wrapped, decoded, wrapping, rfl⟩ :=
    client.perform_disturbed
      (Strategy.wrap_meets (custody.reveals conditions.source) registry parameters state)
      outcome succeeds
  obtain ⟨suite, targeted, -⟩ := Strategy.plan_eq_ok_iff.mp planned
  obtain ⟨located, given, resolved⟩ := Strategy.target_eq_ok_iff.mp targeted
  refine ⟨⟨rfl, rfl, rfl⟩, ?_⟩
  intro key carried same carries
  obtain rfl : plan.key = key := Option.some.inj (given.symm.trans same)
  obtain rfl : wrapped = carried := Option.some.inj carries
  have unwrapping := (KeyWrap.Registry.unwrap_eq_ok_iff_wrap resolved resolved).mpr wrapping
  exact ⟨plan.path, data, kek, rest, located, held, decoded, unwrapping⟩

theorem pairs_of_unwrap (succeeds :
      (client.perform conditions (Strategy.unwrap registry parameters) state).1 = .ok outcome) :
    client.Pairs registry parameters ⟨outcome,
      (client.perform conditions (Strategy.unwrap registry parameters) state).2⟩ := by
  obtain ⟨path, data, located, held, kek, rest, wrapped, key, decoded, given, unwrapping, rfl⟩ :=
    client.perform_disturbed
      (Strategy.unwrap_opens (custody.reveals conditions.source) registry parameters state)
      outcome succeeds
  refine ⟨⟨rfl, rfl, rfl⟩, ?_⟩
  intro other carried same carries
  obtain rfl : key = other := Option.some.inj same
  obtain rfl : wrapped = carried := Option.some.inj (given.symm.trans carries)
  exact ⟨path, data, kek, rest, located, held, decoded, unwrapping⟩

namespace Pairs

theorem of_keeps (pairs : client.Pairs registry start possession) {after : client.State}
    (keeps : custody.Keeps possession.state after) :
    client.Pairs registry start ⟨possession.parameters, after⟩ where
  agrees := pairs.agrees
  unwraps key wrapped given carried :=
    (pairs.unwraps key wrapped given carried).of_keeps custody keeps

omit custody in
theorem of_agrees (pairs : client.Pairs registry parameters possession)
    (agrees : start.AgreesWith parameters) : client.Pairs registry start possession where
  agrees := agrees.trans pairs.agrees
  unwraps key wrapped given carried :=
    (pairs.unwraps key wrapped given carried).of_agrees agrees.symm

/-- What is taken over makes a pair of its own; if nothing is, the old one is as good as it
was. -/
theorem takeOver (pairs : client.Pairs registry start possession) {after : client.State}
    (keeps : custody.Keeps possession.state after) {result : Except Failure Parameters}
    (achieves : ∀ outcome, result = .ok outcome →
      client.Pairs registry possession.parameters ⟨outcome, after⟩) :
    client.Pairs registry start ⟨(Filling.takeOver possession.parameters result).2, after⟩ := by
  cases result with
  | error failure => exact pairs.of_keeps custody keeps
  | ok outcome => exact (achieves outcome rfl).of_agrees pairs.agrees

theorem act (pairs : client.Pairs registry start possession) {deed : Deed}
    (suits : deed.Suits start) :
    client.Pairs registry start (client.act (.enveloping registry) possession deed) := by
  have agrees := pairs.agrees
  cases deed with
  | replacePlaintextKey key =>
    refine ⟨⟨agrees.options, agrees.suite, agrees.algorithm⟩, ?_⟩
    intro other wrapped _ carried
    cases carried
  | replaceEncryptedKey wrapped =>
    refine ⟨⟨agrees.options, agrees.suite, agrees.algorithm⟩, ?_⟩
    intro key other given
    cases given
  | encrypt conditions =>
    simp only [Client.act, fill_encryptInto]
    have keeps := custody.keeps_call (.encrypt registry possession.parameters) conditions
      possession.state
    exact pairs.takeOver custody keeps fun outcome => pairs_of_wrap custody
  | decrypt conditions =>
    simp only [Client.act, fill_decryptInto]
    have keeps := custody.keeps_call (.decrypt registry possession.parameters) conditions
      possession.state
    exact pairs.takeOver custody keeps fun outcome => pairs_of_unwrap custody
  | configure other => exact ⟨⟨suits.options, suits.suite, suits.algorithm⟩, pairs.unwraps⟩
  | meanwhile call conditions => exact pairs.of_keeps custody (custody.keeps_call call conditions _)

theorem actAll (pairs : client.Pairs registry start possession) {deeds : List Deed}
    (suit : ∀ deed ∈ deeds, deed.Suits start) :
    client.Pairs registry start (client.actAll (.enveloping registry) deeds possession) := by
  induction deeds generalizing possession with
  | nil => exact pairs
  | cons deed rest inductionHypothesis =>
    exact inductionHypothesis (pairs.act custody (suit deed List.mem_cons_self))
      fun later among => suit later (List.mem_cons_of_mem _ among)

/-- To encrypt a key again makes the same of it. -/
theorem encrypt_again (pairs : client.Pairs registry start possession) {key wrapped : Bytes}
    (given : possession.parameters.plaintextKey = some key)
    (carried : possession.parameters.encryptedKey = some wrapped) (conditions : Conditions) :
    (client.fill conditions (Strategy.enveloping registry).encryptInto possession.parameters
      possession.state).parameters.encryptedKey = some wrapped := by
  have keeps := custody.keeps_call (.encrypt registry possession.parameters) conditions
    possession.state
  have before := (pairs.unwraps key wrapped given carried).of_keeps custody keeps
  simp only [fill_encryptInto]
  cases performed : (client.perform conditions
    ((Strategy.enveloping registry).encrypt possession.parameters) possession.state).1 with
  | error failure => exact carried
  | ok outcome =>
    obtain ⟨again, path, -, rfl⟩ := perform_wrap_of_ok custody performed
    have after := (pairs_of_wrap custody performed).of_agrees pairs.agrees
    rw [before.unique (after.unwraps key again given rfl)]
    rfl

end Pairs

end Custody

end Client

/-- Whatever is done to parameters that start without a pair of keys, and whatever goes
wrong, a key and a wrapped key that are in them together belong together. To encrypt such a
key again changes nothing. -/
theorem Location.keys_are_paired (location : Location) (registry : KeyWrap.Registry)
    (start : Parameters) (unpaired : start.plaintextKey = none ∨ start.encryptedKey = none)
    (state : location.client.State) (deeds : List Deed)
    (suit : ∀ deed ∈ deeds, deed.Suits start) :
    let strategy := Strategy.enveloping registry
    let final := location.client.actAll strategy deeds ⟨start, state⟩
    ∀ key wrapped, final.parameters.plaintextKey = some key →
      final.parameters.encryptedKey = some wrapped →
      location.client.Unwraps registry final.parameters final.state wrapped key ∧
      ∀ conditions, (location.client.fill conditions strategy.encryptInto final.parameters
        final.state).parameters.encryptedKey = some wrapped := by
  intro strategy final key wrapped given carried
  have paired : location.client.Pairs registry start ⟨start, state⟩ := by
    refine ⟨⟨rfl, rfl, rfl⟩, ?_⟩
    rcases unpaired with none | none
    · simp [none]
    · simp [none]
  have pairs : location.client.Pairs registry start final :=
    paired.actAll location.custody suit
  have unwraps := pairs.unwraps key wrapped given carried
  constructor
  · exact unwraps.of_agrees pairs.agrees
  · intro conditions
    exact pairs.encrypt_again location.custody given carried conditions

/-- A key is wrapped, fails to be unwrapped while the store cannot be read, and stays beside
what it was wrapped into when a longer key encryption key is asked for. -/
theorem Location.keys_are_paired_after_failure :
    let start : Parameters := { Parameters.empty with algorithm := some "AES" }
    let deeds : List Deed :=
      [.replacePlaintextKey (some (List.replicate 24 1)), .encrypt ⟨Randomness.zeros, []⟩,
        .decrypt ⟨Randomness.zeros, [some (.fault (.coded .noEntry))]⟩,
        .configure { start with keyLength := 256 }]
    ∃ final key wrapped,
      final = Location.memory.client.actAll (.enveloping .builtIn) deeds ⟨start, Memory.empty⟩ ∧
      final.parameters.plaintextKey = some key ∧ final.parameters.encryptedKey = some wrapped ∧
      Location.memory.client.Unwraps .builtIn final.parameters final.state wrapped key ∧
      (Location.memory.client.fill ⟨Randomness.zeros, []⟩
        (Strategy.enveloping .builtIn).encryptInto final.parameters
          final.state).parameters.encryptedKey = some wrapped := by
  intro start deeds
  have suit : ∀ deed ∈ deeds, deed.Suits start := by
    simp only [deeds, List.forall_mem_cons, List.not_mem_nil, false_implies, implies_true, and_true]
    exact ⟨trivial, trivial, trivial, rfl, rfl, rfl⟩
  have paired := keys_are_paired .memory .builtIn start (.inl rfl) Memory.empty deeds suit
  obtain ⟨key, given⟩ := Option.isSome_iff_exists.mp
    (show (Location.memory.client.actAll (.enveloping .builtIn) deeds
      ⟨start, Memory.empty⟩).parameters.plaintextKey.isSome = true by decide +kernel)
  obtain ⟨wrapped, carried⟩ := Option.isSome_iff_exists.mp
    (show (Location.memory.client.actAll (.enveloping .builtIn) deeds
      ⟨start, Memory.empty⟩).parameters.encryptedKey.isSome = true by decide +kernel)
  obtain ⟨unwraps, again⟩ := paired key wrapped given carried
  exact ⟨_, key, wrapped, rfl, given, carried, unwraps, again _⟩

end Storage

end KeyEnvelope
