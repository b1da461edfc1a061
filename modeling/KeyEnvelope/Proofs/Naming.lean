import KeyEnvelope.Proofs.Ownership

/-!
# Which key encryption key parameters name

Parameters name the key encryption key of the last key that was wrapped with them. Whoever
takes a new key to wrap drops that name; whoever takes another wrapped key leaves it. Beside
a name there is therefore what the call that set it made, or what was put in its place since.
-/

namespace KeyEnvelope

open Storage

namespace Deed

/-- The wrapped key that somebody puts into parameters, if that is what they do. -/
def given? : Deed → Option (Option Bytes)
  | replaceEncryptedKey wrapped => some wrapped
  | _ => none

def lastGiven? (deeds : List Deed) : Option (Option Bytes) :=
  (deeds.filterMap given?).getLast?

theorem lastGiven?_concat (deeds : List Deed) (deed : Deed) :
    lastGiven? (deeds ++ [deed]) = deed.given?.or (lastGiven? deeds) := by
  cases given : deed.given? <;> simp [lastGiven?, given]

end Deed

/-- Every key is wrapped into one half more than it fills. -/
theorem KeyWrap.Registry.length_of_wrap {registry : Registry} {algorithm descriptor : Text}
    {kek key wrapped : Bytes}
    (wrapping : registry.wrap algorithm descriptor kek key = .ok wrapped) :
    wrapped.length = 8 * ((key.length + 7) / 8) + 8 := by
  obtain ⟨suite, resolved, nonempty, wraps⟩ := wrap_eq_ok_iff.mp wrapping
  obtain ⟨again, rewraps, length⟩ :=
    Mode.exists_wrap (Mode.isKekLength_of_wrap wraps) (Mode.admits_of_wrap nonempty wraps)
  obtain rfl := Except.ok.inj (wraps.symm.trans rewraps)
  exact length

namespace Storage

namespace Client

variable {client : Client} {registry : KeyWrap.Registry}
  {start possession : Possession client.State} {deeds : List Deed} {path : Text}
  {conditions : Conditions}

/-- To encrypt at this point succeeds, with this as the wrapped key, and makes the parameters name
the path. -/
def WrapsInto (client : Client) (registry : KeyWrap.Registry) (conditions : Conditions)
    (possession : Possession client.State) (path : Text) (made : Bytes) : Prop :=
  (client.perform conditions ((Strategy.enveloping registry).encrypt possession.parameters)
    possession.state).1 =
      .ok { possession.parameters with encryptedKey := some made, kekId := some path }

/-- The key in the parameters is wrapped into this under the record at the path. -/
def WrappedUnder (client : Client) (registry : KeyWrap.Registry) (parameters : Parameters)
    (path : Text) (state : client.State) (made : Bytes) : Prop :=
  ∃ key data kek rest, parameters.plaintextKey = some key ∧
    Custody.Holds client path data state ∧ KeyRecord.decode data = .ok (kek, rest) ∧
    registry.wrap (Strategy.algorithmName parameters) (Strategy.suiteName parameters) kek key =
      .ok made

/-- One of the deeds made the parameters name the path, by wrapping a key under the record
that is there. What it was wrapped into is still beside the name, unless another wrapped key
has been given since. -/
def NamedBy (client : Client) (registry : KeyWrap.Registry) (start : Possession client.State)
    (deeds : List Deed) (path : Text) : Prop :=
  let actAll := client.actAll (.enveloping registry)
  ∃ before conditions after made, deeds = before ++ .encrypt conditions :: after ∧
    client.WrapsInto registry conditions (actAll before start) path made ∧
    client.WrappedUnder registry (actAll before start).parameters path (actAll deeds start).state
      made ∧
    (actAll deeds start).parameters.encryptedKey = (Deed.lastGiven? after).getD (some made)

theorem actAll_concat (strategy : Strategy) (deed : Deed) :
    client.actAll strategy (deeds ++ [deed]) possession =
      client.act strategy (client.actAll strategy deeds possession) deed := by
  simp only [actAll, List.foldl_append, List.foldl_cons, List.foldl_nil]

section Custody

variable (custody : Custody client)

include custody

theorem WrappedUnder.of_keeps {parameters : Parameters} {before after : client.State}
    {made : Bytes} (wrapped : client.WrappedUnder registry parameters path before made)
    (keeps : custody.Keeps before after) :
    client.WrappedUnder registry parameters path after made := by
  obtain ⟨key, data, kek, rest, given, held, decoded, wrapping⟩ := wrapped
  exact ⟨key, data, kek, rest, given, custody.opens keeps held, decoded, wrapping⟩

theorem keeps_act (deed : Deed) :
    custody.Keeps possession.state (client.act (.enveloping registry) possession deed).state := by
  cases deed with
  | encrypt conditions =>
    simp only [act, fill_encryptInto]
    exact custody.keeps_call (.encrypt registry possession.parameters) conditions _
  | decrypt conditions =>
    simp only [act, fill_decryptInto]
    exact custody.keeps_call (.decrypt registry possession.parameters) conditions _
  | meanwhile call conditions => exact custody.keeps_call call conditions _
  | _ => exact custody.refl _

theorem wrappedUnder_of_wrapsInto {made : Bytes}
    (wraps : client.WrapsInto registry conditions possession path made) :
    client.WrappedUnder registry possession.parameters path
      (client.act (.enveloping registry) possession (.encrypt conditions)).state made := by
  obtain ⟨plan, data, planned, held, kek, rest, wrapped, decoded, wrapping, same⟩ :=
    client.perform_disturbed
      (Strategy.wrap_meets (custody.reveals conditions.source) registry possession.parameters
        possession.state) _ wraps
  obtain ⟨rfl, rfl⟩ : made = wrapped ∧ path = plan.path := by simpa using same
  obtain ⟨suite, targeted, -⟩ := Strategy.plan_eq_ok_iff.mp planned
  obtain ⟨-, given, -⟩ := Strategy.target_eq_ok_iff.mp targeted
  simp only [act, fill_encryptInto]
  exact ⟨plan.key, data, kek, rest, given, held, decoded, wrapping⟩

/-- To encrypt leaves the parameters as they are, or names the path under which it wraps. -/
theorem act_encrypt (conditions : Conditions) :
    let after := client.act (.enveloping registry) possession (.encrypt conditions)
    after.parameters = possession.parameters ∨ ∃ path made,
      client.WrapsInto registry conditions possession path made ∧
      after.parameters =
        { possession.parameters with encryptedKey := some made, kekId := some path } := by
  intro after
  simp only [after, act, WrapsInto, fill_encryptInto]
  cases performed : (client.perform conditions
    ((Strategy.enveloping registry).encrypt possession.parameters) possession.state).1 with
  | error failure => exact .inl rfl
  | ok outcome =>
    obtain ⟨made, path, -, rfl⟩ := perform_wrap_of_ok custody performed
    exact .inr ⟨path, made, rfl, rfl⟩

theorem act_decrypt (conditions : Conditions) :
    let after := client.act (.enveloping registry) possession (.decrypt conditions)
    after.parameters = possession.parameters ∨ ∃ key,
      after.parameters = { possession.parameters with plaintextKey := some key } := by
  intro after
  simp only [after, act, fill_decryptInto]
  cases performed : (client.perform conditions
    ((Strategy.enveloping registry).decrypt possession.parameters) possession.state).1 with
  | error failure => exact .inl rfl
  | ok outcome =>
    obtain ⟨key, rfl⟩ := perform_unwrap_of_ok custody performed
    exact .inr ⟨key, rfl⟩

/-- A name stays as long as no other key is wrapped and no new one is taken. -/
theorem NamedBy.concat (named : client.NamedBy registry start deeds path) {deed : Deed}
    (beside :
      (client.actAll (.enveloping registry) (deeds ++ [deed]) start).parameters.encryptedKey =
        deed.given?.getD
          (client.actAll (.enveloping registry) deeds start).parameters.encryptedKey) :
    client.NamedBy registry start (deeds ++ [deed]) path := by
  obtain ⟨before, conditions, after, made, rfl, wraps, under, besideBefore⟩ := named
  refine ⟨before, conditions, after ++ [deed], made, by simp, wraps, ?_, ?_⟩
  · rw [actAll_concat]
    exact under.of_keeps custody (keeps_act custody deed)
  · rw [beside, besideBefore, Deed.lastGiven?_concat]
    cases deed.given? <;> rfl

theorem namedBy_of_kekId (unnamed : start.parameters.kekId = none)
    (names : (client.actAll (.enveloping registry) deeds start).parameters.kekId = some path) :
    client.NamedBy registry start deeds path := by
  -- The induction takes the last deed off: it has set the name, has left it, or has dropped it.
  induction deeds using List.reverseRecOn with
  | nil => cases unnamed.symm.trans names
  | append_singleton deeds deed inductionHypothesis =>
    rw [actAll_concat] at names
    cases deed with
    | replacePlaintextKey key => cases names
    | encrypt conditions =>
      rcases act_encrypt custody conditions with same | ⟨found, made, wraps, set⟩
      · rw [same] at names
        exact (inductionHypothesis names).concat custody (by rw [actAll_concat, same]; rfl)
      · rw [set] at names
        obtain rfl : found = path := Option.some.inj names
        refine ⟨deeds, conditions, [], made, rfl, wraps, ?_, ?_⟩
        · rw [actAll_concat]
          exact wrappedUnder_of_wrapsInto custody wraps
        · rw [actAll_concat, set]
          rfl
    | decrypt conditions =>
      rcases act_decrypt custody conditions with same | ⟨key, set⟩
      · rw [same] at names
        exact (inductionHypothesis names).concat custody (by rw [actAll_concat, same]; rfl)
      · rw [set] at names
        exact (inductionHypothesis names).concat custody (by rw [actAll_concat, set]; rfl)
    | _ => exact (inductionHypothesis names).concat custody (by rw [actAll_concat]; rfl)

end Custody

end Client

/-- Whatever is done to parameters without keys: if they name a path, then some call has
wrapped a key under the record there and set the name. The wrapped key beside the name is
what that call made, unless another one has been given since; then it is the last one given. -/
theorem Location.kekId_is_of_last_wrapping (location : Location) (registry : KeyWrap.Registry)
    (settings : Parameters) (state : location.client.State) (deeds : List Deed) :
    let actAll := location.client.actAll (.enveloping registry)
    let start : Possession location.client.State := ⟨Parameters.empty.configuredAs settings, state⟩
    ∀ path, (actAll deeds start).parameters.kekId = some path →
      ∃ before conditions after made, deeds = before ++ .encrypt conditions :: after ∧
        location.client.WrapsInto registry conditions (actAll before start) path made ∧
        location.client.WrappedUnder registry (actAll before start).parameters path
          (actAll deeds start).state made ∧
        (actAll deeds start).parameters.encryptedKey =
          (Deed.lastGiven? after).getD (some made) := by
  intro actAll start path names
  exact Client.namedBy_of_kekId location.custody rfl names

/-- A key is wrapped, and stays named when the store cannot be read for a while. -/
theorem Location.kekId_is_of_last_wrapping_after_failure :
    let settings : Parameters := { Parameters.empty with algorithm := some "AES" }
    let deeds : List Deed :=
      [.replacePlaintextKey (some (List.replicate 24 1)), .encrypt ⟨Randomness.zeros, []⟩,
        .decrypt ⟨Randomness.zeros, [some (.fault (.coded .noEntry))]⟩,
        .configure { settings with keyLength := 256 }]
    let actAll := Location.memory.client.actAll (.enveloping .builtIn)
    let start : Possession Location.memory.client.State :=
      ⟨Parameters.empty.configuredAs settings, Memory.empty⟩
    ∃ path, (actAll deeds start).parameters.kekId = some path ∧
      ∃ before conditions after made, deeds = before ++ .encrypt conditions :: after ∧
        Location.memory.client.WrapsInto .builtIn conditions (actAll before start) path made ∧
        Location.memory.client.WrappedUnder .builtIn (actAll before start).parameters path
          (actAll deeds start).state made ∧
        (actAll deeds start).parameters.encryptedKey =
          (Deed.lastGiven? after).getD (some made) := by
  intro settings deeds actAll start
  obtain ⟨path, names⟩ := Option.isSome_iff_exists.mp
    (show (actAll deeds start).parameters.kekId.isSome = true by decide +kernel)
  exact ⟨path, names,
    kekId_is_of_last_wrapping .memory .builtIn settings Memory.empty deeds path names⟩

/-- Beside the name of a key encryption key there can be a wrapped key that no call has made. -/
theorem Location.kekId_beside_foreign_key :
    let settings : Parameters := { Parameters.empty with algorithm := some "AES" }
    let deeds : List Deed :=
      [.replacePlaintextKey (some (List.replicate 24 1)), .encrypt ⟨Randomness.zeros, []⟩,
        .replaceEncryptedKey (some [0])]
    let actAll := Location.memory.client.actAll (.enveloping .builtIn)
    let start : Possession Location.memory.client.State :=
      ⟨Parameters.empty.configuredAs settings, Memory.empty⟩
    let path : Text := "/key_guardian/crypto/secret/keyEncryptionKey"
    (actAll deeds start).parameters.kekId = some path ∧
      (actAll deeds start).parameters.encryptedKey = some [0] ∧
      ¬∃ before conditions after, deeds = before ++ .encrypt conditions :: after ∧
        Location.memory.client.WrapsInto .builtIn conditions (actAll before start) path [0] := by
  intro settings deeds actAll start path
  refine ⟨by decide +kernel, by rfl, ?_⟩
  rintro ⟨before, conditions, after, -, wraps⟩
  obtain ⟨key, data, kek, rest, -, -, -, wrapping⟩ :=
    Client.wrappedUnder_of_wrapsInto Memory.custody wraps
  have length := KeyWrap.Registry.length_of_wrap wrapping
  simp only [List.length_singleton] at length
  omega

end Storage

end KeyEnvelope
