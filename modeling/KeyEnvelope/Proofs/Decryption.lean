import KeyEnvelope.Proofs.Storage.Service
import KeyEnvelope.Proofs.Strategy

/-!
# Unwrapping creates nothing

A key encryption key that is made to unwrap with would be of no use, and would pass
for the lost one. Unwrapping therefore only reads, whatever befalls its requests; and
where there is no record it says so, naming the path.
-/

namespace KeyEnvelope

/-- Nothing but the check for the record decides that the key encryption key is
missing. -/
theorem Strategy.unwrap_of_missing {Draft σ : Type}
    {contract : Contract (Surroundings.interface Draft) σ} {registry : KeyWrap.Registry}
    {parameters : Parameters} {path : Text} {wrapped : Bytes} {replication : Int} {state : σ}
    (permits : ∀ request, contract.permits request)
    (missing : ∀ answer next, contract.serves (.storage (.contains path)) state answer next →
      answer = .ok false)
    (located : keyPath parameters = .ok path) (given : parameters.encryptedKey = some wrapped)
    (replicated : Setting.replication.resolveInt parameters.options = .ok replication) :
    (unwrap registry parameters : Operation Draft Parameters).Meets contract
      (fun result _ => result = .error (.kekMissing path none)) state := by
  simp only [unwrap, KeyStore.contains, Operation.meets_bind, Operation.meets_ofExcept,
    Operation.meets_andThen, Operation.meets_contains, located, given, replicated]
  refine ⟨permits _, ?_⟩
  intro answer next served
  obtain rfl := missing answer next served
  exact ⟨permits _, fun _ _ _ => rfl⟩

namespace Storage

namespace Directory

/-- There is no file where the record would be. Paths that climb are refused, and what
is beyond the limits of the system cannot be told. -/
structure Lacks (store : Directory) (path : Text) : Prop where
  stays : (FilePath.ofText path).climbs = false
  limits : FileTree.WithinLimits (store.place path)
  absent : ∀ content mode, store.tree.locate (store.place path) ≠ .ok (.file content mode)

theorem Lacks.contains {store : Directory} {path : Text} (lacks : store.Lacks path) :
    store.contains path = .ok false := by
  have resolved : resolve store.base path =
      .ok (store.base.below (FilePath.ofText path).names) :=
    resolve_eq_ok_iff.mpr ⟨lacks.stays, rfl⟩
  have found : store.tree.holdsFile (store.place path) = .ok false :=
    FileTree.holdsFile_of_no_file lacks.limits lacks.absent
  simp only [Directory.contains, resolved, Checks.ok_bind, found]
  split <;> rfl

end Directory

/-- There is no record at the path, and the store can tell. -/
def Location.Lacks : (location : Location) → location.client.State → Text → Prop
  | .memory => fun store path => Memory.record? store path = none
  | .directory _ => Directory.Lacks

theorem Location.Lacks.contains {location : Location} {state : location.client.State}
    {path : Text} (lacks : location.Lacks state path) :
    (location.client.serve (.contains path) state).answer = .ok false := by
  cases location with
  | memory =>
    have absent : Memory.record? state path = none := lacks
    exact congrArg (fun record : Option MemoryRecord => Except.ok record.isSome) absent
  | directory base => exact Directory.Lacks.contains lacks

namespace Custody

variable {client : Client} (custody : Custody client)

include custody

/-- Calls that only read leave no trace in a store, in any number. -/
theorem performAll_of_onlyReads {calls : List (Call × Conditions)}
    (onlyRead : ∀ call ∈ calls,
      (call.1.operation : Operation client.Draft call.1.Result).OnlyReads)
    (state : client.State) :
    client.performAll calls state = state := by
  induction calls with
  | nil => rfl
  | cons call rest inductionHypothesis =>
    obtain ⟨first, later⟩ := List.forall_mem_cons.mp onlyRead
    have unchanged := custody.perform_of_onlyReads first call.2 state
    calc client.performAll (call :: rest) state
        = client.performAll rest (client.perform call.2 call.1.operation state).2 := rfl
      _ = client.performAll rest state := by rw [unchanged]
      _ = state := inductionHypothesis later

end Custody

theorem Client.exchangesAll_of_onlyReads (client : Client) {calls : List (Call × Conditions)}
    (onlyRead : ∀ call ∈ calls,
      (call.1.operation : Operation client.Draft call.1.Result).OnlyReads)
    (state : client.State) :
    ∀ exchange ∈ client.exchangesAll calls state, exchange.1.IsReading := by
  induction calls generalizing state with
  | nil => simp [exchangesAll]
  | cons call rest inductionHypothesis =>
    obtain ⟨first, later⟩ := List.forall_mem_cons.mp onlyRead
    rw [exchangesAll, List.forall_mem_append]
    exact ⟨Procedure.Asks.trace first _, inductionHypothesis later _⟩

/-- Unwrapping creates nothing, however often it is tried and whatever befalls it; and
a key encryption key that is not there is reported missing. -/
theorem Location.unwrapping_creates_nothing (location : Location) (state : location.client.State)
    (attempts : List (KeyWrap.Registry × Parameters × Conditions)) :
    let calls : List (Call × Conditions) :=
      attempts.map fun (registry, parameters, conditions) =>
        (.decrypt registry parameters, conditions)
    location.client.performAll calls state = state ∧
    (∀ exchange ∈ location.client.exchangesAll calls state,
      ∀ path replication, exchange.1 ≠ .storage (.create path replication)) ∧
    ∀ (registry : KeyWrap.Registry) (parameters : Parameters) (path : Text) (wrapped : Bytes)
      (replication : Int) (source : Randomness.Source),
      Strategy.keyPath parameters = .ok path →
      parameters.encryptedKey = some wrapped →
      Setting.replication.resolveInt parameters.options = .ok replication →
      location.Lacks state path →
      (location.client.perform ⟨source, []⟩ ((Strategy.enveloping registry).decrypt parameters)
        (location.client.performAll calls state)).1 = .error (.kekMissing path none) := by
  intro calls
  have onlyRead : ∀ call ∈ calls,
      (call.1.operation : Operation location.client.Draft call.1.Result).OnlyReads := by
    intro call called
    obtain ⟨⟨registry, parameters, conditions⟩, -, rfl⟩ := List.mem_map.mp called
    exact Strategy.unwrap_onlyReads registry parameters
  have unchanged := location.custody.performAll_of_onlyReads onlyRead state
  refine ⟨unchanged, ?_, ?_⟩
  · rintro ⟨request, answer⟩ exchanged path replication rfl
    exact location.client.exchangesAll_of_onlyReads onlyRead state _ exchanged
  · intro registry parameters path wrapped replication source located given replicated lacks
    rw [unchanged]
    apply Client.perform_calm (Strategy.unwrap_of_missing (fun _ => trivial) ?_ located given
      replicated)
    intro answer next served
    exact (congrArg Prod.fst served).symm.trans lacks.contains

/-- In a directory without records, the key encryption key is reported missing also after
an attempt that failed. -/
theorem Location.unwrapping_in_empty_directory :
    let store : Directory := ⟨.ofText "/base", ⟨[(["base"], .directory)]⟩⟩
    let reader : Parameters :=
      { Parameters.empty with algorithm := some "AES", encryptedKey := some [1, 2, 3] }
    let calls : List (Call × Conditions) :=
      [(.decrypt .builtIn reader, ⟨fun _ _ => .ok [], [some (.fault (.coded .noEntry))]⟩)]
    (Directory.client.perform ⟨fun _ _ => .ok [], []⟩
      ((Strategy.enveloping .builtIn).decrypt reader)
      (Directory.client.performAll calls store)).1 =
        .error (.kekMissing "/key_guardian/crypto/secret/keyEncryptionKey" none) := by
  intro store reader calls
  have lacks : store.Lacks "/key_guardian/crypto/secret/keyEncryptionKey" :=
    ⟨by rfl, by decide, fun content mode located => by cases located⟩
  exact (unwrapping_creates_nothing (.directory store.base) store
    [(.builtIn, reader, ⟨fun _ _ => .ok [], [some (.fault (.coded .noEntry))]⟩)]).2.2
      .builtIn reader _ [1, 2, 3] 5 _ (by rfl) (by rfl) (by rfl) lacks

end Storage

end KeyEnvelope
