import KeyEnvelope.Proofs.Filling
import KeyEnvelope.Proofs.Storage.Refusals

/-!
# All or nothing

Parameters are left as they were unless a key was wrapped or unwrapped, and then only
the fields for it are set. If it was the configuration that was wrong, the store is left
as it was, too.
-/

namespace KeyEnvelope

namespace Filling

variable {parameters : Parameters} {result : Except Failure Parameters}

theorem takeOver_of_error {failure : Failure}
    (fails : (takeOver parameters result).1 = .error failure) :
    (takeOver parameters result).2 = parameters := by
  cases result with
  | error failure => rfl
  | ok outcome => cases fails

theorem takeOver_of_ok (succeeds : (takeOver parameters result).1 = .ok ()) :
    result = .ok (takeOver parameters result).2 := by
  cases result with
  | error failure => cases succeeds
  | ok outcome => rfl

theorem misconfigured_of_takeOver (misconfigured : Misconfigured (takeOver parameters result).1) :
    Misconfigured result := by
  cases result with
  | error failure => simpa [takeOver] using misconfigured
  | ok outcome => simp [takeOver] at misconfigured

end Filling

namespace Storage

theorem Client.perform_wrap_of_ok {client : Client} (custody : Custody client)
    {conditions : Conditions} {registry : KeyWrap.Registry} {parameters outcome : Parameters}
    {state : client.State}
    (succeeds : (client.perform conditions (Strategy.wrap registry parameters) state).1 =
      .ok outcome) :
    ∃ wrapped path, Strategy.keyPath parameters = .ok path ∧
      outcome = { parameters with encryptedKey := some wrapped, kekId := some path } := by
  obtain ⟨plan, data, planned, -, kek, rest, wrapped, -, -, rfl⟩ :=
    client.perform_disturbed
      (Strategy.wrap_meets (custody.reveals conditions.source) registry parameters state)
      outcome succeeds
  obtain ⟨suite, targeted, -⟩ := Strategy.plan_eq_ok_iff.mp planned
  obtain ⟨located, -⟩ := Strategy.target_eq_ok_iff.mp targeted
  exact ⟨wrapped, plan.path, located, rfl⟩

theorem Client.perform_unwrap_of_ok {client : Client} (custody : Custody client)
    {conditions : Conditions} {registry : KeyWrap.Registry} {parameters outcome : Parameters}
    {state : client.State}
    (succeeds : (client.perform conditions (Strategy.unwrap registry parameters) state).1 =
      .ok outcome) :
    ∃ key, outcome = { parameters with plaintextKey := some key } := by
  obtain ⟨path, data, -, -, kek, rest, wrapped, key, -, -, -, rfl⟩ :=
    client.perform_disturbed
      (Strategy.unwrap_opens (custody.reveals conditions.source) registry parameters state)
      outcome succeeds
  exact ⟨key, rfl⟩

/-- What is wrong with the configuration is noticed before a store is changed, unless the
random source is to blame. -/
theorem Location.reading_of_misconfigured_wrap (location : Location) {source : Randomness.Source}
    (sound : ∀ generator count, ¬Misconfigured (source generator count))
    {registry : KeyWrap.Registry} {parameters : Parameters} {faults : List (Option SystemError)}
    {state : location.client.State}
    (misconfigured : Misconfigured (location.client.perform (.failing source faults)
      (Strategy.wrap registry parameters) state).1) :
    ∀ exchange ∈ location.client.exchanges (.failing source faults)
      (Strategy.wrap registry parameters).run state, exchange.1.IsReading := by
  intro exchange exchanged
  exact location.perform_refusing sound (Strategy.wrap_refuses_early registry parameters) faults
    state misconfigured exchange.1 (List.mem_map_of_mem exchanged)

/-- Parameters are filled in wholly or not at all, whatever faults the store has; and a
wrong configuration leaves no trace in the store. -/
theorem Location.filling_is_atomic (location : Location) (registry : KeyWrap.Registry)
    (parameters : Parameters) (source : Randomness.Source) (faults : List (Option SystemError))
    (state : location.client.State) :
    let strategy := Strategy.enveloping registry
    let conditions := Conditions.failing source faults
    let encrypted := location.client.fill conditions strategy.encryptInto parameters state
    let decrypted := location.client.fill conditions strategy.decryptInto parameters state
    (∀ failure, encrypted.result = .error failure → encrypted.parameters = parameters) ∧
    (∀ failure, decrypted.result = .error failure → decrypted.parameters = parameters) ∧
    ((∀ generator count, ¬Misconfigured (source generator count)) →
      ∀ issue, encrypted.result = .error (.configuration issue) →
        encrypted.state = state ∧
        ∀ exchange ∈
            location.client.exchanges conditions (strategy.encryptInto.start parameters) state,
          (∀ path replication, exchange.1 ≠ .storage (.create path replication)) ∧
          ∀ generator count, exchange.1 ≠ .draw generator count) ∧
    (encrypted.result = .ok () → ∃ wrapped path, Strategy.keyPath parameters = .ok path ∧
      encrypted.parameters =
        { parameters with encryptedKey := some wrapped, kekId := some path }) ∧
    (decrypted.result = .ok () → ∃ key,
      decrypted.parameters = { parameters with plaintextKey := some key }) := by
  intro strategy conditions encrypted decrypted
  simp only [encrypted, decrypted, Strategy.encryptInto_eq_atOnce, Strategy.decryptInto_eq_atOnce,
    Client.fill_atOnce, Client.exchanges_atOnce]
  refine ⟨fun _ => Filling.takeOver_of_error, fun _ => Filling.takeOver_of_error, ?_, ?_, ?_⟩
  · intro sound issue fails
    have misconfigured := Filling.misconfigured_of_takeOver ⟨issue, fails⟩
    have reading := location.reading_of_misconfigured_wrap sound misconfigured
    refine ⟨location.custody.unchanged_of_reading reading, ?_⟩
    rintro ⟨request, answer⟩ exchanged
    have permitted := reading _ exchanged
    refine ⟨?_, ?_⟩
    · rintro path replication rfl
      exact permitted
    · rintro generator count rfl
      exact permitted
  · intro succeeds
    exact Client.perform_wrap_of_ok location.custody (Filling.takeOver_of_ok succeeds)
  · intro succeeds
    exact Client.perform_unwrap_of_ok location.custody (Filling.takeOver_of_ok succeeds)

set_option maxRecDepth 4000 in
/-- A key encryption key of 100 bits is refused, and nothing is drawn for it. -/
theorem Location.filling_is_refused_for_100_bits :
    let short : Parameters :=
      { Parameters.empty with
        algorithm := some "AES", keyLength := 100, plaintextKey := some (List.replicate 24 1) }
    let conditions := Conditions.failing (fun _ count => .ok (List.replicate count 0))
      [some (.coded .noEntry)]
    let filling : Filling Memory.Draft Unit := (Strategy.enveloping .builtIn).encryptInto
    let encrypted := Memory.client.fill conditions filling short .empty
    encrypted.result = .error (.configuration (.kekBits .aesWrap 100)) ∧
    encrypted.parameters = short ∧ encrypted.state = .empty ∧
    ∀ exchange ∈ Memory.client.exchanges conditions (filling.start short) .empty,
      (∀ path replication, exchange.1 ≠ .storage (.create path replication)) ∧
      ∀ generator count, exchange.1 ≠ .draw generator count := by
  intro short conditions filling encrypted
  have atomic := filling_is_atomic .memory .builtIn short
    (fun _ count => .ok (List.replicate count 0)) [some (.coded .noEntry)] Memory.empty
  have fails : encrypted.result = .error (.configuration (.kekBits .aesWrap 100)) := by rfl
  refine ⟨fails, atomic.1 (.configuration (.kekBits .aesWrap 100)) fails, ?_⟩
  exact atomic.2.2.1 (fun _ _ => not_misconfigured_ok _) (.kekBits .aesWrap 100) fails

end Storage

end KeyEnvelope
