import KeyEnvelope.Proofs.Calls
import KeyEnvelope.Proofs.KeyStore.Publishing
import KeyEnvelope.Proofs.Storage.Memory

/-!
# Records are written once

Whatever calls are made on memory and whatever befalls them, a record that is there
stays as it is. A call adds one record at most, with the key that it drew, where
there was none; it does so exactly if making sure of the key reports that it was
created.
-/

namespace KeyEnvelope

open Storage

namespace Call

/-- The key encryption key that a call makes sure of, if it comes to that. -/
def provision? : Call → Option Provision
  | encrypt registry parameters =>
    match Strategy.plan registry parameters with
    | .ok plan => some (plan.provision parameters)
    | .error _ => none
  | ensure generator replication path bits => some ⟨generator, replication, path, bits⟩
  | decrypt _ _ | contains _ | load _ => none

/-- What making sure of its key encryption key returns to a call. -/
def ensured? (client : Client) (conditions : Conditions) (state : client.State) (call : Call) :
    Option (Except Failure Bool) :=
  call.provision?.map fun provision => (client.perform conditions provision.ensure state).1

end Call

namespace Storage.Memory

variable {before memory : Memory} {drafts : List Draft} {source : Randomness.Source}
  {wanted : Draft → Prop}

/-- The drafts became records where there were none. -/
structure Added (before memory : Memory) (drafts : List Draft) : Prop where
  records : memory.records = before.records ++ drafts.map fun draft => (draft.path, draft.record)
  absent : ∀ draft ∈ drafts, before.record? draft.path = none

theorem added_nil (memory : Memory) : Added memory memory [] :=
  ⟨by simp, by simp⟩

theorem Added.absent_before {path : Text} (added : Added before memory drafts)
    (absent : memory.record? path = none) :
    before.record? path = none := by
  rw [record?, added.records, Assoc.get?_append_eq_none_iff] at absent
  exact absent.1

theorem Added.publish (added : Added before memory drafts) (draft : Draft) :
    Added before (memory.publish draft).2
      (drafts ++ publishedBy (.storage (.publish draft)) (memory.publish draft).1) := by
  cases found : memory.record? draft.path with
  | some record =>
    rw [publish_of_present found]
    simpa [publishedBy] using added
  | none =>
    rw [publish_of_absent found]
    refine ⟨by simp [records_put found, added.records, publishedBy], fun other among => ?_⟩
    rcases List.mem_append.mp among with earlier | new
    · exact added.absent other earlier
    · obtain rfl := List.mem_singleton.mp new
      exact added.absent_before found

theorem Added.of_records_eq {next : Memory} (added : Added before memory drafts)
    (same : next.records = memory.records) : Added before next (drafts ++ []) :=
  ⟨by simpa [same] using added.records, by simpa using added.absent⟩

theorem Added.handle (added : Added before memory drafts) (request : Request Draft) :
    Added before (client.handle request memory).2
      (drafts ++ publishedBy (.storage request) (client.handle request memory).1) := by
  cases request with
  | publish draft => exact added.publish draft
  | _ => exact added.of_records_eq rfl

theorem Added.handleDisturbed (added : Added before memory drafts)
    (disturbance : Option Disturbance) (request : Request Draft) :
    ∃ next, (tally source wanted).serves (.storage request) drafts
        (client.handleDisturbed disturbance request memory).1 next ∧
      Added before (client.handleDisturbed disturbance request memory).2 next := by
  refine ⟨_, ⟨?_, rfl⟩, ?_⟩
  · rcases disturbance with _ | _ | _ <;> cases request <;> trivial
  · rcases disturbance with _ | error | _
    · exact added.handle request
    · cases request <;> exact added.of_records_eq rfl
    · cases request with
      | contains path => exact added.of_records_eq rfl
      | _ => exact added.handle _

theorem perform_meets {α : Type} {goal : Except Failure α → List Draft → Prop}
    {operation : Operation Draft α} (memory : Memory) (conditions : Conditions)
    (meets : operation.Meets (tally conditions.source wanted) goal []) :
    ∃ drafts, goal (client.perform conditions operation memory).1 drafts ∧
      Added memory (client.perform conditions operation memory).2 drafts := by
  refine client.perform_meets (fun disturbance request state drafts _ added =>
    Added.handleDisturbed added disturbance request) (fun generator count state drafts added => ?_)
    (fun event state drafts added => ?_) (added_nil memory) meets
  · refine ⟨_, ⟨?_, rfl⟩, added.of_records_eq rfl⟩
    cases drawn : conditions.source generator count with
    | error failure => trivial
    | ok key => exact drawn
  · exact ⟨_, ⟨trivial, rfl⟩, added.of_records_eq rfl⟩

theorem perform_of_onlyReads {α : Type} {operation : Operation Draft α}
    (onlyReads : operation.OnlyReads) (memory : Memory) (conditions : Conditions) :
    (client.perform conditions operation memory).2.records = memory.records := by
  have meets : operation.Meets (tally conditions.source fun _ => True) (fun _ next =>
    next = []) [] :=
    onlyReads.publishes_nothing
  obtain ⟨drafts, rfl, added⟩ := perform_meets memory conditions meets
  simpa using added.records

/-- The record of a provision was added to memory, with a key that was drawn for it. -/
structure Provides (source : Randomness.Source) (provision : Provision) (before after : Memory)
    (key : Bytes) : Prop
    extends provision.Draws source key where
  absent : before.record? provision.path = none
  records : after.records = before.records ++ [(provision.path, (provision.draft key).record)]

/-- Memory has been added the record of the provision if making sure of it says so,
and is as it was otherwise. -/
def Reports (source : Randomness.Source) (provision : Provision) (result : Except Failure Bool)
    (before after : Memory) : Prop :=
  (∃ key, result = .ok true ∧ Provides source provision before after key) ∨
    result ≠ .ok true ∧ after.records = before.records

theorem perform_ensure (provision : Provision) (memory : Memory) (conditions : Conditions) :
    Reports conditions.source provision (client.perform conditions provision.ensure memory).1 memory
      (client.perform conditions provision.ensure memory).2 := by
  have meets : provision.ensure.Meets (tally conditions.source fun _ => True) _ [] :=
    Provision.ensure_publishes fun _ _ => trivial
  obtain ⟨drafts, published, added⟩ := perform_meets memory conditions meets
  rcases published with ⟨key, created, draws, rfl⟩ | ⟨failed, rfl⟩
  · exact .inl ⟨key, created, draws, added.absent (provision.draft key) (by simp), added.records⟩
  · exact .inr ⟨failed, added.records.trans (List.append_nil _)⟩

theorem records_perform_wrap {registry : KeyWrap.Registry} {parameters : Parameters}
    {plan : Strategy.Plan}
    (planned : Strategy.plan registry parameters = .ok plan) (memory : Memory)
    (conditions : Conditions) :
    (client.perform conditions (Strategy.wrap registry parameters) memory).2.records =
      (client.perform conditions (plan.provision parameters).ensure memory).2.records := by
  rw [Strategy.wrap_of_plan planned]
  rcases performed : client.perform conditions (plan.provision parameters).ensure memory with
    ⟨failure | created, after⟩
  · rw [client.perform_bind_of_error performed]
  · obtain ⟨later, continued⟩ := client.perform_bind_of_ok performed
    rw [continued]
    exact perform_of_onlyReads (Strategy.wrapPlanned_onlyReads registry parameters plan) after later

end Storage.Memory

namespace Call

open Storage.Memory

/-- A call adds the record of its provision if making sure of that reports so, and
nothing otherwise. -/
theorem perform_records (call : Call) (conditions : Conditions) (memory : Memory) :
    let after : Memory := (client.perform conditions call.operation memory).2
    (call.ensured? client conditions memory = some (.ok true) ∧
      ∃ provision key, call.provision? = some provision ∧
        Provides conditions.source provision memory after key) ∨
    call.ensured? client conditions memory ≠ some (.ok true) ∧ after.records = memory.records := by
  intro after
  cases call with
  | encrypt registry parameters =>
    cases planned : Strategy.plan registry parameters with
    | error failure =>
      refine .inr ⟨by simp [ensured?, provision?, planned], ?_⟩
      show (client.perform conditions (Strategy.wrap registry parameters) memory).2.records =
        memory.records
      rw [Strategy.wrap_of_plan_eq_error planned]
      rfl
    | ok plan =>
      have provided : (encrypt registry parameters).provision? =
        some (plan.provision parameters) := by
        simp [provision?, planned]
      have wraps := records_perform_wrap planned memory conditions
      rcases perform_ensure (plan.provision parameters) memory conditions with
        ⟨key, created, provides⟩ | ⟨failed, same⟩
      · exact .inl ⟨by simp [ensured?, provided, created], _, key, provided,
          { provides with records := wraps.trans provides.records }⟩
      · exact .inr ⟨by simpa [ensured?, provided] using failed, wraps.trans same⟩
  | ensure generator replication path bits =>
    rcases perform_ensure ⟨generator, replication, path, bits⟩ memory conditions with
      ⟨key, created, provides⟩ | ⟨failed, same⟩
    · exact .inl ⟨by simp [ensured?, provision?, created], _, key, rfl, provides⟩
    · exact .inr ⟨by simpa [ensured?, provision?] using failed, same⟩
  | decrypt registry parameters =>
    exact .inr ⟨by simp [ensured?, provision?],
      perform_of_onlyReads (Strategy.unwrap_onlyReads _ _) memory conditions⟩
  | contains path =>
    exact .inr ⟨by simp [ensured?, provision?],
      perform_of_onlyReads (KeyStore.contains_onlyReads _) memory conditions⟩
  | load path =>
    exact .inr ⟨by simp [ensured?, provision?],
      perform_of_onlyReads (KeyStore.load_onlyReads _) memory conditions⟩

end Call

namespace Storage.Memory

theorem within_of_records {before after : Memory} {added : List (Text × MemoryRecord)}
    (records : after.records = before.records ++ added) : before.Within after := by
  intro path record found
  rw [record?, records]
  exact Assoc.get?_append_of_eq_some found

theorem within_perform (call : Call) (conditions : Conditions) (memory : Memory) :
    memory.Within (client.perform conditions call.operation memory).2 := by
  rcases call.perform_records conditions memory with ⟨-, provision, key, -, provides⟩ | ⟨-, same⟩
  · exact within_of_records provides.records
  · exact within_of_records (same.trans (List.append_nil _).symm)

theorem within_performAll (calls : List (Call × Conditions)) (memory : Memory) :
    memory.Within (client.performAll calls memory) := by
  induction calls generalizing memory with
  | nil => exact .refl memory
  | cons call rest inductionHypothesis =>
    exact (within_perform call.1 call.2 memory).trans (inductionHypothesis _)

/-- After any calls every record that was there before is there unchanged, and the
next call adds a record exactly if making sure of its key encryption key reports
that one was created. -/
theorem records_written_once (memory : Memory) (earlier : List (Call × Conditions)) (call : Call)
    (conditions : Conditions) :
    let before : Memory := client.performAll earlier memory
    let after : Memory := (client.perform conditions call.operation before).2
    memory.Within before ∧ before.Within after ∧
      ((call.ensured? client conditions before = some (.ok true) ∧
          ∃ provision key, call.provision? = some provision ∧
            conditions.source provision.generator (provision.bits / 8).toNat = .ok key ∧
            key.length < 2147483648 ∧ before.record? provision.path = none ∧
            after.records = before.records ++
              [(provision.path, ⟨Bytes.ofNat 4 key.length ++ key, some provision.replication⟩)]) ∨
        call.ensured? client conditions before ≠ some (.ok true) ∧
          after.records = before.records) := by
  intro before after
  refine ⟨within_performAll earlier memory, within_perform call conditions before, ?_⟩
  rcases call.perform_records conditions before with
    ⟨reported, provision, key, provided, provides⟩ | unchanged
  · exact .inl ⟨reported, provision, key, provided, provides.drawn, provides.fitting,
      provides.absent, provides.records⟩
  · exact .inr unchanged

end Storage.Memory

end KeyEnvelope
