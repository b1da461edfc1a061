import KeyEnvelope.Proofs.KeyStore.Reading
import KeyEnvelope.Proofs.Strategy

/-!
# Refusals come before effects

A store refuses some paths for their form, whatever it is asked about them, and lays
nothing else to the configuration. A path that it answered about is therefore not
refused later: what is misconfigured is noticed while the store has only been read.
-/

namespace KeyEnvelope

variable {Draft α β : Type}

/-- Failed for a reason that is laid to the configuration. -/
def Misconfigured (result : Except Failure α) : Prop :=
  ∃ issue, result = .error (.configuration issue)

@[simp]
theorem not_misconfigured_ok (value : α) : ¬Misconfigured (.ok value) := by
  rintro ⟨issue, fails⟩
  cases fails

@[simp]
theorem misconfigured_error {failure : Failure} :
    Misconfigured (.error failure : Except Failure α) ↔
      ∃ issue, failure = .configuration issue := by
  simp [Misconfigured]

theorem not_misconfigured_bind {check : Except Failure α}
    {next : α → Except Failure β} (blameless : ¬Misconfigured check)
    (nextBlameless : ∀ value, ¬Misconfigured (next value)) : ¬Misconfigured (check >>= next) := by
  cases check with
  | error failure => simpa using blameless
  | ok value => exact nextBlameless value

namespace Surroundings

/-- An answer by which a path is refused only if it is one of those that are, and none
of them is answered about. -/
def Consistent (refused : Text → Prop) :
    (request : Request Draft) → Answer request → Prop
  | .storage (.contains path), answer => ∀ found, answer = .ok found → ¬refused path
  | .storage (.create path _), answer => Misconfigured answer → refused path
  | .storage (.openRecord path), answer => Misconfigured answer → refused path
  | .storage (.write _ _), answer => ¬Misconfigured answer
  | .storage (.publish _), answer => ¬Misconfigured answer
  | .storage (.read _ _), answer => ¬Misconfigured answer
  | .draw _ _, answer => ¬Misconfigured answer
  | .storage (.discard _), _ => True
  | .note _, _ => True

/-- Collects what is asked of surroundings that are consistent. -/
def refusing (refused : Text → Prop) : Contract (interface Draft) (List (Request Draft)) where
  permits _ := True
  serves request asked answer next := Consistent refused request answer ∧ next = asked ++ [request]

theorem asked_of_follows {refused : Text → Prop} {asked final : List (Request Draft)}
    {history : List (Exchange (interface Draft))}
    (follows : (refusing refused).Follows asked history final) :
    final = asked ++ history.map Sigma.fst := by
  induction follows with
  | nil => simp
  | cons served _ inductionHypothesis => simp [inductionHypothesis, served.2]

end Surroundings

namespace Operation

variable {refused : Text → Prop}

/-- Whatever consistent surroundings answer, the failure of the operation is not laid to
the configuration. -/
def Blameless (refused : Text → Prop) (operation : Operation Draft α) : Prop :=
  ∀ asked, operation.Meets (Surroundings.refusing refused)
    (fun result _ => ¬Misconfigured result) asked

theorem Blameless.bind {operation : Operation Draft α} {next : α → Operation Draft β}
    (first : operation.Blameless refused) (rest : ∀ value, (next value).Blameless refused) :
    (operation >>= next).Blameless refused := by
  intro asked
  apply meets_bind.mpr
  apply (first asked).mono
  intro result state blameless
  cases result with
  | error failure => simpa using blameless
  | ok value => exact rest value state

theorem Blameless.andThen {operation : Operation Draft α}
    {next : Except Failure α → Operation Draft β} (first : operation.Blameless refused)
    (rest : ∀ result, ¬Misconfigured result → (next result).Blameless refused) :
    (operation.andThen next).Blameless refused := by
  intro asked
  apply meets_andThen.mpr
  apply (first asked).mono
  intro result state blameless
  exact rest result blameless state

theorem OnlyReads.asked_reading {operation : Operation Draft α}
    {asked : List (Surroundings.Request Draft)} (onlyReads : operation.OnlyReads)
    (reading : ∀ request ∈ asked, request.IsReading) :
    operation.Meets (Surroundings.refusing refused)
      (fun _ asked => ∀ request ∈ asked, request.IsReading) asked := by
  refine onlyReads.meets (fun _ _ => trivial) ?_ reading
  rintro request asked answer _ permitted ⟨-, rfl⟩ reading
  exact List.forall_mem_append.mpr ⟨reading, by simpa using permitted⟩

theorem blameless_ofExcept {result : Except Failure α} (blameless : ¬Misconfigured result) :
    (ofExcept result : Operation Draft α).Blameless refused := fun _ => blameless

theorem blameless_pure (value : α) : (pure value : Operation Draft α).Blameless refused :=
  blameless_ofExcept (not_misconfigured_ok value)

theorem blameless_throw {failure : Failure} (blameless : ∀ issue, failure ≠ .configuration issue) :
    (throw failure : Operation Draft α).Blameless refused :=
  blameless_ofExcept (by simpa using blameless)

theorem blameless_note (event : Log.Event) :
    (note event : Operation Draft Unit).Blameless refused :=
  fun _ => ⟨trivial, fun _ _ _ => not_misconfigured_ok ()⟩

theorem blameless_draw (generator : Randomness.Generator) (count : Nat) :
    (draw generator count : Operation Draft Bytes).Blameless refused :=
  fun _ => ⟨trivial, fun _ _ served => served.1⟩

theorem blameless_create {path : Text} (accepted : ¬refused path) (replication : Option Int) :
    (create path replication : Operation Draft Draft).Blameless refused :=
  fun _ => ⟨trivial, fun _ _ served misconfigured => accepted (served.1 misconfigured)⟩

theorem blameless_write (draft : Draft) (chunk : Bytes) :
    (write draft chunk).Blameless refused :=
  fun _ => ⟨trivial, fun _ _ served => served.1⟩

theorem blameless_publish (draft : Draft) : (publish draft).Blameless refused :=
  fun _ => ⟨trivial, fun _ _ served => served.1⟩

theorem blameless_discard (draft : Draft) : (discard draft).Blameless refused :=
  fun _ => ⟨trivial, fun _ _ _ => not_misconfigured_ok ()⟩

theorem blameless_openRecord {path : Text} (accepted : ¬refused path) :
    (openRecord path : Operation Draft Storage.Reader).Blameless refused :=
  fun _ => ⟨trivial, fun _ _ served misconfigured => accepted (served.1 misconfigured)⟩

theorem blameless_read (reader : Storage.Reader) (count : Int) :
    (read reader count : Operation Draft (Bytes × Storage.Reader)).Blameless refused :=
  fun _ => ⟨trivial, fun _ _ served => served.1⟩

end Operation

open Operation

namespace KeyStore

variable {refused : Text → Prop} {path : Text}

theorem writeRecord_blameless (draft : Draft) (key : Bytes) :
    (writeRecord draft key).Blameless refused := by
  have checked : ¬Misconfigured (KeyRecord.checkLength key) := by
    unfold KeyRecord.checkLength
    split <;> simp
  apply (blameless_ofExcept checked).bind
  intro _
  apply (blameless_write draft _).bind
  intro begun
  exact blameless_write begun key

theorem createRecord_blameless (accepted : ¬refused path) (replication : Int) (key : Bytes) :
    (createRecord path replication key : Operation Draft Unit).Blameless refused := by
  apply (blameless_create accepted _).bind
  intro draft
  apply (writeRecord_blameless draft key).andThen
  intro result blameless
  cases result with
  | ok written => exact blameless_publish written
  | error failure =>
    exact (blameless_discard draft).bind fun _ => blameless_throw (by simpa using blameless)

theorem afterCreation_blameless (bits replication : Int) {result : Except Failure Unit}
    (blameless : ¬Misconfigured result) :
    (afterCreation path bits replication result : Operation Draft Bool).Blameless refused := by
  unfold afterCreation
  split
  · exact (blameless_note _).bind fun _ => blameless_pure _
  · split
    · exact (blameless_note _).bind fun _ => blameless_pure _
    · exact (blameless_note _).bind fun _ => blameless_throw (by simp)
  · exact blameless_throw (by simpa using blameless)

theorem ofRecord_blameless (result : Except StorageIssue α) :
    (ofRecord path result : Operation Draft α).Blameless refused := by
  cases result with
  | ok value => exact blameless_pure value
  | error issue => exact blameless_throw (by simp)

theorem readRecord_blameless (accepted : ¬refused path) :
    (readRecord path : Operation Draft Bytes).Blameless refused := by
  apply (blameless_openRecord accepted).bind
  intro reader
  apply (blameless_read _ _).bind
  intro header
  apply (ofRecord_blameless _).bind
  intro length
  apply (blameless_read _ _).bind
  intro key
  exact ofRecord_blameless _

theorem load_blameless (accepted : ¬refused path) :
    (load path : Operation Draft Bytes).Blameless refused := by
  apply (readRecord_blameless accepted).andThen
  intro result blameless
  split
  · exact blameless_pure _
  · split
    · exact blameless_throw (by simp)
    · exact (blameless_note _).bind fun _ => blameless_throw (by simp)
  · exact blameless_throw (by simpa using blameless)

/-- A path about which there is an answer is not refused. -/
theorem contains_accepts (path : Text) (asked : List (Surroundings.Request Draft)) :
    (contains path : Operation Draft Bool).Meets (Surroundings.refusing refused)
      (fun result _ => ∀ found, result = .ok found → ¬refused path) asked := by
  simp only [contains, meets_andThen, meets_contains]
  refine ⟨trivial, ?_⟩
  rintro answer _ ⟨consistent, -⟩
  split
  · rename_i found
    exact fun _ _ => consistent found rfl
  · refine ⟨trivial, ?_⟩
    intro _ _ _ found succeeds
    cases succeeds
  · simp

/-- If making sure of a record fails for the configuration, then before anything was
done. -/
theorem ensure_accepts (generator : Randomness.Generator) (replication : Int) (path : Text)
    (bits : Int) :
    (ensure generator replication path bits : Operation Draft Bool).Meets
      (Surroundings.refusing refused) (fun result asked =>
        (∀ created, result = .ok created → ¬refused path) ∧
          (Misconfigured result → ∀ request ∈ asked, request.IsReading)) [] := by
  simp only [ensure]
  split
  · exact ⟨by simp, by simp⟩
  · rw [meets_bind]
    apply ((contains_accepts path []).and ((contains_onlyReads path).asked_reading (by simp))).mono
    rintro (failure | found) asked ⟨accepts, reading⟩
    · exact ⟨by simp, fun _ => reading⟩
    · -- There is an answer about the path; nothing that follows can be laid to the configuration.
      have accepted : ¬refused path := accepts found rfl
      cases found with
      | true => exact ⟨fun _ _ => accepted, by simp⟩
      | false =>
        have provisioned : (do
            let key ← draw generator (bits / 8).toNat
            (createRecord path replication key).andThen (afterCreation path bits replication) :
              Operation Draft Bool).Blameless refused :=
          (blameless_draw _ _).bind fun key =>
            (createRecord_blameless accepted replication key).andThen fun _ blameless =>
              afterCreation_blameless bits replication blameless
        apply (provisioned asked).mono
        intro result asked blameless
        exact ⟨fun _ _ => accepted, fun misconfigured => absurd misconfigured blameless⟩

end KeyStore

namespace Strategy

variable {refused : Text → Prop} {registry : KeyWrap.Registry} {parameters : Parameters}
  {plan : Plan}

theorem settle_blameless {outcome : Except Failure Bytes} (blameless : ¬Misconfigured outcome) :
    (settle outcome : Operation Draft Bytes).Blameless refused := by
  intro asked
  have settled : (settle outcome : Operation Draft Bytes).Meets (Surroundings.refusing refused)
      (fun result _ => result = outcome ∧ True) asked :=
    settle_meets (fun _ => trivial) (fun _ _ _ _ _ => id) outcome trivial
  apply settled.mono
  rintro result _ ⟨rfl, -⟩
  exact blameless

theorem not_misconfigured_wrap {suite : KeyWrap.Suite} {algorithm descriptor : Text}
    (resolved : registry.resolve algorithm descriptor = .ok suite) (kek key : Bytes) :
    ¬Misconfigured (registry.wrap algorithm descriptor kek key) := by
  simp only [KeyWrap.Registry.wrap, resolved, Checks.ok_bind]
  split
  · simp
  · split <;> simp

theorem wrapPlanned_blameless (planned : Strategy.plan registry parameters = .ok plan)
    (accepted : ¬refused plan.path) :
    (wrapPlanned registry parameters plan : Operation Draft Parameters).Blameless refused := by
  obtain ⟨suite, targeted, -⟩ := plan_eq_ok_iff.mp planned
  obtain ⟨-, -, resolved⟩ := target_eq_ok_iff.mp targeted
  apply (KeyStore.load_blameless accepted).bind
  intro kek
  apply (settle_blameless (not_misconfigured_wrap resolved kek plan.key)).bind
  intro wrapped
  exact blameless_pure _

/-- What is wrong with the configuration shows before a key is drawn or a record
begun. -/
theorem wrap_refuses_early (registry : KeyWrap.Registry) (parameters : Parameters) :
    (wrap registry parameters : Operation Draft Parameters).Meets (Surroundings.refusing refused)
      (fun result asked => Misconfigured result → ∀ request ∈ asked, request.IsReading) [] := by
  simp only [wrap, meets_bind, meets_ofExcept]
  cases planned : plan registry parameters with
  | error failure => simp
  | ok plan =>
    apply (KeyStore.ensure_accepts plan.generator plan.replication plan.path
      parameters.keyLength).mono
    rintro (failure | created) asked ⟨accepts, early⟩
    · simpa using early
    · apply (wrapPlanned_blameless planned (accepts created rfl) asked).mono
      intro result asked blameless misconfigured
      exact absurd misconfigured blameless

end Strategy

end KeyEnvelope
