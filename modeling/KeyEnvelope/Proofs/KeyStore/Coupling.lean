import KeyEnvelope.KeyStore
import KeyEnvelope.Proofs.KeyRecord
import KeyEnvelope.Proofs.Pairing
import KeyEnvelope.Proofs.Storage.Client

/-!
# Key stores side by side

Two stores are coupled if they answer alike what is asked of both: with the same bytes, or
with bytes that differ only in keys, and with errors of the same kind. A key store makes no
more of an answer than that, so what it does with coupled stores is alike, too.
-/

namespace KeyEnvelope

/-- The failures are the same up to the error of the system that they come from. -/
inductive Failure.Like (errors : SystemError → SystemError → Prop) : Failure → Failure → Prop where
  | same (failure) : Like errors failure failure
  | system {error other} : errors error other → Like errors (.system error) (.system other)
  | storage {error other} (path) :
    errors error other → Like errors (.storage path (.system error)) (.storage path (.system other))
  | kekMissing {error other} (path) :
    errors error other → Like errors (.kekMissing path (some error)) (.kekMissing path (some other))
  | kekNotCreated {error other} (path) :
    errors error other → Like errors (.kekNotCreated path error) (.kekNotCreated path other)

/-- Failures that come from the same errors are the same. -/
theorem Failure.Like.eq {failure other : Failure} (alike : failure.Like Eq other) :
    failure = other := by
  cases alike with
  | same => rfl
  | system same => rw [same]
  | storage path same => rw [same]
  | kekMissing path same => rw [same]
  | kekNotCreated path same => rw [same]

/-- The records announce the same length, and what follows in them is related. -/
structure KeyRecord.Alike (keys : Bytes → Bytes → Prop) (record other : Bytes) : Prop where
  header : record.take headerSize = other.take headerSize
  rest : keys (record.drop headerSize) (other.drop headerSize)

/-- A draft as it was created and as it is after what has been written into it. -/
structure Writing (D : Type) where
  origin : D
  draft : D
  content : Bytes

def Writing.start {D : Type} (draft : D) : Writing D :=
  ⟨draft, draft, []⟩

def Writing.append {D : Type} (writing : Writing D) (chunk : Bytes) (written : D) : Writing D :=
  ⟨writing.origin, written, writing.content ++ chunk⟩

/-- How far keys and errors may be apart and still pass for alike. -/
structure Tolerance where
  keys : Bytes → Bytes → Prop
  errors : SystemError → SystemError → Prop
  length_of_keys {key key' : Bytes} : keys key key' → key.length = key'.length
  keys_take {key key' : Bytes} (count : Nat) :
    keys key key' → keys (key.take count) (key'.take count)
  errors_refl (error : SystemError) : errors error error
  kind_of_errors {error error' : SystemError} : errors error error' → error.kind = error'.kind

/-- How the surroundings of two runs are related: what there is in both stores at the paths
that are of interest, and what is answered from there. -/
structure Coupling (D E σ τ ν : Type) extends Pairing D E σ τ ν, Tolerance where
  Covers : Text → Prop
  Related : σ → τ → Prop
  /-- There is a draft in each store. -/
  Drafted : Writing D → Writing E → σ → τ → Prop

namespace Coupling

variable {D E σ τ ν α β γ δ : Type} (coupling : Coupling D E σ τ ν)

def Fails (failure failure' : Failure) (state : σ) (other : τ) : Prop :=
  failure.Like coupling.errors failure' ∧ coupling.Related state other

/-- The failures are alike, and what was written before is still there. -/
def FailsToWrite (writing : Writing D) (writing' : Writing E) (failure failure' : Failure)
    (state : σ) (other : τ) : Prop :=
  failure.Like coupling.errors failure' ∧
    ∃ left left', left.origin = writing.origin ∧ left'.origin = writing'.origin ∧
      coupling.Drafted left left' state other

/-- Both operations succeed with values that are alike, or fail alike, and the stores are
related again. -/
def Agrees (values : α → β → Prop) (operation : Operation D α) (operation' : Operation E β)
    (state : σ) (other : τ) : Prop :=
  coupling.Meets
    (fun value value' state other => values value value' ∧ coupling.Related state other)
    coupling.Fails operation operation' state other

/-- What is asked for at both sides is answered alike. -/
structure Holds : Prop where
  note {state : σ} {other : τ} (event : Log.Event) : coupling.Related state other →
    coupling.Agrees Eq (Operation.note event) (Operation.note event) state other
  noteError {state : σ} {other : τ} {error error' : SystemError} (text : String) (path : Text) :
    coupling.errors error error' → coupling.Related state other →
    coupling.Agrees Eq (Operation.note (KeyStore.errorEvent text path error))
      (Operation.note (KeyStore.errorEvent text path error')) state other
  draw {state : σ} {other : τ} (generator : Randomness.Generator) (count : Nat) :
    coupling.Related state other →
    coupling.Agrees coupling.keys (Operation.draw generator count)
      (Operation.draw generator count) state other
  contains {state : σ} {other : τ} {path : Text} :
    coupling.Covers path → coupling.Related state other →
    coupling.Agrees Eq (Operation.contains path) (Operation.contains path) state other
  create {state : σ} {other : τ} {path : Text} (replication : Option Int) :
    coupling.Covers path → coupling.Related state other →
    coupling.Meets (fun draft draft' => coupling.Drafted (.start draft) (.start draft'))
      coupling.Fails (Operation.create path replication) (Operation.create path replication)
      state other
  write {state : σ} {other : τ} {writing : Writing D} {writing' : Writing E}
      {chunk chunk' : Bytes} :
    chunk.length = chunk'.length → coupling.Drafted writing writing' state other →
    coupling.Meets
      (fun written written' =>
        coupling.Drafted (writing.append chunk written) (writing'.append chunk' written'))
      (coupling.FailsToWrite writing writing')
      (Operation.write writing.draft chunk) (Operation.write writing'.draft chunk') state other
  publish {state : σ} {other : τ} {writing : Writing D} {writing' : Writing E} :
    KeyRecord.Alike coupling.keys writing.content writing'.content →
    coupling.Drafted writing writing' state other →
    coupling.Agrees Eq (Operation.publish writing.draft) (Operation.publish writing'.draft)
      state other
  discard {state : σ} {other : τ} {writing : Writing D} {writing' : Writing E} :
    coupling.Drafted writing writing' state other →
    coupling.Agrees Eq (Operation.discard writing.origin) (Operation.discard writing'.origin)
      state other
  openRecord {state : σ} {other : τ} {path : Text} :
    coupling.Covers path → coupling.Related state other →
    coupling.Agrees (KeyRecord.Alike coupling.keys) (Operation.openRecord path)
      (Operation.openRecord path) state other
  read {state : σ} {other : τ} (reader reader' : Storage.Reader) (count : Nat) :
    coupling.Related state other →
    coupling.Agrees
      (fun found found' =>
        found = Storage.readFrom reader count ∧ found' = Storage.readFrom reader' count)
      (Operation.read reader count) (Operation.read reader' count) state other

variable {coupling} {state : σ} {other : τ} {values : α → β → Prop} {path : Text}

theorem agrees_pure {value : α} {value' : β} (alike : values value value')
    (related : coupling.Related state other) :
    coupling.Agrees values (pure value) (pure value') state other :=
  Pairing.meets_pure ⟨alike, related⟩

theorem agrees_throw {failure failure' : Failure} (alike : failure.Like coupling.errors failure')
    (related : coupling.Related state other) :
    coupling.Agrees values (throw failure) (throw failure') state other :=
  Pairing.meets_throw ⟨alike, related⟩

theorem Agrees.bind {values : γ → δ → Prop} {middle : α → β → Prop} {operation : Operation D α}
    {operation' : Operation E β} {next : α → Operation D γ} {next' : β → Operation E δ}
    (first : coupling.Agrees middle operation operation' state other)
    (rest : ∀ value value' state other, middle value value' → coupling.Related state other →
      coupling.Agrees values (next value) (next' value') state other) :
    coupling.Agrees values (operation >>= next) (operation' >>= next') state other :=
  Pairing.Meets.bind first fun _ _ _ _ alike => rest _ _ _ _ alike.1 alike.2

theorem Agrees.andThen {values : γ → δ → Prop} {middle : α → β → Prop} {operation : Operation D α}
    {operation' : Operation E β} {next : Except Failure α → Operation D γ}
    {next' : Except Failure β → Operation E δ}
    (first : coupling.Agrees middle operation operation' state other)
    (succeeded : ∀ value value' state other, middle value value' → coupling.Related state other →
      coupling.Agrees values (next (.ok value)) (next' (.ok value')) state other)
    (failed : ∀ failure failure' state other, failure.Like coupling.errors failure' →
      coupling.Related state other →
      coupling.Agrees values (next (.error failure)) (next' (.error failure')) state other) :
    coupling.Agrees values (operation.andThen next) (operation'.andThen next') state other :=
  Pairing.Meets.andThen first (fun _ _ _ _ alike => succeeded _ _ _ _ alike.1 alike.2)
    fun _ _ _ _ alike => failed _ _ _ _ alike.1 alike.2

/-- Errors of the system are dealt with, all other failures go on as they came. -/
def Passes (next : Failure → Operation D α) : Prop :=
  ∀ failure, (∀ error, failure ≠ .system error) → next failure = throw failure

theorem agrees_of_passes {next : Failure → Operation D α}
    {next' : Failure → Operation E β} (passes : Passes next) (passes' : Passes next')
    (deals : ∀ error error' state other, coupling.errors error error' →
      coupling.Related state other →
      coupling.Agrees values (next (.system error)) (next' (.system error')) state other)
    (failure failure' : Failure) (state : σ) (other : τ)
    (alike : failure.Like coupling.errors failure') (related : coupling.Related state other) :
    coupling.Agrees values (next failure) (next' failure') state other := by
  have passed {failure failure' : Failure} (alike : failure.Like coupling.errors failure')
      (foreign : ∀ error, failure ≠ .system error) (foreign' : ∀ error, failure' ≠ .system error) :
      coupling.Agrees values (next failure) (next' failure') state other := by
    rw [passes failure foreign, passes' failure' foreign']
    exact agrees_throw alike related
  cases alike with
  | same =>
    by_cases foreign : ∀ error, failure ≠ .system error
    · exact passed (.same _) foreign foreign
    · simp only [not_forall, not_not] at foreign
      obtain ⟨error, rfl⟩ := foreign
      exact deals error error state other (coupling.errors_refl error) related
  | system alike => exact deals _ _ state other alike related
  | storage path alike => exact passed (.storage path alike) (by simp) (by simp)
  | kekMissing path alike => exact passed (.kekMissing path alike) (by simp) (by simp)
  | kekNotCreated path alike => exact passed (.kekNotCreated path alike) (by simp) (by simp)

/-- An event about an error is noted, then there is a failure because of it. -/
theorem Holds.reports (holds : coupling.Holds) {error error' : SystemError}
    (text : String) (alike : coupling.errors error error') {failure failure' : Failure}
    (failures : failure.Like coupling.errors failure') (related : coupling.Related state other) :
    coupling.Agrees values
      (do Operation.note (KeyStore.errorEvent text path error); throw failure)
      (do Operation.note (KeyStore.errorEvent text path error'); throw failure') state other :=
  (holds.noteError text path alike related).bind fun _ _ _ _ _ related =>
    agrees_throw failures related

end Coupling

namespace KeyStore

variable {D E σ τ ν : Type} {coupling : Coupling D E σ τ ν} {state : σ} {other : τ} {path : Text}

theorem contains_agrees (holds : coupling.Holds) (covered : coupling.Covers path)
    (related : coupling.Related state other) :
    coupling.Agrees Eq (contains path) (contains path) state other := by
  apply (holds.contains covered related).andThen
  · rintro found _ state other rfl related
    exact Coupling.agrees_pure rfl related
  · refine Coupling.agrees_of_passes ?_ ?_ ?_
    · intro failure foreign
      cases failure <;> first | rfl | exact absurd rfl (foreign _)
    · intro failure foreign
      cases failure <;> first | rfl | exact absurd rfl (foreign _)
    · intro error error' state other alike related
      exact holds.reports _ alike (.storage path alike) related

/-- Related keys have the same header. -/
theorem alike_encode {key key' : Bytes} (alike : coupling.keys key key') :
    KeyRecord.Alike coupling.keys ([] ++ KeyRecord.header key ++ key)
      ([] ++ KeyRecord.header key' ++ key') := by
  have same : KeyRecord.header key = KeyRecord.header key' := by
    simp only [KeyRecord.header, coupling.length_of_keys alike]
  have size := KeyRecord.length_header key'
  constructor
  · simp [same, size]
  · simpa [same, size] using alike

theorem writeRecord_couples (holds : coupling.Holds) {draft : D} {draft' : E} {key key' : Bytes}
    (alike : coupling.keys key key')
    (drafted : coupling.Drafted (.start draft) (.start draft') state other) :
    coupling.Meets
      (fun written written' => coupling.Drafted
        ⟨draft, written, [] ++ KeyRecord.header key ++ key⟩
        ⟨draft', written', [] ++ KeyRecord.header key' ++ key'⟩)
      (coupling.FailsToWrite (.start draft) (.start draft'))
      (writeRecord draft key) (writeRecord draft' key') state other := by
  have sameLength := coupling.length_of_keys alike
  have sameCheck : KeyRecord.checkLength key = KeyRecord.checkLength key' := by
    simp only [KeyRecord.checkLength, sameLength]
  have sameSize : (KeyRecord.header key).length = (KeyRecord.header key').length := by simp
  unfold writeRecord
  rw [sameCheck]
  cases KeyRecord.checkLength key' with
  | error failure => exact Pairing.meets_throw ⟨.same failure, _, _, rfl, rfl, drafted⟩
  | ok _ =>
    change coupling.Meets _ _
      (do let draft ← Operation.write draft (KeyRecord.header key); Operation.write draft key)
      (do let draft ← Operation.write draft' (KeyRecord.header key'); Operation.write draft key')
      state other
    apply Pairing.Meets.bind (holds.write sameSize drafted)
    intro written written' state other drafted
    exact holds.write sameLength drafted

theorem createRecord_agrees (holds : coupling.Holds) (covered : coupling.Covers path)
    (replication : Int) {key key' : Bytes} (alike : coupling.keys key key')
    (related : coupling.Related state other) :
    coupling.Agrees Eq (createRecord path replication key) (createRecord path replication key')
      state other := by
  unfold createRecord
  apply Pairing.Meets.bind (holds.create (some replication) covered related)
  intro draft draft' state other drafted
  apply (writeRecord_couples holds alike drafted).andThen
  · intro written written' state other drafted
    exact holds.publish (alike_encode alike) drafted
  · rintro failure failure' state other ⟨failures, left, left', origin, origin', remains⟩
    obtain rfl : left.origin = draft := origin
    obtain rfl : left'.origin = draft' := origin'
    apply (holds.discard remains).bind
    intro _ _ state other _ related
    exact Coupling.agrees_throw failures related

theorem afterCreation_agrees (holds : coupling.Holds) (bits replication : Int)
    (related : coupling.Related state other) {result result' : Except Failure Unit}
    (paired : Paired Eq (Failure.Like coupling.errors) result result') :
    coupling.Agrees Eq (afterCreation path bits replication result)
      (afterCreation path bits replication result') state other := by
  cases paired with
  | ok _ =>
    apply (holds.note _ related).bind
    intro _ _ state other _ related
    exact Coupling.agrees_pure rfl related
  | error alike =>
    have passes {D : Type} : Coupling.Passes fun failure =>
        (afterCreation path bits replication (.error failure) : Operation D Bool) := by
      intro failure foreign
      cases failure <;> first | rfl | exact absurd rfl (foreign _)
    refine Coupling.agrees_of_passes passes passes ?_ _ _ state other alike related
    intro error error' state other alike related
    simp only [afterCreation, coupling.kind_of_errors alike]
    split
    · apply (holds.note _ related).bind
      intro _ _ state other _ related
      exact Coupling.agrees_pure rfl related
    · exact holds.reports _ alike (.kekNotCreated path alike) related

theorem ensure_agrees (holds : coupling.Holds) (covered : coupling.Covers path)
    (generator : Randomness.Generator) (replication bits : Int)
    (related : coupling.Related state other) :
    coupling.Agrees Eq (ensure generator replication path bits)
      (ensure generator replication path bits) state other := by
  unfold ensure
  by_cases countable : bits ≤ 0 ∨ bits % 8 ≠ 0
  · simp only [countable, if_true]
    exact Coupling.agrees_throw (.same _) related
  · simp only [countable, if_false]
    apply (contains_agrees holds covered related).bind
    rintro found _ state other rfl related
    cases found with
    | true => exact Coupling.agrees_pure rfl related
    | false =>
      apply (holds.draw generator _ related).bind
      intro key key' state other alike related
      apply (createRecord_agrees holds covered replication alike related).andThen
      · intro _ _ state other same related
        exact afterCreation_agrees holds bits replication related (.ok same)
      · intro failure failure' state other alike related
        exact afterCreation_agrees holds bits replication related (.error alike)

theorem checkKey_agrees {length : Nat} {key key' : Bytes}
    (alike : coupling.keys key key') (related : coupling.Related state other) :
    coupling.Agrees coupling.keys (ofRecord path (KeyRecord.checkKey length key))
      (ofRecord path (KeyRecord.checkKey length key')) state other := by
  unfold KeyRecord.checkKey
  rw [coupling.length_of_keys alike]
  split
  · exact Coupling.agrees_throw (.same _) related
  · exact Coupling.agrees_pure alike related

theorem readRecord_agrees (holds : coupling.Holds) (covered : coupling.Covers path)
    (related : coupling.Related state other) :
    coupling.Agrees coupling.keys (readRecord path) (readRecord path) state other := by
  unfold readRecord
  apply (holds.openRecord covered related).bind
  intro reader reader' state other alike related
  apply (holds.read reader reader' KeyRecord.headerSize related).bind
  rintro _ _ state other ⟨rfl, rfl⟩ related
  simp only [Storage.readFrom_ofNat, alike.header]
  cases KeyRecord.keyLength (reader'.take KeyRecord.headerSize) with
  | error issue => exact Coupling.agrees_throw (.same _) related
  | ok length =>
    change coupling.Agrees _ (Operation.read _ _ >>= _) (Operation.read _ _ >>= _) _ _
    apply (holds.read _ _ length related).bind
    rintro _ _ state other ⟨rfl, rfl⟩ related
    simp only [Storage.readFrom_ofNat]
    exact checkKey_agrees (coupling.keys_take length alike.rest) related

theorem load_agrees (holds : coupling.Holds) (covered : coupling.Covers path)
    (related : coupling.Related state other) :
    coupling.Agrees coupling.keys (load path) (load path) state other := by
  apply (readRecord_agrees holds covered related).andThen
  · intro key key' state other alike related
    exact Coupling.agrees_pure alike related
  · refine Coupling.agrees_of_passes ?_ ?_ ?_
    · intro failure foreign
      cases failure <;> first | rfl | exact absurd rfl (foreign _)
    · intro failure foreign
      cases failure <;> first | rfl | exact absurd rfl (foreign _)
    · intro error error' state other alike related
      simp only [coupling.kind_of_errors alike]
      split
      · exact Coupling.agrees_throw (.kekMissing path alike) related
      · exact holds.reports _ alike (.storage path alike) related

end KeyStore

end KeyEnvelope
