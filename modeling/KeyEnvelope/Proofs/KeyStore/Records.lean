import KeyEnvelope.Proofs.Recovery
import KeyEnvelope.Proofs.Storage.Service

/-!
# Records one after another

Records that are written one after another are read one after another, each up to where the next
one begins. Reading tells a record that is there as a whole from everything else.
-/

namespace KeyEnvelope

variable {Draft : Type}

namespace Surroundings

/-- What a request writes to a draft. -/
def writtenBy : (request : Request Draft) → Answer request → Bytes
  | .storage (.write _ chunk), .ok _ => chunk
  | _, _ => []

/-- All that was written in the course of a history. -/
def written (history : List (Exchange (interface Draft))) : Bytes :=
  history.flatMap fun exchange => writtenBy exchange.1 exchange.2

/-- Drafts take what is written to them. -/
def Takes : (request : Request Draft) → Answer request → Prop
  | .storage (.write _ _), answer => ∃ draft, answer = .ok draft
  | _, _ => True

/-- Collects what is written to drafts. -/
def transcribing : Contract (interface Draft) Bytes where
  permits _ := True
  serves request content answer next :=
    Takes request answer ∧ next = content ++ writtenBy request answer

theorem eq_append_written {content final : Bytes} {history : List (Exchange (interface Draft))}
    (follows : transcribing.Follows content history final) :
    final = content ++ written history := by
  induction follows with
  | nil => simp [written]
  | cons served _ inductionHypothesis => simp [inductionHypothesis, served.2, written]

end Surroundings

open Operation Surroundings

namespace KeyStore

variable {content : Bytes} {σ : Type} {contract : Contract (interface Draft) σ}

def writeRecords (draft : Draft) : List Bytes → Operation Draft Draft
  | [] => pure draft
  | key :: rest => do writeRecords (← writeRecord draft key) rest

/-- Reads so many records, and says how many bytes each of them took. -/
def readRecords (path : Text) :
    Nat → Storage.Reader → Operation Draft (List (Bytes × Nat) × Storage.Reader)
  | 0, reader => pure ([], reader)
  | count + 1, reader => do
    let (key, left) ← readNext path reader
    let (later, rest) ← readRecords path count left
    return ((key, reader.length - left.length) :: later, rest)

/-- A record is written as a whole, or not at all if its header has no room for the length. -/
theorem writeRecord_transcribes (draft : Draft) (key : Bytes) :
    (writeRecord draft key).Meets transcribing (fun result next =>
      if key.length < 2147483648 then
        (∃ last, result = .ok last) ∧ next = content ++ KeyRecord.encode key
      else next = content) content := by
  simp only [writeRecord, meets_bind, meets_ofExcept, meets_write]
  by_cases fitting : key.length < 2147483648
  · rw [KeyRecord.checkLength_eq_ok_iff.mpr fitting]
    refine ⟨trivial, ?_⟩
    rintro _ _ ⟨⟨begun, rfl⟩, rfl⟩
    refine ⟨trivial, ?_⟩
    rintro _ _ ⟨⟨last, rfl⟩, rfl⟩
    rw [if_pos fitting]
    exact ⟨⟨last, rfl⟩, by simp [writtenBy, KeyRecord.encode]⟩
  · cases checked : KeyRecord.checkLength key with
    | error failure => simp [fitting]
    | ok _ => exact absurd (KeyRecord.checkLength_eq_ok_iff.mp checked) fitting

theorem writeRecords_transcribes {keys : List Bytes}
    (fitting : ∀ key ∈ keys, key.length < 2147483648) (draft : Draft) :
    (writeRecords draft keys).Meets transcribing (fun result next =>
      (∃ last, result = .ok last) ∧ next = content ++ keys.flatMap KeyRecord.encode) content := by
  induction keys generalizing draft content with
  | nil => exact ⟨⟨draft, rfl⟩, (List.append_nil _).symm⟩
  | cons key rest inductionHypothesis =>
    obtain ⟨keyFitting, restFitting⟩ := List.forall_mem_cons.mp fitting
    apply meets_bind.mpr
    apply (writeRecord_transcribes draft key).mono
    intro result next written
    rw [if_pos keyFitting] at written
    obtain ⟨⟨begun, rfl⟩, rfl⟩ := written
    apply (inductionHypothesis restFitting begun).mono
    rintro result _ ⟨succeeds, rfl⟩
    exact ⟨succeeds, by simp⟩

/-- Records are read back in order, each to its end, and what follows them is left. -/
theorem readRecords_meets {held : σ → Prop} (readable : Readable contract held) (path : Text)
    {keys : List Bytes} (nonempty : ∀ key ∈ keys, key ≠ [])
    (fitting : ∀ key ∈ keys, key.length < 2147483648) (rest : Bytes) {state : σ}
    (heldNow : held state) :
    (readRecords path keys.length (keys.flatMap KeyRecord.encode ++ rest) :
        Operation Draft _).Meets contract (fun result next =>
      result = .ok (keys.map fun key => (key, KeyRecord.headerSize + key.length), rest) ∧
        held next) state := by
  induction keys generalizing state with
  | nil => exact ⟨rfl, heldNow⟩
  | cons key later inductionHypothesis =>
    obtain ⟨keyNonempty, laterNonempty⟩ := List.forall_mem_cons.mp nonempty
    obtain ⟨keyFitting, laterFitting⟩ := List.forall_mem_cons.mp fitting
    have split : (key :: later).flatMap KeyRecord.encode ++ rest =
        KeyRecord.encode key ++ (later.flatMap KeyRecord.encode ++ rest) := by simp
    rw [split, List.length_cons, readRecords]
    apply meets_bind.mpr
    apply (readNext_meets readable path _ heldNow).mono
    rintro _ next ⟨rfl, heldThen⟩
    rw [KeyRecord.decode_encode keyNonempty keyFitting]
    apply meets_bind.mpr
    apply (inductionHypothesis laterNonempty laterFitting heldThen).mono
    rintro _ final ⟨rfl, heldAfter⟩
    refine ⟨?_, heldAfter⟩
    simp

end KeyStore

namespace Storage.Location

open KeyStore

variable {location : Location} {source : Randomness.Source} {state : location.client.State}
  {path : Text}

theorem takes (location : Location) (draft : location.client.Draft) (chunk : Bytes)
    (state : location.client.State) :
    ∃ next, (location.client.serve (.write draft chunk) state).answer = .ok next := by
  cases location with
  | memory => exact ⟨_, rfl⟩
  | directory base => exact ⟨_, rfl⟩

/-- What an operation writes in whatever store takes it, it writes at a location. -/
theorem perform_transcribing {α : Type} {goal : Except Failure α → Bytes → Prop}
    {operation : Operation location.client.Draft α}
    (meets : operation.Meets transcribing goal []) :
    goal (location.client.perform ⟨source, []⟩ operation state).1
      (written (location.client.exchanges ⟨source, []⟩ operation.run state)) := by
  have keeps (request : Surroundings.Request location.client.Draft)
      (surroundings : location.client.State × List (Option Disturbance)) (content : Bytes)
      (_ : transcribing.permits request) (calm : surroundings.2 = []) :
      ∃ next, transcribing.serves request content
        (location.client.attend source request surroundings).1 next ∧
        (location.client.attend source request surroundings).2.2 = [] := by
    obtain ⟨state, disturbances⟩ := surroundings
    obtain rfl := calm
    refine ⟨_, ⟨?_, rfl⟩, ?_⟩
    · cases request with
      | storage request =>
        cases request with
        | write draft chunk => exact location.takes draft chunk state
        | _ => trivial
      | draw generator count => trivial
      | note event => trivial
    · cases request <;> rfl
  obtain ⟨final, follows, met⟩ := Procedure.Meets.trace keeps (state, []) (by rfl) meets
  obtain rfl : final = written _ := eq_append_written follows
  exact met

/-- Reading the next record changes nothing, and comes to what decoding finds. -/
theorem perform_readNext (reader : Reader) :
    location.client.perform ⟨source, []⟩ (readNext path reader) state =
      ((KeyRecord.decode reader).mapError (.storage path), state) := by
  obtain ⟨found, unchanged⟩ := location.client.perform_calm
    (readNext_meets (location.custody.readable source state) path reader rfl)
  exact Prod.ext found unchanged

/-- Records that are written one after another are read back one after another: the keys in their
order, each from as many bytes as its record has; and what follows the records is left to read. -/
theorem records_read_back (location : Location) (state : location.client.State)
    (source : Randomness.Source) (draft : location.client.Draft) (path : Text)
    (keys : List Bytes) (rest : Bytes) (nonempty : ∀ key ∈ keys, key ≠ [])
    (fitting : ∀ key ∈ keys, key.length < 2147483648) :
    let writing := writeRecords draft keys
    let stream := written (location.client.exchanges ⟨source, []⟩ writing.run state) ++ rest
    (∃ last, (location.client.perform ⟨source, []⟩ writing state).1 = .ok last) ∧
      stream = keys.flatMap KeyRecord.encode ++ rest ∧
      ∀ later, location.client.perform ⟨source, []⟩ (readRecords path keys.length stream) later =
        (.ok (keys.map fun key => (key, 4 + key.length), rest), later) := by
  intro writing stream
  obtain ⟨succeeds, wrote⟩ :
      (∃ last, (location.client.perform ⟨source, []⟩ writing state).1 = .ok last) ∧
        written (location.client.exchanges ⟨source, []⟩ writing.run state) =
          [] ++ keys.flatMap KeyRecord.encode :=
    location.perform_transcribing (writeRecords_transcribes fitting draft)
  have holds : stream = keys.flatMap KeyRecord.encode ++ rest := congrArg (· ++ rest) wrote
  refine ⟨succeeds, holds, ?_⟩
  intro later
  obtain ⟨found, unchanged⟩ := location.client.perform_calm
    (readRecords_meets (location.custody.readable source later) path nonempty fitting rest rfl)
  rw [holds]
  exact Prod.ext found unchanged

/-- Two records of different lengths are read back from a store in memory. -/
theorem two_records_read_back :
    let keys : List Bytes := [[1, 2, 3], [4]]
    let stream : Bytes := [0, 0, 0, 3, 1, 2, 3, 0, 0, 0, 1, 4, 9]
    (∀ key ∈ keys, key ≠ []) ∧ (∀ key ∈ keys, key.length < 2147483648) ∧
      memory.client.perform ⟨Randomness.zeros, []⟩ (readRecords "/k" 2 stream) Memory.empty =
        (.ok ([([1, 2, 3], 7), ([4], 5)], [9]), Memory.empty) := by
  intro keys stream
  have nonempty : ∀ key ∈ keys, key ≠ [] := by decide
  have fitting : ∀ key ∈ keys, key.length < 2147483648 := by decide
  obtain ⟨-, holds, readsBack⟩ := records_read_back memory Memory.empty Randomness.zeros
    ⟨"/k", none, []⟩ "/k" keys [9] nonempty fitting
  have same : stream = keys.flatMap KeyRecord.encode ++ [9] := by decide
  refine ⟨nonempty, fitting, ?_⟩
  rw [same, ← holds]
  exact readsBack Memory.empty

/-- A record is taken for one exactly if it is there as a whole. What has been read of it then is
what writing its key writes, and no record of a key is taken for one before its end is there. -/
theorem reads_only_complete_records (location : Location) (state : location.client.State)
    (source : Randomness.Source) (draft : location.client.Draft) (path : Text) (bytes : Bytes) :
    let reading bytes := location.client.perform ⟨source, []⟩ (readNext path bytes) state
    let recorded key :=
      written (location.client.exchanges ⟨source, []⟩ (writeRecord draft key).run state)
    let length := (KeyRecord.announced bytes).toNat
    let key := (bytes.drop 4).take length
    (if KeyRecord.Complete bytes then
      (reading bytes).1 = .ok (key, bytes.drop (4 + length)) ∧
        (∃ last, (location.client.perform ⟨source, []⟩ (writeRecord draft key) state).1 =
          .ok last) ∧
        recorded key = bytes.take (4 + length)
    else ∃ issue, (reading bytes).1 = .error (.storage path issue)) ∧
    ∀ other part, other ≠ [] → part <+: recorded other → part ≠ recorded other →
      ∃ issue, (reading part).1 = .error (.storage path issue) := by
  intro reading recorded length key
  have reads (bytes : Bytes) :
      (reading bytes).1 = (KeyRecord.decode bytes).mapError (.storage path) :=
    congrArg Prod.fst (location.perform_readNext bytes)
  have records (key : Bytes) : if key.length < 2147483648 then
      (∃ last, (location.client.perform ⟨source, []⟩ (writeRecord draft key) state).1 = .ok last) ∧
        recorded key = [] ++ KeyRecord.encode key
      else recorded key = [] :=
    location.perform_transcribing (writeRecord_transcribes draft key)
  constructor
  · split
    · rename_i complete
      obtain ⟨fitting, whole⟩ : key.length < 2147483648 ∧
          KeyRecord.encode key = bytes.take (4 + length) := KeyRecord.encode_of_complete complete
      have writes := records key
      rw [if_pos fitting, whole] at writes
      refine ⟨?_, writes⟩
      rw [reads, KeyRecord.decode_of_complete complete]
      rfl
    · rename_i incomplete
      obtain ⟨issue, rejected⟩ := KeyRecord.decode_of_not_complete incomplete
      exact ⟨issue, by rw [reads, rejected]; rfl⟩
  · intro other part nonempty begins proper
    have writes := records other
    split at writes
    · rename_i fitting
      rw [writes.2, List.nil_append] at begins proper
      obtain ⟨issue, rejected⟩ :=
        KeyRecord.not_decode_of_proper_prefix nonempty fitting begins proper
      exact ⟨issue, by rw [reads, rejected]; rfl⟩
    · rw [writes] at begins proper
      exact absurd (List.prefix_nil.mp begins) proper

/-- A record is read up to its end, and is not read from the first five bytes of it. -/
theorem record_is_read_only_as_a_whole :
    let reading bytes :=
      (memory.client.perform ⟨Randomness.zeros, []⟩ (readNext "/k" bytes) Memory.empty).1
    let recorded := written (memory.client.exchanges ⟨Randomness.zeros, []⟩
      (writeRecord ⟨"/k", none, []⟩ [1, 2, 3]).run Memory.empty)
    let part : Bytes := [0, 0, 0, 3, 1]
    reading [0, 0, 0, 3, 1, 2, 3, 9] = .ok ([1, 2, 3], [9]) ∧
      part <+: recorded ∧ part ≠ recorded ∧
      ∃ issue, reading part = .error (.storage "/k" issue) := by
  intro reading recorded part
  have complete : KeyRecord.Complete [0, 0, 0, 3, 1, 2, 3, 9] := by decide
  have begins : part <+: recorded := ⟨[2, 3], rfl⟩
  have proper : part ≠ recorded := by
    show part ≠ [0, 0, 0, 3, 1, 2, 3]
    decide
  obtain ⟨found, rejected⟩ := reads_only_complete_records memory Memory.empty Randomness.zeros
    ⟨"/k", none, []⟩ "/k" [0, 0, 0, 3, 1, 2, 3, 9]
  rw [if_pos complete] at found
  exact ⟨found.1, begins, proper, rejected [1, 2, 3] part (by decide) begins proper⟩

end Storage.Location

end KeyEnvelope
