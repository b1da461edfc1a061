import KeyEnvelope.Configuration.File
import KeyEnvelope.Proofs.Yaml.Blocks
import KeyEnvelope.Proofs.Yaml.Event

/-!
# What a configuration file decides

The first file is the only one that counts. If it holds a document, this is the configuration or
the issue with it; if it holds none, the fault of the document is what comes of it. That is the case
of all bytes that are no text: where the text breaks off there is no end of the document to be read.
-/

namespace KeyEnvelope

namespace Yaml

variable {text : List Char} {missing : Option DocumentFault} {bytes : Bytes}

/-- Of a text that breaks off comes no value. -/
theorem exists_fault_of_faulty (faulty : missing ≠ none) (unmarked : endMark ∉ text) :
    ∃ fault, Document.ofText text missing = .error fault := by
  have ended := Event.fault_of_faulty faulty unmarked
  have lost : ∃ fault, Graph.ofText text missing = .error fault := by
    unfold Graph.ofText
    generalize Event.ofText text missing = found at ended
    obtain ⟨events, _ | fault⟩ := found
    · exact absurd rfl ended
    · cases composed : (events.foldlM Composition.step Composition.empty : Scan Composition) with
      | error other => exact ⟨other, by simp [composed]⟩
      | ok made => exact ⟨fault, by simp [composed]⟩
  obtain ⟨fault, lost⟩ := lost
  exact ⟨fault, by rw [Document.ofText, lost]; rfl⟩

/-- Of bytes that are no text comes no value. -/
theorem exists_fault_of_not_isText (illegible : ¬IsText bytes) :
    ∃ fault, Document.ofBytes bytes = .error fault := by
  have unmarked : endMark ∉ (textOf bytes).1 := by
    intro among
    exact absurd (isAllowed_of_mem_textOf among) (by decide)
  exact exists_fault_of_faulty (fun faultless => illegible (isText_of_textOf faultless)) unmarked

end Yaml

namespace Configuration

variable {before after : List Candidate} {content : Bytes}

theorem load_of_no_file (noFile : ∀ candidate ∈ before, ∀ other, candidate ≠ .file other) :
    load (before ++ .file content :: after) = ofBytes content := by
  induction before with
  | nil => rfl
  | cons candidate rest inductionHypothesis =>
    rw [List.forall_mem_cons] at noFile
    have later := inductionHypothesis noFile.2
    cases candidate with
    | missing => exact later
    | directory => exact later
    | file other => exact absurd rfl (noFile.1 other)

/-- A document that is refused has something that does not fit. -/
theorem mismatches_ne_nil {value : Value} {mismatches : List Mismatch}
    (refused : ofValue value = .error mismatches) : mismatches ≠ [] := by
  unfold ofValue at refused
  split at refused
  · unfold ofFields at refused
    split at refused
    · cases refused
    · simp [← Except.error.inj refused]
    · simp [← Except.error.inj refused]
    · simp [← Except.error.inj refused]
  · simp [← Except.error.inj refused]

/-- What stands for nothing is a document without fields. -/
theorem ofBytes_eq {value : Value} (readable : Yaml.Document.ofBytes content = .ok value) :
    ofBytes content = if value.isVoid then .ok default else
      (ofValue value).mapError fun mismatches => .configuration (.invalidDocument mismatches) := by
  have fieldless : ofValue (.mapping []) = .ok default := by rfl
  unfold ofBytes
  rw [readable]
  dsimp only
  cases value.isVoid with
  | true => rw [if_pos rfl, if_pos rfl, fieldless]
  | false =>
    rw [if_neg Bool.false_ne_true, if_neg Bool.false_ne_true]
    cases ofValue value <;> rfl

theorem ofBytes_of_fault {fault : DocumentFault}
    (unreadable : Yaml.Document.ofBytes content = .error fault) :
    ofBytes content = .error (.document fault) := by
  unfold ofBytes
  rw [unreadable]

/-- The first file decides alone. If a document can be read from it, the outcome is the
configuration in this document, or the issue of what does not fit in it; otherwise it is the fault
of the document, and no issue of configuration. A fault is what any bytes lead to that are no text. -/
theorem first_file_decides (before after : List Candidate) (content : Bytes)
    (noFile : ∀ candidate ∈ before, ∀ other, candidate ≠ .file other) :
    let outcome := load (before ++ .file content :: after)
    (∀ value, Yaml.Document.ofBytes content = .ok value →
      (value.isVoid = true → outcome = .ok default) ∧
      (value.isVoid = false → ∀ configuration, ofValue value = .ok configuration →
        outcome = .ok configuration) ∧
      (value.isVoid = false → ∀ mismatches, ofValue value = .error mismatches →
        mismatches ≠ [] ∧ outcome = .error (.configuration (.invalidDocument mismatches)))) ∧
    (∀ fault, Yaml.Document.ofBytes content = .error fault → outcome = .error (.document fault)) ∧
    ((∃ value, Yaml.Document.ofBytes content = .ok value) ↔
      (∃ configuration, outcome = .ok configuration) ∨
        ∃ issue, outcome = .error (.configuration issue)) ∧
    (¬Yaml.IsText content → ∃ fault, outcome = .error (.document fault)) := by
  intro outcome
  have decided : outcome = ofBytes content := load_of_no_file noFile
  rw [decided]
  refine ⟨?_, fun fault => ofBytes_of_fault, ?_, ?_⟩
  · intro value readable
    rw [ofBytes_eq readable]
    refine ⟨fun void => by rw [if_pos void], ?_, ?_⟩
    · intro filled configuration accepted
      simp [filled, accepted, Except.mapError]
    · intro filled mismatches refused
      simp [filled, refused, Except.mapError, mismatches_ne_nil refused]
  · cases readable : Yaml.Document.ofBytes content with
    | error fault => simp [ofBytes_of_fault readable]
    | ok value =>
      rw [ofBytes_eq readable]
      cases value.isVoid <;> cases ofValue value <;> simp [Except.mapError]
  · intro illegible
    obtain ⟨fault, unreadable⟩ := Yaml.exists_fault_of_not_isText illegible
    exact ⟨fault, ofBytes_of_fault unreadable⟩

/-- A byte that begins no character spoils the first file, and the file behind it is not looked
at. -/
theorem first_file_decides_with_stray_byte :
    ∃ fault, load [.missing, .directory, .file [0x61, 0xff], .file [0x7b, 0x7d]] =
      .error (.document fault) := by
  have illegible : ¬Yaml.IsText [0x61, 0xff] := by
    intro ⟨cs, decodes, _⟩
    have broken : Text.Utf8.decode? [0x61, 0xff] = none := by
      simp [Text.Utf8.decode?, Text.Utf8.pieces, Text.Utf8.piecesAfter,
        Text.Utf8.piecesAfter.begun, Text.Utf8.start]
    rw [broken] at decodes
    cases decodes
  obtain ⟨_, _, _, spoils⟩ := first_file_decides [.missing, .directory] [.file [0x7b, 0x7d]]
    [0x61, 0xff] (by simp)
  exact spoils illegible

/-- A list that is opened and not closed is a fault of the document, and no issue of
configuration. -/
theorem open_list_is_no_issue :
    load [.file [0x5b]] = .error (.document .parsing) ∧
      ¬((∃ configuration, load [.file [0x5b]] = .ok configuration) ∨
        ∃ issue, load [.file [0x5b]] = .error (.configuration issue)) := by
  have parsing : load [.file [0x5b]] = .error (.document .parsing) := by
    rfl
  rw [parsing]
  simp

end Configuration

end KeyEnvelope
