import KeyEnvelope.Bootstrap
import KeyEnvelope.Proofs.Checks
import KeyEnvelope.Proofs.Configuration.Options
import KeyEnvelope.Proofs.Text.Integer

/-!
# Integers among options

An integer in a document becomes a text among the options, and an integer again when a setting is
read. What was written is read as what it was, whatever else the document holds. Of any other
text comes an integer too if it spells one, and the failure that says so if it does not.
-/

namespace KeyEnvelope

namespace Setting

variable {setting : Setting} {options : Options} {n : Int} {failure : Failure} {text : Text}

theorem resolve_of_get? (found : Assoc.get? setting.key options = some text) :
    setting.resolve options = text := by
  rw [resolve, found, Option.getD_some]

theorem resolveInt_eq_ok_iff :
    setting.resolveInt options = .ok n ↔ (setting.resolve options).IsInteger n := by
  rw [← Text.readInteger_eq_ok_iff, resolveInt]
  cases Text.readInteger (setting.resolve options) <;> simp

theorem resolveInt_eq_error_iff :
    setting.resolveInt options = .error failure ↔
      (∀ n, ¬(setting.resolve options).IsInteger n) ∧
        failure = .configuration (.notInteger setting.key (setting.resolve options)) := by
  simp only [← Text.readInteger_eq_ok_iff, resolveInt]
  cases Text.readInteger (setting.resolve options) <;> simp [eq_comm]

end Setting

namespace Parameters

variable {options : Options} {parameters : Parameters} {bits : Int}

theorem exists_ofOptions (read : Setting.keyLength.resolveInt options = .ok bits) :
    ∃ parameters, ofOptions options = .ok parameters ∧ parameters.keyLength = bits := by
  rw [ofOptions, read]
  exact ⟨_, rfl, rfl⟩

theorem options_of_ofOptions (built : ofOptions options = .ok parameters) :
    parameters.options = options := by
  obtain ⟨bits, _, filled⟩ := Checks.bind_eq_ok_iff.mp built
  rw [← Except.ok.inj filled]

end Parameters

namespace Configuration

variable {document entries earlier later : List (Value × Value)} {name value : Value}
  {configuration : Configuration} {setting : Setting} {text : Text} {n : Int}

/-- What an integer is written as is its text form, if it is not too long to be written. -/
theorem textForm_integer (small : n.natAbs < Nat.pow 10 Text.digitLimit) :
    ∃ text, Value.textForm (.integer n) = some text ∧ text.IsInteger n := by
  have shown : Text.writeInteger? n = some (toString n) := by
    rw [Text.writeInteger?, if_pos small]
  refine ⟨_, ?_, Text.isInteger_of_writeInteger? shown⟩
  simp only [Value.textForm, Value.written, shown, Option.map_some]

/-- A value that is given last is what the setting with its key is resolved to. -/
theorem resolve_resolvedOptions_of_isGiven
    (given : Value.entry? "options" document = some (.mapping entries))
    (accepted : ofValue (.mapping document) = .ok configuration)
    (last : IsGiven setting.key value entries) (shown : value.textForm = some text) :
    setting.resolve configuration.resolvedOptions = text := by
  have read := (ofValue_eq_ok_iff.mp accepted).2
  rw [given] at read
  obtain ⟨found, texts, overlaid⟩ := optionsOf_mapping_eq_ok_iff.mp read
  apply Setting.resolve_of_get?
  rw [resolvedOptions, ← overlaid, Assoc.get?_overlay_overlay, get?_overlay_texts texts]
  exact .inl ⟨value, last, shown⟩

theorem exists_ofValue_iff (given : Value.entry? "options" document = some (.mapping entries)) :
    (∃ configuration, ofValue (.mapping document) = .ok configuration) ↔
      (∃ level, levelOf (Value.entry? "logging" document) = .ok level) ∧
        ∃ found, texts entries = some found := by
  constructor
  · intro ⟨configuration, accepted⟩
    obtain ⟨level, options⟩ := ofValue_eq_ok_iff.mp accepted
    rw [given] at options
    obtain ⟨found, shown, _⟩ := optionsOf_mapping_eq_ok_iff.mp options
    exact ⟨⟨_, level⟩, found, shown⟩
  · intro ⟨⟨level, leveled⟩, found, shown⟩
    have read : optionsOf (Value.entry? "options" document) = .ok (Assoc.overlay [] found) := by
      rw [given]
      exact optionsOf_mapping_eq_ok_iff.mpr ⟨found, shown, rfl⟩
    exact ⟨⟨level, _⟩, ofValue_eq_ok_iff.mpr ⟨leveled, read⟩⟩

/-- The entry of an integer is no reason to refuse a document. -/
theorem exists_texts_insert_iff (named : ∃ key, name.textForm = some key)
    (shown : ∃ text, value.textForm = some text) :
    (∃ found, texts (earlier ++ (name, value) :: later) = some found) ↔
      ∃ found, texts (earlier ++ later) = some found := by
  simp only [exists_texts_iff, List.forall_mem_append, List.forall_mem_cons, named, shown, and_self,
    implies_true, true_and]

/-- An integer that a document gives for a setting is what the setting is resolved to, and as a key
length what the parameters ask for; it is no reason to refuse the document. Of whatever options, a
setting resolves to an integer exactly if its text is one, and fails for this text if it is none. -/
theorem integer_options_survive :
    (∀ (setting : Setting) (n : Int), n.natAbs < Nat.pow 10 Text.digitLimit →
      ∀ document earlier name later,
      Value.entry? "options" document = some (.mapping (earlier ++ (name, .integer n) :: later)) →
      name.textForm = some setting.key → Lacks setting.key later →
      ((∃ configuration, ofValue (.mapping document) = .ok configuration) ↔
        (∃ level, levelOf (Value.entry? "logging" document) = .ok level) ∧
          ∀ entry ∈ earlier ++ later, entry.2 ≠ .null →
            (∃ key, entry.1.textForm = some key) ∧ ∃ text, entry.2.textForm = some text) ∧
      ∀ configuration, ofValue (.mapping document) = .ok configuration →
        setting.resolveInt configuration.resolvedOptions = .ok n ∧
        (setting = .keyLength → ∃ parameters,
          Bootstrap.parametersFor configuration = .ok parameters ∧ parameters.keyLength = n) ∧
        ∀ parameters, Bootstrap.parametersFor configuration = .ok parameters →
          setting.resolveInt parameters.options = .ok n) ∧
    ∀ (setting : Setting) (options : Options),
      (∀ n, setting.resolveInt options = .ok n ↔ (setting.resolve options).IsInteger n) ∧
      ((∃ n, setting.resolveInt options = .ok n) ∨ setting.resolveInt options =
        .error (.configuration (.notInteger setting.key (setting.resolve options)))) := by
  constructor
  · intro setting n small document earlier name later given named lacks
    obtain ⟨text, shown, integer⟩ := textForm_integer small
    constructor
    · rw [exists_ofValue_iff given, exists_texts_insert_iff ⟨_, named⟩ ⟨_, shown⟩, exists_texts_iff]
    · intro configuration accepted
      have last : IsGiven setting.key (.integer n) (earlier ++ (name, .integer n) :: later) :=
        ⟨earlier, name, later, rfl, named, by simp, lacks⟩
      have resolved := resolve_resolvedOptions_of_isGiven given accepted last shown
      have read : setting.resolveInt configuration.resolvedOptions = .ok n :=
        Setting.resolveInt_eq_ok_iff.mpr (resolved ▸ integer)
      refine ⟨read, ?_, ?_⟩
      · intro length
        exact Parameters.exists_ofOptions (length ▸ read)
      · intro parameters built
        rw [Parameters.options_of_ofOptions built]
        exact read
  · intro setting options
    refine ⟨fun n => Setting.resolveInt_eq_ok_iff, ?_⟩
    cases found : setting.resolveInt options with
    | ok n => exact .inl ⟨n, rfl⟩
    | error failure =>
      obtain ⟨_, rfl⟩ := Setting.resolveInt_eq_error_iff.mp found
      exact .inr rfl

/-- The document asks for keys of 256 bits and says something else under the same key before. -/
theorem integer_options_survive_for_256_bits :
    let options := [(.text Setting.keyLength.key, .text "many"), (.integer 7, .null),
      (.text Setting.keyLength.key, .integer 256)]
    ∃ configuration parameters,
      ofValue (.mapping [(.text "options", .mapping options)]) = .ok configuration ∧
      Bootstrap.parametersFor configuration = .ok parameters ∧ parameters.keyLength = 256 ∧
      Setting.keyLength.resolveInt parameters.options = .ok 256 := by
  intro options
  have small : (256 : Int).natAbs < Nat.pow 10 Text.digitLimit := by
    decide +kernel
  obtain ⟨accepts, survives⟩ := integer_options_survive.1 .keyLength 256 small
    [(.text "options", .mapping options)] (options.take 2) (.text Setting.keyLength.key) []
    (by simp [Value.entry?, options]) (by rfl) (by simp [Lacks])
  obtain ⟨configuration, accepted⟩ := accepts.mpr
    ⟨⟨_, by rfl⟩, by simp [options, Value.textForm]⟩
  obtain ⟨_, asks, read⟩ := survives configuration accepted
  obtain ⟨parameters, built, length⟩ := asks rfl
  exact ⟨configuration, parameters, accepted, built, length, read parameters built⟩

end Configuration

end KeyEnvelope
