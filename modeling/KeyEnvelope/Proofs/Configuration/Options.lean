import KeyEnvelope.Configuration
import KeyEnvelope.Proofs.Assoc

/-!
# Options of a document

Under each text a configuration has the text form of the value that the document gives last for
it; entries without a value give nothing. Where nothing is given, the default of the setting with
that key stands in. What is written out of a configuration is read back as the same one.
-/

namespace KeyEnvelope

namespace Setting

theorem nodup_defaults : (defaults.map Prod.fst).Nodup := by
  simp [defaults, all, key]

theorem get?_defaults_eq_some_iff {key text : Text} :
    Assoc.get? key defaults = some text ↔
      ∃ setting : Setting, setting.key = key ∧ setting.default = text := by
  have all (setting : Setting) : setting ∈ Setting.all := by
    cases setting <;> decide
  rw [Assoc.get?_eq_some_iff_mem nodup_defaults, defaults, List.mem_map]
  simp [all]

end Setting

namespace Configuration

variable {entries rest document : List (Value × Value)} {found before : List (Text × Text)}
  {configuration : Configuration} {key text : Text} {name value other : Value}

/-- No entry has a value and the text for its key. -/
def Lacks (key : Text) (entries : List (Value × Value)) : Prop :=
  ∀ entry ∈ entries, entry.1.textForm = some key → entry.2 = .null

/-- The last entry with a value and the text for its key has this value. -/
def IsGiven (key : Text) (value : Value) (entries : List (Value × Value)) : Prop :=
  ∃ earlier name later, entries = earlier ++ (name, value) :: later ∧
    name.textForm = some key ∧ value ≠ .null ∧ Lacks key later

theorem lacks_cons_iff :
    Lacks key ((name, value) :: rest) ↔
      (name.textForm = some key → value = .null) ∧ Lacks key rest :=
  List.forall_mem_cons

theorem isGiven_cons_iff :
    IsGiven key value ((name, other) :: rest) ↔
      IsGiven key value rest ∨
        name.textForm = some key ∧ other = value ∧ value ≠ .null ∧ Lacks key rest := by
  constructor
  · intro ⟨earlier, last, later, split, named, given, lacks⟩
    cases earlier with
    | nil =>
      obtain ⟨same, rfl⟩ := List.cons.inj split
      obtain ⟨rfl, rfl⟩ := Prod.mk.inj same
      exact .inr ⟨named, rfl, given, lacks⟩
    | cons first others =>
      exact .inl ⟨others, last, later, (List.cons.inj split).2, named, given, lacks⟩
  · intro found
    rcases found with ⟨earlier, last, later, rfl, named, given, lacks⟩ | ⟨named, rfl, given, lacks⟩
    · exact ⟨(name, other) :: earlier, last, later, rfl, named, given, lacks⟩
    · exact ⟨[], name, rest, rfl, named, given, lacks⟩

/-- Entries are given as texts if all of those with a value have a text form. -/
theorem exists_texts_iff :
    (∃ found, texts entries = some found) ↔ ∀ entry ∈ entries, entry.2 ≠ .null →
      (∃ key, entry.1.textForm = some key) ∧ ∃ text, entry.2.textForm = some text := by
  fun_induction texts entries with
  | case1 => simp
  | case2 name rest inductionHypothesis =>
    rw [inductionHypothesis, List.forall_mem_cons]
    simp
  | case3 name value rest given inductionHypothesis =>
    rw [List.forall_mem_cons, ← inductionHypothesis]
    have given : value ≠ .null := given
    cases name.textForm with
    | none => simp [given]
    | some first =>
      cases value.textForm with
      | none => simp [given]
      | some form => cases texts rest <;> simp

/-- What is set under a key is what is given last, or else what was there before. -/
theorem get?_overlay_texts (shown : texts entries = some found) :
    Assoc.get? key (Assoc.overlay before found) = some text ↔
      (∃ value, IsGiven key value entries ∧ value.textForm = some text) ∨
        Lacks key entries ∧ Assoc.get? key before = some text := by
  fun_induction texts entries generalizing found before with
  | case1 =>
    obtain rfl := Option.some.inj shown
    simp [IsGiven, Lacks, Assoc.overlay]
  | case2 name rest inductionHypothesis =>
    rw [inductionHypothesis shown]
    grind [isGiven_cons_iff, lacks_cons_iff]
  | case3 name value rest given inductionHypothesis =>
    simp only [Option.bind_eq_bind, Option.bind_eq_some_iff, Option.pure_def,
      Option.some.injEq] at shown
    obtain ⟨first, named, form, formed, others, read, rfl⟩ := shown
    have given : value ≠ .null := given
    have step : Assoc.overlay before ((first, form) :: others) =
        Assoc.overlay (Assoc.set first form before) others := rfl
    rw [step, inductionHypothesis read]
    by_cases same : key = first
    · subst same
      grind [isGiven_cons_iff, lacks_cons_iff, Assoc.get?_set_self]
    · have unnamed : name.textForm ≠ some key := by
        simp [named, Ne.symm same]
      rw [Assoc.get?_set_of_ne same]
      simp [isGiven_cons_iff, lacks_cons_iff, unnamed]

/-- What a configuration is read from: each of its two fields is read for itself. -/
theorem ofValue_eq_ok_iff :
    ofValue (.mapping document) = .ok configuration ↔
      levelOf (Value.entry? "logging" document) = .ok configuration.level ∧
        optionsOf (Value.entry? "options" document) = .ok configuration.options := by
  obtain ⟨level, options⟩ := configuration
  rw [ofValue, ofFields]
  cases levelOf (Value.entry? "logging" document) <;>
    cases optionsOf (Value.entry? "options" document) <;> simp

theorem optionsOf_mapping_eq_ok_iff {options : Options} :
    optionsOf (some (.mapping entries)) = .ok options ↔
      ∃ found, texts entries = some found ∧ Assoc.overlay [] found = options := by
  rw [optionsOf]
  cases texts entries <;> simp

/-- No key comes twice in the options that a field holds. -/
theorem nodup_of_optionsOf {field : Option Value} {options : Options}
    (read : optionsOf field = .ok options) : (options.map Prod.fst).Nodup := by
  match field, read with
  | none, read =>
    obtain rfl := Except.ok.inj read
    exact Setting.nodup_defaults
  | some (.mapping entries), read =>
    obtain ⟨found, -, rfl⟩ := optionsOf_mapping_eq_ok_iff.mp read
    exact Assoc.nodup_overlay found List.nodup_nil

theorem nodup_of_ofValue {value : Value} (accepted : ofValue value = .ok configuration) :
    (configuration.options.map Prod.fst).Nodup := by
  match value, accepted with
  | .mapping document, accepted =>
    exact nodup_of_optionsOf (ofValue_eq_ok_iff.mp accepted).2

/-- Options whose keys differ are resolved one by one, before the defaults. -/
theorem get?_resolvedOptions (distinct : (configuration.options.map Prod.fst).Nodup) :
    Assoc.get? key configuration.resolvedOptions =
      (Assoc.get? key configuration.options).or (Assoc.get? key Setting.defaults) :=
  Assoc.get?_overlay_of_nodup distinct

theorem texts_map_text (options : Options) :
    texts (options.map fun (key, text) => (Value.text key, Value.text text)) = some options := by
  induction options with
  | nil => rfl
  | cons entry rest inductionHypothesis =>
    simp [texts, Value.textForm, inductionHypothesis]

/-- What is written out of a configuration whose keys differ is read back as the same one. -/
theorem ofValue_toValue (distinct : (configuration.options.map Prod.fst).Nodup) :
    ofValue configuration.toValue = .ok configuration := by
  have unlike : ("logging" : Text) ≠ "options" := by decide
  rw [toValue, ofValue_eq_ok_iff]
  refine ⟨by simp [Value.entry?, levelOf], ?_⟩
  simp only [Value.entry?, unlike, if_true, if_false]
  rw [optionsOf_mapping_eq_ok_iff]
  exact ⟨_, texts_map_text _, Assoc.overlay_of_nodup distinct⟩

/-- Under each key, a configuration whose document has a mapping for its options resolves to the
text form of the value given last, or else to the default of the setting with that key, or else
to nothing; each value given last has a text form. What is written out of the configuration is
read back as the same one. -/
theorem resolved_options_are_last_given (given : Value.entry? "options" document =
      some (.mapping entries)) (accepted : ofValue (.mapping document) = .ok configuration) :
    (∀ key text, Assoc.get? key configuration.resolvedOptions = some text ↔
      (∃ value, IsGiven key value entries ∧ value.textForm = some text) ∨
        Lacks key entries ∧ ∃ setting : Setting, setting.key = key ∧ setting.default = text) ∧
    (∀ key value, IsGiven key value entries → ∃ text, value.textForm = some text) ∧
    (configuration.resolvedOptions.map Prod.fst).Nodup ∧
    ofValue configuration.toValue = .ok configuration := by
  have distinct := nodup_of_ofValue accepted
  have read := (ofValue_eq_ok_iff.mp accepted).2
  rw [given] at read
  obtain ⟨found, shown, overlaid⟩ := optionsOf_mapping_eq_ok_iff.mp read
  refine ⟨?_, ?_, Assoc.nodup_overlay _ Setting.nodup_defaults, ofValue_toValue distinct⟩
  · intro key text
    rw [resolvedOptions, ← overlaid, Assoc.get?_overlay_overlay, get?_overlay_texts shown,
      Setting.get?_defaults_eq_some_iff]
  · intro key value ⟨earlier, name, later, split, named, isValue, _⟩
    have all := exists_texts_iff.mp ⟨found, shown⟩
    exact (all (name, value) (by simp [split]) isValue).2

/-- An integer and the text that writes it are one key. The later of two values counts, and an
entry without a value behind them changes nothing. -/
theorem resolved_options_of_integer_key :
    let entries := [(.text "1", .text "first"), (.integer 1, .truth true), (.text "1", .null)]
    let options : Options := [("1", "True")]
    ofValue (.mapping [(.text "options", .mapping entries)]) = .ok ⟨"INFO", options⟩ ∧
      Assoc.get? ("1" : Text) (resolvedOptions ⟨"INFO", options⟩) = some "True" := by
  intro entries options
  have accepted : ofValue (.mapping [(.text "options", .mapping entries)]) =
      .ok ⟨"INFO", options⟩ := by
    decide +kernel
  have resolved := resolved_options_are_last_given (by rfl) accepted
  have last : IsGiven "1" (.truth true) entries :=
    ⟨[(.text "1", .text "first")], .integer 1, [(.text "1", .null)], rfl, by decide +kernel,
      by simp, by simp [Lacks]⟩
  exact ⟨accepted, (resolved.1 "1" "True").mpr (.inl ⟨_, last, by decide⟩)⟩

end Configuration

end KeyEnvelope
