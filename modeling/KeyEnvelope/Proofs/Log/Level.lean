import KeyEnvelope.Bootstrap
import KeyEnvelope.Proofs.Configuration.Integers
import KeyEnvelope.Proofs.Strategy.Catalog
import KeyEnvelope.Proofs.Text.UpperCase

/-!
# Levels in force

A level is found by its name in lower case. A configuration hands its level on in upper case, so
what is found is the level of the text with a dot on every i. That is the level of the text
itself, unless an i without a dot is all that keeps it from being a name.
-/

namespace KeyEnvelope

namespace Log.Level

variable {text : Text} {level other : Level}

theorem mem_all (level : Level) : level ∈ all := by
  cases level <;> decide

theorem name_injective (same : level.name = other.name) : level = other := by
  have all : ∀ level ∈ all, ∀ other ∈ all, level.name = other.name → level = other := by
    decide
  exact all level (mem_all level) other (mem_all other) same

theorem isAscii_of_mem_name : ∀ code ∈ (level.name : Text).codes, code.IsAscii := by
  have ascii : ∀ level ∈ all, level.name.toList.all fun c => c.toNat < 128 := by
    decide
  intro code among
  obtain ⟨c, spelled, rfl⟩ := List.mem_map.mp among
  have low := List.all_eq_true.mp (ascii level (mem_all level)) c spelled
  exact ⟨c, of_decide_eq_true low, rfl⟩

theorem not_spelledOut_of_name : ∀ c ∈ Text.Case.spelledOut,
    ¬(Text.Case.throughUpper c).map Code.char <:+: (level.name : Text).codes := by
  have unspelled : ∀ level ∈ all, Text.Case.spelledOut.all fun c =>
      ¬(Text.Case.throughUpper c).map Code.char <:+: (level.name : Text).codes := by
    decide +kernel
  intro c spelled
  exact of_decide_eq_true (List.all_eq_true.mp (unspelled level (mem_all level)) c spelled)

theorem lower_upper_eq_name_iff :
    text.upper.lower = level.name ↔ text.dotted.lower = level.name :=
  Text.lower_upper_eq_iff isAscii_of_mem_name not_spelledOut_of_name

/-- A text stands for the level that it names, and for `info` if it names none. -/
theorem ofName_some_eq_iff :
    ofName (some text) = level ↔
      text.lower = level.name ∨ level = .info ∧ ∀ other : Level, text.lower ≠ other.name := by
  obtain ⟨codes⟩ := text
  cases codes with
  | nil =>
    have nameless : ∀ level ∈ all, Text.lower ⟨[]⟩ ≠ level.name := by
      decide
    have default : ofName (some ⟨[]⟩) = .info := by
      decide +kernel
    have nameless (level : Level) : Text.lower ⟨[]⟩ ≠ level.name := nameless level (mem_all level)
    simp [default, nameless, eq_comm]
  | cons code rest =>
    have unfolded : ofName (some ⟨code :: rest⟩) =
        (all.find? fun level => level.name = Text.lower ⟨code :: rest⟩).getD .info := rfl
    rw [unfolded]
    cases found : all.find? fun level => level.name = Text.lower ⟨code :: rest⟩ with
    | none =>
      have nameless (level : Level) : Text.lower ⟨code :: rest⟩ ≠ level.name := by
        have different := List.find?_eq_none.mp found level (mem_all level)
        simpa [eq_comm] using different
      simp [nameless, eq_comm]
    | some first =>
      have named : Text.lower ⟨code :: rest⟩ = first.name := by
        have passes := List.find?_some found
        exact (of_decide_eq_true passes).symm
      simp only [named, Option.getD_some, Text.ofString_inj]
      constructor
      · rintro rfl
        exact .inl rfl
      · rintro (same | ⟨-, nameless⟩)
        · exact name_injective same
        · exact absurd rfl (nameless first)

theorem ofName_upper : ofName (some text.upper) = ofName (some text.dotted) := by
  rw [ofName_some_eq_iff]
  simp only [ne_eq, lower_upper_eq_name_iff]
  exact ofName_some_eq_iff.mp rfl

/-- The text would be the name of a level other than `info` if it had a dot on every i. -/
def LacksDots (text : Text) : Prop :=
  .char Text.Case.dotlessI ∈ text.codes ∧
    ∃ level : Level, level ≠ .info ∧ text.dotted.lower = level.name

theorem ofName_of_dotlessI (dotless : .char Text.Case.dotlessI ∈ text.codes) :
    ofName (some text) = .info := by
  rw [ofName_some_eq_iff]
  exact .inr ⟨rfl, fun other => Text.lower_ne_of_dotlessI dotless isAscii_of_mem_name⟩

theorem ofName_upper_eq_iff : ofName (some text.upper) = ofName (some text) ↔ ¬LacksDots text := by
  rw [ofName_upper]
  by_cases dotless : .char Text.Case.dotlessI ∈ text.codes
  · rw [ofName_of_dotlessI dotless, ofName_some_eq_iff]
    constructor
    · rintro found ⟨-, level, other, named⟩
      rcases found with info | ⟨-, nameless⟩
      · rw [named, Text.ofString_inj] at info
        exact other (name_injective info)
      · exact nameless level named
    · intro kept
      by_cases info : text.dotted.lower = name .info
      · exact .inl info
      · refine .inr ⟨rfl, fun level named => kept ⟨dotless, level, ?_, named⟩⟩
        rintro rfl
        exact info named
  · rw [Text.dotted_of_no_dotlessI dotless]
    simp [LacksDots, dotless]

end Log.Level

namespace Bootstrap

open Log

/-- Without a configuration file the defaults are in force, and with them the default strategy. -/
theorem start_without_files (catalog : Strategy.Catalog) (directories : UserDirectories)
    (store : Storage.Location) {factory : Strategy.Factory}
    (registered : Assoc.get? ("default" : Text) catalog.factories = some factory) :
    start catalog directories [] (some store) =
      .ok ⟨.default, levelOf .default, factory store, store⟩ := by
  have default : Assoc.get? Setting.strategy.key Setting.defaults = some Setting.strategy.default :=
    Setting.get?_defaults_eq_some_iff.mpr ⟨.strategy, rfl, rfl⟩
  have option : Assoc.get? Setting.strategy.key Configuration.default.resolvedOptions =
      some Setting.strategy.default := by
    rw [Configuration.get?_resolvedOptions Setting.nodup_defaults, Configuration.default, default,
      Option.some_or]
  have chosen : Strategy.Catalog.chosenName none Configuration.default.resolvedOptions =
      "default" := by
    rw [Strategy.Catalog.chosenName, Setting.resolve_of_get? option]
    rfl
  have lowered : Text.lower "default" = "default" := by
    rfl
  have resolved : catalog.resolve directories none (some store)
      Configuration.default.resolvedOptions = .ok (factory store, store) := by
    apply Strategy.Catalog.resolve_of_registered
    · rw [chosen]
      decide
    · rw [chosen, lowered]
      exact registered
  have loaded : Configuration.load [] = .ok .default := rfl
  rw [start, loaded, Checks.ok_bind, resolved, Checks.ok_bind]
  exact Checks.pure_eq_ok _

/-- The level that is in force after a start is the one that the text in the configuration stands
for, unless that text lacks dots to be a name. Otherwise a name is known in any letter case, and
a text that is no name leaves `info` in force. -/
theorem applies_level_unless_dotless (configuration : Configuration) :
    (levelOf configuration = .ofName (some configuration.level) ↔
      ¬Level.LacksDots configuration.level) ∧
    (∀ level : Level, configuration.level.lower = level.name → levelOf configuration = level) ∧
    (¬Level.LacksDots configuration.level →
      (∀ level : Level, configuration.level.lower ≠ level.name) → levelOf configuration = .info) ∧
    ∀ catalog directories candidates store boot,
      start catalog directories candidates store = .ok boot →
        boot.level = levelOf boot.configuration := by
  have same : levelOf configuration = .ofName (some configuration.level) ↔
      ¬Level.LacksDots configuration.level := Level.ofName_upper_eq_iff
  refine ⟨same, ?_, ?_, ?_⟩
  · intro level named
    have kept : ¬Level.LacksDots configuration.level := by
      rintro ⟨dotless, -⟩
      exact Text.lower_ne_of_dotlessI dotless Level.isAscii_of_mem_name named
    rw [same.mpr kept]
    exact Level.ofName_some_eq_iff.mpr (.inl named)
  · intro kept nameless
    rw [same.mpr kept]
    exact Level.ofName_some_eq_iff.mpr (.inr ⟨rfl, nameless⟩)
  · intro catalog directories candidates store boot started
    obtain ⟨loaded, -, started⟩ := Checks.bind_eq_ok_iff.mp started
    obtain ⟨⟨product, location⟩, -, built⟩ := Checks.bind_eq_ok_iff.mp started
    rw [← Except.ok.inj built]

/-- A name in mixed case is known, a word with a ligature is not, and a start without files
leaves `info` in force. -/
theorem applies_level_in_mixed_case :
    let directories : UserDirectories := ⟨.ofText "/settings", .ofText "/data"⟩
    levelOf ⟨"wArNiNg", []⟩ = .warning ∧ levelOf ⟨"in\ufb01nite", []⟩ = .info ∧
      ∃ boot, start .builtIn directories [] (some .memory) = .ok boot ∧ boot.level = .info := by
  intro directories
  have known := (applies_level_unless_dotless ⟨"wArNiNg", []⟩).2.1 .warning (by decide +kernel)
  obtain ⟨same, -, unknown, -⟩ := applies_level_unless_dotless ⟨"in\ufb01nite", []⟩
  have kept : ¬Level.LacksDots "in\ufb01nite" := by
    rintro ⟨dotless, -⟩
    revert dotless
    decide
  have nameless : ∀ level ∈ Level.all, Text.lower "in\ufb01nite" ≠ level.name := by
    decide +kernel
  have start := start_without_files .builtIn directories .memory rfl
  obtain ⟨-, named, -, started⟩ := applies_level_unless_dotless .default
  refine ⟨known, unknown kept fun level => nameless level (Level.mem_all level), _, start, ?_⟩
  rw [started _ _ _ _ _ start]
  exact named .info (by decide +kernel)

/-- The text is no name, and yet it is not `info` that is in force. -/
theorem level_in_force_lacks_dot :
    (∀ level : Level, Text.lower "cr\u0131tical" ≠ level.name) ∧
      levelOf ⟨"cr\u0131tical", []⟩ = .critical ∧
      levelOf ⟨"cr\u0131tical", []⟩ ≠ .ofName (some "cr\u0131tical") := by
  have nameless : ∀ level ∈ Level.all, Text.lower "cr\u0131tical" ≠ level.name := by
    decide +kernel
  exact ⟨fun level => nameless level (Level.mem_all level), by decide +kernel, by decide +kernel⟩

end Bootstrap

end KeyEnvelope
