import KeyEnvelope.Setting
import KeyEnvelope.Text.Case
import KeyEnvelope.Text.Utf8
import KeyEnvelope.Value.Text

/-!
# Configuration

A configuration is a logging level and options. Of a document it takes these two
fields and overlooks all others. Keys and values of the options are taken in their
text form; an entry without a value counts as not given.
-/

namespace KeyEnvelope

structure Configuration where
  level : Text
  options : Options
deriving DecidableEq

namespace Configuration

def defaultLevel : Text := "INFO"

def default : Configuration :=
  ⟨defaultLevel, Setting.defaults⟩

abbrev Mismatch := List String × DocumentMismatch

/-- The logging level in the field for logging. Bytes stand for the text that they
encode. -/
def levelOf : Option Value → Except Mismatch Text
  | none => .ok defaultLevel
  | some (.mapping entries) =>
    match Value.entry? "level" entries with
    | none => .ok defaultLevel
    | some (.text level) => .ok level
    | some (.bytes level) =>
      match Text.Utf8.decode? level with
      | some cs => .ok (.ofChars cs)
      | none => .error (["logging", "level"], .levelNotUtf8)
    | some _ => .error (["logging", "level"], .levelNotText)
  | some _ => .error (["logging"], .notMapping)

/-- The entries of options as texts; `none` if one of them has no text form. -/
def texts : List (Value × Value) → Option (List (Text × Text))
  | [] => some []
  | (_, .null) :: rest => texts rest
  | (key, value) :: rest => do
    let k ← key.textForm
    let v ← value.textForm
    let others ← texts rest
    return (k, v) :: others

/-- The options in the field for options. Of two entries under one text the later
one counts. -/
def optionsOf : Option Value → Except Mismatch Options
  | none => .ok Setting.defaults
  | some (.mapping entries) =>
    match texts entries with
    | some found => .ok (Assoc.overlay [] found)
    | none => .error (["options"], .badText)
  | some _ => .error (["options"], .optionsNotMapping)

def ofFields (logging options : Option Value) : Except (List Mismatch) Configuration :=
  match levelOf logging, optionsOf options with
  | .ok level, .ok options => .ok ⟨level, options⟩
  | .error a, .ok _ => .error [a]
  | .ok _, .error b => .error [b]
  | .error a, .error b => .error [a, b]

def ofValue : Value → Except (List Mismatch) Configuration
  | .mapping entries => ofFields (Value.entry? "logging" entries) (Value.entry? "options" entries)
  | _ => .error [([], .notMapping)]

/-- The document that a configuration is written out as. -/
def toValue (configuration : Configuration) : Value :=
  let options := configuration.options.map fun (key, text) => (Value.text key, Value.text text)
  .mapping [(.text "logging", .mapping [(.text "level", .text configuration.level)]),
    (.text "options", .mapping options)]

def normalizedLevel (configuration : Configuration) : Text :=
  Text.upper configuration.level

/-- The defaults of all settings, overlaid with the options. -/
def resolvedOptions (configuration : Configuration) : Options :=
  Assoc.overlay Setting.defaults configuration.options

/-- Do two lists of options hold the same entries, in whatever order? -/
def sameOptions (a b : Options) : Bool :=
  a.length == b.length && a.all fun (key, value) => Assoc.get? key b == some value

def same (a b : Configuration) : Bool :=
  a.level == b.level && sameOptions a.options b.options

end Configuration

end KeyEnvelope
