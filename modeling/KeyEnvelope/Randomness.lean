import KeyEnvelope.Bytes
import KeyEnvelope.Failure
import KeyEnvelope.Setting
import KeyEnvelope.Text.Blank
import KeyEnvelope.Text.Case

/-!
# Random generators

A generator is chosen by a selector and a provider. Selectors of former days stand
for the generator of the operating system; the provider is only checked.
-/

namespace KeyEnvelope.Randomness

inductive Generator where
  | system
  | tokens
deriving DecidableEq

abbrev Source : Type :=
  Generator → Nat → Except Failure Bytes

def generators : List (Text × Generator) :=
  [("urandom", .system), ("secrets", .tokens), ("sha1prng", .system), ("nativeprng", .system)]

def providers : List Text :=
  ["os", "default", "sun"]

/-- The text that a selector stands for: the default if it is absent or empty, and
no regard to case. -/
def selected (setting : Setting) (selector : Option Text) : Text :=
  ((Text.given? selector).getD setting.default).trim.lower

def resolve (generator provider : Option Text) : Except Failure Generator :=
  if selected .provider provider ∉ providers then
    .error (.configuration (.unsupportedProvider (provider.getD "")))
  else
    match generators.lookup (selected .generator generator) with
    | some found => .ok found
    | none => .error (.configuration (.unsupportedGenerator (generator.getD "")))

def Generator.selectors (generator : Generator) : List Text :=
  ((generators.filter fun entry => entry.2 = generator).map (·.1)).mergeSort Text.atMost

/-- How many bytes a request for `count` bytes draws. -/
def checkCount (count : Int) : Except Failure Nat :=
  let range : Int := 9223372036854775808
  if count < -range ∨ range ≤ count then
    .error (.tooLarge "Python int too large to convert to C ssize_t")
  else if count < 0 then .error (.badValue "negative argument not allowed")
  else .ok count.toNat

end KeyEnvelope.Randomness
