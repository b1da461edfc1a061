import KeyEnvelope.Failure
import KeyEnvelope.KeyWrap.Registry
import KeyEnvelope.Log.Event

/-!
# Wrapping with a registry

A key is wrapped with the suite that a registry has for a descriptor. The algorithm
of the key is only a label, but it must be there. A refusal of the wrap mode is
worth an event; a failure before it is not, nor is a key that is too long to count.
-/

namespace KeyEnvelope.KeyWrap

namespace Registry

def get (registry : Registry) (descriptor : Text) : Except Failure Suite :=
  if Text.isBlankText descriptor then .error (.configuration .blankSuite)
  else match registry.find? descriptor with
    | some suite => .ok suite
    | none => .error (.configuration (.unsupportedSuite descriptor))

/-- The suite for a descriptor, for keys of the named algorithm. -/
def resolve (registry : Registry) (algorithm descriptor : Text) : Except Failure Suite :=
  if Text.isBlankText algorithm then .error (.configuration .blankAlgorithm)
  else registry.get descriptor

def wrap (registry : Registry) (algorithm descriptor : Text) (kek key : Bytes) :
    Except Failure Bytes := do
  let suite ← registry.resolve algorithm descriptor
  if key.isEmpty then throw (.wrap .empty)
  match suite.mode.wrap kek key with
  | .ok wrapped => return wrapped
  | .error .keyTooLong => throw (.tooLarge Refusal.keyTooLong.message)
  | .error refusal => throw (.wrap (.refused suite.name algorithm refusal))

def unwrap (registry : Registry) (algorithm descriptor : Text) (kek wrapped : Bytes) :
    Except Failure Bytes := do
  let suite ← registry.resolve algorithm descriptor
  if wrapped.isEmpty then throw (.unwrap .empty)
  match suite.mode.unwrap kek wrapped with
  | .ok key => return key
  | .error refusal => throw (.unwrap (.refused suite.name algorithm refusal))

end Registry

def Suite.checkKekBits (suite : Suite) (bits : Int) : Except Failure Unit :=
  if suite.admitsKekBits bits then .ok () else .error (.configuration (.kekBits suite bits))

def refusalEvent (text : String) (suite algorithm : Text) (refusal : Refusal) : Log.Event :=
  ⟨"key_guardian.crypto.keywrap", .error, text,
    [("suite", .text suite), ("algorithm", .text algorithm), ("error", .text refusal.message)]⟩

def outcomeEvents : Except Failure Bytes → List Log.Event
  | .error (.wrap (.refused suite algorithm refusal)) =>
    [refusalEvent "keywrap.wrap_failed" suite algorithm refusal]
  | .error (.unwrap (.refused suite algorithm refusal)) =>
    [refusalEvent "keywrap.unwrap_failed" suite algorithm refusal]
  | _ => []

end KeyEnvelope.KeyWrap
