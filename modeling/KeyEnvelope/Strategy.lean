import KeyEnvelope.KeyStore
import KeyEnvelope.KeyWrap.Wrapping
import KeyEnvelope.Parameters
import KeyEnvelope.StorePath

/-!
# Strategies

A strategy protects the data key of parameters. The enveloping strategy wraps it
under a key encryption key of the store, which it creates when the first key is
wrapped, and never when one is unwrapped: a new key encryption key would orphan what
was wrapped under the lost one. The passing strategy leaves keys as they are.
-/

namespace KeyEnvelope

inductive Strategy where
  | enveloping (registry : KeyWrap.Registry)
  | passing

namespace Strategy

variable {Draft : Type}

def keyPath (parameters : Parameters) : Except Failure Text :=
  let location := Setting.keyLocation.resolve parameters.options
  if location = "" then .error (.configuration .emptyKeyLocation)
  else .ok (StorePath.join (Setting.storeDir.resolve parameters.options) location)

/-- The suite that is asked for; the option stands in if none is. -/
def suiteName (parameters : Parameters) : Text :=
  (Text.given? parameters.suite).getD (Setting.cipherSuite.resolve parameters.options)

def algorithmName (parameters : Parameters) : Text :=
  parameters.algorithm.getD ""

def missingEvent (path : Text) : Log.Event :=
  ⟨"key_guardian.services.strategy", .error, "kek.missing",
    [("path", .text path),
      ("hint", .text
        "restore the key encryption key, point the configuration at it, or discard the affected data")]⟩

/-- Notes the events about an outcome before it takes effect. -/
def settle (outcome : Except Failure Bytes) : Operation Draft Bytes := do
  (KeyWrap.outcomeEvents outcome).forM Operation.note
  Operation.ofExcept outcome

/-- What wrapping needs, all of it checked before the store is touched. -/
structure Plan where
  path : Text
  key : Bytes
  replication : Int
  generator : Randomness.Generator

/-- The key encryption key's path, the key to wrap and the suite to wrap it with. -/
def target (registry : KeyWrap.Registry) (parameters : Parameters) :
    Except Failure (Text × Bytes × KeyWrap.Suite) := do
  let path ← keyPath parameters
  let some key := parameters.plaintextKey | throw (.configuration .noPlaintextKey)
  let suite ← registry.resolve (algorithmName parameters) (suiteName parameters)
  return (path, key, suite)

def plan (registry : KeyWrap.Registry) (parameters : Parameters) : Except Failure Plan := do
  let (path, key, suite) ← target registry parameters
  suite.checkKekBits parameters.keyLength
  let replication ← Setting.replication.resolveInt parameters.options
  let generator ← Randomness.resolve parameters.generator parameters.provider
  return ⟨path, key, replication, generator⟩

/-- Wraps the key of a plan under the key encryption key that the store has for it. -/
def wrapPlanned (registry : KeyWrap.Registry) (parameters : Parameters) (plan : Plan) :
    Operation Draft Parameters := do
  let kek ← KeyStore.load plan.path
  let wrapped ← settle
    (registry.wrap (algorithmName parameters) (suiteName parameters) kek plan.key)
  return { parameters with encryptedKey := some wrapped, kekId := some plan.path }

def wrap (registry : KeyWrap.Registry) (parameters : Parameters) : Operation Draft Parameters := do
  let plan ← Operation.ofExcept (plan registry parameters)
  let _ ← KeyStore.ensure plan.generator plan.replication plan.path parameters.keyLength
  wrapPlanned registry parameters plan

def unwrap (registry : KeyWrap.Registry) (parameters : Parameters) :
    Operation Draft Parameters := do
  let path ← Operation.ofExcept (keyPath parameters)
  let some wrapped := parameters.encryptedKey | throw (.configuration .noEncryptedKey)
  let _ ← Operation.ofExcept (Setting.replication.resolveInt parameters.options)
  if ← KeyStore.contains path then
    let kek ← KeyStore.load path
    let key ← settle
      (registry.unwrap (algorithmName parameters) (suiteName parameters) kek wrapped)
    return { parameters with plaintextKey := some key }
  else
    Operation.note (missingEvent path)
    throw (.kekMissing path none)

def encrypt (parameters : Parameters) : Strategy → Operation Draft Parameters
  | enveloping registry => wrap registry parameters
  | passing => pure { parameters with encryptedKey := parameters.plaintextKey }

def decrypt (parameters : Parameters) : Strategy → Operation Draft Parameters
  | enveloping registry => unwrap registry parameters
  | passing => pure { parameters with plaintextKey := parameters.encryptedKey }

end Strategy

end KeyEnvelope
