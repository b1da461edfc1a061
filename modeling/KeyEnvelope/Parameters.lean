import KeyEnvelope.Bytes
import KeyEnvelope.Setting
import KeyEnvelope.Text.Quoted

/-!
# Parameters

The parameters of one data key: how to protect it, and the key itself in plain and
in wrapped form.
-/

namespace KeyEnvelope

structure Parameters where
  algorithm : Option Text
  suite : Option Text
  /-- In bits, of the key encryption key. -/
  keyLength : Int
  plaintextKey : Option Bytes
  encryptedKey : Option Bytes
  /-- The store path of the key encryption key under which the key was wrapped. -/
  kekId : Option Text
  generator : Option Text
  provider : Option Text
  options : Options
deriving DecidableEq

namespace Parameters

def empty : Parameters :=
  ⟨none, none, 128, none, none, none, none, none, []⟩

def ofOptions (options : Options) : Except Failure Parameters := do
  let keyLength ← Setting.keyLength.resolveInt options
  return {
    algorithm := Setting.algorithmName.resolve options
    suite := Setting.cipherSuite.resolve options
    keyLength
    plaintextKey := none
    encryptedKey := none
    kekId := none
    generator := Setting.generator.resolve options
    provider := Setting.provider.resolve options
    options }

/-- Takes a new key to wrap and drops what was wrapped before. -/
def replacePlaintextKey (parameters : Parameters) (key : Option Bytes) : Parameters :=
  { parameters with plaintextKey := key, encryptedKey := none, kekId := none }

/-- Takes a new wrapped key and drops the key of an older one. -/
def replaceEncryptedKey (parameters : Parameters) (wrapped : Option Bytes) : Parameters :=
  { parameters with encryptedKey := wrapped, plaintextKey := none }

/-- Shows whether there is a key, but not which. -/
def masked : Option Bytes → String
  | some _ => "<set>"
  | none => "None"

/-- The parameters in one line, given the text for the key length. -/
def summaryWith (keyLength : String) (parameters : Parameters) : String :=
  s!"CryptoParameters(algorithm_name={Text.quotedOrNone parameters.algorithm}, "
    ++ s!"cipher_suite={Text.quotedOrNone parameters.suite}, key_length={keyLength}, "
    ++ s!"plaintext_key={masked parameters.plaintextKey}, encrypted_key={masked parameters.encryptedKey}, "
    ++ s!"opaque_key_encryption_key_id={Text.quotedOrNone parameters.kekId})"

def summary (parameters : Parameters) : String :=
  parameters.summaryWith (toString parameters.keyLength)

end Parameters

end KeyEnvelope
