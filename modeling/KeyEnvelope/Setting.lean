import KeyEnvelope.Assoc
import KeyEnvelope.Failure
import KeyEnvelope.Text.Integer

/-!
# Settings

Options are texts under text keys. Ten keys are settings that the library
understands; each has a default that stands in for an option that is not given.
-/

namespace KeyEnvelope

abbrev Options := List (Text × Text)

inductive Setting where
  | keyLocation
  | storeDir
  | storeUri
  | cipherSuite
  | algorithmName
  | keyLength
  | generator
  | provider
  | replication
  | strategy
deriving DecidableEq

namespace Setting

def all : List Setting :=
  [keyLocation, storeDir, storeUri, cipherSuite, algorithmName, keyLength, generator,
    provider, replication, strategy]

def key : Setting → Text
  | keyLocation => "crypto.default.key.strategy.key.location"
  | storeDir => "instance.store.dir"
  | storeUri => "instance.store.uri"
  | cipherSuite => "crypto.default.key.strategy.cipher.suite"
  | algorithmName => "crypto.cipher.algorithm.name"
  | keyLength => "crypto.cipher.key.length"
  | generator => "crypto.secure.rng"
  | provider => "crypto.secure.rng.provider"
  | replication => "crypto.default.key.strategy.replication"
  | strategy => "crypto.secret.key.encryption.strategy"

def default : Setting → Text
  | keyLocation => "/crypto/secret/keyEncryptionKey"
  | storeDir => "/key_guardian"
  | storeUri => "file:///"
  | cipherSuite => "AESWrap"
  | algorithmName => "AES"
  | keyLength => "128"
  | generator => "urandom"
  | provider => "os"
  | replication => "5"
  | strategy => "default"

def name : Setting → String
  | keyLocation => "KEY_LOCATION"
  | storeDir => "STORE_DIR"
  | storeUri => "STORE_URI"
  | cipherSuite => "CIPHER_SUITE"
  | algorithmName => "ALGORITHM_NAME"
  | keyLength => "KEY_LENGTH"
  | generator => "SECURE_RNG"
  | provider => "SECURE_RNG_PROVIDER"
  | replication => "KEY_REPLICATION"
  | strategy => "STRATEGY"

def ofName? (name : String) : Option Setting :=
  all.find? fun setting => setting.name = name

def resolve (setting : Setting) (options : Options) : Text :=
  (Assoc.get? setting.key options).getD setting.default

def resolveInt (setting : Setting) (options : Options) : Except Failure Int :=
  let text := setting.resolve options
  match Text.readInteger text with
  | .ok n => .ok n
  | .error _ => .error (.configuration (.notInteger setting.key text))

def defaults : Options :=
  all.map fun setting => (setting.key, setting.default)

end Setting

end KeyEnvelope
