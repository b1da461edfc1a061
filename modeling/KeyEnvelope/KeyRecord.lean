import KeyEnvelope.Bytes
import KeyEnvelope.Failure

/-!
# Key records

A record holds one key: its length as a signed number of four bytes, then its bytes.
What follows it is not part of it.
-/

namespace KeyEnvelope.KeyRecord

def headerSize : Nat := 4

def header (key : Bytes) : Bytes :=
  Bytes.ofNat headerSize key.length

def encode (key : Bytes) : Bytes :=
  header key ++ key

def checkLength (key : Bytes) : Except Failure Unit :=
  if 2147483648 ≤ key.length then
    .error (.badFormat "'i' format requires -2147483648 <= number <= 2147483647")
  else .ok ()

def keyLength (header : Bytes) : Except StorageIssue Nat :=
  if header.length ≠ headerSize then .error .truncatedHeader
  else if header.toInt ≤ 0 then .error (.badLength header.toInt)
  else .ok header.toInt.toNat

def checkKey (length : Nat) (key : Bytes) : Except StorageIssue Bytes :=
  if key.length ≠ length then .error (.truncated length key.length) else .ok key

/-- The key of the first record in a byte string, and what follows that record. -/
def decode (bytes : Bytes) : Except StorageIssue (Bytes × Bytes) := do
  let length ← keyLength (bytes.take headerSize)
  let rest := bytes.drop headerSize
  let key ← checkKey length (rest.take length)
  return (key, rest.drop length)

end KeyEnvelope.KeyRecord
