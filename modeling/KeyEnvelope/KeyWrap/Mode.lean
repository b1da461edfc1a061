import KeyEnvelope.Aes.Cipher
import KeyEnvelope.KeyWrap.Chain

/-!
# Wrap modes

The plain mode wraps keys of two or more whole halves under a fixed check value. The
padded mode wraps keys of any positive length: its check value holds the length, and
zero bytes fill the last half. A padded key of one half is enciphered as a single
block.
-/

namespace KeyEnvelope.KeyWrap

open Aes (Word Half Block Schedule)

inductive Mode where
  | plain
  | padded
deriving DecidableEq

inductive Refusal where
  | kekLength
  | keyTooShort
  | keyNotWhole
  | keyTooLong
  | wrappedTooShort (least : Nat)
  | wrappedNotWhole
  | corrupt
deriving DecidableEq

namespace Refusal

def message : Refusal → String
  | kekLength => "The wrapping key must be a valid AES key length"
  | keyTooShort => "The key to wrap must be at least 16 bytes"
  | keyNotWhole => "The key to wrap must be a multiple of 8 bytes"
  | keyTooLong => "int too big to convert"
  | wrappedTooShort least => s!"Must be at least {least} bytes"
  | wrappedNotWhole => "The wrapped key must be a multiple of 8 bytes"
  | corrupt => ""

/-- A refusal that speaks of the wrapped key, not of the arguments' sizes alone. -/
def isIntegrity : Refusal → Bool
  | wrappedTooShort _ | wrappedNotWhole | corrupt => true
  | kekLength | keyTooShort | keyNotWhole | keyTooLong => false

end Refusal

def cipher? (kek : Bytes) : Option BlockCipher :=
  (Schedule.ofKey? kek).map fun schedule => ⟨Aes.encrypt schedule, Aes.decrypt schedule⟩

namespace Plain

def check : Half :=
  ⟨⟨0xa6, 0xa6, 0xa6, 0xa6⟩, ⟨0xa6, 0xa6, 0xa6, 0xa6⟩⟩

def wrap (kek key : Bytes) : Except Refusal Bytes :=
  match cipher? kek with
  | none => .error .kekLength
  | some cipher =>
    if key.length < 16 then .error .keyTooShort
    else match Half.split? key with
      | none => .error .keyNotWhole
      | some halves =>
        let (last, chained) := chain cipher check halves
        .ok (Half.join (last :: chained))

def unwrap (kek wrapped : Bytes) : Except Refusal Bytes :=
  if wrapped.length < 24 then .error (.wrappedTooShort 24)
  else match Half.split? wrapped with
    | none | some [] => .error .wrappedNotWhole
    | some (last :: chained) =>
      match cipher? kek with
      | none => .error .kekLength
      | some cipher =>
        let (found, halves) := unchain cipher last chained
        if found = check then .ok (Half.join halves) else .error .corrupt

end Plain

namespace Padded

def mark : Word :=
  ⟨0xa6, 0x59, 0x59, 0xa6⟩

def check (length : Nat) : Half :=
  ⟨mark, Half.wordOfNat length⟩

/-- The greatest length that a check value has room for. -/
def lengthLimit : Nat := 0xffffffff

/-- How many zero bytes fill the last half of a key of `length` bytes. -/
def padding (length : Nat) : Nat :=
  (8 - length % 8) % 8

def pad (key : Bytes) : Bytes :=
  key ++ List.replicate (padding key.length) 0

/-- Strips the padding that the check value calls for; `none` if the two do not fit
each other. -/
def unpad? (found : Half) (halves : List Half) : Option Bytes :=
  let length := found.right.toBytes.toNat
  let padded := Half.join halves
  let key := padded.take length
  if found.left = mark ∧ 8 * halves.length < length + 8 ∧ length ≤ 8 * halves.length ∧
      padded = pad key then
    some key
  else none

/-- A single half is enciphered in one block, several halves go through the chain. -/
def enclose (cipher : BlockCipher) (check : Half) : List Half → Half × List Half
  | [half] =>
    let block := cipher.encrypt ⟨check, half⟩
    (block.upper, [block.lower])
  | halves => chain cipher check halves

def disclose (cipher : BlockCipher) (check : Half) : List Half → Half × List Half
  | [half] =>
    let block := cipher.decrypt ⟨check, half⟩
    (block.upper, [block.lower])
  | halves => unchain cipher check halves

def wrap (kek key : Bytes) : Except Refusal Bytes :=
  match cipher? kek with
  | none => .error .kekLength
  | some cipher =>
    if lengthLimit < key.length then .error .keyTooLong
    else match Half.split? (pad key) with
    | none => .error .keyNotWhole
    | some halves =>
      let (last, enclosed) := enclose cipher (check key.length) halves
      .ok (Half.join (last :: enclosed))

def unwrap (kek wrapped : Bytes) : Except Refusal Bytes :=
  if wrapped.length < 16 then .error (.wrappedTooShort 16)
  else match Half.split? wrapped with
    | none | some [] => .error .wrappedNotWhole
    | some (last :: enclosed) =>
      match cipher? kek with
      | none => .error .kekLength
      | some cipher =>
        let (found, halves) := disclose cipher last enclosed
        match unpad? found halves with
        | some key => .ok key
        | none => .error .corrupt

end Padded

namespace Mode

def wrap : Mode → (kek key : Bytes) → Except Refusal Bytes
  | plain => Plain.wrap
  | padded => Padded.wrap

def unwrap : Mode → (kek wrapped : Bytes) → Except Refusal Bytes
  | plain => Plain.unwrap
  | padded => Padded.unwrap

end Mode

end KeyEnvelope.KeyWrap
