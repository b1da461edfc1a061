import KeyEnvelope.Bytes

/-!
# Base 64

Bytes in groups of six bits, one character for each. Characters outside the alphabet
are skipped.
-/

namespace KeyEnvelope.Yaml.Base64

def sextet? (c : Char) : Option Nat :=
  if 'A' ≤ c ∧ c ≤ 'Z' then some (c.toNat - 'A'.toNat)
  else if 'a' ≤ c ∧ c ≤ 'z' then some (c.toNat - 'a'.toNat + 26)
  else if c.isDigit then some (c.toNat - '0'.toNat + 52)
  else if c = '+' then some 62
  else if c = '/' then some 63
  else none

/-- Decodes a text. `place` counts the characters since the last whole group, `left`
holds bits of the last one, and `pads` counts padding characters. A text that ends
within a group is refused. -/
def decodeFrom : (place left pads : Nat) → List Char → Option Bytes
  | 0, _, _, [] => some []
  | _ + 1, _, _, [] => none
  | place, left, pads, c :: rest =>
    if c = '=' then
      if place < 2 then decodeFrom place left pads rest
      else if 4 ≤ place + (pads + 1) then some []
      else decodeFrom place left (pads + 1) rest
    else
      match sextet? c, place with
      | none, place => decodeFrom place left pads rest
      | some bits, 0 => decodeFrom 1 bits 0 rest
      | some bits, 1 =>
        (decodeFrom 2 (bits % 16) 0 rest).map (UInt8.ofNat (4 * left + bits / 16) :: ·)
      | some bits, 2 =>
        (decodeFrom 3 (bits % 4) 0 rest).map (UInt8.ofNat (16 * left + bits / 4) :: ·)
      | some bits, _ => (decodeFrom 0 0 0 rest).map (UInt8.ofNat (64 * left + bits) :: ·)

def decode? (cs : List Char) : Option Bytes :=
  decodeFrom 0 0 0 cs

end KeyEnvelope.Yaml.Base64
