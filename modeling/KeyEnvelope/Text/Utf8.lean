import KeyEnvelope.Bytes

/-!
# Decoding of UTF-8

A byte string falls into encoded characters and broken pieces. A broken piece is as
long as it could still have become a character.
-/

namespace KeyEnvelope.Text.Utf8

/-- A character begun: how many bytes are missing, the value so far, and the range
of the next byte. -/
structure Pending where
  missing : Nat
  value : Nat
  least : Nat
  greatest : Nat

/-- What a byte begins: a piece that is complete, or a character that goes on. -/
def start (byte : Nat) : Option Char ⊕ Pending :=
  if byte < 0x80 then .inl (some (Char.ofNat byte))
  else if byte < 0xc2 ∨ 0xf4 < byte then .inl none
  else if byte < 0xe0 then .inr ⟨1, byte - 0xc0, 0x80, 0xbf⟩
  else if byte < 0xf0 then
    .inr ⟨2, byte - 0xe0, if byte = 0xe0 then 0xa0 else 0x80, if byte = 0xed then 0x9f else 0xbf⟩
  else .inr ⟨3, byte - 0xf0, if byte = 0xf0 then 0x90 else 0x80, if byte = 0xf4 then 0x8f else 0xbf⟩

/-- The pieces of a byte string, given the character begun before it; broken ones
are `none`. -/
def piecesAfter : Option Pending → Bytes → List (Option Char)
  | none, [] => []
  | some _, [] => [none]
  | none, byte :: rest => begun byte rest
  | some pending, byte :: rest =>
    if pending.least ≤ byte.toNat ∧ byte.toNat ≤ pending.greatest then
      let value := 64 * pending.value + byte.toNat % 64
      if pending.missing ≤ 1 then some (Char.ofNat value) :: piecesAfter none rest
      else piecesAfter (some ⟨pending.missing - 1, value, 0x80, 0xbf⟩) rest
    else none :: begun byte rest
where
  begun (byte : UInt8) (rest : Bytes) : List (Option Char) :=
    match start byte.toNat with
    | .inl piece => piece :: piecesAfter none rest
    | .inr pending => piecesAfter (some pending) rest

def pieces (bytes : Bytes) : List (Option Char) :=
  piecesAfter none bytes

/-- The characters after those found so far, last first, and the bytes of the one
that is begun at the end. -/
def splitAfter : Option (Pending × Bytes) → List Char → Bytes → Option (List Char × Bytes)
  | none, found, [] => some (found.reverse, [])
  | some (_, begun), found, [] => some (found.reverse, begun.reverse)
  | none, found, byte :: rest =>
    match start byte.toNat with
    | .inl (some c) => splitAfter none (c :: found) rest
    | .inl none => none
    | .inr pending => splitAfter (some (pending, [byte])) found rest
  | some (pending, begun), found, byte :: rest =>
    if pending.least ≤ byte.toNat ∧ byte.toNat ≤ pending.greatest then
      let value := 64 * pending.value + byte.toNat % 64
      if pending.missing ≤ 1 then splitAfter none (Char.ofNat value :: found) rest
      else splitAfter (some (⟨pending.missing - 1, value, 0x80, 0xbf⟩, byte :: begun)) found rest
    else none

/-- The whole characters of a byte string and what could still become one at its
end; `none` if a piece is broken. -/
def split? (bytes : Bytes) : Option (List Char × Bytes) :=
  splitAfter none [] bytes

def decode? (bytes : Bytes) : Option (List Char) :=
  (pieces bytes).mapM id

/-- The text of a byte string, with the replacement character in place of each
broken piece. -/
def decodeLossy (bytes : Bytes) : List Char :=
  (pieces bytes).map fun piece => piece.getD '\ufffd'

end KeyEnvelope.Text.Utf8
