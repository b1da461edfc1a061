/-!
# Byte strings

Byte strings are lists of bytes. Numbers stand in them in big-endian order, at a
fixed width.
-/

namespace KeyEnvelope

abbrev Bytes := List UInt8

namespace Bytes

def ofNat : (width : Nat) → Nat → Bytes
  | 0, _ => []
  | width + 1, n => ofNat width (n / 256) ++ [UInt8.ofNat n]

def toNat (bytes : Bytes) : Nat :=
  bytes.foldl (fun n byte => 256 * n + byte.toNat) 0

/-- The two's complement reading of a byte string. -/
def toInt (bytes : Bytes) : Int :=
  let range := Nat.pow 256 bytes.length
  if 2 * bytes.toNat < range then bytes.toNat else (bytes.toNat : Int) - range

end Bytes

end KeyEnvelope
