import KeyEnvelope.Bytes

/-!
# Hexadecimal digits

Numbers are written with a fixed width in lower case. Digits are read in either
case, two for a byte.
-/

namespace KeyEnvelope

namespace Text

/-- The last `width` hexadecimal digits of a number, in lower case. -/
def hexDigits : (width : Nat) → Nat → List Char
  | 0, _ => []
  | width + 1, n => hexDigits width (n / 16) ++ [Nat.digitChar (n % 16)]

def hexValue? (c : Char) : Option Nat :=
  if c.isDigit then some (c.toNat - '0'.toNat)
  else if 'a' ≤ c ∧ c ≤ 'f' then some (c.toNat - 'a'.toNat + 10)
  else if 'A' ≤ c ∧ c ≤ 'F' then some (c.toNat - 'A'.toNat + 10)
  else none

end Text

namespace Bytes

def toHex (bytes : Bytes) : String :=
  .ofList (bytes.flatMap fun byte => Text.hexDigits 2 byte.toNat)

/-- The bytes that pairs of hexadecimal digits write; `none` if there are no such
pairs. -/
def ofHex? : List Char → Option Bytes
  | [] => some []
  | [_] => none
  | a :: b :: rest => do
    let byte := 16 * (← Text.hexValue? a) + (← Text.hexValue? b)
    return UInt8.ofNat byte :: (← ofHex? rest)

end Bytes

end KeyEnvelope
