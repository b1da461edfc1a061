import KeyEnvelope.Decimal.Shortest

/-!
# Parts of real numbers

A double-precision number is no number, infinite, zero, or a signed binary fraction.
-/

namespace KeyEnvelope.Decimal

inductive Parts where
  | notANumber
  | infinite (negative : Bool)
  | zero (negative : Bool)
  | finite (negative : Bool) (magnitude : Binary)

def Parts.ofBits (bits : UInt64) : Parts :=
  let negative := bits >>> 63 = 1
  let exponent := ((bits >>> 52) &&& 0x7ff).toNat
  let fraction := (bits &&& 0xfffffffffffff).toNat
  if exponent = 0x7ff then
    if fraction = 0 then .infinite negative else .notANumber
  else if exponent = 0 then
    if fraction = 0 then .zero negative else .finite negative ⟨fraction, -1074, false⟩
  else .finite negative ⟨0x10000000000000 + fraction, (exponent : Int) - 1075,
    fraction = 0 && exponent > 1⟩

/-- The whole number that a real number equals, if there is one. -/
def Parts.integer? : Parts → Option Int
  | notANumber | infinite _ => none
  | zero _ => some 0
  | finite negative magnitude =>
    let down := Nat.pow 2 (-magnitude.exponent).toNat
    let whole := magnitude.significand * Nat.pow 2 magnitude.exponent.toNat
    if whole % down = 0 then
      some (if negative then -(whole / down : Nat) else (whole / down : Nat))
    else none

end KeyEnvelope.Decimal
