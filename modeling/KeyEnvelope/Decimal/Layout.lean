import KeyEnvelope.Decimal.Parts

/-!
# Layout of real numbers

A real number is written by its shortest decimal: positionally from one
ten-thousandth up to sixteen digits before the point, and with an exponent of at
least two digits beyond that.
-/

namespace KeyEnvelope.Decimal

structure Format where
  /-- Leading places from here up to `positionalBelow` are written positionally. -/
  positionalFrom : Int
  positionalBelow : Int
  exponentWidth : Nat
  notANumber : String
  infinity : String

def plainFormat : Format :=
  ⟨-4, 16, 2, "nan", "inf"⟩

def lineFormat : Format :=
  ⟨-4, 16, 2, "NaN", "Infinity"⟩

def zeros (count : Nat) : List Char :=
  List.replicate count '0'

/-- Decimal digits with the point `whole` places from the left, and a zero where a
side would be empty. -/
def positional (digits : List Char) (whole : Int) : List Char :=
  if whole ≤ 0 then '0' :: '.' :: zeros (-whole).toNat ++ digits
  else
    let padded := digits ++ zeros (whole.toNat - digits.length)
    let tail := padded.drop whole.toNat
    padded.take whole.toNat ++ '.' :: (if tail.isEmpty then ['0'] else tail)

def exponential (format : Format) (digits : List Char) (leading : Int) : List Char :=
  let mantissa :=
    match digits with
    | [] => []
    | [d] => [d]
    | d :: rest => d :: '.' :: rest
  let places := Nat.toDigits 10 leading.natAbs
  let sign := if leading < 0 then '-' else '+'
  mantissa ++ 'e' :: sign :: zeros (format.exponentWidth - places.length) ++ places

def Format.magnitude (format : Format) (b : Binary) : List Char :=
  let (digits, place) := shortest b
  let shown := Nat.toDigits 10 digits
  let leading := place + shown.length - 1
  if format.positionalFrom ≤ leading ∧ leading < format.positionalBelow then
    positional shown (leading + 1)
  else exponential format shown leading

def signedText (negative : Bool) (text : String) : String :=
  if negative then "-" ++ text else text

def Format.write (format : Format) (x : Float) : String :=
  match Parts.ofBits x.toBits with
  | .notANumber => format.notANumber
  | .infinite negative => signedText negative format.infinity
  | .zero negative => signedText negative "0.0"
  | .finite negative b => signedText negative (.ofList (format.magnitude b))

end KeyEnvelope.Decimal
