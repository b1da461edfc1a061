/-!
# Shortest decimals

A positive binary fraction `m · 2^q` stands for an interval: the numbers that round
to it. The shortest decimal in that interval is looked for on ever finer decimal
grids; on each grid only the two neighbours of the fraction can lie in the interval,
and of two the nearer one is taken, or the even one.
-/

namespace KeyEnvelope.Decimal

/-- A binary fraction `significand · 2^exponent` with the ends of its rounding
interval, all in quarters of a unit. -/
structure Binary where
  significand : Nat
  exponent : Int
  /-- Is the gap below only half as wide as the gap above? -/
  narrowBelow : Bool

namespace Binary

def low (b : Binary) : Nat :=
  4 * b.significand - (if b.narrowBelow then 1 else 2)

def high (b : Binary) : Nat :=
  4 * b.significand + 2

/-- The ends round to the fraction exactly if its significand is even. -/
def closed (b : Binary) : Bool :=
  b.significand % 2 == 0

end Binary

/-- A grid of multiples of `10^place`, on which a count of quarters becomes the
quotient of `count * up` and `down`. -/
structure Grid where
  up : Nat
  down : Nat

def Grid.of (exponent place : Int) : Grid :=
  ⟨Nat.pow 2 (exponent - 2).toNat * Nat.pow 10 (-place).toNat,
    Nat.pow 2 (2 - exponent).toNat * Nat.pow 10 place.toNat⟩

def Grid.holds (g : Grid) (b : Binary) (k : Nat) : Bool :=
  let low := b.low * g.up
  let high := b.high * g.up
  let point := k * g.down
  if b.closed then low ≤ point && point ≤ high else low < point && point < high

/-- The multiple of the grid in the interval that is nearest to the fraction. -/
def Grid.nearest? (g : Grid) (b : Binary) : Option Nat :=
  let exact := 4 * b.significand * g.up
  let below := exact / g.down
  let above := below + 1
  match g.holds b below, g.holds b above with
  | false, false => none
  | true, false => some below
  | false, true => some above
  | true, true =>
    let left := exact - below * g.down
    let right := above * g.down - exact
    if left < right then some below
    else if right < left then some above
    else if below % 2 = 0 then some below else some above

def digitCount (n : Nat) : Nat :=
  (Nat.toDigits 10 n).length

def leadingPlace (b : Binary) : Int :=
  let up := b.significand * Nat.pow 2 b.exponent.toNat
  let down := Nat.pow 2 (-b.exponent).toNat
  let guess : Int := (digitCount up : Int) - digitCount down
  if down * Nat.pow 10 guess.toNat ≤ up * Nat.pow 10 (-guess).toNat then guess else guess - 1

def stripZeros (digits : Nat) (place : Int) : Nat × Int :=
  if h : digits ≠ 0 ∧ digits % 10 = 0 then stripZeros (digits / 10) (place + 1) else (digits, place)
termination_by digits
decreasing_by omega

/-- The shortest decimal `digits · 10^place` that rounds to the fraction. Seventeen
digits always suffice. -/
def shortest (b : Binary) : Nat × Int :=
  let leading := leadingPlace b
  let found := (List.range 17).findSome? fun (finer : Nat) =>
    let place := leading - (finer : Int)
    ((Grid.of b.exponent place).nearest? b).map fun digits => (digits, place)
  let (digits, place) := found.getD (0, 0)
  stripZeros digits place

end KeyEnvelope.Decimal
