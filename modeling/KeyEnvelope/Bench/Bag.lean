import KeyEnvelope.Strategy.Filling

/-!
# Bags

A bag holds parameters as a caller fills them in: options may be listed without a
value, and the key length may be left open. Options without a value count as not
given; a key length that is left open is missed only where it is needed, when a key
is wrapped.
-/

namespace KeyEnvelope

namespace Bench

structure Bag where
  parameters : Parameters
  blankOptions : List Text
  lacksOptions : Bool
  lacksLength : Bool

namespace Bag

def ofParameters (parameters : Parameters) : Bag :=
  ⟨parameters, [], false, false⟩

def update (change : Parameters → Parameters) (bag : Bag) : Bag :=
  { bag with parameters := change bag.parameters }

/-- Changes a byte of the wrapped key, if there is one at the index; negative
indices count from the end. -/
def flip (index : Int) (mask : Nat) (bag : Bag) : Bag :=
  let flipped (bytes : Bytes) : Bytes :=
    let place := if index < 0 then index + bytes.length else index
    if place < 0 then bytes else bytes.modify place.toNat fun byte => byte ^^^ UInt8.ofNat mask
  bag.update fun parameters =>
    { parameters with encryptedKey := parameters.encryptedKey.map flipped }

def summary (bag : Bag) : String :=
  if bag.lacksLength then bag.parameters.summaryWith "None" else bag.parameters.summary

end Bag

end Bench

namespace Strategy

def lengthMissing : Failure :=
  .badType "unsupported operand type(s) for %: 'NoneType' and 'int'"

/-- Wraps the key of a bag. A missing key length shows when the suite is to check
it. -/
def encryptBag {Draft : Type} (strategy : Strategy) (bag : Bench.Bag) : Filling Draft Unit :=
  match strategy, bag.lacksLength with
  | enveloping registry, true => do
    let _ ← Filling.ofOperation (Operation.ofExcept (target registry bag.parameters))
    throw lengthMissing
  | _, _ => strategy.encryptInto

/-- The store path that a strategy of a named class has for the parameters of a bag;
a passing one has none. -/
def pathOf (strategy : Strategy) (className : String) (bag : Bench.Bag) : Except Failure Text :=
  match strategy with
  | enveloping _ => keyPath bag.parameters
  | passing => .error (.plugin (.attributeMissing className "resolve_key_path"))

end Strategy

end KeyEnvelope
