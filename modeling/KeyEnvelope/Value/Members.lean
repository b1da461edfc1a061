import KeyEnvelope.Value

/-!
# Members of sets

Sets of numbers and empty texts show their members in the order of their slots in a
table with open addressing: each member is put into the first free slot on the trail
that its hash begins. Other sets show their members as they were given.
-/

namespace KeyEnvelope.Value

/-- Numbers are hashed by their residue modulo this prime, 2⁶¹ - 1. -/
def hashModulus : Nat := 2305843009213693951

/-- The binary digits of the modulus; so many doublings change no residue. -/
def hashBits : Nat := 61

def signedHash (negative : Bool) (residue : Nat) : Int :=
  if !negative then residue else if residue = 1 then -2 else -residue

def realHash? : Decimal.Parts → Option Int
  | .notANumber => none
  | .infinite negative => some (if negative then -314159 else 314159)
  | .zero _ => some 0
  | .finite negative magnitude =>
    let doublings := (magnitude.exponent.emod hashBits).toNat
    some (signedHash negative (magnitude.significand * Nat.pow 2 doublings % hashModulus))

def hash? : Value → Option Int
  | text ⟨[]⟩ | bytes [] => some 0
  | real x => realHash? (.ofBits x.toBits)
  | value => value.integer?.map fun n => signedHash (n < 0) (n.natAbs % hashModulus)

/-- The number of slots for so many members, a power of two. -/
def slotCount (members : Nat) : Nat :=
  if members < 5 then 8
  else (List.range members).foldl (fun size _ => if size ≤ 2 * members then 2 * size else size) 8

/-- How many slots beside the first one are tried at once, where the table has that
many. -/
def neighbours : Nat := 9

/-- The first free slot on a trail; `spread` are the bits of the hash that still
bend the trail. -/
def freeSlot? (slots : Array (Option Value)) : (fuel : Nat) → (slot spread : Nat) → Option Nat
  | 0, _, _ => none
  | fuel + 1, slot, spread =>
    let width := if slot + neighbours < slots.size then neighbours + 1 else 1
    match (List.range width).find? fun offset => (slots.getD (slot + offset) none).isNone with
    | some offset => some (slot + offset)
    | none => freeSlot? slots fuel ((5 * slot + 1 + spread / 32) % slots.size) (spread / 32)

def fillSlot (slots : Array (Option Value)) (member : Value) (hash : Int) : Array (Option Value) :=
  let bits := (hash.emod (Nat.pow 2 64 : Nat)).toNat
  match freeSlot? slots (slots.size + 14) (bits % slots.size) bits with
  | some slot => slots.setIfInBounds slot (some member)
  | none => slots

/-- The set of members that all differ. -/
def ofMembers (members : List Value) : Value :=
  match members.mapM hash? with
  | none => set members
  | some hashes =>
    let empty := Array.replicate (slotCount members.length) none
    let slots :=
      (members.zip hashes).foldl (fun slots (member, hash) => fillSlot slots member hash) empty
    set slots.toList.reduceOption

end KeyEnvelope.Value
