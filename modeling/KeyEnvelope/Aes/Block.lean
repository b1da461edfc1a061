import KeyEnvelope.Bytes

/-!
# Words, halves and blocks

A block is sixteen bytes, seen as four columns of one word each. Its two halves are
the units that key wrapping moves about.
-/

namespace KeyEnvelope.Aes

structure Word where
  b0 : UInt8
  b1 : UInt8
  b2 : UInt8
  b3 : UInt8
deriving DecidableEq

/-- Sixty-four bits: two columns of a block. -/
structure Half where
  left : Word
  right : Word
deriving DecidableEq

structure Block where
  upper : Half
  lower : Half
deriving DecidableEq

namespace Word

def xor (v w : Word) : Word :=
  ⟨v.b0 ^^^ w.b0, v.b1 ^^^ w.b1, v.b2 ^^^ w.b2, v.b3 ^^^ w.b3⟩

def map (f : UInt8 → UInt8) (w : Word) : Word :=
  ⟨f w.b0, f w.b1, f w.b2, f w.b3⟩

def toBytes (w : Word) : Bytes :=
  [w.b0, w.b1, w.b2, w.b3]

def split? : Bytes → Option (List Word)
  | [] => some []
  | b0 :: b1 :: b2 :: b3 :: rest => (split? rest).map (⟨b0, b1, b2, b3⟩ :: ·)
  | _ => none

end Word

namespace Half

def xor (g h : Half) : Half :=
  ⟨g.left.xor h.left, g.right.xor h.right⟩

def map (f : UInt8 → UInt8) (h : Half) : Half :=
  ⟨h.left.map f, h.right.map f⟩

def toBytes (h : Half) : Bytes :=
  h.left.toBytes ++ h.right.toBytes

def pair? : List Word → Option (List Half)
  | [] => some []
  | left :: right :: rest => (pair? rest).map (⟨left, right⟩ :: ·)
  | [_] => none

def split? (bytes : Bytes) : Option (List Half) :=
  (Word.split? bytes).bind pair?

def join (halves : List Half) : Bytes :=
  halves.flatMap toBytes

def wordOfNat (n : Nat) : Word :=
  ⟨.ofNat (n / 0x1000000), .ofNat (n / 0x10000), .ofNat (n / 0x100), .ofNat n⟩

def ofNat (n : Nat) : Half :=
  ⟨wordOfNat (n / 0x100000000), wordOfNat n⟩

end Half

namespace Block

def xor (a b : Block) : Block :=
  ⟨a.upper.xor b.upper, a.lower.xor b.lower⟩

def map (f : UInt8 → UInt8) (b : Block) : Block :=
  ⟨b.upper.map f, b.lower.map f⟩

def mapColumns (f : Word → Word) (b : Block) : Block :=
  ⟨⟨f b.upper.left, f b.upper.right⟩, ⟨f b.lower.left, f b.lower.right⟩⟩

/-- Groups words into blocks; words that do not fill a block are dropped. -/
def group : List Word → List Block
  | a :: b :: c :: d :: rest => ⟨⟨a, b⟩, ⟨c, d⟩⟩ :: group rest
  | _ => []

end Block

end KeyEnvelope.Aes
