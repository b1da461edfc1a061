import KeyEnvelope.Aes.Block
import KeyEnvelope.Aes.Substitution

/-!
# The steps of a round

Each step is a bijection on blocks and stands here beside its inverse: substitution
of bytes, rotation of rows and mixing of columns.
-/

namespace KeyEnvelope.Aes

def double (byte : UInt8) : UInt8 :=
  (byte <<< 1) ^^^ (if byte &&& 0x80 = 0 then 0 else 0x1b)

def triple (byte : UInt8) : UInt8 :=
  double byte ^^^ byte

/-- Row `r` of the block moves `r` columns to the left. -/
def rotateRows : Block → Block
  | ⟨⟨c0, c1⟩, ⟨c2, c3⟩⟩ =>
    ⟨⟨⟨c0.b0, c1.b1, c2.b2, c3.b3⟩, ⟨c1.b0, c2.b1, c3.b2, c0.b3⟩⟩,
     ⟨⟨c2.b0, c3.b1, c0.b2, c1.b3⟩, ⟨c3.b0, c0.b1, c1.b2, c2.b3⟩⟩⟩

def unrotateRows : Block → Block
  | ⟨⟨c0, c1⟩, ⟨c2, c3⟩⟩ =>
    ⟨⟨⟨c0.b0, c3.b1, c2.b2, c1.b3⟩, ⟨c1.b0, c0.b1, c3.b2, c2.b3⟩⟩,
     ⟨⟨c2.b0, c1.b1, c0.b2, c3.b3⟩, ⟨c3.b0, c2.b1, c1.b2, c0.b3⟩⟩⟩

/-- Multiplication by the circulant matrix of 2, 3, 1, 1. -/
def mix (w : Word) : Word :=
  ⟨double w.b0 ^^^ triple w.b1 ^^^ w.b2 ^^^ w.b3,
   w.b0 ^^^ double w.b1 ^^^ triple w.b2 ^^^ w.b3,
   w.b0 ^^^ w.b1 ^^^ double w.b2 ^^^ triple w.b3,
   triple w.b0 ^^^ w.b1 ^^^ w.b2 ^^^ double w.b3⟩

/-- Adds four times the sum of the opposite bytes to each byte, which turns the
inverse of `mix` into `mix` itself. -/
def premix (w : Word) : Word :=
  let even := double (double (w.b0 ^^^ w.b2))
  let odd := double (double (w.b1 ^^^ w.b3))
  ⟨w.b0 ^^^ even, w.b1 ^^^ odd, w.b2 ^^^ even, w.b3 ^^^ odd⟩

/-- Multiplication by the circulant matrix of 14, 11, 13, 9. -/
def unmix (w : Word) : Word :=
  mix (premix w)

end KeyEnvelope.Aes
