import KeyEnvelope.Text

/-!
# Blanks

The characters that count as white space, and the removal of white space at both
ends of a text.
-/

namespace KeyEnvelope.Text

/-- First and last characters of the ranges of white space, in increasing order. -/
def blankRanges : List (Nat × Nat) :=
  [(0x9, 0xd), (0x1c, 0x20), (0x85, 0x85), (0xa0, 0xa0), (0x1680, 0x1680), (0x2000, 0x200a),
    (0x2028, 0x2029), (0x202f, 0x202f), (0x205f, 0x205f), (0x3000, 0x3000)]

def isBlank (c : Char) : Bool :=
  blankRanges.any fun (first, last) => first ≤ c.toNat && c.toNat ≤ last

def trimWhere {α : Type} (p : α → Bool) (items : List α) : List α :=
  ((items.dropWhile p).reverse.dropWhile p).reverse

def trim (text : Text) : Text :=
  ⟨trimWhere (fun code => isBlank code.shown) text.codes⟩

def isBlankText (text : Text) : Bool :=
  text.chars.all isBlank

end KeyEnvelope.Text
