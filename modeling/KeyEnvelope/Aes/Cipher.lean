import KeyEnvelope.Aes.Rounds

/-!
# The block cipher

A key of 16, 24 or 32 bytes unfolds into a schedule of round keys. Decryption undoes
the rounds in the opposite order, so it inverts encryption whatever the schedule
holds.
-/

namespace KeyEnvelope.Aes

/-- Round keys: one before the first round, one after each full round, one after the
short last round. -/
structure Schedule where
  first : Block
  middle : List Block
  last : Block

namespace Schedule

/-- What is added to the word one key length back: the previous word, stirred at
every key length, and for long keys also substituted half-way. -/
def stir (keyWords index : Nat) (constant : UInt8) (previous : Word) : Word :=
  if index % keyWords = 0 then
    let stirred := Word.map substitute ⟨previous.b1, previous.b2, previous.b3, previous.b0⟩
    { stirred with b0 := stirred.b0 ^^^ constant }
  else if keyWords > 6 ∧ index % keyWords = 4 then previous.map substitute
  else previous

/-- The words after a window of the latest `keyWords` words, oldest first. -/
def extend (keyWords : Nat) : (count index : Nat) → UInt8 → List Word → List Word
  | 0, _, _, _ => []
  | _, _, _, [] => []
  | count + 1, index, constant, oldest :: rest =>
    let previous := rest.getLastD oldest
    let word := oldest.xor (stir keyWords index constant previous)
    let next := if index % keyWords = 0 then double constant else constant
    word :: extend keyWords count (index + 1) next (rest ++ [word])

/-- The schedule of a key; `none` unless the key has 16, 24 or 32 bytes. -/
def ofKey? (key : Bytes) : Option Schedule :=
  if key.length = 16 ∨ key.length = 24 ∨ key.length = 32 then
    match Word.split? key with
    | none => none
    | some words =>
      let keyWords := words.length
      let all := words ++ extend keyWords (4 * (keyWords + 7) - keyWords) keyWords 1 words
      match Block.group all with
      | [] => none
      | first :: rest => some ⟨first, rest.dropLast, rest.getLastD first⟩
  else none

end Schedule

/-- A full round, without the key that precedes it. -/
def round (block key : Block) : Block :=
  ((rotateRows (block.map substitute)).mapColumns mix).xor key

def unround (key block : Block) : Block :=
  (unrotateRows ((block.xor key).mapColumns unmix)).map restore

def encrypt (schedule : Schedule) (block : Block) : Block :=
  let mixed := schedule.middle.foldl round (block.xor schedule.first)
  (rotateRows (mixed.map substitute)).xor schedule.last

def decrypt (schedule : Schedule) (block : Block) : Block :=
  let mixed := (unrotateRows (block.xor schedule.last)).map restore
  (schedule.middle.foldr unround mixed).xor schedule.first

end KeyEnvelope.Aes
