import KeyEnvelope.KeyWrap.Mode
import KeyEnvelope.Text

/-!
# Cipher suites

A suite gives one of the two wrap modes a name, further labels, and the lengths of
the key encryption keys it is used with. The lengths are free; that the cipher takes
others than its own is not implied.
-/

namespace KeyEnvelope.KeyWrap

structure Suite where
  name : Text
  mode : Mode
  aliases : List Text
  /-- Lengths in bytes. -/
  kekLengths : List Int
deriving DecidableEq

namespace Suite

def aesWrap : Suite :=
  ⟨"AESWrap", .plain, ["AES/KW/NoPadding", "RFC3394"], [16, 24, 32]⟩

def aesWrapPad : Suite :=
  ⟨"AESWrapPad", .padded, ["AES/KWP/NoPadding", "RFC5649"], [16, 24, 32]⟩

def builtIn : List Suite :=
  [aesWrap, aesWrapPad]

def labels (suite : Suite) : List Text :=
  suite.name :: suite.aliases

def admitsKekBits (suite : Suite) (bits : Int) : Bool :=
  bits % 8 == 0 && suite.kekLengths.contains (bits / 8)

def sortedKekLengths (suite : Suite) : List Int :=
  (suite.kekLengths.mergeSort fun a b => decide (a ≤ b)).eraseDups

end Suite

end KeyEnvelope.KeyWrap
