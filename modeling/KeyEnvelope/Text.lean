/-!
# Texts

A text is a list of codes. Nearly all of them are characters; an escape may also
write a half of a surrogate pair, which is none. Two halves side by side are shown
as the character that they make up, but they remain two codes wherever texts are
compared, quoted or changed.
-/

namespace KeyEnvelope

inductive Code where
  | char (c : Char)
  | half (number : Nat)
deriving DecidableEq

namespace Code

def isUpperHalf (number : Nat) : Bool :=
  0xd800 ≤ number && number ≤ 0xdbff

def isLowerHalf (number : Nat) : Bool :=
  0xdc00 ≤ number && number ≤ 0xdfff

def ofNumber (number : Nat) : Code :=
  if isUpperHalf number || isLowerHalf number then half number else char (Char.ofNat number)

def number : Code → Nat
  | char c => c.toNat
  | half number => number

/-- The character by itself; a half is replaced by a character of no class. -/
def shown : Code → Char
  | char c => c
  | half _ => '\ufffd'

def joint? : Code → Code → Option Char
  | half upper, half lower =>
    if isUpperHalf upper && isLowerHalf lower then
      some (Char.ofNat (0x10000 + 0x400 * (upper - 0xd800) + (lower - 0xdc00)))
    else none
  | _, _ => none

/-- Maps a character to characters; halves stay as they are. -/
def mapChar (f : Char → List Char) : Code → List Code
  | char c => (f c).map char
  | half number => [half number]

end Code

structure Text where
  codes : List Code
deriving DecidableEq

namespace Text

def ofChars (cs : List Char) : Text :=
  ⟨cs.map .char⟩

def ofString (s : String) : Text :=
  ofChars s.toList

instance : Coe String Text := ⟨ofString⟩

@[simp]
theorem ofString_inj (s t : String) : ofString s = ofString t ↔ s = t := by
  simp only [ofString, ofChars, Text.mk.injEq]
  rw [List.map_inj_right (fun _ _ h => Code.char.inj h), String.toList_inj]

instance : Append Text := ⟨fun a b => ⟨a.codes ++ b.codes⟩⟩

def chars (text : Text) : List Char :=
  text.codes.map Code.shown

def joined : List Code → List Char
  | first :: second :: rest =>
    match first.joint? second with
    | some c => c :: joined rest
    | none => first.shown :: joined (second :: rest)
  | [code] => [code.shown]
  | [] => []

instance : ToString Text := ⟨fun text => .ofList (joined text.codes)⟩

theorem joined_chars : (cs : List Char) → joined (cs.map .char) = cs
  | [] => rfl
  | [_] => rfl
  | c :: d :: rest => by
    have ih := joined_chars (d :: rest)
    simp only [List.map_cons] at ih ⊢
    simp only [joined, Code.joint?, Code.shown, ih]

/-- A text without halves is shown as it is. -/
@[simp]
theorem toString_ofString (s : String) : toString (ofString s) = s := by
  simp [toString, ofString, ofChars, joined_chars]

def isEmpty (text : Text) : Bool :=
  text.codes.isEmpty

/-- What is given with a text that may be absent; an empty one counts as absent. -/
def given? (text : Option Text) : Option Text :=
  text.filter fun text => !text.isEmpty

def startsWith (text lead : Text) : Bool :=
  lead.codes.isPrefixOf text.codes

def splitOn (separator : Char) (text : Text) : List Text :=
  (text.codes.splitOn (.char separator)).map Text.mk

def intercalate (separator : Text) (texts : List Text) : Text :=
  ⟨separator.codes.intercalate (texts.map Text.codes)⟩

/-- Does a list of codes come before another one, or is it the same? Codes are
compared by their numbers. -/
def notAfter : List Code → List Code → Bool
  | [], _ => true
  | _ :: _, [] => false
  | a :: as, b :: bs => a.number < b.number || (a.number == b.number && notAfter as bs)

def atMost (a b : Text) : Bool :=
  notAfter a.codes b.codes

end Text

end KeyEnvelope
