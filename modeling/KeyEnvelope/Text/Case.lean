import KeyEnvelope.Text
import KeyEnvelope.Text.Case.Tables

/-!
# Case mappings

Full mappings of texts to lower and to upper case. A mapping may lengthen a text.
Only one letter looks at its context: a capital sigma at the end of a word has a
lower case of its own.
-/

namespace KeyEnvelope.Text

namespace Case

def inRanges (ranges : List (Nat × Nat)) (c : Char) : Bool :=
  ranges.any fun (first, last) => first ≤ c.toNat && c.toNat ≤ last

def Shift.covers (s : Shift) (code : Nat) : Bool :=
  s.first ≤ code && code ≤ s.last && (code - s.first) % s.stride == 0

/-- Maps one character by a table of shifts and a table of expansions. -/
def mapChar (shifts : List Shift) (expansions : List (Nat × List Nat)) (c : Char) : List Char :=
  match expansions.lookup c.toNat with
  | some codes => codes.map Char.ofNat
  | none =>
    match shifts.find? fun s => s.covers c.toNat with
    | some s => [Char.ofNat (c.toNat + s.shift).toNat]
    | none => [c]

def capitalSigma : Char := 'Σ'

/-- Does a letter with case come next, after characters that are skipped over? -/
def meetsCased (codes : List Code) : Bool :=
  match codes.dropWhile fun code => inRanges ignorableRanges code.shown with
  | [] => false
  | code :: _ => inRanges casedRanges code.shown

/-- Lower case of a text, given the codes before it, nearest first. -/
def lowerAfter : (before : List Code) → List Code → List Code
  | _, [] => []
  | before, code :: rest =>
    let lower (c : Char) : List Char :=
      if c = capitalSigma then
        if meetsCased before && !meetsCased rest then ['ς'] else ['σ']
      else mapChar lowerShifts lowerExpansions c
    code.mapChar lower ++ lowerAfter (code :: before) rest

end Case

def lower (text : Text) : Text :=
  ⟨Case.lowerAfter [] text.codes⟩

def upper (text : Text) : Text :=
  ⟨text.codes.flatMap (Code.mapChar (Case.mapChar Case.upperShifts Case.upperExpansions))⟩

end KeyEnvelope.Text
