import KeyEnvelope.Text.Blank
import KeyEnvelope.Text.Digit
import KeyEnvelope.Text.Integer

/-!
# Reading real numbers

A real number has an optional sign, decimal digits with at most one point among
them, and an optional exponent; single underscores may stand between digits. The
words for infinity and for no number are read too.
-/

namespace KeyEnvelope.Decimal

open Text (digitValue? isNumberBlank trimWhere splitSign ofDigits)

/-- The digits that continue a number, with single underscores before digits, and
the rest of the text. -/
def moreDigits : List Char → List Nat × List Char
  | [] => ([], [])
  | '_' :: c :: rest =>
    match digitValue? c with
    | none => ([], '_' :: c :: rest)
    | some d => (moreDigits rest).map (d :: ·) id
  | c :: rest =>
    match digitValue? c with
    | none => ([], c :: rest)
    | some d => (moreDigits rest).map (d :: ·) id

def takeDigits : List Char → List Nat × List Char
  | '_' :: rest => ([], '_' :: rest)
  | cs => moreDigits cs

/-- The exponent that ends a number; zero if there is none. -/
def exponent? : List Char → Option Int
  | [] => some 0
  | c :: rest =>
    if c = 'e' ∨ c = 'E' then
      let (negative, cs) := splitSign rest
      match takeDigits cs with
      | ([], _) | (_, _ :: _) => none
      | (ds, []) => some (Text.signed negative (ofDigits 10 ds))
    else none

/-- Beyond these places every number rounds to zero or to infinity. -/
def placeLimit : Int := 400

def ofDecimal (digits : List Nat) (place : Int) : Float :=
  let significant := digits.dropWhile (· = 0)
  let leading := place + significant.length
  if significant.isEmpty ∨ leading < -placeLimit then 0
  else if placeLimit < leading then 1 / 0
  else Float.ofScientific (ofDigits 10 significant) (place < 0) place.natAbs

def magnitude? (cs : List Char) : Option Float :=
  let word := (String.ofList cs).toLower
  if word = "inf" ∨ word = "infinity" then some (1 / 0)
  else if word = "nan" then some (0 / 0)
  else
    let (whole, rest) := takeDigits cs
    let (fraction, rest) :=
      match rest with
      | '.' :: rest => takeDigits rest
      | rest => ([], rest)
    if whole.isEmpty ∧ fraction.isEmpty then none
    else (exponent? rest).map fun exponent =>
      ofDecimal (whole ++ fraction) (exponent - fraction.length)

def read? (text : Text) : Option Float :=
  let (negative, cs) := splitSign (trimWhere isNumberBlank text.chars)
  (magnitude? cs).map fun x => if negative then -x else x

end KeyEnvelope.Decimal
