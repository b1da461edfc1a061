import KeyEnvelope.Text.Blank
import KeyEnvelope.Text.Digit

/-!
# Integers as texts

An integer is written with a minus sign if it is negative, and decimal digits
without leading zeros. It is read more liberally: white space around it, one sign,
digits of any script, single underscores between digits. Long digit strings are
refused in both directions.
-/

namespace KeyEnvelope.Text

/-- The most decimal digits that are read or written. -/
def digitLimit : Nat := 4300

/-- White space that may surround a number: the separators of records and fields do
not count. -/
def isNumberBlank (c : Char) : Bool :=
  isBlank c && !(0x1c ≤ c.toNat && c.toNat ≤ 0x1f)

/-- The digits of a numeral, most significant first, in which single underscores may
stand between digits. -/
def numeralDigits? (digit? : Char → Option Nat) : List Char → Option (List Nat)
  | [] => none
  | [c] => (digit? c).map fun d => [d]
  | c :: '_' :: rest => do
    let d ← digit? c
    let ds ← numeralDigits? digit? rest
    return d :: ds
  | c :: rest => do
    let d ← digit? c
    let ds ← numeralDigits? digit? rest
    return d :: ds

def ofDigits (base : Nat) (digits : List Nat) : Nat :=
  digits.foldl (fun n d => base * n + d) 0

/-- Splits off a sign; `true` if it is a minus. -/
def splitSign : List Char → Bool × List Char
  | '-' :: rest => (true, rest)
  | '+' :: rest => (false, rest)
  | cs => (false, cs)

def signed (negative : Bool) (n : Nat) : Int :=
  if negative then -n else n

inductive IntegerFault where
  | notInteger
  | tooLong (digits : Nat)

def tooLongMessage (digits : Nat) : String :=
  s!"Exceeds the limit ({digitLimit} digits) for integer string conversion: value has {digits} digits; "
    ++ "use sys.set_int_max_str_digits() to increase the limit"

/-- The digits and underscores that a text begins with, and what follows them. -/
def splitNumeral (digit? : Char → Option Nat) (cs : List Char) : List Char × List Char :=
  cs.span fun c => c = '_' || (digit? c).isSome

/-- A numeral that is too long is refused before anything is said about what follows
it. -/
def readInteger (text : Text) : Except IntegerFault Int :=
  let (negative, cs) := splitSign (text.chars.dropWhile isNumberBlank)
  let (numeral, rest) := splitNumeral digitValue? cs
  match numeralDigits? digitValue? numeral with
  | none => .error .notInteger
  | some digits =>
    if digits.length > digitLimit then .error (.tooLong digits.length)
    else if rest.all isNumberBlank then .ok (signed negative (ofDigits 10 digits))
    else .error .notInteger

/-- The value of an ASCII digit or letter as a digit below `base`. -/
def baseDigit? (base : Nat) (c : Char) : Option Nat :=
  let value :=
    if c.isDigit then c.toNat - '0'.toNat
    else if 'a' ≤ c ∧ c ≤ 'z' then c.toNat - 'a'.toNat + 10
    else if 'A' ≤ c ∧ c ≤ 'Z' then c.toNat - 'A'.toNat + 10
    else base
  if value < base then some value else none

/-- The letters that announce a base behind a zero. -/
def baseMarks (base : Nat) : List Char :=
  if base = 2 then ['b', 'B'] else if base = 8 then ['o', 'O'] else ['x', 'X']

/-- Drops a zero of any script with the mark of a base, and an underscore behind
them. -/
def dropBaseMark (base : Nat) : List Char → List Char
  | zero :: mark :: rest =>
    if digitValue? zero = some 0 ∧ mark ∈ baseMarks base then
      match rest with
      | '_' :: rest => rest
      | rest => rest
    else zero :: mark :: rest
  | cs => cs

/-- Reads an integer in base 2, 8 or 16, whose digits may have any script's shape up
to nine. -/
def readIntegerIn (base : Nat) (text : Text) : Except IntegerFault Int :=
  let (negative, cs) := splitSign (trimWhere isNumberBlank text.chars)
  let digit? c := (digitValue? c).filter (· < base) <|> baseDigit? base c
  match numeralDigits? digit? (dropBaseMark base cs) with
  | none => .error .notInteger
  | some digits => .ok (signed negative (ofDigits base digits))

def writeInteger? (n : Int) : Option String :=
  if n.natAbs < Nat.pow 10 digitLimit then some (toString n) else none

end KeyEnvelope.Text
