import KeyEnvelope.Yaml.Cursor

/-!
# Tags

The kinds of nodes. A plain scalar without a tag has the kind that its text looks
like; a line feed at its end is overlooked.
-/

namespace KeyEnvelope.Yaml

inductive Tag where
  | null
  | truth
  | integer
  | real
  | binary
  | timestamp
  | text
  | list
  | mapping
  | omap
  | pairs
  | set
  | merge
  | value
  | unknown
deriving DecidableEq

namespace Tag

def lead : String := "tag:yaml.org,2002:"

def names : List (String × Tag) :=
  [("null", null), ("bool", truth), ("int", integer), ("float", real), ("binary", binary),
    ("timestamp", timestamp), ("str", text), ("seq", list), ("map", mapping), ("omap", omap),
    ("pairs", pairs), ("set", set), ("merge", merge), ("value", value)]

def ofName (name : String) : Tag :=
  ((names.map fun (short, tag) => (lead ++ short, tag)).lookup name).getD unknown

def truthWords : List String :=
  ["yes", "Yes", "YES", "no", "No", "NO", "true", "True", "TRUE", "false", "False", "FALSE",
    "on", "On", "ON", "off", "Off", "OFF"]

def nullWords : List String :=
  ["", "~", "null", "Null", "NULL"]

def dropSign : List Char → List Char
  | '+' :: rest | '-' :: rest => rest
  | cs => cs

def isDigitOr_ (c : Char) : Bool :=
  c.isDigit || c = '_'

/-- Digits after a first one, with underscores among them. -/
def isDigits : List Char → Bool
  | [] => false
  | c :: rest => c.isDigit && rest.all isDigitOr_

/-- Groups behind colons, of one or two digits below sixty. -/
def isSixtieth : List Char → Bool
  | [a] => a.isDigit
  | [a, b] => '0' ≤ a && a ≤ '5' && b.isDigit
  | _ => false

def splitAtColons (cs : List Char) : List (List Char) :=
  cs.splitOn ':'

def isNonEmptyOf (p : Char → Bool) (cs : List Char) : Bool :=
  !cs.isEmpty && cs.all p

def isHexDigit (c : Char) : Bool :=
  c.isDigit || ('a' ≤ c && c ≤ 'f') || ('A' ≤ c && c ≤ 'F')

/-- Digits that begin with no zero, then groups of sixty behind colons. -/
def isSexagesimal : List (List Char) → Bool
  | first :: groups => isDigits first && !groups.isEmpty && groups.all isSixtieth
  | [] => false

def looksInteger (cs : List Char) : Bool :=
  match dropSign cs with
  | ['0'] => true
  | '0' :: 'b' :: rest => isNonEmptyOf (fun c => c = '0' || c = '1' || c = '_') rest
  | '0' :: 'x' :: rest => isNonEmptyOf (fun c => isHexDigit c || c = '_') rest
  | '0' :: rest => isNonEmptyOf (fun c => ('0' ≤ c && c ≤ '7') || c = '_') rest
  | unsigned => isDigits unsigned || isSexagesimal (splitAtColons unsigned)

/-- An exponent with a sign, or nothing. -/
def isExponent : List Char → Bool
  | [] => true
  | e :: sign :: digits =>
    (e = 'e' || e = 'E') && (sign = '+' || sign = '-') && isNonEmptyOf Char.isDigit digits
  | _ => false

/-- What follows the point of a number. -/
def isFraction (cs : List Char) : Bool :=
  isExponent (cs.dropWhile isDigitOr_)

def looksReal (cs : List Char) : Bool :=
  let unsigned := dropSign cs
  let (whole, rest) := unsigned.span (· ≠ '.')
  match rest with
  | [] => false
  | _ :: fraction =>
    (isDigits whole && isFraction fraction)
      || (cs.head? = some '.' && isDigits (fraction.takeWhile isDigitOr_) && isFraction fraction)
      || (isSexagesimal (splitAtColons whole) && fraction.all isDigitOr_)
      || (whole.isEmpty && ["inf", "Inf", "INF"].contains (String.ofList fraction))
      || (cs.head? = some '.' && ["nan", "NaN", "NAN"].contains (String.ofList fraction))

end Tag

end KeyEnvelope.Yaml
