import KeyEnvelope.Text.Quoted

/-!
# Hosts in brackets

A host between brackets is an address in colon form, or one of a future kind that
begins with a `v`.
-/

namespace KeyEnvelope.Uri

inductive Fault where
  | brackets
  | futureAddress
  | dottedAddress
  | noAddress (host : Text)
  | lookalikes (authority : Text)

def Fault.message : Fault → String
  | brackets => "Invalid IPv6 URL"
  | futureAddress => "IPvFuture address is invalid"
  | dottedAddress => "An IPv4 address cannot be in brackets"
  | noAddress host => Text.quoted host ++ " does not appear to be an IPv4 or IPv6 address"
  | lookalikes authority =>
    s!"netloc '{authority}' contains invalid characters under NFKC normalization"

namespace Host

def isHexDigit (c : Char) : Bool :=
  (Text.hexValue? c).isSome

/-- A decimal number below 256 without leading zeros. -/
def isOctet (cs : List Char) : Bool :=
  !cs.isEmpty && cs.length ≤ 3 && cs.all Char.isDigit && (cs = ['0'] || cs.head? ≠ some '0')
    && cs.foldl (fun n d => 10 * n + (d.toNat - '0'.toNat)) 0 ≤ 255

def isDotted (cs : List Char) : Bool :=
  let parts := cs.splitOn '.'
  parts.length = 4 && parts.all isOctet

def isGroup (cs : List Char) : Bool :=
  !cs.isEmpty && cs.length ≤ 4 && cs.all isHexDigit

/-- The groups on one side of a gap; there are none if nothing but the end of the
address is there. -/
def groupCount? (parts : List (List Char)) : Option Nat :=
  if parts = [[]] then some 0
  else if parts.all isGroup then some parts.length
  else none

/-- The parts of an address, of which the last one may be dotted and then takes the
place of two groups. -/
def partsOf? (cs : List Char) : Option (List (List Char)) :=
  let parts := cs.splitOn ':'
  let last := parts.getLast?.getD []
  if parts.length < 3 then none
  else if !last.contains '.' then some parts
  else if isDotted last then some (parts.dropLast ++ [['0'], ['0']])
  else none

/-- Eight groups, or less with one gap between two colons. -/
def isColonForm (cs : List Char) : Bool :=
  match partsOf? cs with
  | none => false
  | some parts =>
    let inner := parts.tail.dropLast
    match (inner.filter List.isEmpty).length with
    | 0 => parts.length = 8 && parts.all isGroup
    | 1 =>
      let gap := (inner.takeWhile fun part => !part.isEmpty).length + 1
      match groupCount? (parts.take gap), groupCount? (parts.drop (gap + 1)) with
      | some before, some after => parts.length ≤ 9 && before + after ≤ 7
      | _, _ => false
    | _ => false

/-- An address may name the zone that it belongs to behind a percent sign. -/
def isZoned (cs : List Char) : Bool :=
  match cs.span (· ≠ '%') with
  | (address, []) => isColonForm address
  | (address, _ :: zone) => !zone.isEmpty && !zone.contains '%' && isColonForm address

/-- A `v`, hexadecimal digits, a point, and something more. -/
def isFuture : List Char → Bool
  | 'v' :: rest =>
    match rest.span isHexDigit with
    | (_ :: _, '.' :: _ :: _) => true
    | _ => false
  | _ => false

def check (host : Text) : Except Fault Unit :=
  let cs := host.chars
  if cs.head? = some 'v' then (if isFuture cs then .ok () else .error .futureAddress)
  else if isDotted cs then .error .dottedAddress
  else if isZoned cs then .ok ()
  else .error (.noAddress host)

end Host

end KeyEnvelope.Uri
