import KeyEnvelope.Calendar

/-!
# Timestamps

A timestamp is a date, or a date with a time of day, a fraction of a second and an
offset from universal time.
-/

namespace KeyEnvelope.Yaml

structure Timestamp where
  year : Nat
  month : Nat
  day : Nat
  /-- Do month and day have two digits each? -/
  isFull : Bool
  time : Option (Nat × Nat × Nat × Nat)
  /-- In minutes. -/
  offset : Option Int

namespace Timestamp

def twoDigits? : List Char → Option (Nat × Nat × List Char)
  | a :: b :: rest =>
    let x := a.toNat - '0'.toNat
    if !a.isDigit then none
    else if b.isDigit then some (10 * x + (b.toNat - '0'.toNat), 2, rest)
    else some (x, 1, b :: rest)
  | [a] => if a.isDigit then some (a.toNat - '0'.toNat, 1, []) else none
  | [] => none

def pair? (cs : List Char) : Option (Nat × List Char) :=
  match twoDigits? cs with
  | some (n, 2, rest) => some (n, rest)
  | _ => none

def skip? (c : Char) : List Char → Option (List Char)
  | d :: rest => if c = d then some rest else none
  | [] => none

def isBlank (c : Char) : Bool :=
  c = ' ' || c = '\t'

/-- The first six digits of a fraction, filled up with zeros. -/
def microseconds (digits : List Char) : Nat :=
  let six := digits.take 6 ++ List.replicate (6 - digits.length) '0'
  six.foldl (fun n d => 10 * n + (d.toNat - '0'.toNat)) 0

def fraction : List Char → Nat × List Char
  | '.' :: rest => (microseconds (rest.takeWhile Char.isDigit), rest.dropWhile Char.isDigit)
  | cs => (0, cs)

/-- The offset at the end of a timestamp; `none` if the text is no offset. -/
def offset? (cs : List Char) : Option (Option Int) :=
  match cs with
  | [] => some none
  | _ =>
    match cs.dropWhile isBlank with
    | ['Z'] => some (some 0)
    | sign :: rest => do
      if sign ≠ '+' ∧ sign ≠ '-' then none
      let (hours, _, rest) ← twoDigits? rest
      let minutes ←
        match rest with
        | [] => some 0
        | ':' :: rest =>
          match pair? rest with
          | some (minutes, []) => some minutes
          | _ => none
        | _ => none
      let amount : Int := 60 * hours + minutes
      return some (if sign = '-' then -amount else amount)
    | [] => none

def gap? : List Char → Option (List Char)
  | c :: rest =>
    if c = 'T' ∨ c = 't' then some rest
    else if isBlank c then some (rest.dropWhile isBlank)
    else none
  | [] => none

def time? (cs : List Char) : Option ((Nat × Nat × Nat × Nat) × Option Int) := do
  let (hour, _, rest) ← twoDigits? (← gap? cs)
  let (minute, rest) ← pair? (← skip? ':' rest)
  let (second, rest) ← pair? (← skip? ':' rest)
  let (micro, rest) := fraction rest
  let offset ← offset? rest
  return ((hour, minute, second, micro), offset)

def read? (cs : List Char) : Option Timestamp := do
  let (century, rest) ← pair? cs
  let (short, rest) ← pair? rest
  let (month, monthDigits, rest) ← twoDigits? (← skip? '-' rest)
  let (day, dayDigits, rest) ← twoDigits? (← skip? '-' rest)
  let isFull := monthDigits = 2 ∧ dayDigits = 2
  let year := 100 * century + short
  if rest.isEmpty then return ⟨year, month, day, isFull, none, none⟩
  let (time, offset) ← time? rest
  return ⟨year, month, day, isFull, some time, offset⟩

def date (stamp : Timestamp) : Calendar.Date :=
  ⟨stamp.year, stamp.month, stamp.day⟩

/-- Does a plain text that reads so look like a timestamp? A date alone has to be
full. -/
def isPlain (stamp : Timestamp) : Bool :=
  stamp.isFull || stamp.time.isSome

end Timestamp

end KeyEnvelope.Yaml
