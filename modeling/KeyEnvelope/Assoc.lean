/-!
# Association lists

Entries stay in the order in which their keys first came. Setting a key again
changes its value and keeps its place.
-/

namespace KeyEnvelope.Assoc

variable {κ α : Type} [DecidableEq κ]

def get? (key : κ) : List (κ × α) → Option α
  | [] => none
  | (k, a) :: rest => if k = key then some a else get? key rest

def set (key : κ) (value : α) : List (κ × α) → List (κ × α)
  | [] => [(key, value)]
  | (k, a) :: rest => if k = key then (k, value) :: rest else (k, a) :: set key value rest

def erase (key : κ) (entries : List (κ × α)) : List (κ × α) :=
  entries.filter fun entry => entry.1 ≠ key

def overlay (entries later : List (κ × α)) : List (κ × α) :=
  later.foldl (fun all entry => set entry.1 entry.2 all) entries

end KeyEnvelope.Assoc
