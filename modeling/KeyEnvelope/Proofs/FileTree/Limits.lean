import Mathlib.Data.List.Basic
import KeyEnvelope.FileTree

/-!
# Names and places that the system takes

The system takes names whose codes it has bytes for, up to a number of bytes for each name and
for all names on the way to a place together.
-/

namespace KeyEnvelope.FileTree

/-- There are bytes for the name, and none of them is zero. -/
def IsNameable (name : Text) : Prop :=
  ∀ code ∈ name.codes, isEncodable code = true ∧ code ≠ .char '\x00'

instance (name : Text) : Decidable (IsNameable name) :=
  inferInstanceAs (Decidable (∀ code ∈ name.codes, _ ∧ _))

theorem nameFault?_eq_none {names : List Text} (nameable : ∀ name ∈ names, IsNameable name) :
    nameFault? names = none := by
  have encodable : names.all (fun name => name.codes.all isEncodable) = true := by
    simp only [List.all_eq_true]
    exact fun name among code present => (nameable name among code present).1
  have nonzero : names.any (fun name => name.codes.contains (.char '\x00')) = false := by
    simp only [List.any_eq_false, List.contains_eq_mem, decide_eq_true_eq]
    exact fun name among present => (nameable name among _ present).2 rfl
  simp only [nameFault?, encodable, nonzero, Bool.not_true, Bool.false_eq_true, if_false]

theorem checkNames_eq_ok {names : List Text} (nameable : ∀ name ∈ names, IsNameable name) :
    checkNames names = .ok () := by
  rw [checkNames, nameFault?_eq_none nameable]

/-- How many bytes the system has for a code. -/
def codeSize : Code → Nat
  | .char c => c.utf8Size
  | .half _ => 1

theorem byteSize_eq_foldl (text : Text) :
    byteSize text = text.codes.foldl (fun size code => size + codeSize code) 0 := by
  unfold byteSize
  refine congrArg (fun step => text.codes.foldl step 0) (funext fun size => funext fun code => ?_)
  cases code <;> rfl

theorem byteSize_cons (code : Code) (codes : List Code) :
    byteSize ⟨code :: codes⟩ = codeSize code + byteSize ⟨codes⟩ := by
  have start (codes : List Code) (size : Nat) :
      codes.foldl (fun size code => size + codeSize code) size =
        size + codes.foldl (fun size code => size + codeSize code) 0 := by
    induction codes generalizing size with
    | nil => rfl
    | cons code rest inductionHypothesis =>
      rw [List.foldl_cons, List.foldl_cons, inductionHypothesis, inductionHypothesis (0 + _)]
      omega
  rw [byteSize_eq_foldl, byteSize_eq_foldl, List.foldl_cons, start, Nat.zero_add]

theorem byteSize_append (text other : Text) :
    byteSize (text ++ other) = byteSize text + byteSize other := by
  obtain ⟨codes⟩ := text
  induction codes with
  | nil => exact (Nat.zero_add _).symm
  | cons code rest inductionHypothesis =>
    have split : (⟨code :: rest⟩ ++ other : Text) = ⟨code :: (⟨rest⟩ ++ other : Text).codes⟩ := rfl
    rw [split, byteSize_cons, byteSize_cons, inductionHypothesis, Nat.add_assoc]

/-- The bytes of all names on the way to a place, with a slash for each. -/
def wayLength : Place → Nat
  | [] => 0
  | name :: rest => byteSize name + 1 + wayLength rest

theorem wayLength_append (place other : Place) :
    wayLength (place ++ other) = wayLength place + wayLength other := by
  induction place with
  | nil => exact (Nat.zero_add _).symm
  | cons name rest inductionHypothesis =>
    rw [List.cons_append, wayLength, inductionHypothesis, wayLength, ← Nat.add_assoc]

theorem wayLength_dropLast_le (place : Place) : wayLength place.dropLast ≤ wayLength place := by
  rcases List.eq_nil_or_concat' place with rfl | ⟨init, last, rfl⟩
  · exact Nat.le_refl _
  · rw [List.dropLast_concat, wayLength_append]
    omega

theorem byteSize_intercalate {place : Place} (nonempty : place ≠ []) :
    byteSize (Text.intercalate "/" place) + 1 = wayLength place := by
  induction place with
  | nil => exact absurd rfl nonempty
  | cons name rest inductionHypothesis =>
    cases rest with
    | nil =>
      have alone : Text.intercalate "/" [name] = name := congrArg Text.mk (List.append_nil _)
      rw [alone]
      rfl
    | cons next others =>
      have split : Text.intercalate "/" (name :: next :: others) =
          name ++ ("/" ++ Text.intercalate "/" (next :: others)) := rfl
      have slash : byteSize "/" = 1 := by decide
      rw [split, byteSize_append, byteSize_append, wayLength,
        ← inductionHypothesis (List.cons_ne_nil _ _), slash]
      omega

theorem outOfReach_eq_false_iff {place : Place} :
    outOfReach place = false ↔ wayLength place ≤ wayLimit + 1 := by
  simp only [outOfReach, decide_eq_false_iff_not, Nat.not_lt]
  by_cases root : place = []
  · subst root
    decide
  · have size := byteSize_intercalate root
    omega

end KeyEnvelope.FileTree
