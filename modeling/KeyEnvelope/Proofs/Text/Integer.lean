import KeyEnvelope.Text.Integer
import Mathlib.Data.List.TakeDrop
import Mathlib.Data.List.TakeWhile

/-!
# Texts that are integers

A text is an integer if it is a numeral behind at most one sign, with nothing but blanks around
it. Exactly such texts are read, and as what they stand for. What an integer is written as is such
a text, as long as it does not have too many digits.
-/

namespace KeyEnvelope.Text

/-- The digits of a numeral, most significant first; a single underscore may stand between two. -/
inductive IsNumeral (digit? : Char → Option Nat) : List Char → List Nat → Prop where
  | last {c : Char} {d : Nat} : digit? c = some d → IsNumeral digit? [c] [d]
  | next {c : Char} {d : Nat} {cs : List Char} {ds : List Nat} :
    digit? c = some d → IsNumeral digit? cs ds → IsNumeral digit? (c :: cs) (d :: ds)
  | apart {c : Char} {d : Nat} {cs : List Char} {ds : List Nat} :
    digit? c = some d → IsNumeral digit? cs ds → IsNumeral digit? (c :: '_' :: cs) (d :: ds)

/-- At most one sign; `true` if it is a minus. -/
inductive IsSign : List Char → Bool → Prop where
  | none : IsSign [] false
  | plus : IsSign ['+'] false
  | minus : IsSign ['-'] true

inductive IsInteger (text : Text) : Int → Prop where
  | intro {lead sign numeral trail : List Char} {negative : Bool} {digits : List Nat}
    (split : text.chars = lead ++ (sign ++ (numeral ++ trail)))
    (leadBlank : ∀ c ∈ lead, isNumberBlank c = true) (signs : IsSign sign negative)
    (denotes : IsNumeral digitValue? numeral digits) (short : digits.length ≤ digitLimit)
    (trailBlank : ∀ c ∈ trail, isNumberBlank c = true) :
    IsInteger text (signed negative (ofDigits 10 digits))

/-! ## Kinds of characters -/

theorem digitValue?_eq_none_of_isNumberBlank {c : Char} (blank : isNumberBlank c = true) :
    digitValue? c = none := by
  have apart : ∀ digits ∈ digitRanges, ∀ blanks ∈ blankRanges,
      digits.2 < blanks.1 ∨ blanks.2 < digits.1 := by decide
  have blank : isBlank c = true := (Bool.and_eq_true_iff.mp blank).1
  obtain ⟨blanks, among, within⟩ := List.any_eq_true.mp blank
  rw [digitValue?, Option.map_eq_none_iff, List.find?_eq_none]
  intro digits listed inside
  have := apart digits listed blanks among
  simp only [Bool.and_eq_true, decide_eq_true_eq] at within inside
  omega

theorem isNumberBlank_of_digitValue? {c : Char} {d : Nat} (digit : digitValue? c = some d) :
    isNumberBlank c = false := by
  by_contra blank
  rw [digitValue?_eq_none_of_isNumberBlank (by simpa using blank)] at digit
  cases digit

theorem digitValue?_of_isDigit {c : Char} (digit : c.isDigit = true) :
    digitValue? c = some (c.toNat - '0'.toNat) := by
  have bounds : 0x30 ≤ c.toNat ∧ c.toNat ≤ 0x39 := by
    simpa [Char.isDigit, UInt32.le_iff_toNat_le] using digit
  have first : digitRanges = (0x30, 0x39) :: digitRanges.tail := rfl
  rw [digitValue?, first, List.find?_cons_of_pos (by simpa using bounds)]
  simp only [Option.map_some, Option.some.injEq, Char.reduceToNat]
  omega

/-! ## Numerals -/

section Numerals

variable {digit? : Char → Option Nat} {cs : List Char} {ds : List Nat}

theorem IsNumeral.head (numeral : IsNumeral digit? cs ds) :
    ∃ c d rest, cs = c :: rest ∧ digit? c = some d := by
  cases numeral with
  | last digit => exact ⟨_, _, _, rfl, digit⟩
  | next digit _ => exact ⟨_, _, _, rfl, digit⟩
  | apart digit _ => exact ⟨_, _, _, rfl, digit⟩

theorem IsNumeral.all (numeral : IsNumeral digit? cs ds) :
    ∀ c ∈ cs, c = '_' ∨ (digit? c).isSome = true := by
  induction numeral with
  | last digit => simp [digit]
  | next digit _ inductionHypothesis => simpa [digit] using inductionHypothesis
  | apart digit _ inductionHypothesis => simpa [digit] using inductionHypothesis

theorem isNumeral_of_numeralDigits? (found : numeralDigits? digit? cs = some ds) :
    IsNumeral digit? cs ds := by
  fun_induction numeralDigits? digit? cs generalizing ds with
  | case1 => cases found
  | case2 c =>
    obtain ⟨d, digit, rfl⟩ := Option.map_eq_some_iff.mp found
    exact .last digit
  | case3 c rest inductionHypothesis =>
    simp only [Option.bind_eq_bind, Option.bind_eq_some_iff, Option.pure_def,
      Option.some.injEq] at found
    obtain ⟨d, digit, ds, digits, rfl⟩ := found
    exact .apart digit (inductionHypothesis digits)
  | case4 c rest _ _ inductionHypothesis =>
    simp only [Option.bind_eq_bind, Option.bind_eq_some_iff, Option.pure_def,
      Option.some.injEq] at found
    obtain ⟨d, digit, ds, digits, rfl⟩ := found
    exact .next digit (inductionHypothesis digits)

/-- An underscore that is no digit can only stand between digits. -/
theorem numeralDigits?_of_isNumeral (noDigit : digit? '_' = none)
    (numeral : IsNumeral digit? cs ds) : numeralDigits? digit? cs = some ds := by
  induction numeral with
  | last digit => simp [numeralDigits?, digit]
  | apart digit _ inductionHypothesis => simp [numeralDigits?, digit, inductionHypothesis]
  | next digit numeral inductionHypothesis =>
    obtain ⟨c, d, rest, rfl, also⟩ := numeral.head
    have different : c ≠ '_' := by
      intro same
      rw [same, noDigit] at also
      cases also
    simp [numeralDigits?, digit, inductionHypothesis, different]

end Numerals

/-! ## Reading -/

theorem exists_isSign (cs : List Char) :
    ∃ sign, IsSign sign (splitSign cs).1 ∧ cs = sign ++ (splitSign cs).2 := by
  unfold splitSign
  split
  · exact ⟨['-'], .minus, rfl⟩
  · exact ⟨['+'], .plus, rfl⟩
  · exact ⟨[], .none, rfl⟩

/-- A sign in front of a numeral, or the numeral itself, begins with no blank and is split there. -/
theorem splitSign_append {sign numeral : List Char} {negative : Bool} {digits : List Nat}
    (signs : IsSign sign negative) (denotes : IsNumeral digitValue? numeral digits)
    (trail : List Char) :
    splitSign (sign ++ (numeral ++ trail)) = (negative, numeral ++ trail) ∧
      (sign ++ (numeral ++ trail)).dropWhile isNumberBlank = sign ++ (numeral ++ trail) := by
  obtain ⟨c, d, rest, rfl, digit⟩ := denotes.head
  cases signs with
  | plus => exact ⟨rfl, rfl⟩
  | minus => exact ⟨rfl, rfl⟩
  | none =>
    have signless : c ≠ '-' ∧ c ≠ '+' := by
      constructor
      · intro same
        rw [same] at digit
        cases digit
      · intro same
        rw [same] at digit
        cases digit
    refine ⟨?_, ?_⟩
    · simp [splitSign, signless]
    · rw [List.nil_append, List.cons_append,
        List.dropWhile_cons_of_neg (by simp [isNumberBlank_of_digitValue? digit])]

theorem splitNumeral_append {numeral trail : List Char} {digits : List Nat}
    (denotes : IsNumeral digitValue? numeral digits)
    (blank : ∀ c ∈ trail, isNumberBlank c = true) :
    splitNumeral digitValue? (numeral ++ trail) = (numeral, trail) := by
  have inside : ∀ c ∈ numeral, (decide (c = '_') || (digitValue? c).isSome) = true := by
    simpa using denotes.all
  have outside : trail.takeWhile (fun c => decide (c = '_') || (digitValue? c).isSome) = [] := by
    rw [List.takeWhile_eq_nil_iff]
    intro longer
    have first := blank _ (List.getElem_mem longer)
    have letter : trail[0] ≠ '_' := by
      intro same
      rw [same] at first
      cases first
    simp [letter, digitValue?_eq_none_of_isNumberBlank first]
  have behind : trail.dropWhile (fun c => decide (c = '_') || (digitValue? c).isSome) = trail := by
    have parted := List.takeWhile_append_dropWhile
      (p := fun c => decide (c = '_') || (digitValue? c).isSome) (l := trail)
    rwa [outside, List.nil_append] at parted
  rw [splitNumeral, List.span_eq_takeWhile_dropWhile, List.takeWhile_append_of_pos inside,
    List.dropWhile_append_of_pos inside, outside, behind, List.append_nil]

theorem append_splitNumeral (digit? : Char → Option Nat) (cs : List Char) :
    (splitNumeral digit? cs).1 ++ (splitNumeral digit? cs).2 = cs := by
  rw [splitNumeral, List.span_eq_takeWhile_dropWhile]
  exact List.takeWhile_append_dropWhile

/-- Integers are exactly what is read, and are read as what they stand for. -/
theorem readInteger_eq_ok_iff {text : Text} {n : Int} :
    readInteger text = .ok n ↔ text.IsInteger n := by
  constructor
  · intro found
    obtain ⟨sign, signs, unsigned⟩ := exists_isSign (text.chars.dropWhile isNumberBlank)
    have parted := append_splitNumeral digitValue?
      (splitSign (text.chars.dropWhile isNumberBlank)).2
    have split := (List.takeWhile_append_dropWhile (p := isNumberBlank) (l := text.chars)).symm
    rw [unsigned, ← parted] at split
    rw [readInteger] at found
    dsimp only at found
    generalize splitSign (text.chars.dropWhile isNumberBlank) = signed at *
    generalize splitNumeral digitValue? signed.2 = numeral at *
    cases digits : numeralDigits? digitValue? numeral.1 with
    | none => simp [digits] at found
    | some ds =>
      simp only [digits] at found
      split at found
      · cases found
      rename_i short
      split at found
      · rename_i trailBlank
        obtain rfl := Except.ok.inj found
        exact .intro split (fun c => List.mem_takeWhile_imp) signs
          (isNumeral_of_numeralDigits? digits) (Nat.not_lt.mp short) (List.all_eq_true.mp trailBlank)
      · cases found
  · rintro ⟨split, leadBlank, signs, denotes, short, trailBlank⟩
    obtain ⟨signed, unblank⟩ := splitSign_append signs denotes _
    rw [readInteger, split, List.dropWhile_append_of_pos leadBlank, unblank, signed]
    simp only [splitNumeral_append denotes trailBlank]
    rw [numeralDigits?_of_isNumeral (by decide) denotes]
    simp only [if_neg (Nat.not_lt.mpr short), List.all_eq_true.mpr trailBlank, if_true]

/-! ## Writing -/

theorem isNumeral_of_digits {cs : List Char} (digits : ∀ c ∈ cs, c.isDigit = true)
    (nonempty : cs ≠ []) :
    IsNumeral digitValue? cs (cs.map fun c => c.toNat - '0'.toNat) := by
  induction cs with
  | nil => exact absurd rfl nonempty
  | cons c rest inductionHypothesis =>
    have digit := digitValue?_of_isDigit (digits c List.mem_cons_self)
    cases rest with
    | nil => exact .last digit
    | cons next others =>
      exact .next digit
        (inductionHypothesis (fun c among => digits c (List.mem_cons_of_mem _ among))
          (List.cons_ne_nil _ _))

theorem ofDigits_map_toDigits (n : Nat) :
    ofDigits 10 ((Nat.toDigits 10 n).map fun c => c.toNat - '0'.toNat) = n := by
  rw [ofDigits, List.foldl_map, ← Nat.ofDigitChars_eq_foldl]
  exact Nat.ofDigitChars_ten_toDigits

theorem chars_ofString (s : String) : (ofString s).chars = s.toList := by
  rw [chars, ofString, ofChars, List.map_map]
  exact List.map_id s.toList

/-- The sign of an integer, and the digits behind it. -/
theorem exists_isSign_toString (n : Int) :
    ∃ sign negative, IsSign sign negative ∧ n = signed negative n.natAbs ∧
      (toString n).toList = sign ++ Nat.toDigits 10 n.natAbs := by
  rw [Int.toString_eq_repr, Int.repr_eq_if]
  split
  · have same : n.toNat = n.natAbs := by omega
    refine ⟨[], false, .none, ?_, ?_⟩
    · simp only [signed, Bool.false_eq_true, if_false]
      omega
    · rw [Nat.toList_repr, same, List.nil_append]
  · have same : (-n).toNat = n.natAbs := by omega
    refine ⟨['-'], true, .minus, ?_, ?_⟩
    · simp only [signed, if_true]
      omega
    · rw [String.toList_append, Nat.toList_repr, same]
      rfl

/-- What an integer is written as is that integer. -/
theorem isInteger_of_writeInteger? {n : Int} {written : String}
    (shown : writeInteger? n = some written) : (written : Text).IsInteger n := by
  unfold writeInteger? at shown
  split at shown
  · rename_i small
    obtain rfl := Option.some.inj shown
    have short : (Nat.toDigits 10 n.natAbs).length ≤ digitLimit := by
      have positive : 0 < digitLimit := by decide
      generalize digitLimit = limit at small positive ⊢
      exact (Nat.length_toDigits_le_iff (by decide) positive).mpr small
    have denotes := isNumeral_of_digits
      (fun c among => Nat.isDigit_of_mem_toDigits (by decide) (by decide) among)
      (Nat.toDigits_ne_nil (n := n.natAbs) (b := 10))
    obtain ⟨sign, negative, signs, value, spelled⟩ := exists_isSign_toString n
    have split : (ofString (toString n)).chars =
        [] ++ (sign ++ (Nat.toDigits 10 n.natAbs ++ [])) := by
      rw [chars_ofString, spelled, List.append_nil, List.nil_append]
    have integer := IsInteger.intro split (by simp) signs denotes (by simpa using short) (by simp)
    rwa [ofDigits_map_toDigits, ← value] at integer
  · cases shown

end KeyEnvelope.Text
