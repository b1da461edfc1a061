import KeyEnvelope.Text.Blank
import Mathlib.Data.List.TakeWhile

/-!
# Order and blanks of texts

Texts can be put in order, because one of two texts always comes before the other one or
is the same. In a list that is in order, repetitions stand side by side; without them it
increases. Of a blank text nothing is left when it is trimmed.
-/

namespace KeyEnvelope.Text

theorem notAfter_cons_iff {a b : Code} {as bs : List Code} :
    notAfter (a :: as) (b :: bs) = true ↔
      a.number < b.number ∨ a.number = b.number ∧ notAfter as bs = true := by
  simp [notAfter]

theorem notAfter_total (as bs : List Code) : notAfter as bs = true ∨ notAfter bs as = true := by
  induction as generalizing bs with
  | nil => exact .inl rfl
  | cons a as inductionHypothesis =>
    cases bs with
    | nil => exact .inr rfl
    | cons b bs =>
      rw [notAfter_cons_iff, notAfter_cons_iff]
      have rest := inductionHypothesis bs
      rcases Nat.lt_trichotomy a.number b.number with less | same | greater
      · exact .inl (.inl less)
      · exact rest.imp (fun first => .inr ⟨same, first⟩) (fun second => .inr ⟨same.symm, second⟩)
      · exact .inr (.inl greater)

theorem notAfter_trans {as bs cs : List Code} (first : notAfter as bs = true)
    (second : notAfter bs cs = true) : notAfter as cs = true := by
  induction as generalizing bs cs with
  | nil => rfl
  | cons a as inductionHypothesis =>
    cases bs with
    | nil => cases first
    | cons b bs =>
      cases cs with
      | nil => cases second
      | cons c cs =>
        rw [notAfter_cons_iff] at first second ⊢
        rcases first with less | ⟨same, first⟩
        · exact .inl (by omega)
        · rcases second with less | ⟨alike, second⟩
          · exact .inl (by omega)
          · exact .inr ⟨same.trans alike, inductionHypothesis first second⟩

/-- Without its repetitions, a list in order increases. -/
theorem increasing_eraseDups (texts : List Text)
    (sorted : texts.Pairwise fun a b => a.atMost b = true) :
    texts.eraseDups.Pairwise fun a b => a.atMost b = true ∧ a ≠ b := by
  match texts with
  | [] => exact List.Pairwise.nil
  | text :: rest =>
    obtain ⟨before, sorted⟩ := List.pairwise_cons.mp sorted
    rw [List.eraseDups_cons]
    refine List.Pairwise.cons ?_ (increasing_eraseDups _ (sorted.filter _))
    intro other among
    obtain ⟨later, different⟩ := List.mem_filter.mp (List.mem_eraseDups.mp among)
    refine ⟨before other later, ?_⟩
    rintro rfl
    simp at different
termination_by texts.length
decreasing_by
  exact Nat.lt_succ_of_le (List.length_filter_le _ _)

theorem increasing_of_mergeSort (texts : List Text) :
    (texts.mergeSort atMost).eraseDups.Pairwise fun a b => a.atMost b = true ∧ a ≠ b := by
  apply increasing_eraseDups
  apply List.pairwise_mergeSort
  · exact fun a b c => notAfter_trans
  · intro a b
    rw [Bool.or_eq_true]
    exact notAfter_total a.codes b.codes

theorem trim_of_isBlankText {text : Text} (blank : text.isBlankText = true) : text.trim = "" := by
  have none : text.codes.dropWhile (fun code => isBlank code.shown) = [] := by
    simpa [isBlankText, chars] using blank
  rw [trim, trimWhere, none]
  rfl

theorem startsWith_slash_iff {text : Text} :
    text.startsWith "/" = true ↔ ∃ rest, text = ⟨.char '/' :: rest⟩ := by
  obtain ⟨codes⟩ := text
  change [Code.char '/'].isPrefixOf codes = true ↔ _
  rw [List.isPrefixOf_iff_prefix]
  constructor
  · intro ⟨rest, split⟩
    exact ⟨rest, congrArg Text.mk split.symm⟩
  · intro ⟨rest, split⟩
    exact ⟨rest, (Text.mk.inj split).symm⟩

end KeyEnvelope.Text
