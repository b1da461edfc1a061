import KeyEnvelope.Text.Blank
import KeyEnvelope.Text.Case

/-!
# Lengths in lower case

A code never vanishes in lower case, and how many codes it becomes does not depend on the
codes around it. So a text with blanks at its ends reads unlike the text without them, in
lower case as well.
-/

namespace KeyEnvelope.Text

namespace Case

theorem mapChar_lower_ne_nil (c : Char) : mapChar lowerShifts lowerExpansions c ≠ [] := by
  have expanded : ∀ expansion ∈ lowerExpansions, expansion.2 ≠ [] := by decide
  unfold mapChar
  split
  · rename_i codes found
    obtain ⟨before, behind, table, -⟩ := List.lookup_eq_some_iff.mp found
    rw [ne_eq, List.map_eq_nil_iff]
    exact expanded _ (table ▸ List.mem_append_right before List.mem_cons_self)
  · split <;> exact List.cons_ne_nil _ _

/-- What a code becomes has one length in every context, even if it is a capital sigma. -/
theorem length_lowerAfter_cons (code : Code) :
    ∃ width, 0 < width ∧ ∀ before rest, (lowerAfter before (code :: rest)).length =
      width + (lowerAfter (code :: before) rest).length := by
  cases code with
  | half number =>
    refine ⟨1, Nat.one_pos, fun before rest => ?_⟩
    rw [lowerAfter, List.length_append, Code.mapChar, List.length_singleton]
  | char c =>
    by_cases sigma : c = capitalSigma
    · refine ⟨1, Nat.one_pos, fun before rest => ?_⟩
      simp only [lowerAfter, Code.mapChar, sigma, if_true, List.length_append, List.length_map]
      split <;> rfl
    · refine ⟨_, List.length_pos_iff.mpr (mapChar_lower_ne_nil c), fun before rest => ?_⟩
      simp only [lowerAfter, Code.mapChar, sigma, if_false, List.length_append, List.length_map]

/-- Of codes that are left out, at least as many are missing in lower case. -/
theorem length_lowerAfter_of_sublist {kept codes : List Code} (sublist : kept.Sublist codes)
    (before before' : List Code) :
    (lowerAfter before kept).length + codes.length ≤
      (lowerAfter before' codes).length + kept.length := by
  induction sublist generalizing before before' with
  | slnil => simp [lowerAfter]
  | cons code _ inductionHypothesis =>
    obtain ⟨width, positive, length⟩ := length_lowerAfter_cons code
    have rest := inductionHypothesis before (code :: before')
    rw [length, List.length_cons]
    omega
  | cons_cons code _ inductionHypothesis =>
    obtain ⟨width, -, length⟩ := length_lowerAfter_cons code
    have rest := inductionHypothesis (code :: before) (code :: before')
    rw [length, length, List.length_cons, List.length_cons]
    omega

end Case

theorem trimWhere_sublist {α : Type} (p : α → Bool) (items : List α) :
    (trimWhere p items).Sublist items := by
  have behind := (List.dropWhile_sublist p (l := (items.dropWhile p).reverse)).reverse
  rw [List.reverse_reverse] at behind
  exact behind.trans (List.dropWhile_sublist p)

theorem lower_trim_ne {text : Text} (padded : text.trim ≠ text) : text.trim.lower ≠ text.lower := by
  have kept : text.trim.codes.Sublist text.codes := trimWhere_sublist _ _
  have shorter : text.trim.codes.length < text.codes.length := by
    refine Nat.lt_of_le_of_ne kept.length_le fun same => padded ?_
    exact congrArg Text.mk (kept.eq_of_length same)
  have lengths := Case.length_lowerAfter_of_sublist kept [] []
  intro same
  have sameLength := congrArg (fun text => text.codes.length) same
  simp only [lower] at sameLength
  omega

end KeyEnvelope.Text
