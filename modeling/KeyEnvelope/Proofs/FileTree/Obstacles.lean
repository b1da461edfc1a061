import KeyEnvelope.Proofs.FileTree.Limits
import KeyEnvelope.Proofs.FileTree.Ways

/-!
# What is in the way

Names lead nowhere if they lead on from a file, and nothing can be put where something is. The
errors that say so say it of nothing else.
-/

namespace KeyEnvelope.FileTree

variable {tree : FileTree} {place : Place} {names : List Text} {node : FileNode}

/-- Names that lead on from a file lead nowhere. -/
theorem locateFrom_eq_notDirectory
    (fails : tree.locateFrom place node names = .error .notDirectory) :
    ∃ way rest content mode, names = way ++ rest ∧ rest ≠ [] ∧
      tree.locateFrom place node way = .ok (.file content mode) := by
  induction names generalizing place node with
  | nil => cases node <;> cases fails
  | cons name rest inductionHypothesis =>
    cases node with
    | file content mode => exact ⟨[], name :: rest, content, mode, rfl, by simp, rfl⟩
    | directory =>
      rw [locateFrom] at fails
      split at fails
      · cases fails
      · rename_i short
        cases found : tree.node? (place ++ [name]) with
        | none => simp [found] at fails
        | some next =>
          simp only [found] at fails
          obtain ⟨way, later, content, mode, spelled, beyond, located⟩ :=
            inductionHypothesis fails
          refine ⟨name :: way, later, content, mode, by rw [spelled]; rfl, beyond, ?_⟩
          simpa only [locateFrom, if_neg short, found] using located

theorem reach_of_leads {way : Place} (leads : way <+: place)
    (reach : outOfReach place = false) : outOfReach way = false := by
  obtain ⟨rest, rfl⟩ := leads
  rw [outOfReach_eq_false_iff, wayLength_append] at reach
  rw [outOfReach_eq_false_iff]
  omega

theorem locate_eq_notDirectory_iff (reach : outOfReach place = false) :
    tree.locate place = .error .notDirectory ↔
      ∃ way content mode, way <+: place ∧ way ≠ place ∧
        tree.locate way = .ok (.file content mode) := by
  constructor
  · intro fails
    rw [locate_eq_locateFrom reach] at fails
    obtain ⟨way, rest, content, mode, rfl, beyond, located⟩ := locateFrom_eq_notDirectory fails
    refine ⟨way, content, mode, List.prefix_append _ _, by simpa using beyond, ?_⟩
    rwa [locate_eq_locateFrom (reach_of_leads (List.prefix_append _ _) reach)]
  · rintro ⟨way, content, mode, ⟨rest, rfl⟩, proper, located⟩
    rw [locate_eq_locateFrom reach, locateFrom_append (locateFrom_of_locate located)]
    cases rest with
    | nil => simp at proper
    | cons name rest => rfl

theorem locateFrom_ne_alreadyExists :
    tree.locateFrom place node names ≠ .error .alreadyExists := by
  intro fails
  induction names generalizing place node with
  | nil => cases node <;> cases fails
  | cons name rest inductionHypothesis =>
    cases node with
    | file content mode => cases fails
    | directory =>
      rw [locateFrom] at fails
      split at fails
      · cases fails
      · split at fails
        · cases fails
        · exact inductionHypothesis fails

/-- A place is only said to be taken if something is there. -/
theorem isSome_of_checkVacant (taken : tree.checkVacant place = .error .alreadyExists) :
    (tree.node? place).isSome := by
  unfold checkVacant at taken
  split at taken
  · rename_i root
    rw [List.getLast?_eq_none_iff.mp root]
    rfl
  · split at taken
    · rename_i code located
      split at taken
      · cases taken
      · obtain rfl := Except.error.inj taken
        unfold locate at located
        split at located
        · cases located
        · exact absurd located locateFrom_ne_alreadyExists
    · cases taken
    · split at taken
      · cases taken
      · split at taken
        · assumption
        · cases taken

theorem eq_of_nameFault? {failure : Failure} (fault : nameFault? names = some failure) :
    failure = .notEncodable ∨ failure = .badValue "embedded null byte" := by
  unfold nameFault? at fault
  split at fault
  · exact .inl (Option.some.inj fault).symm
  · split at fault
    · exact .inr (Option.some.inj fault).symm
    · cases fault

end KeyEnvelope.FileTree
