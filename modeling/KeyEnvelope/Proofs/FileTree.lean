import KeyEnvelope.FileTree
import KeyEnvelope.Proofs.Assoc

/-!
# File trees that grow

A tree that still has every node of an earlier one leads to the same nodes by the
same names. Directories are made only where there is nothing, so making them takes
no node away.
-/

namespace KeyEnvelope.FileTree

variable {before tree : FileTree} {place other : Place} {node : FileNode}

/-- Every node of the first tree is in the second one, at the same place and with
the same content. -/
def Within (before tree : FileTree) : Prop :=
  ∀ place node, before.node? place = some node → tree.node? place = some node

theorem Within.refl (tree : FileTree) : tree.Within tree := fun _ _ => id

theorem Within.absent (within : before.Within tree) (absent : tree.node? place = none) :
    before.node? place = none := by
  cases found : before.node? place with
  | none => rfl
  | some node => simp [within place node found] at absent

theorem node?_put_of_ne (different : other ≠ place) :
    (tree.put place node).node? other = tree.node? other := by
  simp only [node?, put, Assoc.get?_set_of_ne different]

theorem node?_remove_of_ne (different : other ≠ place) :
    (tree.remove place).node? other = tree.node? other := by
  simp only [node?, remove, Assoc.get?_erase_of_ne different]

theorem node?_put_self (named : place ≠ []) : (tree.put place node).node? place = some node := by
  simp [node?, put, named]

theorem node?_remove_self (named : place ≠ []) : (tree.remove place).node? place = none := by
  simp [node?, remove, named]

theorem ne_of_absent (absent : before.node? place = none)
    (present : before.node? other = some node) :
    other ≠ place := by
  rintro rfl
  simp [absent] at present

theorem Within.put (within : before.Within tree) (absent : before.node? place = none)
    (node : FileNode) :
    before.Within (tree.put place node) := by
  intro other found present
  rw [node?_put_of_ne (ne_of_absent absent present)]
  exact within other found present

theorem Within.remove (within : before.Within tree) (absent : before.node? place = none) :
    before.Within (tree.remove place) := by
  intro other found present
  rw [node?_remove_of_ne (ne_of_absent absent present)]
  exact within other found present

theorem Within.append (within : before.Within tree) (absent : before.node? place = none)
    (chunk : Bytes) :
    before.Within (tree.append place chunk) := by
  unfold FileTree.append
  split
  · exact within.put absent _
  · exact within

theorem locateFrom_of_within {names : List Text} {leaf : FileNode} (within : before.Within tree)
    (located : before.locateFrom place node names = .ok leaf) :
    tree.locateFrom place node names = .ok leaf := by
  induction names generalizing place node with
  | nil => cases node <;> exact located
  | cons name rest inductionHypothesis =>
    cases node with
    | file content mode => cases located
    | directory =>
      unfold locateFrom at located ⊢
      split at located
      · cases located
      · rename_i short
        rw [if_neg short]
        cases found : before.node? (place ++ [name]) with
        | none => simp [found] at located
        | some next =>
          simp only [found] at located
          simp only [within _ _ found]
          exact inductionHypothesis located

theorem locate_of_within {leaf : FileNode} (within : before.Within tree)
    (located : before.locate place = .ok leaf) :
    tree.locate place = .ok leaf := by
  unfold locate at located ⊢
  split at located
  · cases located
  · rename_i near
    rw [if_neg near]
    exact locateFrom_of_within within located

theorem Within.makeDirectoriesFrom (within : before.Within tree) (place : Place)
    (names : List Text) :
    before.Within (tree.makeDirectoriesFrom place names).2 := by
  induction names generalizing place tree with
  | nil => exact within
  | cons name rest inductionHypothesis =>
    unfold FileTree.makeDirectoriesFrom
    split
    · exact within
    · split
      · exact inductionHypothesis within _
      · split
        · exact inductionHypothesis within _
        · exact within
        · rename_i absent
          exact inductionHypothesis (within.put (within.absent absent) _) _

theorem Within.makeDirectories (within : before.Within tree) (place : Place) :
    before.Within (tree.makeDirectories place).2 := by
  unfold FileTree.makeDirectories
  split
  · exact within
  · exact within.makeDirectoriesFrom _ _

theorem absent_of_checkVacant (vacant : tree.checkVacant place = .ok ()) :
    tree.node? place = none := by
  unfold checkVacant at vacant
  split at vacant
  · cases vacant
  · split at vacant
    · cases vacant
    · cases vacant
    · split at vacant
      · cases vacant
      · split at vacant
        · cases vacant
        · rename_i absent
          simpa using absent

theorem node?_of_locateFrom {names : List Text} {leaf : FileNode} (beyond : names ≠ [])
    (located : tree.locateFrom place node names = .ok leaf) :
    tree.node? (place ++ names) = some leaf := by
  induction names generalizing place node with
  | nil => exact absurd rfl beyond
  | cons name rest inductionHypothesis =>
    cases node with
    | file content mode => cases located
    | directory =>
      unfold locateFrom at located
      split at located
      · cases located
      · cases found : tree.node? (place ++ [name]) with
        | none => simp [found] at located
        | some next =>
          simp only [found] at located
          cases rest with
          | nil =>
            obtain rfl : next = leaf := by cases next <;> exact Except.ok.inj located
            exact found
          | cons later others =>
            have reached := inductionHypothesis (List.cons_ne_nil later others) located
            rwa [List.append_assoc] at reached

/-- What names lead to is the node at their place. -/
theorem node?_of_locate (located : tree.locate place = .ok node) :
    tree.node? place = some node := by
  unfold locate at located
  split at located
  · cases located
  · cases place with
    | nil => exact congrArg some (Except.ok.inj located)
    | cons name rest => exact node?_of_locateFrom (List.cons_ne_nil name rest) located

/-- Every file of the second tree is in the first one, at the same place and with the same
content. -/
def NoNewFile (before tree : FileTree) : Prop :=
  ∀ place content mode, tree.node? place = some (.file content mode) →
    before.node? place = some (.file content mode)

theorem NoNewFile.refl (tree : FileTree) : tree.NoNewFile tree := fun _ _ _ => id

theorem NoNewFile.putDirectory (noNew : before.NoNewFile tree) (place : Place) :
    before.NoNewFile (tree.put place .directory) := by
  intro other content mode found
  by_cases same : other = place
  · subst same
    by_cases root : other = []
    · simp [node?, root] at found
    · simp [node?_put_self root] at found
  · rw [node?_put_of_ne same] at found
    exact noNew other content mode found

theorem NoNewFile.makeDirectoriesFrom (noNew : before.NoNewFile tree) (place : Place)
    (names : List Text) : before.NoNewFile (tree.makeDirectoriesFrom place names).2 := by
  induction names generalizing place tree with
  | nil => exact noNew
  | cons name rest inductionHypothesis =>
    unfold FileTree.makeDirectoriesFrom
    split
    · exact noNew
    · split
      · exact inductionHypothesis noNew _
      · split
        · exact inductionHypothesis noNew _
        · exact noNew
        · exact inductionHypothesis (noNew.putDirectory _) _

theorem NoNewFile.makeDirectories (noNew : before.NoNewFile tree) (place : Place) :
    before.NoNewFile (tree.makeDirectories place).2 := by
  unfold FileTree.makeDirectories
  split
  · exact noNew
  · exact noNew.makeDirectoriesFrom _ _

/-- A place that the system does not refuse for its length alone. -/
def WithinLimits (place : Place) : Prop :=
  outOfReach place = false ∧ ∀ name ∈ place, tooLong name = false

instance (place : Place) : Decidable (WithinLimits place) :=
  inferInstanceAs (Decidable (_ ∧ _))

theorem locateFrom_eq_error {names : List Text} {code : ErrorCode}
    (short : ∀ name ∈ names, tooLong name = false)
    (fails : tree.locateFrom place node names = .error code) :
    code = .noEntry ∨ code = .notDirectory := by
  induction names generalizing place node with
  | nil => cases node <;> cases fails
  | cons name rest inductionHypothesis =>
    obtain ⟨nameShort, restShort⟩ := List.forall_mem_cons.mp short
    cases node with
    | file content mode => exact .inr (Except.error.inj fails).symm
    | directory =>
      simp only [locateFrom, nameShort, Bool.false_eq_true, if_false] at fails
      split at fails
      · exact .inl (Except.error.inj fails).symm
      · exact inductionHypothesis restShort fails

/-- Where there is no file, none is held, unless the limits of the system get in the way
of finding out. -/
theorem holdsFile_of_no_file (limits : WithinLimits place)
    (absent : ∀ content mode, tree.locate place ≠ .ok (.file content mode)) :
    tree.holdsFile place = .ok false := by
  unfold holdsFile
  rcases located : tree.locate place with code | _ | ⟨content, mode⟩
  · rw [locate, limits.1] at located
    rcases locateFrom_eq_error limits.2 located with rfl | rfl
    · rfl
    · rfl
  · rfl
  · exact absurd located (absent content mode)

end KeyEnvelope.FileTree
