import KeyEnvelope.Proofs.FileTree

/-!
# Ways through file trees

A way is clear if no file stands on it. In a tree where everything is in a directory, names
lead along a clear way to whatever node is at its end, and directories can be made all along
it.
-/

namespace KeyEnvelope.FileTree

variable {tree : FileTree} {base place : Place} {names rest : List Text} {name : Text}
  {node next : FileNode}

theorem node?_remove_of_absent (absent : tree.node? place = none) (other : Place) :
    (tree.remove place).node? other = tree.node? other := by
  by_cases same : other = place
  · subst same
    have named : other ≠ [] := by
      rintro rfl
      simp [node?] at absent
    rw [node?_remove_self named, absent]
  · exact node?_remove_of_ne same

theorem within_remove (tree : FileTree) (place : Place) : (tree.remove place).Within tree := by
  intro other node found
  by_cases same : other = place
  · subst same
    by_cases root : other = []
    · rwa [root] at found ⊢
    · simp [node?_remove_self root] at found
  · rwa [node?_remove_of_ne same] at found

theorem node?_remove_put (named : place ≠ []) (node : FileNode) (other : Place) :
    ((tree.put place node).remove place).node? other = (tree.remove place).node? other := by
  by_cases same : other = place
  · rw [same, node?_remove_self named, node?_remove_self named]
  · rw [node?_remove_of_ne same, node?_remove_of_ne same, node?_put_of_ne same]

theorem node?_remove_put_of_ne {target : Place} (different : target ≠ place)
    (named : place ≠ []) (namedTarget : target ≠ []) (node : FileNode) (other : Place) :
    ((tree.put target node).remove place).node? other =
      ((tree.remove place).put target node).node? other := by
  by_cases aside : other = place
  · subst aside
    rw [node?_remove_self named, node?_put_of_ne different.symm, node?_remove_self named]
  · rw [node?_remove_of_ne aside]
    by_cases here : other = target
    · rw [here, node?_put_self namedTarget, node?_put_self namedTarget]
    · rw [node?_put_of_ne here, node?_put_of_ne here, node?_remove_of_ne aside]

theorem locateFrom_append (located : tree.locateFrom place node names = .ok next) :
    tree.locateFrom place node (names ++ rest) =
      tree.locateFrom (place ++ names) next rest := by
  induction names generalizing place node with
  | nil =>
    obtain rfl : node = next := by cases node <;> exact Except.ok.inj located
    simp
  | cons name names inductionHypothesis =>
    cases node with
    | file content mode => cases located
    | directory =>
      rw [List.cons_append, locateFrom]
      rw [locateFrom] at located
      split at located
      · cases located
      · rename_i short
        rw [if_neg short]
        cases found : tree.node? (place ++ [name]) with
        | none => simp [found] at located
        | some next =>
          simp only [found] at located ⊢
          rw [inductionHypothesis located, List.append_assoc]
          rfl

theorem locateFrom_self : tree.locateFrom place node [] = .ok node := by
  cases node <;> rfl

theorem locate_eq_locateFrom (reach : outOfReach place = false) :
    tree.locate place = tree.locateFrom [] .directory place := by
  rw [locate, reach]
  rfl

theorem locateFrom_of_locate (located : tree.locate place = .ok node) :
    tree.locateFrom [] .directory place = .ok node := by
  unfold locate at located
  split at located
  · cases located
  · exact located

/-- In a directory, a name leads to whatever node there is. -/
theorem locate_child (parent : tree.locate place = .ok .directory)
    (short : tooLong name = false) (reach : outOfReach (place ++ [name]) = false) :
    tree.locate (place ++ [name]) = (tree.node? (place ++ [name])).elim (.error .noEntry) .ok := by
  rw [locate_eq_locateFrom reach, locateFrom_append (locateFrom_of_locate parent), List.nil_append,
    locateFrom, short, if_neg Bool.false_ne_true]
  cases tree.node? (place ++ [name]) with
  | none => rfl
  | some node => exact locateFrom_self

theorem checkVacant_child (parent : tree.locate place = .ok .directory)
    (short : tooLong name = false) (reach : outOfReach (place ++ [name]) = false) :
    tree.checkVacant (place ++ [name]) =
      if (tree.node? (place ++ [name])).isSome then .error .alreadyExists else .ok () := by
  simp only [checkVacant, List.getLast?_concat, List.dropLast_concat, parent, short, reach,
    Bool.or_false, Bool.false_eq_true, if_false]

/-- Below the base everything is in a directory. -/
def Closed (tree : FileTree) (base : Place) : Prop :=
  ∀ place name node, base <+: place → tree.node? (place ++ [name]) = some node →
    tree.node? place = some .directory

theorem Closed.absent (closed : tree.Closed base) (below : base <+: place)
    (absent : tree.node? place = none) (names : List Text) :
    tree.node? (place ++ names) = none := by
  induction names generalizing place with
  | nil => simpa using absent
  | cons name rest inductionHypothesis =>
    have child : tree.node? (place ++ [name]) = none := by
      rw [Option.eq_none_iff_forall_ne_some]
      intro node found
      simp [closed _ _ _ below found] at absent
    have further := inductionHypothesis (below.trans (List.prefix_append _ _)) child
    rwa [List.append_assoc] at further

/-- There is no file on the way, except perhaps at its end. -/
def Clear (tree : FileTree) (place : Place) (names : List Text) : Prop :=
  ∀ way content mode, way <+: names → way ≠ names →
    tree.node? (place ++ way) ≠ some (.file content mode)

theorem Clear.tail (clear : tree.Clear place (name :: rest)) :
    tree.Clear (place ++ [name]) rest := by
  intro way content mode leads proper found
  refine clear (name :: way) content mode ?_ ?_ ?_
  · exact List.cons_prefix_cons.mpr ⟨rfl, leads⟩
  · simpa using proper
  · simpa using found

/-- Names lead along a clear way to the node at their place. -/
theorem locateFrom_of_clear (closed : tree.Closed base) (below : base <+: place)
    (here : tree.node? place = some .directory) (short : ∀ name ∈ names, tooLong name = false)
    (clear : tree.Clear place names) :
    tree.locateFrom place .directory names =
      (tree.node? (place ++ names)).elim (.error .noEntry) .ok := by
  induction names generalizing place with
  | nil => simp [here, locateFrom_self]
  | cons name rest inductionHypothesis =>
    obtain ⟨nameShort, restShort⟩ := List.forall_mem_cons.mp short
    have further : base <+: place ++ [name] := below.trans (List.prefix_append _ _)
    have split : place ++ name :: rest = place ++ [name] ++ rest := by simp
    rw [locateFrom, nameShort, if_neg Bool.false_ne_true, split]
    cases found : tree.node? (place ++ [name]) with
    | none =>
      have absent : tree.node? (place ++ [name] ++ rest) = none :=
        closed.absent further found rest
      simp only [absent, Option.elim_none]
    | some node =>
      cases node with
      | directory => exact inductionHypothesis further found restShort clear.tail
      | file content mode =>
        cases rest with
        | nil => simp [found, locateFrom_self]
        | cons later others =>
          exact absurd found (clear [name] content mode (by simp) (by simp))

theorem locate_of_clear (ground : tree.locate base = .ok .directory) (closed : tree.Closed base)
    (reach : outOfReach (base ++ names) = false) (short : ∀ name ∈ names, tooLong name = false)
    (clear : tree.Clear base names) :
    tree.locate (base ++ names) = (tree.node? (base ++ names)).elim (.error .noEntry) .ok := by
  rw [locate_eq_locateFrom reach, locateFrom_append (locateFrom_of_locate ground), List.nil_append]
  exact locateFrom_of_clear closed (List.prefix_refl base) (node?_of_locate ground) short clear

/-- There is nothing to make along directories that are there. -/
theorem makeDirectoriesFrom_append (onward : (".." : Text) ∉ names)
    (located : tree.locateFrom place .directory names = .ok .directory) :
    tree.makeDirectoriesFrom place (names ++ rest) =
      tree.makeDirectoriesFrom (place ++ names) rest := by
  induction names generalizing place with
  | nil => simp
  | cons name names inductionHypothesis =>
    obtain ⟨other, onward⟩ := List.ne_and_not_mem_of_not_mem_cons onward
    rw [locateFrom] at located
    split at located
    · cases located
    · rename_i short
      rw [List.cons_append, makeDirectoriesFrom, if_neg short, if_neg (Ne.symm other)]
      cases found : tree.node? (place ++ [name]) with
      | none => simp [found] at located
      | some node =>
        simp only [found] at located
        cases node with
        | directory =>
          simp only [inductionHypothesis onward located, List.append_assoc]
          rfl
        | file content mode =>
          cases names with
          | nil => cases located
          | cons _ _ => cases located

theorem makeDirectoriesFrom_cons (rest : List Text) (other : name ≠ "..")
    (short : tooLong name = false)
    (clear : ∀ content mode, tree.node? (place ++ [name]) ≠ some (.file content mode)) :
    ∃ made : FileTree, tree.makeDirectoriesFrom place (name :: rest) =
        made.makeDirectoriesFrom (place ++ [name]) rest ∧
      ∀ other node, made.node? other = some node ↔
        tree.node? other = some node ∨ node = .directory ∧ other = place ++ [name] := by
  rw [makeDirectoriesFrom, short, if_neg Bool.false_ne_true, if_neg other]
  cases found : tree.node? (place ++ [name]) with
  | none =>
    refine ⟨_, rfl, fun other node => ?_⟩
    by_cases same : other = place ++ [name]
    · subst same
      rw [node?_put_self (by simp), found]
      simp [eq_comm]
    · simp [node?_put_of_ne same, same]
  | some node =>
    cases node with
    | directory =>
      refine ⟨_, rfl, fun other node => ?_⟩
      by_cases same : other = place ++ [name]
      · subst same
        simp [found, eq_comm]
      · simp [same]
    | file content mode => exact absurd found (clear content mode)

/-- The second tree has the nodes of the first one, and a directory for each of the names that
lead on from the place. -/
def Paved (tree made : FileTree) (place : Place) (names : List Text) : Prop :=
  ∀ other node, made.node? other = some node ↔ tree.node? other = some node ∨
    node = .directory ∧ ∃ way, way ≠ [] ∧ way <+: names ∧ other = place ++ way

section Paved

variable {made : FileTree}

theorem Paved.within (paved : Paved tree made place names) : tree.Within made :=
  fun other node found => (paved other node).mpr (.inl found)

theorem Paved.file_iff (paved : Paved tree made place names) {other : Place} {content : Bytes}
    {mode : Nat} :
    made.node? other = some (.file content mode) ↔
      tree.node? other = some (.file content mode) := by
  simp [paved other]

theorem Paved.directory (paved : Paved tree made place names)
    (here : tree.node? place = some .directory) {way : List Text} (leads : way <+: names) :
    made.node? (place ++ way) = some .directory := by
  by_cases start : way = []
  · rw [start, List.append_nil]
    exact paved.within _ _ here
  · exact (paved _ _).mpr (.inr ⟨rfl, way, start, leads, rfl⟩)

theorem Paved.closed (paved : Paved tree made place names)
    (here : tree.node? place = some .directory) (closed : tree.Closed place) :
    made.Closed place := by
  intro other name node below found
  rcases (paved _ _).mp found with found | ⟨-, way, nonempty, leads, same⟩
  · exact paved.within _ _ (closed other name node below found)
  · rw [← List.dropLast_concat_getLast nonempty, ← List.append_assoc] at same
    obtain ⟨rfl, -⟩ := List.append_inj' same rfl
    exact paved.directory here ((List.dropLast_prefix way).trans leads)

end Paved

/-- Along a clear way that does not lead back, directories can be made. -/
theorem makeDirectoriesFrom_of_clear (onward : (".." : Text) ∉ names)
    (short : ∀ name ∈ names, tooLong name = false)
    (clear : ∀ way content mode, way <+: names →
      tree.node? (place ++ way) ≠ some (.file content mode)) :
    ∃ made, tree.makeDirectoriesFrom place names = (.ok (), made) ∧
      Paved tree made place names := by
  induction names generalizing place tree with
  | nil =>
    refine ⟨tree, rfl, fun other node => ⟨.inl, ?_⟩⟩
    rintro (found | ⟨-, way, nonempty, leads, -⟩)
    · exact found
    · exact absurd (List.prefix_nil.mp leads) nonempty
  | cons name rest inductionHypothesis =>
    obtain ⟨other, onward⟩ := List.ne_and_not_mem_of_not_mem_cons onward
    obtain ⟨nameShort, restShort⟩ := List.forall_mem_cons.mp short
    obtain ⟨first, goesOn, firstNodes⟩ := makeDirectoriesFrom_cons rest (Ne.symm other) nameShort
      (clear [name] · · (by simp))
    have firstClear : ∀ way content mode, way <+: rest →
        first.node? (place ++ [name] ++ way) ≠ some (.file content mode) := by
      intro way content mode leads found
      rcases (firstNodes _ _).mp found with found | ⟨⟨⟩, -⟩
      rw [List.append_assoc] at found
      exact clear (name :: way) content mode (by simpa using leads) found
    obtain ⟨made, makes, paved⟩ := inductionHypothesis onward restShort firstClear
    refine ⟨made, goesOn.trans makes, fun other node => ?_⟩
    rw [paved, firstNodes, or_assoc, ← and_or_left]
    refine or_congr_right (and_congr_right fun _ => ?_)
    -- The ways through the name are the name alone and those that go on from there.
    constructor
    · rintro (rfl | ⟨further, nonempty, leads, rfl⟩)
      · exact ⟨[name], by simp, by simp, rfl⟩
      · exact ⟨name :: further, by simp, by simpa using leads, by simp⟩
    · rintro ⟨way, nonempty, leads, rfl⟩
      rcases List.prefix_cons_iff.mp leads with rfl | ⟨further, rfl, onwards⟩
      · exact absurd rfl nonempty
      · by_cases ends : further = []
        · exact .inl (by simp [ends])
        · exact .inr ⟨further, ends, onwards, by simp⟩

theorem makeDirectories_of_clear (ground : tree.locate base = .ok .directory)
    (onward : (".." : Text) ∉ base ++ names) (reach : outOfReach (base ++ names) = false)
    (short : ∀ name ∈ names, tooLong name = false)
    (clear : ∀ way content mode, way <+: names →
      tree.node? (base ++ way) ≠ some (.file content mode)) :
    ∃ made, tree.makeDirectories (base ++ names) = (.ok (), made) ∧
      Paved tree made base names := by
  simp only [List.mem_append, not_or] at onward
  rw [makeDirectories, reach, if_neg Bool.false_ne_true,
    makeDirectoriesFrom_append onward.1 (locateFrom_of_locate ground), List.nil_append]
  exact makeDirectoriesFrom_of_clear onward.2 short clear

end KeyEnvelope.FileTree
