import Mathlib.Data.List.Basic
import Mathlib.Data.List.Induction
import KeyEnvelope.Proofs.Checks
import KeyEnvelope.Proofs.FileTree.Spelling
import KeyEnvelope.Proofs.FileTree.Ways

/-!
# Changes to a tree, one after the other

What is done to a tree is done in changes: each makes a directory or a file, adds to a file,
links one or removes one. Between two changes the tree is there for others to see, and what was
begun may end there. Making all directories on a way is a change for each one that is missing.
-/

namespace KeyEnvelope.FileTree

inductive Change where
  | makeDirectory (place : Place)
  | createFile (place : Place) (mode : Nat)
  | append (place : Place) (chunk : Bytes)
  | link (source target : Place)
  | remove (place : Place)
deriving DecidableEq

/-- Where there may be something else after the change. -/
def Change.place : Change → Place
  | .makeDirectory place | .createFile place _ | .append place _ | .link _ place | .remove place =>
    place

/-- The tree after a change, unless something is in its way. -/
def changed (tree : FileTree) : Change → Except ErrorCode FileTree
  | .makeDirectory place => do
    tree.checkVacant place
    return tree.put place .directory
  | .createFile place mode => tree.createFile place mode
  | .append place chunk => .ok (tree.append place chunk)
  | .link source target => tree.link source target
  | .remove place => .ok (tree.remove place)

/-- The changes can be made one after the other and lead from one tree to the other, all along
through trees of a kind. -/
inductive Passes (through : FileTree → Prop) : FileTree → List Change → FileTree → Prop where
  | nil {tree} : through tree → Passes through tree [] tree
  | cons {tree change next changes final} :
      through tree → tree.changed change = .ok next → Passes through next changes final →
      Passes through tree (change :: changes) final

variable {before tree next final made : FileTree} {target place : Place} {names way : List Text}
  {name : Text} {node leaf : FileNode} {through : FileTree → Prop}
  {change : Change} {changes more : List Change}

/-- A change leaves everything as it is but what is in its place. -/
theorem node?_changed (makes : tree.changed change = .ok next) (elsewhere : place ≠ change.place) :
    next.node? place = tree.node? place := by
  cases change with
  | makeDirectory other =>
    obtain ⟨_, -, same⟩ := Checks.bind_eq_ok_iff.mp makes
    obtain rfl := Except.ok.inj same
    exact node?_put_of_ne elsewhere
  | createFile other mode =>
    obtain ⟨_, -, same⟩ := Checks.bind_eq_ok_iff.mp makes
    obtain rfl := Except.ok.inj same
    exact node?_put_of_ne elsewhere
  | append other chunk =>
    obtain rfl := Except.ok.inj makes
    unfold FileTree.append
    split
    · exact node?_put_of_ne elsewhere
    · rfl
  | link source other =>
    obtain ⟨node, -, makes⟩ := Checks.bind_eq_ok_iff.mp makes
    obtain ⟨_, -, same⟩ := Checks.bind_eq_ok_iff.mp makes
    obtain rfl := Except.ok.inj same
    exact node?_put_of_ne elsewhere
  | remove other =>
    obtain rfl := Except.ok.inj makes
    exact node?_remove_of_ne elsewhere

theorem directory_of_changed (makes : tree.changed (.makeDirectory place) = .ok next) :
    next.node? place = some .directory := by
  obtain ⟨_, -, same⟩ := Checks.bind_eq_ok_iff.mp makes
  obtain rfl := Except.ok.inj same
  by_cases root : place = []
  · rw [root]
    rfl
  · exact node?_put_self root

theorem Passes.append (first : Passes through tree changes next)
    (second : Passes through next more final) : Passes through tree (changes ++ more) final := by
  induction first with
  | nil _ => exact second
  | cons here change _ inductionHypothesis =>
    exact .cons here change (inductionHypothesis second)

theorem Passes.mono {weaker : FileTree → Prop} (implies : ∀ tree, through tree → weaker tree)
    (passes : Passes through tree changes final) : Passes weaker tree changes final := by
  induction passes with
  | nil here => exact .nil (implies _ here)
  | cons here makes _ inductionHypothesis => exact .cons (implies _ here) makes inductionHypothesis

theorem Passes.last (passes : Passes through tree changes final) : through final := by
  induction passes with
  | nil here => exact here
  | cons _ _ _ inductionHypothesis => exact inductionHypothesis

theorem Passes.concat (passes : Passes through tree changes next)
    (changes' : next.changed change = .ok final) (there : through final) :
    Passes through tree (changes ++ [change]) final :=
  passes.append (.cons passes.last changes' (.nil there))

theorem length_normalized_le (way : List Text) : (normalized way).length ≤ way.length := by
  induction way using List.reverseRecOn with
  | nil => exact Nat.le_refl _
  | append_singleton way name inductionHypothesis =>
    rw [normalized_concat]
    split
    · simp only [List.length_dropLast, List.length_append]
      omega
    · simpa using inductionHypothesis

/-- Nothing has come of it at the place but a directory on the way to the target. -/
def PavedAt (before tree : FileTree) (target place : Place) : Prop :=
  tree.node? place = before.node? place ∨
    before.node? place = none ∧ tree.node? place = some .directory ∧
      ∃ way, way <+: target.dropLast ∧ place = normalized way

/-- The trees differ at most in directories on the way to the target. -/
def Paves (before tree : FileTree) (target : Place) : Prop :=
  ∀ place, PavedAt before tree target place

theorem Paves.refl (tree : FileTree) (target : Place) : Paves tree tree target :=
  fun _ => .inl rfl

theorem Paves.congr (paves : Paves before tree target)
    (nodes : ∀ place, next.node? place = tree.node? place) : Paves before next target := by
  intro place
  rw [PavedAt, nodes place]
  exact paves place

theorem Paves.within (paves : Paves before tree target) : before.Within tree := by
  intro place node found
  rcases paves place with same | ⟨absent, -, -⟩
  · rw [same, found]
  · simp [absent] at found

/-- The way to the target does not lead further than there. -/
theorem PavedAt.unchanged (paved : PavedAt before tree target place)
    (far : target.length ≤ place.length) : tree.node? place = before.node? place := by
  rcases paved with same | ⟨absent, -, way, leads, spelled⟩
  · exact same
  · have short := length_normalized_le way
    have shorter := leads.length_le
    rw [← spelled] at short
    rw [List.length_dropLast] at shorter
    obtain rfl : place = [] := List.length_eq_zero_iff.mp (by omega)
    simp [node?] at absent

theorem Paves.at_target (paves : Paves before tree target) :
    tree.node? target = before.node? target :=
  (paves target).unchanged (Nat.le_refl _)

theorem Paves.put (paves : Paves before tree target) (absent : tree.node? place = none)
    (leads : way <+: target.dropLast) (spelled : place = normalized way) :
    Paves before (tree.put place .directory) target := by
  have named : place ≠ [] := by
    rintro rfl
    simp [node?] at absent
  intro other
  by_cases same : other = place
  · subst same
    exact .inr ⟨paves.within.absent absent, node?_put_self named, way, leads, spelled⟩
  · rw [PavedAt, node?_put_of_ne same]
    exact paves other

/-- Before the last name of a way comes a directory. -/
theorem locateFrom_init (located : tree.locateFrom place node (names ++ [name]) = .ok leaf) :
    tree.locateFrom place node names = .ok .directory := by
  induction names generalizing place node with
  | nil =>
    cases node with
    | file content mode => cases located
    | directory => rfl
  | cons first rest inductionHypothesis =>
    cases node with
    | file content mode => cases located
    | directory =>
      rw [List.cons_append, locateFrom] at located
      rw [locateFrom]
      split at located
      · cases located
      · rename_i short
        rw [if_neg short]
        cases found : tree.node? (place ++ [first]) with
        | none => simp [found] at located
        | some next =>
          simp only [found] at located ⊢
          exact inductionHypothesis located

/-- The names lead to a directory. -/
def Open (tree : FileTree) (place : Place) : Prop :=
  tree.locateFrom [] .directory place = .ok .directory

theorem Open.dropLast (isOpen : tree.Open place) : tree.Open place.dropLast := by
  rcases List.eq_nil_or_concat' place with rfl | ⟨init, last, rfl⟩
  · exact isOpen
  · rw [List.dropLast_concat]
    exact locateFrom_init isOpen

theorem Open.child (isOpen : tree.Open place) (short : tooLong name = false)
    (found : tree.node? (place ++ [name]) = some .directory) : tree.Open (place ++ [name]) := by
  rw [Open, locateFrom_append isOpen, List.nil_append, locateFrom, short,
    if_neg Bool.false_ne_true, found]
  rfl

theorem Open.put (isOpen : tree.Open place) (absent : tree.node? (place ++ [name]) = none)
    (short : tooLong name = false) :
    (tree.put (place ++ [name]) .directory).Open (place ++ [name]) := by
  have kept : (tree.put (place ++ [name]) .directory).Open place :=
    locateFrom_of_within (Within.put (.refl tree) absent _) isOpen
  exact kept.child short (node?_put_self (by simp))

/-- The directories that are missing along names from a place, as far as they can be made. -/
def missingFrom (tree : FileTree) (place : Place) : List Text → List Place
  | [] => []
  | name :: rest =>
    if tooLong name then []
    else if name = ".." then tree.missingFrom place.dropLast rest
    else match tree.node? (place ++ [name]) with
      | some .directory => tree.missingFrom (place ++ [name]) rest
      | some (.file _ _) => []
      | none =>
        (place ++ [name]) ::
          (tree.put (place ++ [name]) .directory).missingFrom (place ++ [name]) rest

def missing (tree : FileTree) (place : Place) : List Place :=
  if outOfReach place then [] else tree.missingFrom [] place

/-- Along the way to a target directories are made one by one. -/
theorem Paves.makeDirectoriesFrom (holds : ∀ tree, Paves before tree target → through tree)
    (paves : Paves before tree target) (leads : way ++ names = target.dropLast)
    (spelled : place = normalized way) (isOpen : tree.Open place)
    (room : wayLength place + wayLength names ≤ wayLimit + 1) :
    Paves before (tree.makeDirectoriesFrom place names).2 target ∧
      Passes through tree ((tree.missingFrom place names).map .makeDirectory)
        (tree.makeDirectoriesFrom place names).2 := by
  -- Of the way to the target's parent, `way` is behind and `names` are ahead; two dots make the
  -- place shorter, never the way.
  induction names generalizing tree place way with
  | nil => exact ⟨paves, .nil (holds tree paves)⟩
  | cons name rest inductionHypothesis =>
    have further : way ++ [name] ++ rest = target.dropLast := by simpa using leads
    have onWay : way ++ [name] <+: target.dropLast := ⟨rest, further⟩
    have spelledNext := normalized_concat way name
    rw [wayLength] at room
    unfold FileTree.makeDirectoriesFrom missingFrom
    split
    · exact ⟨paves, .nil (holds tree paves)⟩
    · rename_i short
      rw [Bool.not_eq_true] at short
      split
      · rename_i back
        rw [if_pos back, ← spelled] at spelledNext
        have less := wayLength_dropLast_le place
        exact inductionHypothesis paves further spelledNext.symm isOpen.dropLast (by omega)
      · rename_i onward
        rw [if_neg onward, ← spelled] at spelledNext
        have roomNext : wayLength (place ++ [name]) + wayLength rest ≤ wayLimit + 1 := by
          rw [wayLength_append, wayLength, wayLength]
          omega
        cases found : tree.node? (place ++ [name]) with
        | some node =>
          cases node with
          | file content mode => exact ⟨paves, .nil (holds tree paves)⟩
          | directory =>
            exact inductionHypothesis paves further spelledNext.symm (isOpen.child short found)
              roomNext
        | none =>
          have reach : outOfReach (place ++ [name]) = false :=
            outOfReach_eq_false_iff.mpr (by omega)
          have parentReach : outOfReach place = false := by
            rw [wayLength_append] at roomNext
            exact outOfReach_eq_false_iff.mpr (by omega)
          have parent : tree.locate place = .ok .directory := by
            rw [locate_eq_locateFrom parentReach]
            exact isOpen
          have makes : tree.changed (.makeDirectory (place ++ [name])) =
              .ok (tree.put (place ++ [name]) .directory) := by
            simp [changed, checkVacant_child parent short reach, found]
          obtain ⟨pavesAll, passes⟩ := inductionHypothesis
            (paves.put found onWay spelledNext.symm) further spelledNext.symm
            (isOpen.put found short) roomNext
          exact ⟨pavesAll, .cons (holds tree paves) makes passes⟩

theorem Paves.makeDirectories (holds : ∀ tree, Paves before tree target → through tree)
    (paves : Paves before tree target) :
    Paves before (tree.makeDirectories target.dropLast).2 target ∧
      Passes through tree ((tree.missing target.dropLast).map .makeDirectory)
        (tree.makeDirectories target.dropLast).2 := by
  unfold FileTree.makeDirectories missing
  split
  · exact ⟨paves, .nil (holds tree paves)⟩
  · rename_i reach
    rw [Bool.not_eq_true] at reach
    have room := outOfReach_eq_false_iff.mp reach
    exact paves.makeDirectoriesFrom holds (List.nil_append _) rfl rfl (by simpa [wayLength])

end KeyEnvelope.FileTree
