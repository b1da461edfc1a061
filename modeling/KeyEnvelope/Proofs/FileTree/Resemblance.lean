import KeyEnvelope.Proofs.Checks
import KeyEnvelope.Proofs.FileTree

/-!
# File trees that resemble each other

Two trees that have the same nodes, up to what is in some of their files, are searched and
changed alike: the same names lead to the same places, or fail for the same reason.
-/

namespace KeyEnvelope

/-- The nodes are of the same kind, and files have contents that are alike. -/
inductive FileNode.Alike (alike : Bytes → Bytes → Prop) :
    Option FileNode → Option FileNode → Prop where
  | absent : Alike alike none none
  | directory : Alike alike (some .directory) (some .directory)
  | file {content content' mode} :
    alike content content' →
    Alike alike (some (.file content mode)) (some (.file content' mode))

theorem FileNode.Alike.mono {alike weaker : Bytes → Bytes → Prop}
    (implies : ∀ content content', alike content content' → weaker content content')
    {found found' : Option FileNode} (related : FileNode.Alike alike found found') :
    FileNode.Alike weaker found found' := by
  cases related with
  | absent => exact .absent
  | directory => exact .directory
  | file related => exact .file (implies _ _ related)

theorem FileNode.Alike.isSome_eq {alike : Bytes → Bytes → Prop} {found found' : Option FileNode}
    (related : FileNode.Alike alike found found') : found.isSome = found'.isSome := by
  cases related <;> rfl

namespace FileTree

/-- Both searches fail with the same code, or come to nodes that are alike. -/
inductive FindsAlike (alike : Bytes → Bytes → Prop) :
    Except ErrorCode FileNode → Except ErrorCode FileNode → Prop where
  | error (code) : FindsAlike alike (.error code) (.error code)
  | ok {node node'} : FileNode.Alike alike (some node) (some node') →
    FindsAlike alike (.ok node) (.ok node')

/-- At each place there are nodes that are alike in the way that counts there. -/
def Resembles (alike : Place → Bytes → Bytes → Prop) (tree other : FileTree) : Prop :=
  ∀ place, FileNode.Alike (alike place) (tree.node? place) (other.node? place)

variable {tree other : FileTree} {alike weaker : Place → Bytes → Bytes → Prop} {place : Place}
  {node node' : FileNode}

/-- Nodes are put into both trees that are alike, if only in a weaker way at this place. -/
theorem Resembles.put (resembles : Resembles alike tree other)
    (related : FileNode.Alike (weaker place) (some node) (some node'))
    (elsewhere : ∀ at' content content', at' ≠ place → alike at' content content' →
      weaker at' content content') :
    Resembles weaker (tree.put place node) (other.put place node') := by
  intro found
  by_cases same : found = place
  · subst same
    by_cases root : found = []
    · subst root
      exact .directory
    · rw [node?_put_self root, node?_put_self root]
      exact related
  · rw [node?_put_of_ne same, node?_put_of_ne same]
    exact (resembles found).mono fun _ _ => elsewhere _ _ _ same

/-- Where nodes are taken away, it does not matter any more in what way they were alike. -/
theorem Resembles.remove (resembles : Resembles alike tree other)
    (elsewhere : ∀ at' content content', at' ≠ place → alike at' content content' →
      weaker at' content content') :
    Resembles weaker (tree.remove place) (other.remove place) := by
  intro found
  by_cases same : found = place
  · subst same
    by_cases root : found = []
    · subst root
      exact .directory
    · rw [node?_remove_self root, node?_remove_self root]
      exact .absent
  · rw [node?_remove_of_ne same, node?_remove_of_ne same]
    exact (resembles found).mono fun _ _ => elsewhere _ _ _ same

theorem Resembles.locateFrom (resembles : Resembles alike tree other) (place : Place)
    (names : List Text) (related : FileNode.Alike (alike place) (some node) (some node')) :
    FindsAlike (alike (place ++ names)) (tree.locateFrom place node names)
      (other.locateFrom place node' names) := by
  induction names generalizing place node node' with
  | nil =>
    simp only [List.append_nil]
    cases related with
    | directory => exact .ok .directory
    | file alike => exact .ok (.file alike)
  | cons name rest inductionHypothesis =>
    cases related with
    | file _ => exact .error _
    | directory =>
      unfold FileTree.locateFrom
      split
      · exact .error _
      · have step := resembles (place ++ [name])
        cases found : tree.node? (place ++ [name]) with
        | none =>
          cases found' : other.node? (place ++ [name]) with
          | none => exact .error _
          | some next' => rw [found, found'] at step; cases step
        | some next =>
          cases found' : other.node? (place ++ [name]) with
          | none => rw [found, found'] at step; cases step
          | some next' =>
            rw [found, found'] at step
            have later := inductionHypothesis _ step
            rwa [List.append_assoc] at later

theorem Resembles.locate (resembles : Resembles alike tree other) (place : Place) :
    FindsAlike (alike place) (tree.locate place) (other.locate place) := by
  unfold FileTree.locate
  split
  · exact .error _
  · exact resembles.locateFrom [] place .directory

theorem Resembles.checkVacant (resembles : Resembles alike tree other) (place : Place) :
    tree.checkVacant place = other.checkVacant place := by
  unfold FileTree.checkVacant
  cases place.getLast? with
  | none => rfl
  | some name =>
    simp only [(resembles place).isSome_eq]
    have parent := resembles.locate place.dropLast
    generalize tree.locate place.dropLast = found at parent
    generalize other.locate place.dropLast = found' at parent
    cases parent with
    | error code => rfl
    | ok related => cases related <;> rfl

theorem Resembles.makeDirectoriesFrom (resembles : Resembles alike tree other) (place : Place)
    (names : List Text) :
    (tree.makeDirectoriesFrom place names).1 = (other.makeDirectoriesFrom place names).1 ∧
      Resembles alike (tree.makeDirectoriesFrom place names).2
        (other.makeDirectoriesFrom place names).2 := by
  induction names generalizing place tree other with
  | nil => exact ⟨rfl, resembles⟩
  | cons name rest inductionHypothesis =>
    unfold FileTree.makeDirectoriesFrom
    by_cases long : tooLong name = true
    · simp only [long, if_true]
      exact ⟨trivial, resembles⟩
    · by_cases up : name = ".."
      · subst up
        simp only [long, if_true]
        exact inductionHypothesis resembles _
      · simp only [long, up, if_false]
        have step := resembles (place ++ [name])
        generalize found : tree.node? (place ++ [name]) = here at step
        generalize found' : other.node? (place ++ [name]) = here' at step
        cases step with
        | absent => exact inductionHypothesis (resembles.put .directory fun _ _ _ _ => id) _
        | directory => exact inductionHypothesis resembles _
        | file _ => exact ⟨rfl, resembles⟩

theorem Resembles.makeDirectories (resembles : Resembles alike tree other) (place : Place) :
    (tree.makeDirectories place).1 = (other.makeDirectories place).1 ∧
      Resembles alike (tree.makeDirectories place).2 (other.makeDirectories place).2 := by
  unfold FileTree.makeDirectories
  split
  · exact ⟨rfl, resembles⟩
  · exact resembles.makeDirectoriesFrom _ _

theorem Resembles.holdsFile (resembles : Resembles alike tree other) (place : Place) :
    tree.holdsFile place = other.holdsFile place := by
  unfold FileTree.holdsFile
  have located := resembles.locate place
  generalize tree.locate place = found at located
  generalize other.locate place = found' at located
  cases located with
  | error code => rfl
  | ok related => cases related <;> rfl

end FileTree

end KeyEnvelope
