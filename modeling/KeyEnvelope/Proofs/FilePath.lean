import KeyEnvelope.FilePath
import KeyEnvelope.Proofs.Text

/-!
# Components and canonical paths

A path is split at its slashes. A canonical path is spelled the way that it is read: it has a
slash before each of its names. Such paths are the same if they have the same names.
-/

namespace KeyEnvelope.FilePath

/-- A name that is kept when a path is read and that does not lead back. -/
structure IsName (name : Text) : Prop where
  nonempty : name ≠ ""
  notDot : name ≠ "."
  notDots : name ≠ ".."
  unbroken : .char '/' ∉ name.codes

instance (name : Text) : Decidable (IsName name) :=
  decidable_of_iff (name ≠ "" ∧ name ≠ "." ∧ name ≠ ".." ∧ .char '/' ∉ name.codes)
    ⟨fun ⟨nonempty, notDot, notDots, unbroken⟩ => ⟨nonempty, notDot, notDots, unbroken⟩,
      fun valid => ⟨valid.nonempty, valid.notDot, valid.notDots, valid.unbroken⟩⟩

def rooted (names : List Text) : Text :=
  "/" ++ Text.intercalate "/" names

/-- The path is a slash and then names, one or more, with a slash between each two. -/
def IsCanonical (path : Text) : Prop :=
  ∃ names, names ≠ [] ∧ (∀ name ∈ names, IsName name) ∧ path = rooted names

variable {names : List Text} {path other : Text}

theorem not_mem_of_mem_splitOn {α : Type} [DecidableEq α] {separator : α} {items part : List α}
    (among : part ∈ items.splitOn separator) : separator ∉ part := by
  induction items generalizing part with
  | nil =>
    obtain rfl : part = [] := by simpa using among
    exact List.not_mem_nil
  | cons item rest inductionHypothesis =>
    rw [List.splitOn_cons_eq_if_modifyHead] at among
    split at among
    · rcases List.mem_cons.mp among with rfl | among
      · exact List.not_mem_nil
      · exact inductionHypothesis among
    · rename_i different
      obtain ⟨first, others, parts⟩ :=
        List.exists_cons_of_ne_nil (List.splitOn_ne_nil separator rest)
      rw [parts, List.modifyHead_cons] at among
      rcases List.mem_cons.mp among with rfl | among
      · have further := inductionHypothesis (parts ▸ List.mem_cons_self)
        simp only [List.mem_cons, not_or]
        exact ⟨fun same => different (by simp [same]), further⟩
      · exact inductionHypothesis (parts ▸ List.mem_cons_of_mem _ among)

theorem mem_of_mem_splitOn {α : Type} [DecidableEq α] {separator item : α} {items part : List α}
    (among : part ∈ items.splitOn separator) (present : item ∈ part) : item ∈ items := by
  induction items generalizing part with
  | nil =>
    obtain rfl : part = [] := by simpa using among
    exact present
  | cons first rest inductionHypothesis =>
    rw [List.splitOn_cons_eq_if_modifyHead] at among
    split at among
    · rcases List.mem_cons.mp among with rfl | among
      · cases present
      · exact List.mem_cons_of_mem _ (inductionHypothesis among present)
    · obtain ⟨head, others, parts⟩ :=
        List.exists_cons_of_ne_nil (List.splitOn_ne_nil separator rest)
      rw [parts, List.modifyHead_cons] at among
      rcases List.mem_cons.mp among with rfl | among
      · rcases List.mem_cons.mp present with rfl | present
        · exact List.mem_cons_self
        · exact List.mem_cons_of_mem _ (inductionHypothesis (parts ▸ List.mem_cons_self) present)
      · exact List.mem_cons_of_mem _
          (inductionHypothesis (parts ▸ List.mem_cons_of_mem _ among) present)

theorem unbroken_of_mem_components {component : Text} (among : component ∈ components path) :
    .char '/' ∉ component.codes := by
  obtain ⟨codes, split, same⟩ := List.mem_map.mp among
  subst same
  exact not_mem_of_mem_splitOn split

theorem intercalate_components (path : Text) : Text.intercalate "/" (components path) = path := by
  obtain ⟨codes⟩ := path
  have parts : (components ⟨codes⟩).map Text.codes = codes.splitOn (.char '/') := by
    simp only [components, Text.splitOn, List.map_map]
    exact List.map_id _
  have whole : [Code.char '/'].intercalate (codes.splitOn (.char '/')) = codes :=
    List.intercalate_splitOn _
  rw [Text.intercalate, parts]
  exact congrArg Text.mk whole

theorem mem_namesOf_iff {name : Text} :
    name ∈ namesOf path ↔ name ∈ components path ∧ name ≠ "" ∧ name ≠ "." := by
  simp [namesOf]

/-- A path is absolute if it begins with a slash. -/
theorem isAbsolute_ofText (path : Text) : (ofText path).isAbsolute = path.startsWith "/" := by
  rw [Bool.eq_iff_iff, Text.startsWith_slash_iff]
  obtain ⟨codes⟩ := path
  cases codes with
  | nil => simp [isAbsolute, ofText, rootOf, Text.chars]
  | cons code rest =>
    by_cases slash : code = .char '/'
    · subst slash
      refine iff_of_true ?_ ⟨rest, rfl⟩
      simp only [isAbsolute, ofText, rootOf, Text.chars, List.map_cons, Code.shown]
      rw [List.takeWhile_cons_of_pos (by decide), List.length_cons]
      -- One slash, two, or more: there is a root in any case.
      rcases ((rest.map Code.shown).takeWhile (· = '/')).length with _ | _ | _
      all_goals rfl
    · have other : code.shown ≠ '/' := by
        cases code with
        | char c => exact fun same => slash (congrArg Code.char same)
        | half number => exact (by decide : '\ufffd' ≠ '/')
      refine iff_of_false ?_ ?_
      · simp only [isAbsolute, ofText, rootOf, Text.chars, List.map_cons]
        rw [List.takeWhile_cons_of_neg (by simpa using other)]
        simp
      · intro begins
        obtain ⟨_, same⟩ := begins
        exact slash (List.cons.inj (Text.mk.inj same)).1

theorem climbs_iff : (ofText path).climbs = true ↔ (".." : Text) ∈ components path := by
  have dots : (".." : Text) ≠ "" ∧ (".." : Text) ≠ "." := by decide
  simp only [climbs, ofText, List.contains_eq_mem, decide_eq_true_eq, mem_namesOf_iff, dots,
    ne_eq, not_false_eq_true, and_true]

/-- The names of a path are made of its codes. -/
theorem mem_of_mem_namesOf {name : Text} {code : Code} (among : name ∈ namesOf path)
    (present : code ∈ name.codes) : code ∈ path.codes := by
  obtain ⟨codes, split, rfl⟩ := List.mem_map.mp (mem_namesOf_iff.mp among).1
  exact mem_of_mem_splitOn split present

/-- Unless a path leads back, all that is left of it are names. -/
theorem isName_of_mem_namesOf {name : Text} (onward : (".." : Text) ∉ components path)
    (among : name ∈ namesOf path) : IsName name := by
  obtain ⟨component, nonempty, notDot⟩ := mem_namesOf_iff.mp among
  exact {
    nonempty
    notDot
    notDots := fun same => onward (same ▸ component)
    unbroken := unbroken_of_mem_components component }

theorem components_rooted (nonempty : names ≠ []) (valid : ∀ name ∈ names, IsName name) :
    components (rooted names) = ("" : Text) :: names := by
  have codes : (rooted names).codes =
      [Code.char '/'].intercalate ([] :: names.map Text.codes) := by
    obtain ⟨first, rest, rfl⟩ := List.exists_cons_of_ne_nil nonempty
    rfl
  have unbroken : ∀ part ∈ [] :: names.map Text.codes, Code.char '/' ∉ part := by
    simpa using fun name among => (valid name among).unbroken
  simp only [components, Text.splitOn, codes,
    List.splitOn_intercalate _ unbroken (List.cons_ne_nil _ _), List.map_cons, List.map_map]
  exact congrArg _ (List.map_id _)

theorem namesOf_rooted (nonempty : names ≠ []) (valid : ∀ name ∈ names, IsName name) :
    namesOf (rooted names) = names := by
  have kept : names.filter (fun name => decide (name ≠ ("" : Text) ∧ name ≠ ("." : Text))) =
      names := by
    rw [List.filter_eq_self]
    intro name among
    simp [(valid name among).nonempty, (valid name among).notDot]
  rw [namesOf, components_rooted nonempty valid, List.filter_cons_of_neg (by simp)]
  exact kept

namespace IsCanonical

theorem namesOf_ne_nil (canonical : IsCanonical path) : namesOf path ≠ [] := by
  obtain ⟨names, nonempty, valid, rfl⟩ := canonical
  rwa [namesOf_rooted nonempty valid]

theorem isName (canonical : IsCanonical path) {name : Text} (among : name ∈ namesOf path) :
    IsName name := by
  obtain ⟨names, nonempty, valid, rfl⟩ := canonical
  rw [namesOf_rooted nonempty valid] at among
  exact valid name among

/-- A canonical path is spelled by its names. -/
theorem rooted_namesOf (canonical : IsCanonical path) : rooted (namesOf path) = path := by
  obtain ⟨names, nonempty, valid, rfl⟩ := canonical
  rw [namesOf_rooted nonempty valid]

theorem eq_of_namesOf_eq (canonical : IsCanonical path) (canonical' : IsCanonical other)
    (same : namesOf path = namesOf other) : path = other := by
  rw [← canonical.rooted_namesOf, ← canonical'.rooted_namesOf, same]

theorem climbs_eq_false (canonical : IsCanonical path) : (ofText path).climbs = false := by
  simp only [climbs, ofText, List.contains_eq_mem, decide_eq_false_iff_not]
  exact fun among => (canonical.isName among).notDots rfl

end IsCanonical

end KeyEnvelope.FilePath
