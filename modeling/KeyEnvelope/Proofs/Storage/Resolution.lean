import KeyEnvelope.Proofs.FilePath
import KeyEnvelope.Storage.Directory

/-!
# Paths below a base directory

A path that is not refused leads below the base, under the names that are left of it. It is
only these names that count.
-/

namespace KeyEnvelope

namespace FileTree

/-- Names that do not lead back stay as they are. -/
theorem normalized_append {names : List Text} (place : Place) (onward : (".." : Text) ∉ names) :
    normalized (place ++ names) = normalized place ++ names := by
  rw [normalized, List.foldl_append, ← normalized]
  generalize normalized place = way
  induction names generalizing way with
  | nil => simp
  | cons name rest inductionHypothesis =>
    obtain ⟨other, onward⟩ := List.ne_and_not_mem_of_not_mem_cons onward
    rw [List.foldl_cons, if_neg (Ne.symm other), inductionHypothesis onward, List.append_assoc]
    rfl

end FileTree

namespace Storage.Directory

open FilePath

variable {base : FilePath} {path other : Text}

theorem resolve_eq (base : FilePath) (path : Text) :
    resolve base path = if (".." : Text) ∈ components path then
        .error (.configuration (.pathTraversal path))
      else .ok (base.below (namesOf path)) := by
  unfold resolve
  by_cases back : (".." : Text) ∈ components path
  · rw [if_pos back, if_pos (climbs_iff.mpr back)]
  · rw [if_neg back, if_neg (mt climbs_iff.mp back)]
    rfl

theorem resolve_eq_resolve_iff (accepted : (".." : Text) ∉ components path)
    (otherAccepted : (".." : Text) ∉ components other) :
    resolve base path = resolve base other ↔ namesOf path = namesOf other := by
  rw [resolve_eq, resolve_eq, if_neg accepted, if_neg otherAccepted]
  simp [below]

/-- What a path is resolved to leads to where its record is. -/
theorem placeOf_of_resolve {store : Directory} {file : FilePath}
    (resolved : resolve store.base path = .ok file) :
    FileTree.placeOf file.names = store.place path := by
  rw [resolve_eq] at resolved
  split at resolved
  · cases resolved
  · rename_i onward
    obtain rfl := Except.ok.inj resolved
    have kept : (".." : Text) ∉ namesOf path :=
      fun among => (isName_of_mem_namesOf onward among).notDots rfl
    rw [FileTree.placeOf, below, FileTree.normalized_append _ kept, List.map_append]
    rfl

/-- The components of a path are what stands between its slashes. A path is refused if two dots
are among them; else it leads to the base directory and on from there, through the components
that are neither empty nor a dot, and never back. Paths that are not refused lead to the same
place if the same components of them are left. -/
theorem resolve_leads_below_base (base : FilePath) (path : Text) :
    let kept (path : Text) : List Text :=
      (components path).filter fun component => component ≠ "" ∧ component ≠ "."
    (Text.intercalate "/" (components path) = path ∧
        ∀ component ∈ components path, .char '/' ∉ component.codes) ∧
      (if (".." : Text) ∈ components path then
        resolve base path = .error (.configuration (.pathTraversal path))
      else
        resolve base path = .ok ⟨base.root, base.names ++ kept path⟩ ∧
          (∀ name ∈ kept path, IsName name) ∧
          FileTree.normalized (base.names ++ kept path) =
            FileTree.normalized base.names ++ kept path) ∧
      ∀ other, (".." : Text) ∉ components path → (".." : Text) ∉ components other →
        (resolve base path = resolve base other ↔ kept path = kept other) := by
  intro kept
  refine ⟨⟨intercalate_components path, fun _ => unbroken_of_mem_components⟩, ?_, ?_⟩
  · split
    · rename_i back
      rw [resolve_eq, if_pos back]
    · rename_i onward
      have names : ∀ name ∈ kept path, IsName name := fun _ => isName_of_mem_namesOf onward
      refine ⟨?_, names, ?_⟩
      · rw [resolve_eq, if_neg onward]
        rfl
      · exact FileTree.normalized_append _ fun among => (names _ among).notDots rfl
  · intro other accepted otherAccepted
    exact resolve_eq_resolve_iff accepted otherAccepted

example :
    resolve ⟨.single, ["base"]⟩ "//keys/./first/" = .ok ⟨.single, ["base", "keys", "first"]⟩ ∧
      resolve ⟨.single, ["base"]⟩ "keys/../../first" =
        .error (.configuration (.pathTraversal "keys/../../first")) :=
  ⟨rfl, rfl⟩

end Storage.Directory

end KeyEnvelope
