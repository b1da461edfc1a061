import KeyEnvelope.KeyWrap.Wrapping
import KeyEnvelope.Proofs.Assoc
import Mathlib.Data.List.Induction

/-!
# Suites in a registry

Registering a suite gives it all of its labels, whoever had them before. Of suites that are
registered one after the other, a label therefore belongs to the last one that bears it. The
suites of the library are all used with the key lengths of the cipher.
-/

namespace KeyEnvelope.KeyWrap

/-- The suite has a label that reads like this in lower case. -/
def Suite.Bears (suite : Suite) (label : Text) : Prop :=
  label ∈ suite.labels.map Text.lower

instance (suite : Suite) (label : Text) : Decidable (suite.Bears label) :=
  inferInstanceAs (Decidable (label ∈ suite.labels.map Text.lower))

namespace Registry

variable {registry : Registry} {suite : Suite} {suites : List Suite} {descriptor label : Text}

theorem register_owners :
    (registry.register suite).owners =
      (suite.labels.map Text.lower).foldl (fun owners label => Assoc.set label suite owners)
        registry.owners := by
  rw [register, List.foldl_map]

theorem get?_register :
    Assoc.get? label (registry.register suite).owners =
      if suite.Bears label then some suite else Assoc.get? label registry.owners := by
  rw [register_owners]
  exact Assoc.get?_foldl_set _

@[simp]
theorem ofSuites_concat (suites : List Suite) (suite : Suite) :
    ofSuites (suites ++ [suite]) = (ofSuites suites).register suite := by
  simp [ofSuites]

theorem get?_ofSuites (suites : List Suite) (label : Text) :
    Assoc.get? label (ofSuites suites).owners =
      suites.reverse.find? fun suite => suite.Bears label := by
  induction suites using List.reverseRecOn with
  | nil => rfl
  | append_singleton suites suite inductionHypothesis =>
    rw [ofSuites_concat, get?_register, List.reverse_concat, List.find?_cons, inductionHypothesis]
    by_cases bears : suite.Bears label <;> simp [bears]

theorem get_eq_ok_iff :
    registry.get descriptor = .ok suite ↔
      descriptor.isBlankText = false ∧ registry.find? descriptor = some suite := by
  unfold get
  cases descriptor.isBlankText <;> cases registry.find? descriptor <;> simp

theorem mem_of_get_ofSuites (found : (ofSuites suites).get descriptor = .ok suite) :
    suite ∈ suites := by
  obtain ⟨-, owner⟩ := get_eq_ok_iff.mp found
  rw [find?, get?_ofSuites] at owner
  exact List.mem_reverse.mp (List.mem_of_find?_eq_some owner)

theorem get_builtIn (found : builtIn.get descriptor = .ok suite) :
    suite = .aesWrap ∨ suite = .aesWrapPad := by
  simpa [Suite.builtIn] using mem_of_get_ofSuites found

set_option maxRecDepth 4000 in
/-- Every suite of the library is found under its name. -/
theorem get_name_builtIn : ∀ suite ∈ Suite.builtIn, builtIn.get suite.name = .ok suite := by
  intro suite member
  cases member with
  | head => rfl
  | tail _ member =>
    obtain rfl := List.mem_singleton.mp member
    rfl

end Registry

theorem Suite.bits_of_admitsKekBits {suite : Suite} {bits : Int}
    (member : suite = .aesWrap ∨ suite = .aesWrapPad)
    (admitted : suite.admitsKekBits bits = true) : bits = 128 ∨ bits = 192 ∨ bits = 256 := by
  have lengths : suite.kekLengths = [16, 24, 32] := by rcases member with rfl | rfl <;> rfl
  simp only [admitsKekBits, lengths, Bool.and_eq_true, beq_iff_eq, List.contains_eq_mem,
    List.mem_cons, List.not_mem_nil, or_false, decide_eq_true_eq] at admitted
  omega

end KeyEnvelope.KeyWrap
