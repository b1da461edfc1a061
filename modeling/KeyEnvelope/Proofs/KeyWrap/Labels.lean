import KeyEnvelope.Proofs.KeyWrap.Registry
import KeyEnvelope.Proofs.Text

/-!
# Who owns a label

Suites may be registered under labels that others had before. A label is owned by the last
suite that bears it, and a suite is listed as long as it owns a label, be it only an alias:
the label of its name may then belong to a later suite.
-/

namespace KeyEnvelope.KeyWrap

/-- Of suites in the order of their registration, the owner of a label is the last one that
bears it. -/
def IsOwner (suites : List Suite) (label : Text) (suite : Suite) : Prop :=
  ∃ earlier later, suites = earlier ++ suite :: later ∧ suite.Bears label ∧
    ∀ other ∈ later, ¬other.Bears label

theorem isOwner_iff_find? {suites : List Suite} {label : Text} {suite : Suite} :
    IsOwner suites label suite ↔
      suites.reverse.find? (fun suite => suite.Bears label) = some suite := by
  simp only [Assoc.find?_reverse_eq_some_iff, decide_eq_true_eq, decide_eq_false_iff_not, IsOwner]

theorem IsOwner.unique {suites : List Suite} {label : Text} {suite other : Suite}
    (owner : IsOwner suites label suite) (otherOwner : IsOwner suites label other) :
    suite = other := by
  rw [isOwner_iff_find?] at owner otherOwner
  exact Option.some.inj (owner.symm.trans otherOwner)

/-- The label of a name is borne by a suite of another name, and no suite of that name was
registered after it. -/
def IsTakenOver (suites : List Suite) (name : Text) : Prop :=
  ∃ earlier later, suites = earlier ++ later ∧ (∀ other ∈ later, other.name ≠ name) ∧
    ∃ other ∈ later, other.Bears name.lower

theorem Suite.bears_lower_name (suite : Suite) : suite.Bears suite.name.lower :=
  List.mem_map_of_mem List.mem_cons_self

/-- The owner of the label of a name has that name, unless the label was taken over. -/
theorem IsOwner.name_eq_iff {suites : List Suite} {suite : Suite} {name : Text}
    (owner : IsOwner suites name.lower suite) : suite.name = name ↔ ¬IsTakenOver suites name := by
  obtain ⟨earlier, later, rfl, bears, others⟩ := owner
  constructor
  · rintro named ⟨before, after, split, unnamed, other, among, taken⟩
    rcases List.append_eq_append_iff.mp split with ⟨between, -, rest⟩ | ⟨between, -, rest⟩
    · cases between with
      | nil =>
        obtain rfl : suite :: later = after := rest
        exact unnamed suite List.mem_cons_self named
      | cons first between =>
        obtain ⟨-, rfl⟩ := List.cons.inj rest
        exact others other (List.mem_append_right _ among) taken
    · exact unnamed suite (by simp [rest]) named
  · intro kept
    by_contra different
    refine kept ⟨earlier, suite :: later, rfl, ?_, suite, List.mem_cons_self, bears⟩
    rintro other among rfl
    rcases List.mem_cons.mp among with rfl | after
    · exact different rfl
    · exact others other after other.bears_lower_name

namespace Registry

variable {suites : List Suite} {suite : Suite} {descriptor label name : Text}

theorem foldl_register (suites registered : List Suite) :
    registered.foldl register (ofSuites suites) = ofSuites (suites ++ registered) := by
  rw [ofSuites, ofSuites, List.foldl_append]

theorem get?_ofSuites_eq_some_iff :
    Assoc.get? label (ofSuites suites).owners = some suite ↔ IsOwner suites label suite := by
  rw [get?_ofSuites, isOwner_iff_find?]

theorem get?_ofSuites_eq_none_iff :
    Assoc.get? label (ofSuites suites).owners = none ↔ ∀ suite ∈ suites, ¬suite.Bears label := by
  simp [get?_ofSuites]

theorem nodup_register {registry : Registry} (distinct : (registry.owners.map Prod.fst).Nodup) :
    ((registry.register suite).owners.map Prod.fst).Nodup := by
  rw [register_owners]
  generalize registry.owners = owners at distinct
  induction suite.labels.map Text.lower generalizing owners with
  | nil => exact distinct
  | cons label rest inductionHypothesis =>
    exact inductionHypothesis _ (Assoc.nodup_set distinct)

theorem nodup_ofSuites (suites : List Suite) : ((ofSuites suites).owners.map Prod.fst).Nodup := by
  induction suites using List.reverseRecOn with
  | nil => exact List.Pairwise.nil
  | append_singleton suites suite inductionHypothesis =>
    rw [ofSuites_concat]
    exact nodup_register inductionHypothesis

theorem mem_names_ofSuites_iff :
    name ∈ (ofSuites suites).names ↔ ∃ suite label, IsOwner suites label suite ∧ suite.name = name := by
  simp only [names, List.mem_eraseDups, List.mem_mergeSort, List.mem_map, Prod.exists]
  constructor
  · rintro ⟨label, suite, among, rfl⟩
    have owner := (Assoc.get?_eq_some_iff_mem (nodup_ofSuites suites)).mpr among
    exact ⟨suite, label, get?_ofSuites_eq_some_iff.mp owner, rfl⟩
  · rintro ⟨suite, label, owner, rfl⟩
    exact ⟨label, suite, Assoc.mem_of_get?_eq_some (get?_ofSuites_eq_some_iff.mpr owner), rfl⟩

theorem get_ofSuites_eq_ok_iff :
    (ofSuites suites).get descriptor = .ok suite ↔
      descriptor.isBlankText = false ∧ IsOwner suites descriptor.trim.lower suite := by
  rw [get_eq_ok_iff, ← get?_ofSuites_eq_some_iff]
  rfl

theorem get_ofSuites_eq_configuration_iff :
    (∃ issue, (ofSuites suites).get descriptor = .error (.configuration issue)) ↔
      descriptor.isBlankText = true ∨ ∀ suite ∈ suites, ¬suite.Bears descriptor.trim.lower := by
  rw [← get?_ofSuites_eq_none_iff]
  change _ ↔ _ ∨ (ofSuites suites).find? descriptor = none
  unfold get
  cases descriptor.isBlankText <;> cases (ofSuites suites).find? descriptor <;> simp

/-- Whatever suites are registered, what a descriptor leads to is the last suite with a label
that reads like it, in lower case and without blanks around it. A suite is listed until later
suites have taken all of its labels. -/
theorem labels_belong_to_last (suites registered : List Suite) :
    let registry := registered.foldl register (ofSuites suites)
    let history := suites ++ registered
    (∀ descriptor suite, registry.get descriptor = .ok suite ↔
      descriptor.isBlankText = false ∧ IsOwner history descriptor.trim.lower suite) ∧
    (∀ descriptor, (∃ issue, registry.get descriptor = .error (.configuration issue)) ↔
      descriptor.isBlankText = true ∨
        ∀ suite ∈ history, ¬suite.Bears descriptor.trim.lower) ∧
    (registry.names.Pairwise fun name next => name.atMost next = true ∧ name ≠ next) ∧
    (∀ name, name ∈ registry.names ↔
      ∃ suite label, IsOwner history label suite ∧ suite.name = name) ∧
    ∀ earlier suite later, history = earlier ++ suite :: later → suite.name ∉ registry.names →
      ∀ label ∈ suite.labels, ∃ other ∈ later, other.Bears label.lower := by
  intro registry history
  have built : registry = ofSuites history := foldl_register suites registered
  rw [built]
  refine ⟨fun descriptor suite => get_ofSuites_eq_ok_iff,
    fun descriptor => get_ofSuites_eq_configuration_iff, Text.increasing_of_mergeSort _,
    fun name => mem_names_ofSuites_iff, ?_⟩
  intro earlier suite later split unlisted label among
  by_contra unclaimed
  apply unlisted
  refine mem_names_ofSuites_iff.mpr ⟨suite, label.lower, ⟨earlier, later, split, ?_, ?_⟩, rfl⟩
  · exact List.mem_map_of_mem among
  · intro other present bears
    exact unclaimed ⟨other, present, bears⟩

/-- A name that is listed, and has no blanks at its ends, leads to the owner of its label. That
suite has the name itself, unless the label was taken over from the suite that has. -/
theorem listed_name_leads_to_owner (suites registered : List Suite) (name : Text)
    (listed : name ∈ (registered.foldl register (ofSuites suites)).names) :
    let registry := registered.foldl register (ofSuites suites)
    let history := suites ++ registered
    (name.isBlankText = true → registry.get name = .error (.configuration .blankSuite)) ∧
    (name.isBlankText = false → name.trim = name →
      ∃ suite, registry.get name = .ok suite ∧ IsOwner history name.lower suite ∧
        (suite.name = name ↔ ¬IsTakenOver history name)) := by
  have built := foldl_register suites registered
  dsimp only
  rw [built] at listed ⊢
  obtain ⟨named, -, ⟨earlier, later, split, -, -⟩, rfl⟩ := mem_names_ofSuites_iff.mp listed
  refine ⟨fun blank => by rw [get, if_pos blank], fun present trimmed => ?_⟩
  cases found : Assoc.get? named.name.lower (ofSuites (suites ++ registered)).owners with
  | none =>
    have unborne := get?_ofSuites_eq_none_iff.mp found named (by simp [split])
    exact absurd named.bears_lower_name unborne
  | some suite =>
    have owner := get?_ofSuites_eq_some_iff.mp found
    exact ⟨suite, get_ofSuites_eq_ok_iff.mpr ⟨present, by rwa [trimmed]⟩, owner, owner.name_eq_iff⟩

end Registry

/-- A suite with the name of another one among its labels. -/
def Suite.usurper : Suite :=
  ⟨"Custom", .padded, ["AESWrap"], [16, 24, 32]⟩

theorem Suite.usurper_bears : Suite.usurper.Bears (Text.lower "AESWrap") :=
  List.mem_map_of_mem (.tail _ (.head _))

namespace Registry

set_option maxRecDepth 4000 in
/-- The suites of the library stay listed for their aliases beside a suite that takes the
label of the first one's name. -/
theorem mem_names_beside_usurper {name : Text} (named : name = "AESWrap" ∨ name = "AESWrapPad") :
    name ∈ ([Suite.usurper].foldl register (ofSuites Suite.builtIn)).names := by
  rw [foldl_register]
  apply mem_names_ofSuites_iff.mpr
  rcases named with rfl | rfl
  · exact ⟨.aesWrap, "rfc3394", ⟨[], [.aesWrapPad, .usurper], rfl, by decide, by decide⟩, rfl⟩
  · exact ⟨.aesWrapPad, "rfc5649", ⟨[.aesWrap], [.usurper], rfl, by decide, by decide⟩, rfl⟩

set_option maxRecDepth 4000 in
theorem listed_name_leads_to_owner_beside_usurper :
    let history := Suite.builtIn ++ [Suite.usurper]
    let registry := [Suite.usurper].foldl register (ofSuites Suite.builtIn)
    (¬IsTakenOver history "AESWrapPad" ∧
      ∃ suite, registry.get "AESWrapPad" = .ok suite ∧ suite.name = "AESWrapPad") ∧
    IsTakenOver history "AESWrap" ∧
      ∃ suite, registry.get "AESWrap" = .ok suite ∧ suite.name ≠ "AESWrap" := by
  intro history registry
  constructor
  · obtain ⟨suite, found, owner, own⟩ := (listed_name_leads_to_owner Suite.builtIn [.usurper]
      "AESWrapPad" (mem_names_beside_usurper (.inr rfl))).2 (by decide) (by decide)
    have last : IsOwner history (Text.lower "AESWrapPad") .aesWrapPad :=
      ⟨[.aesWrap], [.usurper], rfl, Suite.aesWrapPad.bears_lower_name, by decide⟩
    obtain rfl := last.unique owner
    exact ⟨own.mp rfl, _, found, rfl⟩
  · obtain ⟨suite, found, -, own⟩ := (listed_name_leads_to_owner Suite.builtIn [.usurper]
      "AESWrap" (mem_names_beside_usurper (.inl rfl))).2 (by decide) (by decide)
    have takenOver : IsTakenOver history "AESWrap" :=
      ⟨Suite.builtIn, [.usurper], rfl, by decide, .usurper, List.mem_cons_self, Suite.usurper_bears⟩
    exact ⟨takenOver, suite, found, fun named => own.mp named takenOver⟩

set_option maxRecDepth 4000 in
/-- A name that is listed need not be the name of the suite that it leads to. -/
theorem not_listed_name_leads_to_its_suite :
    ¬∀ (suites registered : List Suite) (name : Text),
      name ∈ (registered.foldl register (ofSuites suites)).names →
      ∃ suite, (registered.foldl register (ofSuites suites)).get name = .ok suite ∧
        suite.name = name := by
  intro own
  obtain ⟨suite, found, named⟩ := own Suite.builtIn [.usurper] "AESWrap"
    (mem_names_beside_usurper (.inl rfl))
  rw [foldl_register] at found
  obtain ⟨-, owner⟩ := get_ofSuites_eq_ok_iff.mp found
  have trimmed : Text.trim "AESWrap" = "AESWrap" := by decide
  rw [trimmed] at owner
  have last : IsOwner (Suite.builtIn ++ [Suite.usurper]) (Text.lower "AESWrap") .usurper :=
    ⟨Suite.builtIn, [], rfl, Suite.usurper_bears, by simp⟩
  obtain rfl := last.unique owner
  exact absurd named (by decide)

end Registry

end KeyEnvelope.KeyWrap
