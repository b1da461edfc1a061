import KeyEnvelope.Proofs.Assoc
import KeyEnvelope.Strategy.Catalog

/-!
# How finding a strategy fails

A name that is not registered is taken for a module with a class in it. Most of what can be
wrong with it is a matter of the configuration, and is said to be. Some things are not: a module
without a name, a module that is to be found from where the name is used, code of a module that
fails for reasons of its own, and a class that leaves methods open. What the constructor of a
class says is passed on as well.
-/

namespace KeyEnvelope.Strategy.Catalog

variable {catalog : Catalog} {imports : Imports} {moduleName className chosen : Text}
  {store : Storage.Location} {plugin : Plugin}

/-- The catalogue after factories were registered one after the other. -/
def registerAll (catalog : Catalog) (registrations : List (Text × Factory)) : Catalog :=
  registrations.foldl (fun catalog registration => catalog.register registration.1 registration.2)
    catalog

@[simp]
theorem toImports_registerAll (registrations : List (Text × Factory)) :
    (catalog.registerAll registrations).toImports = catalog.toImports := by
  induction registrations generalizing catalog with
  | nil => rfl
  | cons registration rest inductionHypothesis => exact inductionHypothesis

theorem factories_registerAll (registrations : List (Text × Factory)) :
    (catalog.registerAll registrations).factories =
      Assoc.overlay catalog.factories
        (registrations.map fun registration => (registration.1.lower, registration.2)) := by
  induction registrations generalizing catalog with
  | nil => rfl
  | cons registration rest inductionHypothesis => exact inductionHypothesis

theorem get?_registerAll (registrations : List (Text × Factory)) (label : Text) :
    Assoc.get? label (catalog.registerAll registrations).factories =
      ((registrations.reverse.find? fun registration => registration.1.lower = label).map
        Prod.snd).or (Assoc.get? label catalog.factories) := by
  rw [factories_registerAll, Assoc.get?_overlay, ← List.map_reverse, List.find?_map,
    Option.map_map]
  rfl

/-- Without regard to case, there is a factory for the names from the beginning and for those
registered since. -/
theorem get?_registerAll_eq_none_iff (registrations : List (Text × Factory)) (label : Text) :
    Assoc.get? label (catalog.registerAll registrations).factories = none ↔
      Assoc.get? label catalog.factories = none ∧
        label ∉ registrations.map fun registration => registration.1.lower := by
  rw [get?_registerAll, Option.or_eq_none_iff, Option.map_eq_none_iff, List.find?_eq_none,
    and_comm]
  simp [eq_comm]

/-- There is a factory under the name, from the beginning or registered since. -/
def IsRegistered (registrations : List (Text × Factory)) (name : Text) : Prop :=
  name.lower = "default" ∨ name.lower = "null" ∨
    name.lower ∈ registrations.map fun registration => registration.1.lower

theorem get?_lower_eq_none_iff {registrations : List (Text × Factory)} :
    Assoc.get? chosen.lower (registerAll ⟨imports, builtIn.factories⟩ registrations).factories =
      none ↔ ¬IsRegistered registrations chosen := by
  have fromBeginning : Assoc.get? chosen.lower builtIn.factories = none ↔
      chosen.lower ≠ "default" ∧ chosen.lower ≠ "null" := by
    simp only [builtIn, Assoc.get?, eq_comm (b := chosen.lower)]
    split <;> simp_all
  rw [get?_registerAll_eq_none_iff, fromBeginning, IsRegistered, not_or, not_or, and_assoc]

/-- The module has no name, or one that goes from where it is used. -/
def Misdirected (moduleName : Text) : Prop :=
  moduleName = "" ∨ moduleName.startsWith "." = true

instance (moduleName : Text) : Decidable (Misdirected moduleName) :=
  inferInstanceAs (Decidable (_ ∨ _))

/-- What has failed is no matter of the configuration, and nothing is missing that was to be
imported. -/
def IsBare : Failure → Prop
  | .configuration _ | .plugin _ => False
  | _ => True

theorem load_of_misdirected (imports : Imports) (className : Text)
    (misdirected : Misdirected moduleName) :
    ∃ failure, imports.load moduleName className = .error failure ∧ IsBare failure := by
  unfold Imports.load Imports.nameFault?
  by_cases nameless : moduleName = ""
  · rw [if_pos nameless]
    exact ⟨_, rfl, trivial⟩
  · have relative : moduleName.startsWith "." = true := misdirected.resolve_left nameless
    rw [if_neg nameless, if_pos relative]
    exact ⟨_, rfl, trivial⟩

theorem load_of_not_misdirected (imports : Imports) (className : Text)
    (directed : ¬Misdirected moduleName) :
    imports.load moduleName className = imports.loadFrom moduleName className := by
  obtain ⟨named, absolute⟩ := not_or.mp directed
  rw [Imports.load, Imports.nameFault?, if_neg named, if_neg absolute]

section LoadPlugin

variable (catalog : Catalog) (split : splitName? chosen = some (moduleName, className))

include split

theorem loadPlugin_of_bare {failure : Failure}
    (fails : catalog.load moduleName className = .error failure) (bare : IsBare failure) :
    catalog.loadPlugin chosen = .error failure := by
  simp only [loadPlugin, split, fails]
  cases failure with
  | plugin issue => exact bare.elim
  | _ => rfl

/-- Unless something fails that is bare, a class of strategies is found or the configuration is
to blame. -/
theorem loadPlugin_of_not_bare
    (unbroken : ∀ failure, catalog.load moduleName className = .error failure → ¬IsBare failure) :
    (∃ issue, catalog.loadPlugin chosen = .error (.configuration issue) ∧
      ∀ plugin, catalog.load moduleName className ≠ .ok (.plugin plugin)) ∨
    ∃ plugin, catalog.loadPlugin chosen = .ok plugin ∧
      catalog.load moduleName className = .ok (.plugin plugin) := by
  simp only [loadPlugin, split]
  rcases loaded : catalog.load moduleName className with failure | member
  · have notBare := unbroken failure loaded
    cases failure with
    | configuration issue => exact .inl ⟨issue, rfl, by simp⟩
    | plugin issue => exact .inl ⟨_, rfl, by simp⟩
    | _ => exact absurd trivial notBare
  · cases member with
    | plugin plugin => exact .inr ⟨plugin, rfl, rfl⟩
    | other | nameless => exact .inl ⟨_, rfl, by simp⟩

end LoadPlugin

/-- What the name leads to is no matter of the configuration, although something is wrong
with it: a module that cannot be looked for, code of a module that fails for reasons of its own,
or a class that cannot be used. -/
def LeadsAstray (imports : Imports) (chosen : Text) : Prop :=
  ∃ moduleName className, splitName? chosen = some (moduleName, className) ∧
    (Misdirected moduleName ∨
      (∃ failure, imports.loadFrom moduleName className = .error failure ∧ IsBare failure) ∨
      ∃ plugin, imports.loadFrom moduleName className = .ok (.plugin plugin) ∧
        plugin.openMethods ≠ [])

/-- A class that can be used is found, and its constructor fails. -/
def ConstructorFails (catalog : Catalog) (chosen : Text) (store : Storage.Location)
    (failure : Failure) : Prop :=
  ∃ plugin text, catalog.loadPlugin chosen = .ok plugin ∧ plugin.openMethods = [] ∧
    plugin.build (if plugin.acceptsStore then some store else none) = .error text ∧
    failure = .badType text

/-- In terms of what loading comes to: it fails with something bare, or leads to a class that
cannot be used. -/
theorem leadsAstray_iff_of_split (split : splitName? chosen = some (moduleName, className)) :
    LeadsAstray imports chosen ↔
      (∃ failure, imports.load moduleName className = .error failure ∧ IsBare failure) ∨
      ∃ plugin, imports.load moduleName className = .ok (.plugin plugin) ∧
        plugin.openMethods ≠ [] := by
  simp only [LeadsAstray, split, Option.some.injEq, Prod.mk.injEq, exists_and_left,
    exists_eq_left', and_assoc]
  by_cases misdirected : Misdirected moduleName
  · exact iff_of_true (.inl misdirected) (.inl (load_of_misdirected imports className misdirected))
  · rw [load_of_not_misdirected imports className misdirected, or_iff_right misdirected]

theorem construct_cases (catalog : Catalog) (store : Storage.Location)
    (loaded : catalog.loadPlugin chosen = .ok plugin) (closed : plugin.openMethods = []) :
    (∃ product, plugin.construct store = .ok product) ∨
      ∃ failure, plugin.construct store = .error failure ∧
        catalog.ConstructorFails chosen store failure := by
  simp only [Plugin.construct, closed, ne_eq, not_true_eq_false, if_false]
  rcases built : plugin.build (if plugin.acceptsStore then some store else none) with text | product
  · exact .inr ⟨_, rfl, plugin, text, loaded, closed, built, rfl⟩
  · exact .inl ⟨product, rfl⟩

section Resolve

variable {directories : UserDirectories} {name : Option Text} {options : Options}

theorem resolve_of_blank (blank : chosenName name options = "") :
    catalog.resolve directories name (some store) options =
      .error (.configuration .blankStrategy) := by
  rw [resolve, if_pos blank]
  rfl

theorem resolve_of_registered {factory : Factory} (named : chosenName name options ≠ "")
    (registered : Assoc.get? (chosenName name options).lower catalog.factories = some factory) :
    catalog.resolve directories name (some store) options = .ok (factory store, store) := by
  rw [resolve, if_neg named]
  simp only [pure_bind, registered]
  rfl

theorem resolve_of_unregistered (named : chosenName name options ≠ "")
    (unregistered : Assoc.get? (chosenName name options).lower catalog.factories = none) :
    catalog.resolve directories name (some store) options =
      (catalog.loadPlugin (chosenName name options)).bind fun plugin =>
        (plugin.construct store).map fun product => (product, store) := by
  rw [resolve, if_neg named]
  simp only [pure_bind, unregistered]
  rfl

/-- A name that is not registered and leads astray is told from every other by its failure. -/
theorem resolve_of_leadsAstray
    (unregistered : Assoc.get? (chosenName name options).lower catalog.factories = none)
    (astray : LeadsAstray catalog.toImports (chosenName name options)) :
    ∃ failure, catalog.resolve directories name (some store) options = .error failure ∧
      IsBare failure ∧ ¬catalog.ConstructorFails (chosenName name options) store failure := by
  have named : chosenName name options ≠ "" := by
    intro blank
    obtain ⟨_, _, split, -⟩ := astray
    have unsplit : splitName? "" = none := by decide
    rw [blank, unsplit] at split
    cases split
  obtain ⟨moduleName, className, split, -⟩ := id astray
  rw [resolve_of_unregistered named unregistered]
  rcases (leadsAstray_iff_of_split split).mp astray with
    ⟨failure, fails, bare⟩ | ⟨plugin, found, openMethods⟩
  · have lost := loadPlugin_of_bare catalog split fails bare
    refine ⟨failure, by rw [lost]; rfl, bare, ?_⟩
    rintro ⟨plugin, _, loaded, -⟩
    exact absurd (lost.symm.trans loaded) (by simp)
  · rcases loadPlugin_of_not_bare catalog split (by simp [found]) with
      ⟨_, -, notPlugin⟩ | ⟨again, loaded, foundAgain⟩
    · exact absurd found (notPlugin plugin)
    · obtain rfl : plugin = again := by simpa [found] using foundAgain
      rw [loaded]
      rw [Except.bind, Plugin.construct, if_pos openMethods]
      refine ⟨_, rfl, trivial, ?_⟩
      rintro ⟨other, _, loadedOther, closed, -⟩
      obtain rfl : plugin = other := Except.ok.inj (loaded.symm.trans loadedOther)
      exact openMethods closed

/-- There is a strategy on the store, or what is wrong is a matter of the configuration or said
by the constructor of a class. -/
def IsExpected (catalog : Catalog) (chosen : Text) (store : Storage.Location) :
    Except Failure (Product × Storage.Location) → Prop
  | .ok (_, kept) => kept = store
  | .error failure =>
    (∃ issue, failure = .configuration issue) ∨ catalog.ConstructorFails chosen store failure

theorem isExpected_resolve
    (kept : Assoc.get? (chosenName name options).lower catalog.factories ≠ none ∨
      ¬LeadsAstray catalog.toImports (chosenName name options)) :
    catalog.IsExpected (chosenName name options) store
      (catalog.resolve directories name (some store) options) := by
  by_cases blank : chosenName name options = ""
  · rw [resolve_of_blank blank]
    exact .inl ⟨_, rfl⟩
  · cases registered : Assoc.get? (chosenName name options).lower catalog.factories with
    | some factory =>
      rw [resolve_of_registered blank registered]
      rfl
    | none =>
      have straight := kept.resolve_left (not_not_intro registered)
      rw [resolve_of_unregistered blank registered]
      cases split : splitName? (chosenName name options) with
      | none =>
        rw [loadPlugin, split]
        exact .inl ⟨_, rfl⟩
      | some parts =>
        obtain ⟨moduleName, className⟩ := parts
        rw [leadsAstray_iff_of_split split, not_or] at straight
        rcases loadPlugin_of_not_bare catalog split
            fun failure fails bare => straight.1 ⟨failure, fails, bare⟩ with
          ⟨issue, fails, -⟩ | ⟨plugin, loaded, found⟩
        · rw [fails]
          exact .inl ⟨issue, rfl⟩
        · have closed : plugin.openMethods = [] :=
            Decidable.not_not.mp fun openMethods => straight.2 ⟨plugin, found, openMethods⟩
          rw [loaded]
          rcases construct_cases catalog store loaded closed with
            ⟨product, built⟩ | ⟨failure, fails, constructor⟩
          · rw [Except.bind, built]
            rfl
          · rw [Except.bind, fails]
            exact .inr constructor

end Resolve

/-- Whatever was registered and whatever there is to import, finding a strategy fails as
expected, except for the names that lead astray: what they fail with is bare. -/
theorem fails_as_expected_unless_astray (imports : Imports)
    (registrations : List (Text × Factory)) (directories : UserDirectories) (name : Option Text)
    (store : Storage.Location) (options : Options) :
    let catalog := registerAll ⟨imports, builtIn.factories⟩ registrations
    let chosen := chosenName name options
    let outcome := catalog.resolve directories name (some store) options
    let astray := LeadsAstray imports chosen ∧ ¬IsRegistered registrations chosen
    (catalog.IsExpected chosen store outcome ↔ ¬astray) ∧
      (astray → ∃ failure, outcome = .error failure ∧ IsBare failure) := by
  intro catalog chosen outcome astray
  have sameImports : catalog.toImports = imports := toImports_registerAll registrations
  have unexpected (lost : astray) : ∃ failure, outcome = .error failure ∧ IsBare failure ∧
      ¬catalog.ConstructorFails chosen store failure :=
    resolve_of_leadsAstray (get?_lower_eq_none_iff.mpr lost.2) (sameImports ▸ lost.1)
  refine ⟨⟨fun expected lost => ?_, fun kept => isExpected_resolve ?_⟩, fun lost => ?_⟩
  · obtain ⟨failure, fails, bare, notConstructor⟩ := unexpected lost
    rw [fails] at expected
    rcases expected with ⟨issue, rfl⟩ | constructor
    · exact bare
    · exact notConstructor constructor
  · rw [ne_eq, get?_lower_eq_none_iff, sameImports, ← Classical.not_and_iff_not_or_not]
    exact fun lost => kept ⟨lost.2, lost.1⟩
  · obtain ⟨failure, fails, bare, -⟩ := unexpected lost
    exact ⟨failure, fails, bare⟩

/-- A module without a name is not said to be a matter of the configuration. -/
theorem not_expected_without_module :
    let directories : UserDirectories := ⟨.ofText "/settings", .ofText "/data"⟩
    let catalog := registerAll builtIn []
    let outcome := catalog.resolve directories (some ":Strategy") (some .memory) []
    outcome = .error (.badValue "Empty module name") ∧
      ¬catalog.IsExpected ":Strategy" .memory outcome := by
  intro directories catalog outcome
  have fails : outcome = .error (.badValue "Empty module name") := rfl
  refine ⟨fails, ?_⟩
  rw [fails]
  rintro (⟨issue, same⟩ | ⟨plugin, text, -, -, -, same⟩)
  · cases same
  · cases same

end KeyEnvelope.Strategy.Catalog
