import KeyEnvelope.Proofs.Strategy.Catalog
import KeyEnvelope.Proofs.Text.Case

/-!
# Strategies under the names they are registered with

A factory is registered under the whole of its name, and looked for under a name without the
blanks at its ends. So a name without such blanks leads to the factory that was registered last
under it, whatever its case. With them, what was registered under the name is never found.
-/

namespace KeyEnvelope.Strategy.Catalog

variable {catalog other : Catalog} {registrations : List (Text × Factory)} {label name : Text}
  {factory : Factory} {directories : UserDirectories} {store : Storage.Location}
  {given : Option Text} {options : Options}

/-- Of the factories registered under names that read alike in lower case, the last one. -/
def IsLast (registrations : List (Text × Factory)) (label : Text) (factory : Factory) : Prop :=
  ∃ earlier name later, registrations = earlier ++ (name, factory) :: later ∧
    name.lower = label ∧ ∀ other ∈ later, other.1.lower ≠ label

/-- A strategy is asked for by its name, which is given, or stands in the options if none is. -/
def IsAskedFor (name : Text) (given : Option Text) (options : Options) : Prop :=
  given = some name ∨ Text.given? given = none ∧ Setting.strategy.resolve options = name

theorem isLast_iff_find? :
    IsLast registrations label factory ↔
      (registrations.reverse.find? fun registration => registration.1.lower = label).map
        Prod.snd = some factory := by
  simp only [Option.map_eq_some_iff, Prod.exists, exists_eq_right,
    Assoc.find?_reverse_eq_some_iff, decide_eq_true_eq, decide_eq_false_iff_not, IsLast]
  constructor
  · intro ⟨earlier, name, later, split, named, others⟩
    exact ⟨name, earlier, later, split, named, others⟩
  · intro ⟨name, earlier, later, split, named, others⟩
    exact ⟨earlier, name, later, split, named, others⟩

/-- Whatever was in the catalogue before, it holds the last of the factories registered. -/
theorem get?_registerAll_of_mem (catalog : Catalog)
    (registered : name ∈ registrations.map Prod.fst) :
    ∃ factory, IsLast registrations name.lower factory ∧
      Assoc.get? name.lower (catalog.registerAll registrations).factories = some factory := by
  obtain ⟨registration, among, rfl⟩ := List.mem_map.mp registered
  have found : ∃ last, (registrations.reverse.find? fun other =>
      other.1.lower = registration.1.lower) = some last := by
    rw [← Option.isSome_iff_exists, List.find?_isSome]
    exact ⟨registration, List.mem_reverse.mpr among, decide_eq_true rfl⟩
  obtain ⟨last, found⟩ := found
  refine ⟨last.2, isLast_iff_find?.mpr (by rw [found]; rfl), ?_⟩
  rw [get?_registerAll, found]
  rfl

/-- What is registered under other labels does not change what is found under a label. -/
theorem get?_registerAll_filter {absent : Text} (different : label ≠ absent) :
    Assoc.get? label (catalog.registerAll
        (registrations.filter fun registration => registration.1.lower ≠ absent)).factories =
      Assoc.get? label (catalog.registerAll registrations).factories := by
  have kept (registration : Text × Factory) :
      (registration.1.lower ≠ absent ∧ registration.1.lower = label) ↔
        registration.1.lower = label := by
    constructor
    · exact fun both => both.2
    · exact fun same => ⟨same ▸ different, same⟩
  rw [get?_registerAll, get?_registerAll, ← List.filter_reverse, List.find?_filter]
  simp only [decide_eq_true_eq, kept]

/-- Finding a strategy depends on what can be imported and on the factory under the name alone. -/
theorem resolve_congr (sameImports : other.toImports = catalog.toImports)
    (sameFactory : Assoc.get? (chosenName given options).lower other.factories =
      Assoc.get? (chosenName given options).lower catalog.factories) :
    other.resolve directories given (some store) options =
      catalog.resolve directories given (some store) options := by
  have samePlugin : other.loadPlugin = catalog.loadPlugin := by
    funext chosen
    unfold loadPlugin
    rw [sameImports]
  rw [resolve, resolve, sameFactory, samePlugin]

theorem chosenName_of_isAskedFor (nonempty : name ≠ "") (asked : IsAskedFor name given options) :
    chosenName given options = name.trim := by
  rcases asked with rfl | ⟨absent, rfl⟩
  · obtain ⟨codes⟩ := name
    cases codes with
    | nil => exact absurd rfl nonempty
    | cons code rest => rfl
  · rw [chosenName, absent]
    rfl

/-- Whatever else is registered, asking for a registered name leads to the factory that was
registered last under it without regard to case, if the name has no blanks at its ends. If it has,
all goes as though nothing had been registered under it. -/
theorem registered_name_is_found_unless_padded (imports : Imports)
    (registrations : List (Text × Factory)) (directories : UserDirectories)
    (store : Storage.Location) (given : Option Text) (options : Options) (name : Text)
    (registered : name ∈ registrations.map Prod.fst) (present : name.isBlankText = false)
    (asked : IsAskedFor name given options) :
    let start : Catalog := ⟨imports, builtIn.factories⟩
    let outcome := (start.registerAll registrations).resolve directories given (some store) options
    let others := registrations.filter fun registration => registration.1.lower ≠ name.lower
    (name.trim = name → ∃ factory, IsLast registrations name.lower factory ∧
      outcome = .ok (factory store, store)) ∧
    (name.trim ≠ name →
      outcome = (start.registerAll others).resolve directories given (some store) options) := by
  intro start outcome others
  have nonempty : name ≠ "" := by
    rintro rfl
    cases present
  have chosen := chosenName_of_isAskedFor nonempty asked
  refine ⟨fun trimmed => ?_, fun padded => ?_⟩
  · obtain ⟨factory, last, found⟩ := get?_registerAll_of_mem start registered
    rw [trimmed] at chosen
    exact ⟨factory, last, resolve_of_registered (chosen ▸ nonempty) (chosen ▸ found)⟩
  · refine (resolve_congr ?_ ?_).symm
    · rw [toImports_registerAll, toImports_registerAll]
    · rw [chosen]
      exact get?_registerAll_filter (Text.lower_trim_ne padded)

/-- Two factories for one name, and one for the name with a blank in front of it. -/
def backups : List (Text × Factory) :=
  [("Backup", fun _ => .passing), (" backup", fun _ => .passing), ("BACKUP", fun _ => .enveloping)]

/-- Without the blank, the later of the two factories is found. With it, what is registered
under the name itself does not count. -/
theorem registered_name_is_found_among_backups :
    let directories : UserDirectories := ⟨.ofText "/settings", .ofText "/data"⟩
    let outcome (given : Text) :=
      (builtIn.registerAll backups).resolve directories (some given) (some .memory) []
    (∃ factory, IsLast backups (Text.lower "Backup") factory ∧
      outcome "Backup" = .ok (factory .memory, .memory)) ∧
    outcome " backup" = (builtIn.registerAll
      [("Backup", fun _ => .passing), ("BACKUP", fun _ => .enveloping)]).resolve directories
        (some " backup") (some .memory) [] := by
  intro directories outcome
  have found (name : Text) := registered_name_is_found_unless_padded .builtIn backups
    directories .memory (some name) [] name
  constructor
  · exact (found "Backup" List.mem_cons_self rfl (.inl rfl)).1 (by decide)
  · exact (found " backup" (.tail _ (.head _)) rfl (.inl rfl)).2 (by decide)

/-- A name with blanks around it is not found, although a factory is registered under it. -/
theorem not_found_with_blanks :
    let directories : UserDirectories := ⟨.ofText "/settings", .ofText "/data"⟩
    let registrations : List (Text × Factory) := [(" spaced ", fun _ => .passing)]
    let outcome := (builtIn.registerAll registrations).resolve directories (some " spaced ")
      (some .memory) []
    IsLast registrations (Text.lower " spaced ") (fun _ => .passing) ∧
      Text.isBlankText " spaced " = false ∧
      outcome = .error (.configuration (.unknownStrategy "spaced")) := by
  intro directories registrations outcome
  exact ⟨⟨[], " spaced ", [], rfl, rfl, nofun⟩, rfl, rfl⟩

end KeyEnvelope.Strategy.Catalog
