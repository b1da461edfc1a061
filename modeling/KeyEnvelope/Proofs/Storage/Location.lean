import KeyEnvelope.Proofs.FilePath
import KeyEnvelope.Proofs.Uri
import KeyEnvelope.Proofs.Uri.Encoding
import KeyEnvelope.Storage.Location

/-!
# Where a URI leads

A path that is spelled out behind `file://` leads to the directory at that path. A URI of another
scheme or host is refused as a matter of the configuration; a malformed authority is refused as
well, but not as one. The directory is absolute, unless the URI has neither two slashes behind its
scheme nor one at the beginning of its path.
-/

namespace KeyEnvelope

variable {directories : UserDirectories} {text path host : Text} {base : FilePath} {bytes : Bytes}
  {spelling : List Char}

@[simp]
theorem UserDirectories.isAbsolute_store (directories : UserDirectories) :
    directories.store.isAbsolute = directories.data.isAbsolute := rfl

namespace Uri

/-- Neither is there an authority behind the scheme, nor does the path begin with a slash. -/
def IsRootless (text : Text) : Prop :=
  ¬[.char '/', .char '/'] <+: behindScheme text ∧ percentDecoded (pathOf text) ≠ "" ∧
    (percentDecoded (pathOf text)).startsWith "/" = false

/-- Behind an authority, a path begins with a slash also when it is decoded. -/
theorem isRootless_iff :
    IsRootless text ↔ percentDecoded (pathOf text) ≠ "" ∧
      (percentDecoded (pathOf text)).startsWith "/" = false := by
  constructor
  · exact fun rootless => rootless.2
  · intro ⟨nonempty, relative⟩
    refine ⟨fun slashes => ?_, nonempty, relative⟩
    rcases pathOf_of_slashes slashes with empty | rooted
    · rw [empty] at nonempty
      exact nonempty percentDecoded_empty
    · rw [startsWith_percentDecoded rooted] at relative
      cases relative

/-- What spells bytes has no blank in it, and nothing that ends a path. -/
theorem harmless_of_spells (spells : Spells bytes spelling) :
    ∀ code ∈ (Text.ofChars spelling).codes,
      0x20 < code.number ∧ code ≠ .char '?' ∧ code ≠ .char '#' := by
  rw [Text.ofChars, List.forall_mem_map]
  intro c among
  rcases plain_or_percent_of_spells spells c among with plain | rfl
  · refine ⟨(isPlain_bounds plain).1, ?_, ?_⟩ <;> rintro ⟨⟩ <;> cases plain
  · decide

theorem read_of_file (own : host = "" ∨ host = "localhost")
    (spells : Spells (UInt8.ofNat 0x2f :: bytes) spelling) :
    read ("file://" ++ host ++ Text.ofChars spelling) =
      .ok ⟨"file", host, Text.ofChars spelling⟩ := by
  have harmless := harmless_of_spells spells
  obtain ⟨rest, rfl⟩ := exists_of_spells_slash spells
  have inFront : ∀ code ∈ Text.codes ("file://" ++ host), 0x20 < code.number := by
    rcases own with rfl | rfl <;> decide
  have visible : ∀ code ∈ Text.codes ("file://" ++ host ++ Text.ofChars ('/' :: rest)),
      0x20 < code.number :=
    List.forall_mem_append.mpr ⟨inFront, fun code among => (harmless code among).1⟩
  have unbroken : ∀ code ∈ host.codes, code ∉ [Code.char '/', .char '?', .char '#'] := by
    rcases own with rfl | rfl <;> decide
  have accepted : checkAuthority host.codes = .ok () := by
    rcases own with rfl | rfl <;> rfl
  exact read_append (Text.codes "file") visible (by decide) (by decide) unbroken accepted
    fun code among => (harmless code (List.mem_cons_of_mem _ among)).2

end Uri

namespace Storage.Location

theorem ofFilePath_of_own (own : path = "" ∨ path = "/") :
    ofFilePath directories path = .directory directories.store :=
  if_pos own

theorem ofFilePath_of_not_own (given : ¬(path = "" ∨ path = "/")) :
    ofFilePath directories path = .directory (.ofText path) :=
  if_neg given

theorem given?_of_ne_empty (nonempty : text ≠ "") : Text.given? (some text) = some text := by
  obtain ⟨codes⟩ := text
  cases codes with
  | nil => exact absurd rfl nonempty
  | cons code rest => rfl

theorem ofUri_of_read_eq_error {fault : Uri.Fault} (nonempty : text ≠ "")
    (refused : Uri.read text = .error fault) :
    ofUri directories (some text) = .error (.badValue fault.message) := by
  rw [ofUri, given?_of_ne_empty nonempty]
  simp only [refused]

theorem ofUri_of_read_eq_ok {parsed : Uri} (nonempty : text ≠ "")
    (accepted : Uri.read text = .ok parsed) :
    ofUri directories (some text) =
      if parsed.scheme = "memory" then .ok .memory
      else if parsed.scheme = "file" then
        if parsed.authority ≠ "" ∧ parsed.authority ≠ "localhost" then
          .error (.configuration (.remoteUri text))
        else .ok (ofFilePath directories (Uri.percentDecoded parsed.path))
      else .error (.configuration (.unsupportedScheme text)) := by
  rw [ofUri, given?_of_ne_empty nonempty]
  simp only [accepted]

theorem ofUri_of_file (own : host = "" ∨ host = "localhost")
    (accepted : Uri.read text = .ok ⟨"file", host, path⟩) :
    ofUri directories (some text) = .ok (ofFilePath directories (Uri.percentDecoded path)) := by
  have nonempty : text ≠ "" := by
    rintro rfl
    cases accepted
  have file : ("file" : Text) ≠ "memory" := by decide
  have near : ¬(host ≠ "" ∧ host ≠ "localhost") := by simpa [or_iff_not_imp_left] using own
  rw [ofUri_of_read_eq_ok nonempty accepted, if_neg file, if_pos rfl, if_neg near]

/-- A URI that leads to a directory leads there by its path. -/
theorem ofFilePath_pathOf (located : ofUri directories (some text) = .ok (.directory base)) :
    ofFilePath directories (Uri.percentDecoded (Uri.pathOf text)) = .directory base := by
  by_cases empty : text = ""
  · subst empty
    have path : Uri.percentDecoded (Uri.pathOf "") = "" := Uri.percentDecoded_empty
    rw [path]
    exact Except.ok.inj located
  · cases accepted : Uri.checkAuthority (Uri.authorityOf text) with
    | error fault =>
      have refused : Uri.read text = .error fault := by rw [Uri.read_eq, accepted]; rfl
      rw [ofUri_of_read_eq_error empty refused] at located
      cases located
    | ok =>
      have read := Uri.read_eq text
      rw [accepted] at read
      rw [ofUri_of_read_eq_ok empty read] at located
      split at located
      · cases located
      · split at located
        · split at located
          · cases located
          · exact Except.ok.inj located
        · cases located

/-- Does a URI, or none, select the directory that belongs to the user? -/
def SelectsOwn (uri : Option Text) : Prop :=
  ∀ text, uri = some text →
    Uri.percentDecoded (Uri.pathOf text) = "" ∨ Uri.percentDecoded (Uri.pathOf text) = "/"

theorem not_isRootless_of_selectsOwn (own : SelectsOwn (some text)) : ¬Uri.IsRootless text := by
  rw [Uri.isRootless_iff]
  rintro ⟨nonempty, relative⟩
  rcases own text rfl with empty | slash
  · exact nonempty empty
  · rw [slash] at relative
    exact absurd relative (by decide)

theorem base_of_selectsOwn {uri : Option Text} (own : SelectsOwn uri)
    (located : ofUri directories uri = .ok (.directory base)) : base = directories.store := by
  cases uri with
  | none => exact (Location.directory.inj (Except.ok.inj located)).symm
  | some text =>
    have led := ofFilePath_pathOf located
    rw [ofFilePath_of_own (own text rfl)] at led
    exact (Location.directory.inj led).symm

theorem base_of_not_selectsOwn (given : ¬SelectsOwn (some text))
    (located : ofUri directories (some text) = .ok (.directory base)) :
    base = .ofText (Uri.percentDecoded (Uri.pathOf text)) := by
  have led := ofFilePath_pathOf located
  rw [ofFilePath_of_not_own fun own => given fun _ same => Option.some.inj same ▸ own] at led
  exact (Location.directory.inj led).symm

/-- The directory of a URI is absolute, and so the same for whoever uses it, unless the URI has no
root: then its path is used as it stands. A URI that selects the directory of the user leads to an
absolute one exactly if the data of the user are in one. -/
theorem base_is_absolute_unless_rootless (directories : UserDirectories) (uri : Option Text)
    (base : FilePath) (located : ofUri directories uri = .ok (.directory base)) :
    (SelectsOwn uri → base = directories.store) ∧
    (base.isAbsolute = true ↔ (SelectsOwn uri → directories.data.isAbsolute = true) ∧
      ¬∃ text, uri = some text ∧ Uri.IsRootless text) ∧
    ∀ text, uri = some text → Uri.IsRootless text →
      base = .ofText (Uri.percentDecoded (Uri.pathOf text)) := by
  refine ⟨fun own => base_of_selectsOwn own located, ?_, ?_⟩
  · by_cases own : SelectsOwn uri
    · rw [base_of_selectsOwn own located, UserDirectories.isAbsolute_store]
      refine ⟨fun absolute => ⟨fun _ => absolute, ?_⟩, fun kept => kept.1 own⟩
      rintro ⟨text, rfl, rootless⟩
      exact not_isRootless_of_selectsOwn own rootless
    · obtain ⟨text, rfl⟩ : ∃ text, uri = some text :=
        Option.ne_none_iff_exists'.mp fun absent => own (by simp [SelectsOwn, absent])
      have nonempty : Uri.percentDecoded (Uri.pathOf text) ≠ "" :=
        fun empty => own fun _ same => Option.some.inj same ▸ .inl empty
      rw [base_of_not_selectsOwn own located, FilePath.isAbsolute_ofText]
      simp [own, Uri.isRootless_iff, nonempty]
  · rintro text rfl rootless
    exact base_of_not_selectsOwn (fun own => not_isRootless_of_selectsOwn own rootless) located

/-- Without any slash in front of it, the path of a URI is used as it stands. -/
theorem ofUri_without_slash (directories : UserDirectories) :
    ofUri directories (some "file:srv/keys") = .ok (.directory (.ofText "srv/keys")) := by
  have accepted : Uri.read "file:srv/keys" = .ok ⟨"file", "", "srv/keys"⟩ := rfl
  have decoded : Uri.percentDecoded "srv/keys" = "srv/keys" :=
    Uri.percentDecoded_of_plain (List.all_eq_true.mp rfl)
  rw [ofUri_of_file (.inl rfl) accepted, decoded]
  exact congrArg Except.ok (ofFilePath_of_not_own (by decide))

/-- With data in an absolute directory, a URI with nothing but a path has no root. -/
theorem base_is_as_given_without_root :
    let directories : UserDirectories :=
      ⟨.ofText "/home/u/.config/key-guardian", .ofText "/home/u/.local/share/key-guardian"⟩
    ofUri directories (some "file:srv/keys") = .ok (.directory (.ofText "srv/keys")) ∧
      directories.data.isAbsolute = true ∧ Uri.IsRootless "file:srv/keys" := by
  intro directories
  have located := ofUri_without_slash directories
  have absolute : directories.data.isAbsolute = true := by decide
  have rootless := (base_is_absolute_unless_rootless directories (some "file:srv/keys")
    (.ofText "srv/keys") located).2.1.not
  simp only [absolute, implies_true, true_and, Option.some.injEq, exists_eq_left', not_not]
    at rootless
  exact ⟨located, absolute, rootless.mp (by decide)⟩

theorem base_is_relative_without_slash :
    let directories : UserDirectories :=
      ⟨.ofText "/home/u/.config/key-guardian", .ofText "/home/u/.local/share/key-guardian"⟩
    directories.settings.isAbsolute = true ∧ directories.data.isAbsolute = true ∧
      ∃ base, ofUri directories (some "file:srv/keys") = .ok (.directory base) ∧
        base.isAbsolute = false := by
  intro directories
  exact ⟨by decide, by decide, _, ofUri_without_slash directories, by decide⟩

theorem ofUri_of_malformed (directories : UserDirectories)
    (malformed : Uri.Malformed (Uri.authorityOf text)) :
    ∃ message, ofUri directories (some text) = .error (.badValue message) := by
  have nonempty : text ≠ "" := by
    rintro rfl
    exact absurd malformed (by decide)
  cases accepted : Uri.checkAuthority (Uri.authorityOf text) with
  | error fault =>
    have refused : Uri.read text = .error fault := by rw [Uri.read_eq, accepted]; rfl
    exact ⟨fault.message, ofUri_of_read_eq_error nonempty refused⟩
  | ok => exact absurd malformed (Uri.checkAuthority_eq_ok_iff.mp accepted)

theorem ofUri_of_not_malformed (directories : UserDirectories)
    (wellFormed : ¬Uri.Malformed (Uri.authorityOf text)) :
    (∃ location, ofUri directories (some text) = .ok location) ∨
      ∃ issue, ofUri directories (some text) = .error (.configuration issue) := by
  by_cases empty : text = ""
  · subst empty
    exact .inl ⟨_, rfl⟩
  · have read := Uri.read_eq text
    rw [Uri.checkAuthority_eq_ok_iff.mpr wellFormed] at read
    rw [ofUri_of_read_eq_ok empty read]
    split
    · exact .inl ⟨_, rfl⟩
    split
    · split
      · exact .inr ⟨_, rfl⟩
      · exact .inl ⟨_, rfl⟩
    · exact .inr ⟨_, rfl⟩

/-- A URI leads to a store, or what is wrong with it is a matter of the configuration, unless its
authority is malformed: that is refused by reading it, whatever its scheme. -/
theorem leads_to_store_unless_malformed (directories : UserDirectories) (uri : Option Text) :
    let outcome := ofUri directories uri
    let malformed := ∃ text, uri = some text ∧ Uri.Malformed (Uri.authorityOf text)
    ((∃ location, outcome = .ok location) ∨ (∃ issue, outcome = .error (.configuration issue)) ↔
      ¬malformed) ∧
    (malformed → ∃ message, outcome = .error (.badValue message)) := by
  intro outcome malformed
  have refused : malformed → ∃ message, outcome = .error (.badValue message) := by
    rintro ⟨text, rfl, lost⟩
    exact ofUri_of_malformed directories lost
  refine ⟨⟨fun expected lost => ?_, fun kept => ?_⟩, refused⟩
  · obtain ⟨message, fails⟩ := refused lost
    simp [fails] at expected
  · cases uri with
    | none => exact .inl ⟨_, rfl⟩
    | some text => exact ofUri_of_not_malformed directories fun lost => kept ⟨text, rfl, lost⟩

/-- A bracket that is not closed is refused, but neither as a scheme nor as a host. -/
theorem refused_for_open_bracket :
    let outcome := ofUri ⟨.ofText "/settings", .ofText "/data"⟩ (some "file://[::1/x")
    outcome = .error (.badValue "Invalid IPv6 URL") ∧ (∀ location, outcome ≠ .ok location) ∧
      ∀ issue, outcome ≠ .error (.configuration issue) := by
  intro outcome
  have nonempty : ("file://[::1/x" : Text) ≠ "" := by decide
  have refused : outcome = .error (.badValue "Invalid IPv6 URL") :=
    ofUri_of_read_eq_error nonempty rfl
  exact ⟨refused, by simp [refused], by simp [refused]⟩

/-- A path comes back from every spelling of its bytes behind `file://`, with this host or none. -/
theorem spelled_path_leads_back (directories : UserDirectories) (path : List Char)
    (rooted : path.head? = some '/') (longer : path ≠ ['/']) :
    let bytes := path.flatMap String.utf8EncodeChar
    Uri.Spells bytes (Uri.percentEncoded bytes) ∧
      ∀ host : Text, host = "" ∨ host = "localhost" → ∀ spelling, Uri.Spells bytes spelling →
        ofUri directories (some ("file://" ++ host ++ Text.ofChars spelling)) =
          .ok (.directory (.ofText (Text.ofChars path))) := by
  intro bytes
  refine ⟨Uri.spells_percentEncoded bytes, fun host own spelling spells => ?_⟩
  obtain ⟨rest, rfl⟩ : ∃ rest, path = '/' :: rest := by
    cases path with
    | nil => cases rooted
    | cons first rest => exact ⟨rest, congrArg (List.cons · rest) (Option.some.inj rooted)⟩
  have given : ¬(Text.ofChars ('/' :: rest) = "" ∨ Text.ofChars ('/' :: rest) = "/") := by
    rintro (empty | slash)
    · cases empty
    · cases rest with
      | nil => exact longer rfl
      | cons c more => cases slash
  rw [ofUri_of_file own (Uri.read_of_file own spells), Uri.percentDecoded_of_spells spells,
    ofFilePath_of_not_own given]

/-- A blank, a percent sign and a letter outside of ASCII, with digits in upper case. -/
theorem spelled_path_leads_back_from_localhost :
    let directories : UserDirectories := ⟨.ofText "/settings", .ofText "/data"⟩
    ofUri directories (some "file://localhost/a%20%25%C3%89") =
      .ok (.directory (.ofText (Text.ofChars ['/', 'a', ' ', '%', 'É']))) := by
  intro directories
  exact (spelled_path_leads_back directories ['/', 'a', ' ', '%', 'É'] rfl (by decide)).2
    "localhost" (.inr rfl) "/a%20%25%C3%89".toList
    (.plain (by decide) (.plain (by decide) (.escaped (by decide) (by decide) (by decide)
      (.escaped (by decide) (by decide) (by decide) (.escaped (by decide) (by decide) (by decide)
        (.escaped (by decide) (by decide) (by decide) .nil))))))

end Storage.Location

end KeyEnvelope
