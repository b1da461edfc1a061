import KeyEnvelope.Proofs.Checks
import KeyEnvelope.Proofs.Text
import KeyEnvelope.Uri
import Mathlib.Data.List.TakeDrop
import Mathlib.Data.List.TakeWhile

/-!
# Parts of a URI

A URI is cut at its scheme, then at its authority, then before query and fragment. Nothing is
wrong with it unless its authority is malformed: brackets are for a host in colon form, and some
characters look like separators. If two slashes are behind the scheme, the path is empty or
begins with a slash.
-/

namespace KeyEnvelope.Uri

variable {text : Text} {authority behind host : List Code}

def behindScheme (text : Text) : List Code :=
  (splitScheme (cleaned text)).2

def schemeOf (text : Text) : Text :=
  Text.lower ⟨(splitScheme (cleaned text)).1⟩

def authorityOf (text : Text) : List Code :=
  (splitAuthority (behindScheme text)).1

def pathOf (text : Text) : Text :=
  ⟨((splitAuthority (behindScheme text)).2.takeWhile (· ≠ .char '#')).takeWhile
    (· ≠ .char '?')⟩

theorem read_eq (text : Text) :
    read text = (checkAuthority (authorityOf text)).map fun _ =>
      ⟨schemeOf text, ⟨authorityOf text⟩, pathOf text⟩ := by
  unfold read
  change (checkAuthority (authorityOf text) >>= fun _ => _) = _
  cases checkAuthority (authorityOf text) <;> rfl

/-- The host stands behind a bracket, and at most a colon and a number stand behind the bracket
that closes it. -/
def Encloses (behind host : List Code) : Prop :=
  .char ']' ∉ host ∧
    (behind = .char '[' :: host ∨
      ∃ number, behind = .char '[' :: host ++ .char ']' :: number ∧
        (number = [] ∨ number.head? = some (.char ':')))

/-- The host of what stands behind the user. It need not be in brackets, as the user may be. -/
def IsHost (behind host : List Code) : Prop :=
  Encloses behind host ∨ .char '[' ∉ behind ∧ host = behind.takeWhile (· ≠ .char ':')

theorem eq_of_dropWhile_eq_cons {mark code : Code} {codes rest : List Code}
    (dropped : codes.dropWhile (· ≠ mark) = code :: rest) : code = mark := by
  have stops := List.head?_dropWhile_not (· ≠ mark) codes
  rw [dropped] at stops
  simpa using stops

/-- Behind an opening bracket, the host goes up to the first one that closes. -/
theorem encloses_iff {bracketed : List Code} :
    Encloses (.char '[' :: bracketed) host ↔
      host = bracketed.takeWhile (· ≠ .char ']') ∧
        ((bracketed.dropWhile (· ≠ .char ']')).tail = [] ∨
          (bracketed.dropWhile (· ≠ .char ']')).tail.head? = some (.char ':')) := by
  constructor
  · intro ⟨unclosed, split⟩
    have kept : ∀ code ∈ host, decide (code ≠ Code.char ']') = true :=
      fun code among => decide_eq_true (fun same => unclosed (same ▸ among))
    rcases split with split | ⟨number, split, ends⟩
    · obtain rfl : bracketed = host := (List.cons.inj split).2
      rw [List.takeWhile_eq_self_iff.mpr kept, List.dropWhile_eq_nil_iff.mpr kept]
      exact ⟨rfl, .inl rfl⟩
    · obtain rfl : bracketed = host ++ .char ']' :: number := (List.cons.inj split).2
      rw [List.takeWhile_append_of_pos kept, List.dropWhile_append_of_pos kept]
      simpa using ends
  · intro ⟨same, ends⟩
    subst same
    refine ⟨fun among => by simpa using List.mem_takeWhile_imp among, ?_⟩
    have whole := List.takeWhile_append_dropWhile (p := (· ≠ Code.char ']')) (l := bracketed)
    cases rest : bracketed.dropWhile (· ≠ .char ']') with
    | nil =>
      rw [rest, List.append_nil] at whole
      exact .inl (congrArg _ whole.symm)
    | cons code number =>
      obtain rfl := eq_of_dropWhile_eq_cons rest
      rw [rest] at whole ends
      exact .inr ⟨number, congrArg _ whole.symm, ends⟩

theorem isHost_iff_of_unopened (unopened : .char '[' ∉ behind) :
    IsHost behind host ↔ host = behind.takeWhile (· ≠ .char ':') := by
  constructor
  · intro isHost
    rcases isHost with ⟨-, split⟩ | ⟨-, same⟩
    · rcases split with rfl | ⟨number, rfl, -⟩ <;> exact absurd List.mem_cons_self unopened
    · exact same
  · exact fun same => .inr ⟨unopened, same⟩

theorem isHost_iff_of_opened {bracketed : List Code} :
    IsHost (.char '[' :: bracketed) host ↔ Encloses (.char '[' :: bracketed) host := by
  constructor
  · intro isHost
    rcases isHost with enclosed | ⟨unopened, -⟩
    · exact enclosed
    · exact absurd List.mem_cons_self unopened
  · exact .inl

theorem checkBracketed_eq_ok_iff :
    checkBracketed authority = .ok () ↔
      ∃ host, IsHost (behindUser authority) host ∧ Host.check ⟨host⟩ = .ok () := by
  unfold checkBracketed
  rw [List.span_eq_takeWhile_dropWhile]
  generalize behindUser authority = behind
  have whole := List.takeWhile_append_dropWhile (p := (· ≠ Code.char '[')) (l := behind)
  cases dropped : behind.dropWhile (· ≠ .char '[') with
  | nil =>
    rw [dropped, List.append_nil] at whole
    have unopened : .char '[' ∉ behind := fun among => by
      rw [← whole] at among
      simpa using List.mem_takeWhile_imp among
    simp only [whole, isHost_iff_of_unopened unopened, exists_eq_left]
  | cons code bracketed =>
    obtain rfl := eq_of_dropWhile_eq_cons dropped
    rw [dropped] at whole
    cases before : behind.takeWhile (· ≠ .char '[') with
    | nil =>
      rw [before, List.nil_append] at whole
      subst whole
      simp only [isHost_iff_of_opened, encloses_iff, List.isEmpty_iff, and_assoc, exists_eq_left]
      split
      · rename_i ends
        exact (and_iff_right ends).symm
      · rename_i unended
        exact iff_of_false nofun fun both => unended both.1
    | cons first more =>
      refine iff_of_false nofun fun ⟨host, isHost, _⟩ => ?_
      rw [before, List.cons_append] at whole
      have other : first ≠ .char '[' := by
        have among : first ∈ behind.takeWhile (· ≠ .char '[') := before ▸ List.mem_cons_self
        simpa using List.mem_takeWhile_imp among
      rcases isHost with ⟨-, split⟩ | ⟨unopened, -⟩
      · rcases split with split | ⟨number, split, -⟩ <;>
          exact other (List.cons.inj (whole.trans split)).1
      · exact unopened (by simp [← whole])

/-- What an authority is refused for. -/
inductive Malformed (authority : List Code) : Prop
  | unbalanced (brackets : ¬(.char '[' ∈ authority ↔ .char ']' ∈ authority))
  | misplaced (bracket : .char '[' ∈ authority)
      (nowhere : ∀ host, IsHost (behindUser authority) host → Host.check ⟨host⟩ ≠ .ok ())
  | lookalike {code : Code} (among : code ∈ authority) (alike : code.number ∈ lookalikes)

theorem malformed_iff :
    Malformed authority ↔ ¬(.char '[' ∈ authority ↔ .char ']' ∈ authority) ∨
      (.char '[' ∈ authority ∧ checkBracketed authority ≠ .ok ()) ∨
      ∃ code ∈ authority, code.number ∈ lookalikes := by
  have nowhere : checkBracketed authority ≠ .ok () ↔
      ∀ host, IsHost (behindUser authority) host → Host.check ⟨host⟩ ≠ .ok () := by
    simp [checkBracketed_eq_ok_iff]
  rw [nowhere]
  constructor
  · intro malformed
    cases malformed with
    | unbalanced brackets => exact .inl brackets
    | misplaced bracket nowhere => exact .inr (.inl ⟨bracket, nowhere⟩)
    | lookalike among alike => exact .inr (.inr ⟨_, among, alike⟩)
  · rintro (brackets | ⟨bracket, nowhere⟩ | ⟨code, among, alike⟩)
    · exact .unbalanced brackets
    · exact .misplaced bracket nowhere
    · exact .lookalike among alike

theorem checkAuthority_eq_ok_iff : checkAuthority authority = .ok () ↔ ¬Malformed authority := by
  rw [malformed_iff, checkAuthority]
  by_cases opened : .char '[' ∈ authority <;> by_cases closed : .char ']' ∈ authority <;>
    simp only [List.contains_eq_mem, opened, closed]
  · cases checkBracketed authority <;> simp
  all_goals simp

instance (authority : List Code) : Decidable (Malformed authority) :=
  match outcome : checkAuthority authority with
  | .ok () => isFalse (checkAuthority_eq_ok_iff.mp outcome)
  | .error _ => isTrue <| not_not.mp fun wellFormed =>
    nomatch outcome.symm.trans (checkAuthority_eq_ok_iff.mpr wellFormed)

example : ¬Malformed (authorityOf "file://user@[::1]:80/x") := by decide

/-- An authority ends at a slash, a question mark or a hash sign, and a path is not what the
last two begin. -/
theorem pathOf_of_slashes (slashes : [.char '/', .char '/'] <+: behindScheme text) :
    pathOf text = "" ∨ (pathOf text).startsWith "/" = true := by
  obtain ⟨rest, split⟩ := slashes
  have behind : (splitAuthority (behindScheme text)).2 =
      rest.dropWhile fun code => code ∉ [.char '/', .char '?', .char '#'] := by
    rw [← split]
    change (rest.span _).2 = _
    rw [List.span_eq_takeWhile_dropWhile]
  rw [pathOf, behind]
  have stops := List.head?_dropWhile_not
    (fun code => decide (code ∉ [Code.char '/', .char '?', .char '#'])) rest
  cases dropped : rest.dropWhile (fun code => code ∉ [.char '/', .char '?', .char '#']) with
  | nil => exact .inl rfl
  | cons code path =>
    rw [dropped] at stops
    have separator : code = .char '/' ∨ code = .char '?' ∨ code = .char '#' := by
      simpa [or_iff_not_imp_left] using stops
    rcases separator with rfl | rfl | rfl
    · exact .inr (Text.startsWith_slash_iff.mpr ⟨_, rfl⟩)
    · exact .inl rfl
    · exact .inl rfl

section Parts

variable {codes path : List Code}

theorem cleaned_of_visible (visible : ∀ code ∈ codes, 0x20 < code.number) :
    cleaned ⟨codes⟩ = codes := by
  have first : codes.dropWhile (fun code => code.number ≤ 0x20) = codes := by
    cases codes with
    | nil => rfl
    | cons code rest =>
      have kept := visible code List.mem_cons_self
      rw [List.dropWhile_cons_of_neg (by simpa using kept)]
  rw [cleaned, first, List.filter_eq_self]
  intro code among
  have kept := visible code among
  refine decide_eq_true fun blank => ?_
  simp only [List.mem_cons, List.not_mem_nil, or_false] at blank
  rcases blank with rfl | rfl | rfl <;> exact absurd kept (by decide)

theorem span_append_cons {test : Code → Bool} {stop : Code}
    (kept : ∀ code ∈ codes, test code = true) (ends : test stop = false) (rest : List Code) :
    (codes ++ stop :: rest).span test = (codes, stop :: rest) := by
  have notPassed : ¬test stop = true := by simp [ends]
  rw [List.span_eq_takeWhile_dropWhile, List.takeWhile_append_of_pos kept,
    List.dropWhile_append_of_pos kept, List.takeWhile_cons_of_neg notPassed,
    List.dropWhile_cons_of_neg notPassed, List.append_nil]

theorem splitScheme_append {name : List Code} (letters : ∀ code ∈ name, isLetter code.shown = true)
    (nonempty : name ≠ []) (rest : List Code) :
    splitScheme (name ++ .char ':' :: rest) = (name, rest) := by
  have kept : ∀ code ∈ name, isSchemeChar code.shown = true :=
    fun code among => by simp [isSchemeChar, letters code among]
  rw [splitScheme, span_append_cons kept (by decide)]
  cases name with
  | nil => exact absurd rfl nonempty
  | cons first more => exact if_pos (letters first List.mem_cons_self)

theorem splitAuthority_append
    (unbroken : ∀ code ∈ host, code ∉ [Code.char '/', .char '?', .char '#']) (path : List Code) :
    splitAuthority (.char '/' :: .char '/' :: (host ++ .char '/' :: path)) =
      (host, .char '/' :: path) := by
  rw [splitAuthority]
  exact span_append_cons (fun code among => decide_eq_true (unbroken code among)) (by decide) path

/-- A URI is read as the parts it is put together from, if none of them can be mistaken. -/
theorem read_append (name : List Code)
    (visible : ∀ code ∈ name ++ .char ':' :: .char '/' :: .char '/' :: (host ++ .char '/' :: path),
      0x20 < code.number)
    (letters : ∀ code ∈ name, isLetter code.shown = true) (nonempty : name ≠ [])
    (unbroken : ∀ code ∈ host, code ∉ [Code.char '/', .char '?', .char '#'])
    (accepted : checkAuthority host = .ok ())
    (whole : ∀ code ∈ path, code ≠ .char '?' ∧ code ≠ .char '#') :
    read ⟨name ++ .char ':' :: .char '/' :: .char '/' :: (host ++ .char '/' :: path)⟩ =
      .ok ⟨Text.lower ⟨name⟩, ⟨host⟩, ⟨.char '/' :: path⟩⟩ := by
  have scheme := splitScheme_append letters nonempty
    (.char '/' :: .char '/' :: (host ++ .char '/' :: path))
  have authority := splitAuthority_append unbroken path
  have beforeHash : (Code.char '/' :: path).takeWhile (· ≠ .char '#') = .char '/' :: path := by
    simpa [List.takeWhile_eq_self_iff] using fun code among => (whole code among).2
  have beforeQuery : (Code.char '/' :: path).takeWhile (· ≠ .char '?') = .char '/' :: path := by
    simpa [List.takeWhile_eq_self_iff] using fun code among => (whole code among).1
  simp only [read_eq, schemeOf, authorityOf, pathOf, behindScheme, cleaned_of_visible visible,
    scheme, authority, accepted, beforeHash, beforeQuery]
  rfl

end Parts

end KeyEnvelope.Uri
