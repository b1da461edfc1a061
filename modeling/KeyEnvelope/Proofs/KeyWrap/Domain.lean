import KeyEnvelope.Proofs.KeyWrap.Canonical
import KeyEnvelope.Proofs.KeyWrap.Labels

/-!
# What can be wrapped, and what is said otherwise

The name of the algorithm and the descriptor decide first, for they have to lead to a suite.
After that it is up to the mode of the suite, which goes by the lengths of the keys when it
wraps. What the mode itself refuses is worth an event.
-/

namespace KeyEnvelope.KeyWrap

/-- A wrapped key consists of the check value and of the halves of a key that the mode
admits. -/
theorem Mode.lengths_of_unwrap {mode : Mode} {kek key wrapped : Bytes}
    (succeeds : mode.unwrap kek wrapped = .ok key) :
    IsKekLength kek.length ∧ wrapped.length % 8 = 0 ∧
      (if mode = .plain then 24 else 16) ≤ wrapped.length := by
  obtain ⟨nonempty, wraps⟩ := unwrap_eq_ok_iff.mp succeeds
  have kekLength := isKekLength_of_wrap wraps
  have admitted := admits_of_wrap nonempty wraps
  obtain ⟨again, wrapsAgain, length⟩ := exists_wrap kekLength admitted
  obtain rfl : wrapped = again := Except.ok.inj (wraps.symm.trans wrapsAgain)
  refine ⟨kekLength, by omega, ?_⟩
  cases mode with
  | plain =>
    have long : 16 ≤ key.length := admitted.1
    rw [if_pos rfl]
    omega
  | padded =>
    have present : 1 ≤ key.length := admitted.1
    rw [if_neg (by decide)]
    omega

/-- The suites of the library share no label. -/
theorem Suite.not_aesWrapPad_bears {label : Text} (plain : aesWrap.Bears label) :
    ¬aesWrapPad.Bears label := by
  revert label
  unfold Bears
  decide +kernel

namespace Registry

variable {registry : Registry} {suite : Suite} {algorithm descriptor : Text}
  {kek key wrapped : Bytes}

/-- A descriptor with a label of the library is not blank. -/
theorem isBlankText_eq_false_of_bears
    (labelled : ∃ suite ∈ Suite.builtIn, suite.Bears descriptor.trim.lower) :
    descriptor.isBlankText = false := by
  rw [← Bool.not_eq_true]
  intro blank
  rw [Text.trim_of_isBlankText blank] at labelled
  revert labelled
  decide +kernel

theorem isOwner_builtIn_iff {label : Text} :
    IsOwner Suite.builtIn label suite ↔ suite ∈ Suite.builtIn ∧ suite.Bears label := by
  have order : Suite.builtIn.reverse = [.aesWrapPad, .aesWrap] := rfl
  rw [isOwner_iff_find?, order, Suite.builtIn, List.mem_pair]
  by_cases plain : Suite.aesWrap.Bears label
  · have notPadded := Suite.not_aesWrapPad_bears plain
    simp only [List.find?_cons, List.find?_nil, plain, notPadded]
    grind
  · by_cases padded : Suite.aesWrapPad.Bears label
    · simp only [List.find?_cons, padded]
      grind
    · simp only [List.find?_cons, List.find?_nil, plain, padded]
      grind

theorem get_builtIn_eq_ok_iff :
    builtIn.get descriptor = .ok suite ↔
      suite ∈ Suite.builtIn ∧ suite.Bears descriptor.trim.lower := by
  rw [builtIn, get_ofSuites_eq_ok_iff, isOwner_builtIn_iff]
  exact and_iff_right_of_imp fun labelled => isBlankText_eq_false_of_bears ⟨suite, labelled⟩

theorem exists_wrap_iff (resolved : registry.resolve algorithm descriptor = .ok suite) :
    (∃ wrapped, registry.wrap algorithm descriptor kek key = .ok wrapped) ↔
      IsKekLength kek.length ∧ suite.mode.Admits key := by
  constructor
  · rintro ⟨wrapped, succeeds⟩
    obtain ⟨found, foundResolved, nonempty, wraps⟩ := wrap_eq_ok_iff.mp succeeds
    obtain rfl : suite = found := Except.ok.inj (resolved.symm.trans foundResolved)
    exact ⟨Mode.isKekLength_of_wrap wraps, Mode.admits_of_wrap nonempty wraps⟩
  · rintro ⟨kekLength, admitted⟩
    obtain ⟨wrapped, succeeds, -⟩ := exists_wrap resolved kekLength admitted
    exact ⟨wrapped, succeeds⟩

/-- What wrapping and unwrapping have in common: a suite is found, and its mode is given the
bytes if there are any. -/
def carryOut (registry : Registry) (algorithm descriptor : Text) (bytes : Bytes)
    (operation : Mode → Except Refusal Bytes) (failure : WrapIssue → Failure) :
    Except Failure Bytes := do
  let suite ← registry.resolve algorithm descriptor
  if bytes.isEmpty then throw (failure .empty)
  (operation suite.mode).mapError fun refusal => failure (.refused suite.name algorithm refusal)

theorem wrap_eq_carryOut (registry : Registry) (algorithm descriptor : Text) (kek : Bytes)
    (countable : key.length < 2 ^ 32) :
    registry.wrap algorithm descriptor kek key =
      registry.carryOut algorithm descriptor key (·.wrap kek key) .wrap := by
  cases resolved : registry.resolve algorithm descriptor with
  | error failure => simp [wrap, carryOut, resolved]
  | ok suite =>
    cases key with
    | nil => simp [wrap, carryOut, resolved]
    | cons byte rest =>
      rw [wrap_of_resolve resolved (List.cons_ne_nil byte rest) countable]
      simp [carryOut, resolved]

theorem unwrap_eq_carryOut (registry : Registry) (algorithm descriptor : Text)
    (kek wrapped : Bytes) :
    registry.unwrap algorithm descriptor kek wrapped =
      registry.carryOut algorithm descriptor wrapped (·.unwrap kek wrapped) .unwrap := by
  cases resolved : registry.resolve algorithm descriptor with
  | error failure => simp [unwrap, carryOut, resolved]
  | ok suite =>
    cases wrapped with
    | nil => simp [unwrap, carryOut, resolved]
    | cons byte rest =>
      rw [unwrap_of_resolve resolved (List.cons_ne_nil byte rest)]
      simp [carryOut, resolved]

/-- A suite is found, and its mode refuses the bytes that it is given. -/
def ModeRefuses (registry : Registry) (algorithm descriptor : Text) (bytes : Bytes)
    (operation : Mode → Except Refusal Bytes) : Prop :=
  bytes ≠ [] ∧ ∃ suite refusal, registry.resolve algorithm descriptor = .ok suite ∧
    operation suite.mode = .error refusal

/-- One event is noted, an error, if something is refused; otherwise none is. -/
def NotedIf (refused : Prop) (events : List Log.Event) : Prop :=
  (refused → ∃ event, events = [event] ∧ event.level = .error) ∧ (¬refused → events = [])

section CarryOut

variable (bytes : Bytes) (operation : Mode → Except Refusal Bytes) (failure : WrapIssue → Failure)

theorem carryOut_of_misnamed
    (misnamed : ∀ suite, registry.resolve algorithm descriptor ≠ .ok suite) :
    ∃ issue, registry.carryOut algorithm descriptor bytes operation failure =
      .error (.configuration issue) := by
  cases resolved : registry.resolve algorithm descriptor with
  | ok suite => exact absurd resolved (misnamed suite)
  | error cause =>
    obtain ⟨issue, rfl⟩ := configuration_of_resolve_eq_error resolved
    exact ⟨issue, by simp [carryOut, resolved]⟩

theorem carryOut_nil (resolved : registry.resolve algorithm descriptor = .ok suite) :
    registry.carryOut algorithm descriptor [] operation failure = .error (failure .empty) := by
  simp [carryOut, resolved]

variable {bytes} in
theorem carryOut_of_ne_nil (resolved : registry.resolve algorithm descriptor = .ok suite)
    (nonempty : bytes ≠ []) :
    registry.carryOut algorithm descriptor bytes operation failure =
      (operation suite.mode).mapError
        fun refusal => failure (.refused suite.name algorithm refusal) := by
  simp [carryOut, resolved, nonempty]

theorem carryOut_of_resolve (resolved : registry.resolve algorithm descriptor = .ok suite) :
    (∃ issue, registry.carryOut algorithm descriptor bytes operation failure =
      .error (failure issue)) ∨
    ∃ result, registry.carryOut algorithm descriptor bytes operation failure = .ok result := by
  by_cases nonempty : bytes = []
  · exact .inl ⟨_, nonempty ▸ carryOut_nil operation failure resolved⟩
  · rw [carryOut_of_ne_nil operation failure resolved nonempty]
    cases operation suite.mode with
    | error refusal => exact .inl ⟨_, rfl⟩
    | ok result => exact .inr ⟨result, rfl⟩

variable {failure} in
/-- Both failures are noted in the same cases, those in which the mode itself refuses. -/
theorem notedIf_carryOut (registry : Registry) (algorithm descriptor : Text)
    (direction : failure = .wrap ∨ failure = .unwrap) :
    NotedIf (registry.ModeRefuses algorithm descriptor bytes operation)
      (outcomeEvents (registry.carryOut algorithm descriptor bytes operation failure)) := by
  cases resolved : registry.resolve algorithm descriptor with
  | error cause =>
    have misnamed : ∀ suite, registry.resolve algorithm descriptor ≠ .ok suite := by
      simp [resolved]
    obtain ⟨issue, fails⟩ := carryOut_of_misnamed bytes operation failure misnamed
    rw [fails]
    simp [NotedIf, ModeRefuses, resolved, outcomeEvents]
  | ok suite =>
    by_cases nonempty : bytes = []
    · subst nonempty
      rw [carryOut_nil operation failure resolved]
      rcases direction with rfl | rfl <;> simp [NotedIf, ModeRefuses, outcomeEvents]
    · rw [carryOut_of_ne_nil operation failure resolved nonempty]
      cases outcome : operation suite.mode with
      | ok result => simp [NotedIf, ModeRefuses, resolved, outcome, Except.mapError, outcomeEvents]
      | error refusal =>
        rcases direction with rfl | rfl <;>
          simp [NotedIf, ModeRefuses, resolved, outcome, nonempty, Except.mapError, outcomeEvents,
            refusalEvent]

end CarryOut

/-- There is no suite of the library under these names. -/
def Misnamed (algorithm descriptor : Text) : Prop :=
  algorithm.isBlankText = true ∨
    ¬∃ suite ∈ Suite.builtIn, suite.Bears descriptor.trim.lower

instance (algorithm descriptor : Text) : Decidable (Misnamed algorithm descriptor) :=
  inferInstanceAs (Decidable (_ ∨ _))

/-- The suite of the library cannot wrap this key under this key encryption key. -/
def Unfit (descriptor : Text) (kek key : Bytes) : Prop :=
  key = [] ∨ ¬IsKekLength kek.length ∨
    Suite.aesWrap.Bears descriptor.trim.lower ∧ (key.length < 16 ∨ key.length % 8 ≠ 0)

instance (descriptor : Text) (kek key : Bytes) : Decidable (Unfit descriptor kek key) :=
  inferInstanceAs (Decidable (_ ∨ _ ∨ _))

theorem resolve_builtIn_ne_ok (misnamed : Misnamed algorithm descriptor) (suite : Suite) :
    builtIn.resolve algorithm descriptor ≠ .ok suite := by
  intro resolved
  obtain ⟨named, found⟩ := resolve_eq_ok_iff.mp resolved
  rcases misnamed with blank | unlabelled
  · simp [blank] at named
  · exact unlabelled ⟨suite, get_builtIn_eq_ok_iff.mp found⟩

theorem exists_resolve_builtIn (named : ¬Misnamed algorithm descriptor) :
    ∃ suite, builtIn.resolve algorithm descriptor = .ok suite := by
  simp only [Misnamed, not_or, Bool.not_eq_true, Decidable.not_not] at named
  obtain ⟨namedAlgorithm, suite, labelled⟩ := named
  exact ⟨suite, resolve_eq_ok_iff.mpr ⟨namedAlgorithm, get_builtIn_eq_ok_iff.mpr labelled⟩⟩

theorem plain_iff_of_resolve_builtIn
    (resolved : builtIn.resolve algorithm descriptor = .ok suite) :
    suite.mode = .plain ↔ Suite.aesWrap.Bears descriptor.trim.lower := by
  obtain ⟨-, found⟩ := resolve_eq_ok_iff.mp resolved
  obtain ⟨listed, bears⟩ := get_builtIn_eq_ok_iff.mp found
  rcases List.mem_pair.mp listed with rfl | rfl
  · exact iff_of_true rfl bears
  · exact iff_of_false (by decide) fun plain => Suite.not_aesWrapPad_bears plain bears

theorem admits_iff_of_resolve_builtIn
    (resolved : builtIn.resolve algorithm descriptor = .ok suite)
    (countable : key.length < 2 ^ 32) :
    IsKekLength kek.length ∧ suite.mode.Admits key ↔ ¬Unfit descriptor kek key := by
  unfold Unfit
  rw [← plain_iff_of_resolve_builtIn resolved, ← List.length_eq_zero_iff]
  cases suite.mode with
  | plain =>
    simp only [Mode.Admits, IsKekLength, true_and]
    omega
  | padded =>
    simp only [Mode.Admits, IsKekLength, reduceCtorEq, false_and, or_false]
    omega

/-- A failure is of the configuration exactly if the names are wrong. -/
theorem carryOut_builtIn (algorithm descriptor : Text) (bytes : Bytes)
    (operation : Mode → Except Refusal Bytes) {failure : WrapIssue → Failure}
    (direction : failure = .wrap ∨ failure = .unwrap) :
    ((∃ issue, builtIn.carryOut algorithm descriptor bytes operation failure =
      .error (.configuration issue)) ↔ Misnamed algorithm descriptor) ∧
    (((∃ issue, builtIn.carryOut algorithm descriptor bytes operation failure =
        .error (failure issue)) ∨
      ∃ result, builtIn.carryOut algorithm descriptor bytes operation failure = .ok result) ↔
      ¬Misnamed algorithm descriptor) := by
  by_cases misnamed : Misnamed algorithm descriptor
  · obtain ⟨issue, fails⟩ := carryOut_of_misnamed bytes operation failure
      (resolve_builtIn_ne_ok misnamed)
    rcases direction with rfl | rfl <;> simp [fails, misnamed]
  · obtain ⟨suite, resolved⟩ := exists_resolve_builtIn misnamed
    have proper := carryOut_of_resolve bytes operation failure resolved
    refine ⟨?_, by simp [proper, misnamed]⟩
    rcases direction with rfl | rfl <;> obtain ⟨issue, fails⟩ | ⟨result, succeeds⟩ := proper <;>
      simp [*]

theorem exists_wrap_builtIn_iff (algorithm descriptor : Text) (kek : Bytes)
    (countable : key.length < 2 ^ 32) :
    (∃ result, builtIn.wrap algorithm descriptor kek key = .ok result) ↔
      ¬Misnamed algorithm descriptor ∧ ¬Unfit descriptor kek key := by
  by_cases misnamed : Misnamed algorithm descriptor
  · refine iff_of_false ?_ fun fit => fit.1 misnamed
    rintro ⟨result, succeeds⟩
    obtain ⟨suite, resolved, -⟩ := wrap_eq_ok_iff.mp succeeds
    exact resolve_builtIn_ne_ok misnamed suite resolved
  · obtain ⟨suite, resolved⟩ := exists_resolve_builtIn misnamed
    rw [exists_wrap_iff resolved, admits_iff_of_resolve_builtIn resolved countable]
    exact (and_iff_right misnamed).symm

theorem lengths_of_unwrap_builtIn
    (succeeds : builtIn.unwrap algorithm descriptor kek wrapped = .ok key) :
    IsKekLength kek.length ∧ wrapped.length % 8 = 0 ∧
      (if Suite.aesWrap.Bears descriptor.trim.lower then 24 else 16) ≤ wrapped.length := by
  obtain ⟨suite, resolved, -, unwraps⟩ := unwrap_eq_ok_iff.mp succeeds
  simpa only [plain_iff_of_resolve_builtIn resolved] using Mode.lengths_of_unwrap unwraps

/-- With the suites of the library, exactly the keys with a suite that can take them are wrapped,
and every failure is of the kind that its cause asks for. -/
theorem wraps_exactly_in_domain (algorithm descriptor : Text) (kek key wrapped : Bytes)
    (countable : key.length < 2 ^ 32) :
    let wrapping := builtIn.wrap algorithm descriptor kek key
    let unwrapping := builtIn.unwrap algorithm descriptor kek wrapped
    ((∃ issue, wrapping = .error (.configuration issue)) ↔ Misnamed algorithm descriptor) ∧
    ((∃ issue, wrapping = .error (.wrap issue)) ↔
      ¬Misnamed algorithm descriptor ∧ Unfit descriptor kek key) ∧
    ((∃ result, wrapping = .ok result) ↔
      ¬Misnamed algorithm descriptor ∧ ¬Unfit descriptor kek key) ∧
    ((∃ issue, unwrapping = .error (.configuration issue)) ↔ Misnamed algorithm descriptor) ∧
    (((∃ issue, unwrapping = .error (.unwrap issue)) ∨ ∃ result, unwrapping = .ok result) ↔
      ¬Misnamed algorithm descriptor) ∧
    (∀ result, unwrapping = .ok result → IsKekLength kek.length ∧ wrapped.length % 8 = 0 ∧
      (if Suite.aesWrap.Bears descriptor.trim.lower then 24 else 16) ≤ wrapped.length) ∧
    NotedIf (builtIn.ModeRefuses algorithm descriptor key (·.wrap kek key))
      (outcomeEvents wrapping) ∧
    NotedIf (builtIn.ModeRefuses algorithm descriptor wrapped (·.unwrap kek wrapped))
      (outcomeEvents unwrapping) := by
  obtain ⟨wrapMisnamed, wrapNamed⟩ :=
    carryOut_builtIn algorithm descriptor key (·.wrap kek key) (.inl rfl)
  obtain ⟨unwrapMisnamed, unwrapNamed⟩ :=
    carryOut_builtIn algorithm descriptor wrapped (·.unwrap kek wrapped) (.inr rfl)
  have wrapNoted :=
    notedIf_carryOut key (·.wrap kek key) builtIn algorithm descriptor (.inl rfl)
  have unwrapNoted :=
    notedIf_carryOut wrapped (·.unwrap kek wrapped) builtIn algorithm descriptor (.inr rfl)
  rw [← wrap_eq_carryOut builtIn algorithm descriptor kek countable]
    at wrapMisnamed wrapNamed wrapNoted
  rw [← unwrap_eq_carryOut] at unwrapMisnamed unwrapNamed unwrapNoted
  have wrapSucceeds := exists_wrap_builtIn_iff algorithm descriptor kek countable
  refine ⟨wrapMisnamed, ?_, wrapSucceeds, unwrapMisnamed, unwrapNamed,
    fun result => lengths_of_unwrap_builtIn, wrapNoted, unwrapNoted⟩
  -- A named key that is not wrapped leaves only this kind of failure.
  constructor
  · rintro ⟨issue, fails⟩
    have named := wrapNamed.mp (.inl ⟨issue, fails⟩)
    refine ⟨named, Decidable.not_not.mp fun fit => ?_⟩
    obtain ⟨result, succeeds⟩ := wrapSucceeds.mpr ⟨named, fit⟩
    exact absurd (fails.symm.trans succeeds) (by simp)
  · rintro ⟨named, unfit⟩
    rcases wrapNamed.mpr named with fails | succeeds
    · exact fails
    · exact absurd unfit (wrapSucceeds.mp succeeds).2

theorem wraps_exactly_in_domain_three_bytes :
    (∃ issue, builtIn.wrap "AES" " rfc5649\n" [1, 2, 3, 4, 5] [1, 2, 3] = .error (.wrap issue)) ∧
    ∃ result, builtIn.wrap "AES" " rfc5649\n" (List.replicate 16 7) [1, 2, 3] = .ok result := by
  have named : ¬Misnamed "AES" " rfc5649\n" := by decide +kernel
  obtain ⟨-, fails, -⟩ :=
    wraps_exactly_in_domain "AES" " rfc5649\n" [1, 2, 3, 4, 5] [1, 2, 3] [] (by decide)
  obtain ⟨-, -, succeeds, -⟩ :=
    wraps_exactly_in_domain "AES" " rfc5649\n" (List.replicate 16 7) [1, 2, 3] [] (by decide)
  exact ⟨fails.mpr ⟨named, .inr (.inl (by decide))⟩, succeeds.mpr ⟨named, by decide +kernel⟩⟩

end Registry

end KeyEnvelope.KeyWrap
