import KeyEnvelope.KeyWrap.Wrapping
import KeyEnvelope.Proofs.Checks
import KeyEnvelope.Proofs.KeyWrap.Mode

/-!
# Wrapping with a registry can be undone

Whether a key is wrapped depends on the suite that a descriptor resolves to. What
was wrapped with a suite is unwrapped with the same suite, under whichever of its
labels it is found and whatever the key is said to be for.
-/

namespace KeyEnvelope.KeyWrap

theorem Mode.wrap_ne_nil {mode : Mode} {kek key wrapped : Bytes}
    (succeeds : mode.wrap kek key = .ok wrapped) :
    wrapped ≠ [] := by
  cases mode with
  | plain =>
    obtain ⟨cipher, halves, _, _, _, rfl⟩ := Plain.wrap_eq_ok_iff.mp succeeds
    simp [Aes.Half.join, Aes.Half.toBytes, Aes.Word.toBytes]
  | padded =>
    obtain ⟨cipher, halves, _, _, _, rfl⟩ := Padded.wrap_eq_ok_iff.mp succeeds
    simp [Aes.Half.join, Aes.Half.toBytes, Aes.Word.toBytes]

namespace Registry

variable {registry : Registry} {suite : Suite} {algorithm descriptor : Text}
  {kek key wrapped : Bytes}

theorem resolve_eq_ok_iff :
    registry.resolve algorithm descriptor = .ok suite ↔
      algorithm.isBlankText = false ∧ registry.get descriptor = .ok suite := by
  unfold resolve
  cases algorithm.isBlankText <;> simp

theorem configuration_of_resolve_eq_error {failure : Failure}
    (fails : registry.resolve algorithm descriptor = .error failure) :
    ∃ issue, failure = .configuration issue := by
  unfold resolve get at fails
  split at fails
  · exact ⟨_, (Except.error.inj fails).symm⟩
  · split at fails
    · exact ⟨_, (Except.error.inj fails).symm⟩
    · split at fails
      · cases fails
      · exact ⟨_, (Except.error.inj fails).symm⟩

theorem wrap_eq_ok_iff :
    registry.wrap algorithm descriptor kek key = .ok wrapped ↔
      ∃ suite, registry.resolve algorithm descriptor = .ok suite ∧ key ≠ [] ∧
        suite.mode.wrap kek key = .ok wrapped := by
  unfold wrap
  cases resolved : registry.resolve algorithm descriptor with
  | error failure => simp
  | ok suite =>
    cases key with
    | nil => simp
    | cons byte rest =>
      rcases outcome : suite.mode.wrap kek (byte :: rest) with refusal | found
      · cases refusal <;> simp [outcome]
      · simp [outcome]

theorem unwrap_eq_ok_iff :
    registry.unwrap algorithm descriptor kek wrapped = .ok key ↔
      ∃ suite, registry.resolve algorithm descriptor = .ok suite ∧ wrapped ≠ [] ∧
        suite.mode.unwrap kek wrapped = .ok key := by
  unfold unwrap
  cases resolved : registry.resolve algorithm descriptor with
  | error failure => simp
  | ok suite =>
    cases wrapped with
    | nil => simp
    | cons byte rest => cases outcome : suite.mode.unwrap kek (byte :: rest) <;> simp [outcome]

theorem exists_wrap (resolved : registry.resolve algorithm descriptor = .ok suite)
    (kekLength : IsKekLength kek.length) (admitted : suite.mode.Admits key) :
    ∃ wrapped, registry.wrap algorithm descriptor kek key = .ok wrapped ∧
      wrapped.length = 8 * ((key.length + 7) / 8) + 8 := by
  obtain ⟨wrapped, wrapping, length⟩ := Mode.exists_wrap kekLength admitted
  exact ⟨wrapped, wrap_eq_ok_iff.mpr ⟨suite, resolved, admitted.ne_nil, wrapping⟩, length⟩

/-- What a suite refuses to wrap under a key encryption key of the cipher it would refuse
under any other: the key is empty, too short or broken, or its length cannot be counted. -/
theorem wrap_eq_error {failure : Failure}
    (resolved : registry.resolve algorithm descriptor = .ok suite)
    (kekLength : IsKekLength kek.length)
    (fails : registry.wrap algorithm descriptor kek key = .error failure) :
    (∃ issue, failure = .wrap issue ∧
      (key = [] ∨ suite.mode = .plain ∧ (key.length < 16 ∨ key.length % 8 ≠ 0))) ∨
    failure = .tooLarge Refusal.keyTooLong.message ∧ Padded.lengthLimit < key.length := by
  cases key with
  | nil =>
    simp only [wrap, resolved, Checks.ok_bind] at fails
    exact .inl ⟨.empty, (Except.error.inj fails).symm, .inl rfl⟩
  | cons byte rest =>
    simp only [wrap, resolved, Checks.ok_bind, List.isEmpty_cons] at fails
    rcases outcome : suite.mode.wrap kek (byte :: rest) with refusal | wrapped
    · cases mode : suite.mode with
      | plain =>
        rw [mode] at outcome
        obtain ⟨countable, broken⟩ := Plain.wrap_eq_error kekLength outcome
        refine .inl ⟨.refused suite.name algorithm refusal, ?_, .inr ⟨rfl, broken⟩⟩
        simp only [mode, outcome] at fails
        exact (Except.error.inj fails).symm
      | padded =>
        rw [mode] at outcome
        obtain ⟨rfl, long⟩ := Padded.wrap_eq_error kekLength outcome
        simp only [mode, outcome] at fails
        exact .inr ⟨(Except.error.inj fails).symm, long⟩
    · simp only [outcome] at fails
      cases fails

/-- Once there is a suite, only its mode can refuse. What it refuses is a failure to wrap, as
long as the length of the key can be counted. -/
theorem wrap_of_resolve (resolved : registry.resolve algorithm descriptor = .ok suite)
    (nonempty : key ≠ []) (countable : key.length < 2 ^ 32) :
    registry.wrap algorithm descriptor kek key =
      (suite.mode.wrap kek key).mapError
        fun refusal => .wrap (.refused suite.name algorithm refusal) := by
  have present : key.isEmpty = false := by simpa using nonempty
  simp only [wrap, resolved, present, Checks.ok_bind]
  rcases outcome : suite.mode.wrap kek key with refusal | wrapped
  · have counted : refusal ≠ .keyTooLong := by
      rintro rfl
      have long := Mode.long_of_keyTooLong outcome
      unfold Padded.lengthLimit at long
      omega
    cases refusal with
    | keyTooLong => exact absurd rfl counted
    | _ => rfl
  · rfl

/-- Once there is a suite, only its mode can refuse, and what it refuses is a failure to
unwrap. -/
theorem unwrap_of_resolve (resolved : registry.resolve algorithm descriptor = .ok suite)
    (nonempty : wrapped ≠ []) :
    registry.unwrap algorithm descriptor kek wrapped =
      (suite.mode.unwrap kek wrapped).mapError
        fun refusal => .unwrap (.refused suite.name algorithm refusal) := by
  have present : wrapped.isEmpty = false := by simpa using nonempty
  simp only [unwrap, resolved, present, Checks.ok_bind]
  cases suite.mode.unwrap kek wrapped <;> rfl

/-- What was wrapped is unwrapped again, if only the other algorithm has a name at
all. -/
theorem unwrap_of_wrap {other : Text} (named : other.isBlankText = false)
    (succeeds : registry.wrap algorithm descriptor kek key = .ok wrapped) :
    registry.unwrap other descriptor kek wrapped = .ok key := by
  obtain ⟨suite, resolved, nonempty, wrapping⟩ := wrap_eq_ok_iff.mp succeeds
  obtain ⟨_, found⟩ := resolve_eq_ok_iff.mp resolved
  exact unwrap_eq_ok_iff.mpr ⟨suite, resolve_eq_ok_iff.mpr ⟨named, found⟩,
    Mode.wrap_ne_nil wrapping, Mode.unwrap_wrap nonempty wrapping⟩

/-- A suite wraps every key that it admits, under every key encryption key of the
cipher, and unwraps it again. -/
theorem wrap_then_unwrap_admitted (registry : Registry) (suite : Suite) (descriptor synonym : Text)
    (resolves : registry.get descriptor = .ok suite)
    (synonymResolves : registry.get synonym = .ok suite)
    (kek key : Bytes) (kekLength : IsKekLength kek.length) (admitted : suite.mode.Admits key)
    (algorithm other : Text) (named : algorithm.isBlankText = false)
    (otherNamed : other.isBlankText = false) :
    ∃ wrapped, registry.wrap algorithm descriptor kek key = .ok wrapped ∧
      wrapped.length = 8 * ((key.length + 7) / 8) + 8 ∧
      registry.unwrap other synonym kek wrapped = .ok key := by
  obtain ⟨wrapped, wrapping, length⟩ := Mode.exists_wrap kekLength admitted
  have nonempty : key ≠ [] := admitted.ne_nil
  refine ⟨wrapped, wrap_eq_ok_iff.mpr ⟨suite, ?_, nonempty, wrapping⟩, length,
    unwrap_eq_ok_iff.mpr ⟨suite, ?_, Mode.wrap_ne_nil wrapping, Mode.unwrap_wrap nonempty wrapping⟩⟩
  · exact resolve_eq_ok_iff.mpr ⟨named, resolves⟩
  · exact resolve_eq_ok_iff.mpr ⟨otherNamed, synonymResolves⟩

set_option maxRecDepth 4000 in
theorem wrap_then_unwrap_five_bytes :
    ∃ wrapped, builtIn.wrap "AES" "AESWrapPad" (List.replicate 24 7) [1, 2, 3, 4, 0] = .ok wrapped ∧
      wrapped.length = 16 ∧
      builtIn.unwrap "DES" " rfc5649\n" (List.replicate 24 7) wrapped = .ok [1, 2, 3, 4, 0] :=
  wrap_then_unwrap_admitted builtIn Suite.aesWrapPad "AESWrapPad" " rfc5649\n" (by rfl) (by rfl) _ _
    (by decide) (by decide) "AES" "DES" (by rfl) (by rfl)

-- The test vectors of RFC 3394, section 4.1, and of RFC 5649, section 6.
set_option maxRecDepth 4000 in
example :
    let bytes (digits : String) : Bytes := (Bytes.ofHex? digits.toList).getD []
    Mode.plain.wrap (bytes "000102030405060708090a0b0c0d0e0f")
        (bytes "00112233445566778899aabbccddeeff") =
      .ok (bytes "1fa68b0a8112b447aef34bd8fb5a7b829d3e862371d2cfe5") := by
  cbv

set_option maxRecDepth 4000 in
example :
    let bytes (digits : String) : Bytes := (Bytes.ofHex? digits.toList).getD []
    Mode.padded.wrap (bytes "5840df6e29b02af1ab493b705bf16ea1ae8338f4dcc176a8")
        (bytes "466f7250617369") =
      .ok (bytes "afbeb0f07dfbf5419200f2ccb50bb24f") := by
  cbv

end Registry

end KeyEnvelope.KeyWrap
