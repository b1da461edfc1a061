import KeyEnvelope.Proofs.Bytes
import KeyEnvelope.Proofs.KeyWrap.Registry
import KeyEnvelope.Proofs.KeyWrap.Wrapping

/-!
# Only wrapped keys are unwrapped

A mode unwraps exactly the byte strings that it wraps keys into. Whatever is chained
back leads forth again to the same bytes, so all depends on the check value that is
found: it has to be the one that the key would be wrapped with. In the padded mode
that value announces the length of the key, and thereby where padding begins.
-/

namespace KeyEnvelope.KeyWrap

open Aes (Half)

variable {kek key wrapped : Bytes}

namespace Plain

theorem wrap_of_unwrap (succeeds : unwrap kek wrapped = .ok key) :
    wrap kek key = .ok wrapped := by
  obtain ⟨cipher, last, chained, cipherFound, long, split, intact, rfl⟩ :=
    unwrap_eq_ok_iff.mp succeeds
  have rechained := chain_unchain (invertible_of_cipher? cipherFound) last chained
  refine wrap_eq_ok_iff.mpr ⟨cipher, _, cipherFound, ?_, Half.split?_join _, ?_⟩
  · rw [Half.length_join, length_unchain]
    have count := Half.length_of_split? split
    rw [List.length_cons] at count
    omega
  · rw [← intact, rechained, Half.join_of_split? split]

end Plain

namespace Padded

theorem length_of_unpad? {found : Half} {halves : List Half}
    (unpadded : unpad? found halves = some key) :
    key.length = found.right.toBytes.toNat := by
  unfold unpad? at unpadded
  dsimp only at unpadded
  split at unpadded
  · rename_i fits
    obtain rfl := Option.some.inj unpadded
    rw [List.length_take, Half.length_join]
    omega
  · cases unpadded

/-- Padding is stripped exactly if the check value and the padding are those of the
key that is left. -/
theorem unpad?_eq_some_iff {found : Half} {halves : List Half} :
    unpad? found halves = some key ↔
      key.length ≤ lengthLimit ∧ found = check key.length ∧ Half.join halves = pad key := by
  constructor
  · intro unpadded
    have counted := length_of_unpad? unpadded
    unfold unpad? at unpadded
    dsimp only at unpadded
    split at unpadded
    · rename_i fits
      obtain ⟨marked, -, -, padded⟩ := fits
      obtain rfl := Option.some.inj unpadded
      refine ⟨?_, ?_, padded⟩
      · have bound := Bytes.toNat_lt found.right.toBytes
        have size : found.right.toBytes.length = 4 := rfl
        have range : Nat.pow 256 found.right.toBytes.length = 4294967296 := by rw [size]
        rw [counted, lengthLimit]
        omega
      · rw [counted, check, Half.wordOfNat_toNat, ← marked]
    · cases unpadded
  · rintro ⟨bounded, rfl, padded⟩
    exact unpad?_check bounded padded

theorem wrap_of_unwrap (succeeds : unwrap kek wrapped = .ok key) :
    key ≠ [] ∧ wrap kek key = .ok wrapped := by
  obtain ⟨cipher, last, enclosed, cipherFound, long, split, unpadded⟩ :=
    unwrap_eq_ok_iff.mp succeeds
  obtain ⟨bounded, intact, padded⟩ := unpad?_eq_some_iff.mp unpadded
  have reenclosed := enclose_disclose (invertible_of_cipher? cipherFound) last enclosed
  constructor
  · rintro rfl
    have count := Half.length_of_split? split
    have none := congrArg List.length padded
    rw [Half.length_join, length_disclose, length_pad] at none
    simp only [List.length_cons, List.length_nil] at count none
    omega
  · refine wrap_eq_ok_iff.mpr
      ⟨cipher, (disclose cipher last enclosed).2, cipherFound, bounded, ?_, ?_⟩
    · rw [← padded, Half.split?_join]
    · rw [← intact, reenclosed, Half.join_of_split? split]

end Padded

namespace Mode

variable {mode : Mode}

theorem admits_of_wrap (nonempty : key ≠ []) (succeeds : mode.wrap kek key = .ok wrapped) :
    mode.Admits key := by
  cases mode with
  | plain =>
    obtain ⟨-, halves, -, long, split, -⟩ := Plain.wrap_eq_ok_iff.mp succeeds
    have count := Half.length_of_split? split
    exact ⟨long, by omega⟩
  | padded =>
    obtain ⟨-, -, -, bounded, -, -⟩ := Padded.wrap_eq_ok_iff.mp succeeds
    exact ⟨List.length_pos_iff.mpr nonempty, bounded⟩

theorem unwrap_eq_ok_iff :
    mode.unwrap kek wrapped = .ok key ↔ key ≠ [] ∧ mode.wrap kek key = .ok wrapped := by
  constructor
  · intro succeeds
    cases mode with
    | plain =>
      have wrapping := Plain.wrap_of_unwrap succeeds
      refine ⟨?_, wrapping⟩
      rintro rfl
      obtain ⟨-, -, -, long, -, -⟩ := Plain.wrap_eq_ok_iff.mp wrapping
      exact absurd long (by decide)
    | padded => exact Padded.wrap_of_unwrap succeeds
  · rintro ⟨nonempty, wrapping⟩
    exact unwrap_wrap nonempty wrapping

end Mode

namespace Registry

variable {registry : Registry} {suite : Suite} {algorithm other descriptor synonym : Text}

theorem unwrap_eq_ok_iff_wrap (resolved : registry.resolve algorithm descriptor = .ok suite)
    (otherResolved : registry.resolve other synonym = .ok suite) :
    registry.unwrap algorithm descriptor kek wrapped = .ok key ↔
      registry.wrap other synonym kek key = .ok wrapped := by
  simp only [unwrap_eq_ok_iff, wrap_eq_ok_iff, resolved, otherResolved, Except.ok.injEq,
    exists_eq_left', Mode.unwrap_eq_ok_iff]
  constructor
  · rintro ⟨-, wrapping⟩
    exact wrapping
  · rintro ⟨nonempty, wrapping⟩
    exact ⟨Mode.wrap_ne_nil wrapping, nonempty, wrapping⟩

theorem admits_of_wrap (resolved : registry.resolve algorithm descriptor = .ok suite)
    (succeeds : registry.wrap algorithm descriptor kek key = .ok wrapped) :
    suite.mode.Admits key := by
  obtain ⟨found, foundResolved, nonempty, wrapping⟩ := wrap_eq_ok_iff.mp succeeds
  obtain rfl : suite = found := Except.ok.inj (resolved.symm.trans foundResolved)
  exact Mode.admits_of_wrap nonempty wrapping

theorem unwrap_ok_or_failure (resolved : registry.resolve algorithm descriptor = .ok suite)
    (kek wrapped : Bytes) :
    (∃ key, registry.unwrap algorithm descriptor kek wrapped = .ok key) ∨
      ∃ issue, registry.unwrap algorithm descriptor kek wrapped = .error (.unwrap issue) := by
  cases wrapped with
  | nil => exact .inr ⟨.empty, by simp [unwrap, resolved]⟩
  | cons byte rest =>
    rw [unwrap_of_resolve resolved (List.cons_ne_nil byte rest)]
    cases suite.mode.unwrap kek (byte :: rest) with
    | error refusal => exact .inr ⟨_, rfl⟩
    | ok key => exact .inl ⟨key, rfl⟩

/-- A byte string is unwrapped to a key exactly if that key is wrapped into it, and then
the key is one that the suite admits. Bytes other than those that a key was wrapped into
are therefore refused, or are those of another key. -/
theorem unwraps_exactly_wrapped (registry : Registry) (suite : Suite) (descriptor synonym : Text)
    (resolves : registry.get descriptor = .ok suite)
    (synonymResolves : registry.get synonym = .ok suite)
    (algorithm other : Text) (named : algorithm.isBlankText = false)
    (otherNamed : other.isBlankText = false) (kek wrapped : Bytes) :
    (∀ key, registry.unwrap algorithm descriptor kek wrapped = .ok key ↔
      registry.wrap other synonym kek key = .ok wrapped) ∧
    (∀ key, registry.unwrap algorithm descriptor kek wrapped = .ok key → suite.mode.Admits key) ∧
    ∀ key genuine, registry.wrap other synonym kek key = .ok genuine → wrapped ≠ genuine →
      (∃ issue, registry.unwrap algorithm descriptor kek wrapped = .error (.unwrap issue)) ∨
      ∃ found, registry.unwrap algorithm descriptor kek wrapped = .ok found ∧ found ≠ key := by
  have resolved : registry.resolve algorithm descriptor = .ok suite :=
    resolve_eq_ok_iff.mpr ⟨named, resolves⟩
  have otherResolved : registry.resolve other synonym = .ok suite :=
    resolve_eq_ok_iff.mpr ⟨otherNamed, synonymResolves⟩
  refine ⟨fun key => unwrap_eq_ok_iff_wrap resolved otherResolved, ?_, ?_⟩
  · intro key unwrapping
    exact admits_of_wrap otherResolved
      ((unwrap_eq_ok_iff_wrap resolved otherResolved).mp unwrapping)
  · intro key genuine wrapping tampered
    rcases unwrap_ok_or_failure resolved kek wrapped with ⟨found, unwrapping⟩ | fails
    · refine .inr ⟨found, unwrapping, ?_⟩
      rintro rfl
      have rewrapping := (unwrap_eq_ok_iff_wrap resolved otherResolved).mp unwrapping
      exact tampered (Except.ok.inj (rewrapping.symm.trans wrapping))
    · exact .inl fails

/-- Five bytes are wrapped into sixteen. With one of these complemented, they are no
longer the wrapped form of the five. -/
theorem unwraps_exactly_wrapped_five_bytes :
    ∃ wrapped, builtIn.wrap "DES" "AESWrapPad" (List.replicate 24 7) [1, 2, 3, 4, 0] = .ok wrapped ∧
      builtIn.unwrap "AES" "AESWrapPad" (List.replicate 24 7) wrapped = .ok [1, 2, 3, 4, 0] ∧
      let tampered := wrapped.modify 9 (~~~ ·)
      (∃ issue, builtIn.unwrap "AES" "AESWrapPad" (List.replicate 24 7) tampered =
        .error (.unwrap issue)) ∨
      ∃ found, builtIn.unwrap "AES" "AESWrapPad" (List.replicate 24 7) tampered = .ok found ∧
        found ≠ [1, 2, 3, 4, 0] := by
  have resolves : builtIn.get "AESWrapPad" = .ok .aesWrapPad :=
    get_name_builtIn Suite.aesWrapPad (.tail _ (.head _))
  have resolved : builtIn.resolve "DES" "AESWrapPad" = .ok .aesWrapPad :=
    resolve_eq_ok_iff.mpr ⟨by rfl, resolves⟩
  obtain ⟨wrapped, wraps, length⟩ : ∃ wrapped,
      builtIn.wrap "DES" "AESWrapPad" (List.replicate 24 7) [1, 2, 3, 4, 0] = .ok wrapped ∧
        wrapped.length = 16 :=
    exists_wrap resolved (by decide) (by decide)
  have canonical (bytes : Bytes) := unwraps_exactly_wrapped builtIn .aesWrapPad "AESWrapPad"
    "AESWrapPad" resolves resolves "AES" "DES" (by rfl) (by rfl) (List.replicate 24 7) bytes
  refine ⟨wrapped, wraps, ((canonical wrapped).1 _).mpr wraps, ?_⟩
  apply (canonical (wrapped.modify 9 (~~~ ·))).2.2 _ wrapped wraps
  exact Bytes.modify_complement_ne (by omega)

end Registry

end KeyEnvelope.KeyWrap
