import KeyEnvelope.Text.Utf8
import Mathlib.Data.List.Basic

/-!
# Decoding what was encoded

The encoded form of a character is a piece that is complete: its first byte says how many more
there are and within which limits, and they are within them. So the characters of a text come
back one by one, whatever bytes follow. Bytes may also be decoded portion by portion, if those of
a character that is not complete are put before the next portion.
-/

namespace KeyEnvelope.Text.Utf8

variable {n value least greatest missing : Nat} {rest : Bytes}

theorem toNat_ofNat_byte (byte : n < 256) : (UInt8.ofNat n).toNat = n :=
  UInt8.toNat_ofNat_of_lt' byte

theorem piecesAfter_last (value : Nat) (rest : Bytes) (low : least ≤ n) (high : n ≤ greatest)
    (byte : n < 256) :
    piecesAfter (some ⟨1, value, least, greatest⟩) (UInt8.ofNat n :: rest) =
      some (Char.ofNat (64 * value + n % 64)) :: pieces rest := by
  rw [piecesAfter, toNat_ofNat_byte byte, if_pos ⟨low, high⟩, if_pos (Nat.le_refl 1)]
  rfl

theorem piecesAfter_inner (value : Nat) (rest : Bytes) (low : least ≤ n) (high : n ≤ greatest)
    (byte : n < 256) :
    piecesAfter (some ⟨missing + 2, value, least, greatest⟩) (UInt8.ofNat n :: rest) =
      piecesAfter (some ⟨missing + 1, 64 * value + n % 64, 0x80, 0xbf⟩) rest := by
  rw [piecesAfter, toNat_ofNat_byte byte, if_pos ⟨low, high⟩, if_neg (by simp)]
  rfl

theorem pieces_cons_of_start {pending : Pending} (byte : n < 256)
    (starts : start n = .inr pending) :
    pieces (UInt8.ofNat n :: rest) = piecesAfter (some pending) rest := by
  rw [pieces, piecesAfter, piecesAfter.begun, toNat_ofNat_byte byte, starts]

theorem pieces_cons_of_ascii (rest : Bytes) (ascii : n < 0x80) :
    pieces (UInt8.ofNat n :: rest) = some (Char.ofNat n) :: pieces rest := by
  rw [pieces, piecesAfter, piecesAfter.begun, toNat_ofNat_byte (by omega), start, if_pos ascii]
  rfl

theorem start_of_two (low : 0xc2 ≤ n) (high : n < 0xe0) :
    start n = .inr ⟨1, n - 0xc0, 0x80, 0xbf⟩ := by
  rw [start, if_neg (by omega), if_neg (by omega), if_pos high]

theorem start_of_three (low : 0xe0 ≤ n) (high : n < 0xf0) :
    start n = .inr ⟨2, n - 0xe0, if n = 0xe0 then 0xa0 else 0x80,
      if n = 0xed then 0x9f else 0xbf⟩ := by
  rw [start, if_neg (by omega), if_neg (by omega), if_neg (by omega), if_pos high]

theorem start_of_four (low : 0xf0 ≤ n) (high : n ≤ 0xf4) :
    start n = .inr ⟨3, n - 0xf0, if n = 0xf0 then 0x90 else 0x80,
      if n = 0xf4 then 0x8f else 0xbf⟩ := by
  rw [start, if_neg (by omega), if_neg (by omega), if_neg (by omega), if_neg (by omega)]

/-- The limits of the second byte keep out what is no character or has a shorter form; a
character is within them. -/
theorem pieces_utf8EncodeChar_append (c : Char) (rest : Bytes) :
    pieces (String.utf8EncodeChar c ++ rest) = some c :: pieces rest := by
  have valid : c.val.toNat < 0xd800 ∨ 0xdfff < c.val.toNat ∧ c.val.toNat < 0x110000 := c.valid
  have same (value : Nat) (equal : value = c.val.toNat) : some (Char.ofNat value) = some c := by
    rw [equal]
    exact congrArg some (Char.ofNat_toNat c)
  unfold String.utf8EncodeChar
  generalize c.val.toNat = number at valid same
  dsimp only
  split
  · rw [List.singleton_append, pieces_cons_of_ascii rest (by omega), same _ rfl]
  split
  · rw [List.cons_append, List.singleton_append,
      pieces_cons_of_start (by omega) (start_of_two (by omega) (by omega)),
      piecesAfter_last _ _ (by omega) (by omega) (by omega), same _ (by omega)]
  split
  · rw [List.cons_append, List.cons_append, List.singleton_append,
      pieces_cons_of_start (by omega) (start_of_three (by omega) (by omega)),
      piecesAfter_inner _ _ (by split <;> omega) (by split <;> omega) (by omega),
      piecesAfter_last _ _ (by omega) (by omega) (by omega), same _ (by omega)]
  · rw [List.cons_append, List.cons_append, List.cons_append, List.singleton_append,
      pieces_cons_of_start (by omega) (start_of_four (by omega) (by omega)),
      piecesAfter_inner _ _ (by split <;> omega) (by split <;> omega) (by omega),
      piecesAfter_inner _ _ (by omega) (by omega) (by omega),
      piecesAfter_last _ _ (by omega) (by omega) (by omega), same _ (by omega)]

theorem pieces_flatMap_utf8EncodeChar (cs : List Char) :
    pieces (cs.flatMap String.utf8EncodeChar) = cs.map some := by
  induction cs with
  | nil => rw [List.flatMap_nil, pieces, piecesAfter, List.map_nil]
  | cons c rest inductionHypothesis =>
    rw [List.flatMap_cons, pieces_utf8EncodeChar_append, inductionHypothesis, List.map_cons]

theorem decodeLossy_flatMap_utf8EncodeChar (cs : List Char) :
    decodeLossy (cs.flatMap String.utf8EncodeChar) = cs := by
  rw [decodeLossy, pieces_flatMap_utf8EncodeChar, List.map_map]
  exact List.map_id cs

/-! ## Portions -/

variable {bytes begun : Bytes} {cs : List Char}

/-- The bytes of the character that is begun. -/
def begunOf : Option (Pending × Bytes) → Bytes
  | none => []
  | some (_, begun) => begun.reverse

/-- The bytes that are there begin the character that is pending. -/
def IsBegun : Option (Pending × Bytes) → Prop
  | none => True
  | some (pending, begun) =>
    ∀ rest, pieces (begun.reverse ++ rest) = piecesAfter (some pending) rest

/-- Whole characters are split off as they are, whatever follows the bytes. -/
theorem exists_of_splitAfter (state : Option (Pending × Bytes)) (found : List Char)
    (begins : IsBegun state) (split : splitAfter state found bytes = some (cs, begun)) :
    ∃ later, cs = found.reverse ++ later ∧
      later.length + begun.length ≤ (begunOf state).length + bytes.length ∧
      ∀ rest, pieces (begunOf state ++ (bytes ++ rest)) =
        later.map some ++ pieces (begun ++ rest) := by
  fun_induction splitAfter state found bytes with
  | case1 found =>
    obtain ⟨rfl, rfl⟩ := Prod.mk.inj (Option.some.inj split)
    exact ⟨[], by simp, by simp, by simp [begunOf]⟩
  | case2 pending before found =>
    obtain ⟨rfl, rfl⟩ := Prod.mk.inj (Option.some.inj split)
    exact ⟨[], by simp, by simp [begunOf], by simp [begunOf]⟩
  | case3 found byte bytes c starts inductionHypothesis =>
    obtain ⟨later, rfl, short, same⟩ := inductionHypothesis trivial split
    refine ⟨c :: later, by simp, ?_, ?_⟩
    · simp [begunOf] at short ⊢
      omega
    · intro rest
      have first : pieces (byte :: (bytes ++ rest)) = some c :: pieces (bytes ++ rest) := by
        rw [pieces, piecesAfter, piecesAfter.begun, starts]
        rfl
      exact first.trans (congrArg _ (same rest))
  | case4 => cases split
  | case5 found byte bytes pending starts inductionHypothesis =>
    have begins (rest : Bytes) : pieces (byte :: rest) = piecesAfter (some pending) rest := by
      rw [pieces, piecesAfter, piecesAfter.begun, starts]
    obtain ⟨later, rfl, short, same⟩ := inductionHypothesis begins split
    refine ⟨later, rfl, ?_, same⟩
    simp [begunOf] at short ⊢
    omega
  | case6 pending before found byte bytes within value last inductionHypothesis =>
    obtain ⟨later, rfl, short, same⟩ := inductionHypothesis trivial split
    refine ⟨Char.ofNat value :: later, by simp, ?_, ?_⟩
    · simp [begunOf] at short ⊢
      omega
    · intro rest
      have completed : piecesAfter (some pending) (byte :: (bytes ++ rest)) =
          some (Char.ofNat value) :: pieces (bytes ++ rest) := by
        rw [piecesAfter, if_pos within, if_pos last]
        rfl
      exact (begins _).trans (completed.trans (congrArg _ (same rest)))
  | case7 pending before found byte bytes within value more inductionHypothesis =>
    have goesOn (rest : Bytes) : pieces ((byte :: before).reverse ++ rest) =
        piecesAfter (some ⟨pending.missing - 1, value, 0x80, 0xbf⟩) rest := by
      rw [List.reverse_cons, List.append_assoc, begins, List.singleton_append, piecesAfter,
        if_pos within, if_neg more]
    obtain ⟨later, rfl, short, same⟩ := inductionHypothesis goesOn split
    refine ⟨later, rfl, ?_, ?_⟩
    · simp [begunOf] at short ⊢
      omega
    · intro rest
      rw [← same rest]
      simp [begunOf]
  | case8 => cases split

/-- What is split off is decoded, and what is left of the bytes is decoded with what follows. -/
theorem decode?_append_of_split? (split : split? bytes = some (cs, begun)) (rest : Bytes) :
    decode? (bytes ++ rest) = (decode? (begun ++ rest)).map (cs ++ ·) := by
  obtain ⟨later, spelled, short, same⟩ := exists_of_splitAfter none [] trivial split
  obtain rfl : cs = later := spelled
  have whole : pieces (bytes ++ rest) = cs.map some ++ pieces (begun ++ rest) := same rest
  rw [decode?, decode?, whole]
  generalize pieces (begun ++ rest) = pieces
  clear short same whole split
  induction cs with
  | nil => simp
  | cons c rest inductionHypothesis =>
    rw [List.map_cons, List.cons_append, List.mapM_cons, inductionHypothesis]
    cases List.mapM id pieces <;> rfl

theorem length_of_split? (split : split? bytes = some (cs, begun)) :
    cs.length + begun.length ≤ bytes.length := by
  obtain ⟨later, rfl, short, _⟩ := exists_of_splitAfter none [] trivial split
  simpa [begunOf] using short

end KeyEnvelope.Text.Utf8
