import KeyEnvelope.Aes.Block

/-!
# Byte strings in words and halves

Cutting a byte string into words, and words into halves, succeeds exactly if nothing
is left over, and joining the pieces gives the byte string back.
-/

namespace KeyEnvelope.Aes

namespace Word

theorem split?_isSome (bytes : Bytes) : (split? bytes).isSome ↔ bytes.length % 4 = 0 := by
  fun_induction split? bytes with
  | case1 => simp
  | case2 b0 b1 b2 b3 rest inductionHypothesis =>
    rw [Option.isSome_map, inductionHypothesis]
    simp only [List.length_cons]
    omega
  | case3 bytes notEmpty notLong =>
    match bytes with
    | [] => exact absurd rfl notEmpty
    | [_] | [_, _] | [_, _, _] => simp
    | b0 :: b1 :: b2 :: b3 :: rest => exact absurd rfl (notLong b0 b1 b2 b3 rest)

theorem length_of_split? {bytes : Bytes} {words : List Word} (split : split? bytes = some words) :
    bytes.length = 4 * words.length := by
  fun_induction split? bytes generalizing words with
  | case1 => simp_all
  | case2 b0 b1 b2 b3 rest inductionHypothesis =>
    obtain ⟨others, found, rfl⟩ := Option.map_eq_some_iff.mp split
    have := inductionHypothesis found
    simp only [List.length_cons]
    omega
  | case3 => simp at split

theorem flatMap_toBytes_of_split? {bytes : Bytes} {words : List Word}
    (split : split? bytes = some words) :
    words.flatMap toBytes = bytes := by
  fun_induction split? bytes generalizing words with
  | case1 => simp_all
  | case2 b0 b1 b2 b3 rest inductionHypothesis =>
    obtain ⟨others, found, rfl⟩ := Option.map_eq_some_iff.mp split
    simp [toBytes, inductionHypothesis found]
  | case3 => simp at split

theorem split?_flatMap_toBytes (words : List Word) :
    split? (words.flatMap toBytes) = some words := by
  induction words with
  | nil => rfl
  | cons word rest inductionHypothesis => simp [toBytes, split?, inductionHypothesis]

end Word

namespace Half

@[simp]
theorem length_toBytes (half : Half) : half.toBytes.length = 8 := rfl

@[simp]
theorem length_join (halves : List Half) : (join halves).length = 8 * halves.length := by
  induction halves with
  | nil => rfl
  | cons half rest inductionHypothesis =>
    simp only [join, List.flatMap_cons, List.length_append, length_toBytes, List.length_cons] at *
    omega

theorem pair?_isSome (words : List Word) : (pair? words).isSome ↔ words.length % 2 = 0 := by
  fun_induction pair? words with
  | case1 => simp
  | case2 left right rest inductionHypothesis =>
    rw [Option.isSome_map, inductionHypothesis]
    simp only [List.length_cons]
    omega
  | case3 word => simp

theorem join_of_pair? {words : List Word} {halves : List Half}
    (paired : pair? words = some halves) :
    join halves = words.flatMap Word.toBytes := by
  fun_induction pair? words generalizing halves with
  | case1 => simp_all [join]
  | case2 left right rest inductionHypothesis =>
    obtain ⟨others, found, rfl⟩ := Option.map_eq_some_iff.mp paired
    have := inductionHypothesis found
    simp_all [join, toBytes]
  | case3 => simp at paired

theorem pair?_words (halves : List Half) :
    pair? (halves.flatMap fun half => [half.left, half.right]) = some halves := by
  induction halves with
  | nil => rfl
  | cons half rest inductionHypothesis => simp [pair?, inductionHypothesis]

theorem join_eq_flatMap_words (halves : List Half) :
    join halves = (halves.flatMap fun half => [half.left, half.right]).flatMap Word.toBytes := by
  simp only [join, List.flatMap_assoc, List.flatMap_cons, List.flatMap_nil, List.append_nil]
  rfl

@[simp]
theorem split?_join (halves : List Half) : split? (join halves) = some halves := by
  rw [split?, join_eq_flatMap_words, Word.split?_flatMap_toBytes, Option.bind_some, pair?_words]

theorem join_of_split? {bytes : Bytes} {halves : List Half} (split : split? bytes = some halves) :
    join halves = bytes := by
  obtain ⟨words, found, paired⟩ := Option.bind_eq_some_iff.mp split
  rw [join_of_pair? paired, Word.flatMap_toBytes_of_split? found]

theorem length_of_split? {bytes : Bytes} {halves : List Half} (split : split? bytes = some halves) :
    bytes.length = 8 * halves.length := by
  rw [← join_of_split? split, length_join]

theorem exists_split? {bytes : Bytes} (whole : bytes.length % 8 = 0) :
    ∃ halves, split? bytes = some halves := by
  have cut : (Word.split? bytes).isSome := by
    rw [Word.split?_isSome]
    omega
  obtain ⟨words, found⟩ := Option.isSome_iff_exists.mp cut
  have paired : (pair? words).isSome := by
    rw [pair?_isSome]
    have := Word.length_of_split? found
    omega
  obtain ⟨halves, foundHalves⟩ := Option.isSome_iff_exists.mp paired
  exact ⟨halves, by rw [split?, found, Option.bind_some, foundHalves]⟩

theorem toNat_wordOfNat {n : Nat} (bound : n < 4294967296) : (wordOfNat n).toBytes.toNat = n := by
  simp only [wordOfNat, Word.toBytes, Bytes.toNat, List.foldl_cons, List.foldl_nil,
    UInt8.toNat_ofNat']
  omega

theorem wordOfNat_toNat (word : Word) : wordOfNat word.toBytes.toNat = word := by
  obtain ⟨b0, b1, b2, b3⟩ := word
  have := b0.toNat_lt
  have := b1.toNat_lt
  have := b2.toNat_lt
  have := b3.toNat_lt
  simp only [wordOfNat, Word.toBytes, Bytes.toNat, List.foldl_cons, List.foldl_nil, Word.mk.injEq,
    ← UInt8.toNat_inj, UInt8.toNat_ofNat']
  omega

end Half

end KeyEnvelope.Aes
