import Mathlib.Data.List.Induction
import KeyEnvelope.Proofs.FilePath
import KeyEnvelope.Proofs.FileTree.Limits
import KeyEnvelope.Proofs.Text.Utf8

/-!
# Names as the system has them

A name is spelled code by code, with all of its bytes. ASCII characters are spelled by themselves
and by nothing else, so that a name stays a name. Names of characters are the same if they are
spelled the same; only a half may be spelled like a part of a character.
-/

namespace KeyEnvelope.FileTree

variable {name : Text} {code : Code} {c : Char} {number : Nat}

theorem spelled_cons (code : Code) (codes : List Code) :
    spelled ⟨code :: codes⟩ = ⟨spelledCode code⟩ ++ spelled ⟨codes⟩ := rfl

theorem spelledCode_of_ascii (ascii : c.toNat < 0x80) : spelledCode (.char c) = [.char c] :=
  if_pos ascii

theorem spelledCode_of_not_ascii (beyond : ¬c.toNat < 0x80) :
    spelledCode (.char c) =
      (String.utf8EncodeChar c).map fun byte => .half (0xdc00 + byte.toNat) :=
  if_neg beyond

/-- A code is spelled by itself, or is a character that is spelled by its bytes. -/
theorem spelledCode_cases (code : Code) :
    spelledCode code = [code] ∨ ∃ c, code = .char c ∧
      spelledCode code = (String.utf8EncodeChar c).map fun byte => .half (0xdc00 + byte.toNat) := by
  cases code with
  | half number => exact .inl rfl
  | char c =>
    by_cases ascii : c.toNat < 0x80
    · exact .inl (spelledCode_of_ascii ascii)
    · exact .inr ⟨c, rfl, spelledCode_of_not_ascii ascii⟩

/-- A character among the codes of a spelling is what was spelled. -/
theorem eq_of_char_mem_spelledCode (among : .char c ∈ spelledCode code) : code = .char c := by
  rcases spelledCode_cases code with alone | ⟨d, rfl, bytes⟩
  · rw [alone] at among
    exact (List.mem_singleton.mp among).symm
  · rw [bytes] at among
    obtain ⟨byte, -, same⟩ := List.mem_map.mp among
    cases same

theorem char_mem_of_mem_spelled (among : .char c ∈ (spelled name).codes) :
    .char c ∈ name.codes := by
  obtain ⟨code, present, spells⟩ := List.mem_flatMap.mp among
  exact eq_of_char_mem_spelledCode spells ▸ present

/-- A half that stands for no byte is spelled by itself. -/
theorem half_mem_of_mem_spelled (upper : number < 0xdc00)
    (among : .half number ∈ (spelled name).codes) : .half number ∈ name.codes := by
  obtain ⟨code, present, spells⟩ := List.mem_flatMap.mp among
  rcases spelledCode_cases code with alone | ⟨c, rfl, bytes⟩
  · rw [alone] at spells
    exact List.mem_singleton.mp spells ▸ present
  · rw [bytes] at spells
    obtain ⟨byte, -, same⟩ := List.mem_map.mp spells
    have sum : 0xdc00 + byte.toNat = number := Code.half.inj same
    omega

/-- A spelling of characters alone is that of a name in ASCII, which is spelled by itself. -/
theorem spelled_eq_self (onlyChars : ∀ code ∈ (spelled name).codes, ∃ c, code = .char c) :
    spelled name = name := by
  have alone : ∀ code ∈ name.codes, spelledCode code = [code] := by
    intro code present
    rcases spelledCode_cases code with alone | ⟨c, rfl, spelling⟩
    · exact alone
    · obtain ⟨byte, rest, bytes⟩ :=
        List.exists_cons_of_ne_nil (String.utf8EncodeChar_ne_nil (c := c))
      have spells : .half (0xdc00 + byte.toNat) ∈ spelledCode (.char c) := by
        rw [spelling, bytes]
        exact List.mem_cons_self
      obtain ⟨_, same⟩ := onlyChars _ (List.mem_flatMap.mpr ⟨_, present, spells⟩)
      cases same
  have codes : name.codes.flatMap spelledCode = name.codes :=
    (List.flatMap_congr alone).trans (List.flatMap_singleton' _)
  exact congrArg Text.mk codes

theorem eq_of_spelled_eq_ofChars {cs : List Char} (same : spelled name = Text.ofChars cs) :
    name = Text.ofChars cs := by
  rw [← same, spelled_eq_self]
  intro code among
  rw [same] at among
  obtain ⟨c, -, rfl⟩ := List.mem_map.mp among
  exact ⟨c, rfl⟩

/-- What is a name stays one when it is spelled. -/
theorem isName_spelled (valid : FilePath.IsName name) : FilePath.IsName (spelled name) where
  nonempty same := valid.nonempty (eq_of_spelled_eq_ofChars same)
  notDot same := valid.notDot (eq_of_spelled_eq_ofChars same)
  notDots same := valid.notDots (eq_of_spelled_eq_ofChars same)
  unbroken slash := valid.unbroken (char_mem_of_mem_spelled slash)

theorem byteSize_map_half (bytes : Bytes) :
    byteSize ⟨bytes.map fun byte => .half (0xdc00 + byte.toNat)⟩ = bytes.length := by
  induction bytes with
  | nil => rfl
  | cons byte rest inductionHypothesis =>
    rw [List.map_cons, byteSize_cons, inductionHypothesis, List.length_cons, codeSize]
    omega

theorem byteSize_spelledCode (code : Code) : byteSize ⟨spelledCode code⟩ = codeSize code := by
  rcases spelledCode_cases code with alone | ⟨c, rfl, bytes⟩
  · rw [alone]
    exact byteSize_cons code []
  · rw [bytes, byteSize_map_half, String.length_utf8EncodeChar, codeSize]

theorem byteSize_spelled (name : Text) : byteSize (spelled name) = byteSize name := by
  obtain ⟨codes⟩ := name
  induction codes with
  | nil => rfl
  | cons code rest inductionHypothesis =>
    rw [spelled_cons, byteSize_append, inductionHypothesis, byteSize_cons,
      byteSize_spelledCode]

theorem normalized_concat (way : List Text) (name : Text) :
    normalized (way ++ [name]) =
      if name = ".." then (normalized way).dropLast else normalized way ++ [name] := by
  rw [normalized, List.foldl_append]
  rfl

theorem dots_not_mem_normalized (way : List Text) : (".." : Text) ∉ normalized way := by
  induction way using List.reverseRecOn with
  | nil => exact List.not_mem_nil
  | append_singleton way name inductionHypothesis =>
    rw [normalized_concat]
    split
    · exact fun among => inductionHypothesis (List.dropLast_subset _ among)
    · rename_i other
      simpa [inductionHypothesis] using Ne.symm other

/-- Where names lead to, none of them leads back. -/
theorem dots_not_mem_placeOf (names : List Text) : (".." : Text) ∉ placeOf names := by
  intro among
  obtain ⟨name, present, dots⟩ := List.mem_map.mp among
  rw [eq_of_spelled_eq_ofChars dots] at present
  exact dots_not_mem_normalized names present

theorem wayLength_map_spelled (names : List Text) :
    wayLength (names.map spelled) = wayLength names := by
  induction names with
  | nil => rfl
  | cons name rest inductionHypothesis =>
    rw [List.map_cons, wayLength, wayLength, byteSize_spelled, inductionHypothesis]

theorem wayLength_normalized_le (way : List Text) : wayLength (normalized way) ≤ wayLength way := by
  induction way using List.reverseRecOn with
  | nil => exact Nat.le_refl _
  | append_singleton way name inductionHypothesis =>
    rw [normalized_concat, wayLength_append]
    split
    · have shorter := wayLength_dropLast_le (normalized way)
      omega
    · rw [wayLength_append]
      omega

/-- A place has no longer way than the names that lead to it. -/
theorem wayLength_placeOf_le (names : List Text) : wayLength (placeOf names) ≤ wayLength names := by
  rw [placeOf, wayLength_map_spelled]
  exact wayLength_normalized_le names

/-- The byte that a code in a spelling stands for. -/
def byteOf : Code → UInt8
  | .char c => UInt8.ofNat c.toNat
  | .half number => UInt8.ofNat (number - 0xdc00)

theorem map_byteOf_spelledCode (c : Char) :
    (spelledCode (.char c)).map byteOf = String.utf8EncodeChar c := by
  by_cases ascii : c.toNat < 0x80
  · have short : c.val.toNat ≤ 127 := Nat.le_of_lt_succ ascii
    rw [spelledCode_of_ascii ascii, String.utf8EncodeChar, if_pos short]
    rfl
  · rw [spelledCode_of_not_ascii ascii, List.map_map]
    exact List.map_id'' (fun byte => by simp [byteOf]) _

theorem map_byteOf_spelled (cs : List Char) :
    (spelled (Text.ofChars cs)).codes.map byteOf = cs.flatMap String.utf8EncodeChar := by
  simp only [spelled, Text.ofChars, List.flatMap_map, List.map_flatMap, map_byteOf_spelledCode]

/-- Different characters have different bytes. -/
theorem ofChars_eq_of_spelled_eq {cs ds : List Char}
    (same : spelled (Text.ofChars cs) = spelled (Text.ofChars ds)) : cs = ds := by
  have bytes : cs.flatMap String.utf8EncodeChar = ds.flatMap String.utf8EncodeChar := by
    rw [← map_byteOf_spelled, ← map_byteOf_spelled, same]
  rw [← Text.Utf8.decodeLossy_flatMap_utf8EncodeChar cs, bytes,
    Text.Utf8.decodeLossy_flatMap_utf8EncodeChar]

theorem exists_ofChars_of_mem_namesOf {cs : List Char}
    (among : name ∈ FilePath.namesOf (Text.ofChars cs)) : ∃ ds, name = Text.ofChars ds := by
  have onlyChars : ∀ code ∈ name.codes, Code.char code.shown = code := by
    intro code present
    obtain ⟨c, -, rfl⟩ := List.mem_map.mp (FilePath.mem_of_mem_namesOf among present)
    rfl
  have codes : (name.codes.map Code.shown).map Code.char = name.codes := by
    rw [List.map_map]
    exact (List.map_congr_left onlyChars).trans (List.map_id _)
  exact ⟨_, congrArg Text.mk codes.symm⟩

/-- In paths of characters, names that are spelled the same are the same. -/
theorem eq_of_spelled_eq_of_characters {cs ds : List Char} :
    ∀ name ∈ FilePath.namesOf (Text.ofChars cs), ∀ other ∈ FilePath.namesOf (Text.ofChars ds),
      spelled name = spelled other → name = other := by
  intro name among other present same
  obtain ⟨ns, rfl⟩ := exists_ofChars_of_mem_namesOf among
  obtain ⟨os, rfl⟩ := exists_ofChars_of_mem_namesOf present
  rw [ofChars_eq_of_spelled_eq same]

example : spelled "é" = spelled ⟨[.half 0xdcc3, .half 0xdca9]⟩ := by decide

/-- Where no two names are spelled alike, spelled names lead along each other only if the names
do. -/
theorem prefix_of_map_spelled {names others : List Text}
    (alike : ∀ name ∈ names, ∀ other ∈ others, spelled name = spelled other → name = other)
    (leads : names.map spelled <+: others.map spelled) : names <+: others := by
  induction names generalizing others with
  | nil => exact List.nil_prefix
  | cons name rest inductionHypothesis =>
    cases others with
    | nil => exact absurd (List.prefix_nil.mp leads) (List.cons_ne_nil _ _)
    | cons other more =>
      rw [List.map_cons, List.map_cons, List.cons_prefix_cons] at leads
      obtain ⟨same, leads⟩ := leads
      obtain rfl := alike name List.mem_cons_self other List.mem_cons_self same
      refine List.cons_prefix_cons.mpr ⟨rfl, inductionHypothesis ?_ leads⟩
      exact fun name among other present =>
        alike name (List.mem_cons_of_mem _ among) other (List.mem_cons_of_mem _ present)

end KeyEnvelope.FileTree
