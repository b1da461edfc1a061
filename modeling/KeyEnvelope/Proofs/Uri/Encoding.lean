import KeyEnvelope.Proofs.Text
import KeyEnvelope.Proofs.Text.Utf8
import KeyEnvelope.Uri

/-!
# Percent-encoding

Bytes are spelled out in a URI: letters, digits and a few marks stand for themselves, any other
byte is a percent sign with two digits. Decoding takes what is spelled back to the bytes, and the
bytes to characters. A slash at the beginning stays there.
-/

namespace KeyEnvelope.Uri

variable {bytes : Bytes} {spelling : List Char} {c : Char}

/-- Letters, digits and the marks that never separate anything. The slash is one of them, as it
separates the names of a path and nothing else. -/
def isPlain (c : Char) : Bool :=
  isLetter c || c.isDigit || ['_', '.', '-', '~', '/'].contains c

/-- A byte stands for itself or is escaped, with digits of either case. -/
inductive Spells : Bytes → List Char → Prop
  | nil : Spells [] []
  | plain {byte : UInt8} {bytes : Bytes} {spelling : List Char}
      (plain : isPlain (Char.ofNat byte.toNat) = true) (rest : Spells bytes spelling) :
      Spells (byte :: bytes) (Char.ofNat byte.toNat :: spelling)
  | escaped {byte : UInt8} {bytes : Bytes} {spelling : List Char} {high low : Char}
      (special : isPlain (Char.ofNat byte.toNat) = false)
      (first : Text.hexValue? high = some (byte.toNat / 16))
      (second : Text.hexValue? low = some (byte.toNat % 16)) (rest : Spells bytes spelling) :
      Spells (byte :: bytes) ('%' :: high :: low :: spelling)

/-- A byte by itself, or escaped with digits in lower case. -/
def spelled (byte : UInt8) : List Char :=
  if isPlain (Char.ofNat byte.toNat) then [Char.ofNat byte.toNat]
  else '%' :: Text.hexDigits 2 byte.toNat

def percentEncoded (bytes : Bytes) : List Char :=
  bytes.flatMap spelled

theorem bytesOf_cons (rest : List Char) (other : c ≠ '%') :
    bytesOf (c :: rest) = UInt8.ofNat c.toNat :: bytesOf rest := by
  rw [bytesOf]
  exact fun _ _ _ same => absurd same other

theorem hexValue?_digitChar : ∀ digit < 16, Text.hexValue? (Nat.digitChar digit) = some digit := by
  decide

theorem spells_percentEncoded (bytes : Bytes) : Spells bytes (percentEncoded bytes) := by
  induction bytes with
  | nil => exact .nil
  | cons byte bytes inductionHypothesis =>
    rw [percentEncoded, List.flatMap_cons, spelled]
    cases plain : isPlain (Char.ofNat byte.toNat) with
    | true => exact .plain plain inductionHypothesis
    | false =>
      have first : byte.toNat / 16 < 16 := Nat.div_lt_of_lt_mul byte.toNat_lt
      have digits : Text.hexDigits 2 byte.toNat =
          [Nat.digitChar (byte.toNat / 16), Nat.digitChar (byte.toNat % 16)] := by
        rw [← Nat.mod_eq_of_lt first]
        rfl
      simp only [digits, Bool.false_eq_true, if_false]
      exact .escaped plain (hexValue?_digitChar _ first)
        (hexValue?_digitChar _ (Nat.mod_lt _ (by decide))) inductionHypothesis

theorem ofNat_toNat_ofNat (byte : UInt8) : UInt8.ofNat (Char.ofNat byte.toNat).toNat = byte := by
  have inRange : byte.toNat < 256 := byte.toNat_lt
  have same : (Char.ofNat byte.toNat).toNat = byte.toNat := by
    rw [Char.ofNat, dif_pos (.inl (by omega))]
    rfl
  rw [same, UInt8.ofNat_toNat]

theorem bytesOf_of_spells (spells : Spells bytes spelling) : bytesOf spelling = bytes := by
  induction spells with
  | nil => rfl
  | @plain byte bytes spelling plain rest inductionHypothesis =>
    have other : Char.ofNat byte.toNat ≠ '%' := by
      intro same
      rw [same] at plain
      exact absurd plain (by decide)
    rw [bytesOf_cons _ other, inductionHypothesis, ofNat_toNat_ofNat]
  | escaped special first second rest inductionHypothesis =>
    rw [bytesOf, first, second]
    simp only [inductionHypothesis, Nat.div_add_mod, UInt8.ofNat_toNat]

theorem isPlain_bounds (plain : isPlain c = true) : 0x20 < c.toNat ∧ c.toNat < 0x80 := by
  simp only [isPlain, isLetter, Char.isDigit, Bool.or_eq_true, Bool.and_eq_true,
    decide_eq_true_eq, ge_iff_le, Char.le_def, UInt32.le_iff_toNat_le, List.contains_eq_mem,
    List.mem_cons, List.not_mem_nil, or_false] at plain
  rcases plain with alphanumeric | rfl | rfl | rfl | rfl | rfl
  · have ranges : (97 ≤ c.toNat ∧ c.toNat ≤ 122 ∨ 65 ≤ c.toNat ∧ c.toNat ≤ 90) ∨
        48 ≤ c.toNat ∧ c.toNat ≤ 57 := by
      simpa using alphanumeric
    omega
  all_goals decide

theorem isPlain_of_hexValue? {x : Nat} (value : Text.hexValue? c = some x) : isPlain c = true := by
  have alphanumeric : (isLetter c || c.isDigit) = true := by
    unfold Text.hexValue? at value
    split at value
    · rename_i digit
      simp [digit]
    split at value
    · rename_i lower
      have letter : c ≤ 'z' := Char.le_trans lower.2 (by decide)
      simp [isLetter, lower.1, letter]
    split at value
    · rename_i upper
      have letter : c ≤ 'Z' := Char.le_trans upper.2 (by decide)
      simp [isLetter, upper.1, letter]
    · cases value
  rw [isPlain, alphanumeric, Bool.true_or]

/-- A spelling consists of plain characters and percent signs. -/
theorem plain_or_percent_of_spells (spells : Spells bytes spelling) :
    ∀ c ∈ spelling, isPlain c = true ∨ c = '%' := by
  induction spells with
  | nil => simp
  | plain plain rest inductionHypothesis =>
    rw [List.forall_mem_cons]
    exact ⟨.inl plain, inductionHypothesis⟩
  | escaped special first second rest inductionHypothesis =>
    rw [List.forall_mem_cons, List.forall_mem_cons, List.forall_mem_cons]
    exact ⟨.inr rfl, .inl (isPlain_of_hexValue? first), .inl (isPlain_of_hexValue? second),
      inductionHypothesis⟩

/-- What begins with a slash is spelled with a slash at the beginning. -/
theorem exists_of_spells_slash (spells : Spells (UInt8.ofNat 0x2f :: bytes) spelling) :
    ∃ rest, spelling = '/' :: rest := by
  cases spells with
  | plain plain rest => exact ⟨_, congrArg (List.cons · _) (by decide)⟩
  | escaped special first second rest => exact absurd special (by decide)

theorem decodeAfter_of_ascii {codes : List Code} (run : List Char)
    (ascii : ∀ code ∈ codes, code.number < 0x80) :
    decodeAfter run codes = decodedRun ((codes.map Code.shown).reverse ++ run) := by
  induction codes generalizing run with
  | nil => rfl
  | cons code rest inductionHypothesis =>
    obtain ⟨first, ascii⟩ := List.forall_mem_cons.mp ascii
    rw [decodeAfter, if_pos first, inductionHypothesis _ ascii, List.map_cons, List.reverse_cons,
      List.append_assoc, List.singleton_append]

theorem percentDecoded_ofChars (ascii : ∀ c ∈ spelling, c.toNat < 0x80) :
    percentDecoded (Text.ofChars spelling) =
      Text.ofChars (Text.Utf8.decodeLossy (bytesOf spelling)) := by
  have shown : (spelling.map Code.char).map Code.shown = spelling := by
    rw [List.map_map]
    exact List.map_id spelling
  have codes : ∀ code ∈ spelling.map Code.char, code.number < 0x80 := by
    simpa [Code.number] using ascii
  rw [percentDecoded, Text.ofChars, decodeAfter_of_ascii [] codes, shown, List.append_nil,
    decodedRun, List.reverse_reverse]
  rfl

/-- The spelling of a text in UTF-8 is decoded to the text. -/
theorem percentDecoded_of_spells {cs : List Char}
    (spells : Spells (cs.flatMap String.utf8EncodeChar) spelling) :
    percentDecoded (Text.ofChars spelling) = Text.ofChars cs := by
  have ascii : ∀ c ∈ spelling, c.toNat < 0x80 := by
    intro c among
    rcases plain_or_percent_of_spells spells c among with plain | rfl
    · exact (isPlain_bounds plain).2
    · decide
  rw [percentDecoded_ofChars ascii, bytesOf_of_spells spells,
    Text.Utf8.decodeLossy_flatMap_utf8EncodeChar]

theorem utf8EncodeChar_of_plain (plain : isPlain c = true) :
    ∃ byte : UInt8, String.utf8EncodeChar c = [byte] ∧ Char.ofNat byte.toNat = c := by
  have ascii : c.toNat < 0x80 := (isPlain_bounds plain).2
  refine ⟨UInt8.ofNat c.toNat, ?_, ?_⟩
  · rw [String.utf8EncodeChar]
    exact if_pos (Nat.lt_succ_iff.mp ascii)
  · rw [Text.Utf8.toNat_ofNat_byte (Nat.lt_trans ascii (by decide)), Char.ofNat_toNat]

theorem spells_of_plain {cs : List Char} (plain : ∀ c ∈ cs, isPlain c = true) :
    Spells (cs.flatMap String.utf8EncodeChar) cs := by
  induction cs with
  | nil => exact .nil
  | cons c cs inductionHypothesis =>
    obtain ⟨first, others⟩ := List.forall_mem_cons.mp plain
    obtain ⟨byte, encoded, rfl⟩ := utf8EncodeChar_of_plain first
    rw [List.flatMap_cons, encoded]
    exact .plain first (inductionHypothesis others)

theorem percentDecoded_of_plain {cs : List Char} (plain : ∀ c ∈ cs, isPlain c = true) :
    percentDecoded (Text.ofChars cs) = Text.ofChars cs :=
  percentDecoded_of_spells (spells_of_plain plain)

theorem decodedRun_concat_slash (run : List Char) :
    ∃ rest, decodedRun (run ++ ['/']) = .char '/' :: rest := by
  rw [decodedRun, List.reverse_append, List.reverse_singleton, List.singleton_append,
    bytesOf_cons _ (by decide), Text.Utf8.decodeLossy,
    Text.Utf8.pieces_cons_of_ascii _ (by decide), List.map_cons, List.map_cons]
  exact ⟨_, rfl⟩

theorem decodeAfter_concat_slash (run : List Char) (codes : List Code) :
    ∃ rest, decodeAfter (run ++ ['/']) codes = .char '/' :: rest := by
  induction codes generalizing run with
  | nil => exact decodedRun_concat_slash run
  | cons code rest inductionHypothesis =>
    rw [decodeAfter]
    split
    · exact inductionHypothesis (code.shown :: run)
    · obtain ⟨first, decoded⟩ := decodedRun_concat_slash run
      rw [decoded]
      exact ⟨_, rfl⟩

theorem startsWith_percentDecoded {path : Text} (rooted : path.startsWith "/" = true) :
    (percentDecoded path).startsWith "/" = true := by
  obtain ⟨rest, rfl⟩ := Text.startsWith_slash_iff.mp rooted
  obtain ⟨decoded, split⟩ := decodeAfter_concat_slash [] rest
  exact Text.startsWith_slash_iff.mpr ⟨decoded, congrArg Text.mk split⟩

theorem percentDecoded_empty : percentDecoded "" = "" := by
  change (⟨decodedRun []⟩ : Text) = ⟨[]⟩
  rw [decodedRun, List.reverse_nil, bytesOf, Text.Utf8.decodeLossy, Text.Utf8.pieces,
    Text.Utf8.piecesAfter, List.map_nil, List.map_nil]

end KeyEnvelope.Uri
