import KeyEnvelope.Proofs.Text.Case
import Mathlib.Data.List.Infix

/-!
# Upper case and back

The lower case of the upper case of a text need not be its lower case. If an ASCII word comes out
of either of them, only two kinds of letters tell them apart: an i without a dot, which gets one on
the way, and letters that are spelled out with others, such as ligatures.
-/

namespace KeyEnvelope

def Code.IsAscii (code : Code) : Prop :=
  ∃ c : Char, c.toNat < 128 ∧ code = .char c

namespace Text

namespace Case

def kelvinSign : Char := '\u212a'

/-- The letter i without a dot, whose upper case is that of the letter with one. -/
def dotlessI : Char := '\u0131'

/-- Other letters whose upper case is written with ASCII letters: long s, sharp s, and ligatures
of f and s. -/
def spelledOut : List Char :=
  ['\u017f', '\u00df', '\ufb00', '\ufb01', '\ufb02', '\ufb03', '\ufb04', '\ufb05', '\ufb06']

def lowerChar (c : Char) : List Char :=
  mapChar lowerShifts lowerExpansions c

def upperChar (c : Char) : List Char :=
  mapChar upperShifts upperExpansions c

/-- What becomes of a character in upper case, and of that in lower case. -/
def throughUpper (c : Char) : List Char :=
  (upperChar c).flatMap lowerChar

def dotted (c : Char) : Char :=
  if c = dotlessI then 'i' else c

/-- The kelvin sign is the only character beyond ASCII with an ASCII letter for its lower case. -/
def IsBasic (c : Char) : Prop :=
  c.toNat < 128 ∨ c = kelvinSign

instance (c : Char) : Decidable (IsBasic c) :=
  inferInstanceAs (Decidable (_ ∨ _))

/-- All characters that are shifted come to be characters other than basic ones. -/
def Shift.LeadsAway (s : Shift) : Prop :=
  128 ≤ s.first + s.shift ∧
    (s.last + s.shift < 0xd800 ∨ 0xdfff < s.first + s.shift ∧ s.last + s.shift < 0x110000) ∧
    (s.last + s.shift < 0x212a ∨ 0x212a < s.first + s.shift)

instance (s : Shift) : Decidable s.LeadsAway :=
  inferInstanceAs (Decidable (_ ∧ _))

theorem Shift.LeadsAway.not_isBasic {s : Shift} {code : Nat} (away : s.LeadsAway)
    (first : s.first ≤ code) (last : code ≤ s.last) :
    ¬IsBasic (Char.ofNat (code + s.shift).toNat) := by
  obtain ⟨beyond, valid, other⟩ := away
  have isValid : (code + s.shift).toNat.isValidChar := by
    unfold Nat.isValidChar
    omega
  have same : (Char.ofNat (code + s.shift).toNat).toNat = (code + s.shift).toNat := by
    rw [Char.ofNat, dif_pos isValid]
    rfl
  rintro (ascii | kelvin)
  · omega
  · have number : (Char.ofNat (code + s.shift).toNat).toNat = 0x212a := by
      rw [kelvin]
      rfl
    omega

section Tables

variable {shifts : List Shift} {expansions : List (Nat × List Nat)} {sources : List Char} {c : Char}

/-- If a table leads to basic characters from few others, only these and basic ones become such. -/
theorem isBasic_of_mapChar
    (shifted : ∀ s ∈ shifts, s.last < 128 ∨ s.first = s.last ∧ Char.ofNat s.first ∈ sources ∨
      s.LeadsAway)
    (expanded : ∀ expansion ∈ expansions, (∀ code ∈ expansion.2, IsBasic (Char.ofNat code)) →
      Char.ofNat expansion.1 ∈ sources)
    (basic : ∀ d ∈ mapChar shifts expansions c, IsBasic d) : IsBasic c ∨ c ∈ sources := by
  unfold mapChar at basic
  split at basic
  · rename_i codes found
    obtain ⟨before, behind, table, -⟩ := List.lookup_eq_some_iff.mp found
    have among : (c.toNat, codes) ∈ expansions :=
      table ▸ List.mem_append_right before List.mem_cons_self
    right
    rw [← Char.ofNat_toNat c]
    exact expanded _ among fun code member => basic _ (List.mem_map_of_mem member)
  · split at basic
    · rename_i s found
      have covers := List.find?_some found
      simp only [Shift.covers, Bool.and_eq_true, decide_eq_true_eq] at covers
      obtain ⟨⟨first, last⟩, -⟩ := covers
      rcases shifted s (List.mem_of_find?_eq_some found) with low | ⟨single, source⟩ | away
      · exact .inl (.inl (by omega))
      · right
        rw [← Char.ofNat_toNat c, show c.toNat = s.first by omega]
        exact source
      · exact absurd (basic _ (List.mem_singleton_self _)) (away.not_isBasic first last)
    · exact .inl (basic c (List.mem_singleton_self c))

/-- The rows of a table at which ASCII characters are looked up. -/
def asciiRows (shifts : List Shift) : List Shift :=
  shifts.takeWhile fun s => s.first < 128

theorem mapChar_of_ascii (others : ∀ s ∈ shifts.dropWhile fun s => s.first < 128, 128 ≤ s.first)
    (expanded : ∀ expansion ∈ expansions, 128 ≤ expansion.1) (ascii : c.toNat < 128) :
    mapChar shifts expansions c = mapChar (asciiRows shifts) [] c := by
  have kept : expansions.lookup c.toNat = none := by
    rw [List.lookup_eq_none_iff]
    intro expansion among
    have beyond := expanded expansion among
    rw [bne_iff_ne]
    omega
  have rows : shifts.find? (fun s => s.covers c.toNat) =
      (asciiRows shifts).find? fun s => s.covers c.toNat := by
    have unfound : (shifts.dropWhile fun s => s.first < 128).find? (fun s => s.covers c.toNat) =
        none := by
      rw [List.find?_eq_none]
      intro s among covers
      have beyond := others s among
      simp only [Shift.covers, Bool.and_eq_true, decide_eq_true_eq] at covers
      omega
    have split : asciiRows shifts ++ (shifts.dropWhile fun s => s.first < 128) = shifts :=
      List.takeWhile_append_dropWhile
    rw [← split, List.find?_append, unfound, Option.or_none, split]
  simp only [mapChar, kept, rows, List.lookup_nil]

end Tables

theorem isBasic_of_lowerChar {c : Char} (ascii : ∀ d ∈ lowerChar c, d.toNat < 128) : IsBasic c := by
  have shifted : ∀ s ∈ lowerShifts, s.last < 128 ∨
      s.first = s.last ∧ Char.ofNat s.first ∈ [kelvinSign] ∨ s.LeadsAway := by
    decide +kernel
  have expanded : ∀ expansion ∈ lowerExpansions,
      (∀ code ∈ expansion.2, IsBasic (Char.ofNat code)) →
        Char.ofNat expansion.1 ∈ [kelvinSign] := by
    decide +kernel
  rcases isBasic_of_mapChar shifted expanded fun d among => .inl (ascii d among) with basic | kelvin
  · exact basic
  · exact .inr (List.mem_singleton.mp kelvin)

theorem isBasic_of_upperChar {c : Char} (basic : ∀ d ∈ upperChar c, IsBasic d) :
    IsBasic c ∨ c ∈ dotlessI :: spelledOut := by
  have shifted : ∀ s ∈ upperShifts, s.last < 128 ∨
      s.first = s.last ∧ Char.ofNat s.first ∈ dotlessI :: spelledOut ∨ s.LeadsAway := by
    decide +kernel
  have expanded : ∀ expansion ∈ upperExpansions,
      (∀ code ∈ expansion.2, IsBasic (Char.ofNat code)) →
        Char.ofNat expansion.1 ∈ dotlessI :: spelledOut := by
    decide +kernel
  exact isBasic_of_mapChar shifted expanded basic

theorem lowerChar_of_ascii {c : Char} (ascii : c.toNat < 128) :
    lowerChar c = mapChar (asciiRows lowerShifts) [] c :=
  mapChar_of_ascii (by decide +kernel) (by decide +kernel) ascii

theorem upperChar_of_ascii {c : Char} (ascii : c.toNat < 128) :
    upperChar c = mapChar (asciiRows upperShifts) [] c :=
  mapChar_of_ascii (by decide +kernel) (by decide +kernel) ascii

theorem throughUpper_of_isBasic {c : Char} (basic : IsBasic (dotted c)) :
    throughUpper c = lowerChar (dotted c) := by
  have ofDotlessI : throughUpper dotlessI = lowerChar (dotted dotlessI) := by
    decide +kernel
  have ofKelvinSign : throughUpper kelvinSign = lowerChar (dotted kelvinSign) := by
    decide +kernel
  have uppers : ∀ code ∈ List.range 128,
      (mapChar (asciiRows upperShifts) [] (Char.ofNat code)).all fun d => d.toNat < 128 := by
    decide +kernel
  have lowers : ∀ code ∈ List.range 128,
      (mapChar (asciiRows upperShifts) [] (Char.ofNat code)).flatMap
          (mapChar (asciiRows lowerShifts) []) =
        mapChar (asciiRows lowerShifts) [] (Char.ofNat code) := by
    decide +kernel
  by_cases dotless : c = dotlessI
  · rw [dotless, ofDotlessI]
  · rw [dotted, if_neg dotless] at basic
    rcases basic with ascii | kelvin
    · have inRange : c.toNat ∈ List.range 128 := List.mem_range.mpr ascii
      have upper := uppers c.toNat inRange
      have lower := lowers c.toNat inRange
      rw [Char.ofNat_toNat] at upper lower
      rw [dotted, if_neg dotless, throughUpper, upperChar_of_ascii ascii, lowerChar_of_ascii ascii,
        ← lower]
      apply List.flatMap_congr
      intro d among
      exact lowerChar_of_ascii (of_decide_eq_true (List.all_eq_true.mp upper d among))
    · rw [kelvin, ofKelvinSign]

theorem throughUpper_of_ascii {c : Char} (ascii : ∀ d ∈ throughUpper c, d.toNat < 128)
    (kept : c ∉ spelledOut) : throughUpper c = lowerChar (dotted c) := by
  have basic : ∀ d ∈ upperChar c, IsBasic d := by
    intro d among
    exact isBasic_of_lowerChar fun e later => ascii e (List.mem_flatMap.mpr ⟨d, among, later⟩)
  apply throughUpper_of_isBasic
  rcases isBasic_of_upperChar basic with same | source
  · by_cases dotless : c = dotlessI
    · exact .inl (by rw [dotted, if_pos dotless]; decide)
    · rwa [dotted, if_neg dotless]
  · rcases List.mem_cons.mp source with rfl | spelled
    · exact .inl (by decide)
    · exact absurd spelled kept

theorem lowerAfter_of_no_sigma {codes : List Code} (absent : .char capitalSigma ∉ codes)
    (before : List Code) : lowerAfter before codes = codes.flatMap (Code.mapChar lowerChar) := by
  induction codes generalizing before with
  | nil => rfl
  | cons code rest inductionHypothesis =>
    rw [List.mem_cons, not_or] at absent
    obtain ⟨other, absent⟩ := absent
    rw [lowerAfter, List.flatMap_cons, inductionHypothesis absent]
    cases code with
    | half number => rfl
    | char c =>
      have different : c ≠ capitalSigma := fun same => other (congrArg Code.char same.symm)
      simp only [Code.mapChar, if_neg different, lowerChar]

theorem not_ascii_of_sigma {codes : List Code} (sigma : .char capitalSigma ∈ codes)
    (before : List Code) : ∃ code ∈ lowerAfter before codes, ¬code.IsAscii := by
  have greek {c : Char} (beyond : 128 ≤ c.toNat) : ¬(Code.char c).IsAscii := by
    rintro ⟨_, ascii, ⟨⟩⟩
    omega
  induction codes generalizing before with
  | nil => cases sigma
  | cons code rest inductionHypothesis =>
    rw [lowerAfter]
    rcases List.mem_cons.mp sigma with rfl | later
    · simp only [Code.mapChar, if_true, List.mem_append]
      split
      · exact ⟨.char 'ς', .inl (by simp), greek (by decide)⟩
      · exact ⟨.char 'σ', .inl (by simp), greek (by decide)⟩
    · obtain ⟨code, among, other⟩ := inductionHypothesis later _
      exact ⟨code, List.mem_append_right _ among, other⟩

end Case

open Case

/-- A text with a dot on every i. -/
def dotted (text : Text) : Text :=
  ⟨text.codes.flatMap (Code.mapChar fun c => [Case.dotted c])⟩

variable {text word : Text}

/-- A text with an ASCII word for its lower case has no letter that looks at its context. -/
theorem lower_eq_iff (ascii : ∀ code ∈ word.codes, code.IsAscii) :
    text.lower = word ↔ text.codes.flatMap (Code.mapChar lowerChar) = word.codes := by
  obtain ⟨codes⟩ := word
  rw [lower, Text.mk.injEq]
  by_cases sigma : .char capitalSigma ∈ text.codes
  · have lowered : Code.char 'σ' ∈ text.codes.flatMap (Code.mapChar lowerChar) :=
      List.mem_flatMap.mpr ⟨_, sigma, by decide⟩
    constructor
    · rintro rfl
      obtain ⟨code, among, other⟩ := not_ascii_of_sigma sigma []
      exact absurd (ascii code among) other
    · rintro rfl
      obtain ⟨_, low, ⟨⟩⟩ := ascii _ lowered
      exact absurd low (by decide)
  · rw [lowerAfter_of_no_sigma sigma]

theorem lower_ne_of_dotlessI (dotless : .char dotlessI ∈ text.codes)
    (ascii : ∀ code ∈ word.codes, code.IsAscii) : text.lower ≠ word := by
  intro same
  have lowered : Code.char dotlessI ∈ text.codes.flatMap (Code.mapChar lowerChar) :=
    List.mem_flatMap.mpr ⟨_, dotless, by decide +kernel⟩
  rw [(lower_eq_iff ascii).mp same] at lowered
  obtain ⟨_, low, ⟨⟩⟩ := ascii _ lowered
  exact absurd low (by decide)

theorem dotted_of_no_dotlessI (absent : .char dotlessI ∉ text.codes) : text.dotted = text := by
  obtain ⟨codes⟩ := text
  have same : ∀ code ∈ codes, (code.mapChar fun c => [Case.dotted c]) = [code] := by
    intro code among
    cases code with
    | half number => rfl
    | char c =>
      have different : c ≠ dotlessI := by
        rintro rfl
        exact absent among
      rw [Code.mapChar, Case.dotted, if_neg different, List.map_singleton]
  rw [dotted, List.flatMap_congr same, List.flatMap_singleton']

/-- Lists that are put together in two ways make the same word, if pieces are the same wherever one
of them occurs in the word. -/
theorem flatMap_eq_iff_of_pieces {α β : Type} {f g : α → List β} {items : List α} {word : List β}
    (same : ∀ item ∈ items, f item <:+: word ∨ g item <:+: word → f item = g item) :
    items.flatMap f = word ↔ items.flatMap g = word := by
  have piece (h : α → List β) {item : α} (among : item ∈ items) : h item <:+: items.flatMap h :=
    List.infix_of_mem_flatten (List.mem_map_of_mem among)
  constructor
  · intro made
    rw [← made]
    symm
    apply List.flatMap_congr
    intro item among
    exact same item among (.inl (made ▸ piece f among))
  · intro made
    rw [← made]
    apply List.flatMap_congr
    intro item among
    exact same item among (.inr (made ▸ piece g among))

/-- An ASCII word that holds no letter that is spelled out comes out of upper case as out of the
text with a dot on every i. -/
theorem lower_upper_eq_iff (ascii : ∀ code ∈ word.codes, code.IsAscii)
    (unspelled : ∀ c ∈ spelledOut, ¬(throughUpper c).map Code.char <:+: word.codes) :
    text.upper.lower = word ↔ text.dotted.lower = word := by
  have isAscii {chars : List Char} (piece : chars.map Code.char <:+: word.codes) :
      ∀ d ∈ chars, d.toNat < 128 := by
    intro d among
    obtain ⟨_, low, ⟨⟩⟩ := ascii _ (piece.subset (List.mem_map_of_mem among))
    exact low
  have mapped (f g : Char → List Char) (code : Code) :
      (code.mapChar f).flatMap (Code.mapChar g) = code.mapChar fun c => (f c).flatMap g := by
    cases code with
    | half number => rfl
    | char c => simp only [Code.mapChar, List.flatMap_map, List.map_flatMap]
  rw [lower_eq_iff ascii, lower_eq_iff ascii, upper, dotted, List.flatMap_assoc, List.flatMap_assoc]
  simp only [mapped, List.flatMap_singleton]
  apply flatMap_eq_iff_of_pieces
  intro code _ piece
  cases code with
  | half number => rfl
  | char c =>
    refine congrArg (List.map Code.char) ?_
    rcases piece with above | below
    · apply throughUpper_of_ascii (isAscii above)
      intro spelled
      exact unspelled c spelled above
    · exact throughUpper_of_isBasic (isBasic_of_lowerChar (isAscii below))

end Text

end KeyEnvelope
