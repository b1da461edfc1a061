import KeyEnvelope.Proofs.Checks
import KeyEnvelope.Proofs.Text.Utf8
import KeyEnvelope.Yaml.Blocks

/-!
# No fault is overlooked

A document is decoded portion by portion and checked block by block, so that a fault may come late.
But what comes without a fault in the end is text all through: all bytes are decoded, and all
characters are allowed. As a portion takes bytes off and a block takes characters, the steps are
enough for all of them.
-/

namespace KeyEnvelope.Yaml

open Text.Utf8

namespace Feed

variable {feed more rest : Feed} {cs decoded block : List Char} {c : Char} {wanted fuel : Nat}

/-! ## Line ends -/

theorem mem_normalizeBreaks_of_mem_found {found : List Char} (cs : List Char) (among : c ∈ found) :
    c ∈ normalizeBreaks found cs := by
  fun_induction normalizeBreaks found cs with
  | case1 found rest inductionHypothesis => exact inductionHypothesis (List.mem_cons_of_mem _ among)
  | case2 found rest _ inductionHypothesis =>
    exact inductionHypothesis (List.mem_cons_of_mem _ among)
  | case3 found d rest _ _ inductionHypothesis =>
    exact inductionHypothesis (List.mem_cons_of_mem _ among)
  | case4 found => exact List.mem_reverse.mpr among

/-- All characters but carriage returns stay among them. -/
theorem mem_normalizeBreaks (found : List Char) (among : c ∈ cs) (different : c ≠ '\r') :
    c ∈ normalizeBreaks found cs := by
  fun_induction normalizeBreaks found cs with
  | case1 found rest inductionHypothesis =>
    simp only [List.mem_cons, different, false_or] at among
    rcases among with rfl | later
    · exact mem_normalizeBreaks_of_mem_found _ List.mem_cons_self
    · exact inductionHypothesis later
  | case2 found rest _ inductionHypothesis =>
    exact inductionHypothesis ((List.mem_cons.mp among).resolve_left different)
  | case3 found d rest _ _ inductionHypothesis =>
    rcases List.mem_cons.mp among with rfl | later
    · exact mem_normalizeBreaks_of_mem_found _ List.mem_cons_self
    · exact inductionHypothesis later
  | case4 found => cases among

theorem length_normalizeBreaks_le (found cs : List Char) :
    (normalizeBreaks found cs).length ≤ found.length + cs.length := by
  fun_induction normalizeBreaks found cs with
  | case1 found rest inductionHypothesis =>
    simp only [List.length_cons] at inductionHypothesis ⊢
    omega
  | case2 found rest _ inductionHypothesis =>
    simp only [List.length_cons] at inductionHypothesis ⊢
    omega
  | case3 found d rest _ _ inductionHypothesis =>
    simp only [List.length_cons] at inductionHypothesis ⊢
    omega
  | case4 found => simp

/-- The decoded characters, with a carriage return before them that was put off until now. -/
def wholeOf (feed : Feed) (decoded : List Char) (isLast : Bool) : List Char :=
  if feed.holdsReturn && (isLast || !decoded.isEmpty) then '\r' :: decoded else decoded

/-- Is a carriage return at the end of the characters put off? -/
def putsOff (whole : List Char) (isLast : Bool) : Bool :=
  !isLast && whole.getLast? = some '\r'

theorem text_addText (feed : Feed) (decoded : List Char) (isLast : Bool) :
    (feed.addText decoded isLast).text = feed.text ++ normalizeBreaks []
      (if putsOff (feed.wholeOf decoded isLast) isLast then (feed.wholeOf decoded isLast).dropLast
        else feed.wholeOf decoded isLast) :=
  rfl

theorem dropLast_of_putsOff {whole : List Char} {isLast : Bool}
    (puts : putsOff whole isLast = true) : whole.dropLast ++ ['\r'] = whole := by
  simp only [putsOff, Bool.and_eq_true, decide_eq_true_eq] at puts
  exact List.dropLast_append_getLast? _ puts.2

/-- Decoded characters are put behind the text; at most a carriage return is put off. -/
theorem mem_text_addText (isLast : Bool) (among : c ∈ feed.text ∨ c ∈ decoded)
    (different : c ≠ '\r') : c ∈ (feed.addText decoded isLast).text := by
  rw [text_addText, List.mem_append]
  refine among.imp_right fun among => mem_normalizeBreaks _ ?_ different
  have whole : c ∈ feed.wholeOf decoded isLast := by
    unfold wholeOf
    split
    · exact List.mem_cons_of_mem _ among
    · exact among
  split
  · rename_i puts
    rw [← dropLast_of_putsOff puts, List.mem_append] at whole
    exact whole.resolve_right (by simpa using different)
  · exact whole

theorem length_text_addText_le (feed : Feed) (decoded : List Char) (isLast : Bool) :
    (feed.addText decoded isLast).text.length + (feed.addText decoded isLast).holdsReturn.toNat ≤
      feed.text.length + feed.holdsReturn.toNat + decoded.length := by
  let waits := feed.holdsReturn && !(feed.holdsReturn && (isLast || !decoded.isEmpty))
  have whole : (feed.wholeOf decoded isLast).length + waits.toNat =
      feed.holdsReturn.toNat + decoded.length := by
    unfold wholeOf waits
    cases feed.holdsReturn <;> cases (isLast || !decoded.isEmpty) <;> simp <;> omega
  have held : (feed.addText decoded isLast).holdsReturn =
      (putsOff (feed.wholeOf decoded isLast) isLast || waits) := rfl
  have waiting : (true || waits).toNat ≤ 1 := Bool.toNat_le _
  rw [text_addText, held, List.length_append]
  cases puts : putsOff (feed.wholeOf decoded isLast) isLast with
  | false =>
    have kept := length_normalizeBreaks_le [] (feed.wholeOf decoded isLast)
    simp only [Bool.false_or, Bool.false_eq_true, if_false, List.length_nil] at kept ⊢
    omega
  | true =>
    have kept := length_normalizeBreaks_le [] (feed.wholeOf decoded isLast).dropLast
    have last := congrArg List.length (dropLast_of_putsOff puts)
    simp only [if_true, List.length_nil, List.length_append, List.length_singleton] at kept last ⊢
    omega

/-! ## Portions -/

/-- What is still to come of the document is text, and all of it is allowed. -/
structure IsClean (feed : Feed) : Prop where
  decodes : ∃ cs, decode? (feed.begun ++ feed.bytes) = some cs ∧ ∀ c ∈ cs, isAllowed c = true
  allowed : ∀ c ∈ feed.text, isAllowed c = true

/-- All bytes were decoded. -/
def IsUsedUp (feed : Feed) : Prop :=
  feed.bytes = [] ∧ feed.begun = []

/-- At most so many characters are still to come. -/
def size (feed : Feed) : Nat :=
  feed.text.length + feed.holdsReturn.toNat + feed.begun.length + feed.bytes.length

/-- What one portion leaves to be done. -/
structure Goes (feed more : Feed) : Prop where
  clean : more.IsClean → feed.IsClean
  size_le : more.size ≤ feed.size
  usedUp : feed.bytes = [] → more.IsUsedUp
  shorter : feed.bytes ≠ [] → more.bytes.length < feed.bytes.length

/-- A carriage return is allowed, so it does not matter whether it is put off. -/
theorem isAllowed_of_addText {isLast : Bool}
    (allowed : ∀ c ∈ (feed.addText decoded isLast).text, isAllowed c = true)
    (among : c ∈ feed.text ∨ c ∈ decoded) : isAllowed c = true := by
  by_cases same : c = '\r'
  · subst same
    decide
  · exact allowed c (mem_text_addText isLast among same)

theorem goes_of_decodePortion (found : feed.decodePortion wanted = .ok more) : feed.Goes more := by
  have positive : 0 < feed.portion wanted := by
    unfold portion leastPortion
    split_ifs <;> omega
  unfold decodePortion at found
  dsimp only at found
  generalize feed.portion wanted = size at found positive
  cases split : split? (feed.begun ++ feed.bytes.take size) with
  | none => simp [split] at found
  | some parts =>
    obtain ⟨decoded, begun⟩ := parts
    simp only [split] at found
    split at found
    · cases found
    rename_i complete
    obtain rfl := Except.ok.inj found
    let rest : Feed :=
      { feed with
        bytes := feed.bytes.drop size, begun, lastBytes := (feed.bytes.take size).length }
    have grown := length_text_addText_le rest decoded (feed.bytes.take size).isEmpty
    have parted := length_of_split? split
    have halves := congrArg List.length (List.take_append_drop size feed.bytes)
    rw [List.length_append] at parted halves
    refine ⟨fun clean => ⟨?_, fun c among => ?_⟩, ?_, fun none => ?_, fun some => ?_⟩
    · obtain ⟨cs, decodes, allowed⟩ := clean.decodes
      have whole := decode?_append_of_split? split (feed.bytes.drop size)
      rw [List.append_assoc, List.take_append_drop] at whole
      refine ⟨decoded ++ cs, ?_, ?_⟩
      · rw [whole]
        exact congrArg (Option.map (decoded ++ ·)) decodes
      · intro c among
        rcases List.mem_append.mp among with among | among
        · exact isAllowed_of_addText clean.allowed (.inr among)
        · exact allowed c among
    · exact isAllowed_of_addText clean.allowed (.inl among)
    · change (rest.addText _ _).text.length + (rest.addText _ _).holdsReturn.toNat + begun.length +
        (feed.bytes.drop size).length ≤ _
      change _ ≤ feed.text.length + feed.holdsReturn.toNat + decoded.length at grown
      unfold Feed.size
      omega
    · have all : begun = [] := by simpa [none] using complete
      exact ⟨by simp [addText, none], all⟩
    · have long := List.length_pos_of_ne_nil some
      change (feed.bytes.drop size).length < _
      rw [List.length_drop]
      omega

/-! ## Filling up -/

/-- Filling up ends at once, or goes on with what one portion leaves; with the bytes used up, this
portion may be the last one. -/
theorem cases_of_fillTo (filled : fillTo wanted (fuel + 1) feed = .ok more) :
    wanted ≤ feed.text.length ∧ more = feed ∨
      ∃ next, feed.Goes next ∧
        (feed.bytes = [] ∧ more = next ∨ fillTo wanted fuel next = .ok more) := by
  unfold fillTo at filled
  split at filled
  · rename_i enough
    exact .inl ⟨enough, (Except.ok.inj filled).symm⟩
  · obtain ⟨next, portion, filled⟩ := Checks.bind_eq_ok_iff.mp filled
    refine .inr ⟨next, goes_of_decodePortion portion, ?_⟩
    split at filled
    · rename_i last
      exact .inl ⟨List.isEmpty_iff.mp last.1, (Except.ok.inj filled).symm⟩
    · exact .inr filled

theorem IsUsedUp.fillTo (usedUp : feed.IsUsedUp) (filled : fillTo wanted fuel feed = .ok more) :
    more.IsUsedUp := by
  induction fuel generalizing feed with
  | zero =>
    obtain rfl := Except.ok.inj filled
    exact usedUp
  | succ fuel inductionHypothesis =>
    obtain ⟨_, rfl⟩ | ⟨next, goes, ⟨_, rfl⟩ | filled⟩ := cases_of_fillTo filled
    · exact usedUp
    · exact goes.usedUp usedUp.1
    · exact inductionHypothesis (goes.usedUp usedUp.1) filled

/-- What is wanted is there in the end, unless the bytes are used up. -/
theorem enough_of_fillTo (steps : feed.bytes.length < fuel)
    (filled : fillTo wanted fuel feed = .ok more) : wanted ≤ more.text.length ∨ more.IsUsedUp := by
  induction fuel generalizing feed with
  | zero => omega
  | succ fuel inductionHypothesis =>
    obtain ⟨enough, rfl⟩ | ⟨next, goes, ⟨none, rfl⟩ | filled⟩ := cases_of_fillTo filled
    · exact .inl enough
    · exact .inr (goes.usedUp none)
    · by_cases none : feed.bytes = []
      · exact .inr ((goes.usedUp none).fillTo filled)
      · have shorter := goes.shorter none
        exact inductionHypothesis (by omega) filled

/-- Nothing is overlooked and nothing is added on the way. -/
theorem clean_of_fillTo (filled : fillTo wanted fuel feed = .ok more) :
    (more.IsClean → feed.IsClean) ∧ more.size ≤ feed.size := by
  induction fuel generalizing feed with
  | zero =>
    obtain rfl := Except.ok.inj filled
    exact ⟨id, Nat.le_refl _⟩
  | succ fuel inductionHypothesis =>
    obtain ⟨_, rfl⟩ | ⟨next, goes, ⟨_, rfl⟩ | filled⟩ := cases_of_fillTo filled
    · exact ⟨id, Nat.le_refl _⟩
    · exact ⟨goes.clean, goes.size_le⟩
    · obtain ⟨clean, size_le⟩ := inductionHypothesis filled
      exact ⟨fun held => goes.clean (clean held), Nat.le_trans size_le goes.size_le⟩

/-! ## Blocks -/

/-- What one block leaves to be done. -/
structure Hands (feed : Feed) (block : List Char) (rest : Feed) : Prop where
  clean : (∀ c ∈ block, isAllowed c = true) → rest.IsClean → feed.IsClean
  size_le : rest.size + block.length ≤ feed.size
  last : block = [] → feed.IsClean

theorem isClean_of_isUsedUp (usedUp : feed.IsUsedUp) (none : feed.text = []) : feed.IsClean := by
  refine ⟨⟨[], ?_, by simp⟩, by simp [none]⟩
  simp [usedUp.1, usedUp.2, decode?, pieces, piecesAfter]

theorem hands_of_nextBlock (handed : feed.nextBlock = .ok (block, rest)) :
    feed.Hands block rest := by
  obtain ⟨filled, fills, handed⟩ := Checks.bind_eq_ok_iff.mp handed
  obtain ⟨rfl, rfl⟩ := Prod.mk.inj (Except.ok.inj handed)
  obtain ⟨clean, size_le⟩ := clean_of_fillTo fills
  have whole := List.take_append_drop blockSize filled.text
  refine ⟨fun allowed cleanRest => clean ⟨cleanRest.decodes, fun c among => ?_⟩, ?_,
    fun none => clean ?_⟩
  · rw [← whole, List.mem_append] at among
    exact among.elim (allowed c) (cleanRest.allowed c)
  · have halves := congrArg List.length whole
    rw [List.length_append] at halves
    unfold Feed.size at size_le ⊢
    dsimp only
    omega
  · have empty : filled.text = [] :=
      (List.take_eq_nil_iff.mp none).resolve_left (by decide)
    refine isClean_of_isUsedUp ((enough_of_fillTo (by omega) fills).resolve_left ?_) empty
    rw [empty]
    decide

/-- Reading ends with a fault, or hands out a block of which all is allowed, and goes on unless the
block is empty. -/
theorem cases_of_textAfter (fuel : Nat) (before : List Char) (feed : Feed) :
    (∃ fault, textAfter (fuel + 1) before feed = ([], some fault)) ∨
      ∃ block rest, feed.Hands block rest ∧
        (∀ c ∈ before, isAllowed c = true) ∧ (∀ c ∈ block, isAllowed c = true) ∧
        (block = [] ∧ textAfter (fuel + 1) before feed = (before, none) ∨
          block ≠ [] ∧ textAfter (fuel + 1) before feed =
            (before ++ block ++ (textAfter fuel [] rest).1, (textAfter fuel [] rest).2)) := by
  rw [textAfter]
  cases handed : feed.nextBlock with
  | error fault => exact .inl ⟨fault, rfl⟩
  | ok handedOut =>
    obtain ⟨block, rest⟩ := handedOut
    dsimp only
    split
    · exact .inl ⟨_, rfl⟩
    rename_i allowed
    simp only [Bool.not_eq_true', Bool.not_eq_false, Bool.and_eq_true, List.all_eq_true] at allowed
    refine .inr ⟨block, rest, hands_of_nextBlock handed, allowed.1, allowed.2, ?_⟩
    split
    · rename_i none
      exact .inl ⟨List.isEmpty_iff.mp none, rfl⟩
    · rename_i some
      exact .inr ⟨fun none => some (List.isEmpty_iff.mpr none), rfl⟩

/-- What comes without a fault in the end is clean. -/
theorem clean_of_textAfter {before : List Char} (steps : feed.size < fuel)
    (faultless : (textAfter fuel before feed).2 = none) :
    (∀ c ∈ before, isAllowed c = true) ∧ feed.IsClean := by
  induction fuel generalizing feed before with
  | zero => omega
  | succ fuel inductionHypothesis =>
    obtain ⟨fault, stops⟩ | ⟨block, rest, hands, earlier, allowed, ⟨none, _⟩ | ⟨some, goes⟩⟩ :=
      cases_of_textAfter fuel before feed
    · simp [stops] at faultless
    · exact ⟨earlier, hands.last none⟩
    · rw [goes] at faultless
      have shorter := hands.size_le
      have long : 0 < block.length := List.length_pos_of_ne_nil some
      have later := inductionHypothesis (by omega) faultless
      exact ⟨earlier, hands.clean allowed later.2⟩

theorem isAllowed_of_mem_textAfter {before : List Char}
    (among : c ∈ (textAfter fuel before feed).1) : isAllowed c = true := by
  induction fuel generalizing feed before with
  | zero => cases among
  | succ fuel inductionHypothesis =>
    obtain ⟨fault, stops⟩ | ⟨block, rest, _, earlier, allowed, ⟨_, ends⟩ | ⟨_, goes⟩⟩ :=
      cases_of_textAfter fuel before feed
    · simp [stops] at among
    · rw [ends] at among
      exact earlier c among
    · rw [goes] at among
      simp only [List.mem_append] at among
      obtain (among | among) | among := among
      · exact earlier c among
      · exact allowed c among
      · exact inductionHypothesis among

end Feed

/-- The bytes are text in UTF-8, and all of its characters are allowed. -/
def IsText (bytes : Bytes) : Prop :=
  ∃ cs, decode? bytes = some cs ∧ ∀ c ∈ cs, Feed.isAllowed c = true

/-- Bytes that are no text are not taken for a text without a fault. -/
theorem isText_of_textOf {bytes : Bytes} (faultless : (textOf bytes).2 = none) : IsText bytes := by
  unfold textOf at faultless
  cases handed : (Feed.start bytes).nextBlock with
  | error fault => simp [handed] at faultless
  | ok handedOut =>
    obtain ⟨block, rest⟩ := handedOut
    have hands := Feed.hands_of_nextBlock handed
    have size : (Feed.start bytes).size = bytes.length := by simp [Feed.size, Feed.start]
    have size_le := hands.size_le
    simp only [handed] at faultless
    obtain ⟨allowed, clean⟩ := Feed.clean_of_textAfter (by omega) faultless
    exact (hands.clean allowed clean).decodes

theorem isAllowed_of_mem_textOf {bytes : Bytes} {c : Char} (among : c ∈ (textOf bytes).1) :
    Feed.isAllowed c = true := by
  unfold textOf at among
  split at among
  · cases among
  · exact Feed.isAllowed_of_mem_textAfter among

end KeyEnvelope.Yaml
