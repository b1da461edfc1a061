import KeyEnvelope.Proofs.Yaml.Scalar
import KeyEnvelope.Yaml.Token.Reading

/-!
# Tokens of texts that break off

The token for the end is handed out where the text ends. Of a text that breaks off, tokens are read
up to its fault at most, and that one is not among them.
-/

namespace KeyEnvelope.Yaml

open Cursor

namespace Token

variable {cursor : Cursor}

/-- A token other than the one for the end was read of a text that breaks off. -/
def IsInner (read : Token × Cursor) : Prop :=
  read.1 ≠ .streamEnd ∧ read.2.BreaksOff

theorem nameBefore_yields (breaks : cursor.BreaksOff) (follows : Char → Bool) :
    Yields (nameBefore follows cursor) fun read => read.2.BreaksOff := by
  apply (takeWhile_yields breaks _).bind
  intro name breaks
  apply yields_bind
  intro c
  split
  · exact yields_throw
  · exact yields_pure breaks

theorem named_yields (breaks : cursor.BreaksOff) {token : String → Token}
    (inner : ∀ name, token name ≠ .streamEnd) : Yields (named token cursor) IsInner := by
  apply (step_yields breaks).bind
  intro after breaks
  exact (nameBefore_yields breaks _).bind fun _ breaks => yields_pure ⟨inner _, breaks⟩

theorem escapedBytes_yields (breaks : cursor.BreaksOff) (fuel : Nat) :
    Yields (escapedBytes fuel cursor) fun read => read.2.BreaksOff := by
  induction fuel generalizing cursor with
  | zero => exact yields_ok breaks
  | succ fuel inductionHypothesis =>
    apply yields_bind
    intro c
    split
    · exact yields_pure breaks
    apply (step_yields breaks).bind
    intro digits breaks
    apply yields_bind
    intro byte
    apply (advance_yields breaks 2).bind
    intro after breaks
    exact (inductionHypothesis breaks).bind fun _ breaks => yields_pure breaks

theorem uriFrom_yields (breaks : cursor.BreaksOff) (fuel : Nat) (found : List Char) :
    Yields (uriFrom fuel cursor found) fun read => read.2.BreaksOff := by
  induction fuel generalizing cursor found with
  | zero => exact yields_ok breaks
  | succ fuel inductionHypothesis =>
    apply (takeWhile_yields breaks _).bind
    intro taken breaks
    apply yields_bind
    intro c
    split
    · exact yields_pure breaks
    apply (escapedBytes_yields breaks _).bind
    intro bytes breaks
    dsimp only
    split
    · exact yields_throw
    · exact inductionHypothesis breaks _

theorem uri_yields (breaks : cursor.BreaksOff) :
    Yields (uri cursor) fun read => read.2.BreaksOff := by
  apply (uriFrom_yields breaks _ _).bind
  intro found breaks
  dsimp only
  split
  · exact yields_throw_bind
  · exact yields_pure breaks

theorem handleOf_yields (breaks : cursor.BreaksOff) :
    Yields (handleOf cursor) fun read => read.2.BreaksOff := by
  apply yields_bind
  intro c
  split
  · exact yields_throw
  apply yields_bind
  intro d
  split
  · exact (step_yields breaks).bind fun _ breaks => yields_pure breaks
  apply (step_yields breaks).bind
  intro behind breaks
  apply (takeWhile_yields breaks _).bind
  intro name breaks
  apply yields_bind
  intro e
  split
  · exact yields_throw
  · exact (step_yields breaks).bind fun _ breaks => yields_pure breaks

theorem tagOf_yields (breaks : cursor.BreaksOff) : Yields (tagOf cursor) IsInner := by
  -- Whatever the tag says, a blank or a break must follow it.
  have finish (handle : Option String) (rest : String) {after : Cursor}
      (breaks : after.BreaksOff) :
      Yields (after.next >>= fun c =>
          if endsWord c then pure (Token.tag handle rest, after) else throw .scanning)
        IsInner := by
    apply yields_bind
    intro c
    split
    · exact yields_pure ⟨by simp, breaks⟩
    · exact yields_throw
  apply yields_bind
  intro second
  dsimp only
  split
  · apply (advance_yields breaks 2).bind
    intro first breaks
    apply (uri_yields breaks).bind
    intro name breaks
    apply yields_bind
    intro c
    split
    · exact yields_throw_bind
    · exact (step_yields breaks).bind fun _ breaks => finish none _ breaks
  split
  · exact (step_yields breaks).bind fun _ breaks => finish none _ breaks
  · apply (step_yields breaks).bind
    intro behind breaksBehind
    apply yields_bind
    intro handled
    split
    · apply (handleOf_yields breaks).bind
      intro short breaks
      exact (uri_yields breaks).bind fun _ breaks => finish (some _) _ breaks
    · exact (uri_yields breaksBehind).bind fun _ breaks => finish (some _) _ breaks

theorem number_yields (breaks : cursor.BreaksOff) :
    Yields (number cursor) fun read => read.2.BreaksOff := by
  apply (takeWhile_yields breaks _).bind
  intro digits breaks
  dsimp only
  split
  · exact yields_throw_bind
  split
  · exact yields_throw_bind
  · exact yields_pure breaks

theorem versionOf_yields (breaks : cursor.BreaksOff) : Yields (versionOf cursor) IsInner := by
  apply (skipSpaces_yields breaks).bind
  intro first breaks
  apply (number_yields breaks).bind
  intro major breaks
  apply yields_bind
  intro c
  split
  · exact yields_throw
  apply (step_yields breaks).bind
  intro after breaks
  apply (number_yields breaks).bind
  intro minor breaks
  apply yields_bind
  intro d
  split
  · exact yields_pure ⟨by simp, breaks⟩
  · exact yields_throw

theorem handleDirective_yields (breaks : cursor.BreaksOff) :
    Yields (handleDirective cursor) IsInner := by
  apply (skipSpaces_yields breaks).bind
  intro first breaks
  apply (handleOf_yields breaks).bind
  intro name breaks
  apply yields_bind
  intro c
  split
  · exact yields_throw
  apply (skipSpaces_yields breaks).bind
  intro after breaks
  apply (uri_yields breaks).bind
  intro lead breaks
  apply yields_bind
  intro d
  split
  · exact yields_pure ⟨by simp, breaks⟩
  · exact yields_throw

theorem directiveOf_yields (breaks : cursor.BreaksOff) :
    Yields (directiveOf cursor) IsInner := by
  apply (step_yields breaks).bind
  intro behind breaks
  apply (nameBefore_yields breaks _).bind
  intro name breaks
  dsimp only
  -- Whichever directive it is, the rest of its line must be a comment.
  have finish {read : Token × Cursor} (inner : IsInner read) :
      Yields (read.2.finishLine >>= fun last => pure (read.1, last)) IsInner :=
    (finishLine_yields inner.2).bind fun _ breaks => yields_pure ⟨inner.1, breaks⟩
  split
  · exact (versionOf_yields breaks).bind fun _ inner => finish inner
  split
  · exact (handleDirective_yields breaks).bind fun _ inner => finish inner
  · exact (skipWhile_yields breaks _).bind fun _ breaks => finish ⟨by simp, breaks⟩

end Token

namespace Lexer

/-- What is left of the text breaks off, and the end was not read so far. -/
structure BreaksOff (lexer : Lexer) : Prop where
  cursor : lexer.cursor.BreaksOff
  inner : Token.streamEnd ∉ lexer.queue
  unfinished : lexer.finished = false

variable {lexer : Lexer} {token : Token}

theorem breaksOff_start {text : List Char} {missing : Option DocumentFault}
    (faulty : missing ≠ none) (unmarked : endMark ∉ text) : (start text missing).BreaksOff :=
  ⟨Cursor.breaksOff_start faulty unmarked, List.not_mem_nil, rfl⟩

/-- Nothing but the text and the tokens that were read of it matters. -/
theorem BreaksOff.reset (breaks : lexer.BreaksOff) {taken : Nat} {flow indent : Int}
    {indents : List Int} {keyAllowed : Bool} {marks : List (Int × KeyMark)} :
    BreaksOff { lexer with taken, flow, indent, indents, keyAllowed, marks } :=
  ⟨breaks.cursor, breaks.inner, breaks.unfinished⟩

/-- Other tokens may be put behind those that were read, and the cursor may move on. -/
theorem not_mem_append {tokens : List Token} (inner : Token.streamEnd ∉ lexer.queue)
    (others : Token.streamEnd ∉ tokens) : Token.streamEnd ∉ lexer.queue ++ tokens := by
  simp [inner, others]

section

variable (breaks : lexer.BreaksOff)

include breaks

theorem breaksOff_push (inner : token ≠ .streamEnd) : (lexer.push token).BreaksOff :=
  ⟨breaks.cursor, not_mem_append breaks.inner (by simpa using inner.symm), breaks.unfinished⟩

theorem take_yields (inner : token ≠ .streamEnd) (count : Nat) :
    Yields (lexer.take token count) BreaksOff := by
  apply (advance_yields breaks.cursor count).bind
  intro cursor breaksCursor
  exact yields_pure ⟨breaksCursor, (breaksOff_push breaks inner).inner, breaks.unfinished⟩

theorem takeRead_yields {read : Cursor → Scan (Token × Cursor)}
    (reads : ∀ cursor : Cursor, cursor.BreaksOff → Yields (read cursor) Token.IsInner) :
    Yields (lexer.takeRead read) BreaksOff := by
  apply (reads _ breaks.cursor).bind
  intro found inner
  exact yields_pure ⟨inner.2, (breaksOff_push breaks inner.1).inner, breaks.unfinished⟩

theorem dropStale_yields : Yields lexer.dropStale BreaksOff := by
  unfold dropStale
  split
  · exact yields_error
  · exact yields_ok breaks.reset

theorem dropMark_yields : Yields lexer.dropMark BreaksOff := by
  unfold dropMark
  split
  · exact yields_ok breaks
  · split
    · exact yields_error
    · exact yields_ok breaks.reset

theorem saveMark_yields : Yields lexer.saveMark BreaksOff := by
  unfold saveMark
  split
  · exact yields_ok breaks
  · exact (dropMark_yields breaks).bind fun _ breaks => yields_pure breaks.reset

omit breaks in
theorem eq_blockEnd_of_unwound (column indent : Int) (indents : List Int) :
    ∀ token ∈ (unwound column indent indents).1, token = .blockEnd := by
  induction indents generalizing indent with
  | nil => simp [unwound]
  | cons outer rest inductionHypothesis =>
    unfold unwound
    split
    · simpa using inductionHypothesis outer
    · simp

theorem breaksOff_unwind (column : Int) : (lexer.unwind column).BreaksOff := by
  have ends : Token.streamEnd ∉ (unwound column lexer.indent lexer.indents).1 := by
    intro among
    cases eq_blockEnd_of_unwound _ _ _ _ among
  unfold unwind
  split
  · exact breaks
  · exact ⟨breaks.cursor, not_mem_append breaks.inner ends, breaks.unfinished⟩

theorem breaksOff_openBlock (inner : token ≠ .streamEnd) : (lexer.openBlock token).BreaksOff := by
  unfold openBlock
  split
  · exact (breaksOff_push breaks inner).reset
  · exact breaks

theorem beginBlock_yields (inner : token ≠ .streamEnd) :
    Yields (lexer.beginBlock token) BreaksOff := by
  unfold beginBlock
  split
  · exact yields_ok breaks
  split
  · exact yields_ok (breaksOff_openBlock breaks inner)
  · exact yields_error

theorem directive_yields : Yields lexer.directive BreaksOff := by
  apply (dropMark_yields (breaksOff_unwind breaks (-1))).bind
  intro unwound breaks
  exact takeRead_yields breaks.reset
    fun _ => Token.directiveOf_yields

theorem separator_yields (inner : token ≠ .streamEnd) :
    Yields (lexer.separator token) BreaksOff := by
  apply (dropMark_yields (breaksOff_unwind breaks (-1))).bind
  intro unwound breaks
  exact take_yields breaks.reset inner 3

theorem openFlow_yields (inner : token ≠ .streamEnd) : Yields (lexer.openFlow token) BreaksOff := by
  apply (saveMark_yields breaks).bind
  intro saved breaks
  exact take_yields breaks.reset inner 1

theorem closeFlow_yields (inner : token ≠ .streamEnd) :
    Yields (lexer.closeFlow token) BreaksOff := by
  apply (dropMark_yields breaks).bind
  intro dropped breaks
  exact take_yields breaks.reset inner 1

theorem flowEntry_yields : Yields lexer.flowEntry BreaksOff :=
  (dropMark_yields breaks.reset).bind fun _ breaks => take_yields breaks (by simp) 1

theorem blockEntry_yields : Yields lexer.blockEntry BreaksOff := by
  apply (beginBlock_yields breaks (by simp)).bind
  intro begun breaks
  exact (dropMark_yields breaks.reset).bind fun _ breaks => take_yields breaks (by simp) 1

theorem explicitKey_yields : Yields lexer.explicitKey BreaksOff := by
  apply (beginBlock_yields breaks (by simp)).bind
  intro begun breaks
  exact (dropMark_yields breaks.reset).bind fun _ breaks => take_yields breaks (by simp) 1

theorem breaksOff_insertKey (mark : KeyMark) : (lexer.insertKey mark).BreaksOff := by
  have before (place : Nat) : Token.streamEnd ∉ lexer.queue.take place :=
    fun among => breaks.inner (List.mem_of_mem_take among)
  have behind (place : Nat) : Token.streamEnd ∉ lexer.queue.drop place :=
    fun among => breaks.inner (List.mem_of_mem_drop among)
  unfold insertKey
  dsimp only
  split
  · exact ⟨breaks.cursor, by simp [indentTo, before, behind], breaks.unfinished⟩
  · exact ⟨breaks.cursor, by simp [before, behind], breaks.unfinished⟩

theorem value_yields : Yields lexer.value BreaksOff := by
  unfold value
  split
  · exact take_yields (breaksOff_insertKey breaks _) (by simp) 1
  · apply (beginBlock_yields breaks Token.noConfusion).bind
    intro begun breaks
    exact take_yields breaks.reset (by simp) 1

theorem keyToken_yields {read : Cursor → Scan (Token × Cursor)}
    (reads : ∀ cursor : Cursor, cursor.BreaksOff → Yields (read cursor) Token.IsInner) :
    Yields (lexer.keyToken read) BreaksOff := by
  apply (saveMark_yields breaks).bind
  intro saved breaks
  exact takeRead_yields breaks.reset reads

theorem blockScalar_yields (isFolded : Bool) : Yields (lexer.blockScalar isFolded) BreaksOff := by
  apply (dropMark_yields breaks.reset).bind
  intro dropped breaks
  apply takeRead_yields breaks
  intro cursor breaks
  apply (step_yields breaks).bind
  intro body breaks
  exact (Block.read_yields breaks _ _).bind fun _ breaks => yields_pure ⟨by simp, breaks⟩

omit breaks in
theorem quotedScalar_yields {cursor : Cursor} (breaks : cursor.BreaksOff) :
    Yields (quotedScalar cursor) Token.IsInner :=
  (Quoted.read_yields breaks).bind fun _ breaks => yields_pure ⟨by simp, breaks⟩

theorem plainScalar_yields : Yields lexer.plainScalar BreaksOff := by
  apply (saveMark_yields breaks).bind
  intro saved breaks
  apply (Plain.read_yields breaks.cursor _ _ _ _ _ _).bind
  intro found breaksCursor
  exact yields_pure ⟨breaksCursor, (breaksOff_push breaks (by simp)).inner, breaks.unfinished⟩

omit breaks in
theorem skipToToken_yields {cursor : Cursor} (breaks : cursor.BreaksOff) (fuel : Nat)
    (ended : Bool) : Yields (skipToToken fuel cursor ended) fun read => read.1.BreaksOff := by
  induction fuel generalizing cursor ended with
  | zero => exact yields_ok breaks
  | succ fuel inductionHypothesis =>
    apply (skipSpaces_yields breaks).bind
    intro text breaks
    apply (skipComment_yields breaks).bind
    intro after breaks
    apply yields_bind
    intro c
    split
    · exact (takeBreak_yields breaks).bind fun _ breaks => inductionHypothesis breaks _
    · exact yields_pure breaks

theorem toToken_yields : Yields lexer.toToken BreaksOff := by
  have rest {cursor : Cursor} (breaksCursor : cursor.BreaksOff) :
      Yields (skipToToken cursor.fuel cursor false >>= fun read =>
          pure { lexer with
            cursor := read.1, keyAllowed := lexer.keyAllowed || (read.2 && !lexer.inFlow) })
        BreaksOff :=
    (skipToToken_yields breaksCursor _ _).bind fun _ breaksCursor =>
      yields_pure ⟨breaksCursor, breaks.inner, breaks.unfinished⟩
  apply yields_bind
  intro c
  dsimp only
  split
  · exact (step_yields breaks.cursor).bind fun _ breaksCursor => rest breaksCursor
  · exact rest breaks.cursor

theorem plainOrFault_yields : Yields lexer.plainOrFault BreaksOff := by
  apply yields_bind
  intro begins
  split
  · exact plainScalar_yields breaks
  · exact yields_throw

theorem ifAlone_yields (always : Bool) {read : Scan Lexer} (reads : Yields read BreaksOff) :
    Yields (lexer.ifAlone always read) BreaksOff := by
  unfold ifAlone
  split
  · exact reads
  apply yields_bind
  intro alone
  split
  · exact reads
  · exact plainOrFault_yields breaks

theorem tokenAt_yields (c : Char) : Yields (lexer.tokenAt c) BreaksOff := by
  unfold tokenAt
  split
  · exact openFlow_yields breaks Token.noConfusion
  · exact openFlow_yields breaks Token.noConfusion
  · exact closeFlow_yields breaks Token.noConfusion
  · exact closeFlow_yields breaks Token.noConfusion
  · exact flowEntry_yields breaks
  · exact ifAlone_yields breaks _ (blockEntry_yields breaks)
  · exact ifAlone_yields breaks _ (explicitKey_yields breaks)
  · exact ifAlone_yields breaks _ (value_yields breaks)
  · exact keyToken_yields breaks fun _ breaks => Token.named_yields breaks (by simp)
  · exact keyToken_yields breaks fun _ breaks => Token.named_yields breaks (by simp)
  · exact keyToken_yields breaks fun _ => Token.tagOf_yields
  · exact keyToken_yields breaks fun _ => quotedScalar_yields
  · exact keyToken_yields breaks fun _ => quotedScalar_yields
  · split
    · exact blockScalar_yields breaks false
    split
    · exact blockScalar_yields breaks true
    · exact plainOrFault_yields breaks

/-- The next token is read, and it is not the one for the end. -/
theorem fetch_yields : Yields lexer.fetch BreaksOff := by
  apply (toToken_yields breaks).bind
  intro found breaks
  apply (dropStale_yields breaks).bind
  intro fresh breaks
  have breaks := breaksOff_unwind breaks fresh.column
  apply (next_yields breaks.cursor).bind
  intro c unended
  rw [if_neg unended]
  split
  · exact directive_yields breaks
  apply yields_bind
  intro separates
  split
  · exact separator_yields breaks (by split <;> simp)
  · exact tokenAt_yields breaks c

/-- The token for the end is not among those that are handed out. -/
theorem streamEnd_not_mem_run (fuel : Nat) : Token.streamEnd ∉ (run fuel lexer).1 := by
  induction fuel generalizing lexer with
  | zero => exact List.not_mem_nil
  | succ fuel inductionHypothesis =>
    have inner := breaks.inner
    unfold run
    rw [breaks.unfinished]
    cases queued : lexer.queue with
    | nil =>
      have fetched := fetch_yields breaks
      dsimp only
      cases found : lexer.fetch with
      | error fault => exact List.not_mem_nil
      | ok next => exact inductionHypothesis (fetched.of_eq_ok found)
    | cons token queue =>
      rw [queued, List.mem_cons, not_or] at inner
      have dropped := dropStale_yields breaks
      simp only [Bool.false_eq_true, if_false]
      cases found : lexer.dropStale with
      | error fault => exact List.not_mem_nil
      | ok fresh =>
        have breaks := dropped.of_eq_ok found
        have fetched := fetch_yields breaks
        have others : BreaksOff { fresh with queue, taken := fresh.taken + 1 } :=
          ⟨breaks.cursor, inner.2, breaks.unfinished⟩
        dsimp only
        split
        · cases found : fresh.fetch with
          | error fault => exact List.not_mem_nil
          | ok next => exact inductionHypothesis (fetched.of_eq_ok found)
        · exact List.not_mem_cons_of_ne_of_not_mem inner.1 (inductionHypothesis others)

end

end Lexer

/-- Tokens are read of a text that breaks off, but not the one for the end. -/
theorem Token.streamEnd_not_mem_ofText {text : List Char} {missing : Option DocumentFault}
    (faulty : missing ≠ none) (unmarked : endMark ∉ text) :
    Token.streamEnd ∉ (Token.ofText text missing).1 :=
  Lexer.streamEnd_not_mem_run (Lexer.breaksOff_start faulty unmarked) _

end KeyEnvelope.Yaml
