import KeyEnvelope.Proofs.Yaml.Cursor
import KeyEnvelope.Yaml.Scalar

/-!
# Scalars in texts that break off

Whatever kind of scalar is read of a text that breaks off, what is left of it breaks off just so.
-/

namespace KeyEnvelope.Yaml

open Cursor

variable {cursor : Cursor}

namespace Plain

theorem breaks_yields (breaks : cursor.BreaksOff) (fuel : Nat) (found : List Char) :
    Yields (Plain.breaks fuel cursor found) fun read => read.2.BreaksOff := by
  induction fuel generalizing cursor found with
  | zero => exact yields_ok breaks
  | succ fuel inductionHypothesis =>
    apply yields_bind
    intro c
    split
    · exact (step_yields breaks).bind fun _ breaks => inductionHypothesis breaks found
    · split
      · apply (takeBreak_yields breaks).bind
        intro taken breaks
        apply yields_bind
        intro separates
        split
        · exact yields_pure breaks
        · exact inductionHypothesis breaks _
      · exact yields_pure breaks

theorem space_yields (breaks : cursor.BreaksOff) :
    Yields (space cursor) fun read => read.2.1.BreaksOff := by
  apply (takeWhile_yields breaks _).bind
  intro blanks breaks
  apply yields_bind
  intro c
  split
  · apply (takeBreak_yields breaks).bind
    intro first breaks
    apply yields_bind
    intro separates
    split
    · exact yields_pure breaks
    · apply (breaks_yields breaks _ _).bind
      intro more breaks
      split
      · exact yields_pure breaks
      · exact yields_pure breaks
  · exact yields_pure breaks

theorem read_yields (breaks : cursor.BreaksOff) (inFlow : Bool) (indent : Int) (fuel : Nat)
    (text between : List Char) (ended : Bool) :
    Yields (read inFlow indent fuel cursor text between ended) fun read => read.2.1.BreaksOff := by
  induction fuel generalizing cursor text between ended with
  | zero => exact yields_ok breaks
  | succ fuel inductionHypothesis =>
    apply yields_bind
    intro c
    split
    · exact yields_pure breaks
    apply yields_bind
    intro length
    split
    · exact yields_pure breaks
    apply (advance_yields breaks length).bind
    intro after breaks
    apply (space_yields breaks).bind
    intro gap breaks
    split
    · exact yields_pure breaks
    · split
      · exact yields_pure breaks
      apply yields_bind
      intro d
      split
      · exact yields_pure breaks
      · exact inductionHypothesis breaks _ _ _

end Plain

namespace Quoted

theorem breaks_yields (breaks : cursor.BreaksOff) (fuel : Nat) (found : List Char) :
    Yields (Quoted.breaks fuel cursor found) fun read => read.2.BreaksOff := by
  induction fuel generalizing cursor found with
  | zero => exact yields_ok breaks
  | succ fuel inductionHypothesis =>
    apply yields_bind
    intro separates
    split
    · exact yields_throw
    apply (skipWhile_yields breaks _).bind
    intro after breaks
    apply yields_bind
    intro c
    split
    · exact (takeBreak_yields breaks).bind fun _ breaks => inductionHypothesis breaks _
    · exact yields_pure breaks

theorem escape_yields (breaks : cursor.BreaksOff) :
    Yields (escape cursor) fun read => read.2.BreaksOff := by
  apply yields_bind
  intro c
  split
  · exact (step_yields breaks).bind fun _ breaks => yields_pure breaks
  · apply (step_yields breaks).bind
    intro digits breaks
    apply yields_bind
    intro code
    apply yields_bind
    intro _
    exact (advance_yields breaks _).bind fun _ breaks => yields_pure breaks
  · split
    · apply (takeBreak_yields breaks).bind
      intro line breaks
      exact (breaks_yields breaks _ _).bind fun _ breaks => yields_pure breaks
    · exact yields_throw

theorem word_yields (breaks : cursor.BreaksOff) (isDouble : Bool) (fuel : Nat)
    (found : List Code) :
    Yields (word isDouble fuel cursor found) fun read => read.2.BreaksOff := by
  induction fuel generalizing cursor found with
  | zero => exact yields_ok breaks
  | succ fuel inductionHypothesis =>
    apply (takeWhile_yields breaks _).bind
    intro ordinary breaks
    apply yields_bind
    intro c
    split
    · exact yields_pure breaks
    split
    · apply (step_yields breaks).bind
      intro after breaks
      exact (escape_yields breaks).bind fun _ breaks => inductionHypothesis breaks _
    split
    · exact yields_pure breaks
    split
    · exact (step_yields breaks).bind fun _ breaks => inductionHypothesis breaks _
    apply yields_bind
    intro d
    split
    · exact (advance_yields breaks 2).bind fun _ breaks => inductionHypothesis breaks _
    · exact yields_pure breaks

theorem space_yields (breaks : cursor.BreaksOff) :
    Yields (space cursor) fun read => read.2.BreaksOff := by
  apply (takeWhile_yields breaks _).bind
  intro blanks breaks
  apply yields_bind
  intro c
  split
  · exact yields_throw
  split
  · apply (takeBreak_yields breaks).bind
    intro first breaks
    exact (breaks_yields breaks _ _).bind fun _ breaks => yields_pure breaks
  · exact yields_pure breaks

theorem readFrom_yields (breaks : cursor.BreaksOff) (isDouble : Bool) (quote : Char) (fuel : Nat)
    (found : List Code) :
    Yields (readFrom isDouble quote fuel cursor found) fun read => read.2.BreaksOff := by
  induction fuel generalizing cursor found with
  | zero => exact yields_error
  | succ fuel inductionHypothesis =>
    apply (word_yields breaks isDouble _ _).bind
    intro text breaks
    apply yields_bind
    intro c
    split
    · exact (step_yields breaks).bind fun _ breaks => yields_pure breaks
    · exact (space_yields breaks).bind fun _ breaks => inductionHypothesis breaks _

theorem read_yields (breaks : cursor.BreaksOff) :
    Yields (read cursor) fun read => read.2.BreaksOff := by
  apply yields_bind
  intro quote
  apply (step_yields breaks).bind
  intro after breaks
  exact (readFrom_yields breaks _ _ _ _).bind fun _ breaks => yields_pure breaks

end Quoted

namespace Block

theorem increment_yields (breaks : cursor.BreaksOff) :
    Yields (increment? cursor) fun read => read.2.BreaksOff := by
  apply yields_bind
  intro c
  split
  · exact yields_pure breaks
  split
  · exact yields_throw
  · exact (step_yields breaks).bind fun _ breaks => yields_pure breaks

theorem header_yields (breaks : cursor.BreaksOff) :
    Yields (header cursor) fun read => read.2.2.BreaksOff := by
  -- Whatever the header says, a blank or a break must follow it.
  have finish (chomping : Chomping) (increment : Option Nat) {after : Cursor}
      (breaks : after.BreaksOff) :
      Yields (after.next >>= fun c =>
          if endsWord c then pure (chomping, increment, after) else throw .scanning)
        fun read => read.2.2.BreaksOff := by
    apply yields_bind
    intro c
    split
    · exact yields_pure breaks
    · exact yields_throw
  apply yields_bind
  intro c
  dsimp only
  split
  · apply (step_yields breaks).bind
    intro behind breaks
    exact (increment_yields breaks).bind fun _ breaks => finish _ _ breaks
  · apply (increment_yields breaks).bind
    intro increment breaks
    apply yields_bind
    intro d
    split
    · exact (step_yields breaks).bind fun _ breaks => finish _ _ breaks
    · exact finish _ _ breaks

theorem leading_yields (breaks : cursor.BreaksOff) (fuel : Nat) (found : List Char)
    (widest : Nat) :
    Yields (leading fuel cursor found widest) fun read => read.2.2.BreaksOff := by
  induction fuel generalizing cursor found widest with
  | zero => exact yields_ok breaks
  | succ fuel inductionHypothesis =>
    apply yields_bind
    intro c
    split
    · exact (step_yields breaks).bind fun _ breaks => inductionHypothesis breaks _ _
    split
    · exact (takeBreak_yields breaks).bind fun _ breaks => inductionHypothesis breaks _ _
    · exact yields_pure breaks

theorem breaks_yields (breaks : cursor.BreaksOff) (indent fuel : Nat) (found : List Char) :
    Yields (Block.breaks indent fuel cursor found) fun read => read.2.BreaksOff := by
  induction fuel generalizing cursor found with
  | zero => exact yields_ok breaks
  | succ fuel inductionHypothesis =>
    apply (advance_yields breaks _).bind
    intro after breaks
    apply yields_bind
    intro c
    split
    · exact (takeBreak_yields breaks).bind fun _ breaks => inductionHypothesis breaks _
    · exact yields_pure breaks

theorem lines_yields (breaks : cursor.BreaksOff) (isFolded : Bool) (indent fuel : Nat)
    (text before : List Char) :
    Yields (lines isFolded indent fuel cursor text before) fun read => read.2.2.2.BreaksOff := by
  induction fuel generalizing cursor text before with
  | zero => exact yields_ok breaks
  | succ fuel inductionHypothesis =>
    unfold lines
    split
    · exact yields_pure breaks
    apply yields_bind
    intro c
    split
    · exact yields_pure breaks
    apply (takeWhile_yields breaks _).bind
    intro line breaks
    apply (takeBreak_yields breaks).bind
    intro lineBreak breaks
    apply (breaks_yields breaks _ _ _).bind
    intro more breaks
    dsimp only
    split
    · exact yields_pure breaks
    apply yields_bind
    intro d
    split
    · exact yields_pure breaks
    · exact inductionHypothesis breaks _ _

theorem read_yields (breaks : cursor.BreaksOff) (isFolded : Bool) (parentIndent : Int) :
    Yields (read isFolded parentIndent cursor) fun read => read.2.BreaksOff := by
  apply (header_yields breaks).bind
  intro header breaks
  apply (finishLine_yields breaks).bind
  intro first breaks
  dsimp only
  split
  · apply (leading_yields breaks _ _ _).bind
    intro before breaks
    exact (lines_yields breaks _ _ _ _ _).bind fun _ breaks => yields_pure breaks
  · apply (breaks_yields breaks _ _ _).bind
    intro before breaks
    exact (lines_yields breaks _ _ _ _ _).bind fun _ breaks => yields_pure breaks

end Block

end KeyEnvelope.Yaml
