/-
# Moving a source to another place

A source that does not stand at the start of a text is read as if it did, with every place moved:
lines are added, and columns on the first line only. This module moves lexemes, trees and errors,
which is one way to give them other places, and shows that a text is cut in the same way wherever it
begins.
-/

import Scriptlet.Proofs.Relocation
import Scriptlet.Proofs.Scanning

namespace Scriptlet

/-! ## Places -/

namespace Position

/-- Where a position of a text is when the text begins at `origin`. -/
def shift (origin position : Position) : Position :=
  ⟨origin.line + position.line - 1,
    if position.line = 1 then origin.column + position.column - 1 else position.column⟩

theorem shift_start (origin : Position) : origin.shift start = origin := rfl

/-- Reading on and moving can be done in either order, from any position of a text. -/
theorem shift_advance (origin position : Position) (c : Char) (hline : 0 < position.line)
    (hcolumn : 0 < position.column) :
    origin.shift (position.advance c) = (origin.shift position).advance c := by
  obtain ⟨line, column⟩ := position
  simp only [shift, advance] at *
  by_cases hc : c = '\n' <;> by_cases hfirst : line = 1 <;> simp [hc, hfirst] <;> omega

theorem pos_after {position : Position} (h : 0 < position.line ∧ 0 < position.column)
    (text : List Char) : 0 < (position.after text).line ∧ 0 < (position.after text).column := by
  induction text generalizing position with
  | nil => exact h
  | cons c rest ih =>
      rw [after_cons]
      apply ih
      unfold advance
      split
      · exact ⟨Nat.succ_pos _, Nat.one_pos⟩
      · exact ⟨h.1, Nat.succ_pos _⟩

theorem shift_after (origin : Position) {position : Position}
    (h : 0 < position.line ∧ 0 < position.column) (text : List Char) :
    origin.shift (position.after text) = (origin.shift position).after text := by
  induction text generalizing position with
  | nil => rfl
  | cons c rest ih =>
      rw [after_cons, after_cons, ← shift_advance origin position c h.1 h.2]
      exact ih (pos_after h [c])

end Position

/-! ## Lexemes, errors and programs -/

section

variable (origin : Position)

/-- A lexeme of a text that begins at `origin`. -/
def Lexeme.shift (lexeme : Lexeme) : Lexeme := lexeme.relocate origin.shift

/-- A fault of a text that begins at `origin`. -/
def LexError.shift (e : LexError) : LexError := e.relocate origin.shift

/-- A reading of a text that begins at `origin`. -/
def Reading.shift (reading : Reading) : Reading := reading.relocate origin.shift

/-- An error of a text that begins at `origin`. -/
def ParseError.shift (e : ParseError) : ParseError := e.relocate origin.shift

/-- A program whose text begins at `origin`. -/
def Program.shift (program : Program) : Program := program.relocate origin.shift

end

/-! ## Scanning from another place -/

/-- A text is cut in the same way wherever it begins. -/
theorem Cuts.shift {lexicon : Lexicon} {text : List Char} {position : Position}
    {lexemes : List Lexeme} {fault? : Option LexError}
    (h : Cuts lexicon text position lexemes fault?)
    (hposition : 0 < position.line ∧ 0 < position.column) (origin : Position) :
    Cuts lexicon text (origin.shift position) (lexemes.map (Lexeme.shift origin))
      (fault?.map (LexError.shift origin)) := by
  induction h with
  | done => exact .done
  | fault hscan => exact .fault hscan
  | lexeme hscan _ ih =>
      refine .lexeme hscan ?_
      rw [← Position.shift_after origin hposition]
      exact ih (Position.pos_after hposition _)

end Scriptlet
