/-
# Giving other places

Lexemes, trees and errors tell where they stand in a source. This module gives them other places, by
any change of positions, and leaves the rest as it is. What a tree tells of lexemes it still tells
of them when the places of both are changed, and a canonical tree stays canonical.
-/

import Scriptlet.Proofs.Canonical
import Scriptlet.Syntax.Error

namespace Scriptlet

/-! ## Readings and errors -/

section

variable (change : Position → Position)

/-- A lexeme at another place. -/
def Lexeme.relocate (lexeme : Lexeme) : Lexeme :=
  { lexeme with position := change lexeme.position }

/-- A fault at another place. -/
def LexError.relocate (e : LexError) : LexError := { e with position := change e.position }

/-- A reading at another place. -/
def Reading.relocate : Reading → Reading
  | .ok lexeme => .ok (lexeme.relocate change)
  | .error e => .error (e.relocate change)

/-- An error at another place. -/
def ParseError.relocate : ParseError → ParseError
  | unexpectedToken lexeme route => unexpectedToken (lexeme.relocate change) route
  | invalidNumber text position => invalidNumber text (change position)
  | unterminatedStatement position => unterminatedStatement (change position)
  | unknownOperator symbol position => unknownOperator symbol (change position)
  | malformedNode construct position => malformedNode construct (change position)
  | scan e => scan (e.relocate change)
  | machine e => machine e

end

/-! ## Trees -/

/-- A name at another place. -/
def Identifier.relocate (change : Position → Position) (identifier : Identifier) : Identifier :=
  { identifier with position := change identifier.position }

namespace Node

mutual

/-- A node with all places changed. -/
def relocate (change : Position → Position) : Node → Node
  | call callee arguments position =>
    call (callee.relocate change) (relocateAll change arguments) (change position)
  | identifier target => identifier (target.relocate change)
  | string value position => string value (change position)
  | number value position => number value (change position)
  | boolean value position => boolean value (change position)
  | operator symbol left right position =>
    operator symbol (left.relocate change) (right.relocate change) (change position)
  | declaration target valueType value position =>
    declaration (target.relocate change) (valueType.relocate change) (value.relocate change)
      (change position)
  | assignment target children position =>
    assignment (target.relocate change) (relocateAll change children) (change position)
  | group inner position => group (inner.relocate change) (change position)

/-- Nodes with all places changed. -/
def relocateAll (change : Position → Position) : List Node → List Node
  | [] => []
  | node :: rest => node.relocate change :: relocateAll change rest

end

theorem relocateAll_eq_map (change : Position → Position) (nodes : List Node) :
    relocateAll change nodes = nodes.map (relocate change) := by
  induction nodes with
  | nil => rfl
  | cons node rest ih => rw [relocateAll, ih, List.map_cons]

end Node

/-- A statement with all places changed. -/
def Statement.relocate (change : Position → Position) (statement : Statement) : Statement :=
  ⟨statement.children.map (Node.relocate change), change statement.position⟩

/-- A program with all places changed. -/
def Program.relocate (change : Position → Position) (program : Program) : Program :=
  ⟨program.statements.map (Statement.relocate change)⟩

/-! ## Marks -/

namespace Mark

/-- A mark with all places changed. -/
def relocate (change : Position → Position) (mark : Mark) : Mark :=
  { mark with places := mark.places.map change }

variable (change : Position → Position)

theorem Describes.relocate {mark : Mark} {lexeme : Lexeme} (h : mark.Describes lexeme) :
    (mark.relocate change).Describes (lexeme.relocate change) := by
  refine ⟨h.kind, h.content, fun place hplace => ?_⟩
  obtain ⟨old, hold, rfl⟩ := List.mem_map.1 hplace
  exact congrArg change (h.places old hold)

theorem DescribeAll.relocate {marks : List Mark} {lexemes : List Lexeme}
    (h : DescribeAll marks lexemes) :
    DescribeAll (marks.map (Mark.relocate change)) (lexemes.map (Lexeme.relocate change)) := by
  rw [DescribeAll, List.forall₂_map_left_iff, List.forall₂_map_right_iff]
  exact List.Forall₂.imp (fun _ _ hmark => hmark.relocate change) h

theorem map_relocate_startAt (position : Position) (marks : List Mark) :
    (startAt position marks).map (relocate change) =
      startAt (change position) (marks.map (relocate change)) := by
  cases marks <;> rfl

theorem map_intercalate (rename : Mark → Mark) (separator : Mark) (parts : List (List Mark)) :
    ([separator].intercalate parts).map rename =
      [rename separator].intercalate (parts.map (List.map rename)) := by
  rcases List.eq_nil_or_concat parts with rfl | ⟨earlier, last, rfl⟩
  · rfl
  · rw [List.concat_eq_append, List.map_append, List.map_singleton, intercalate_concat,
      intercalate_concat, List.map_append, List.map_flatMap, List.flatMap_map]
    simp

end Mark

open Mark

namespace Node

mutual

/-- The marks of a tree at other places are those of the tree, at the other places. -/
theorem marks_relocate (change : Position → Position) :
    ∀ node : Node, (node.relocate change).marks = node.marks.map (Mark.relocate change)
  | identifier _ | string .. | number .. | boolean .. => by
      rw [relocate, marks, marks]
      rfl
  | call callee arguments position => by
      rw [relocate, marks, marks, marksEach_relocateAll change arguments, List.map_cons,
        List.map_cons, List.map_append, map_intercalate]
      rfl
  | operator symbol left right position => by
      rw [relocate, marks, marks, marks_relocate change left, marks_relocate change right,
        List.map_append]
      rfl
  | declaration target valueType value position => by
      rw [relocate, marks, marks, marks_relocate change value]
      rfl
  | assignment target children position => by
      rw [relocate, marks, marks, marksEach_relocateAll change children, ← List.map_flatten]
      rfl
  | group inner position => by
      rw [relocate, marks, marks, marks_relocate change inner, List.map_cons, List.map_append]
      rfl

theorem marksEach_relocateAll (change : Position → Position) : ∀ nodes : List Node,
    marksEach (relocateAll change nodes) = (marksEach nodes).map (List.map (Mark.relocate change))
  | [] => rfl
  | node :: rest => by
      rw [relocateAll, marksEach_cons, marksEach_cons, marks_relocate change node,
        marksEach_relocateAll change rest, List.map_cons]

end

variable {operators : OperatorTable} {node : Node} (change : Position → Position)

theorem level?_relocate : (node.relocate change).level? operators = node.level? operators := by
  cases node <;> rw [relocate] <;> rfl

theorem start_relocate : ∀ node : Node, (node.relocate change).start = change node.start
  | operator symbol left right position => by
      rw [relocate, start, start, start_relocate left]
  | identifier _ | string .. | number .. | boolean .. | call .. | declaration .. | assignment ..
  | group .. => by
      rw [relocate]
      rfl

theorem IsExpression.relocate (h : node.IsExpression operators) :
    (node.relocate change).IsExpression operators := by
  induction h with
  | identifier | string | number | boolean =>
      rw [Node.relocate]
      constructor
  | call _ ih =>
      rw [Node.relocate, relocateAll_eq_map]
      exact .call (by simpa using ih)
  | group _ ih =>
      rw [Node.relocate]
      exact .group ih
  | operator hsymbol _ _ hloose htight ihleft ihright =>
      rw [Node.relocate]
      exact .operator hsymbol ihleft ihright (by simpa [level?_relocate] using hloose)
        (by simpa [level?_relocate] using htight)

theorem IsLine.relocate (h : node.IsLine operators) : (node.relocate change).IsLine operators := by
  cases h with
  | expression h => exact .expression (h.relocate change)
  | assignment hvalue =>
      rw [Node.relocate, relocateAll, relocateAll]
      exact .assignment (hvalue.relocate change)
  | declaration hvalue =>
      rw [Node.relocate]
      exact .declaration (hvalue.relocate change)

end Node

variable (change : Position → Position)

theorem Statement.marks_relocate (statement : Statement) :
    (statement.relocate change).marks = statement.marks.map (Mark.relocate change) := by
  rw [marks, marks, map_relocate_startAt, List.map_append, List.map_flatMap, Statement.relocate,
    List.flatMap_map]
  simp only [Node.marks_relocate]
  rfl

theorem Program.marks_relocate (program : Program) :
    (program.relocate change).marks = program.marks.map (Mark.relocate change) := by
  rw [marks, marks, List.map_flatMap, Program.relocate, List.flatMap_map]
  simp only [Statement.marks_relocate]

/-- A canonical program is canonical wherever it stands. -/
theorem Program.IsCanonical.relocate {operators : OperatorTable} {program : Program}
    (h : program.IsCanonical operators) : (program.relocate change).IsCanonical operators := by
  intro statement hstatement
  obtain ⟨statement, hold, rfl⟩ := List.mem_map.1 hstatement
  obtain ⟨child, hchildren, hline, hposition⟩ := h statement hold
  refine ⟨child.relocate change, ?_, hline.relocate change, ?_⟩
  · rw [Statement.relocate, hchildren, List.map_singleton]
  · rw [Node.start_relocate, ← hposition]
    rfl

end Scriptlet
