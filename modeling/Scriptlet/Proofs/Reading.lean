/-
# Reading a tree back

A program determines the lexemes it was read from up to what it does not keep: how a number or a
string was written, and where commas, semicolons and closing brackets stood. Reading a tree back in
the order of its source gives a list of marks, one for each lexeme, that tell what is kept. The
places that a tree gives for one lexeme may be several: a call stands where its name stands, and a
statement where its first lexeme stands.
-/

import Mathlib.Data.List.Forall2
import Scriptlet.Lexeme.Basic
import Scriptlet.Number.Read
import Scriptlet.Syntax.Node

namespace Scriptlet

/-- What a tree tells of the value of a lexeme. -/
inductive Content
  | unknown
  | text (value : String)
  | number (value : Binary64)
  deriving DecidableEq

/-- Whether a value agrees with what is told of it; numbers agree with every text that denotes
them. -/
def Content.Describes (content : Content) (value : String) : Prop :=
  match content with
  | unknown => True
  | text known => value = known
  | number known => Binary64.ofString? value = some known

instance (content : Content) (value : String) : Decidable (content.Describes value) :=
  match content with
  | .unknown => inferInstanceAs (Decidable True)
  | .text known => inferInstanceAs (Decidable (value = known))
  | .number known => inferInstanceAs (Decidable (Binary64.ofString? value = some known))

/-- What a tree tells of one lexeme. -/
structure Mark where
  kind : Kind
  content : Content
  /-- The places that nodes give for the lexeme. -/
  places : List Position
  deriving DecidableEq

namespace Mark

/-- A punctuation mark that leaves no trace but its kind. -/
def sign (kind : Kind) : Mark := ⟨kind, .unknown, []⟩

/-- A lexeme that a node stands at. -/
def placed (kind : Kind) (position : Position) : Mark := ⟨kind, .unknown, [position]⟩

/-- A lexeme whose value is kept. -/
def word (kind : Kind) (value : String) (position : Position) : Mark :=
  ⟨kind, .text value, [position]⟩

/-- A number, however it is written. -/
def numeral (value : Binary64) (position : Position) : Mark := ⟨.number, .number value, [position]⟩

/-- A name in a field. -/
def name (identifier : Identifier) : Mark := word .identifier identifier.name identifier.position

/-- Whether a mark tells nothing false of a lexeme. -/
structure Describes (mark : Mark) (lexeme : Lexeme) : Prop where
  kind : lexeme.kind = mark.kind
  content : mark.content.Describes lexeme.value
  places : ∀ place ∈ mark.places, lexeme.position = place

/-- Whether marks describe lexemes one by one. -/
def DescribeAll (marks : List Mark) (lexemes : List Lexeme) : Prop :=
  List.Forall₂ Describes marks lexemes

instance (mark : Mark) (lexeme : Lexeme) : Decidable (mark.Describes lexeme) :=
  decidable_of_iff
    (lexeme.kind = mark.kind ∧ mark.content.Describes lexeme.value ∧
      ∀ place ∈ mark.places, lexeme.position = place)
    ⟨fun h => ⟨h.1, h.2.1, h.2.2⟩, fun h => ⟨h.kind, h.content, h.places⟩⟩

instance (marks : List Mark) (lexemes : List Lexeme) : Decidable (DescribeAll marks lexemes) :=
  inferInstanceAs (Decidable (List.Forall₂ Describes marks lexemes))

/-- Says that the first lexeme stands at a position. -/
def startAt (position : Position) : List Mark → List Mark
  | [] => []
  | mark :: rest => { mark with places := position :: mark.places } :: rest

end Mark

namespace Node

open Mark

mutual

/-- The marks of a node in the order of the source. -/
def marks : Node → List Mark
  | identifier target => [name target]
  | string value position => [word .quoted value position]
  | number value position => [numeral value position]
  | boolean value position => [placed (if value then .trueWord else .falseWord) position]
  | call callee arguments position =>
    ⟨.identifier, .text callee.name, [callee.position, position]⟩ :: sign .parenOpen ::
      ([sign .comma].intercalate (marksEach arguments) ++ [sign .parenClose])
  | operator symbol left right position =>
    left.marks ++ word .operator symbol position :: right.marks
  | declaration target valueType value position =>
    placed .letWord position :: name target :: name valueType :: sign .equals :: value.marks
  | assignment target children position =>
    name target :: placed .equals position :: (marksEach children).flatten
  | group inner position => placed .parenOpen position :: (inner.marks ++ [sign .parenClose])

/-- The marks of each of several nodes. -/
def marksEach : List Node → List (List Mark)
  | [] => []
  | node :: rest => node.marks :: marksEach rest

end

@[simp]
theorem marksEach_nil : marksEach [] = [] := rfl

@[simp]
theorem marksEach_cons (node : Node) (rest : List Node) :
    marksEach (node :: rest) = node.marks :: marksEach rest := rfl

theorem marksEach_eq_map (nodes : List Node) : marksEach nodes = nodes.map marks := by
  induction nodes with
  | nil => rfl
  | cons node rest ih => simp [ih]

end Node

/-- The marks of a statement: what it holds, then a semicolon. It stands at its first lexeme. -/
def Statement.marks (statement : Statement) : List Mark :=
  Mark.startAt statement.position
    (statement.children.flatMap Node.marks ++ [Mark.sign .semiColon])

/-- The marks of a program. -/
def Program.marks (program : Program) : List Mark := program.statements.flatMap Statement.marks

theorem Program.marks_concat (earlier : List Statement) (last : Statement) :
    Program.marks ⟨earlier ++ [last]⟩ = Program.marks ⟨earlier⟩ ++ last.marks := by
  simp [Program.marks]

namespace Mark

theorem describes_sign {kind : Kind} {lexeme : Lexeme} :
    (sign kind).Describes lexeme ↔ lexeme.kind = kind :=
  ⟨fun h => h.kind, fun h => ⟨h, trivial, by simp [sign]⟩⟩

theorem describes_placed {kind : Kind} {position : Position} {lexeme : Lexeme} :
    (placed kind position).Describes lexeme ↔ lexeme.kind = kind ∧ lexeme.position = position :=
  ⟨fun h => ⟨h.kind, h.places position (by simp [placed])⟩,
    fun h => ⟨h.1, trivial, by simpa [placed] using h.2⟩⟩

theorem describes_word {kind : Kind} {value : String} {position : Position} {lexeme : Lexeme} :
    (word kind value position).Describes lexeme ↔
      lexeme.kind = kind ∧ lexeme.value = value ∧ lexeme.position = position :=
  ⟨fun h => ⟨h.kind, h.content, h.places position (by simp [word])⟩,
    fun h => ⟨h.1, h.2.1, by simpa [word] using h.2.2⟩⟩

theorem describes_numeral {value : Binary64} {position : Position} {lexeme : Lexeme} :
    (numeral value position).Describes lexeme ↔
      lexeme.kind = .number ∧ Binary64.ofString? lexeme.value = some value ∧
        lexeme.position = position :=
  ⟨fun h => ⟨h.kind, h.content, h.places position (by simp [numeral])⟩,
    fun h => ⟨h.1, h.2.1, by simpa [numeral] using h.2.2⟩⟩

/-- A mark that is told one more place describes the lexemes at this place only. -/
theorem describes_add_place {mark : Mark} {position : Position} {lexeme : Lexeme} :
    Describes { mark with places := position :: mark.places } lexeme ↔
      lexeme.position = position ∧ mark.Describes lexeme := by
  constructor
  · intro h
    exact ⟨h.places position (by simp), h.kind, h.content,
      fun place hplace => h.places place (by simp [hplace])⟩
  · rintro ⟨hposition, h⟩
    refine ⟨h.kind, h.content, fun place hplace => ?_⟩
    rcases List.mem_cons.1 hplace with rfl | hplace
    · exact hposition
    · exact h.places place hplace

@[simp]
theorem describeAll_nil {lexemes : List Lexeme} : DescribeAll [] lexemes ↔ lexemes = [] :=
  List.forall₂_nil_left_iff

@[simp]
theorem describeAll_cons {mark : Mark} {marks : List Mark} {lexemes : List Lexeme} :
    DescribeAll (mark :: marks) lexemes ↔
      ∃ lexeme rest, mark.Describes lexeme ∧ DescribeAll marks rest ∧ lexemes = lexeme :: rest :=
  List.forall₂_cons_left_iff

theorem describeAll_singleton {mark : Mark} {lexemes : List Lexeme} :
    DescribeAll [mark] lexemes ↔ ∃ lexeme, mark.Describes lexeme ∧ lexemes = [lexeme] := by
  simp

theorem describeAll_append {first second : List Mark} {lexemes : List Lexeme} :
    DescribeAll (first ++ second) lexemes ↔
      ∃ before after, DescribeAll first before ∧ DescribeAll second after ∧
        lexemes = before ++ after := by
  induction first generalizing lexemes with
  | nil => simp
  | cons mark rest ih =>
      rw [List.cons_append, describeAll_cons]
      constructor
      · rintro ⟨lexeme, tail, hmark, htail, rfl⟩
        obtain ⟨before, after, hbefore, hafter, rfl⟩ := ih.1 htail
        exact ⟨lexeme :: before, after, .cons hmark hbefore, hafter, rfl⟩
      · rintro ⟨before, after, hbefore, hafter, rfl⟩
        obtain ⟨lexeme, tail, hmark, htail, rfl⟩ := describeAll_cons.1 hbefore
        exact ⟨lexeme, tail ++ after, hmark, ih.2 ⟨tail, after, htail, hafter, rfl⟩, rfl⟩

theorem DescribeAll.append {first second : List Mark} {before after : List Lexeme}
    (hfirst : DescribeAll first before) (hsecond : DescribeAll second after) :
    DescribeAll (first ++ second) (before ++ after) :=
  describeAll_append.2 ⟨before, after, hfirst, hsecond, rfl⟩

theorem DescribeAll.map_kind {marks : List Mark} {lexemes : List Lexeme}
    (h : DescribeAll marks lexemes) : marks.map kind = lexemes.map Lexeme.kind := by
  induction h with
  | nil => rfl
  | cons hfirst _ ih => rw [List.map_cons, List.map_cons, hfirst.kind, ih]

/-- To say where the first lexeme stands is to describe one lexeme further. -/
theorem describeAll_startAt_of_head {position : Position} {marks : List Mark}
    {lexemes : List Lexeme} (h : DescribeAll marks lexemes)
    (hhead : ∀ lexeme ∈ lexemes.head?, lexeme.position = position) :
    DescribeAll (startAt position marks) lexemes := by
  cases h with
  | nil => exact .nil
  | cons hfirst hrest => exact .cons (describes_add_place.2 ⟨hhead _ rfl, hfirst⟩) hrest

/-- Commas between parts are commas after all parts but the last. -/
theorem intercalate_concat (separator : Mark) (parts : List (List Mark)) (last : List Mark) :
    [separator].intercalate (parts ++ [last]) =
      (parts.flatMap fun part => part ++ [separator]) ++ last := by
  induction parts with
  | nil => simp
  | cons part rest ih =>
      rw [List.cons_append, List.intercalate_cons_of_ne_nil (by simp), ih]
      simp

end Mark

namespace Node

open Mark

/-- Where the first lexeme of a node stands. -/
def start : Node → Position
  | operator _ left .. => left.start
  | assignment target .. => target.position
  | node => node.position

/-- The first mark of a node gives the place where the node starts. -/
theorem exists_marks_eq_cons : ∀ node : Node,
    ∃ mark rest, node.marks = mark :: rest ∧ node.start ∈ mark.places
  | identifier _ | string .. | number .. | boolean .. | call .. | declaration .. | assignment ..
  | group .. => ⟨_, _, by rw [marks], by simp [start, position, placed, name, word, numeral]⟩
  | operator symbol left right position => by
      obtain ⟨mark, rest, hmarks, hplace⟩ := exists_marks_eq_cons left
      exact ⟨mark, _, by rw [marks, hmarks]; rfl, hplace⟩

/-- To say where a node starts is to say nothing new. -/
theorem describeAll_startAt {node : Node} {position : Position} {rest : List Mark}
    {lexemes : List Lexeme} :
    DescribeAll (startAt position (node.marks ++ rest)) lexemes ↔
      position = node.start ∧ DescribeAll (node.marks ++ rest) lexemes := by
  obtain ⟨mark, others, hmarks, hplace⟩ := exists_marks_eq_cons node
  rw [hmarks, List.cons_append, startAt, describeAll_cons, describeAll_cons]
  constructor
  · rintro ⟨lexeme, tail, hmark, htail, rfl⟩
    obtain ⟨hposition, hmark⟩ := describes_add_place.1 hmark
    exact ⟨hposition ▸ hmark.places _ hplace, lexeme, tail, hmark, htail, rfl⟩
  · rintro ⟨rfl, lexeme, tail, hmark, htail, rfl⟩
    exact ⟨lexeme, tail, describes_add_place.2 ⟨hmark.places _ hplace, hmark⟩, htail, rfl⟩

end Node

end Scriptlet
