/-
# The grammar as rules

A program is a run of statements, each ended by a semicolon. A statement declares a name, assigns
to one, or holds an expression. An expression is a row of operands with operators between them, and
an operand is a literal, a name, a call or a group. These rules speak of kinds of lexemes only.

They say nothing of levels, so a phrase has many trees. Exactly one of them is canonical: the
marks of canonical trees are derivable, and every derivable row of kinds is the reading of a
canonical tree, which is found by putting the operators in one after the other.
-/

import Mathlib.Data.List.Induction
import Scriptlet.Proofs.Canonical

namespace Scriptlet

/-- What the rules of the grammar are about. -/
inductive Phrase
  | operand
  | expression
  | arguments
  | statement
  | program
  deriving DecidableEq

namespace Phrase

/-- The rules of the grammar. -/
inductive Derives : Phrase → List Kind → Prop
  | number : Derives operand [.number]
  | quoted : Derives operand [.quoted]
  | trueWord : Derives operand [.trueWord]
  | falseWord : Derives operand [.falseWord]
  | identifier : Derives operand [.identifier]
  | emptyCall : Derives operand [.identifier, .parenOpen, .parenClose]
  | call {kinds} (h : Derives arguments kinds) :
      Derives operand (.identifier :: .parenOpen :: (kinds ++ [.parenClose]))
  | group {kinds} (h : Derives expression kinds) :
      Derives operand (.parenOpen :: (kinds ++ [.parenClose]))
  | single {kinds} (h : Derives operand kinds) : Derives expression kinds
  | operation {left right} (hleft : Derives expression left) (hright : Derives operand right) :
      Derives expression (left ++ .operator :: right)
  | argument {kinds} (h : Derives expression kinds) : Derives arguments kinds
  | further {earlier last} (hearlier : Derives arguments earlier)
      (hlast : Derives expression last) : Derives arguments (earlier ++ .comma :: last)
  | evaluation {kinds} (h : Derives expression kinds) : Derives statement (kinds ++ [.semiColon])
  | assignment {kinds} (h : Derives expression kinds) :
      Derives statement (.identifier :: .equals :: (kinds ++ [.semiColon]))
  | declaration {kinds} (h : Derives expression kinds) :
      Derives statement
        (.letWord :: .identifier :: .identifier :: .equals :: (kinds ++ [.semiColon]))
  | empty : Derives program []
  | append {earlier last} (hearlier : Derives program earlier) (hlast : Derives statement last) :
      Derives program (earlier ++ last)

/-- White space plays no part in the grammar. -/
theorem Derives.whitespace_notMem {phrase : Phrase} {kinds : List Kind} (h : Derives phrase kinds) :
    .whitespace ∉ kinds := by
  induction h <;> simp [*]

/-- Two expressions with an operator between them are one. -/
theorem Derives.join {left right : List Kind} (hleft : Derives expression left)
    (hright : Derives expression right) : Derives expression (left ++ .operator :: right) := by
  generalize hphrase : expression = phrase at hright
  induction hright with
  | single h => exact .operation hleft h
  | @operation first last _ hlast ih _ =>
      have hassoc : left ++ .operator :: (first ++ .operator :: last) =
          (left ++ .operator :: first) ++ .operator :: last := by simp
      rw [hassoc]
      exact .operation (ih rfl) hlast
  | _ => cases hphrase

end Phrase

open Phrase Mark

/-! ## Canonical trees are derivable -/

namespace Mark

theorem intercalate_append_separator (separator : Mark) {parts : List (List Mark)}
    (hparts : parts ≠ []) :
    [separator].intercalate parts ++ [separator] =
      parts.flatMap fun part => part ++ [separator] := by
  rcases List.eq_nil_or_concat parts with rfl | ⟨earlier, last, rfl⟩
  · contradiction
  · rw [List.concat_eq_append, intercalate_concat]
    simp

end Mark

namespace Node

variable {operators : OperatorTable}

theorem derives_arguments {nodes : List Node} (hnodes : nodes ≠ [])
    (h : ∀ node ∈ nodes, Derives expression (node.marks.map Mark.kind)) :
    Derives arguments (([sign .comma].intercalate (marksEach nodes)).map Mark.kind) := by
  induction nodes using List.reverseRecOn with
  | nil => contradiction
  | append_singleton earlier last ih =>
      have hlast := h last (by simp)
      by_cases hearlier : earlier = []
      · subst hearlier
        simpa using Derives.argument hlast
      · have hfirst := ih hearlier fun node hnode => h node (by simp [hnode])
        have hparts : earlier.map marks ≠ [] := by simpa using hearlier
        rw [marksEach_eq_map] at hfirst
        rw [marksEach_eq_map, List.map_append, List.map_singleton, intercalate_concat,
          ← intercalate_append_separator _ hparts]
        simpa [sign] using Derives.further hfirst hlast

/-- An expression without an operator on top is one operand. -/
theorem IsExpression.derives_and_operand {node : Node} (h : node.IsExpression operators) :
    Derives expression (node.marks.map Mark.kind) ∧
      (node.level? operators = none → Derives operand (node.marks.map Mark.kind)) := by
  have hsingle : ∀ {kinds : List Kind} {level : Option Level}, Derives operand kinds →
      Derives expression kinds ∧ (level = none → Derives operand kinds) :=
    fun hoperand => ⟨.single hoperand, fun _ => hoperand⟩
  induction h with
  | identifier => exact hsingle .identifier
  | string => exact hsingle .quoted
  | number => exact hsingle .number
  | @boolean value => cases value <;> [exact hsingle .falseWord; exact hsingle .trueWord]
  | @call name arguments position harguments ih =>
      apply hsingle
      by_cases hnil : arguments = []
      · subst hnil
        exact .emptyCall
      · have hinner := derives_arguments hnil fun argument hmem => (ih argument hmem).1
        simpa [marks, sign] using Derives.call hinner
  | group hinner ih =>
      apply hsingle
      simpa [marks, placed, sign] using Derives.group ih.1
  | operator hsymbol hleft hright hloose htight ihleft ihright =>
      refine ⟨by simpa [marks, word] using ihleft.1.join ihright.1, fun hlevel => ?_⟩
      simp [level?, hsymbol] at hlevel

theorem IsExpression.derives {node : Node} (h : node.IsExpression operators) :
    Derives expression (node.marks.map Mark.kind) :=
  h.derives_and_operand.1

theorem IsLine.derives {node : Node} (h : node.IsLine operators) :
    Derives statement ((node.marks ++ [sign .semiColon]).map Mark.kind) := by
  cases h with
  | expression h => simpa [sign] using Derives.evaluation h.derives
  | assignment hvalue => simpa [marks, sign, placed, name, word] using hvalue.derives.assignment
  | declaration hvalue => simpa [marks, sign, placed, name, word] using hvalue.derives.declaration

end Node

theorem Mark.map_kind_startAt (position : Position) (marks : List Mark) :
    (startAt position marks).map Mark.kind = marks.map Mark.kind := by
  cases marks <;> rfl

theorem Program.IsCanonical.derives {operators : OperatorTable} {program : Program}
    (h : program.IsCanonical operators) : Derives .program (program.marks.map Mark.kind) := by
  obtain ⟨statements⟩ := program
  induction statements using List.reverseRecOn with
  | nil => exact .empty
  | append_singleton earlier last ih =>
      obtain ⟨hearlier, child, hchildren, hline, -⟩ := isCanonical_concat.1 h
      have hlast : Derives .statement (last.marks.map Mark.kind) := by
        rw [Statement.marks, map_kind_startAt, hchildren]
        simpa using hline.derives
      rw [marks_concat, List.map_append]
      exact .append (ih hearlier) hlast

/-- Whether the value of a lexeme is one that a tree can keep: operators are registered and numbers
denote. -/
structure Lexeme.IsValid (operators : OperatorTable) (lexeme : Lexeme) : Prop where
  operator : lexeme.kind = .operator → (operators.level? lexeme.value).isSome
  number : lexeme.kind = .number → (Binary64.ofString? lexeme.value).isSome

namespace Mark

variable {operators : OperatorTable}

/-- Whether a mark describes valid lexemes only. -/
def IsValid (operators : OperatorTable) (mark : Mark) : Prop :=
  ∀ lexeme, mark.Describes lexeme → lexeme.IsValid operators

theorem isValid_of_kind {mark : Mark} (hkind : mark.kind ∉ [Kind.operator, .number]) :
    mark.IsValid operators := by
  simp only [List.mem_cons, List.not_mem_nil, or_false, not_or] at hkind
  intro lexeme h
  rw [← h.kind] at hkind
  exact ⟨fun hoperator => absurd hoperator hkind.1, fun hnumber => absurd hnumber hkind.2⟩

theorem isValid_sign {kind : Kind} (hkind : kind ∉ [Kind.operator, .number]) :
    (sign kind).IsValid operators :=
  isValid_of_kind hkind

theorem isValid_placed {kind : Kind} {position : Position}
    (hkind : kind ∉ [Kind.operator, .number]) : (placed kind position).IsValid operators :=
  isValid_of_kind hkind

theorem isValid_name {identifier : Identifier} : (name identifier).IsValid operators :=
  isValid_of_kind (by simp [name, word])

theorem forall_mem_intercalate {separator : Mark} {parts : List (List Mark)} {P : Mark → Prop}
    (hseparator : P separator) (hparts : ∀ part ∈ parts, ∀ mark ∈ part, P mark) :
    ∀ mark ∈ [separator].intercalate parts, P mark := by
  induction parts using List.reverseRecOn with
  | nil => simp
  | append_singleton earlier last _ =>
      rw [intercalate_concat]
      intro mark hmark
      rcases List.mem_append.1 hmark with hmark | hmark
      · obtain ⟨part, hpart, hmark⟩ := List.mem_flatMap.1 hmark
        rcases List.mem_append.1 hmark with hmark | hmark
        · exact hparts part (by simp [hpart]) mark hmark
        · exact List.mem_singleton.1 hmark ▸ hseparator
      · exact hparts last (by simp) mark hmark

theorem DescribeAll.isValid {marks : List Mark} {lexemes : List Lexeme}
    (h : DescribeAll marks lexemes) (hmarks : ∀ mark ∈ marks, mark.IsValid operators) :
    ∀ lexeme ∈ lexemes, lexeme.IsValid operators := by
  induction h with
  | nil => simp
  | cons hfirst _ ih =>
      rw [List.forall_mem_cons] at hmarks ⊢
      exact ⟨hmarks.1 _ hfirst, ih hmarks.2⟩

end Mark

/-- A canonical tree is read from valid lexemes. -/
theorem Node.IsExpression.isValid {operators : OperatorTable} {node : Node}
    (h : node.IsExpression operators) : ∀ mark ∈ node.marks, mark.IsValid operators := by
  induction h with
  | identifier => simpa [marks] using isValid_name
  | string => simpa [marks] using isValid_of_kind (by simp [word])
  | @number value position =>
      simp only [marks, List.mem_singleton, forall_eq]
      intro lexeme hmark
      obtain ⟨hkind, hvalue, -⟩ := describes_numeral.1 hmark
      exact ⟨fun hoperator => by simp [hkind] at hoperator, fun _ => by simp [hvalue]⟩
  | @boolean value =>
      cases value <;> simpa [marks] using isValid_placed (by decide)
  | call harguments ih =>
      rw [marks, List.forall_mem_cons, List.forall_mem_cons, List.forall_mem_append,
        List.forall_mem_singleton, marksEach_eq_map]
      refine ⟨isValid_of_kind (by simp), isValid_sign (by decide),
        forall_mem_intercalate (isValid_sign (by decide)) ?_, isValid_sign (by decide)⟩
      simpa using ih
  | group hinner ih =>
      rw [marks, List.forall_mem_cons, List.forall_mem_append, List.forall_mem_singleton]
      exact ⟨isValid_placed (by decide), ih, isValid_sign (by decide)⟩
  | @operator symbol level left right position hsymbol hleft hright hloose htight ihleft ihright =>
      rw [marks, List.forall_mem_append, List.forall_mem_cons]
      refine ⟨ihleft, fun lexeme hmark => ?_, ihright⟩
      obtain ⟨hkind, hvalue, -⟩ := describes_word.1 hmark
      exact ⟨fun _ => by simp [hvalue, hsymbol], fun hnumber => by simp [hkind] at hnumber⟩

theorem Node.IsLine.isValid {operators : OperatorTable} {node : Node} (h : node.IsLine operators) :
    ∀ mark ∈ node.marks, mark.IsValid operators := by
  cases h with
  | expression h => exact h.isValid
  | assignment hvalue =>
      rw [marks, List.forall_mem_cons, List.forall_mem_cons, marksEach_cons, marksEach_nil,
        List.flatten_singleton]
      exact ⟨isValid_name, isValid_placed (by decide), hvalue.isValid⟩
  | declaration hvalue =>
      rw [marks, List.forall_mem_cons, List.forall_mem_cons, List.forall_mem_cons,
        List.forall_mem_cons]
      exact ⟨isValid_placed (by decide), isValid_name, isValid_name, isValid_sign (by decide),
        hvalue.isValid⟩

/-- Operators of a canonical program are registered and its numbers denote. -/
theorem Program.IsCanonical.isValid {operators : OperatorTable} {program : Program}
    (h : program.IsCanonical operators) {lexemes : List Lexeme}
    (hlexemes : DescribeAll program.marks lexemes) :
    ∀ lexeme ∈ lexemes, lexeme.IsValid operators := by
  obtain ⟨statements⟩ := program
  induction statements using List.reverseRecOn generalizing lexemes with
  | nil =>
      rw [Program.marks, List.flatMap_nil, describeAll_nil] at hlexemes
      simp [hlexemes]
  | append_singleton earlier last ih =>
      obtain ⟨hearlier, child, hchildren, hline, -⟩ := isCanonical_concat.1 h
      rw [marks_concat] at hlexemes
      obtain ⟨before, after, hbefore, hafter, rfl⟩ := describeAll_append.1 hlexemes
      rw [Statement.marks, hchildren, List.flatMap_singleton] at hafter
      rw [List.forall_mem_append]
      refine ⟨ih hearlier hbefore, ?_⟩
      apply (Node.describeAll_startAt.1 hafter).2.isValid
      rw [List.forall_mem_append, List.forall_mem_singleton]
      exact ⟨hline.isValid, isValid_sign (by decide)⟩

/-! ## Derivable rows of kinds have canonical trees -/

namespace Node

variable {operators : OperatorTable}

/-- An expression that has one more operator and operand to its right. It binds no more loosely
than the looser of the old expression and the new operator. -/
structure IsExtension (operators : OperatorTable) (node : Node) (symbol : String) (level : Level)
    (position : Position) (operand whole : Node) : Prop where
  expression : whole.IsExpression operators
  marks : whole.marks = node.marks ++ word .operator symbol position :: operand.marks
  bound : ∀ bound < level, (∀ other ∈ node.level? operators, bound < other) →
    ∀ other ∈ whole.level? operators, bound < other

section Extension

variable {symbol : String} {level : Level} {position : Position} {node operand : Node}

/-- Where nothing is looser than the new operator, it goes on top. -/
theorem IsExpression.extend_top (h : node.IsExpression operators)
    (hsymbol : operators.level? symbol = some level) (hoperand : operand.IsExpression operators)
    (hlevel : operand.level? operators = none)
    (hloose : ∀ other ∈ node.level? operators, level ≤ other) :
    IsExtension operators node symbol level position operand
      (.operator symbol node operand position) := by
  refine ⟨.operator hsymbol h hoperand hloose (by simp [hlevel]), by rw [Node.marks], ?_⟩
  intro bound hbound _ other hother
  rw [level?, hsymbol, Option.mem_some_iff] at hother
  exact hother ▸ hbound

/-- The new operator goes below all looser ones at the right edge of the tree. -/
theorem IsExpression.exists_extension (h : node.IsExpression operators)
    (hsymbol : operators.level? symbol = some level) (hoperand : operand.IsExpression operators)
    (hlevel : operand.level? operators = none) :
    ∃ whole, IsExtension operators node symbol level position operand whole := by
  induction h with
  | identifier => exact ⟨_, IsExpression.identifier.extend_top hsymbol hoperand hlevel nofun⟩
  | string => exact ⟨_, IsExpression.string.extend_top hsymbol hoperand hlevel nofun⟩
  | number => exact ⟨_, IsExpression.number.extend_top hsymbol hoperand hlevel nofun⟩
  | boolean => exact ⟨_, IsExpression.boolean.extend_top hsymbol hoperand hlevel nofun⟩
  | call harguments =>
      exact ⟨_, (IsExpression.call harguments).extend_top hsymbol hoperand hlevel nofun⟩
  | group hinner => exact ⟨_, (IsExpression.group hinner).extend_top hsymbol hoperand hlevel nofun⟩
  | @operator outer outerLevel left right within houter hleft hright hloose htight _ ihright =>
      by_cases hcompare : level ≤ outerLevel
      · have hwhole : (Node.operator outer left right within).IsExpression operators :=
          .operator houter hleft hright hloose htight
        exact ⟨_, hwhole.extend_top hsymbol hoperand hlevel (by simpa [level?, houter])⟩
      · obtain ⟨grown, hgrown⟩ := ihright
        have hgrownTight := hgrown.bound outerLevel (Fin.not_le.1 hcompare) htight
        refine ⟨.operator outer left grown within,
          .operator houter hleft hgrown.expression hloose hgrownTight, ?_, fun _ _ h => h⟩
        simp [Node.marks, hgrown.marks]

end Extension

end Node

namespace Phrase

variable {operators : OperatorTable}

/-- What it is for lexemes to be the reading of a canonical tree, for each kind of phrase. -/
def IsReading (operators : OperatorTable) (lexemes : List Lexeme) : Phrase → Prop
  | operand => ∃ node : Node, node.IsExpression operators ∧ node.level? operators = none ∧
      DescribeAll node.marks lexemes
  | expression => ∃ node : Node, node.IsExpression operators ∧ DescribeAll node.marks lexemes
  | arguments => ∃ nodes : List Node, nodes ≠ [] ∧ (∀ node ∈ nodes, node.IsExpression operators) ∧
      DescribeAll ([sign .comma].intercalate (Node.marksEach nodes)) lexemes
  | statement => ∃ statement : Statement, statement.IsCanonical operators ∧
      DescribeAll statement.marks lexemes
  | program => ∃ program : Program, program.IsCanonical operators ∧
      DescribeAll program.marks lexemes

/-- A single lexeme reads as a node that keeps what it tells. -/
theorem isReading_leaf {lexemes : List Lexeme} {kind : Kind}
    (hkinds : lexemes.map Lexeme.kind = [kind])
    (h : ∀ lexeme ∈ lexemes, lexeme.kind = kind → ∃ node : Node, ∃ mark : Mark,
      node.IsExpression operators ∧ node.level? operators = none ∧ node.marks = [mark] ∧
        mark.Describes lexeme) :
    IsReading operators lexemes operand := by
  obtain ⟨lexeme, rfl, hkind⟩ := List.map_eq_singleton_iff.1 hkinds
  obtain ⟨node, mark, hnode, hlevel, hmarks, hmark⟩ := h lexeme List.mem_cons_self hkind
  exact ⟨node, hnode, hlevel, hmarks ▸ .cons hmark .nil⟩

theorem isReading_statement {node : Node} (hline : node.IsLine operators) {lexemes : List Lexeme}
    (h : DescribeAll (node.marks ++ [sign .semiColon]) lexemes) :
    IsReading operators lexemes statement := by
  refine ⟨⟨[node], node.start⟩, ⟨node, rfl, hline, rfl⟩, ?_⟩
  rw [Statement.marks, List.flatMap_singleton]
  exact Node.describeAll_startAt.2 ⟨rfl, h⟩

/-! Canonical trees for the longer phrases are put together from those for their parts. -/

section Parts

variable {lexemes earlier last : List Lexeme}
  {callee opening closing symbol comma target equals start valueType : Lexeme}

theorem isReading_emptyCall (hcallee : callee.kind = .identifier)
    (hopening : opening.kind = .parenOpen) (hclosing : closing.kind = .parenClose) :
    IsReading operators [callee, opening, closing] operand := by
  refine ⟨.call ⟨callee.value, callee.position⟩ [] callee.position, .call (by simp), rfl, ?_⟩
  rw [Node.marks]
  exact .cons ⟨hcallee, rfl, by simp⟩
    (.cons (describes_sign.2 hopening) (.cons (describes_sign.2 hclosing) .nil))

theorem IsReading.call (h : IsReading operators lexemes arguments)
    (hcallee : callee.kind = .identifier) (hopening : opening.kind = .parenOpen)
    (hclosing : closing.kind = .parenClose) :
    IsReading operators (callee :: opening :: (lexemes ++ [closing])) operand := by
  obtain ⟨nodes, -, hnodes, hmarks⟩ := h
  refine ⟨.call ⟨callee.value, callee.position⟩ nodes callee.position, .call hnodes, rfl, ?_⟩
  rw [Node.marks]
  exact .cons ⟨hcallee, rfl, by simp⟩ (.cons (describes_sign.2 hopening)
    (hmarks.append (.cons (describes_sign.2 hclosing) .nil)))

theorem IsReading.group (h : IsReading operators lexemes expression)
    (hopening : opening.kind = .parenOpen) (hclosing : closing.kind = .parenClose) :
    IsReading operators (opening :: (lexemes ++ [closing])) operand := by
  obtain ⟨node, hnode, hmarks⟩ := h
  refine ⟨.group node opening.position, .group hnode, rfl, ?_⟩
  rw [Node.marks]
  exact .cons (describes_placed.2 ⟨hopening, rfl⟩)
    (hmarks.append (.cons (describes_sign.2 hclosing) .nil))

/-- The tree for one more operand is found by putting the operator in at the right edge. -/
theorem IsReading.operation (hearlier : IsReading operators earlier expression)
    (hlast : IsReading operators last operand) (hsymbol : symbol.kind = .operator)
    (hvalid : symbol.IsValid operators) :
    IsReading operators (earlier ++ symbol :: last) expression := by
  obtain ⟨node, hnode, hmarks⟩ := hearlier
  obtain ⟨operand, hoperand, hlevel, hmarks'⟩ := hlast
  obtain ⟨level, hregistered⟩ := Option.isSome_iff_exists.1 (hvalid.operator hsymbol)
  obtain ⟨whole, hwhole⟩ : ∃ whole,
      Node.IsExtension operators node symbol.value level symbol.position operand whole :=
    hnode.exists_extension hregistered hoperand hlevel
  refine ⟨whole, hwhole.expression, ?_⟩
  rw [hwhole.marks]
  exact hmarks.append (.cons (describes_word.2 ⟨hsymbol, rfl, rfl⟩) hmarks')

theorem IsReading.argument (h : IsReading operators lexemes expression) :
    IsReading operators lexemes arguments := by
  obtain ⟨node, hnode, hmarks⟩ := h
  exact ⟨[node], by simp, by simpa using hnode, by simpa using hmarks⟩

theorem IsReading.further (hearlier : IsReading operators earlier arguments)
    (hlast : IsReading operators last expression) (hcomma : comma.kind = .comma) :
    IsReading operators (earlier ++ comma :: last) arguments := by
  obtain ⟨nodes, hne, hnodes, hmarks⟩ := hearlier
  obtain ⟨node, hnode, hmarks'⟩ := hlast
  refine ⟨nodes ++ [node], by simp, ?_, ?_⟩
  · intro other hother
    rcases List.mem_append.1 hother with h | h
    · exact hnodes other h
    · exact List.mem_singleton.1 h ▸ hnode
  · have hparts : nodes.map Node.marks ≠ [] := by simpa using hne
    rw [Node.marksEach_eq_map] at hmarks
    rw [Node.marksEach_eq_map, List.map_append, List.map_singleton, intercalate_concat,
      ← intercalate_append_separator _ hparts, List.append_assoc]
    exact hmarks.append (.cons (describes_sign.2 hcomma) hmarks')

theorem IsReading.evaluation (h : IsReading operators lexemes expression)
    (hclosing : closing.kind = .semiColon) :
    IsReading operators (lexemes ++ [closing]) statement := by
  obtain ⟨node, hnode, hmarks⟩ := h
  apply isReading_statement (.expression hnode)
  exact hmarks.append (.cons (describes_sign.2 hclosing) .nil)

theorem IsReading.assignment (h : IsReading operators lexemes expression)
    (htarget : target.kind = .identifier) (hequals : equals.kind = .equals)
    (hclosing : closing.kind = .semiColon) :
    IsReading operators (target :: equals :: (lexemes ++ [closing])) statement := by
  obtain ⟨node, hnode, hmarks⟩ := h
  have hline : (Node.assignment ⟨target.value, target.position⟩ [node]
      equals.position).IsLine operators := .assignment hnode
  apply isReading_statement hline
  rw [Node.marks, Node.marksEach_cons, Node.marksEach_nil, List.flatten_singleton]
  exact .cons (describes_word.2 ⟨htarget, rfl, rfl⟩)
    (.cons (describes_placed.2 ⟨hequals, rfl⟩)
      (hmarks.append (.cons (describes_sign.2 hclosing) .nil)))

theorem IsReading.declaration (h : IsReading operators lexemes expression)
    (hstart : start.kind = .letWord) (htarget : target.kind = .identifier)
    (htype : valueType.kind = .identifier) (hequals : equals.kind = .equals)
    (hclosing : closing.kind = .semiColon) :
    IsReading operators (start :: target :: valueType :: equals :: (lexemes ++ [closing]))
      statement := by
  obtain ⟨node, hnode, hmarks⟩ := h
  have hline : (Node.declaration ⟨target.value, target.position⟩
      ⟨valueType.value, valueType.position⟩ node start.position).IsLine operators :=
    .declaration hnode
  apply isReading_statement hline
  rw [Node.marks]
  exact .cons (describes_placed.2 ⟨hstart, rfl⟩)
    (.cons (describes_word.2 ⟨htarget, rfl, rfl⟩)
      (.cons (describes_word.2 ⟨htype, rfl, rfl⟩)
        (.cons (describes_sign.2 hequals)
          (hmarks.append (.cons (describes_sign.2 hclosing) .nil)))))

theorem IsReading.append (hearlier : IsReading operators earlier program)
    (hlast : IsReading operators last statement) :
    IsReading operators (earlier ++ last) program := by
  obtain ⟨⟨statements⟩, hstatements, hmarks⟩ := hearlier
  obtain ⟨statement, hstatement, hmarks'⟩ := hlast
  refine ⟨⟨statements ++ [statement]⟩,
    Program.isCanonical_concat.2 ⟨hstatements, hstatement⟩, ?_⟩
  rw [Program.marks_concat]
  exact hmarks.append hmarks'

end Parts

/-- What ends with a lexeme of some kind, taken apart there. -/
theorem exists_concat_of_map_kind {lexemes : List Lexeme} {kinds : List Kind} {kind : Kind}
    (h : lexemes.map Lexeme.kind = kinds ++ [kind]) :
    ∃ inner closing, lexemes = inner ++ [closing] ∧ inner.map Lexeme.kind = kinds ∧
      closing.kind = kind := by
  obtain ⟨inner, rest, rfl, hinner, hrest⟩ := List.map_eq_append_iff.1 h
  obtain ⟨closing, rfl, hclosing⟩ := List.map_eq_singleton_iff.1 hrest
  exact ⟨inner, closing, rfl, hinner, hclosing⟩

/-- Every derivable row of kinds is the reading of a canonical tree, if operators are registered
and numbers denote. -/
theorem Derives.isReading {phrase : Phrase} {kinds : List Kind} (h : Derives phrase kinds) :
    ∀ lexemes : List Lexeme, (∀ lexeme ∈ lexemes, lexeme.IsValid operators) →
      lexemes.map Lexeme.kind = kinds → IsReading operators lexemes phrase := by
  induction h with
  | number =>
      intro lexemes hvalid hkinds
      apply isReading_leaf hkinds
      intro lexeme hlexeme hkind
      obtain ⟨value, hvalue⟩ := Option.isSome_iff_exists.1 ((hvalid lexeme hlexeme).number hkind)
      exact ⟨.number value lexeme.position, _, .number, rfl, by rw [Node.marks],
        describes_numeral.2 ⟨hkind, hvalue, rfl⟩⟩
  | quoted =>
      intro lexemes _ hkinds
      exact isReading_leaf hkinds fun lexeme _ hkind => ⟨.string lexeme.value lexeme.position, _,
        .string, rfl, by rw [Node.marks], describes_word.2 ⟨hkind, rfl, rfl⟩⟩
  | trueWord =>
      intro lexemes _ hkinds
      exact isReading_leaf hkinds fun lexeme _ hkind => ⟨.boolean true lexeme.position, _,
        .boolean, rfl, by simp [Node.marks], describes_placed.2 ⟨hkind, rfl⟩⟩
  | falseWord =>
      intro lexemes _ hkinds
      exact isReading_leaf hkinds fun lexeme _ hkind => ⟨.boolean false lexeme.position, _,
        .boolean, rfl, by simp [Node.marks], describes_placed.2 ⟨hkind, rfl⟩⟩
  | identifier =>
      intro lexemes _ hkinds
      exact isReading_leaf hkinds fun lexeme _ hkind =>
        ⟨.identifier ⟨lexeme.value, lexeme.position⟩, _, .identifier, rfl, by rw [Node.marks, name],
          describes_word.2 ⟨hkind, rfl, rfl⟩⟩
  | emptyCall =>
      intro lexemes _ hkinds
      obtain ⟨callee, rest, rfl, hcallee, hkinds⟩ := List.map_eq_cons_iff.1 hkinds
      obtain ⟨opening, rest, rfl, hopening, hkinds⟩ := List.map_eq_cons_iff.1 hkinds
      obtain ⟨closing, rfl, hclosing⟩ := List.map_eq_singleton_iff.1 hkinds
      exact isReading_emptyCall hcallee hopening hclosing
  | call _ ih =>
      intro lexemes hvalid hkinds
      obtain ⟨callee, rest, rfl, hcallee, hkinds⟩ := List.map_eq_cons_iff.1 hkinds
      obtain ⟨opening, rest, rfl, hopening, hkinds⟩ := List.map_eq_cons_iff.1 hkinds
      obtain ⟨inner, closing, rfl, hinner, hclosing⟩ := exists_concat_of_map_kind hkinds
      have h := ih inner (fun lexeme h => hvalid lexeme (by simp [h])) hinner
      exact h.call hcallee hopening hclosing
  | group _ ih =>
      intro lexemes hvalid hkinds
      obtain ⟨opening, rest, rfl, hopening, hkinds⟩ := List.map_eq_cons_iff.1 hkinds
      obtain ⟨inner, closing, rfl, hinner, hclosing⟩ := exists_concat_of_map_kind hkinds
      have h := ih inner (fun lexeme h => hvalid lexeme (by simp [h])) hinner
      exact h.group hopening hclosing
  | single _ ih =>
      intro lexemes hvalid hkinds
      obtain ⟨node, hnode, -, hmarks⟩ := ih lexemes hvalid hkinds
      exact ⟨node, hnode, hmarks⟩
  | operation _ _ ihleft ihright =>
      intro lexemes hvalid hkinds
      obtain ⟨earlier, rest, rfl, hearlier, hkinds⟩ := List.map_eq_append_iff.1 hkinds
      obtain ⟨symbol, last, rfl, hsymbol, hlast⟩ := List.map_eq_cons_iff.1 hkinds
      have hleft := ihleft earlier (fun lexeme h => hvalid lexeme (by simp [h])) hearlier
      have hright := ihright last (fun lexeme h => hvalid lexeme (by simp [h])) hlast
      exact hleft.operation hright hsymbol (hvalid symbol (by simp))
  | argument _ ih =>
      intro lexemes hvalid hkinds
      exact (ih lexemes hvalid hkinds).argument
  | further _ _ ihearlier ihlast =>
      intro lexemes hvalid hkinds
      obtain ⟨earlier, rest, rfl, hearlier, hkinds⟩ := List.map_eq_append_iff.1 hkinds
      obtain ⟨comma, last, rfl, hcomma, hlast⟩ := List.map_eq_cons_iff.1 hkinds
      have hfirst := ihearlier earlier (fun lexeme h => hvalid lexeme (by simp [h])) hearlier
      have hnext := ihlast last (fun lexeme h => hvalid lexeme (by simp [h])) hlast
      exact hfirst.further hnext hcomma
  | evaluation _ ih =>
      intro lexemes hvalid hkinds
      obtain ⟨inner, closing, rfl, hinner, hclosing⟩ := exists_concat_of_map_kind hkinds
      have h := ih inner (fun lexeme h => hvalid lexeme (by simp [h])) hinner
      exact h.evaluation hclosing
  | assignment _ ih =>
      intro lexemes hvalid hkinds
      obtain ⟨target, rest, rfl, htarget, hkinds⟩ := List.map_eq_cons_iff.1 hkinds
      obtain ⟨equals, rest, rfl, hequals, hkinds⟩ := List.map_eq_cons_iff.1 hkinds
      obtain ⟨inner, closing, rfl, hinner, hclosing⟩ := exists_concat_of_map_kind hkinds
      have h := ih inner (fun lexeme h => hvalid lexeme (by simp [h])) hinner
      exact h.assignment htarget hequals hclosing
  | declaration _ ih =>
      intro lexemes hvalid hkinds
      obtain ⟨start, rest, rfl, hstart, hkinds⟩ := List.map_eq_cons_iff.1 hkinds
      obtain ⟨target, rest, rfl, htarget, hkinds⟩ := List.map_eq_cons_iff.1 hkinds
      obtain ⟨valueType, rest, rfl, htype, hkinds⟩ := List.map_eq_cons_iff.1 hkinds
      obtain ⟨equals, rest, rfl, hequals, hkinds⟩ := List.map_eq_cons_iff.1 hkinds
      obtain ⟨inner, closing, rfl, hinner, hclosing⟩ := exists_concat_of_map_kind hkinds
      have h := ih inner (fun lexeme h => hvalid lexeme (by simp [h])) hinner
      exact h.declaration hstart htarget htype hequals hclosing
  | empty =>
      intro lexemes _ hkinds
      rw [List.map_eq_nil_iff.1 hkinds]
      exact ⟨⟨[]⟩, by simp [Program.IsCanonical], .nil⟩
  | append _ _ ihearlier ihlast =>
      intro lexemes hvalid hkinds
      obtain ⟨earlier, last, rfl, hearlier, hlast⟩ := List.map_eq_append_iff.1 hkinds
      have hfirst := ihearlier earlier (fun lexeme h => hvalid lexeme (by simp [h])) hearlier
      have hnext := ihlast last (fun lexeme h => hvalid lexeme (by simp [h])) hlast
      exact hfirst.append hnext

end Phrase

end Scriptlet
