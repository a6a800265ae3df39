/-
# What has been read can be completed

A parse never lets a lexeme through after which nothing can be made good any more. Wherever it
stands, an operand if one is awaited, a closing parenthesis for every open bracket and a semicolon
make what has been read a canonical program. So the lexemes of a prefix that is not refused are
always the beginning of some program.
-/

import Scriptlet.Proofs.Soundness

namespace Scriptlet

open Grammar Mark

namespace Mark

/-- Marks that describe something each describe something together. -/
theorem exists_describeAll {marks : List Mark}
    (h : ∀ mark ∈ marks, ∃ lexeme, mark.Describes lexeme) :
    ∃ lexemes, DescribeAll marks lexemes := by
  induction marks with
  | nil => exact ⟨[], .nil⟩
  | cons mark rest ih =>
      obtain ⟨lexeme, hlexeme⟩ := h mark List.mem_cons_self
      obtain ⟨lexemes, hlexemes⟩ := ih fun other hother => h other (List.mem_cons_of_mem _ hother)
      exact ⟨lexeme :: lexemes, .cons hlexeme hlexemes⟩

theorem exists_describes_sign (kind : Kind) : ∃ lexeme, (sign kind).Describes lexeme :=
  ⟨.plain kind "" .start, describes_sign.2 rfl⟩

theorem exists_describes_placed (kind : Kind) (position : Position) :
    ∃ lexeme, (placed kind position).Describes lexeme :=
  ⟨.plain kind "" position, describes_placed.2 ⟨rfl, rfl⟩⟩

theorem exists_describes_name (identifier : Identifier) :
    ∃ lexeme, (name identifier).Describes lexeme :=
  ⟨.plain .identifier identifier.name identifier.position, describes_word.2 ⟨rfl, rfl, rfl⟩⟩

end Mark

variable {operators : OperatorTable} {start : Position}

/-- An operand that is awaited, and a parenthesis for every open bracket after it, complete a line.
The induction goes outward along the stack, while the operand grows into the whole line. -/
theorem Awaits.exists_line {parent : Branch} {outer : List Branch} {marks : List Mark}
    (h : Awaits operators start parent outer marks) (node : Node)
    (hnode : node.IsExpression operators)
    (htight : ∀ above ∈ parent.form.level?, ∀ inner ∈ node.level? operators, above < inner) :
    ∃ (child : Node) (depth : Nat), child.IsLine operators ∧
      child.marks = marks ++ (node.marks ++ List.replicate depth (sign .parenClose)) := by
  induction h generalizing node with
  | statement => exact ⟨node, 0, .expression hnode, by simp⟩
  | @declaration serial position target valueType outer =>
      exact ⟨.declaration target.identifier valueType.identifier node position, 0,
        .declaration hnode, by simp [Node.marks]⟩
  | @assignment serial position target outer =>
      exact ⟨.assignment target.identifier [node] position, 0, .assignment hnode,
        by simp [Node.marks]⟩
  | @group serial position parent outer marks _ ih =>
      obtain ⟨child, depth, hline, hmarks⟩ :=
        ih (.group node position) (.group hnode) (by simp [Node.level?])
      exact ⟨child, depth + 1, hline, by simp [hmarks, Node.marks, List.replicate_succ]⟩
  | @call serial name position children arguments parent outer marks _ _ harguments ih =>
      have hmore : ∀ argument ∈ arguments ++ [node], argument.IsExpression operators := by
        simpa [or_imp, forall_and] using ⟨harguments, hnode⟩
      obtain ⟨child, depth, hline, hmarks⟩ :=
        ih (.call ⟨name, position⟩ (arguments ++ [node]) position) (.call hmore)
          (by simp [Node.level?])
      refine ⟨child, depth + 1, hline, ?_⟩
      simp [hmarks, Node.marks, Node.marksEach_eq_map, intercalate_concat, callee,
        List.replicate_succ]
  | @operator serial symbol level position branch left parent outer marks _ hsymbol _ hleft hloose
      hbelow ih =>
      have hwhole : (Node.operator symbol left node position).IsExpression operators :=
        .operator hsymbol hleft hnode hloose (htight level rfl)
      obtain ⟨child, depth, hline, hmarks⟩ := ih _ hwhole fun above habove inner hinner => by
        obtain rfl : level = inner := Option.some_inj.1 (hsymbol.symm.trans hinner)
        exact hbelow above habove
      exact ⟨child, depth, hline, by simp [hmarks, Node.marks]⟩

/-- Whether some lexemes make what has been read of a statement a line. -/
def IsOpening (operators : OperatorTable) (marks : List Mark) : Prop :=
  ∃ (child : Node) (more : List Mark) (lexemes : List Lexeme), child.IsLine operators ∧
    child.marks = marks ++ more ∧ DescribeAll more lexemes

theorem IsOpening.of_line (more : List Mark) {marks : List Mark} {child : Node}
    (hline : child.IsLine operators)
    (hmarks : child.marks = marks ++ more)
    (hmore : ∀ mark ∈ more, ∃ lexeme, mark.Describes lexeme) : IsOpening operators marks := by
  obtain ⟨lexemes, hlexemes⟩ := exists_describeAll hmore
  exact ⟨child, more, lexemes, hline, hmarks, hlexemes⟩

/-- What is left of an operand and of the line around it completes what has been read. -/
theorem Awaits.isOpening {parent : Branch} {outer : List Branch} {marks : List Mark}
    (h : Awaits operators start parent outer marks) (read more : List Mark) {node : Node}
    (hnode : node.IsExpression operators) (hlevel : node.level? operators = none)
    (hmarks : node.marks = read ++ more)
    (hmore : ∀ mark ∈ more, ∃ lexeme, mark.Describes lexeme) :
    IsOpening operators (marks ++ read) := by
  obtain ⟨child, depth, hline, hchild⟩ := h.exists_line node hnode (by simp [hlevel])
  apply IsOpening.of_line (more ++ List.replicate depth (sign .parenClose)) hline
  · simp [hchild, hmarks]
  · intro mark hmark
    rcases List.mem_append.1 hmark with hmark | hmark
    · exact hmore mark hmark
    · exact List.eq_of_mem_replicate hmark ▸ exists_describes_sign _

/-- Where an operand is awaited, a truth value will do. -/
theorem Awaits.isOpening_of_nothing {parent : Branch} {outer : List Branch} {marks : List Mark}
    (h : Awaits operators start parent outer marks) : IsOpening operators marks := by
  have hmarks : (Node.boolean true .start).marks = [] ++ [placed .trueWord .start] := by
    simp [Node.marks]
  simpa using h.isOpening [] _ .boolean rfl hmarks (by simpa using exists_describes_placed _ _)

/-- A declaration is completed by what is left of its names and a truth value. -/
theorem isOpening_declaration (target valueType : Identifier) {marks more : List Mark}
    {position : Position}
    (hmarks : [placed .letWord position, name target, name valueType] = marks ++ more)
    (hmore : ∀ mark ∈ more, ∃ lexeme, mark.Describes lexeme) : IsOpening operators marks := by
  have hline : (Node.declaration target valueType (.boolean true .start) position).IsLine
      operators := .declaration .boolean
  apply IsOpening.of_line (more ++ [sign .equals, placed .trueWord .start]) hline
  · have hwhole := congrArg (· ++ [sign .equals, placed .trueWord .start]) hmarks
    simpa [Node.marks] using hwhole
  · simp only [List.forall_mem_append, List.forall_mem_cons]
    exact ⟨hmore, exists_describes_sign _, exists_describes_placed _ _, by simp⟩

/-- Every stage of a statement can be completed. -/
theorem Stage.isOpening {upcoming : Option Kind} {state : State} {stack : List Branch}
    {marks : List Mark} (h : Stage operators start upcoming state stack marks)
    (hstate : state ∉ State.beginnings) : IsOpening operators marks := by
  cases h with
  | between h => exact absurd h hstate
  | awaiting _ hawaits => exact hawaits.isOpening_of_nothing
  | @opened serial callee position parent outer marks houter =>
      have hcall : Awaits operators start ⟨serial, .call callee, position, []⟩
          (parent :: outer) _ :=
        .call houter Branch.toNodes_nil (by simp)
      simpa using hcall.isOpening_of_nothing
  | complete _ _ hcompletes =>
      obtain ⟨houter, -, hnode, hlevel⟩ := hcompletes
      exact houter.isOpening _ [] hnode hlevel (List.append_nil _).symm (by simp)
  | @target serial value outer =>
      have hline : (Node.identifier ⟨value, start⟩).IsLine operators := .expression .identifier
      exact .of_line [] hline (by simp [Node.marks]) (by simp)
  | @named _ serial callee position parent outer marks _ _ houter =>
      have hcall : (Node.call ⟨callee, position⟩ [] position).IsExpression operators :=
        .call (by simp)
      refine houter.isOpening _ [sign .parenOpen, sign .parenClose] hcall rfl ?_ ?_
      · simp [Node.marks, Mark.callee]
      · simpa using ⟨exists_describes_sign _, exists_describes_sign _⟩
  | @declaring serial position outer =>
      apply isOpening_declaration ⟨"", .start⟩ ⟨"", .start⟩ rfl
      simpa using exists_describes_name _
  | @declaringType serial target position outer =>
      apply isOpening_declaration target.identifier ⟨"", .start⟩ rfl
      simpa using exists_describes_name _
  | @declaringValue serial target valueType position outer =>
      exact isOpening_declaration target.identifier valueType.identifier
        (List.append_nil _).symm (by simp)

/-- Every draft in order can be completed: what has been read is the beginning of what some
canonical program reads as. -/
theorem Reached.exists_completion {upcoming : Option Kind} {state : State} {draft : Draft}
    {lexemes : List Lexeme} (h : Reached operators upcoming state draft lexemes) :
    ∃ (more : List Lexeme) (program : Program), program.IsCanonical operators ∧
      DescribeAll program.marks (lexemes ++ more) := by
  by_cases hstate : state ∈ State.beginnings
  · obtain ⟨program, -, hcanonical, hmarks⟩ := h.exists_program hstate
    exact ⟨[], program, hcanonical, by simpa using hmarks⟩
  · obtain @⟨statements, start, marks, earlier, current, -, -, hcanonical, hearlier, hstage,
      hcurrent, -⟩ := h
    obtain ⟨child, more, rest, hline, hchild, hmore⟩ := hstage.isOpening hstate
    have hend : (sign .semiColon).Describes (.plain .semiColon ";" .start) := describes_sign.2 rfl
    have hlast : DescribeAll (Statement.marks ⟨[child], child.start⟩)
        (current ++ (rest ++ [.plain .semiColon ";" .start])) := by
      rw [Statement.marks, List.flatMap_singleton]
      apply Node.describeAll_startAt.2 ⟨rfl, _⟩
      rw [hchild, List.append_assoc]
      exact hcurrent.append (hmore.append (.cons hend .nil))
    refine ⟨rest ++ [.plain .semiColon ";" .start], ⟨statements ++ [⟨[child], child.start⟩]⟩,
      Program.isCanonical_concat.2 ⟨hcanonical, child, rfl, hline, rfl⟩, ?_⟩
    rw [Program.marks_concat, List.append_assoc]
    exact hearlier.append hlast

end Scriptlet
