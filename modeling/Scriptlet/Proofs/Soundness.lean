/-
# What a parse has read

After any number of lexemes the draft holds canonical statements and one stage of the statement at
hand, and their marks describe the lexemes one by one. This holds at the start and every lexeme
that is not refused keeps it. A parse that reaches its end therefore returns a canonical program
which describes exactly what has been read.
-/

import Scriptlet.Proofs.Progress

namespace Scriptlet

open Grammar Mark

/-- A draft in order, given the lexemes that have been read. -/
inductive Reached (operators : OperatorTable) (upcoming : Option Kind) (state : State)
    (draft : Draft) : List Lexeme → Prop
  | intro {statements start marks earlier current} (hoperators : draft.operators = operators)
      (hclosed : List.Forall₂ Branch.Represents draft.closed.reverse statements)
      (hcanonical : Program.IsCanonical operators ⟨statements⟩)
      (hearlier : DescribeAll (Program.marks ⟨statements⟩) earlier)
      (hstage : Stage operators start upcoming state draft.stack marks)
      (hcurrent : DescribeAll marks current)
      (hstart : ∀ lexeme ∈ current.head?, lexeme.position = start) :
      Reached operators upcoming state draft (earlier ++ current)

namespace Reached

variable {operators : OperatorTable} {upcoming : Option Kind} {state next : State} {draft : Draft}
  {lexemes : List Lexeme} {lexeme : Lexeme}

theorem empty : Reached operators upcoming .start (.empty operators) [] := by
  have hstage : Stage operators .start upcoming .start (Draft.empty operators).stack [] :=
    .between (by simp [State.beginnings])
  have hcanonical : Program.IsCanonical operators ⟨[]⟩ := by simp [Program.IsCanonical]
  have hdescribes : DescribeAll (Program.marks ⟨[]⟩) [] := .nil
  have h : Reached operators upcoming .start (.empty operators) ([] ++ []) :=
    .intro rfl .nil hcanonical hdescribes hstage .nil (by simp)
  exact h

theorem feed (h : Reached operators upcoming state draft lexemes) (lookahead : Option Kind) :
    Reached operators upcoming state (draft.feed lexeme lookahead) lexemes := by
  obtain ⟨hoperators, hclosed, hcanonical, hearlier, hstage, hcurrent, hstart⟩ := h
  exact .intro hoperators hclosed hcanonical hearlier hstage hcurrent hstart

/-- A statement that has been ended is canonical, and its marks describe it. -/
theorem concludes {start : Position} {marks : List Mark} {branch : Branch} {child : Node}
    {current : List Lexeme} (hchildren : Branch.toNodes branch.children = .ok [child])
    (hposition : branch.position = start) (hline : child.IsLine operators)
    (hmarks : child.marks = marks) (hcurrent : DescribeAll marks current)
    (hstart : ∀ lexeme ∈ current.head?, lexeme.position = start)
    (hkind : lexeme.kind = .semiColon) :
    ∃ statement : Statement, branch.Represents statement ∧ statement.IsCanonical operators ∧
      DescribeAll statement.marks (current ++ [lexeme]) := by
  subst hmarks
  obtain ⟨mark, rest, hcons, -⟩ := child.exists_marks_eq_cons
  have hall : DescribeAll (child.marks ++ [sign .semiColon]) (current ++ [lexeme]) :=
    hcurrent.append (.cons (describes_sign.2 hkind) .nil)
  have hhead : ∀ first ∈ (current ++ [lexeme]).head?, first.position = start := by
    rw [hcons] at hcurrent
    cases hcurrent
    exact hstart
  have hdescribes := describeAll_startAt_of_head hall hhead
  have hchild : start = child.start := (Node.describeAll_startAt.1 hdescribes).1
  refine ⟨⟨[child], start⟩, ⟨hchildren, hposition⟩, ⟨child, rfl, hline, hchild⟩, ?_⟩
  simpa [Statement.marks] using hdescribes

/-- A move keeps a draft in order, unless its action complains. -/
theorem step (h : Reached operators (some lexeme.kind) state draft lexemes)
    (hlexeme : draft.current = some lexeme) (hmove : Move state lexeme.kind next) :
    (∃ left, deed lexeme.kind next draft = (.ok (), left) ∧
        Reached operators draft.lookahead next left (lexemes ++ [lexeme])) ∨
      Declines operators (deed lexeme.kind next) lexeme draft := by
  obtain @⟨statements, start, marks, earlier, current, hoperators, hclosed, hcanonical, hearlier,
    hstage, hcurrent, hstart⟩ := h
  rcases hstage.step hlexeme hoperators hmove with hcontinues | ⟨hkind, rfl, hconcludes⟩ | hdeclines
  · obtain ⟨stack, mark, ⟨left, hdeed, hoperators', hclosed', rfl⟩, hmark, hnext⟩ := hcontinues
    refine .inl ⟨left, hdeed, ?_⟩
    rw [List.append_assoc]
    refine .intro (hoperators'.trans hoperators) (hclosed' ▸ hclosed) hcanonical hearlier hnext
      (hcurrent.append (.cons hmark .nil)) ?_
    cases hcurrent with
    | nil => simp
    | cons => simpa [Stage.origin] using hstart
  · obtain ⟨branch, child, ⟨left, hdeed, hoperators', hclosed', hstack⟩, hchildren, hposition,
      hline, hmarks⟩ := hconcludes
    obtain ⟨statement, hrepresents, hstatement, hdescribes⟩ :=
      concludes hchildren hposition hline hmarks hcurrent hstart hkind
    refine .inl ⟨left, hdeed, ?_⟩
    have hclosed : List.Forall₂ Branch.Represents left.closed.reverse
        (statements ++ [statement]) := by
      rw [hclosed', List.reverse_cons]
      exact List.rel_append hclosed (.cons hrepresents .nil)
    have hread : DescribeAll (Program.marks ⟨statements ++ [statement]⟩)
        (earlier ++ (current ++ [lexeme])) := by
      rw [Program.marks_concat]
      exact hearlier.append hdescribes
    have hstage : Stage operators start draft.lookahead .term left.stack [] :=
      hstack ▸ .between (by simp [State.beginnings])
    simpa using Reached.intro (hoperators'.trans hoperators) hclosed
      (Program.isCanonical_concat.2 ⟨hcanonical, hstatement⟩) hread hstage .nil (by simp)
  · exact .inr hdeclines

/-- A run that succeeds has read lexemes only, and leaves a draft in order. -/
theorem of_run {readings : List Reading} {machine left : Running} {draft grown : Draft}
    {last final : Position} {state : State} {lexemes : List Lexeme} (hat : IsAt machine state)
    (h : Reached operators (nextKind? readings) state draft lexemes)
    (hrun : Grammar.run machine draft last readings = .ok (left, grown, final)) :
    ∃ state' read, IsAt left state' ∧ readings = read.map .ok ∧
      Reached operators none state' grown (lexemes ++ read) := by
  induction readings generalizing machine draft last state lexemes with
  | nil =>
      cases hrun
      exact ⟨state, [], hat, rfl, by simpa [nextKind?] using h⟩
  | cons reading rest ih =>
      cases reading with
      | error e => cases hrun
      | ok lexeme =>
          by_cases hmove : ∃ next, Move state lexeme.kind next
          · obtain ⟨next, hmove⟩ := hmove
            rcases (h.feed (nextKind? rest)).step rfl hmove with
              ⟨after, hdeed, hafter⟩ | ⟨e, after, hdeed, -⟩
            · rw [run_cons_of_ok hat hmove hdeed] at hrun
              obtain ⟨state', read, hat', rfl, hread⟩ := ih (hat.moved _ _) hafter hrun
              exact ⟨state', lexeme :: read, hat', rfl, by simpa using hread⟩
            · rw [run_cons_of_error hat hmove hdeed] at hrun
              cases hrun
          · rw [run_cons_of_not_move hat (not_exists.1 hmove)] at hrun
            cases hrun

/-- Where a statement may begin, the draft stands for a canonical program that describes what has
been read. -/
theorem exists_program (h : Reached operators upcoming state draft lexemes)
    (hstate : state ∈ State.beginnings) :
    ∃ program : Program, draft.toProgram = .ok program ∧ program.IsCanonical operators ∧
      DescribeAll program.marks lexemes := by
  obtain ⟨-, hclosed, hcanonical, hearlier, hstage, hcurrent, -⟩ := h
  obtain ⟨hstack, rfl⟩ := hstage.eq_nil hstate
  rw [describeAll_nil] at hcurrent
  subst hcurrent
  exact ⟨_, Draft.toProgram_of_represents hstack hclosed, hcanonical, by simpa using hearlier⟩

end Reached

end Scriptlet
