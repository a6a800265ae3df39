/-
# The lives of nodes

A parse goes through one draft after the other, a lexeme at a time. Between two of them a node may
get another parent, but only once: it becomes the left operand of the operator that has been read,
or the name that the assignment just read assigns to, and stays that. A node that is not open
never changes again. While a bracket is open, all that was there when it was opened stays as it is,
since an operator finds its left operand before it comes to the bracket: what is passed on the way
is a chain of tighter operators, all of them inside.
-/

import Mathlib.Data.List.Chain
import Scriptlet.Proofs.History
import Scriptlet.Proofs.Joining

namespace Scriptlet

open Grammar

/-! ## Passing over operators -/

theorem Folds.closes {bound : Level} {first second : List Branch} (h : Folds bound first second) :
    Closes first second := by
  induction h with
  | refl => exact .refl
  | close _ _ _ _ ih => exact .close ih

theorem Form.isBracket_of_level? {form : Form} (h : form.level? ≠ none) :
    form.isBracket = false := by
  cases form with
  | operator => rfl
  | _ => exact absurd rfl h

/-- What is passed over are operators that bind at least as tightly as the bound. -/
theorem Folds.exists_tighter {bound : Level} {first second : List Branch}
    (h : Folds bound first second) :
    ∃ passed, first.map Branch.imprint = passed ++ second.map Branch.imprint ∧
      ∀ node ∈ passed, ∃ level ∈ node.form.level?, bound ≤ level := by
  induction h with
  | refl => exact ⟨[], rfl, by simp⟩
  | @close node parent outer stack level hlevel hbound _ _ ih =>
      obtain ⟨passed, hpassed, htight⟩ := ih
      have hnode : level ∈ node.imprint.form.level? := by
        rw [Branch.imprint, Form.level?_bare, hlevel]
        rfl
      refine ⟨node.imprint :: passed, ?_, List.forall_mem_cons.2 ⟨⟨level, hnode, hbound⟩, htight⟩⟩
      rw [List.cons_append, ← hpassed]
      rfl

/-- What is passed over are operators, and so no brackets. -/
theorem Folds.exists_passed {bound : Level} {first second : List Branch}
    (h : Folds bound first second) :
    ∃ passed, first.map Branch.imprint = passed ++ second.map Branch.imprint ∧
      ∀ node ∈ passed, node.form.isBracket = false := by
  obtain ⟨passed, hpassed, htight⟩ := h.exists_tighter
  refine ⟨passed, hpassed, fun node hnode => ?_⟩
  obtain ⟨level, hlevel, -⟩ := htight node hnode
  exact Form.isBracket_of_level? (Option.ne_none_iff_exists'.2 ⟨level, hlevel⟩)

variable {operators : OperatorTable} {start : Position} {marks : List Mark} {lexeme : Lexeme}
  {draft : Draft} {state next : State}

theorem Awaits.children_ne_nil {parent : Branch} {outer : List Branch}
    (h : Awaits operators start parent outer marks) (hlevel : parent.form.level? ≠ none) :
    parent.children ≠ [] := by
  cases h with
  | operator => exact List.cons_ne_nil _ _
  | _ => exact absurd rfl hlevel

theorem Draft.Yields.stack_eq {action : Action Draft ParseError} {left : Draft}
    {closed stack : List Branch} (h : Draft.Yields action draft closed stack)
    (haction : action draft = (.ok (), left)) : left.stack = stack := by
  obtain ⟨_, hyielded, -, -, hstack⟩ := h
  cases hyielded.symm.trans haction
  exact hstack

namespace Stage

/-- An operator takes its left operand over from inside of the innermost bracket. -/
theorem advances_operator (h : Stage operators start (some lexeme.kind) state draft.stack marks)
    (hsound : draft.IsSound) (hcurrent : draft.current = some lexeme)
    (hoperators : draft.operators = operators) (hstate : state ∈ State.complete)
    (hkind : lexeme.kind = .operator) : draft.Advances (Draft.createOperator draft).2 := by
  rcases hsound.create_cases .operator with
    ⟨e, created, -, hcreated, hdenied⟩ | ⟨read, form, stack, hcreates, hcreated⟩
  · have hleft : (Draft.createOperator draft).2 = _ := congrArg Prod.snd hdenied
    exact hleft ▸ Draft.advances_of_created hcreated
  subst hoperators
  cases hcurrent.symm.trans hcreates.current
  have hleft : Draft.createOperator draft = _ := hcreated
  have hsymbol := hcreates.chooses
  simp only [Creation.form] at hsymbol
  split at hsymbol
  · next level hlevel =>
    obtain ⟨settled, hfolds, hsettled⟩ :=
      (h.completes hstate (by simp [hkind])).exists_folds level
    obtain @⟨parent, outer, _, last, node, houter, hlast, hnode, habove, hinner⟩ := hsettled
    obtain rfl := (Draft.yields_operator hcurrent hlevel hfolds hlast habove hinner
      houter.takesAll).stack_eq hleft
    obtain ⟨passed, hpassed, hnone⟩ := hfolds.exists_passed
    have htakes : Branch.Takes ⟨draft.created, .operator lexeme.value level, lexeme.position, []⟩
        last _ := .child rfl
    rw [hleft]
    exact hsound.advances_takeOver hcurrent hfolds.closes hpassed hnone houter.children_ne_nil
      rfl rfl rfl htakes (.operand hkind)
  · cases hsymbol

/-- An assignment takes over the name that has been read, which is the only one in the statement. -/
theorem advances_assignment (h : Stage operators start (some lexeme.kind) state draft.stack marks)
    (hsound : draft.IsSound) (hcurrent : draft.current = some lexeme)
    (hstate : state = .statementIdentifier) (hkind : lexeme.kind = .equals) :
    draft.Advances (Draft.createAssignment draft).2 := by
  rcases hsound.create_cases .assignment with
    ⟨e, created, -, hcreated, hdenied⟩ | ⟨read, form, stack, hcreates, hcreated⟩
  · have hleft : (Draft.createAssignment draft).2 = _ := congrArg Prod.snd hdenied
    exact hleft ▸ Draft.advances_of_created hcreated
  cases hcurrent.symm.trans hcreates.current
  have hleft : Draft.createAssignment draft = _ := hcreated
  generalize hstack : draft.stack = before at h
  cases h with
  | @target serial value outer =>
      obtain rfl := (Draft.yields_assignment hcurrent hstack).stack_eq hleft
      have hcloses : Closes draft.stack (Branch.enclose ⟨outer, .statement, start, []⟩
          ⟨serial, .identifier value, start, []⟩ :: []) := hstack ▸ .refl
      have hopened : draft.opened =
          [] ++ [Branch.imprint ⟨outer, .statement, start, []⟩] := by
        rw [Draft.opened, hstack]
        rfl
      have htakes : Branch.Takes ⟨draft.created, .assignment none, lexeme.position, []⟩
          ⟨serial, .identifier value, start, []⟩
          ⟨draft.created, .assignment (some ⟨serial, ⟨value, start⟩⟩), lexeme.position, []⟩ :=
        Branch.takes_of_attach? rfl
      rw [hleft]
      exact hsound.advances_takeOver hcurrent hcloses hopened (by simp) (absurd rfl) rfl rfl rfl
        htakes (.target hkind)
  | named _ hupcoming => simp [hkind] at hupcoming
  | between h => simp_all [State.beginnings]
  | _ => simp_all

/-- Every move advances the draft, also one whose action fails. -/
theorem advances (h : Stage operators start (some lexeme.kind) state draft.stack marks)
    (hsound : draft.IsSound) (hcurrent : draft.current = some lexeme)
    (hoperators : draft.operators = operators) (hmove : Move state lexeme.kind next) :
    draft.Advances (deed lexeme.kind next draft).2 := by
  have hskip : draft.Advances (Action.skip draft : Except ParseError Unit × Draft).2 :=
    Draft.advances_of_created (Nat.le_refl _)
  generalize hkind : lexeme.kind = kind at hmove
  cases hmove with
  | literal hstate hliteral =>
      simp only [literals, List.mem_cons, Prod.mk.injEq, List.not_mem_nil, or_false] at hliteral
      rcases hliteral with ⟨rfl, rfl⟩ | ⟨rfl, rfl⟩ | ⟨rfl, rfl⟩ | ⟨rfl, rfl⟩
      · exact hsound.advances_create .number (by simp) (by simp)
      · exact hsound.advances_create .string (by simp) (by simp)
      · exact hsound.advances_create .boolean (by simp) (by simp)
      · exact hsound.advances_create .boolean (by simp) (by simp)
  | name | innerName => exact hsound.advances_create .identifier (by simp) (by simp)
  | declaredName | declaredType => exact hsound.advances_create .bareIdentifier (by simp) (by simp)
  | group => exact hsound.advances_create .group (by simp) (by simp)
  | declaration => exact hsound.advances_create .declaration (by simp) (by simp)
  | operator hstate => exact h.advances_operator hsound hcurrent hoperators hstate hkind
  | assignment => exact h.advances_assignment hsound hcurrent rfl hkind
  | argumentEnd => exact hsound.advances_close .argument (by simp)
  | noArguments | bracketEnd => exact hsound.advances_close .bracket (by simp)
  | statementEnd => exact hsound.advances_close .statement (by simp)
  | arguments | declaredValue => exact hskip

end Stage

theorem Reached.advances {lexemes : List Lexeme}
    (h : Reached operators (some lexeme.kind) state draft lexemes) {lookahead : Option Kind}
    (hsound : (draft.feed lexeme lookahead).IsSound) (hmove : Move state lexeme.kind next) :
    (draft.feed lexeme lookahead).Advances
      (deed lexeme.kind next (draft.feed lexeme lookahead)).2 := by
  obtain ⟨hoperators, -, -, -, hstage, -, -⟩ := h.feed lookahead
  exact hstage.advances hsound rfl hoperators hmove

/-! ## From one draft to the next -/

/-- A step from one draft to the next, both of which are forests. -/
structure Draft.Proceeds (draft left : Draft) : Prop where
  advances : draft.Advances left
  forest : draft.IsForest
  forest_left : left.IsForest

namespace Grammar

variable {machine moved : Running} {left grown : Draft} {readings rest : List Reading}

/-- A move does nothing to a draft, or it creates a node, or it closes some by a closing lexeme. It
creates an operator only where one has been read. -/
theorem deed_cases (kind : Kind) (next : State) :
    deed kind next = Action.skip ∨
      (∃ creation : Creation, deed kind next = creation.action ∧
        (creation = .operator → next = .operator)) ∨
      ∃ closer : Closer, deed kind next = closer.action := by
  unfold deed
  split
  · exact .inr (.inr ⟨.statement, rfl⟩)
  · exact .inr (.inr ⟨.argument, rfl⟩)
  · cases next with
    | number => exact .inr (.inl ⟨.number, rfl, nofun⟩)
    | quoted => exact .inr (.inl ⟨.string, rfl, nofun⟩)
    | trueWord | falseWord => exact .inr (.inl ⟨.boolean, rfl, nofun⟩)
    | identifier | statementIdentifier => exact .inr (.inl ⟨.identifier, rfl, nofun⟩)
    | operator => exact .inr (.inl ⟨.operator, rfl, fun _ => rfl⟩)
    | groupOpen => exact .inr (.inl ⟨.group, rfl, nofun⟩)
    | parenClose => exact .inr (.inr ⟨.bracket, rfl⟩)
    | assignment => exact .inr (.inl ⟨.assignment, rfl, nofun⟩)
    | letWord => exact .inr (.inl ⟨.declaration, rfl, nofun⟩)
    | letIdentifier | letTypeIdentifier => exact .inr (.inl ⟨.bareIdentifier, rfl, nofun⟩)
    | start | term | callOpen | comma | letEquals => exact .inl rfl

/-- What a move does to a draft is a run of calls. -/
theorem exists_calls_deed (kind : Kind) (next : State) (draft : Draft) :
    ∃ calls, (deed kind next draft).2 = draft.after calls := by
  rcases deed_cases kind next with hdeed | ⟨creation, hdeed, -⟩ | ⟨closer, hdeed⟩
  · exact ⟨[], by rw [hdeed]; rfl⟩
  · exact ⟨[.create creation], by rw [hdeed]; rfl⟩
  · exact ⟨[.close closer], by rw [hdeed]; rfl⟩

/-- Turning to the next lexeme does not touch the nodes. -/
theorem advances_of_feed {lookahead : Option Kind}
    (h : (draft.feed lexeme lookahead).Advances left) : draft.Advances left := by
  cases h with
  | rests hstatements hcreated hopened hpassed =>
      exact .rests hstatements hcreated hopened hpassed
  | joins hfinds hreceives hcells hserial hcreated hopened =>
      refine .joins ?_ hreceives hcells hserial hcreated hopened
      cases hfinds with
      | innermost hopened hcells => exact .innermost hopened hcells
      | statement hopened houter hform hserial hcells =>
          exact .statement hopened houter hform hserial hcells
  | takesOver hlexeme htakes hopened hpassed hcells hchildren holder hleft hserial hcreated
      hstack =>
      exact .takesOver hlexeme htakes hopened hpassed hcells hchildren holder hleft hserial
        hcreated hstack

/-- A move leads from one draft that comes of calls to another. -/
theorem proceeds_of_move {calls : List Draft.Call} {lexemes : List Lexeme}
    {lookahead : Option Kind} {result : Except ParseError Unit}
    (h : Reached operators (some lexeme.kind) state ((Draft.empty operators).after calls) lexemes)
    (hmove : Move state lexeme.kind next)
    (hdeed : deed lexeme.kind next (((Draft.empty operators).after calls).feed lexeme lookahead) =
      (result, left)) :
    ((Draft.empty operators).after calls).Proceeds left ∧
      ∃ more, left = (Draft.empty operators).after (calls ++ more) := by
  have hsound := (Draft.isSound_empty operators).after calls
  have hadvances := h.advances (hsound.run (.feed lexeme lookahead)) hmove
  obtain ⟨more, hmore⟩ := exists_calls_deed lexeme.kind next
    (((Draft.empty operators).after calls).feed lexeme lookahead)
  rw [hdeed] at hadvances hmore
  have hleft : left = (Draft.empty operators).after (calls ++ .feed lexeme lookahead :: more) := by
    rw [Draft.after_append]
    exact hmore
  refine ⟨⟨advances_of_feed hadvances, Draft.isForest_after operators calls, ?_⟩, _, hleft⟩
  exact hleft ▸ Draft.isForest_after operators _

/-- Every lexeme advances the draft of a run, also one that is rejected. -/
theorem isChain_drafts {calls : List Draft.Call} {lexemes : List Lexeme} (hat : IsAt machine state)
    (h : Reached operators (nextKind? readings) state ((Draft.empty operators).after calls)
      lexemes) :
    (drafts machine ((Draft.empty operators).after calls) readings).IsChain Draft.Proceeds := by
  induction readings generalizing machine calls state lexemes with
  | nil => exact .singleton _
  | cons reading rest ih =>
      cases reading with
      | error e => exact .singleton _
      | ok lexeme =>
          by_cases hmove : ∃ next, Move state lexeme.kind next
          · obtain ⟨next, hmove⟩ := hmove
            rcases hdeed : deed lexeme.kind next
              (((Draft.empty operators).after calls).feed lexeme (nextKind? rest)) with
              ⟨result, left⟩
            obtain ⟨hproceeds, more, rfl⟩ := proceeds_of_move h hmove hdeed
            have hstep := step_of_move hat hmove hdeed
            cases result with
            | error e =>
                rw [drafts_cons_of_error hstep]
                exact .cons_cons hproceeds (.singleton _)
            | ok =>
                obtain ⟨next', -, hmoved, hnext⟩ := h.exists_move hat hstep
                have hchain := ih (hat.moved lexeme.kind next') hnext
                rw [drafts_cons_of_ok hstep, hmoved]
                obtain ⟨later, hlater⟩ := exists_drafts_eq (Grammar.moved machine lexeme.kind next')
                  ((Draft.empty operators).after (calls ++ more)) rest
                rw [hlater] at hchain ⊢
                exact .cons_cons hproceeds hchain
          · rw [drafts_cons_of_error (step_of_not_move hat (not_exists.1 hmove) _)]
            have hfed : ((Draft.empty operators).after calls).feed lexeme (nextKind? rest) =
                (Draft.empty operators).after (calls ++ [.feed lexeme (nextKind? rest)]) := by
              rw [Draft.after_append]
              rfl
            refine .cons_cons ⟨.rests rfl (Nat.le_refl _) (List.nil_append _).symm (by simp),
              Draft.isForest_after operators calls, ?_⟩ (.singleton _)
            exact hfed ▸ Draft.isForest_after operators _

end Grammar

namespace Dialect

theorem isChain_history (dialect : Dialect) (readings : List Reading) :
    (dialect.history readings).IsChain Draft.Proceeds := by
  rw [history_eq]
  exact @isChain_drafts _ _ _ _ [] _ isAt_start .empty

/-- The drafts of a parse are forests. -/
theorem isForest_of_mem_history {dialect : Dialect} {readings : List Reading} {draft : Draft}
    (hdraft : draft ∈ dialect.history readings) : draft.IsForest := by
  refine (dialect.isChain_history readings).induction Draft.IsForest _
    (fun _ _ hstep _ => hstep.forest_left) (fun hne => ?_) draft hdraft
  obtain ⟨later, hlater⟩ := exists_drafts_eq ⟨plan, .start, [], false⟩
    (.empty dialect.operators) (readings.filter matters)
  simp only [history_eq, hlater, List.head_cons]
  exact Draft.isForest_after dialect.operators []

end Dialect

/-! ## Lives -/

namespace Draft

variable {draft left before after opening : Draft} {rest : List Draft} {cell : Cell}
  {bracket : Imprint} {outer : List Imprint}

/-- A node that is held where it is not given away has that parent ever after. -/
theorem isParent_iff_of_holds {node : Nat} (hchain : (after :: rest).IsChain Proceeds)
    (hforest : after.IsForest) (hcell : cell ∈ after.cells) (hholds : cell.Holds node) :
    ∀ later ∈ after :: rest, ∀ other, later.IsParent other node ↔ other = cell.serial := by
  have hheld : ∀ later ∈ after :: rest, later.IsForest ∧
      ∃ kept ∈ later.cells, kept.serial = cell.serial ∧ kept.Holds node := by
    refine hchain.induction _ _ ?_ fun _ => ⟨hforest, cell, hcell, rfl, hholds⟩
    rintro draft left hstep ⟨-, held, hheld, hserial, hholds⟩
    obtain ⟨kept, hkept, hkeptSerial, hstays⟩ := hstep.advances.exists_holds hheld hholds
    exact ⟨hstep.forest_left, kept, hkept, hkeptSerial.trans hserial, hstays⟩
  intro later hlater other
  obtain ⟨hforest, kept, hkept, hserial, hholds⟩ := hheld later hlater
  rw [hforest.isParent_iff hkept hholds.mem_below, hserial]

/-- A node that is not open stays as it is, and is not opened again. -/
theorem Proceeds.mem_cells_of_closed (h : draft.Proceeds left) (hcell : cell ∈ draft.cells)
    (hclosed : ∀ node ∈ draft.opened, node.serial ≠ cell.serial) :
    cell ∈ left.cells ∧ ∀ node ∈ left.opened, node.serial ≠ cell.serial := by
  constructor
  · rcases h.advances.mem_cells hcell with hkept | ⟨inner, outer, hopened, -⟩
    · exact hkept
    · exact absurd rfl (hclosed cell.imprint (by simp [hopened]))
  · intro node hnode
    rcases h.advances.mem_opened hnode with hopened | hlater
    · exact hclosed node hopened
    · have hcreated := h.forest.created cell hcell
      omega

/-- What was there when a bracket was opened is there as it was, and the bracket is open with the
same nodes outside. Everything inside has come later. -/
structure IsInside (opening : Draft) (bracket : Imprint) (outer : List Imprint) (draft : Draft) :
    Prop where
  created : opening.created ≤ draft.created
  opened : ∃ inner, draft.opened = inner ++ bracket :: outer ∧
    ∀ node ∈ inner, opening.created ≤ node.serial
  cells : ∀ cell ∈ opening.cells, cell.serial ≠ bracket.serial → cell ∈ draft.cells

/-- A step inside of a bracket changes nothing outside, also one that closes the bracket. -/
theorem IsInside.advances (h : opening.IsInside bracket outer draft) (hstep : draft.Advances left)
    (hopening : opening.IsForest) (hbracket : bracket.form.isBracket = true) :
    (∀ cell ∈ opening.cells, cell.serial ≠ bracket.serial → cell ∈ left.cells) ∧
      (left.opened = outer ∨ opening.IsInside bracket outer left) := by
  obtain ⟨hcreated, ⟨inner, hopened, hinner⟩, hcells⟩ := h
  have hkept : ∀ cell ∈ opening.cells, cell.serial ≠ bracket.serial → cell ∈ left.cells := by
    intro cell hcell hne
    rcases hstep.mem_cells (hcells cell hcell hne) with hleft | ⟨passed, rest, hsplit, hnone⟩
    · exact hleft
    -- A node that changes is open inside of the bracket, and so has come later.
    obtain ⟨more, hmore, rfl⟩ :=
      exists_more_of_append_eq (hsplit.symm.trans hopened) hnone hbracket
    rcases more with - | ⟨first, more⟩
    · exact absurd (congrArg Imprint.serial (List.cons.inj hmore).1) hne
    · have hlater := hinner first (by simp)
      rw [← (List.cons.inj hmore).1] at hlater
      exact absurd (hopening.created cell hcell) (Nat.not_lt.2 hlater)
  refine ⟨hkept, ?_⟩
  rcases hstep.opened_of_bracket hopened hbracket with hclosed | ⟨inner', hinside, hnew⟩
  · exact .inl hclosed
  · refine .inr ⟨Nat.le_trans hcreated hstep.created_le, ⟨inner', hinside, fun node hnode => ?_⟩,
      hkept⟩
    exact (hnew node hnode).elim (hinner node) (Nat.le_trans hcreated)

/-- As long as a bracket is open, nothing changes outside of it. -/
theorem isInside_of_isChain (hchain : (opening :: rest).IsChain Proceeds)
    (hforest : opening.IsForest) (hopened : opening.opened = bracket :: outer)
    (hbracket : bracket.form.isBracket = true) (hserial : bracket.serial < opening.created)
    (houter : bracket ∉ outer) :
    ∀ later ∈ opening :: rest, bracket ∈ later.opened →
      opening.IsInside bracket outer later := by
  -- The drafts after the bracket has been closed count as well, since it is not opened again.
  have hinside : ∀ later ∈ opening :: rest, opening.created ≤ later.created ∧
      (bracket ∈ later.opened → opening.IsInside bracket outer later) := by
    refine hchain.induction _ _ ?_ fun _ =>
      ⟨Nat.le_refl _, fun _ => ⟨Nat.le_refl _, ⟨[], hopened, by simp⟩, fun _ hcell _ => hcell⟩⟩
    rintro draft left hstep ⟨hcreated, hinside⟩
    refine ⟨Nat.le_trans hcreated hstep.advances.created_le, fun hmem => ?_⟩
    rcases hstep.advances.mem_opened hmem with hopen | hlater
    · refine ((hinside hopen).advances hstep.advances hforest hbracket).2.resolve_left
        fun hclosed => ?_
      exact houter (hclosed ▸ hmem)
    · omega
  exact fun later hlater => (hinside later hlater).2

/-- What is open outside of a bracket, and all that was there before it, outlasts the bracket. -/
theorem IsInside.step {reached : Draft} {later : List Draft}
    (h : opening.IsInside bracket outer reached) (hchain : (reached :: later).IsChain Proceeds)
    (hforest : opening.IsForest) (hbracket : bracket.form.isBracket = true) :
    (∀ next ∈ later.head?, outer <:+ next.opened) ∧
      ∀ next ∈ reached :: later.head?.toList, ∀ cell ∈ opening.cells,
        cell.serial ≠ bracket.serial → cell ∈ next.cells := by
  cases later with
  | nil => exact ⟨by simp, List.forall_mem_singleton.2 h.cells⟩
  | cons next more =>
      have hstep := (List.isChain_cons_cons.1 hchain).1.advances
      obtain ⟨hkept, hopened⟩ := h.advances hstep hforest hbracket
      refine ⟨?_, List.forall_mem_cons.2 ⟨h.cells, List.forall_mem_singleton.2 hkept⟩⟩
      rintro _ ⟨⟩
      rcases hopened with hclosed | hinside
      · exact hclosed ▸ List.suffix_refl _
      · obtain ⟨inner, hinner, -⟩ := hinside.opened
        rw [hinner]
        exact (List.suffix_cons bracket outer).trans (List.suffix_append inner _)

end Draft

/-- What becomes of nodes from one draft to the next. -/
structure Lifetimes (history : List Draft) : Prop where
  /-- No node has two parents. -/
  single {draft parent other node} (hdraft : draft ∈ history)
    (hparent : draft.IsParent parent node) (hother : draft.IsParent other node) : parent = other
  /-- A node that gets another parent has been taken over by the node just read, and keeps that
  parent ever after. -/
  reparented {earlier before after rest parent node}
    (hhistory : history = earlier ++ before :: after :: rest)
    (hbefore : before.IsParent parent node) (hafter : ¬ after.IsParent parent node) :
    (∃ lexeme fresh, after.current = some lexeme ∧ fresh ∈ after.cells ∧
      fresh.serial = before.created ∧ fresh.TakesOver lexeme node) ∧
    ∀ later ∈ after :: rest, ∀ other, later.IsParent other node ↔ other = before.created
  /-- A node that is not open never changes again, and is never opened again. -/
  settled {earlier draft rest cell} (hhistory : history = earlier ++ draft :: rest)
    (hcell : cell ∈ draft.cells) (hclosed : ∀ node ∈ draft.opened, node.serial ≠ cell.serial) :
    ∀ later ∈ draft :: rest, cell ∈ later.cells ∧
      ∀ node ∈ later.opened, node.serial ≠ cell.serial
  /-- A bracket is opened as the latest child of its parent, and nothing else changes then. As long
  as it is open, and in the step that closes it, all other nodes that were there stay as they were,
  and what is open outside stays open. -/
  framed {earlier before opening rest bracket}
    (hhistory : history = earlier ++ before :: opening :: rest) (hbefore : bracket ∉ before.opened)
    (hopening : bracket ∈ opening.opened) (hbracket : bracket.form.isBracket = true) :
    ∃ parent outer, opening.opened = bracket :: parent :: outer ∧
      (before.opened = parent :: outer ∨ before.opened = [] ∧ outer = []) ∧
      opening.IsParent parent.serial bracket.serial ∧
      (∀ cell ∈ before.cells, (if cell.serial = parent.serial then
        { cell with children := bracket.serial :: cell.children } else cell) ∈ opening.cells) ∧
      ∀ {middle reached later}, opening :: rest = middle ++ reached :: later →
        bracket ∈ reached.opened →
        bracket :: parent :: outer <:+ reached.opened ∧
        (∀ next ∈ later.head?, parent :: outer <:+ next.opened) ∧
        ∀ next ∈ reached :: later.head?.toList, ∀ cell ∈ opening.cells,
          cell.serial ≠ bracket.serial → cell ∈ next.cells

/-- In every parse, up to any point, and whether it succeeds or fails: a node gets another parent at
most once, when it becomes the left operand of the operator or the target of the assignment that has
just been read; a node that has been closed never changes again; and while a bracket is open nothing
changes outside of it. -/
theorem Dialect.lifetimes_history (dialect : Dialect) (readings : List Reading) :
    Lifetimes (dialect.history readings) := by
  have hchain := dialect.isChain_history readings
  have hforest := @isForest_of_mem_history dialect readings
  generalize dialect.history readings = history at hchain hforest
  constructor
  case single =>
    intro draft parent other node hdraft hparent hother
    exact (hforest hdraft).eq_of_isParent hparent hother
  case reparented =>
    rintro earlier before after rest parent node rfl hbefore hafter
    obtain ⟨hproceeds, hrest⟩ := List.isChain_cons_cons.1 hchain.right_of_append
    obtain ⟨lexeme, fresh, hcurrent, hfresh, hserial, htakes⟩ :=
      hproceeds.advances.takesOver_of_isParent hbefore hafter
    refine ⟨⟨lexeme, fresh, hcurrent, hfresh, hserial, htakes⟩, ?_⟩
    rw [← hserial]
    exact Draft.isParent_iff_of_holds hrest hproceeds.forest_left hfresh htakes.holds
  case settled =>
    rintro earlier draft rest cell rfl hcell hclosed
    exact hchain.right_of_append.induction _ _
      (fun _ _ hstep ⟨hkept, hstill⟩ => hstep.mem_cells_of_closed hkept hstill)
      fun _ => ⟨hcell, hclosed⟩
  case framed =>
    rintro earlier before opening rest bracket rfl hbefore hopening hbracket
    obtain ⟨hproceeds, hrest⟩ := List.isChain_cons_cons.1 hchain.right_of_append
    obtain ⟨parent, outer, hopened, houter, hserial, hground, hparent, hcells⟩ :=
      hproceeds.advances.of_bracket_opened hproceeds.forest hbefore hopening hbracket
    have hinside := Draft.isInside_of_isChain hrest hproceeds.forest_left hopened hbracket hserial
      houter
    refine ⟨parent, outer, hopened, hground, hparent, hcells, fun hsplit hmem => ?_⟩
    have hreached := hinside _ (by simp [hsplit]) hmem
    obtain ⟨inner, hinner, -⟩ := hreached.opened
    rw [hsplit] at hrest
    exact ⟨⟨inner, hinner.symm⟩,
      hreached.step hrest.right_of_append hproceeds.forest_left hbracket⟩

/-- The parents of the `b` in `a = 2 + b * c;`, from lexeme to lexeme: the sum, then the product. -/
example : (Dialect.stock.history Dialect.productReadings).map (fun draft =>
    (draft.cells.filter fun cell => 5 ∈ cell.below).map Cell.serial) =
      [[], [], [], [], [], [4], [6], [6], [6]] := by
  decide +kernel

end Scriptlet
