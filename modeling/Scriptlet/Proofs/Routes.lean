/-
# The routes of rejected lexemes

A lexeme that is rejected comes with a route, which tells the steps that the grammar has taken: one
for each lexeme before it, and nothing else. The grammar sees no nesting, so a lexeme can be taken
and refused all the same, by the action that is to close what stands open. Then the route has one
step more, for the lexeme itself. That is what becomes of a semicolon, a comma or a closing
parenthesis right after an operand, and of nothing else: any other rejected lexeme has no path.

Whether an operand has just been completed is said by the rules of the grammar alone. The states of
the grammar agree with them: reading a phrase leads from each state it may begin in to a state it
may end in.
-/

import Scriptlet.Proofs.Following
import Scriptlet.Proofs.History
import Scriptlet.Proofs.Requests

namespace Scriptlet

open Grammar Phrase Mark

/-! ## States and phrases -/

namespace Grammar

/-- The state after some kinds, if there are paths under them. -/
def after? (state : State) (kinds : List Kind) : Option State :=
  kinds.foldlM plan.target? state

variable {state middle next : State} {kind : Kind} {kinds : List Kind}

theorem after?_append (state : State) (first second : List Kind) :
    after? state (first ++ second) = (after? state first).bind fun middle => after? middle second :=
  List.foldlM_append

theorem after?_cons_of_move (hmove : Move state kind middle) (kinds : List Kind) :
    after? state (kind :: kinds) = after? middle kinds := by
  rw [after?, List.foldlM_cons, target?_plan_eq_some_iff.2 hmove]
  rfl

theorem after?_append_of_eq_some (h : after? state kinds = some middle) (more : List Kind) :
    after? state (kinds ++ more) = after? middle more := by
  rw [after?_append, h]
  rfl

theorem after?_singleton_of_move (hmove : Move state kind next) :
    after? state [kind] = some next :=
  after?_cons_of_move hmove []

/-- A walk tells the state after its labels. -/
theorem after?_of_walks {origin : State} {steps : List (Kind × State)}
    (h : Path.Walks plan.paths origin steps state) :
    after? origin (steps.map Prod.fst) = some state := by
  induction h with
  | stay => rfl
  | step _ hpath ih =>
      rw [List.map_append, after?_append_of_eq_some ih]
      exact after?_singleton_of_move (mem_fans_iff.1 (plan_paths ▸ hpath))

end Grammar

namespace Phrase

/-- The states in which a phrase may begin. -/
def origins : Phrase → List State
  | operand | expression => State.beginnings ++ State.expectant
  | arguments => [.callOpen]
  | statement | program => State.beginnings

/-- The states in which a phrase may end. -/
def targets : Phrase → List State
  | operand | expression | arguments => State.complete
  | statement => [.term]
  | program => State.beginnings

variable {phrase : Phrase} {kinds : List Kind} {state : State}

theorem exists_after?_literal {kind : Kind} (next : State)
    (hstate : state ∈ State.beginnings ++ State.expectant) (hliteral : (kind, next) ∈ literals)
    (hnext : next ∈ State.complete) : ∃ next ∈ State.complete, after? state [kind] = some next :=
  ⟨next, hnext, after?_singleton_of_move (.literal hstate hliteral)⟩

/-- What a phrase is made up of leads from where it may begin to where it may end. -/
theorem Derives.exists_after? (h : Derives phrase kinds) (hstate : state ∈ phrase.origins) :
    ∃ next ∈ phrase.targets, after? state kinds = some next := by
  induction h generalizing state with
  | number => exact exists_after?_literal .number hstate (by decide) (by decide)
  | quoted => exact exists_after?_literal .quoted hstate (by decide) (by decide)
  | trueWord => exact exists_after?_literal .trueWord hstate (by decide) (by decide)
  | falseWord => exact exists_after?_literal .falseWord hstate (by decide) (by decide)
  | identifier =>
      obtain ⟨named, hnamed, hmove, -⟩ := Node.exists_move_identifier hstate
      refine ⟨named, ?_, after?_singleton_of_move hmove⟩
      rcases List.mem_pair.1 hnamed with rfl | rfl <;> decide
  | emptyCall =>
      obtain ⟨named, hnamed, hmove, -⟩ := Node.exists_move_identifier hstate
      refine ⟨.parenClose, by decide, ?_⟩
      rw [after?_cons_of_move hmove, after?_cons_of_move (.arguments hnamed)]
      exact after?_singleton_of_move .noArguments
  | call _ ih =>
      obtain ⟨named, hnamed, hmove, -⟩ := Node.exists_move_identifier hstate
      obtain ⟨last, hlast, harguments⟩ := ih (List.mem_singleton.2 rfl)
      refine ⟨.parenClose, by decide, ?_⟩
      rw [after?_cons_of_move hmove, after?_cons_of_move (.arguments hnamed),
        after?_append_of_eq_some harguments]
      exact after?_singleton_of_move (.bracketEnd hlast)
  | group _ ih =>
      obtain ⟨last, hlast, hinner⟩ := @ih .groupOpen (by decide)
      refine ⟨.parenClose, by decide, ?_⟩
      rw [after?_cons_of_move (.group hstate), after?_append_of_eq_some hinner]
      exact after?_singleton_of_move (.bracketEnd hlast)
  | single _ ih => exact ih hstate
  | operation _ _ ihleft ihright =>
      obtain ⟨left, hleft, hfirst⟩ := ihleft hstate
      obtain ⟨right, hright, hsecond⟩ := @ihright .operator (by decide)
      refine ⟨right, hright, ?_⟩
      rw [after?_append_of_eq_some hfirst, after?_cons_of_move (.operator hleft), hsecond]
  | argument _ ih =>
      obtain rfl := List.mem_singleton.1 hstate
      exact @ih .callOpen (by decide)
  | further _ _ ihearlier ihlast =>
      obtain ⟨earlier, hearlier, hfirst⟩ := ihearlier hstate
      obtain ⟨last, hlast, hsecond⟩ := @ihlast .comma (by decide)
      refine ⟨last, hlast, ?_⟩
      rw [after?_append_of_eq_some hfirst, after?_cons_of_move (.argumentEnd hearlier), hsecond]
  | evaluation _ ih =>
      obtain ⟨last, hlast, hvalue⟩ := ih (List.mem_append_left _ hstate)
      refine ⟨.term, by decide, ?_⟩
      rw [after?_append_of_eq_some hvalue]
      exact after?_singleton_of_move (.statementEnd hlast)
  | assignment _ ih =>
      obtain ⟨last, hlast, hvalue⟩ := @ih .assignment (by decide)
      refine ⟨.term, by decide, ?_⟩
      rw [after?_cons_of_move (.name hstate), after?_cons_of_move .assignment,
        after?_append_of_eq_some hvalue]
      exact after?_singleton_of_move (.statementEnd hlast)
  | declaration _ ih =>
      obtain ⟨last, hlast, hvalue⟩ := @ih .letEquals (by decide)
      refine ⟨.term, by decide, ?_⟩
      rw [after?_cons_of_move (.declaration hstate), after?_cons_of_move .declaredName,
        after?_cons_of_move .declaredType, after?_cons_of_move .declaredValue,
        after?_append_of_eq_some hvalue]
      exact after?_singleton_of_move (.statementEnd hlast)
  | empty => exact ⟨state, hstate, rfl⟩
  | append _ _ ihearlier ihlast =>
      obtain ⟨middle, hmiddle, hfirst⟩ := ihearlier hstate
      obtain ⟨last, hlast, hsecond⟩ := ihlast hmiddle
      obtain rfl := List.mem_singleton.1 hlast
      exact ⟨.term, by decide, (after?_append_of_eq_some hfirst _).trans hsecond⟩

/-! ## Right after an operand -/

/-- Whether kinds end in an operand: the last of them are one, and stand where a program may have
one, if it were only a truth value. -/
def EndsInOperand (kinds : List Kind) : Prop :=
  ∃ before last more, kinds = before ++ last ∧ Derives operand last ∧
    Derives program (before ++ .trueWord :: more)

/-- The state after an operand is one that completes an operand. -/
theorem EndsInOperand.mem_complete (h : EndsInOperand kinds)
    (hafter : after? .start kinds = some state) : state ∈ State.complete := by
  obtain ⟨before, last, more, rfl, hlast, hprogram⟩ := h
  obtain ⟨_, -, hwhole⟩ := @Derives.exists_after? _ _ .start hprogram (by decide)
  rw [after?_append, Option.bind_eq_some_iff] at hwhole
  obtain ⟨middle, hbefore, hrest⟩ := hwhole
  have hmiddle : middle ∈ State.beginnings ++ State.expectant := by
    rw [after?, List.foldlM_cons] at hrest
    obtain ⟨next, hnext, -⟩ := Option.bind_eq_some_iff.1 hrest
    cases target?_plan_eq_some_iff.1 hnext with
    | literal hmiddle => exact hmiddle
  obtain ⟨next, hnext, hoperand⟩ := hlast.exists_after? hmiddle
  rw [after?_append_of_eq_some hbefore, hoperand] at hafter
  exact Option.some_inj.1 hafter ▸ hnext

end Phrase

/-- What has been read so far ends in an operand where the grammar has completed one. -/
theorem Reached.endsInOperand {operators : OperatorTable} {upcoming : Option Kind} {state : State}
    {draft : Draft} {lexemes : List Lexeme} (h : Reached operators upcoming state draft lexemes)
    (hstate : state ∈ State.complete) (hupcoming : upcoming ≠ some .parenOpen) :
    EndsInOperand (lexemes.map Lexeme.kind) := by
  obtain @⟨statements, start, marks, earlier, current, -, -, hcanonical, hearlier, hstage, hcurrent,
    -⟩ := h
  have hcompletes := hstage.completes hstate hupcoming
  generalize draft.stack = stack at hcompletes
  obtain @⟨parent, outer, opened, branch, node, houter, -, hnode, hlevel⟩ := hcompletes
  have hoperand := hnode.derives_and_operand.2 hlevel
  have htruth : (Node.boolean true .start).marks = [placed .trueWord .start] ++ [] := by
    simp [Node.marks]
  obtain ⟨child, more, -, hline, hchild, -⟩ :=
    houter.isOpening [placed .trueWord .start] [] .boolean rfl htruth (by simp)
  have hprogram := hcanonical.derives.append hline.derives
  refine ⟨(Program.marks ⟨statements⟩ ++ opened).map Mark.kind, node.marks.map Mark.kind,
    (more ++ [sign .semiColon]).map Mark.kind, ?_, hoperand, ?_⟩
  · rw [List.map_append, ← hearlier.map_kind, ← hcurrent.map_kind]
    simp
  · rw [hchild] at hprogram
    simpa [placed] using hprogram

/-- A parenthesis that is closed right after it was opened for a call is never refused. -/
theorem Reached.exists_deed_noArguments {operators : OperatorTable} {draft : Draft}
    {lexemes : List Lexeme} {lexeme : Lexeme}
    (h : Reached operators (some lexeme.kind) .callOpen draft lexemes)
    (hkind : lexeme.kind = .parenClose) (lookahead : Option Kind) :
    ∃ left, deed .parenClose .parenClose (draft.feed lexeme lookahead) = (.ok (), left) := by
  obtain ⟨-, -, -, -, hstage, -, -⟩ := h
  obtain ⟨-, -, ⟨left, hleft, -⟩, -, -⟩ :=
    @Stage.noArguments _ _ _ lexeme (draft.feed lexeme lookahead) _ hstage rfl hkind
  exact ⟨left, hleft⟩

/-! ## The steps of a parse -/

namespace Grammar

/-- What a point of a parse tells of the lexemes before it: the machine has taken one step for each
of them, along declared paths, and the draft is in order. -/
structure Recounts (operators : OperatorTable) (readings : List Reading) (machine : Running)
    (draft : Draft) (rest : List Reading) (earlier : List Lexeme) (steps : List (Kind × State))
    (state : State) : Prop where
  readings_eq : readings.filter matters = earlier.map .ok ++ rest
  progress_eq : progress (machineAt []) (.empty operators) (readings.filter matters) =
    earlier.length + progress machine draft rest
  machine_eq : machine = machineAt steps.reverse
  isAt : IsAt machine state
  kinds_eq : steps.map Prod.fst = earlier.map Lexeme.kind
  walk : Path.Walks plan.paths .start steps state
  reached : Reached operators (nextKind? rest) state draft earlier

variable {operators : OperatorTable} {readings rest after : List Reading}
  {machine moved : Running} {draft grown : Draft} {lexeme rejected : Lexeme} {e : ParseError}
  {stepError : StepError ParseError} {route : String} {state : State} {earlier : List Lexeme}
  {steps : List (Kind × State)}

theorem Passes.exists_recounts (h : Passes operators readings machine draft rest) :
    ∃ earlier steps state,
      Recounts operators readings machine draft rest earlier steps state := by
  induction h with
  | start hmachine =>
      rw [machine_eq] at hmachine
      cases hmachine
      exact ⟨[], [], .start, rfl, (Nat.zero_add _).symm, rfl, isAt_start, rfl, .stay, .empty⟩
  | @step machine moved draft grown lexeme rest _ hstep ih =>
      obtain ⟨earlier, steps, state, h⟩ := ih
      obtain ⟨next, hmove, rfl, hnext⟩ := h.reached.exists_move h.isAt hstep
      refine ⟨earlier ++ [lexeme], steps ++ [(lexeme.kind, next)], next, ?_, ?_, ?_,
        h.isAt.moved _ _, ?_, ?_, hnext⟩
      · rw [h.readings_eq, List.map_append, List.append_assoc]
        rfl
      · have hmore : progress machine draft (.ok lexeme :: rest) =
            progress (moved machine lexeme.kind next) grown rest + 1 := by
          rw [progress, hstep]
        rw [h.progress_eq, hmore, List.length_append, List.length_singleton]
        omega
      · rw [h.machine_eq, List.reverse_append]
        rfl
      · rw [List.map_append, List.map_append, h.kinds_eq]
        rfl
      · exact .step h.walk (plan_paths ▸ mem_fans_iff.2 hmove)

/-! ## The step that fails -/

/-- The lexemes that close something. -/
abbrev closers : List Kind := [.semiColon, .comma, .parenClose]

theorem exists_move_of_complete {kind : Kind} (hkind : kind ∈ closers)
    (hstate : state ∈ State.complete) : ∃ next, Move state kind next := by
  simp only [closers, List.mem_cons, List.not_mem_nil, or_false] at hkind
  rcases hkind with rfl | rfl | rfl
  · exact ⟨_, .statementEnd hstate⟩
  · exact ⟨_, .argumentEnd hstate⟩
  · exact ⟨_, .bracketEnd hstate⟩

/-- Something is closed right after an operand, or it is a call without arguments. -/
theorem Move.mem_complete {kind : Kind} {next : State} (h : Move state kind next)
    (hkind : kind ∈ closers) :
    state ∈ State.complete ∨ state = .callOpen ∧ kind = .parenClose ∧ next = .parenClose := by
  cases h with
  | literal _ hliteral =>
      simp only [literals, List.mem_cons, Prod.mk.injEq, List.not_mem_nil, or_false] at hliteral
      rcases hliteral with ⟨rfl, -⟩ | ⟨rfl, -⟩ | ⟨rfl, -⟩ | ⟨rfl, -⟩ <;> simp at hkind
  | noArguments => exact .inr ⟨rfl, rfl, rfl⟩
  | argumentEnd hstate | bracketEnd hstate | statementEnd hstate => exact .inl hstate
  | _ => simp at hkind

/-- A lexeme that is rejected as unexpected has no path, or it is to close something right after an
operand, and the action on its path refuses to. -/
theorem Recounts.step_error (h : Recounts operators readings machine draft (.ok lexeme :: after)
      earlier steps state)
    (hstep : machine.step lexeme.kind (draft.feed lexeme (nextKind? after)) =
      (.error stepError, moved, grown))
    (he : ParseError.unexpectedToken rejected route = stepError.onLexeme lexeme moved.route) :
    rejected = lexeme ∧
      ((lexeme.kind ∈ closers ∧ state ∈ State.complete ∧
          stepError = .failed (.unexpectedToken lexeme "") ∧
          ∃ next, Move state lexeme.kind next ∧
            route = routeOf (steps ++ [(lexeme.kind, next)])) ∨
        ((∀ next, ¬ Move state lexeme.kind next) ∧
          stepError = .refused (.noPath (toString state) (toString lexeme.kind)) ∧
          route = routeOf steps)) := by
  rcases step_cases h.isAt hstep with ⟨next, outcome, hmove, hdeed, hresult, rfl⟩ |
    ⟨hmove, hresult, rfl, -⟩
  · rcases (h.reached.feed (nextKind? after)).step rfl hmove with ⟨left, hdone, -⟩ |
      ⟨complaint, left, hfails, hcomplaint⟩
    · cases hdeed.symm.trans hdone
      cases hresult
    cases hdeed.symm.trans hfails
    cases hresult
    cases hcomplaint with
    | number | operator => cases he
    | nesting hkind =>
        cases he
        refine ⟨rfl, .inl ⟨hkind, ?_, rfl, next, hmove, ?_⟩⟩
        · rcases hmove.mem_complete hkind with hstate | ⟨rfl, hclose, rfl⟩
          · exact hstate
          · obtain ⟨left', hleft'⟩ := h.reached.exists_deed_noArguments hclose (nextKind? after)
            rw [hclose] at hdeed
            cases hdeed.symm.trans hleft'
        · have hroute := route_machineAt ((lexeme.kind, next) :: steps.reverse)
          rw [List.reverse_cons, List.reverse_reverse] at hroute
          rw [← hroute, h.machine_eq]
          rfl
  · cases hresult
    cases he
    refine ⟨rfl, .inr ⟨hmove, rfl, ?_⟩⟩
    rw [h.machine_eq, route_machineAt, List.reverse_reverse]

/-- Where something is to be closed, the state tells whether an operand has just been completed. -/
theorem Recounts.mem_complete_iff (h : Recounts operators readings machine draft
      (.ok lexeme :: after) earlier steps state) (hkind : lexeme.kind ∈ closers) :
    state ∈ State.complete ↔ EndsInOperand (earlier.map Lexeme.kind) := by
  constructor
  · intro hstate
    refine h.reached.endsInOperand hstate fun hparen => ?_
    have hopen : lexeme.kind = .parenOpen := Option.some_inj.1 hparen
    simp [hopen] at hkind
  · intro hends
    refine hends.mem_complete ?_
    rw [← h.kinds_eq]
    exact after?_of_walks h.walk

theorem routeOf_concat (steps : List (Kind × State)) (kind : Kind) (state : State) :
    routeOf (steps ++ [(kind, state)]) = s!"{routeOf steps} >>{kind}>> {state}" := by
  rw [routeOf, List.foldl_append]
  rfl

theorem routeOf_ne_empty (steps : List (Kind × State)) : routeOf steps ≠ "" := by
  rcases List.eq_nil_or_concat steps with rfl | ⟨earlier, ⟨kind, state⟩, rfl⟩
  · decide
  · have hsign : (toString " >>" : String) ≠ "" := by decide
    rw [List.concat_eq_append, routeOf_concat]
    simp [hsign]

end Grammar

namespace Dialect

variable {dialect : Dialect} {readings : List Reading} {lexeme : Lexeme} {route : String}

/-- A parse that ends with an unexpected lexeme passes through the step that fails. -/
theorem exists_step_of_unexpectedToken
    (h : dialect.parseReadings readings = .error (.unexpectedToken lexeme route)) :
    ∃ machine draft read after stepError moved grown,
      Passes dialect.operators readings machine draft (.ok read :: after) ∧
      machine.step read.kind (draft.feed read (nextKind? after)) =
        (.error stepError, moved, grown) ∧
      .unexpectedToken lexeme route = stepError.onLexeme read moved.route := by
  obtain ⟨left, -, hfails⟩ := exists_getLast?_history_of_error h
  generalize he : ParseError.unexpectedToken lexeme route = e at hfails
  cases hfails with
  | fault | unfinished => cases he
  | step hpasses hstep => exact ⟨_, _, _, _, _, _, _, hpasses, hstep, rfl⟩

/-- The route of a rejected lexeme is the story of the parse. It tells one step for each lexeme
before it, along declared paths from the start. A semicolon, a comma or a closing parenthesis right
after an operand has been taken as well before an action refuses it, and adds a step of its own; any
other lexeme is rejected because there is no path, and adds none. -/
theorem route_of_unexpectedToken
    (h : dialect.parseReadings readings = .error (.unexpectedToken lexeme route)) :
    route ≠ "" ∧ ∃ (earlier : List Lexeme) (after : List Reading) (steps : List (Kind × State))
        (state : State) (machine : Running) (draft : Draft),
      readings.filter matters = earlier.map .ok ++ .ok lexeme :: after ∧
      earlier.length = dialect.progress readings ∧
      steps.map Prod.fst = earlier.map Lexeme.kind ∧
      Path.Walks plan.paths .start steps state ∧
      Passes dialect.operators readings machine draft (.ok lexeme :: after) ∧
      machine.steps = steps.reverse ∧
      let rejection := (machine.step lexeme.kind (draft.feed lexeme (nextKind? after))).1
      let closes := lexeme.kind ∈ closers ∧ EndsInOperand (earlier.map Lexeme.kind)
      (closes → rejection = .error (.failed (.unexpectedToken lexeme "")) ∧
        ∃ next, ⟨state, lexeme.kind, next⟩ ∈ plan.paths ∧
          route = routeOf (steps ++ [(lexeme.kind, next)])) ∧
      (¬ closes → rejection =
          .error (.refused (.noPath (toString state) (toString lexeme.kind))) ∧
        (∀ next, ⟨state, lexeme.kind, next⟩ ∉ plan.paths) ∧ route = routeOf steps) := by
  obtain ⟨machine, draft, read, after, stepError, moved, grown, hpasses, hstep, he⟩ :=
    exists_step_of_unexpectedToken h
  obtain ⟨earlier, steps, state, hrecounts⟩ := hpasses.exists_recounts
  obtain ⟨rfl, hcases⟩ := hrecounts.step_error hstep he
  have hroute : route ≠ "" := by
    rcases hcases with ⟨-, -, -, _, -, rfl⟩ | ⟨-, -, rfl⟩ <;> exact routeOf_ne_empty _
  have hprogress : earlier.length = dialect.progress readings := by
    rw [progress_eq]
    refine Eq.trans ?_ hrecounts.progress_eq.symm
    rw [Grammar.progress, hstep, Nat.add_zero]
  have hpath : ∀ next, ⟨state, lexeme.kind, next⟩ ∈ plan.paths ↔ Move state lexeme.kind next :=
    fun next => plan_paths ▸ mem_fans_iff
  refine ⟨hroute, earlier, after, steps, state, machine, draft, hrecounts.readings_eq, hprogress,
    hrecounts.kinds_eq, hrecounts.walk, hpasses, ?_, ?_⟩
  · rw [hrecounts.machine_eq]
  simp only [hstep, hpath]
  constructor
  · rintro ⟨hkind, hends⟩
    rcases hcases with ⟨-, -, rfl, hnext⟩ | ⟨hmove, -, -⟩
    · exact ⟨rfl, hnext⟩
    · obtain ⟨next, hnext⟩ :=
        exists_move_of_complete hkind ((hrecounts.mem_complete_iff hkind).2 hends)
      exact absurd hnext (hmove next)
  · intro hopen
    rcases hcases with ⟨hkind, hstate, -, -⟩ | ⟨hmove, rfl, hsteps⟩
    · exact absurd ⟨hkind, (hrecounts.mem_complete_iff hkind).1 hstate⟩ hopen
    · exact ⟨rfl, hmove, hsteps⟩

theorem endsInOperand_openGroup : EndsInOperand [.parenOpen, .trueWord] := by
  have hgroup : Derives statement [.parenOpen, .trueWord, .parenClose, .semiColon] :=
    .evaluation (.single (.group (.single .trueWord)))
  have hprogram : Derives program ([] ++ _) := .append .empty hgroup
  exact ⟨[.parenOpen], [.trueWord], [.parenClose, .semiColon], rfl, .trueWord, hprogram⟩

/-- The semicolon in the open group follows an operand, and the route tells of it as well. -/
theorem route_of_unexpectedToken_openGroup :
    stock.parseReadings openGroupReadings = .error openGroupError ∧
      ∃ steps state next, steps.map Prod.fst = [.parenOpen, .trueWord] ∧
        Path.Walks plan.paths .start steps state ∧ ⟨state, .semiColon, next⟩ ∈ plan.paths ∧
        openGroupError = .unexpectedToken (.plain .semiColon ";" ⟨1, 6⟩)
          (routeOf (steps ++ [(.semiColon, next)])) := by
  obtain ⟨-, earlier, after, steps, state, machine, draft, hreadings, -, hkinds, hwalk, -, -,
    hcloses, -⟩ := route_of_unexpectedToken parseReadings_openGroup
  have hearlier : earlier.map Lexeme.kind = [.parenOpen, .trueWord] := by
    have hfilter : openGroupReadings.filter matters =
        [.ok (.plain .parenOpen "(" ⟨1, 1⟩), .ok (.plain .trueWord "true" ⟨1, 2⟩),
          .ok (.plain .semiColon ";" ⟨1, 6⟩), .ok (.plain .number "2" ⟨1, 8⟩)] := by decide
    rw [hfilter] at hreadings
    rcases earlier with - | ⟨first, - | ⟨second, - | ⟨third, - | ⟨fourth, rest⟩⟩⟩⟩ <;>
      simp [Lexeme.plain] at hreadings ⊢
    obtain ⟨rfl, rfl, -⟩ := hreadings
    exact ⟨rfl, rfl⟩
  rw [hearlier] at hkinds hcloses
  obtain ⟨-, next, hpath, hroute⟩ := hcloses ⟨by decide, endsInOperand_openGroup⟩
  exact ⟨parseReadings_openGroup, steps, state, next, hkinds, hwalk, hpath,
    congrArg (ParseError.unexpectedToken _) hroute⟩

end Dialect

end Scriptlet
