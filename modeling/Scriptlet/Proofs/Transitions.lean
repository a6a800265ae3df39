/-
# The grammar machine as a table

The grammar is declared fan by fan. Read as data it is a small table of moves, one rule for each
fan, and each move does one thing to the draft. The route plays no part in what a machine does
next, so a machine under way is known by its state.
-/

import Scriptlet.Proofs.Declaring
import Scriptlet.Syntax.Parse

namespace Scriptlet

namespace Action

variable {C E : Type}

@[simp]
theorem all_singleton (action : Action C E) : all [action] = action := by
  funext context
  simp only [all, andThen, skip]
  cases action context with
  | mk result left => cases result <;> rfl

end Action

namespace Grammar

open Blueprint State

/-- The paths by which a statement may begin, fan by fan. -/
def statementFans : List (List (Path State Kind)) :=
  literals.map (fun (kind, state) => fan beginnings kind state)
    ++ [fan beginnings .identifier statementIdentifier,
      fan beginnings .parenOpen groupOpen,
      fan beginnings .letWord letWord]

/-- The paths by which an operand inside an expression may begin. -/
def operandFans : List (List (Path State Kind)) :=
  literals.map (fun (kind, state) => fan expectant kind state)
    ++ [fan expectant .identifier identifier, fan expectant .parenOpen groupOpen]

/-- The paths from a complete operand. -/
def followingFans : List (List (Path State Kind)) :=
  [fan complete .operator operator, fan complete .semiColon term,
    fan complete .parenClose parenClose, fan complete .comma comma]

/-- The paths of calls, assignments and declarations. -/
def nameFans : List (List (Path State Kind)) :=
  [fan [identifier, statementIdentifier] .parenOpen callOpen,
    fan [callOpen] .parenClose parenClose,
    fan [statementIdentifier] .equals assignment,
    fan [letWord] .identifier letIdentifier,
    fan [letIdentifier] .identifier letTypeIdentifier,
    fan [letTypeIdentifier] .equals letEquals]

/-- The paths of the grammar, fan by fan in the order of their declarations. -/
def fans : List (List (Path State Kind)) :=
  statementFans ++ operandFans ++ followingFans ++ nameFans

/-- The states that do something to the draft when they are entered, and what they do. -/
def entries : List (State × Action Draft ParseError) :=
  [(number, Draft.createNumber), (quoted, Draft.createString),
    (trueWord, Draft.createBoolean), (falseWord, Draft.createBoolean),
    (identifier, Draft.createIdentifier), (statementIdentifier, Draft.createIdentifier),
    (operator, Draft.createOperator), (groupOpen, Draft.createGroup),
    (parenClose, Draft.closeBracket), (assignment, Draft.createAssignment),
    (letWord, Draft.createDeclaration), (letIdentifier, Draft.createBareIdentifier),
    (letTypeIdentifier, Draft.createBareIdentifier)]

/-- The blueprint that the declarations of the grammar leave. -/
@[irreducible]
def plan : Plan := (declarations .empty).2

theorem declares_fan_singleton (origin : State) (label : Kind) (target : State) :
    Declares (C := Draft) (E := ParseError) (path origin label target)
      (fan [origin] label target) :=
  declares_path origin label target

theorem declares_fans :
    Declares (Action.all (statementPaths ++ operandPaths ++ followingPaths ++ namePaths))
      fans.flatten := by
  have hstatement : List.Forall₂ Declares statementPaths statementFans := by
    simp [statementPaths, statementFans, literals, declares_pathsFrom]
  have hoperand : List.Forall₂ Declares operandPaths operandFans := by
    simp [operandPaths, operandFans, literals, declares_pathsFrom]
  have hfollowing : List.Forall₂ Declares followingPaths followingFans := by
    simp [followingPaths, followingFans, declares_pathsFrom]
  have hname : List.Forall₂ Declares namePaths nameFans := by
    simp [namePaths, nameFans, declares_pathsFrom, declares_fan_singleton]
  apply declares_all
  exact List.rel_append (List.rel_append (List.rel_append hstatement hoperand) hfollowing) hname

/-- No two declared paths leave one state under one label. -/
theorem pairwise_apart_fans : fans.flatten.Pairwise Path.Apart := by
  decide +kernel

theorem exists_path_to (state : State) :
    ∃ path ∈ fans.flatten, path.origin = state ∨ path.target = state := by
  cases state <;> decide +kernel

/-- Nothing in the declarations of the grammar clashes. -/
theorem declarations_eq :
    ∃ states, (∀ state, state ∈ states) ∧ declarations .empty =
      (.ok (),
        { states := states
          paths := fans.flatten
          labelActions := [(.semiColon, Draft.closeStatement), (.comma, Draft.closeArgument)]
          entryActions := entries
          accepting := [start, term] }) := by
  obtain ⟨states, -, hends, hpaths⟩ := declares_fans .empty pairwise_apart_fans
  have hknown : ∀ state, state ∈ states := by
    intro state
    obtain ⟨path, hpath, rfl | rfl⟩ := exists_path_to state
    · exact (hends path hpath).1
    · exact (hends path hpath).2
  refine ⟨states, hknown, ?_⟩
  have hactions : actions = entries.map (fun entry => whenEntering entry.1 entry.2)
      ++ [whenTaking .semiColon Draft.closeStatement, whenTaking .comma Draft.closeArgument] := rfl
  rw [declarations, List.append_assoc, Action.all_append, Action.andThen_of_ok hpaths, hactions,
    List.append_assoc, Action.all_append,
    Action.andThen_of_ok (all_whenEntering _ _ fun entry _ => hknown entry.1)]
  simp [Action.all, Action.andThen, Action.skip, whenTaking, labelAction?, accept, hknown, empty]

theorem plan_paths : plan.paths = fans.flatten := by
  obtain ⟨states, -, h⟩ := declarations_eq
  rw [plan, h]

theorem plan_accepting : plan.accepting = [start, term] := by
  obtain ⟨states, -, h⟩ := declarations_eq
  rw [plan, h]

theorem actionsOn_plan (kind : Kind) (state : State) :
    plan.actionsOn kind state =
      (([(.semiColon, Draft.closeStatement), (.comma, Draft.closeArgument)].find?
          fun entry => entry.1 = kind).map (·.2)).toList
        ++ (entries.filter fun entry => entry.1 = state).map (·.2) := by
  obtain ⟨states, -, h⟩ := declarations_eq
  rw [plan, h]
  rfl

/-- The grammar can be started. -/
theorem machine_eq : machine = .ok ⟨plan, start, [], false⟩ := by
  obtain ⟨states, hknown, h⟩ := declarations_eq
  delta machine
  simp [plan, h, Blueprint.start, hknown]

/-! ## Moves -/

/-- The moves of the grammar: what may be read after what, and where that leads. -/
inductive Move : State → Kind → State → Prop
  /-- A literal stands for an operand. -/
  | literal {state kind next} (hstate : state ∈ beginnings ++ expectant)
      (hliteral : (kind, next) ∈ literals) : Move state kind next
  /-- A name at the start of a statement may turn out to be assigned to. -/
  | name {state} (hstate : state ∈ beginnings) : Move state .identifier statementIdentifier
  /-- A name inside an expression. -/
  | innerName {state} (hstate : state ∈ expectant) : Move state .identifier identifier
  /-- A parenthesis in the place of an operand opens a group. -/
  | group {state} (hstate : state ∈ beginnings ++ expectant) : Move state .parenOpen groupOpen
  /-- A parenthesis after a name opens the arguments of a call. -/
  | arguments {state} (hstate : state ∈ [identifier, statementIdentifier]) :
      Move state .parenOpen callOpen
  /-- A call may have no arguments. -/
  | noArguments : Move callOpen .parenClose parenClose
  | operator {state} (hstate : state ∈ complete) : Move state .operator operator
  | argumentEnd {state} (hstate : state ∈ complete) : Move state .comma comma
  | bracketEnd {state} (hstate : state ∈ complete) : Move state .parenClose parenClose
  | statementEnd {state} (hstate : state ∈ complete) : Move state .semiColon term
  | assignment : Move statementIdentifier .equals assignment
  | declaration {state} (hstate : state ∈ beginnings) : Move state .letWord letWord
  | declaredName : Move letWord .identifier letIdentifier
  | declaredType : Move letIdentifier .identifier letTypeIdentifier
  | declaredValue : Move letTypeIdentifier .equals letEquals

theorem mem_fan {origins : List State} {label : Kind} {target : State} {path : Path State Kind} :
    path ∈ fan origins label target ↔
      path.origin ∈ origins ∧ path.label = label ∧ path.target = target := by
  cases path
  simp [fan, eq_comm]

theorem mem_literal_fans {origins : List State} {path : Path State Kind} :
    path ∈ (literals.map fun (kind, state) => fan origins kind state).flatten ↔
      path.origin ∈ origins ∧ (path.label, path.target) ∈ literals := by
  cases path
  simp only [List.mem_flatten, List.mem_map]
  constructor
  · rintro ⟨_, ⟨⟨kind, state⟩, hliteral, rfl⟩, hpath⟩
    obtain ⟨horigin, rfl, rfl⟩ := mem_fan.1 hpath
    exact ⟨horigin, hliteral⟩
  · rintro ⟨horigin, hliteral⟩
    exact ⟨_, ⟨_, hliteral, rfl⟩, mem_fan.2 ⟨horigin, rfl, rfl⟩⟩

theorem mem_fans_iff {path : Path State Kind} :
    path ∈ fans.flatten ↔ Move path.origin path.label path.target := by
  obtain ⟨state, kind, next⟩ := path
  simp only [fans, statementFans, operandFans, followingFans, nameFans, List.flatten_append,
    List.mem_append, mem_literal_fans, List.flatten_cons, List.flatten_nil, List.append_nil,
    mem_fan]
  constructor
  · rintro ((((⟨h, hliteral⟩ | ⟨h, rfl, rfl⟩ | ⟨h, rfl, rfl⟩ | ⟨h, rfl, rfl⟩) | ⟨h, hliteral⟩ |
      ⟨h, rfl, rfl⟩ | ⟨h, rfl, rfl⟩) | ⟨h, rfl, rfl⟩ | ⟨h, rfl, rfl⟩ | ⟨h, rfl, rfl⟩ |
      ⟨h, rfl, rfl⟩) | ⟨h, rfl, rfl⟩ | ⟨h, rfl, rfl⟩ | ⟨h, rfl, rfl⟩ | ⟨h, rfl, rfl⟩ |
      ⟨h, rfl, rfl⟩ | ⟨h, rfl, rfl⟩)
    · exact .literal (List.mem_append_left _ h) hliteral
    · exact .name h
    · exact .group (List.mem_append_left _ h)
    · exact .declaration h
    · exact .literal (List.mem_append_right _ h) hliteral
    · exact .innerName h
    · exact .group (List.mem_append_right _ h)
    · exact .operator h
    · exact .statementEnd h
    · exact .bracketEnd h
    · exact .argumentEnd h
    · exact .arguments h
    · exact List.mem_singleton.1 h ▸ .noArguments
    · exact List.mem_singleton.1 h ▸ .assignment
    · exact List.mem_singleton.1 h ▸ .declaredName
    · exact List.mem_singleton.1 h ▸ .declaredType
    · exact List.mem_singleton.1 h ▸ .declaredValue
  · intro h
    cases h with
    | literal hstate hliteral =>
        rcases List.mem_append.1 hstate with hstate | hstate <;> simp [hstate, hliteral]
    | group hstate => rcases List.mem_append.1 hstate with hstate | hstate <;> simp [hstate]
    | _ => simp [*]

/-- The moves are what the grammar finds when it looks a path up. -/
theorem target?_plan_eq_some_iff {state next : State} {kind : Kind} :
    plan.target? state kind = some next ↔ Move state kind next := by
  rw [target?_eq_some_iff (plan_paths ▸ pairwise_apart_fans), plan_paths, mem_fans_iff]

/-! ## What a move does -/

/-- What entering a state does to the draft. -/
def onEntering : State → Action Draft ParseError
  | number => Draft.createNumber
  | quoted => Draft.createString
  | trueWord | falseWord => Draft.createBoolean
  | identifier | statementIdentifier => Draft.createIdentifier
  | operator => Draft.createOperator
  | groupOpen => Draft.createGroup
  | parenClose => Draft.closeBracket
  | assignment => Draft.createAssignment
  | letWord => Draft.createDeclaration
  | letIdentifier | letTypeIdentifier => Draft.createBareIdentifier
  | .start | term | callOpen | comma | letEquals => Action.skip

/-- What a move does to the draft. -/
def deed (kind : Kind) (next : State) : Action Draft ParseError :=
  match kind with
  | .semiColon => Draft.closeStatement
  | .comma => Draft.closeArgument
  | _ => onEntering next

theorem all_actionsOn_plan {state next : State} {kind : Kind} (h : Move state kind next) :
    Action.all (plan.actionsOn kind next) = deed kind next := by
  rw [actionsOn_plan]
  cases h with
  | literal hstate hliteral =>
      simp only [literals, List.mem_cons, Prod.mk.injEq, List.not_mem_nil, or_false] at hliteral
      rcases hliteral with ⟨rfl, rfl⟩ | ⟨rfl, rfl⟩ | ⟨rfl, rfl⟩ | ⟨rfl, rfl⟩ <;>
        simp [entries, deed, onEntering]
  | _ => simp [entries, deed, onEntering, Action.all]

/-- The grammar under way, in a given state. -/
structure IsAt (machine : Running) (state : State) : Prop where
  blueprint : machine.blueprint = plan
  running : machine.finished = false
  state : machine.state = state

theorem isAt_start : IsAt ⟨plan, start, [], false⟩ start := ⟨rfl, rfl, rfl⟩

/-- The machine after one more move. -/
def moved (machine : Running) (kind : Kind) (next : State) : Running :=
  { machine with steps := (kind, next) :: machine.steps }

theorem IsAt.moved {machine : Running} {state : State} (h : IsAt machine state) (kind : Kind)
    (next : State) : IsAt (moved machine kind next) next :=
  ⟨h.blueprint, h.running, rfl⟩

/-- A move runs its deed, and the machine has moved whether the deed succeeds or fails. -/
theorem step_of_move {machine : Running} {state next : State} {kind : Kind}
    (hat : IsAt machine state) (hmove : Move state kind next) {draft left : Draft}
    {result : Except ParseError Unit} (hdeed : deed kind next draft = (result, left)) :
    machine.step kind draft =
      (result.mapError StepError.failed, moved machine kind next, left) := by
  obtain ⟨blueprint, origin, steps, finished⟩ := machine
  obtain ⟨rfl, rfl, hstate⟩ := hat
  simp only [Machine.step, hstate, target?_plan_eq_some_iff.2 hmove, all_actionsOn_plan hmove,
    hdeed, Bool.false_eq_true, if_false, moved]
  cases result <;> rfl

theorem step_of_not_move {machine : Running} {state : State} {kind : Kind}
    (hat : IsAt machine state) (hmove : ∀ next, ¬ Move state kind next) (draft : Draft) :
    machine.step kind draft =
      (.error (.refused (.noPath (toString state) (toString kind))), machine, draft) := by
  have hnone : plan.target? state kind = none := by
    rw [Option.eq_none_iff_forall_ne_some]
    exact fun next h => hmove next (target?_plan_eq_some_iff.1 h)
  obtain ⟨blueprint, origin, steps, finished⟩ := machine
  obtain ⟨rfl, rfl, hstate⟩ := hat
  simp only [Machine.step, hstate, hnone, Bool.false_eq_true, if_false]

/-- All that a step can do: make a move with its deed, or refuse where there is none. -/
theorem step_cases {machine after : Running} {state : State} {kind : Kind} {draft left : Draft}
    {result : Except (StepError ParseError) Unit} (hat : IsAt machine state)
    (hstep : machine.step kind draft = (result, after, left)) :
    (∃ next outcome, Move state kind next ∧ deed kind next draft = (outcome, left) ∧
      result = outcome.mapError StepError.failed ∧ after = moved machine kind next) ∨
    ((∀ next, ¬ Move state kind next) ∧
      result = .error (.refused (.noPath (toString state) (toString kind))) ∧
      after = machine ∧ left = draft) := by
  by_cases hmove : ∃ next, Move state kind next
  · obtain ⟨next, hmove⟩ := hmove
    rcases hdeed : deed kind next draft with ⟨outcome, grown⟩
    rw [step_of_move hat hmove hdeed] at hstep
    cases hstep
    exact .inl ⟨next, outcome, hmove, hdeed, rfl, rfl⟩
  · have hmove := not_exists.1 hmove
    rw [step_of_not_move hat hmove] at hstep
    cases hstep
    exact .inr ⟨hmove, rfl, rfl, rfl⟩

theorem run_cons_of_ok {machine : Running} {state next : State} {lexeme : Lexeme}
    {draft left : Draft} {readings : List Reading} (hat : IsAt machine state)
    (hmove : Move state lexeme.kind next)
    (hdeed : deed lexeme.kind next (draft.feed lexeme (nextKind? readings)) = (.ok (), left))
    (last : Position) :
    run machine draft last (.ok lexeme :: readings) =
      run (moved machine lexeme.kind next) left lexeme.position readings := by
  rw [run, step_of_move hat hmove hdeed]
  rfl

theorem run_cons_of_error {machine : Running} {state next : State} {lexeme : Lexeme}
    {draft left : Draft} {readings : List Reading} {e : ParseError} (hat : IsAt machine state)
    (hmove : Move state lexeme.kind next)
    (hdeed : deed lexeme.kind next (draft.feed lexeme (nextKind? readings)) = (.error e, left))
    (last : Position) :
    run machine draft last (.ok lexeme :: readings) =
      .error ((StepError.failed e).onLexeme lexeme (moved machine lexeme.kind next).route) := by
  rw [run, step_of_move hat hmove hdeed]
  rfl

theorem run_cons_of_not_move {machine : Running} {state : State} {lexeme : Lexeme}
    (hat : IsAt machine state) (hmove : ∀ next, ¬ Move state lexeme.kind next) (draft : Draft)
    (last : Position) (readings : List Reading) :
    run machine draft last (.ok lexeme :: readings) =
      .error (.unexpectedToken lexeme machine.route) := by
  rw [run, step_of_not_move hat hmove]
  rfl

end Grammar

end Scriptlet
