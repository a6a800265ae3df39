/-
# Runs of machines

A machine under way is asked, again and again, to take a label or to finish. What it returns and
what it leaves is told request by request: a label without a path is a request without effect,
while an action that fails leaves the machine moved, with only the actions before it run. Over a
whole run the route is a walk over declared paths. It is known from the requests alone, since
actions have no say in it, and it ends for good with the first request to finish that succeeds.
-/

import Scriptlet.Machine.Run
import Scriptlet.Proofs.Declarations

namespace Scriptlet

namespace Action

variable {C E : Type}

/-- Runs of actions in order, up to the first that fails. -/
inductive Runs : List (Action C E) → C → Except E Unit → C → Prop
  | done {context} : Runs [] context (.ok ()) context
  | next {action rest context middle result left} (haction : action context = (.ok (), middle))
      (hrest : Runs rest middle result left) : Runs (action :: rest) context result left
  | stop {action rest context left e} (haction : action context = (.error e, left)) :
      Runs (action :: rest) context (.error e) left

theorem all_eq_iff {actions : List (Action C E)} {context left : C} {result : Except E Unit} :
    all actions context = (result, left) ↔ Runs actions context result left := by
  constructor
  · intro h
    induction actions generalizing context with
    | nil =>
        cases h
        exact .done
    | cons action rest ih =>
        rcases haction : action context with ⟨_ | _, middle⟩
        · rw [all_cons_of_error haction] at h
          cases h
          exact .stop haction
        · rw [all_cons_of_ok haction] at h
          exact .next haction (ih h)
  · intro h
    induction h with
    | done => rfl
    | next haction _ ih => rw [all_cons_of_ok haction, ih]
    | stop haction => exact all_cons_of_error haction _

theorem exists_runs (actions : List (Action C E)) (context : C) :
    ∃ result left, Runs actions context result left :=
  ⟨_, _, all_eq_iff.1 rfl⟩

end Action

/-- Walks over paths, by the labels taken and the states entered. -/
inductive Path.Walks {σ ℓ : Type} (paths : List (Path σ ℓ)) : σ → List (ℓ × σ) → σ → Prop
  | stay {state} : Walks paths state [] state
  | step {origin state next label steps} (hwalk : Walks paths origin steps state)
      (hpath : ⟨state, label, next⟩ ∈ paths) : Walks paths origin (steps ++ [(label, next)]) next

/-- What a machine can be asked to do. -/
inductive Request (ℓ : Type)
  | take (label : ℓ)
  | finish

variable {σ ℓ C E : Type}

namespace Machine

/-- The route tells the steps in order. -/
theorem route_eq [ToString σ] [ToString ℓ] (machine : Machine σ ℓ C E) :
    machine.route = machine.steps.reverse.foldl
      (fun told (label, state) => s!"{told} >>{label}>> {state}") s!"ORIGIN: {machine.origin}" := by
  rw [List.foldl_reverse]
  rfl

/-- A machine of a blueprint that has walked from a state. -/
structure Roams (blueprint : Blueprint σ ℓ C E) (origin : σ) (machine : Machine σ ℓ C E) :
    Prop where
  walk : Path.Walks blueprint.paths origin machine.steps.reverse machine.state
  origin : machine.origin = origin
  blueprint : machine.blueprint = blueprint

theorem Roams.of_start [DecidableEq σ] [ToString σ] {blueprint : Blueprint σ ℓ C E} {origin : σ}
    {machine : Machine σ ℓ C E} (hstart : blueprint.start origin = .ok machine) :
    machine.Roams blueprint origin ∧ machine.finished = false ∧ machine.steps = [] := by
  unfold Blueprint.start at hstart
  split at hstart <;> cases hstart
  exact ⟨⟨.stay, rfl, rfl⟩, rfl, rfl⟩

end Machine

variable [DecidableEq σ] [DecidableEq ℓ]

/-- The steps that requests make from a state, up to the first that finishes. -/
def Blueprint.journey (blueprint : Blueprint σ ℓ C E) : σ → List (Request ℓ) → List (ℓ × σ)
  | _, [] => []
  | state, .take label :: rest =>
    match blueprint.target? state label with
    | some next => (label, next) :: blueprint.journey next rest
    | none => blueprint.journey state rest
  | state, .finish :: rest =>
    if state ∈ blueprint.accepting then [] else blueprint.journey state rest

variable [ToString σ] [ToString ℓ]

namespace Machine

/-- What a request returns, and the machine and the context that it leaves. -/
def answer (machine : Machine σ ℓ C E) (context : C) :
    Request ℓ → Except (StepError E) Unit × Machine σ ℓ C E × C
  | .take label => machine.step label context
  | .finish => (machine.finish.1.mapError StepError.refused, machine.finish.2, context)

/-- The machine and the context after requests, whatever they return. -/
def afterAll (requests : List (Request ℓ)) (current : Machine σ ℓ C E × C) :
    Machine σ ℓ C E × C :=
  requests.foldl (fun current request => (current.1.answer current.2 request).2) current

/-- What may come of a request: `Answers machine context request result machine' context'`. -/
inductive Answers (machine : Machine σ ℓ C E) (context : C) :
    Request ℓ → Except (StepError E) Unit → Machine σ ℓ C E → C → Prop
  /-- The machine moves, and then the action of the label and those of the state entered are run in
  the order of their declarations, up to the first that fails. -/
  | moves {label next result left} (hrunning : machine.finished = false)
      (hpath : ⟨machine.state, label, next⟩ ∈ machine.blueprint.paths)
      (hactions : Action.Runs ((machine.blueprint.labelAction? label).toList ++
        machine.blueprint.actionsOf next) context result left) :
      Answers machine context (.take label) (result.mapError StepError.failed)
        { machine with steps := (label, next) :: machine.steps } left
  /-- Without a path nothing happens. -/
  | lost {label} (hrunning : machine.finished = false)
      (hpath : ∀ next, ⟨machine.state, label, next⟩ ∉ machine.blueprint.paths) :
      Answers machine context (.take label)
        (.error (.refused (.noPath (toString machine.state) (toString label)))) machine context
  | finishes (hrunning : machine.finished = false)
      (haccepting : machine.state ∈ machine.blueprint.accepting) :
      Answers machine context .finish (.ok ()) { machine with finished := true } context
  | stays (hrunning : machine.finished = false)
      (haccepting : machine.state ∉ machine.blueprint.accepting) :
      Answers machine context .finish
        (.error (.refused (.notAccepting (toString machine.state)))) machine context
  /-- A machine that has finished refuses everything. -/
  | unusable {request} (hfinished : machine.finished = true) :
      Answers machine context request (.error (.refused .finished)) machine context

variable {machine after : Machine σ ℓ C E} {context left : C} {request : Request ℓ}
  {requests : List (Request ℓ)} {result : Except (StepError E) Unit}

/-! ## One request -/

theorem answer_of_finished (hfinished : machine.finished = true) (context : C)
    (request : Request ℓ) :
    machine.answer context request = (.error (.refused .finished), machine, context) := by
  cases request <;> simp [answer, step, finish, hfinished, Except.mapError]

theorem answer_take_of_path (hrunning : machine.finished = false) {label : ℓ} {next : σ}
    (htarget : machine.blueprint.target? machine.state label = some next)
    {result : Except E Unit} (hactions : Action.Runs ((machine.blueprint.labelAction? label).toList
      ++ machine.blueprint.actionsOf next) context result left) :
    machine.answer context (.take label) = (result.mapError StepError.failed,
      { machine with steps := (label, next) :: machine.steps }, left) := by
  have hall : Action.all (machine.blueprint.actionsOn label next) context = (result, left) :=
    Action.all_eq_iff.2 hactions
  simp only [answer, step, hrunning, htarget, hall, Bool.false_eq_true, if_false]
  cases result <;> rfl

theorem answer_take_of_none (hrunning : machine.finished = false) {label : ℓ}
    (htarget : machine.blueprint.target? machine.state label = none) (context : C) :
    machine.answer context (.take label) =
      (.error (.refused (.noPath (toString machine.state) (toString label))), machine,
        context) := by
  simp only [answer, step, hrunning, htarget, Bool.false_eq_true, if_false]

theorem answer_finish (hrunning : machine.finished = false) (context : C) :
    machine.answer context .finish = if machine.state ∈ machine.blueprint.accepting
      then (.ok (), { machine with finished := true }, context)
      else (.error (.refused (.notAccepting (toString machine.state))), machine, context) := by
  simp only [answer, finish, hrunning, Bool.false_eq_true, if_false]
  split <;> rfl

/-- Something comes of every request. -/
theorem answers_answer (machine : Machine σ ℓ C E) (context : C) (request : Request ℓ) :
    Answers machine context request (machine.answer context request).1
      (machine.answer context request).2.1 (machine.answer context request).2.2 := by
  cases hfinished : machine.finished with
  | true =>
      rw [answer_of_finished hfinished]
      exact .unusable hfinished
  | false =>
      cases request with
      | take label =>
          cases htarget : machine.blueprint.target? machine.state label with
          | none =>
              rw [answer_take_of_none hfinished htarget]
              exact .lost hfinished (Blueprint.target?_eq_none_iff.1 htarget)
          | some next =>
              obtain ⟨result, left, hactions⟩ :=
                Action.exists_runs (machine.blueprint.actionsOn label next) context
              rw [answer_take_of_path hfinished htarget hactions]
              exact .moves hfinished (Blueprint.mem_paths_of_target? htarget) hactions
      | finish =>
          rw [answer_finish hfinished]
          by_cases haccepting : machine.state ∈ machine.blueprint.accepting
          · rw [if_pos haccepting]
            exact .finishes hfinished haccepting
          · rw [if_neg haccepting]
            exact .stays hfinished haccepting

/-- What comes of a request is settled, where no two paths leave one state under one label. -/
theorem answer_eq_iff (hapart : machine.blueprint.paths.Pairwise Path.Apart) :
    machine.answer context request = (result, after, left) ↔
      Answers machine context request result after left := by
  constructor
  · intro h
    have hanswers := answers_answer machine context request
    rw [h] at hanswers
    exact hanswers
  · intro h
    cases h with
    | moves hrunning hpath hactions =>
        exact answer_take_of_path hrunning ((Blueprint.target?_eq_some_iff hapart).2 hpath) hactions
    | lost hrunning hpath =>
        exact answer_take_of_none hrunning (Blueprint.target?_eq_none_iff.2 hpath) context
    | finishes hrunning haccepting => rw [answer_finish hrunning, if_pos haccepting]
    | stays hrunning haccepting => rw [answer_finish hrunning, if_neg haccepting]
    | unusable hfinished => exact answer_of_finished hfinished context request

/-! ## A run of requests -/

variable {blueprint : Blueprint σ ℓ C E} {origin : σ}

/-- A request makes the walk longer by one step or leaves it as it is. -/
theorem Roams.answers (h : machine.Roams blueprint origin)
    (hanswers : Answers machine context request result after left) :
    after.Roams blueprint origin := by
  cases hanswers with
  | @moves label next _ _ hrunning hpath =>
      refine ⟨?_, h.origin, h.blueprint⟩
      rw [List.reverse_cons]
      exact .step h.walk (h.blueprint ▸ hpath)
  | finishes => exact ⟨h.walk, h.origin, h.blueprint⟩
  | lost | stays | unusable => exact h

theorem Roams.afterAll (h : machine.Roams blueprint origin) (requests : List (Request ℓ))
    (context : C) : (afterAll requests (machine, context)).1.Roams blueprint origin := by
  induction requests generalizing machine context with
  | nil => exact h
  | cons request rest ih => exact ih (h.answers (answers_answer machine context request)) _

/-- After a machine has finished nothing changes any more. -/
theorem afterAll_of_finished (hfinished : machine.finished = true) (requests : List (Request ℓ))
    (context : C) : afterAll requests (machine, context) = (machine, context) := by
  induction requests with
  | nil => rfl
  | cons request rest ih =>
      rw [afterAll, List.foldl_cons, answer_of_finished hfinished]
      exact ih

/-- The steps of a run are known from the requests. The induction is on the requests; the machine
and the context change under them, and only the state of the machine matters. -/
theorem steps_afterAll (hrunning : machine.finished = false) (requests : List (Request ℓ))
    (context : C) : (afterAll requests (machine, context)).1.steps.reverse =
      machine.steps.reverse ++ machine.blueprint.journey machine.state requests := by
  induction requests generalizing machine context with
  | nil => exact (List.append_nil _).symm
  | cons request rest ih =>
      have hcons : Machine.afterAll (request :: rest) (machine, context) =
          Machine.afterAll rest (machine.answer context request).2 := rfl
      rw [hcons]
      cases request with
      | take label =>
          cases htarget : machine.blueprint.target? machine.state label with
          | none =>
              rw [answer_take_of_none hrunning htarget, ih hrunning, Blueprint.journey, htarget]
          | some next =>
              obtain ⟨result, left, hactions⟩ :=
                Action.exists_runs (machine.blueprint.actionsOn label next) context
              have hmoved : ({ machine with steps := (label, next) :: machine.steps } :
                  Machine σ ℓ C E).finished = false := hrunning
              rw [answer_take_of_path hrunning htarget hactions, ih hmoved, Blueprint.journey,
                htarget, List.reverse_cons, List.append_assoc]
              rfl
      | finish =>
          rw [answer_finish hrunning, Blueprint.journey]
          by_cases haccepting : machine.state ∈ machine.blueprint.accepting
          · rw [if_pos haccepting, if_pos haccepting, afterAll_of_finished rfl, List.append_nil]
          · rw [if_neg haccepting, if_neg haccepting, ih hrunning]

/-- A request to finish that succeeds leaves a machine that has finished. -/
theorem answer_finish_of_ok (h : (machine.answer context .finish).1 = .ok ()) :
    machine.answer context .finish = (.ok (), { machine with finished := true }, context) := by
  cases hfinished : machine.finished with
  | true =>
      rw [answer_of_finished hfinished] at h
      cases h
  | false =>
      rw [answer_finish hfinished] at h ⊢
      split at h
      · next haccepting => rw [if_pos haccepting]
      · cases h

/-- Runs of machines that declarations make. At every point of a run the route is a walk over the
declared paths, with the steps that the requests make and no others. Each request comes to what it
may come to, and to nothing else; the actions that it runs for a state stand in the order in which
they were registered, and the one that it runs for a label is the first that was. After a request to
finish that succeeds, all requests are refused and nothing changes. -/
theorem afterAll_of_start {declarations : List (Declaration σ ℓ C E)}
    (hstart : (Blueprint.empty.declare declarations).start origin = .ok machine) (context : C)
    (requests : List (Request ℓ)) :
    let blueprint := Blueprint.empty.declare declarations
    let current := afterAll requests (machine, context)
    Path.Walks blueprint.paths origin current.1.steps.reverse current.1.state ∧
    current.1.steps.reverse = blueprint.journey origin requests ∧
    current.1.route = (blueprint.journey origin requests).foldl
      (fun told (label, state) => s!"{told} >>{label}>> {state}") s!"ORIGIN: {origin}" ∧
    current.1.blueprint = blueprint ∧
    (∀ state, blueprint.actionsOf state = Blueprint.empty.registered state declarations) ∧
    (∀ label, blueprint.labelAction? label =
      ((declarations.flatMap Declaration.labelActions).find? fun entry => entry.1 = label).map
        (·.2)) ∧
    (∀ request result after left, current.1.answer current.2 request = (result, after, left) ↔
      Answers current.1 current.2 request result after left) ∧
    ((current.1.answer current.2 .finish).1 = .ok () → ∀ later request,
      let last := afterAll (.finish :: later) current
      last = ({ current.1 with finished := true }, current.2) ∧
        last.1.answer last.2 request = (.error (.refused .finished), last)) := by
  intro blueprint current
  obtain ⟨hroams, hrunning, hsteps⟩ := Roams.of_start hstart
  have hcurrent : current.1.Roams blueprint origin := hroams.afterAll requests context
  have hjourney : current.1.steps.reverse = blueprint.journey origin requests := by
    have hstate : machine.state = origin := by
      rw [← hroams.origin, state, hsteps]
    have hreverse := steps_afterAll hrunning requests context
    rwa [hsteps, hroams.blueprint, hstate] at hreverse
  refine ⟨hcurrent.walk, hjourney, ?_, hcurrent.blueprint,
    fun state => Blueprint.actionsOf_declare state declarations,
    fun label => (Blueprint.labelAction?_declare declarations label).trans Option.none_or,
    fun request result after left => ?_, ?_⟩
  · rw [route_eq, hjourney, hcurrent.origin]
  · apply answer_eq_iff
    rw [hcurrent.blueprint]
    exact Blueprint.pairwise_apart_declare .nil declarations
  · intro hfinish later request last
    have hlast : last = ({ current.1 with finished := true }, current.2) := by
      have hcons : last = afterAll later (current.1.answer current.2 .finish).2 := rfl
      rw [hcons, answer_finish_of_ok hfinish]
      exact afterAll_of_finished rfl later current.2
    refine ⟨hlast, ?_⟩
    rw [hlast]
    exact answer_of_finished rfl current.2 request

/-! ### A turnstile -/

/-- A turnstile that a coin opens and a push closes. It keeps two coins at most, and counts how
often it has opened. -/
def turnstile : List (Declaration Bool Char (Nat × Nat) String) :=
  [.path false 'c' true, .path true 'p' false, .path false 'c' false,
    .taking 'c' fun (coins, turns) =>
      if coins < 2 then (.ok (), (coins + 1, turns)) else (.error "full", (coins, turns)),
    .entering true fun (coins, turns) => (.ok (), (coins, turns + 1)),
    .accepting false]

/-- A coin is lost on an open turnstile, the next one finds the box full and opens all the same, but
this is not counted; and the turnstile can be shut down where it is closed. -/
theorem afterAll_of_start_turnstile :
    ∃ machine, (Blueprint.empty.declare turnstile).start false = .ok machine ∧
      (afterAll [.take 'c', .take 'c', .take 'p', .take 'c', .finish, .take 'p', .finish, .take 'c']
        (machine, (1, 0))).1.steps.reverse =
          [('c', true), ('p', false), ('c', true), ('p', false)] ∧
      let current := afterAll [.take 'c', .take 'c', .take 'p'] (machine, (1, 0))
      current.1.answer current.2 (.take 'c') =
        (.error (.failed "full"), { current.1 with steps := ('c', true) :: current.1.steps },
          (2, 1)) := by
  have hstart : (Blueprint.empty.declare turnstile).start false =
      .ok ⟨Blueprint.empty.declare turnstile, false, [], false⟩ := rfl
  refine ⟨_, hstart, (afterAll_of_start hstart (1, 0) _).2.1.trans rfl, ?_⟩
  intro current
  obtain ⟨-, -, -, -, -, -, hanswers, -⟩ :=
    afterAll_of_start hstart (1, 0) [.take 'c', .take 'c', .take 'p']
  have hpath : ⟨current.1.state, 'c', true⟩ ∈ current.1.blueprint.paths := by decide
  have hactions : Action.Runs ((current.1.blueprint.labelAction? 'c').toList ++
      current.1.blueprint.actionsOf true) current.2 (.error "full") (2, 1) :=
    Action.all_eq_iff.1 rfl
  exact (hanswers _ _ _ _).2 (.moves rfl hpath hactions)

end Machine

end Scriptlet
