/-
# Declarations in another order

A machine can be declared in many orders. When no declaration is refused, what is left is what the
declarations say, whatever their order: the paths they declare, the states that these mention, the
actions of labels and the states to finish in. Only the actions of one state are run in the order of
their declarations. So if two lists of declarations differ in nothing but their order, and those
actions keep theirs, the machines cannot be told apart by anything they are asked.
-/

import Mathlib.Data.List.Nodup
import Scriptlet.Proofs.Requests

namespace Scriptlet

variable {σ ℓ C E : Type}

namespace Declaration

/-- The paths that a declaration declares. -/
@[simp]
def declaredPaths : Declaration σ ℓ C E → List (Path σ ℓ)
  | path origin label target => [⟨origin, label, target⟩]
  | paths origins label target => Blueprint.fan origins label target
  | _ => []

/-- The action that a declaration gives to a state. -/
@[simp]
def entryActions : Declaration σ ℓ C E → List (σ × Action C E)
  | entering state action => [(state, action)]
  | _ => []

/-- The state that a declaration lets the machine finish in. -/
@[simp]
def accepted : Declaration σ ℓ C E → List σ
  | accepting state => [state]
  | _ => []

/-- Whether a declaration is about the entering of a state. -/
@[simp]
def enters [DecidableEq σ] (state : σ) : Declaration σ ℓ C E → Bool
  | entering entered _ => entered = state
  | _ => false

end Declaration

namespace Blueprint

/-- What declarations add to a blueprint when none of them is refused. -/
structure Adds (declarations : List (Declaration σ ℓ C E)) (before after : Blueprint σ ℓ C E) :
    Prop where
  states : ∀ state, state ∈ after.states ↔ state ∈ before.states ∨
    ∃ path ∈ declarations.flatMap Declaration.declaredPaths,
      state = path.origin ∨ state = path.target
  paths : after.paths = before.paths ++ declarations.flatMap Declaration.declaredPaths
  labelActions : after.labelActions =
    before.labelActions ++ declarations.flatMap Declaration.labelActions
  entryActions : after.entryActions =
    before.entryActions ++ declarations.flatMap Declaration.entryActions
  accepting : after.accepting = before.accepting ++ declarations.flatMap Declaration.accepted

theorem adds_nil (blueprint : Blueprint σ ℓ C E) : Adds [] blueprint blueprint := by
  constructor <;> simp

theorem Adds.append {first second : List (Declaration σ ℓ C E)}
    {before middle after : Blueprint σ ℓ C E} (hfirst : Adds first before middle)
    (hsecond : Adds second middle after) : Adds (first ++ second) before after := by
  constructor
  · intro state
    rw [hsecond.states, hfirst.states, List.flatMap_append, or_assoc]
    simp only [List.mem_append, or_and_right, exists_or]
  · rw [hsecond.paths, hfirst.paths, List.flatMap_append, List.append_assoc]
  · rw [hsecond.labelActions, hfirst.labelActions, List.flatMap_append, List.append_assoc]
  · rw [hsecond.entryActions, hfirst.entryActions, List.flatMap_append, List.append_assoc]
  · rw [hsecond.accepting, hfirst.accepting, List.flatMap_append, List.append_assoc]

variable [DecidableEq σ]

theorem mem_states_mention {state other : σ} {blueprint : Blueprint σ ℓ C E} :
    other ∈ (blueprint.mention state).states ↔ other ∈ blueprint.states ∨ other = state := by
  unfold mention
  split
  · next hknown =>
      constructor
      · exact .inl
      · rintro (h | rfl)
        · exact h
        · exact hknown
  · simp

variable [DecidableEq ℓ] [ToString σ] [ToString ℓ]

theorem adds_path {origin target : σ} {label : ℓ} {before after : Blueprint σ ℓ C E}
    (h : path origin label target before = (.ok (), after)) :
    Adds [.path origin label target] before after := by
  unfold path at h
  dsimp only at h
  split at h
  · cases h
  · cases h
    constructor
    · intro state
      simp [mem_states_mention, or_assoc]
    all_goals
      rw [mention_eq target, mention_eq origin]
      simp

theorem adds_pathsFrom {origins : List σ} {label : ℓ} {target : σ}
    {before after : Blueprint σ ℓ C E}
    (h : pathsFrom origins label target before = (.ok (), after)) :
    Adds [.paths origins label target] before after := by
  induction origins generalizing before with
  | nil =>
      cases h
      constructor <;> simp [fan]
  | cons origin rest ih =>
      rw [pathsFrom, List.map_cons] at h
      rcases hpath : path origin label target before with ⟨_ | _, middle⟩
      · rw [Action.all_cons_of_error hpath] at h
        cases h
      · rw [Action.all_cons_of_ok hpath] at h
        have hboth := (adds_path hpath).append (ih h)
        exact ⟨hboth.states, hboth.paths, hboth.labelActions, hboth.entryActions, hboth.accepting⟩

/-- A declaration that is not refused adds what it declares. -/
theorem adds_run {declaration : Declaration σ ℓ C E} {before after : Blueprint σ ℓ C E}
    (h : declaration.run before = (.ok (), after)) : Adds [declaration] before after := by
  cases declaration with
  | path origin label target => exact adds_path h
  | paths origins label target => exact adds_pathsFrom h
  | entering state action =>
      rw [Declaration.run, whenEntering] at h
      split at h <;> cases h
      constructor <;> simp
  | taking label action =>
      rw [Declaration.run, whenTaking] at h
      split at h <;> cases h
      constructor <;> simp
  | accepting state =>
      rw [Declaration.run, accept] at h
      split at h <;> cases h
      constructor <;> simp

theorem adds_all {declarations : List (Declaration σ ℓ C E)} {before after : Blueprint σ ℓ C E}
    (h : Action.all (declarations.map Declaration.run) before = (.ok (), after)) :
    Adds declarations before after := by
  induction declarations generalizing before with
  | nil =>
      cases h
      exact adds_nil _
  | cons declaration rest ih =>
      rw [List.map_cons] at h
      rcases hrun : declaration.run before with ⟨_ | _, middle⟩
      · rw [Action.all_cons_of_error hrun] at h
        cases h
      · rw [Action.all_cons_of_ok hrun] at h
        exact (adds_run hrun).append (ih h)

/-! ## Looking up what has been declared -/

/-- No two actions are declared of one label. -/
def HasOneActionEach (blueprint : Blueprint σ ℓ C E) : Prop :=
  (blueprint.labelActions.map Prod.fst).Nodup

section

omit [DecidableEq σ] [ToString σ] [ToString ℓ]

theorem labelAction?_eq_none_iff {blueprint : Blueprint σ ℓ C E} {label : ℓ} :
    blueprint.labelAction? label = none ↔ label ∉ blueprint.labelActions.map Prod.fst := by
  rw [labelAction?, Option.map_eq_none_iff, List.find?_eq_none]
  simp only [decide_eq_true_eq, List.mem_map, not_exists, not_and]

/-- Where labels have one action each, looking an action up and its being declared are the same. -/
theorem labelAction?_eq_some_iff {blueprint : Blueprint σ ℓ C E}
    (hlabels : blueprint.HasOneActionEach) {label : ℓ} {action : Action C E} :
    blueprint.labelAction? label = some action ↔ (label, action) ∈ blueprint.labelActions := by
  have hfound : ∀ found, blueprint.labelAction? label = some found →
      (label, found) ∈ blueprint.labelActions := by
    intro found h
    obtain ⟨⟨other, _⟩, hfind, rfl⟩ := Option.map_eq_some_iff.1 h
    obtain rfl : other = label := by simpa using List.find?_some hfind
    exact List.mem_of_find?_eq_some hfind
  constructor
  · exact hfound action
  · intro h
    cases hlook : blueprint.labelAction? label with
    | none => exact absurd (List.mem_map_of_mem h) (labelAction?_eq_none_iff.1 hlook)
    | some other =>
        cases List.inj_on_of_nodup_map hlabels (hfound other hlook) h rfl
        rfl

end

/-- A declaration that is not refused gives no label a second action. -/
theorem hasOneActionEach_run {declaration : Declaration σ ℓ C E}
    {before after : Blueprint σ ℓ C E} (h : declaration.run before = (.ok (), after))
    (hbefore : before.HasOneActionEach) : after.HasOneActionEach := by
  have hlabels := (adds_run h).labelActions
  unfold HasOneActionEach at hbefore ⊢
  cases declaration with
  | taking label action =>
      have hnone : before.labelAction? label = none := by
        rw [Declaration.run, whenTaking] at h
        split at h
        · cases h
        · assumption
      have hlabel := labelAction?_eq_none_iff.1 hnone
      rw [hlabels, List.map_append]
      refine List.nodup_append.2 ⟨hbefore, List.nodup_singleton _, ?_⟩
      rintro key hkey _ hnew rfl
      obtain rfl : key = label := List.mem_singleton.1 hnew
      exact hlabel hkey
  | _ =>
      rw [hlabels]
      simpa using hbefore

/-- Declarations of which none is refused leave one path for each state and label, and one action
for each label. -/
theorem strict_all {declarations : List (Declaration σ ℓ C E)} {before after : Blueprint σ ℓ C E}
    (h : Action.all (declarations.map Declaration.run) before = (.ok (), after))
    (hapart : before.paths.Pairwise Path.Apart) (hlabels : before.HasOneActionEach) :
    after.paths.Pairwise Path.Apart ∧ after.HasOneActionEach := by
  induction declarations generalizing before with
  | nil =>
      cases h
      exact ⟨hapart, hlabels⟩
  | cons declaration rest ih =>
      rw [List.map_cons] at h
      rcases hrun : declaration.run before with ⟨_ | _, middle⟩
      · rw [Action.all_cons_of_error hrun] at h
        cases h
      · rw [Action.all_cons_of_ok hrun] at h
        have hmiddle := pairwise_apart_run hapart declaration
        rw [hrun] at hmiddle
        exact ih h hmiddle (hasOneActionEach_run hrun hlabels)

/-! ## Blueprints that say the same -/

/-- Whether two blueprints know the same states and say the same of each of them and each label. -/
structure Agrees (first second : Blueprint σ ℓ C E) : Prop where
  states : ∀ state, state ∈ first.states ↔ state ∈ second.states
  target? : ∀ state label, first.target? state label = second.target? state label
  labelAction? : ∀ label, first.labelAction? label = second.labelAction? label
  actionsOf : ∀ state, first.actionsOf state = second.actionsOf state
  accepting : ∀ state, state ∈ first.accepting ↔ state ∈ second.accepting

omit [DecidableEq ℓ] [ToString σ] [ToString ℓ] in
/-- The actions of a state are those of the declarations about the entering of it, in order. -/
theorem Adds.actionsOf {declarations : List (Declaration σ ℓ C E)} {after : Blueprint σ ℓ C E}
    (h : Adds declarations .empty after) (state : σ) :
    after.actionsOf state = ((declarations.filter (Declaration.enters state)).flatMap
      Declaration.entryActions).map Prod.snd := by
  have hentries : (declarations.flatMap Declaration.entryActions).filter
        (fun entry => entry.1 = state) =
      (declarations.filter (Declaration.enters state)).flatMap Declaration.entryActions := by
    clear h
    induction declarations with
    | nil => rfl
    | cons declaration rest ih =>
        rw [List.flatMap_cons, List.filter_append, ih]
        cases declaration with
        | entering entered action =>
            by_cases hstate : entered = state <;> simp [hstate]
        | _ => simp
  rw [Blueprint.actionsOf, h.entryActions, ← hentries]
  rfl

/-- Declarations of which none is refused say the same in every order that keeps the order of the
actions of each state. -/
theorem agrees_of_perm {first second : List (Declaration σ ℓ C E)} (hperm : first.Perm second)
    (horder : ∀ state, first.filter (Declaration.enters state) =
      second.filter (Declaration.enters state)) {one other : Blueprint σ ℓ C E}
    (hone : Action.all (first.map Declaration.run) .empty = (.ok (), one))
    (hother : Action.all (second.map Declaration.run) .empty = (.ok (), other)) :
    one.Agrees other := by
  have hfirst := adds_all hone
  have hsecond := adds_all hother
  obtain ⟨hapart, hlabels⟩ := strict_all hone .nil List.nodup_nil
  obtain ⟨hapart', hlabels'⟩ := strict_all hother .nil List.nodup_nil
  have hpaths : ∀ path, path ∈ first.flatMap Declaration.declaredPaths ↔
      path ∈ second.flatMap Declaration.declaredPaths :=
    fun path => (hperm.flatMap_right _).mem_iff
  constructor
  · intro state
    simp only [hfirst.states, hsecond.states, hpaths]
  · intro state label
    ext target
    simp only [target?_eq_some_iff hapart, target?_eq_some_iff hapart', hfirst.paths,
      hsecond.paths, List.mem_append, hpaths]
  · intro label
    ext action
    simp only [labelAction?_eq_some_iff hlabels, labelAction?_eq_some_iff hlabels',
      hfirst.labelActions, hsecond.labelActions, List.mem_append,
      (hperm.flatMap_right Declaration.labelActions).mem_iff]
  · intro state
    rw [hfirst.actionsOf, hsecond.actionsOf, horder]
  · intro state
    simp only [hfirst.accepting, hsecond.accepting, List.mem_append,
      (hperm.flatMap_right Declaration.accepted).mem_iff]

end Blueprint

/-! ## Machines that cannot be told apart -/

namespace Machine

/-- What can be seen of a machine that has been asked something: what it has returned, the context,
and what it tells of itself. -/
structure Sight (σ C E : Type) where
  results : List (Except (StepError E) Unit)
  context : C
  state : σ
  finished : Bool
  route : String

variable [DecidableEq σ] [DecidableEq ℓ] [ToString σ] [ToString ℓ]

/-- What a machine returns for each of several requests. -/
def results : List (Request ℓ) → Machine σ ℓ C E × C → List (Except (StepError E) Unit)
  | [], _ => []
  | request :: rest, (machine, context) =>
    let (result, left) := machine.answer context request
    result :: results rest left

/-- What is seen of a machine once it has been asked several things. -/
def watch (requests : List (Request ℓ)) (context : C) (machine : Machine σ ℓ C E) : Sight σ C E :=
  let (left, changed) := afterAll requests (machine, context)
  ⟨results requests (machine, context), changed, left.state, left.finished, left.route⟩

theorem watch_nil (context : C) (machine : Machine σ ℓ C E) :
    watch [] context machine =
      ⟨[], context, machine.state, machine.finished, machine.route⟩ := rfl

theorem watch_cons (request : Request ℓ) (rest : List (Request ℓ)) (context : C)
    (machine : Machine σ ℓ C E) :
    watch (request :: rest) context machine =
      let answered := machine.answer context request
      let later := watch rest answered.2.2 answered.2.1
      { later with results := answered.1 :: later.results } := rfl

/-- Two machines that have taken the same steps and whose blueprints agree. -/
structure Alike (first second : Machine σ ℓ C E) : Prop where
  blueprint : first.blueprint.Agrees second.blueprint
  origin : first.origin = second.origin
  steps : first.steps = second.steps
  finished : first.finished = second.finished

namespace Alike

variable {first second : Machine σ ℓ C E}

omit [ToString σ] [ToString ℓ] in
theorem state (h : first.Alike second) : first.state = second.state := by
  rw [Machine.state, Machine.state, h.steps, h.origin]

theorem route (h : first.Alike second) : first.route = second.route := by
  rw [Machine.route, Machine.route, h.steps, h.origin]

/-- Machines that are alike return the same for a request and leave the same context, and they are
alike afterwards. -/
theorem answer (h : first.Alike second) (context : C) (request : Request ℓ) :
    (first.answer context request).1 = (second.answer context request).1 ∧
      (first.answer context request).2.2 = (second.answer context request).2.2 ∧
      (first.answer context request).2.1.Alike (second.answer context request).2.1 := by
  cases hfinished : first.finished with
  | true =>
      rw [answer_of_finished hfinished, answer_of_finished (h.finished ▸ hfinished)]
      exact ⟨rfl, rfl, h⟩
  | false =>
      have hrunning : second.finished = false := h.finished ▸ hfinished
      cases request with
      | take label =>
          have htargets : second.blueprint.target? second.state label =
              first.blueprint.target? first.state label := by
            rw [h.blueprint.target?, h.state]
          cases htarget : first.blueprint.target? first.state label with
          | none =>
              rw [htarget] at htargets
              rw [answer_take_of_none hfinished htarget, answer_take_of_none hrunning htargets,
                h.state]
              exact ⟨rfl, rfl, h⟩
          | some next =>
              rw [htarget] at htargets
              obtain ⟨result, left, hactions⟩ :=
                Action.exists_runs (first.blueprint.actionsOn label next) context
              have hactions' := hactions
              rw [Blueprint.actionsOn, h.blueprint.labelAction?, h.blueprint.actionsOf]
                at hactions'
              rw [answer_take_of_path hfinished htarget hactions,
                answer_take_of_path hrunning htargets hactions']
              exact ⟨rfl, rfl, h.blueprint, h.origin, by rw [h.steps], h.finished⟩
      | finish =>
          have haccepting : first.state ∈ first.blueprint.accepting ↔
              second.state ∈ second.blueprint.accepting := by
            rw [h.blueprint.accepting, h.state]
          rw [answer_finish hfinished, answer_finish hrunning]
          by_cases hstate : first.state ∈ first.blueprint.accepting
          · rw [if_pos hstate, if_pos (haccepting.1 hstate)]
            exact ⟨rfl, rfl, h.blueprint, h.origin, h.steps, rfl⟩
          · rw [if_neg hstate, if_neg (haccepting.not.1 hstate), h.state]
            exact ⟨rfl, rfl, h⟩

/-- Machines that are alike look the same, whatever they are asked. The induction is on the
requests; the machines and the context change under them. -/
theorem watch (h : first.Alike second) (requests : List (Request ℓ)) (context : C) :
    first.watch requests context = second.watch requests context := by
  induction requests generalizing first second context with
  | nil => rw [watch_nil, watch_nil, h.state, h.finished, h.route]
  | cons request rest ih =>
      obtain ⟨hresult, hcontext, halike⟩ := h.answer context request
      simp only [watch_cons, hresult, hcontext, ih halike]

end Alike

end Machine

namespace Blueprint

variable [DecidableEq σ] [DecidableEq ℓ] [ToString σ] [ToString ℓ]

/-- Machines of declarations of which none is refused look the same, whatever they are asked, in
every order of the declarations that keeps the order of the actions of each state. -/
theorem watch_start_eq_of_perm {first second : List (Declaration σ ℓ C E)}
    (hperm : first.Perm second)
    (horder : ∀ state, first.filter (Declaration.enters state) =
      second.filter (Declaration.enters state)) {one other : Blueprint σ ℓ C E}
    (hone : Action.all (first.map Declaration.run) .empty = (.ok (), one))
    (hother : Action.all (second.map Declaration.run) .empty = (.ok (), other))
    (origin : σ) (context : C) (requests : List (Request ℓ)) :
    (one.start origin).map (Machine.watch requests context) =
      (other.start origin).map (Machine.watch requests context) := by
  have hagrees := agrees_of_perm hperm horder hone hother
  unfold start
  by_cases hknown : origin ∈ one.states
  · rw [if_pos hknown, if_pos ((hagrees.states origin).1 hknown)]
    have halike : Machine.Alike ⟨one, origin, [], false⟩ ⟨other, origin, [], false⟩ :=
      ⟨hagrees, rfl, rfl, rfl⟩
    exact congrArg Except.ok (halike.watch requests context)
  · rw [if_neg hknown, if_neg ((hagrees.states origin).not.1 hknown)]

/-! ### A turnstile with a full box -/

/-- What is declared of the coins of a turnstile: one opens it, and it keeps no more than two. -/
def coins : List (Declaration Bool Char Nat String) :=
  [.path false 'c' true, .entering true fun kept => (.ok (), kept + 1),
    .entering true fun kept => if kept ≤ 2 then (.ok (), kept) else (.error "full", 2)]

/-- What is declared of the closing of a turnstile. -/
def pushes : List (Declaration Bool Char Nat String) :=
  [.path true 'p' false, .taking 'p' fun kept => (.ok (), kept), .accepting false]

/-- The coins and the closing of a turnstile can be declared in either order. The states are
mentioned in another order then, and the second coin finds the box full in both. -/
theorem watch_start_eq_of_perm_turnstile : ∃ one other,
    Action.all ((coins ++ pushes).map Declaration.run) .empty = (.ok (), one) ∧
    Action.all ((pushes ++ coins).map Declaration.run) .empty = (.ok (), other) ∧
    one.states = [false, true] ∧ other.states = [true, false] ∧
    (one.start false).map (Machine.watch [.take 'c', .take 'c', .take 'p', .take 'c', .take 'p',
      .finish, .take 'c'] 1) =
    (other.start false).map (Machine.watch [.take 'c', .take 'c', .take 'p', .take 'c', .take 'p',
      .finish, .take 'c'] 1) := by
  have hone : Action.all ((coins ++ pushes).map Declaration.run) .empty =
      (.ok (), Blueprint.empty.declare (coins ++ pushes)) := rfl
  have hother : Action.all ((pushes ++ coins).map Declaration.run) .empty =
      (.ok (), Blueprint.empty.declare (pushes ++ coins)) := rfl
  have horder : ∀ state, (coins ++ pushes).filter (Declaration.enters state) =
      (pushes ++ coins).filter (Declaration.enters state) := by
    rintro (_ | _) <;> rfl
  exact ⟨_, _, hone, hother, rfl, rfl,
    watch_start_eq_of_perm List.perm_append_comm horder hone hother false 1 _⟩

end Blueprint

end Scriptlet
