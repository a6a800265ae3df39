/-
# What a history of declarations comes to

A blueprint is told here from the history of the declarations alone, refused ones among them. Only
the paths that have been tried matter for what is declared next: those of all declarations, where a
declaration of several paths stops after the first that is refused. Of the paths tried out of one
state under one label the first is the one declared, and a state is known once a path that mentions
it has been tried. Actions and states to finish in are those of the declarations that succeed.
-/

import Scriptlet.Proofs.Reordering

namespace Scriptlet

variable {σ ℓ C E : Type}

namespace Path

/-- Whether some path of a list has a state at one of its ends. -/
def Mentions (paths : List (Path σ ℓ)) (state : σ) : Prop :=
  ∃ path ∈ paths, state = path.origin ∨ state = path.target

variable [DecidableEq σ] [DecidableEq ℓ]

/-- Where the first path of a list out of a state under a label leads. -/
def first? (paths : List (Path σ ℓ)) (state : σ) (label : ℓ) : Option σ :=
  (paths.find? fun path => path.origin = state ∧ path.label = label).map (·.target)

/-- The paths that have been tried after those to a target from several states are tried too, up to
and including the first for which there is an earlier one. -/
def tryFrom (tried : List (Path σ ℓ)) (label : ℓ) (target : σ) : List σ → List (Path σ ℓ)
  | [] => tried
  | origin :: rest =>
    match first? tried origin label with
    | some _ => tried ++ [⟨origin, label, target⟩]
    | none => tryFrom (tried ++ [⟨origin, label, target⟩]) label target rest

end Path

namespace Declaration

variable [DecidableEq σ] [DecidableEq ℓ]

/-- The paths that have been tried after one more declaration. -/
def tryAfter (tried : List (Path σ ℓ)) : Declaration σ ℓ C E → List (Path σ ℓ)
  | path origin label target => tried ++ [⟨origin, label, target⟩]
  | paths origins label target => Path.tryFrom tried label target origins
  | _ => tried

/-- The paths that a history of declarations has tried, in order. -/
def tried (history : List (Declaration σ ℓ C E)) : List (Path σ ℓ) :=
  history.foldl tryAfter []

omit [DecidableEq σ] [DecidableEq ℓ] in
theorem mem_labelActions {declaration : Declaration σ ℓ C E} {label : ℓ} {action : Action C E} :
    (label, action) ∈ declaration.labelActions ↔ declaration = taking label action := by
  cases declaration <;> simp [eq_comm]

omit [DecidableEq σ] [DecidableEq ℓ] in
theorem mem_accepted {declaration : Declaration σ ℓ C E} {state : σ} :
    state ∈ declaration.accepted ↔ declaration = accepting state := by
  cases declaration <;> simp [eq_comm]

/-- The declarations of one path each that lead to a target under a label. -/
def singles (origins : List σ) (label : ℓ) (target : σ) : List (Declaration σ ℓ C E) :=
  origins.map fun origin => path origin label target

end Declaration

namespace Blueprint

variable [DecidableEq σ] [DecidableEq ℓ] [ToString σ] [ToString ℓ]

/-- What declarations return, one after the other. -/
def answers (blueprint : Blueprint σ ℓ C E) :
    List (Declaration σ ℓ C E) → List (Except MachineError Unit)
  | [] => []
  | declaration :: rest =>
    (declaration.run blueprint).1 :: answers (declaration.run blueprint).2 rest

/-- The declarations that succeed when they are made one after the other. -/
def successes (blueprint : Blueprint σ ℓ C E) :
    List (Declaration σ ℓ C E) → List (Declaration σ ℓ C E)
  | [] => []
  | declaration :: rest =>
    match (declaration.run blueprint).1 with
    | .ok () => declaration :: successes (declaration.run blueprint).2 rest
    | .error _ => successes (declaration.run blueprint).2 rest

variable {blueprint : Blueprint σ ℓ C E}

/-! ## Paths that have been tried -/

section

omit [ToString σ] [ToString ℓ]

theorem first?_concat (tried : List (Path σ ℓ)) (path : Path σ ℓ) (state : σ) (label : ℓ) :
    Path.first? (tried ++ [path]) state label = (Path.first? tried state label).or
      (if path.origin = state ∧ path.label = label then some path.target else none) := by
  rw [Path.first?, List.find?_append, Option.map_or]
  congr 1
  by_cases h : path.origin = state ∧ path.label = label <;> simp [h]

omit [DecidableEq σ] [DecidableEq ℓ] in
theorem mentions_concat {tried : List (Path σ ℓ)} {path : Path σ ℓ} {state : σ} :
    Path.Mentions (tried ++ [path]) state ↔
      Path.Mentions tried state ∨ state = path.origin ∨ state = path.target := by
  simp [Path.Mentions, or_and_right, exists_or]

theorem target?_eq_first? (state : σ) (label : ℓ) :
    blueprint.target? state label = Path.first? blueprint.paths state label := rfl

end

theorem path_eq_of_some {origin target other : σ} {label : ℓ}
    (h : blueprint.target? origin label = some other) :
    path origin label target blueprint =
      (.error (.pathExists (toString origin) (toString label)),
        (blueprint.mention origin).mention target) := by
  have hknown : ((blueprint.mention origin).mention target).target? origin label = some other := by
    rw [mention_eq target, mention_eq origin]
    exact h
  simp only [path, hknown]

theorem path_eq_of_none {origin target : σ} {label : ℓ}
    (h : blueprint.target? origin label = none) :
    path origin label target blueprint =
      (.ok (), { (blueprint.mention origin).mention target with
        paths := blueprint.paths ++ [⟨origin, label, target⟩] }) := by
  have hpaths : ((blueprint.mention origin).mention target).paths = blueprint.paths := by
    rw [mention_eq target, mention_eq origin]
  have hknown : ((blueprint.mention origin).mention target).target? origin label = none := by
    rw [target?_eq_first?, hpaths]
    exact h
  simp only [path, hknown, hpaths]

/-- A refused path changes no declared path. -/
theorem paths_path_of_some {origin target other : σ} {label : ℓ}
    (h : blueprint.target? origin label = some other) :
    (path origin label target blueprint).2.paths = blueprint.paths := by
  rw [path_eq_of_some h, mention_eq target, mention_eq origin]

theorem pathsFrom_cons_of_error {origin target : σ} {label : ℓ} {left : Blueprint σ ℓ C E}
    {e : MachineError} (h : path origin label target blueprint = (.error e, left))
    (rest : List σ) :
    pathsFrom (origin :: rest) label target blueprint = (.error e, left) :=
  Action.all_cons_of_error h _

theorem pathsFrom_cons_of_ok {origin target : σ} {label : ℓ} {left : Blueprint σ ℓ C E}
    (h : path origin label target blueprint = (.ok (), left)) (rest : List σ) :
    pathsFrom (origin :: rest) label target blueprint = pathsFrom rest label target left :=
  Action.all_cons_of_ok h _

/-- A blueprint whose paths and states are told by the paths that have been tried. -/
structure Tells (tried : List (Path σ ℓ)) (blueprint : Blueprint σ ℓ C E) : Prop where
  target? : ∀ state label, blueprint.target? state label = Path.first? tried state label
  states : ∀ state, state ∈ blueprint.states ↔ Path.Mentions tried state

omit [ToString σ] [ToString ℓ] in
theorem tells_empty : Tells [] (empty : Blueprint σ ℓ C E) :=
  ⟨fun _ _ => rfl, fun state => by simp [empty, Path.Mentions]⟩

/-- A path that is tried counts from then on: the first one as the path, all for the states. -/
theorem Tells.path {tried : List (Path σ ℓ)} (h : Tells tried blueprint) (origin : σ) (label : ℓ)
    (target : σ) :
    Tells (tried ++ [⟨origin, label, target⟩])
      (Blueprint.path origin label target blueprint).2 := by
  have hstates : ∀ state, state ∈ ((blueprint.mention origin).mention target).states ↔
      Path.Mentions (tried ++ [⟨origin, label, target⟩]) state := by
    intro state
    rw [mem_states_mention, mem_states_mention, h.states, mentions_concat, or_assoc]
  cases htarget : blueprint.target? origin label with
  | some other =>
      refine ⟨fun state label' => ?_, ?_⟩
      · rw [target?_eq_first?, paths_path_of_some htarget, ← target?_eq_first?, h.target?,
          first?_concat]
        -- The path tried last is behind the one that its key has already.
        by_cases hkey : origin = state ∧ label = label'
        · obtain ⟨rfl, rfl⟩ := hkey
          rw [← h.target?, htarget, Option.some_or]
        · rw [if_neg hkey, Option.or_none]
      · rw [path_eq_of_some htarget]
        exact hstates
  | none =>
      rw [path_eq_of_none htarget]
      refine ⟨fun state label' => ?_, hstates⟩
      rw [target?_eq_first?, first?_concat, first?_concat, ← target?_eq_first?, h.target?]

/-- Several paths are tried one by one. The induction is on the states that they lead out of. -/
theorem Tells.pathsFrom {tried : List (Path σ ℓ)} (h : Tells tried blueprint) (origins : List σ)
    (label : ℓ) (target : σ) :
    Tells (Path.tryFrom tried label target origins)
      (Blueprint.pathsFrom origins label target blueprint).2 := by
  induction origins generalizing tried blueprint with
  | nil => exact h
  | cons origin rest ih =>
      have hpath := h.path origin label target
      rw [Path.tryFrom, ← h.target?]
      cases htarget : blueprint.target? origin label with
      | some other =>
          rw [path_eq_of_some htarget] at hpath
          rw [pathsFrom_cons_of_error (path_eq_of_some htarget)]
          exact hpath
      | none =>
          rw [path_eq_of_none htarget] at hpath
          rw [pathsFrom_cons_of_ok (path_eq_of_none htarget)]
          exact ih hpath

theorem Tells.run {tried : List (Path σ ℓ)} (h : Tells tried blueprint)
    (declaration : Declaration σ ℓ C E) :
    Tells (declaration.tryAfter tried) (declaration.run blueprint).2 := by
  cases declaration with
  | path origin label target => exact h.path origin label target
  | paths origins label target => exact h.pathsFrom origins label target
  | entering state action =>
      rw [Declaration.run, whenEntering]
      split <;> exact ⟨h.target?, h.states⟩
  | taking label action =>
      rw [Declaration.run, whenTaking]
      split <;> exact ⟨h.target?, h.states⟩
  | accepting state =>
      rw [Declaration.run, accept]
      split <;> exact ⟨h.target?, h.states⟩

theorem Tells.declare {tried : List (Path σ ℓ)} (h : Tells tried blueprint)
    (history : List (Declaration σ ℓ C E)) :
    Tells (history.foldl Declaration.tryAfter tried) (blueprint.declare history) := by
  induction history generalizing tried blueprint with
  | nil => exact h
  | cons declaration rest ih => exact ih (h.run declaration)

/-! ## Several paths at once -/

section

variable {history : List (Declaration σ ℓ C E)} {label : ℓ} {target : σ}

theorem declare_append (first second : List (Declaration σ ℓ C E)) :
    blueprint.declare (first ++ second) = (blueprint.declare first).declare second :=
  List.foldl_append

theorem answers_cons (declaration : Declaration σ ℓ C E) :
    blueprint.answers (declaration :: history) =
      (declaration.run blueprint).1 :: (declaration.run blueprint).2.answers history := rfl

theorem answers_singles_cons {origin : σ} {rest : List σ} {left : Blueprint σ ℓ C E}
    (hpath : path origin label target blueprint = (.ok (), left))
    (hrest : left.answers (Declaration.singles rest label target) =
      rest.map fun _ => .ok ()) :
    blueprint.answers (Declaration.singles (origin :: rest) label target) =
      (origin :: rest).map fun _ => .ok () := by
  rw [Declaration.singles, List.map_cons, answers_cons, List.map_cons]
  simp only [Declaration.run, hpath]
  rw [← hrest, Declaration.singles]

theorem declare_singles_cons {origin : σ} {left : Blueprint σ ℓ C E}
    (hpath : path origin label target blueprint = (.ok (), left)) (rest : List σ) :
    blueprint.declare (Declaration.singles (origin :: rest) label target) =
      left.declare (Declaration.singles rest label target) := by
  rw [Declaration.singles, List.map_cons, declare_cons, Declaration.run, hpath, Declaration.singles]

/-- Declaring several paths is declaring them one by one, to the end or up to and including the
first that is refused. -/
theorem pathsFrom_eq (blueprint : Blueprint σ ℓ C E) (origins : List σ) (label : ℓ) (target : σ) :
    (blueprint.answers (Declaration.singles origins label target) = origins.map (fun _ => .ok ()) ∧
      pathsFrom origins label target blueprint =
        (.ok (), blueprint.declare (Declaration.singles origins label target))) ∨
    ∃ before origin after e left, origins = before ++ origin :: after ∧
      blueprint.answers (Declaration.singles before label target) = before.map (fun _ => .ok ()) ∧
      path origin label target (blueprint.declare (Declaration.singles before label target)) =
        (.error e, left) ∧
      pathsFrom origins label target blueprint = (.error e, left) := by
  induction origins generalizing blueprint with
  | nil => exact .inl ⟨rfl, rfl⟩
  | cons first rest ih =>
      rcases hpath : path first label target blueprint with ⟨e | ⟨⟩, middle⟩
      · rw [pathsFrom_cons_of_error hpath]
        exact .inr ⟨[], first, rest, e, middle, rfl, rfl, hpath, rfl⟩
      · rw [pathsFrom_cons_of_ok hpath]
        rcases ih middle with
          ⟨hanswers, hall⟩ | ⟨before, origin, after, e, left, hsplit, hanswers, hrefused, hall⟩
        · refine .inl ⟨answers_singles_cons hpath hanswers, ?_⟩
          rw [declare_singles_cons hpath]
          exact hall
        · refine .inr ⟨first :: before, origin, after, e, left, by rw [hsplit, List.cons_append],
            answers_singles_cons hpath hanswers, ?_, hall⟩
          rw [declare_singles_cons hpath]
          exact hrefused

end

/-! ## Declarations that succeed -/

/-- A declaration that is refused adds no action and no state to finish in. -/
theorem keeps_of_error {declaration : Declaration σ ℓ C E} {e : MachineError}
    (h : (declaration.run blueprint).1 = .error e) :
    (declaration.run blueprint).2.labelActions = blueprint.labelActions ∧
      (declaration.run blueprint).2.entryActions = blueprint.entryActions ∧
      (declaration.run blueprint).2.accepting = blueprint.accepting := by
  cases declaration with
  | path origin label target => exact keeps_path origin label target blueprint
  | paths origins label target => exact keeps_pathsFrom origins label target blueprint
  | entering state action =>
      rw [Declaration.run, whenEntering] at h ⊢
      split at h <;> cases h
      next hunknown => simp [hunknown]
  | taking label action =>
      rw [Declaration.run, whenTaking] at h ⊢
      split at h <;> cases h
      next hfound => simp
  | accepting state =>
      rw [Declaration.run, accept] at h ⊢
      split at h <;> cases h
      next hunknown => simp [hunknown]

/-- The actions and the states to finish in are those of the declarations that succeed. -/
theorem declare_successes (blueprint : Blueprint σ ℓ C E)
    (history : List (Declaration σ ℓ C E)) :
    (blueprint.declare history).labelActions = blueprint.labelActions ++
        (blueprint.successes history).flatMap Declaration.labelActions ∧
      (blueprint.declare history).entryActions = blueprint.entryActions ++
        (blueprint.successes history).flatMap Declaration.entryActions ∧
      (blueprint.declare history).accepting = blueprint.accepting ++
        (blueprint.successes history).flatMap Declaration.accepted := by
  induction history generalizing blueprint with
  | nil => simp [declare, successes]
  | cons declaration rest ih =>
      rw [declare_cons, successes]
      obtain ⟨hlabels, hentries, haccepting⟩ := ih (declaration.run blueprint).2
      rw [hlabels, hentries, haccepting]
      rcases hresult : (declaration.run blueprint).1 with e | ⟨⟩
      · obtain ⟨hlabels, hentries, haccepting⟩ := keeps_of_error hresult
        rw [hlabels, hentries, haccepting]
        exact ⟨rfl, rfl, rfl⟩
      · have hadds := adds_run (Prod.ext hresult rfl :
          declaration.run blueprint = (.ok (), (declaration.run blueprint).2))
        rw [hadds.labelActions, hadds.entryActions, hadds.accepting]
        simp

/-! ## The history tells everything -/

/-- A blueprint that is what a history of declarations says, and that returns for the next
declaration what the history says. -/
structure IsToldBy (blueprint : Blueprint σ ℓ C E) (history : List (Declaration σ ℓ C E)) :
    Prop where
  /-- The path out of a state under a label is the first that has been tried. -/
  target? : ∀ state label,
    blueprint.target? state label = Path.first? (Declaration.tried history) state label
  /-- A path for which there is none yet is declared. -/
  path_of_none : ∀ origin label target,
    Path.first? (Declaration.tried history) origin label = none →
    (Blueprint.path origin label target blueprint).1 = .ok ()
  /-- A path for which there is one already is refused, and changes no declared path. -/
  path_of_some : ∀ origin label target other,
    Path.first? (Declaration.tried history) origin label = some other →
    (Blueprint.path origin label target blueprint).1 =
        .error (.pathExists (toString origin) (toString label)) ∧
      (Blueprint.path origin label target blueprint).2.paths = blueprint.paths
  /-- Several paths are declared one by one. If there is one already for some of them, the first of
  these ends it: it is refused, and the ones before it stand. -/
  paths : ∀ origins label target,
    (blueprint.answers (Declaration.singles origins label target) = origins.map (fun _ => .ok ()) ∧
      Blueprint.pathsFrom origins label target blueprint =
        (.ok (), blueprint.declare (Declaration.singles origins label target))) ∨
    ∃ before origin after other, origins = before ++ origin :: after ∧
      blueprint.answers (Declaration.singles before label target) = before.map (fun _ => .ok ()) ∧
      Path.first? (Declaration.tried (history ++ Declaration.singles before label target)) origin
        label = some other ∧
      Blueprint.pathsFrom origins label target blueprint = Blueprint.path origin label target
        (blueprint.declare (Declaration.singles before label target)) ∧
      (Blueprint.pathsFrom origins label target blueprint).1 =
        .error (.pathExists (toString origin) (toString label)) ∧
      (Blueprint.pathsFrom origins label target blueprint).2.paths =
        (blueprint.declare (Declaration.singles before label target)).paths
  /-- A state that a tried path mentions is known, and no other state is. -/
  states : ∀ state, state ∈ blueprint.states ↔ Path.Mentions (Declaration.tried history) state
  /-- Whatever is asked about a known state succeeds. -/
  known : ∀ state, Path.Mentions (Declaration.tried history) state →
    (∀ action, (whenEntering state action blueprint).1 = .ok ()) ∧
      (accept state blueprint).1 = .ok () ∧
      blueprint.start state = .ok ⟨blueprint, state, [], false⟩
  /-- Whatever is asked about any other state is refused and changes nothing. -/
  unknown : ∀ state, ¬ Path.Mentions (Declaration.tried history) state →
    (∀ action, whenEntering state action blueprint =
        (.error (.unknownState (toString state)), blueprint)) ∧
      accept state blueprint = (.error (.unknownState (toString state)), blueprint) ∧
      blueprint.start state = .error (.unknownState (toString state))
  /-- The action of a label is the first that has been registered. -/
  labelAction? : ∀ label, blueprint.labelAction? label =
    ((history.flatMap Declaration.labelActions).find? fun entry => entry.1 = label).map (·.2)
  /-- A label for which no action has been registered takes one. -/
  whenTaking_of_notMem : ∀ label action, (∀ earlier, .taking label earlier ∉ history) →
    (whenTaking label action blueprint).1 = .ok ()
  /-- A label for which one has been registered refuses any other. -/
  whenTaking_of_mem : ∀ label action earlier, .taking label earlier ∈ history →
    whenTaking label action blueprint = (.error (.actionExists (toString label)), blueprint)
  /-- The actions of a state are those registered with success, in order. -/
  actionsOf : ∀ state, blueprint.actionsOf state =
    ((((empty : Blueprint σ ℓ C E).successes history).flatMap Declaration.entryActions).filter
      fun entry => entry.1 = state).map (·.2)
  /-- A machine may finish in the states for which that has been declared with success. -/
  accepting : ∀ state, state ∈ blueprint.accepting ↔
    .accepting state ∈ (empty : Blueprint σ ℓ C E).successes history

/-- A blueprint is what the history of its declarations says, whatever they are and whichever of
them are refused. -/
theorem isToldBy_declare (history : List (Declaration σ ℓ C E)) :
    (empty.declare history).IsToldBy history := by
  have htells : Tells (Declaration.tried history) (empty.declare history) :=
    tells_empty.declare history
  obtain ⟨-, hentries, haccepting⟩ := (empty : Blueprint σ ℓ C E).declare_successes history
  have hlabels : ∀ label, (empty.declare history).labelAction? label =
      ((history.flatMap Declaration.labelActions).find? fun entry => entry.1 = label).map
        (·.2) := by
    intro label
    rw [labelAction?_declare]
    exact Option.none_or
  constructor
  case target? => exact htells.target?
  case states => exact htells.states
  case labelAction? => exact hlabels
  case path_of_none =>
    intro origin label target hnone
    rw [path_eq_of_none ((htells.target? origin label).trans hnone)]
  case path_of_some =>
    intro origin label target other hsome
    have htarget := (htells.target? origin label).trans hsome
    exact ⟨congrArg Prod.fst (path_eq_of_some htarget), paths_path_of_some htarget⟩
  case paths =>
    intro origins label target
    rcases pathsFrom_eq (empty.declare history) origins label target with
      hall | ⟨before, origin, after, e, left, hsplit, hanswers, hrefused, hall⟩
    · exact .inl hall
    · right
      rw [← declare_append] at hrefused
      have hbefore : Tells (Declaration.tried (history ++ Declaration.singles before label target))
          (empty.declare (history ++ Declaration.singles before label target)) :=
        tells_empty.declare _
      cases htarget : (empty.declare (history ++ Declaration.singles before label target)).target?
          origin label with
      | none =>
          rw [path_eq_of_none htarget] at hrefused
          cases hrefused
      | some other =>
          refine ⟨before, origin, after, other, hsplit, hanswers, ?_, ?_, ?_, ?_⟩
          · rw [← hbefore.target?, htarget]
          · rw [← declare_append, hall, hrefused]
          · rw [hall, ← hrefused, path_eq_of_some htarget]
          · rw [hall, ← hrefused, paths_path_of_some htarget, declare_append]
  case known =>
    intro state hstate
    have hknown := (htells.states state).2 hstate
    refine ⟨fun action => ?_, ?_, ?_⟩
    · rw [whenEntering, if_pos hknown]
    · rw [accept, if_pos hknown]
    · rw [start, if_pos hknown]
  case unknown =>
    intro state hstate
    have hunknown := (htells.states state).not.2 hstate
    refine ⟨fun action => ?_, ?_, ?_⟩
    · rw [whenEntering, if_neg hunknown]
    · rw [accept, if_neg hunknown]
    · rw [start, if_neg hunknown]
  case whenTaking_of_notMem =>
    intro label action hlabel
    have hnone : (empty.declare history).labelAction? label = none := by
      rw [hlabels, Option.map_eq_none_iff, List.find?_eq_none]
      rintro ⟨taken, earlier⟩ hentry hkey
      obtain ⟨declaration, hmem, hdeclared⟩ := List.mem_flatMap.1 hentry
      obtain rfl : taken = label := by simpa using hkey
      exact hlabel earlier (Declaration.mem_labelActions.1 hdeclared ▸ hmem)
    simp only [whenTaking, hnone]
  case whenTaking_of_mem =>
    intro label action earlier hmem
    have hsome : (empty.declare history).labelAction? label ≠ none := by
      rw [hlabels, ne_eq, Option.map_eq_none_iff, List.find?_eq_none]
      intro hnone
      have hentry : (label, earlier) ∈ history.flatMap Declaration.labelActions :=
        List.mem_flatMap.2 ⟨_, hmem, Declaration.mem_labelActions.2 rfl⟩
      simpa using hnone _ hentry
    obtain ⟨found, hfound⟩ := Option.ne_none_iff_exists'.1 hsome
    simp only [whenTaking, hfound]
  case actionsOf =>
    intro state
    rw [actionsOf, hentries]
    rfl
  case accepting =>
    intro state
    rw [haccepting, List.mem_append, List.mem_flatMap]
    constructor
    · rintro (hmem | ⟨declaration, hmem, hstate⟩)
      · cases hmem
      · exact Declaration.mem_accepted.1 hstate ▸ hmem
    · exact fun hmem => .inr ⟨_, hmem, Declaration.mem_accepted.2 rfl⟩

/-- The third path is refused, as there is one out of its state already, and the fourth is not tried
any more. -/
example : Declaration.tried ([.path 1 'a' 2, .paths [3, 1, 4] 'a' 5] :
    List (Declaration Nat Char Unit Unit)) = [⟨1, 'a', 2⟩, ⟨3, 'a', 5⟩, ⟨1, 'a', 5⟩] := by
  decide

end Blueprint

end Scriptlet
