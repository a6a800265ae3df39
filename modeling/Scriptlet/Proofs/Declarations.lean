/-
# Declarations in a row

A blueprint is made by declarations one after the other. A declaration that is refused does not end
the row: what it has left stands, and the next one goes on from there. Whatever the declarations
are, they never leave two paths out of one state under one label, so a look-up finds the path that
has been declared; the actions of a state stand in the order in which they were registered, and the
action of a label is the first that was.
-/

import Scriptlet.Proofs.Declaring

namespace Scriptlet

namespace Action

variable {C E : Type}

/-- What every action of a list keeps, the list keeps, whether it is run to its end or not. -/
theorem all_keeps {P : C → Prop} {actions : List (Action C E)} {context : C}
    (hactions : ∀ action ∈ actions, ∀ context, P context → P (action context).2)
    (hcontext : P context) : P (all actions context).2 := by
  induction actions generalizing context with
  | nil => exact hcontext
  | cons action rest ih =>
      rw [List.forall_mem_cons] at hactions
      have hleft := hactions.1 context hcontext
      rcases haction : action context with ⟨_ | _, left⟩
      · rw [all_cons_of_error haction]
        simpa [haction] using hleft
      · rw [all_cons_of_ok haction]
        exact ih hactions.2 (by simpa [haction] using hleft)

end Action

/-- One declaration about a machine. -/
inductive Declaration (σ ℓ C E : Type)
  /-- There is a path from a state to another under a label. -/
  | path (origin : σ) (label : ℓ) (target : σ)
  /-- There is a path to a state under a label from each of the given states. -/
  | paths (origins : List σ) (label : ℓ) (target : σ)
  /-- An action is to run whenever a state is entered. -/
  | entering (state : σ) (action : Action C E)
  /-- An action is to run whenever a label is taken. -/
  | taking (label : ℓ) (action : Action C E)
  /-- The machine may finish in a state. -/
  | accepting (state : σ)

variable {σ ℓ C E : Type} [DecidableEq σ] [DecidableEq ℓ] [ToString σ] [ToString ℓ]

/-- Makes a declaration. -/
def Declaration.run : Declaration σ ℓ C E → Action (Blueprint σ ℓ C E) MachineError
  | path origin label target => Blueprint.path origin label target
  | paths origins label target => Blueprint.pathsFrom origins label target
  | entering state action => Blueprint.whenEntering state action
  | taking label action => Blueprint.whenTaking label action
  | accepting state => Blueprint.accept state

/-- The actions that a declaration registers for the entering of a state: none, if the state is not
known. -/
def Declaration.registers (state : σ) (blueprint : Blueprint σ ℓ C E) :
    Declaration σ ℓ C E → List (Action C E)
  | entering entered action =>
    if entered = state ∧ entered ∈ blueprint.states then [action] else []
  | _ => []

/-- The action that a declaration gives to a label. -/
@[simp]
def Declaration.labelActions : Declaration σ ℓ C E → List (ℓ × Action C E)
  | taking label action => [(label, action)]
  | _ => []

namespace Blueprint

/-- The blueprint after declarations, refused ones among them. -/
def declare (blueprint : Blueprint σ ℓ C E) (declarations : List (Declaration σ ℓ C E)) :
    Blueprint σ ℓ C E :=
  declarations.foldl (fun blueprint declaration => (declaration.run blueprint).2) blueprint

/-- The actions that declarations register for the entering of a state, in order. -/
def registered (state : σ) (blueprint : Blueprint σ ℓ C E) :
    List (Declaration σ ℓ C E) → List (Action C E)
  | [] => []
  | declaration :: rest =>
    declaration.registers state blueprint ++ registered state (declaration.run blueprint).2 rest

variable {blueprint : Blueprint σ ℓ C E}

theorem declare_cons (declaration : Declaration σ ℓ C E)
    (declarations : List (Declaration σ ℓ C E)) :
    blueprint.declare (declaration :: declarations) =
      (declaration.run blueprint).2.declare declarations :=
  rfl

/-! ## Paths -/

theorem pairwise_apart_path (hapart : blueprint.paths.Pairwise Path.Apart) (origin : σ) (label : ℓ)
    (target : σ) : (path origin label target blueprint).2.paths.Pairwise Path.Apart := by
  have hpaths : ((blueprint.mention origin).mention target).paths = blueprint.paths := by
    rw [mention_eq target, mention_eq origin]
  unfold path
  dsimp only
  split
  · exact hpaths ▸ hapart
  · next hnone =>
      rw [target?_eq_none_iff, hpaths] at hnone
      rw [hpaths, List.pairwise_append]
      refine ⟨hapart, List.pairwise_singleton _ _, fun other hother declared hdeclared => ?_⟩
      rw [List.mem_singleton.1 hdeclared]
      rintro ⟨rfl, rfl⟩
      exact hnone other.target hother

/-- No declaration leaves two paths out of one state under one label. -/
theorem pairwise_apart_run (hapart : blueprint.paths.Pairwise Path.Apart)
    (declaration : Declaration σ ℓ C E) :
    (declaration.run blueprint).2.paths.Pairwise Path.Apart := by
  cases declaration with
  | path origin label target => exact pairwise_apart_path hapart origin label target
  | paths origins label target =>
      refine Action.all_keeps
        (P := fun blueprint : Blueprint σ ℓ C E => blueprint.paths.Pairwise Path.Apart) ?_ hapart
      intro action haction blueprint hapart
      obtain ⟨origin, -, rfl⟩ := List.mem_map.1 haction
      exact pairwise_apart_path hapart origin label target
  | entering state action =>
      rw [Declaration.run, whenEntering]
      split <;> exact hapart
  | taking label action =>
      rw [Declaration.run, whenTaking]
      split <;> exact hapart
  | accepting state =>
      rw [Declaration.run, accept]
      split <;> exact hapart

theorem pairwise_apart_declare (hapart : blueprint.paths.Pairwise Path.Apart)
    (declarations : List (Declaration σ ℓ C E)) :
    (blueprint.declare declarations).paths.Pairwise Path.Apart := by
  induction declarations generalizing blueprint with
  | nil => exact hapart
  | cons declaration rest ih => exact ih (pairwise_apart_run hapart declaration)

/-! ## The actions of states -/

/-- A path changes neither actions nor the states to finish in, whether it is refused or not. -/
theorem keeps_path (origin : σ) (label : ℓ) (target : σ) (blueprint : Blueprint σ ℓ C E) :
    (path origin label target blueprint).2.labelActions = blueprint.labelActions ∧
      (path origin label target blueprint).2.entryActions = blueprint.entryActions ∧
      (path origin label target blueprint).2.accepting = blueprint.accepting := by
  unfold path
  dsimp only
  split <;> rw [mention_eq target, mention_eq origin] <;> exact ⟨rfl, rfl, rfl⟩

theorem keeps_pathsFrom (origins : List σ) (label : ℓ) (target : σ)
    (blueprint : Blueprint σ ℓ C E) :
    (pathsFrom origins label target blueprint).2.labelActions = blueprint.labelActions ∧
      (pathsFrom origins label target blueprint).2.entryActions = blueprint.entryActions ∧
      (pathsFrom origins label target blueprint).2.accepting = blueprint.accepting := by
  refine Action.all_keeps (P := fun after : Blueprint σ ℓ C E =>
    after.labelActions = blueprint.labelActions ∧ after.entryActions = blueprint.entryActions ∧
      after.accepting = blueprint.accepting) ?_ ⟨rfl, rfl, rfl⟩
  intro action haction after hafter
  obtain ⟨origin, -, rfl⟩ := List.mem_map.1 haction
  obtain ⟨hlabels, hentries, haccepting⟩ := keeps_path origin label target after
  exact ⟨hlabels.trans hafter.1, hentries.trans hafter.2.1, haccepting.trans hafter.2.2⟩

/-- A declaration adds the action that it registers to the actions of a state. -/
theorem actionsOf_run (declaration : Declaration σ ℓ C E) (state : σ) :
    (declaration.run blueprint).2.actionsOf state =
      blueprint.actionsOf state ++ declaration.registers state blueprint := by
  cases declaration with
  | path origin label target =>
      rw [Declaration.run, actionsOf, (keeps_path origin label target blueprint).2.1]
      exact (List.append_nil _).symm
  | paths origins label target =>
      rw [Declaration.run, actionsOf, (keeps_pathsFrom origins label target blueprint).2.1]
      exact (List.append_nil _).symm
  | entering entered action =>
      rw [Declaration.run, whenEntering, Declaration.registers]
      by_cases hknown : entered ∈ blueprint.states
      · simp only [hknown, and_true, if_true]
        by_cases hstate : entered = state <;> simp [actionsOf, hstate]
      · simp [hknown]
  | taking label action =>
      rw [Declaration.run, whenTaking]
      split <;> exact (List.append_nil _).symm
  | accepting accepted =>
      rw [Declaration.run, accept]
      split <;> exact (List.append_nil _).symm

/-- The actions of a state stand in the order in which they were registered. -/
theorem actionsOf_declare (state : σ) (declarations : List (Declaration σ ℓ C E)) :
    (blueprint.declare declarations).actionsOf state =
      blueprint.actionsOf state ++ blueprint.registered state declarations := by
  induction declarations generalizing blueprint with
  | nil => exact (List.append_nil _).symm
  | cons declaration rest ih =>
      rw [declare_cons, ih, actionsOf_run, registered, List.append_assoc]

/-! ## The actions of labels -/

/-- An action that is registered for a label counts if there is none for the label yet. -/
theorem labelAction?_run (declaration : Declaration σ ℓ C E) (label : ℓ) :
    (declaration.run blueprint).2.labelAction? label = (blueprint.labelAction? label).or
      ((declaration.labelActions.find? fun entry => entry.1 = label).map (·.2)) := by
  cases declaration with
  | path origin taken target =>
      rw [Declaration.run, labelAction?, (keeps_path origin taken target blueprint).1]
      exact (Option.or_none).symm
  | paths origins taken target =>
      rw [Declaration.run, labelAction?, (keeps_pathsFrom origins taken target blueprint).1]
      exact (Option.or_none).symm
  | entering state action =>
      rw [Declaration.run, whenEntering]
      split <;> exact (Option.or_none).symm
  | taking taken action =>
      rw [Declaration.run, whenTaking]
      split
      · next hfound =>
          by_cases hlabel : taken = label
          · subst hlabel
            rw [hfound, Option.some_or]
          · simp [hlabel]
      · rw [labelAction?, List.find?_append, Option.map_or, ← labelAction?]
        simp
  | accepting state =>
      rw [Declaration.run, accept]
      split <;> exact (Option.or_none).symm

/-- Of the actions registered for a label the first one is its action, whether the later ones are
refused or not. -/
theorem labelAction?_declare (declarations : List (Declaration σ ℓ C E)) (label : ℓ) :
    (blueprint.declare declarations).labelAction? label = (blueprint.labelAction? label).or
      (((declarations.flatMap Declaration.labelActions).find? fun entry => entry.1 = label).map
        (·.2)) := by
  induction declarations generalizing blueprint with
  | nil => simp [declare]
  | cons declaration rest ih =>
      rw [declare_cons, ih, labelAction?_run, Option.or_assoc, List.flatMap_cons, List.find?_append,
        Option.map_or]

end Blueprint

end Scriptlet
