/-
# Blueprints of state machines

A machine is declared piece by piece: labelled paths between named states, actions to run when a
label is taken or a state is entered, and the states it may finish in. Declaring is strict. A
state exists once a path has mentioned it, even a path that is refused; out of one state there is
one path under each label, the first; and a label has one action, the first.
-/

import Scriptlet.Action
import Scriptlet.Machine.Error

namespace Scriptlet

/-- A way from one state to another, taken on a label. -/
structure Path (σ ℓ : Type) where
  origin : σ
  label : ℓ
  target : σ
  deriving DecidableEq

/-- What has been declared of a machine with states `σ` and labels `ℓ`, whose actions change a
context `C` and fail with an `E`. -/
structure Blueprint (σ ℓ C E : Type) where
  /-- The states that some path mentions. -/
  states : List σ
  /-- The paths, in the order they were declared. -/
  paths : List (Path σ ℓ)
  /-- The actions of labels. -/
  labelActions : List (ℓ × Action C E)
  /-- The actions of states, in the order they were declared. -/
  entryActions : List (σ × Action C E)
  /-- The states the machine may finish in. -/
  accepting : List σ

namespace Blueprint

variable {σ ℓ C E : Type}

/-- Nothing has been declared. -/
def empty : Blueprint σ ℓ C E := ⟨[], [], [], [], []⟩

variable [DecidableEq σ] [DecidableEq ℓ]

/-- Where the path out of a state under a label leads. -/
def target? (blueprint : Blueprint σ ℓ C E) (state : σ) (label : ℓ) : Option σ :=
  (blueprint.paths.find? fun path => path.origin = state ∧ path.label = label).map (·.target)

/-- The action of a label. -/
def labelAction? (blueprint : Blueprint σ ℓ C E) (label : ℓ) : Option (Action C E) :=
  (blueprint.labelActions.find? fun entry => entry.1 = label).map (·.2)

/-- The actions of a state, in the order they were declared. -/
def actionsOf (blueprint : Blueprint σ ℓ C E) (state : σ) : List (Action C E) :=
  (blueprint.entryActions.filter fun entry => entry.1 = state).map (·.2)

/-- What runs when a label is taken into a state. -/
def actionsOn (blueprint : Blueprint σ ℓ C E) (label : ℓ) (state : σ) : List (Action C E) :=
  (blueprint.labelAction? label).toList ++ blueprint.actionsOf state

/-- Makes a state known. -/
def mention (state : σ) (blueprint : Blueprint σ ℓ C E) : Blueprint σ ℓ C E :=
  if state ∈ blueprint.states then blueprint
  else { blueprint with states := blueprint.states ++ [state] }

variable [ToString σ] [ToString ℓ]

/-- Declares the path from `origin` to `target` under a label. -/
def path (origin : σ) (label : ℓ) (target : σ) : Action (Blueprint σ ℓ C E) MachineError :=
  fun blueprint =>
    let known := (blueprint.mention origin).mention target
    match known.target? origin label with
    | some _ => (.error (.pathExists (toString origin) (toString label)), known)
    | none => (.ok (), { known with paths := known.paths ++ [⟨origin, label, target⟩] })

/-- Declares the path to `target` under a label out of each of the given states. -/
def pathsFrom (origins : List σ) (label : ℓ) (target : σ) :
    Action (Blueprint σ ℓ C E) MachineError :=
  Action.all (origins.map fun origin => path origin label target)

/-- Declares one more action to run whenever a state is entered. -/
def whenEntering (state : σ) (action : Action C E) : Action (Blueprint σ ℓ C E) MachineError :=
  fun blueprint =>
    if state ∈ blueprint.states then
      (.ok (), { blueprint with entryActions := blueprint.entryActions ++ [(state, action)] })
    else (.error (.unknownState (toString state)), blueprint)

/-- Declares the action to run whenever a label is taken. -/
def whenTaking (label : ℓ) (action : Action C E) : Action (Blueprint σ ℓ C E) MachineError :=
  fun blueprint =>
    match blueprint.labelAction? label with
    | some _ => (.error (.actionExists (toString label)), blueprint)
    | none =>
      (.ok (), { blueprint with labelActions := blueprint.labelActions ++ [(label, action)] })

/-- Lets the machine finish in a state. -/
def accept (state : σ) : Action (Blueprint σ ℓ C E) MachineError := fun blueprint =>
  if state ∈ blueprint.states then
    (.ok (), { blueprint with accepting := blueprint.accepting ++ [state] })
  else (.error (.unknownState (toString state)), blueprint)

end Blueprint

end Scriptlet
