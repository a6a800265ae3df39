/-
# Running state machines

A machine starts in a declared state and moves along declared paths until it finishes. It moves
before it acts: an action that fails leaves the machine where it has moved to. A label without a
path changes nothing. Once it has finished a machine refuses everything.
-/

import Scriptlet.Machine.Blueprint

namespace Scriptlet

/-- A machine under way, or finished. -/
structure Machine (σ ℓ C E : Type) where
  blueprint : Blueprint σ ℓ C E
  /-- The state it started in. -/
  origin : σ
  /-- The labels taken and the states entered, the latest first. -/
  steps : List (ℓ × σ)
  finished : Bool

/-- Why a move of a machine fails: the machine refuses it, or an action fails. -/
inductive StepError (E : Type)
  | refused (e : MachineError)
  | failed (e : E)
  deriving DecidableEq

namespace Blueprint

variable {σ ℓ C E : Type} [DecidableEq σ] [ToString σ]

/-- The machine of a blueprint, started in a state. -/
def start (blueprint : Blueprint σ ℓ C E) (state : σ) :
    Except MachineError (Machine σ ℓ C E) :=
  if state ∈ blueprint.states then .ok ⟨blueprint, state, [], false⟩
  else .error (.unknownState (toString state))

end Blueprint

namespace Machine

variable {σ ℓ C E : Type}

/-- The state a machine is in. -/
def state (machine : Machine σ ℓ C E) : σ :=
  match machine.steps with
  | [] => machine.origin
  | (_, state) :: _ => state

variable [ToString σ] [ToString ℓ]

/-- The labels taken and the states entered since the start, in order. -/
def route (machine : Machine σ ℓ C E) : String :=
  machine.steps.foldr (fun (label, state) told => s!"{told} >>{label}>> {state}")
    s!"ORIGIN: {machine.origin}"

variable [DecidableEq σ] [DecidableEq ℓ]

/-- Takes the path under a label, then runs the action of the label and those of the state
entered, in order, up to the first that fails. -/
def step (label : ℓ) (machine : Machine σ ℓ C E) (context : C) :
    Except (StepError E) Unit × Machine σ ℓ C E × C :=
  if machine.finished then (.error (.refused .finished), machine, context)
  else
    match machine.blueprint.target? machine.state label with
    | none =>
      (.error (.refused (.noPath (toString machine.state) (toString label))), machine, context)
    | some next =>
      let moved := { machine with steps := (label, next) :: machine.steps }
      match Action.all (machine.blueprint.actionsOn label next) context with
      | (.ok (), left) => (.ok (), moved, left)
      | (.error e, left) => (.error (.failed e), moved, left)

/-- Finishes in an accepting state. -/
def finish (machine : Machine σ ℓ C E) : Except MachineError Unit × Machine σ ℓ C E :=
  if machine.finished then (.error .finished, machine)
  else if machine.state ∈ machine.blueprint.accepting then
    (.ok (), { machine with finished := true })
  else (.error (.notAccepting (toString machine.state)), machine)

end Machine

end Scriptlet
