/-
# Errors of state machines

What can go wrong while a machine is declared and while it runs. States and labels appear as they
are printed, whatever their types.
-/

namespace Scriptlet

/-- A refused declaration or a refused move of a state machine. -/
inductive MachineError
  /-- No path mentions the state. -/
  | unknownState (state : String)
  /-- There is a path out of the state under the label already. -/
  | pathExists (origin label : String)
  /-- The label has an action already. -/
  | actionExists (label : String)
  /-- There is no path out of the state under the label. -/
  | noPath (origin label : String)
  /-- The machine has finished. -/
  | finished
  /-- The machine may not finish in the state. -/
  | notAccepting (state : String)
  deriving DecidableEq

namespace MachineError

/-- What a message says about a machine error. -/
def message : MachineError → String
  | unknownState state => s!"Unknown state {state}"
  | pathExists origin label => s!"Path \"{label}\" already exists from \"{origin}\""
  | actionExists label => s!"A transition callback for \"{label}\" is already registered"
  | noPath origin label => s!"Don't know how to move from {origin} via path {label}"
  | finished => "Machine cannot be used once it has finished"
  | notAccepting state => s!"Cannot accept final state {state}"

/-- The code that identifies a machine error. -/
def code : MachineError → String
  | unknownState _ => "jaslang::fsm::unknown_state"
  | pathExists .. => "jaslang::fsm::path_exists"
  | actionExists _ => "jaslang::fsm::duplicate_callback"
  | noPath .. => "jaslang::fsm::invalid_transition"
  | finished => "jaslang::fsm::unusable"
  | notAccepting _ => "jaslang::fsm::unacceptable_finish"

end MachineError

end Scriptlet
