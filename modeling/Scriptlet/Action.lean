/-
# Actions that can fail part of the way

An action changes a context and may fail while it does so. Nothing is undone: a failure comes with
the context as it was left at that point, and the actions after a failure are not run.
-/

namespace Scriptlet

/-- A change of a context that ends well or with an error, and in both cases leaves a context. -/
abbrev Action (C E : Type) := C → Except E Unit × C

namespace Action

variable {C E : Type}

/-- Changes nothing. -/
def skip : Action C E := fun context => (.ok (), context)

/-- Runs the second action unless the first one fails. -/
def andThen (first second : Action C E) : Action C E := fun context =>
  match first context with
  | (.ok (), left) => second left
  | (.error e, left) => (.error e, left)

/-- Runs actions in order, up to the first that fails. -/
def all : List (Action C E) → Action C E
  | [] => skip
  | action :: rest => andThen action (all rest)

@[simp]
theorem all_nil (context : C) : all ([] : List (Action C E)) context = (.ok (), context) := rfl

theorem all_cons_of_ok {action : Action C E} {context left : C}
    (h : action context = (.ok (), left)) (rest : List (Action C E)) :
    all (action :: rest) context = all rest left := by
  simp [all, andThen, h]

theorem all_cons_of_error {action : Action C E} {context left : C} {e : E}
    (h : action context = (.error e, left)) (rest : List (Action C E)) :
    all (action :: rest) context = (.error e, left) := by
  simp [all, andThen, h]

end Action

end Scriptlet
