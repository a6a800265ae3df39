/-
# What declarations leave in a blueprint

Declaring is strict, so a list of declarations succeeds exactly as far as nothing in it clashes.
This module says what is left when nothing does: the paths, the actions and the states are those
that were declared, in the order of their declarations. A blueprint that is written down as a list
of declarations can then be read as data, without running its declarations again.
-/

import Mathlib.Data.List.Forall2
import Scriptlet.Machine.Blueprint

namespace Scriptlet

namespace Action

variable {C E : Type}

theorem andThen_of_ok {first : Action C E} {context left : C}
    (h : first context = (.ok (), left)) (second : Action C E) :
    andThen first second context = second left := by
  simp [andThen, h]

/-- Running one list of actions after another is running both as one list. -/
theorem all_append (first second : List (Action C E)) :
    all (first ++ second) = andThen (all first) (all second) := by
  induction first with
  | nil => rfl
  | cons action rest ih =>
      funext context
      simp only [List.cons_append, all, andThen, ih]
      cases action context with
      | mk result left => cases result <;> rfl

end Action

namespace Path

variable {σ ℓ : Type}

/-- Two paths that may be declared of one machine: they leave different states, or under different
labels. -/
def Apart (first second : Path σ ℓ) : Prop :=
  ¬ (first.origin = second.origin ∧ first.label = second.label)

instance [DecidableEq σ] [DecidableEq ℓ] (first second : Path σ ℓ) :
    Decidable (first.Apart second) :=
  inferInstanceAs (Decidable (¬ _))

end Path

namespace Blueprint

variable {σ ℓ C E : Type}

/-- An action that declares the given paths and nothing else, whenever they are apart from each
other and from those declared before. The states at their ends become known. -/
def Declares (action : Action (Blueprint σ ℓ C E) MachineError) (paths : List (Path σ ℓ)) :
    Prop :=
  ∀ blueprint : Blueprint σ ℓ C E, (blueprint.paths ++ paths).Pairwise Path.Apart →
    ∃ states, blueprint.states ⊆ states ∧
      (∀ path ∈ paths, path.origin ∈ states ∧ path.target ∈ states) ∧
      action blueprint =
        (.ok (), { blueprint with states := states, paths := blueprint.paths ++ paths })

theorem declares_skip : Declares (C := C) (E := E) (σ := σ) (ℓ := ℓ) Action.skip [] := by
  intro blueprint _
  exact ⟨blueprint.states, List.Subset.refl _, by simp, by simp [Action.skip]⟩

theorem Declares.andThen {first second : Action (Blueprint σ ℓ C E) MachineError}
    {before after : List (Path σ ℓ)} (hfirst : Declares first before)
    (hsecond : Declares second after) :
    Declares (Action.andThen first second) (before ++ after) := by
  intro blueprint hapart
  rw [← List.append_assoc] at hapart
  obtain ⟨middle, hmiddle, hbefore, hrun⟩ :=
    hfirst blueprint (List.pairwise_append.1 hapart).1
  obtain ⟨states, hstates, hafter, hrun'⟩ := hsecond
    { blueprint with states := middle, paths := blueprint.paths ++ before } hapart
  refine ⟨states, List.Subset.trans hmiddle hstates, ?_, ?_⟩
  · intro path hpath
    rcases List.mem_append.1 hpath with h | h
    · exact ⟨hstates (hbefore path h).1, hstates (hbefore path h).2⟩
    · exact hafter path h
  · rw [Action.andThen_of_ok hrun, hrun', List.append_assoc]

/-- Declarations made in order declare their paths in that order. -/
theorem declares_all {actions : List (Action (Blueprint σ ℓ C E) MachineError)}
    {paths : List (List (Path σ ℓ))} (h : List.Forall₂ Declares actions paths) :
    Declares (Action.all actions) paths.flatten := by
  induction h with
  | nil => exact declares_skip
  | cons hfirst _ ih => exact hfirst.andThen ih

/-- The paths out of each of the given states under one label. -/
def fan (origins : List σ) (label : ℓ) (target : σ) : List (Path σ ℓ) :=
  origins.map fun origin => ⟨origin, label, target⟩

variable [DecidableEq σ]

theorem mem_mention (state : σ) (blueprint : Blueprint σ ℓ C E) :
    state ∈ (blueprint.mention state).states := by
  unfold mention
  split
  · assumption
  · simp

theorem subset_mention (state : σ) (blueprint : Blueprint σ ℓ C E) :
    blueprint.states ⊆ (blueprint.mention state).states := by
  unfold mention
  split
  · exact List.Subset.refl _
  · simp

/-- Making a state known changes nothing but the states. -/
theorem mention_eq (state : σ) (blueprint : Blueprint σ ℓ C E) :
    blueprint.mention state =
      { blueprint with states := (blueprint.mention state).states } := by
  unfold mention
  split <;> rfl

/-- Actions of known states are declared in order. -/
theorem all_whenEntering [ToString σ] (entries : List (σ × Action C E))
    (blueprint : Blueprint σ ℓ C E) (hknown : ∀ entry ∈ entries, entry.1 ∈ blueprint.states) :
    Action.all (entries.map fun entry => whenEntering entry.1 entry.2) blueprint =
      (.ok (), { blueprint with entryActions := blueprint.entryActions ++ entries }) := by
  induction entries generalizing blueprint with
  | nil => simp
  | cons entry rest ih =>
      have hentry : whenEntering entry.1 entry.2 blueprint =
          (.ok (), { blueprint with entryActions := blueprint.entryActions ++ [entry] }) := by
        simp [whenEntering, hknown entry List.mem_cons_self]
      rw [List.map_cons, Action.all_cons_of_ok hentry, ih]
      · simp
      · exact fun other hother => hknown other (List.mem_cons_of_mem _ hother)

variable [DecidableEq ℓ]

/-- Where no path is in the way, a look-up finds the declared path. -/
theorem target?_eq_some_of_mem {blueprint : Blueprint σ ℓ C E}
    (hapart : blueprint.paths.Pairwise Path.Apart) {path : Path σ ℓ}
    (hpath : path ∈ blueprint.paths) :
    blueprint.target? path.origin path.label = some path.target := by
  obtain ⟨before, after, hsplit⟩ := List.append_of_mem hpath
  have hbefore : ∀ other ∈ before, ¬ (other.origin = path.origin ∧ other.label = path.label) := by
    rw [hsplit, List.pairwise_append] at hapart
    exact fun other hother => hapart.2.2 other hother path List.mem_cons_self
  have hnone : before.find?
      (fun other => other.origin = path.origin ∧ other.label = path.label) = none := by
    rw [List.find?_eq_none]
    intro other hother
    simpa using hbefore other hother
  rw [target?, hsplit, List.find?_append, hnone]
  simp

/-- Every path that a look-up finds has been declared. -/
theorem mem_paths_of_target? {blueprint : Blueprint σ ℓ C E} {state : σ} {label : ℓ} {target : σ}
    (h : blueprint.target? state label = some target) :
    ⟨state, label, target⟩ ∈ blueprint.paths := by
  obtain ⟨path, hfind, rfl⟩ := Option.map_eq_some_iff.1 h
  have hkey := List.find?_some hfind
  have hmem := List.mem_of_find?_eq_some hfind
  simp only [decide_eq_true_eq] at hkey
  obtain ⟨rfl, rfl⟩ := hkey
  exact hmem

/-- Where the declared paths are apart, looking a path up and its being declared are the same. -/
theorem target?_eq_some_iff {blueprint : Blueprint σ ℓ C E}
    (hapart : blueprint.paths.Pairwise Path.Apart) {state : σ} {label : ℓ} {target : σ} :
    blueprint.target? state label = some target ↔ ⟨state, label, target⟩ ∈ blueprint.paths :=
  ⟨mem_paths_of_target?, fun h => target?_eq_some_of_mem hapart h⟩

/-- A look-up finds nothing if and only if nothing has been declared. -/
theorem target?_eq_none_iff {blueprint : Blueprint σ ℓ C E} {state : σ} {label : ℓ} :
    blueprint.target? state label = none ↔ ∀ target, ⟨state, label, target⟩ ∉ blueprint.paths := by
  rw [target?, Option.map_eq_none_iff, List.find?_eq_none]
  constructor
  · intro h target htarget
    simpa using h _ htarget
  · rintro h ⟨origin, label', target⟩ hpath
    simp only [decide_eq_true_eq, not_and]
    rintro rfl rfl
    exact h target hpath

variable [ToString σ] [ToString ℓ]

theorem declares_path (origin : σ) (label : ℓ) (target : σ) :
    Declares (C := C) (E := E) (path origin label target) [⟨origin, label, target⟩] := by
  intro blueprint hapart
  have hnone : blueprint.target? origin label = none := by
    rw [target?_eq_none_iff]
    intro other hother
    exact (List.pairwise_append.1 hapart).2.2 _ hother _ List.mem_cons_self ⟨rfl, rfl⟩
  have hknown : ((blueprint.mention origin).mention target).target? origin label = none := by
    rw [mention_eq target, mention_eq origin]
    exact hnone
  refine ⟨((blueprint.mention origin).mention target).states, ?_, ?_, ?_⟩
  · exact List.Subset.trans (subset_mention origin _) (subset_mention target _)
  · simpa using ⟨subset_mention target _ (mem_mention origin _), mem_mention target _⟩
  · simp only [path, hknown]
    rw [mention_eq target, mention_eq origin]

theorem declares_pathsFrom (origins : List σ) (label : ℓ) (target : σ) :
    Declares (C := C) (E := E) (pathsFrom origins label target) (fan origins label target) := by
  induction origins with
  | nil => exact declares_skip
  | cons origin rest ih => exact (declares_path origin label target).andThen ih

end Blueprint

end Scriptlet
