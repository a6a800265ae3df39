/-
# The history of a parse

A parse goes through one draft after the other, a lexeme at a time, and whatever it comes to, it
comes to at the last of them. A parse that succeeds returns the program of that draft. A parse that
fails stops before a fault of the scanner, is left with what a step that failed has made of its
draft, or has nothing more to read where no program may end.
-/

import Scriptlet.Proofs.Failures

namespace Scriptlet

namespace Grammar

/-! ## The drafts of a run -/

/-- The drafts that a run goes through. If a step fails, the last one is what it leaves. -/
def drafts (machine : Running) (draft : Draft) : List Reading → List Draft
  | [] => [draft]
  | .error _ :: _ => [draft]
  | .ok lexeme :: rest =>
    draft :: match machine.step lexeme.kind (draft.feed lexeme (nextKind? rest)) with
      | (.error _, _, left) => [left]
      | (.ok (), moved, grown) => drafts moved grown rest

/-- How a parse fails: by a fault that is read, by a step, or at the end of what there is to read.
The draft is the one it is left with. -/
inductive Fails (operators : OperatorTable) (readings : List Reading) : ParseError → Draft → Prop
  | fault {machine draft fault rest}
      (h : Passes operators readings machine draft (.error fault :: rest)) :
      Fails operators readings (.scan fault) draft
  | step {machine draft lexeme rest stepError moved left}
      (h : Passes operators readings machine draft (.ok lexeme :: rest))
      (hstep : machine.step lexeme.kind (draft.feed lexeme (nextKind? rest)) =
        (.error stepError, moved, left)) :
      Fails operators readings (stepError.onLexeme lexeme moved.route) left
  | unfinished {machine draft last} (h : Passes operators readings machine draft [])
      (hlast : last ∈ (lexemes readings).getLast?) (hfinish : machine.finish.1 ≠ .ok ()) :
      Fails operators readings (.unterminatedStatement last.position) draft

variable {operators : OperatorTable} {readings rest : List Reading} {machine moved : Running}
  {draft left grown : Draft} {last final : Position} {lexeme : Lexeme} {e : ParseError}
  {stepError : StepError ParseError}

theorem exists_drafts_eq (machine : Running) (draft : Draft) (readings : List Reading) :
    ∃ later, drafts machine draft readings = draft :: later := by
  rcases readings with - | ⟨_ | lexeme, rest⟩
  · exact ⟨_, rfl⟩
  · exact ⟨_, rfl⟩
  · exact ⟨_, rfl⟩

theorem drafts_cons_of_ok
    (hstep : machine.step lexeme.kind (draft.feed lexeme (nextKind? rest)) =
      (.ok (), moved, grown)) :
    drafts machine draft (.ok lexeme :: rest) = draft :: drafts moved grown rest := by
  rw [drafts, hstep]

theorem drafts_cons_of_error
    (hstep : machine.step lexeme.kind (draft.feed lexeme (nextKind? rest)) =
      (.error stepError, moved, left)) :
    drafts machine draft (.ok lexeme :: rest) = [draft, left] := by
  rw [drafts, hstep]

/-- A step that succeeds does not change what a run comes to. -/
theorem getLast?_drafts_cons_of_ok
    (hstep : machine.step lexeme.kind (draft.feed lexeme (nextKind? rest)) =
      (.ok (), moved, grown)) :
    (drafts machine draft (.ok lexeme :: rest)).getLast? = (drafts moved grown rest).getLast? := by
  obtain ⟨later, hlater⟩ := exists_drafts_eq moved grown rest
  rw [drafts_cons_of_ok hstep, hlater, List.getLast?_cons_cons]

/-! ## How a run ends -/

/-- A run that succeeds comes to the draft that it returns, with nothing left to read. -/
theorem Passes.of_run (h : Passes operators readings machine draft rest)
    (hrun : run machine draft last rest = .ok (moved, grown, final)) :
    (drafts machine draft rest).getLast? = some grown ∧
      Passes operators readings moved grown [] := by
  induction rest generalizing machine draft last with
  | nil =>
      cases hrun
      exact ⟨rfl, h⟩
  | cons reading rest ih =>
      cases reading with
      | error fault => cases hrun
      | ok lexeme =>
          rcases hstep : machine.step lexeme.kind (draft.feed lexeme (nextKind? rest)) with
            ⟨stepError | _, moved, grown⟩
          · rw [run, hstep] at hrun
            cases hrun
          · rw [run, hstep] at hrun
            rw [getLast?_drafts_cons_of_ok hstep]
            exact ih (h.step hstep) hrun

/-- A run that fails is left with the last of its drafts. -/
theorem Passes.exists_fails (h : Passes operators readings machine draft rest)
    (hrun : run machine draft last rest = .error e) :
    ∃ left, (drafts machine draft rest).getLast? = some left ∧
      Fails operators readings e left := by
  induction rest generalizing machine draft last with
  | nil => cases hrun
  | cons reading rest ih =>
      cases reading with
      | error fault =>
          cases hrun
          exact ⟨draft, rfl, .fault h⟩
      | ok lexeme =>
          rcases hstep : machine.step lexeme.kind (draft.feed lexeme (nextKind? rest)) with
            ⟨stepError | _, moved, left⟩
          · rw [run, hstep] at hrun
            cases hrun
            exact ⟨left, by rw [drafts_cons_of_error hstep]; rfl, .step h hstep⟩
          · rw [run, hstep] at hrun
            rw [getLast?_drafts_cons_of_ok hstep]
            exact ih (h.step hstep) hrun

end Grammar

/-! ## The drafts of a parse -/

namespace Dialect

open Grammar

variable {dialect : Dialect} {readings : List Reading} {program : Program} {e : ParseError}

/-- The drafts of a parse, from the empty one on. -/
def history (dialect : Dialect) (readings : List Reading) : List Draft :=
  match Grammar.machine with
  | .error _ => []
  | .ok machine => drafts machine (.empty dialect.operators) (readings.filter matters)

theorem history_eq (dialect : Dialect) (readings : List Reading) :
    dialect.history readings =
      drafts ⟨plan, .start, [], false⟩ (.empty dialect.operators) (readings.filter matters) := by
  delta history
  rw [machine_eq]

/-- A parse that succeeds returns the program that the last of its drafts stands for. -/
theorem exists_getLast?_history (h : dialect.parseReadings readings = .ok program) :
    ∃ draft, (dialect.history readings).getLast? = some draft ∧ draft.toProgram = .ok program := by
  rw [parseReadings_eq] at h
  cases hrun : run atStart (.empty dialect.operators) .start (readings.filter matters) with
  | error e =>
      rw [hrun] at h
      cases h
  | ok result =>
      obtain ⟨machine, draft, last⟩ := result
      refine ⟨draft, by rw [history_eq, ((Passes.start machine_eq).of_run hrun).1], ?_⟩
      simp only [hrun, Except.bind] at h
      split at h
      · cases h
      · cases h
      · exact h

/-- A parse that fails does so at the last of its drafts. -/
theorem exists_getLast?_history_of_error (h : dialect.parseReadings readings = .error e) :
    ∃ draft, (dialect.history readings).getLast? = some draft ∧
      Fails dialect.operators readings e draft := by
  have herror := error_at_earliest_reading h
  rw [parseReadings_eq] at h
  rw [history_eq]
  cases hrun : run atStart (.empty dialect.operators) .start (readings.filter matters) with
  | error e' =>
      obtain rfl : e' = e := by simpa [hrun, Except.bind] using h
      exact (Passes.start machine_eq).exists_fails hrun
  | ok result =>
      obtain ⟨machine, draft, last⟩ := result
      obtain ⟨hdraft, hpasses⟩ := (Passes.start machine_eq).of_run hrun
      refine ⟨draft, hdraft, ?_⟩
      have hfinish : machine.finish.1 ≠ .ok () := by
        intro hfinish
        obtain ⟨program, hprogram⟩ := hpasses.exists_program hfinish
        simp [hrun, Except.bind, hfinish, hprogram] at h
      obtain ⟨state, lexemes, hat, -⟩ := hpasses.exists_reached
      have hstate : state ∉ State.beginnings := fun hstate => by
        simp [hat.finish, hstate] at hfinish
      obtain rfl : .unterminatedStatement last = e := by
        simpa [hrun, Except.bind, hat.finish, hstate] using h
      obtain ⟨final, hfinal, rfl⟩ := (herror.1 last rfl).1
      exact .unfinished hpasses hfinal hfinish

end Dialect

end Scriptlet
