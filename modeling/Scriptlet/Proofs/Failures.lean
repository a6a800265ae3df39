/-
# Failures that never happen

A parse fails for reasons that lie in its source. The grammar can always be declared, no node that
is put below another is refused by it, and what is turned into a program is complete. A number that
does not denote can only be a word that the dialect gives the kind of numbers to, since all other
numbers are cut off by the scanner.
-/

import Scriptlet.Proofs.Earliest
import Scriptlet.Proofs.Numerals
import Scriptlet.Proofs.Scanning

namespace Scriptlet

open Grammar

/-! ## The configurations of a parse -/

/-- The machine, the draft and the readings to come at each point of a parse that has not failed. -/
inductive Grammar.Passes (operators : OperatorTable) (readings : List Reading) :
    Running → Draft → List Reading → Prop
  | start {machine} (hmachine : Grammar.machine = .ok machine) :
      Passes operators readings machine (.empty operators) (readings.filter matters)
  | step {machine moved draft grown lexeme rest}
      (h : Passes operators readings machine draft (.ok lexeme :: rest))
      (hstep : machine.step lexeme.kind (draft.feed lexeme (nextKind? rest)) =
        (.ok (), moved, grown)) :
      Passes operators readings moved grown rest

variable {operators : OperatorTable} {readings rest : List Reading} {machine moved : Running}
  {draft grown : Draft} {lexeme : Lexeme} {e : ParseError}

/-- A step that succeeds is a move, and keeps a draft in order. -/
theorem Reached.exists_move {state : State} {lexemes : List Lexeme} {after : Running}
    (h : Reached operators (some lexeme.kind) state draft lexemes) (hat : IsAt machine state)
    {lookahead : Option Kind}
    (hstep : machine.step lexeme.kind (draft.feed lexeme lookahead) = (.ok (), after, grown)) :
    ∃ next, Move state lexeme.kind next ∧ after = Grammar.moved machine lexeme.kind next ∧
      Reached operators lookahead next grown (lexemes ++ [lexeme]) := by
  obtain ⟨next, hmove, hdeed, hafter⟩ := exists_move_of_step hat (.ok ()) hstep
  rcases (h.feed lookahead).step rfl hmove with ⟨left, hleft, hnext⟩ | ⟨_, _, herror, -⟩
  · cases hleft.symm.trans hdeed
    exact ⟨next, hmove, hafter, hnext⟩
  · cases herror.symm.trans hdeed

/-- A parse passes through drafts in order only. -/
theorem Grammar.Passes.exists_reached (h : Passes operators readings machine draft rest) :
    ∃ state lexemes, IsAt machine state ∧
      Reached operators (nextKind? rest) state draft lexemes := by
  induction h with
  | start hmachine =>
      rw [machine_eq] at hmachine
      cases hmachine
      exact ⟨.start, [], isAt_start, .empty⟩
  | step _ hstep ih =>
      obtain ⟨state, lexemes, hat, hreached⟩ := ih
      obtain ⟨next, -, rfl, hnext⟩ := hreached.exists_move hat hstep
      exact ⟨next, _, hat.moved _ _, hnext⟩

/-- What an action complains about lies in the lexeme: a closing lexeme without anything to close,
a number that does not denote, or an operator that is not registered. -/
theorem Grammar.Passes.complaint (h : Passes operators readings machine draft (.ok lexeme :: rest))
    (hstep : machine.step lexeme.kind (draft.feed lexeme (nextKind? rest)) =
      (.error (.failed e), moved, grown)) : Complaint operators lexeme e := by
  obtain ⟨state, lexemes, hat, hreached⟩ := h.exists_reached
  obtain ⟨next, hmove, hdeed, -⟩ := exists_move_of_step hat (.error e) hstep
  rcases (hreached.feed _).step rfl hmove with ⟨_, hleft, -⟩ | ⟨_, _, herror, hcomplaint⟩
  · cases hleft.symm.trans hdeed
  · cases herror.symm.trans hdeed
    exact hcomplaint

/-- Where a parse may end, its draft is complete. -/
theorem Grammar.Passes.exists_program (h : Passes operators readings machine draft rest)
    (hfinish : machine.finish.1 = .ok ()) : ∃ program, draft.toProgram = .ok program := by
  obtain ⟨state, lexemes, hat, hreached⟩ := h.exists_reached
  have hstate : state ∈ State.beginnings := by
    by_contra hstate
    simp [hat.finish, hstate] at hfinish
  obtain ⟨program, hprogram, -⟩ := hreached.exists_program hstate
  exact ⟨program, hprogram⟩

/-- A number is rejected as invalid if it does not denote. -/
theorem Grammar.Rejects.exists_number {item : Reading} {text : String} {position : Position}
    (h : Rejects operators machine item (.invalidNumber text position)) :
    ∃ lexeme, item = .ok lexeme ∧ lexeme.kind = .number ∧
      Binary64.ofString? lexeme.value = none := by
  generalize he : ParseError.invalidNumber text position = e at h
  cases h with
  | scan | path => cases he
  | action _ _ hcomplaint =>
      cases hcomplaint with
      | nesting | operator => cases he
      | number hkind hvalue => exact ⟨_, rfl, hkind, hvalue⟩

namespace Dialect

variable {dialect : Dialect}

/-- A parse that does not fail at the end of its readings fails by one that is rejected. -/
theorem exists_rejects (h : dialect.parseReadings readings = .error e)
    (hend : ∀ position, e ≠ .unterminatedStatement position) :
    ∃ machine, ∃ item ∈ readings, Rejects dialect.operators machine item e := by
  rcases exists_stop h with ⟨before, item, after, hreadings, hfails, -⟩ | ⟨_, last, -, hlast, -⟩
  · have hitem : item ∈ readings.filter matters := by simp [hreadings]
    exact ⟨_, item, List.mem_of_mem_filter hitem, hfails.rejects⟩
  · exact absurd hlast (hend _)

/-- An error that is neither about a reading nor about the end is never returned. -/
theorem parseReadings_ne_error (habout : ∀ item, ¬ e.IsAbout item)
    (hend : ∀ position, e ≠ .unterminatedStatement position) :
    dialect.parseReadings readings ≠ .error e := by
  intro h
  obtain ⟨machine, item, -, hrejects⟩ := exists_rejects h hend
  exact habout item hrejects.isAbout

/-- Where no word is a number, no number of a source is invalid. -/
theorem parse_ne_invalidNumber (hwords : dialect.lexicon.HasNoWord .number) (source text : String)
    (position : Position) : dialect.parse source ≠ .error (.invalidNumber text position) := by
  intro h
  obtain ⟨machine, item, hitem, hrejects⟩ := exists_rejects h nofun
  obtain ⟨lexeme, rfl, hkind, hvalue⟩ := hrejects.exists_number
  obtain ⟨lexemes, fault?, hcuts, hreadings⟩ := dialect.lexicon.exists_cuts_start source
  rw [hreadings] at hitem
  have hlexeme : lexeme ∈ lexemes := by
    cases fault? <;> simpa using hitem
  obtain ⟨before, after, rfl⟩ := List.append_of_mem hlexeme
  obtain ⟨c, rest, cut, hscan, rfl⟩ := hcuts.exists_scan
  have hdenotes := Lexicon.ofString?_of_scan hwords hscan hkind
  rw [Cut.lexeme] at hvalue
  simp [hvalue] at hdenotes

/-- A parse fails by its source only. The grammar can be declared; no node is malformed and the
machine is not to blame; actions complain about lexemes and never about a node that does not fit
where it is put; every node that is taken over fits; every draft that a parse ends well with is
complete; and numbers that are scanned denote, where no word is a number. -/
theorem no_internal_failure (dialect : Dialect) :
    (∃ machine, Grammar.machine = .ok machine) ∧
    (∀ readings,
      (∀ construct position,
        dialect.parseReadings readings ≠ .error (.malformedNode construct position)) ∧
      (∀ e, dialect.parseReadings readings ≠ .error (.machine e)) ∧
      (∀ machine draft lexeme rest e moved grown,
        Passes dialect.operators readings machine draft (.ok lexeme :: rest) →
        machine.step lexeme.kind (draft.feed lexeme (nextKind? rest)) =
          (.error (.failed e), moved, grown) → Complaint dialect.operators lexeme e) ∧
      ∀ machine draft, Passes dialect.operators readings machine draft [] →
        machine.finish.1 = .ok () → ∃ program, draft.toProgram = .ok program) ∧
    (∀ (new last : Branch) (inner : Option Branch) (stack left : List Branch),
      takeOver? new.form inner stack = some (last, left) → (new.attach? last).isSome) ∧
    (dialect.lexicon.HasNoWord .number → ∀ source text position,
      dialect.parse source ≠ .error (.invalidNumber text position)) := by
  refine ⟨⟨_, machine_eq⟩, fun readings => ⟨?_, ?_, ?_, ?_⟩, ?_, parse_ne_invalidNumber⟩
  · intro construct position
    exact parseReadings_ne_error (fun item => by cases item <;> exact id) nofun
  · intro e
    exact parseReadings_ne_error (fun item => by cases item <;> exact id) nofun
  · intro machine draft lexeme rest e moved grown hpasses hstep
    exact hpasses.complaint hstep
  · intro machine draft hpasses hfinish
    exact hpasses.exists_program hfinish
  · intro new last inner stack left htakes
    exact attach?_of_takeOver? htakes

theorem no_internal_failure_stock :
    stock.lexicon.HasNoWord .number ∧
      ∀ text position, stock.parse "a = -2. + .5;" ≠ .error (.invalidNumber text position) :=
  ⟨Lexicon.hasNoWord_stock (by decide),
    (no_internal_failure stock).2.2.2 (Lexicon.hasNoWord_stock (by decide)) _⟩

end Dialect

end Scriptlet
