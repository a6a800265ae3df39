/-
# Parsing takes no notice of places

The places of lexemes are handed through from the readings to the tree or the error, and nothing is
decided by them. So when readings are given other places, the parse of them is the parse of the old
ones, with the places changed in the same way.
-/

import Scriptlet.Proofs.Following

namespace Scriptlet

open Grammar Phrase

/-- What a parse comes to, at other places. -/
def Program.relocateResult (change : Position → Position) :
    Except ParseError Program → Except ParseError Program
  | .ok parsed => .ok (parsed.relocate change)
  | .error e => .error (e.relocate change)

variable {operators : OperatorTable} {machine : Running} {lexeme : Lexeme} {item : Reading}
  {e e' : ParseError}

/-! ## Rejections -/

theorem Complaint.relocate (h : Complaint operators lexeme e) (change : Position → Position) :
    Complaint operators (lexeme.relocate change) (e.relocate change) := by
  cases h with
  | nesting hkind => exact .nesting hkind
  | number hkind hvalue => exact .number hkind hvalue
  | operator hkind hsymbol => exact .operator hkind hsymbol

/-- A route is put into a complaint wherever its lexeme stands. -/
theorem Complaint.relocate_onLexeme (h : Complaint operators lexeme e)
    (change : Position → Position) (route : String) :
    ((StepError.failed e).onLexeme lexeme route).relocate change =
      (StepError.failed (e.relocate change)).onLexeme (lexeme.relocate change) route := by
  cases h <;> rfl

namespace Grammar.Rejects

/-- What is rejected is rejected in the same way at another place. -/
theorem relocate (h : Rejects operators machine item e) (change : Position → Position) :
    Rejects operators machine (Reading.relocate change item) (e.relocate change) := by
  cases h with
  | scan => exact .scan
  | path hat hmove => exact .path hat hmove
  | action hat hmove hcomplaint =>
      rw [hcomplaint.relocate_onLexeme]
      exact .action hat hmove (hcomplaint.relocate change)

/-- A reading is rejected in one way only, whatever the operators are. -/
theorem unique {others : OperatorTable} (h : Rejects operators machine item e)
    (h' : Rejects others machine item e') : e = e' := by
  cases h with
  | scan =>
      cases h'
      rfl
  | path hat hmove =>
      cases h' with
      | path => rfl
      | action hat' hmove' =>
          obtain rfl := hat.state.symm.trans hat'.state
          exact absurd hmove' (hmove _)
  | action hat hmove hcomplaint =>
      cases h' with
      | path hat' hmove' =>
          obtain rfl := hat.state.symm.trans hat'.state
          exact absurd hmove (hmove' _)
      | action hat' hmove' hcomplaint' =>
          obtain rfl := hat.state.symm.trans hat'.state
          have hnext := (target?_plan_eq_some_iff.2 hmove).symm.trans
            (target?_plan_eq_some_iff.2 hmove')
          cases hnext
          rw [hcomplaint.eq_complaint, hcomplaint'.eq_complaint]

end Grammar.Rejects

/-! ## Parsing -/

namespace Dialect

variable {dialect : Dialect} {readings other : List Reading} {change : Position → Position}

/-- Readings that are those of another source at other places, white space aside, parse as those do,
at the other places. -/
theorem parseReadings_relocate (hother : other.filter matters =
      (readings.filter matters).map (Reading.relocate change)) :
    dialect.parseReadings other =
      Program.relocateResult change (dialect.parseReadings readings) := by
  have hwhole : other.filter matters = [].map .ok ++ _ := hother
  cases h : dialect.parseReadings readings with
  | ok parsed =>
      have hnone : Program.IsCanonical dialect.operators ⟨[]⟩ := nofun
      exact parseReadings_append_relocate hwhole hnone .nil h
  | error e =>
      have hnone : IsReading dialect.operators [] .program :=
        isReading_program_iff.2 ⟨by simp, .empty⟩
      obtain ⟨e', hresult, ⟨before, item, hrejects, hrejects'⟩ | ⟨place, rfl, rfl⟩⟩ :=
        exists_error_of_append_relocate hwhole hnone h
      · rw [List.nil_append, walk_map_relocate] at hrejects'
        rw [hresult, hrejects'.unique (hrejects.relocate change)]
        rfl
      · exact hresult

end Dialect

end Scriptlet
