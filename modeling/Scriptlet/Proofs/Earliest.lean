/-
# Errors are reported as early as possible

A parse that fails does so at the first lexeme after which nothing could make the source good. The
lexemes before it are the beginning of some program, so no earlier lexeme could have been blamed;
and with that lexeme the error is settled, whatever follows. A source that ends too early is itself
the beginning of some program.
-/

import Scriptlet.Proofs.Completion
import Scriptlet.Proofs.Parsing
import Scriptlet.Proofs.Rejection

namespace Scriptlet

open Grammar Mark Phrase

/-- Whether some continuation makes lexemes the reading of a canonical program. -/
def IsBeginning (operators : OperatorTable) (lexemes : List Lexeme) : Prop :=
  ∃ more, IsReading operators (lexemes ++ more) .program

theorem Reached.isBeginning {operators : OperatorTable} {upcoming : Option Kind} {state : State}
    {draft : Draft} {lexemes : List Lexeme} (h : Reached operators upcoming state draft lexemes) :
    IsBeginning operators lexemes := by
  obtain ⟨more, program, hcanonical, hmarks⟩ := h.exists_completion
  exact ⟨more, program, hcanonical, hmarks⟩

namespace Grammar

theorem filter_matters_map_ok {lexemes : List Lexeme}
    (h : .whitespace ∉ lexemes.map Lexeme.kind) :
    (lexemes.map .ok).filter matters = lexemes.map .ok := by
  rw [List.filter_eq_self]
  intro reading hreading
  obtain ⟨lexeme, hlexeme, rfl⟩ := List.mem_map.1 hreading
  have hkind : lexeme.kind ≠ .whitespace := fun hkind =>
    h (List.mem_map.2 ⟨lexeme, hlexeme, hkind⟩)
  simp [matters, hkind]

/-- A run that ends well ends at the position of the latest lexeme. -/
theorem last_of_run {machine left : Running} {draft grown : Draft} {last final : Position}
    {lexemes : List Lexeme}
    (h : run machine draft last (lexemes.map .ok) = .ok (left, grown, final)) :
    final = (lexemes.getLast?.map Lexeme.position).getD last := by
  induction lexemes generalizing machine draft last with
  | nil =>
      cases h
      rfl
  | cons lexeme rest ih =>
      rw [List.map_cons, run] at h
      split at h
      · cases h
      · rw [ih h, List.getLast?_cons]
        cases rest.getLast? <;> rfl

end Grammar

/-- Whether an error names a reading: the lexeme that is rejected, or the fault itself. -/
def ParseError.IsAbout : ParseError → Reading → Prop
  | unexpectedToken lexeme _, .ok read => lexeme = read
  | invalidNumber text position, .ok read =>
    read.kind = .number ∧ text = read.text ∧ position = read.position
  | unknownOperator symbol position, .ok read =>
    read.kind = .operator ∧ symbol = read.value ∧ position = read.position
  | scan e, .error fault => e = fault
  | _, _ => False

theorem Grammar.Rejects.isAbout {operators : OperatorTable} {machine : Running} {item : Reading}
    {e : ParseError} (h : Rejects operators machine item e) : e.IsAbout item := by
  cases h with
  | scan | path => rfl
  | action _ _ hcomplaint =>
      cases hcomplaint with
      | nesting => rfl
      | number hkind => exact ⟨hkind, rfl, rfl⟩
      | operator hkind => exact ⟨hkind, rfl, rfl⟩

namespace Dialect

variable {dialect : Dialect} {readings : List Reading} {e : ParseError}

/-- The grammar before anything is read. -/
abbrev atStart : Running := ⟨plan, .start, [], false⟩

/-- Lexemes parse, whatever white space is among them, if they are the reading of a program. -/
theorem exists_parseReadings_iff_isReading {lexemes : List Lexeme}
    (h : readings.filter matters = lexemes.map .ok) :
    (∃ program, dialect.parseReadings readings = .ok program) ↔
      IsReading dialect.operators lexemes .program := by
  obtain ⟨herrors, rfl⟩ := filter_matters_eq_iff.1 h
  constructor
  · rintro ⟨program, hprogram⟩
    obtain ⟨hcanonical, -, hmarks⟩ := describeAll_of_parseReadings hprogram
    exact ⟨program, hcanonical, hmarks⟩
  · rintro ⟨program, hcanonical, hmarks⟩
    exact ⟨program, parseReadings_of_describeAll hcanonical herrors hmarks⟩

theorem filter_matters_of_isReading {operators : OperatorTable} {lexemes : List Lexeme}
    (h : IsReading operators lexemes .program) :
    (lexemes.map .ok).filter matters = lexemes.map .ok := by
  obtain ⟨program, hcanonical, hmarks⟩ := h
  apply filter_matters_map_ok
  rw [← hmarks.map_kind]
  exact hcanonical.derives.whitespace_notMem

/-- What a reading of a canonical program begins with parses after a continuation. -/
theorem exists_parseReadings_of_isBeginning {before : List Lexeme}
    (h : IsBeginning dialect.operators before) :
    ∃ (more : List Reading) (program : Program),
      dialect.parseReadings (before.map .ok ++ more) = .ok program := by
  obtain ⟨more, hreading⟩ := h
  refine ⟨more.map .ok, ?_⟩
  rw [← List.map_append]
  exact (exists_parseReadings_iff_isReading (filter_matters_of_isReading hreading)).2 hreading

/-- A parse that fails is either stopped by a reading, or ends inside of a statement. In both cases
what it has taken in is the beginning of some program. -/
theorem exists_stop (h : dialect.parseReadings readings = .error e) :
    (∃ before item after, readings.filter matters = before.map .ok ++ item :: after ∧
      FailsAt dialect.operators atStart (.empty dialect.operators) .start e before item after ∧
      IsBeginning dialect.operators before) ∨
    ∃ earlier last, readings.filter matters = (earlier ++ [last]).map .ok ∧
      e = .unterminatedStatement last.position ∧
      IsBeginning dialect.operators (earlier ++ [last]) := by
  rw [parseReadings_eq] at h
  cases hrun : run atStart (.empty dialect.operators) .start (readings.filter matters) with
  | error e' =>
      obtain rfl : e' = e := by simpa [hrun, Except.bind] using h
      obtain ⟨before, item, after, hreadings, hfails, state, draft, hreached⟩ :=
        Reached.exists_failsAt isAt_start .empty hrun
      exact .inl ⟨before, item, after, hreadings, hfails, hreached.isBeginning⟩
  | ok result =>
      obtain ⟨machine, draft, last⟩ := result
      obtain ⟨state, read, hat, hreadings, hreached⟩ := Reached.of_run isAt_start .empty hrun
      rw [List.nil_append] at hreached
      have hstate : state ∉ State.beginnings := by
        intro hstate
        obtain ⟨program, hprogram, -⟩ := hreached.exists_program hstate
        simp [hrun, Except.bind, hat.finish, hstate, hprogram] at h
      obtain rfl : .unterminatedStatement last = e := by
        simpa [hrun, Except.bind, hat.finish, hstate] using h
      rw [hreadings] at hrun ⊢
      rcases List.eq_nil_or_concat read with rfl | ⟨earlier, final, rfl⟩
      · cases hrun
        have hstart : state = .start := hat.state.symm
        exact absurd (by simp [hstart, State.beginnings]) hstate
      · rw [List.concat_eq_append] at hrun hreached ⊢
        refine .inr ⟨earlier, final, rfl, ?_, hreached.isBeginning⟩
        rw [last_of_run hrun]
        simp

/-- How many readings, white space aside, a parse takes in before it fails or ends. -/
def progress (dialect : Dialect) (readings : List Reading) : Nat :=
  match Grammar.machine with
  | .error _ => 0
  | .ok machine =>
    Grammar.progress machine (.empty dialect.operators) (readings.filter Grammar.matters)

theorem progress_eq (dialect : Dialect) (readings : List Reading) : dialect.progress readings =
    Grammar.progress atStart (.empty dialect.operators) (readings.filter matters) := by
  delta progress
  rw [machine_eq]

/-- Whether some continuation of readings parses. -/
def CanBeCompleted (dialect : Dialect) (readings : List Reading) : Prop :=
  ∃ (more : List Reading) (program : Program),
    dialect.parseReadings (readings ++ more) = .ok program

/-- White space makes no difference to a parse. -/
theorem parseReadings_congr {other : List Reading}
    (h : other.filter matters = readings.filter matters) :
    dialect.parseReadings other = dialect.parseReadings readings := by
  rw [parseReadings_eq, parseReadings_eq, h]

theorem canBeCompleted_filter_iff :
    dialect.CanBeCompleted (readings.filter matters) ↔ dialect.CanBeCompleted readings := by
  have hparse : ∀ more, dialect.parseReadings (readings.filter matters ++ more) =
      dialect.parseReadings (readings ++ more) := fun more =>
    parseReadings_congr (by simp [List.filter_append, List.filter_filter])
  simp only [CanBeCompleted, hparse]

theorem parseReadings_of_failsAt {before : List Lexeme} {item : Reading}
    {after other : List Reading}
    (h : FailsAt dialect.operators atStart (.empty dialect.operators) .start e before item after)
    (hother : before.map .ok ++ [item] <+: other.filter matters) :
    dialect.parseReadings other = .error e := by
  obtain ⟨rest, hrest⟩ := hother
  have hrun := h.run rest
  rw [parseReadings_eq, ← hrest, List.append_assoc, List.singleton_append, hrun]
  rfl

/-- A parse that fails at a reading fails in the same way whatever follows, while all before it is
the beginning of a source that parses. A parse that fails at the end reports the latest lexeme, and
the whole is the beginning of a source that parses. -/
theorem error_at_earliest_reading (h : dialect.parseReadings readings = .error e) :
    (∀ position, e = .unterminatedStatement position →
      (∃ last ∈ (lexemes readings).getLast?, last.position = position) ∧
        dialect.CanBeCompleted readings) ∧
    ((∀ position, e ≠ .unterminatedStatement position) →
      ∃ item, (readings.filter matters)[dialect.progress readings]? = some item ∧
        e.IsAbout item ∧
        (∀ other, (readings.filter matters).take (dialect.progress readings + 1) <+:
          other.filter matters → dialect.parseReadings other = .error e) ∧
        dialect.CanBeCompleted ((readings.filter matters).take (dialect.progress readings))) := by
  rcases exists_stop h with ⟨before, item, after, hreadings, hfails, hbeginning⟩ |
    ⟨earlier, last, hreadings, rfl, hbeginning⟩
  · have habout := hfails.rejects.isAbout
    refine ⟨fun position he => ?_, fun _ => ⟨item, ?_⟩⟩
    · rw [he] at habout
      cases item <;> cases habout
    · have hprogress : dialect.progress readings = before.length := by
        rw [progress_eq, hreadings, hfails.progress]
      have hcompleted := exists_parseReadings_of_isBeginning hbeginning
      have hsettled := fun other => @parseReadings_of_failsAt _ _ _ _ _ other hfails
      generalize htaken : (before.map .ok : List Reading) = taken at *
      have hlength : taken.length = before.length := by rw [← htaken, List.length_map]
      rw [hprogress, ← hlength, hreadings, List.take_left, List.take_length_add_append]
      exact ⟨by simp, habout, hsettled, hcompleted⟩
  · refine ⟨fun position he => ⟨⟨last, ?_, ?_⟩, ?_⟩, fun hnone => absurd rfl (hnone _)⟩
    · rw [← (filter_matters_eq_iff.1 hreadings).2]
      simp
    · cases he
      rfl
    · rw [← canBeCompleted_filter_iff, hreadings]
      exact exists_parseReadings_of_isBeginning hbeginning

/-- The readings of the source `(true; 2`. -/
def openGroupReadings : List Reading :=
  [.ok (.plain .parenOpen "(" ⟨1, 1⟩), .ok (.plain .trueWord "true" ⟨1, 2⟩),
    .ok (.plain .semiColon ";" ⟨1, 6⟩), .ok (.plain .whitespace " " ⟨1, 7⟩),
    .ok (.plain .number "2" ⟨1, 8⟩)]

/-- The semicolon is refused inside of the group, after the machine has moved. -/
def openGroupError : ParseError :=
  .unexpectedToken (.plain .semiColon ";" ⟨1, 6⟩)
    "ORIGIN: start >>paren-open>> group-open >>true>> true >>semi-colon>> term"

theorem parseReadings_openGroup :
    stock.parseReadings openGroupReadings = .error openGroupError := by
  have hfilter : openGroupReadings.filter matters =
      [.ok (.plain .parenOpen "(" ⟨1, 1⟩), .ok (.plain .trueWord "true" ⟨1, 2⟩),
        .ok (.plain .semiColon ";" ⟨1, 6⟩), .ok (.plain .number "2" ⟨1, 8⟩)] := by decide
  have hopen : Move .start .parenOpen .groupOpen := .group (by decide)
  have htrue : Move .groupOpen .trueWord .trueWord := .literal (by decide) (by decide)
  have hend : Move .trueWord .semiColon .term := .statementEnd (by decide)
  rw [parseReadings_eq, hfilter, run_cons_of_ok isAt_start hopen rfl,
    run_cons_of_ok (isAt_start.moved _ _) htrue rfl,
    run_cons_of_error ((isAt_start.moved _ _).moved _ _) hend
      (by exact Draft.closeBy_refuses rfl rfl)]
  rfl

theorem error_at_earliest_reading_openGroup :
    ∃ item, (openGroupReadings.filter matters)[stock.progress openGroupReadings]? = some item ∧
      openGroupError.IsAbout item ∧
      (∀ other, (openGroupReadings.filter matters).take (stock.progress openGroupReadings + 1) <+:
        other.filter matters → stock.parseReadings other = .error openGroupError) ∧
      stock.CanBeCompleted
        ((openGroupReadings.filter matters).take (stock.progress openGroupReadings)) :=
  (error_at_earliest_reading parseReadings_openGroup).2 (by simp [openGroupError])

end Dialect

end Scriptlet
