/-
# What parsing does

Parsing succeeds exactly on the readings of canonical programs, and returns the program that was
read. All that there is to say about the programs that come out of a parse, and about the sources
that are accepted, follows from this.
-/

import Scriptlet.Proofs.Completeness
import Scriptlet.Proofs.Phrase
import Scriptlet.Proofs.Soundness

namespace Scriptlet

open Mark

namespace Grammar

/-- The lexemes among readings, white space left out. -/
def lexemes : List Reading → List Lexeme
  | [] => []
  | .error _ :: rest => lexemes rest
  | .ok lexeme :: rest =>
    if lexeme.kind = .whitespace then lexemes rest else lexeme :: lexemes rest

/-- Without scan errors, what takes part in the grammar are lexemes. -/
theorem filter_matters_eq_iff {readings : List Reading} {read : List Lexeme} :
    readings.filter matters = read.map .ok ↔
      (∀ e, .error e ∉ readings) ∧ read = lexemes readings := by
  induction readings generalizing read with
  | nil => simp [lexemes, eq_comm]
  | cons reading rest ih =>
      cases reading with
      | error e =>
          have hmatters : matters (.error e) = true := rfl
          rw [List.filter_cons_of_pos hmatters]
          constructor
          · intro h
            cases read <;> simp at h
          · rintro ⟨herrors, -⟩
            exact absurd List.mem_cons_self (herrors e)
      | ok lexeme =>
          by_cases hkind : lexeme.kind = .whitespace
          · have hmatters : ¬ matters (.ok lexeme) = true := by simp [matters, hkind]
            rw [List.filter_cons_of_neg hmatters, ih, lexemes, if_pos hkind]
            simp
          · have hmatters : matters (.ok lexeme) = true := by simp [matters, hkind]
            rw [List.filter_cons_of_pos hmatters, lexemes, if_neg hkind]
            cases read with
            | nil => simp
            | cons first others =>
                rw [List.map_cons, List.cons.injEq, ih]
                simp [and_left_comm, eq_comm]

/-- A machine finishes where a statement may begin, and nowhere else. -/
theorem IsAt.finish {machine : Running} {state : State} (hat : IsAt machine state) :
    machine.finish.1 = if state ∈ State.beginnings then .ok ()
      else .error (.notAccepting (toString state)) := by
  have haccepting : machine.blueprint.accepting = State.beginnings := by
    rw [hat.blueprint, plan_accepting, State.beginnings]
  rw [Machine.finish, hat.running, hat.state, haccepting]
  by_cases hstate : state ∈ State.beginnings <;> simp [hstate]

end Grammar

namespace Dialect

open Grammar

variable {dialect : Dialect} {readings : List Reading} {program : Program}

theorem parseReadings_eq : dialect.parseReadings readings =
    (run ⟨plan, .start, [], false⟩ (.empty dialect.operators) .start
      (readings.filter matters)).bind fun (machine, draft, last) =>
        match machine.finish.1 with
        | .error (.notAccepting _) => .error (.unterminatedStatement last)
        | .error e => .error (.machine e)
        | .ok () => draft.toProgram := by
  delta parseReadings
  rw [machine_eq]
  rfl

/-- A parse that succeeds returns the canonical program that has been read. -/
theorem describeAll_of_parseReadings (h : dialect.parseReadings readings = .ok program) :
    program.IsCanonical dialect.operators ∧ (∀ e, .error e ∉ readings) ∧
      DescribeAll program.marks (lexemes readings) := by
  rw [parseReadings_eq] at h
  cases hrun : run ⟨plan, .start, [], false⟩ (.empty dialect.operators) .start
      (readings.filter matters) with
  | error e =>
      rw [hrun] at h
      cases h
  | ok result =>
      obtain ⟨machine, draft, last⟩ := result
      obtain ⟨state, read, hat, hreadings, hreached⟩ := Reached.of_run isAt_start .empty hrun
      rw [List.nil_append] at hreached
      obtain ⟨herrors, rfl⟩ := filter_matters_eq_iff.1 hreadings
      by_cases hstate : state ∈ State.beginnings
      · obtain ⟨built, hbuilt, hcanonical, hdescribes⟩ := hreached.exists_program hstate
        have hresult : draft.toProgram = .ok program := by
          simpa [hrun, Except.bind, hat.finish, hstate] using h
        cases hbuilt.symm.trans hresult
        exact ⟨hcanonical, herrors, hdescribes⟩
      · simp [hrun, Except.bind, hat.finish, hstate] at h

/-- The readings of a canonical program parse as that program. -/
theorem parseReadings_of_describeAll (hcanonical : program.IsCanonical dialect.operators)
    (herrors : ∀ e, .error e ∉ readings) (hmarks : DescribeAll program.marks (lexemes readings)) :
    dialect.parseReadings readings = .ok program := by
  obtain ⟨statements⟩ := program
  have hleads := @Program.IsCanonical.leads _ _ hcanonical _ [] hmarks
  obtain ⟨machine, draft, last, state, hrun, hat, hends⟩ :=
    hleads ⟨plan, .start, [], false⟩ .start isAt_start
  obtain ⟨branches, hclosed, hrepresent⟩ := hends.closed
  rw [List.append_nil] at hclosed hrun
  rw [parseReadings_eq, filter_matters_eq_iff.2 ⟨herrors, rfl⟩, hrun]
  simp only [run, Except.bind, hat.finish, hends.state, if_true]
  exact Draft.toProgram_of_represents hends.stack (hclosed ▸ hrepresent)

/-- Parsing returns a program exactly when it is canonical and the readings, white space aside, are
the lexemes that it reads as. -/
theorem parseReadings_eq_ok_iff : dialect.parseReadings readings = .ok program ↔
    program.IsCanonical dialect.operators ∧ (∀ e, .error e ∉ readings) ∧
      DescribeAll program.marks (lexemes readings) :=
  ⟨describeAll_of_parseReadings, fun h => parseReadings_of_describeAll h.1 h.2.1 h.2.2⟩

/-- Acceptance is the grammar: a stream parses if and only if there is no scan error in it, every
operator is registered, every number denotes, and the kinds of its lexemes are derivable. -/
theorem exists_parseReadings_iff_derives (dialect : Dialect) (readings : List Reading) :
    (∃ program, dialect.parseReadings readings = .ok program) ↔
      (∀ e, .error e ∉ readings) ∧
      (∀ lexeme ∈ lexemes readings, lexeme.IsValid dialect.operators) ∧
      Phrase.Derives .program ((lexemes readings).map Lexeme.kind) := by
  constructor
  · rintro ⟨program, hprogram⟩
    obtain ⟨hcanonical, herrors, hmarks⟩ := parseReadings_eq_ok_iff.1 hprogram
    exact ⟨herrors, hcanonical.isValid hmarks, hmarks.map_kind ▸ hcanonical.derives⟩
  · rintro ⟨herrors, hvalid, hderives⟩
    obtain ⟨program, hcanonical, hmarks⟩ := hderives.isReading _ hvalid rfl
    exact ⟨program, parseReadings_eq_ok_iff.2 ⟨hcanonical, herrors, hmarks⟩⟩

/-! ## A small source -/

/-- The readings of the source `a = 2 + b * c;`. -/
def productReadings : List Reading :=
  [.ok (.plain .identifier "a" ⟨1, 1⟩), .ok (.plain .whitespace " " ⟨1, 2⟩),
    .ok (.plain .equals "=" ⟨1, 3⟩), .ok (.plain .whitespace " " ⟨1, 4⟩),
    .ok (.plain .number "2" ⟨1, 5⟩), .ok (.plain .whitespace " " ⟨1, 6⟩),
    .ok (.plain .operator "+" ⟨1, 7⟩), .ok (.plain .whitespace " " ⟨1, 8⟩),
    .ok (.plain .identifier "b" ⟨1, 9⟩), .ok (.plain .whitespace " " ⟨1, 10⟩),
    .ok (.plain .operator "*" ⟨1, 11⟩), .ok (.plain .whitespace " " ⟨1, 12⟩),
    .ok (.plain .identifier "c" ⟨1, 13⟩), .ok (.plain .semiColon ";" ⟨1, 14⟩)]

/-- The program that the source `a = 2 + b * c;` stands for. -/
def product : Program :=
  ⟨[⟨[.assignment ⟨"a", ⟨1, 1⟩⟩
      [.operator "+" (.number (.ofDecimal false 2 0) ⟨1, 5⟩)
        (.operator "*" (.identifier ⟨"b", ⟨1, 9⟩⟩) (.identifier ⟨"c", ⟨1, 13⟩⟩) ⟨1, 11⟩)
        ⟨1, 7⟩]
      ⟨1, 3⟩], ⟨1, 1⟩⟩]⟩

theorem isCanonical_product : product.IsCanonical .stock := by
  have hsum : OperatorTable.stock.level? "+" = some 4 := rfl
  have hproduct : OperatorTable.stock.level? "*" = some 5 := rfl
  have htight : ∀ inner ∈ OperatorTable.stock.level? "*", (4 : Level) < inner := by
    simp [hproduct]
  have hfactors : Node.IsExpression .stock
      (.operator "*" (.identifier ⟨"b", ⟨1, 9⟩⟩) (.identifier ⟨"c", ⟨1, 13⟩⟩) ⟨1, 11⟩) :=
    .operator hproduct .identifier .identifier (by simp [Node.level?]) (by simp [Node.level?])
  simp only [Program.IsCanonical, product, List.forall_mem_singleton]
  exact ⟨_, rfl, .assignment (.operator hsum .number hfactors (by simp [Node.level?]) htight), rfl⟩

theorem describeAll_product : DescribeAll product.marks (lexemes productReadings) := by
  decide

theorem parseReadings_eq_product : stock.parseReadings productReadings = .ok product :=
  parseReadings_eq_ok_iff.2 ⟨isCanonical_product, by simp [productReadings], describeAll_product⟩

/-! ## Trees that come out of a parse -/

/-- A parse loses nothing, adds nothing and moves nothing: reading the tree back gives the lexemes
that were parsed, with their values and places. -/
theorem describeAll_lexemes (h : dialect.parseReadings readings = .ok program) :
    (∀ e, .error e ∉ readings) ∧ DescribeAll program.marks (lexemes readings) :=
  (parseReadings_eq_ok_iff.1 h).2

theorem describeAll_lexemes_product :
    (∀ e, .error e ∉ productReadings) ∧ DescribeAll product.marks (lexemes productReadings) :=
  describeAll_lexemes parseReadings_eq_product

/-- Every statement that comes out of a parse holds one tree, with declarations and assignments only
at its top and all operators where their precedence puts them. -/
theorem isOrderly_of_parseReadings (h : dialect.parseReadings readings = .ok program) :
    program.IsOrderly dialect.operators :=
  (parseReadings_eq_ok_iff.1 h).1.isOrderly

theorem isOrderly_product : product.IsOrderly .stock :=
  isOrderly_of_parseReadings parseReadings_eq_product

/-- A canonical program parses as itself, from any lexemes that it reads as. -/
theorem parseReadings_of_isCanonical (hcanonical : program.IsCanonical dialect.operators)
    {written : List Lexeme} (hwritten : DescribeAll program.marks written) :
    dialect.parseReadings (written.map .ok) = .ok program := by
  have hkinds : .whitespace ∉ written.map Lexeme.kind := by
    rw [← hwritten.map_kind]
    exact hcanonical.derives.whitespace_notMem
  have hfilter : (written.map .ok).filter matters = written.map .ok := by
    rw [List.filter_eq_self]
    intro reading hreading
    obtain ⟨lexeme, hlexeme, rfl⟩ := List.mem_map.1 hreading
    have hkind : lexeme.kind ≠ .whitespace := fun h =>
      hkinds (List.mem_map.2 ⟨lexeme, hlexeme, h⟩)
    simp [matters, hkind]
  obtain ⟨herrors, hlexemes⟩ := filter_matters_eq_iff.1 hfilter
  exact parseReadings_eq_ok_iff.2 ⟨hcanonical, herrors, hlexemes ▸ hwritten⟩

theorem parseReadings_map_product :
    stock.parseReadings ((lexemes productReadings).map .ok) = .ok product :=
  parseReadings_of_isCanonical isCanonical_product describeAll_product

end Dialect

end Scriptlet
