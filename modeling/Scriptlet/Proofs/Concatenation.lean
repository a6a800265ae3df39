/-
# Parsing one source after the other

Nothing passes a semicolon, neither in the scanner nor in the grammar. So a source that follows
another one is parsed as if it stood alone. Its statements come after those of the first, at moved
places; and if it fails, it fails in the same way, with the steps of the first before its own in
the route.
-/

import Scriptlet.Proofs.Following
import Scriptlet.Proofs.Meeting

namespace Scriptlet

open Grammar Phrase

theorem Grammar.filter_matters_map_ok_eq (lexemes : List Lexeme) :
    (lexemes.map .ok).filter matters = (Lexeme.significant lexemes).map .ok := by
  rw [List.filter_map]
  rfl

theorem Cuts.filter_readings {lexicon : Lexicon} {text : List Char} {position : Position}
    {lexemes : List Lexeme} {fault? : Option LexError}
    (h : Cuts lexicon text position lexemes fault?) :
    (Cursor.readings lexicon ⟨text, position⟩).filter matters =
      (Lexeme.significant lexemes).map .ok ++ (fault?.map .error).toList := by
  rw [h.readings_eq, List.filter_append, filter_matters_map_ok_eq]
  cases fault? <;> rfl

theorem Lexeme.significant_map_shift (origin : Position) (lexemes : List Lexeme) :
    significant (lexemes.map (Lexeme.shift origin)) =
      (significant lexemes).map (Lexeme.shift origin) := by
  rw [significant, List.filter_map]
  rfl

/-- If the last lexeme that is no white space is a semicolon, every lexeme that is last separates
statements. -/
theorem Lexeme.separates_of_significant {lexemes : List Lexeme}
    (h : ∀ last ∈ (significant lexemes).getLast?, last.kind = .semiColon) :
    ∀ last ∈ lexemes.getLast?, last.kind ∈ [Kind.semiColon, .whitespace] := by
  intro last hlast
  obtain ⟨earlier, rfl⟩ := List.getLast?_eq_some_iff.1 hlast
  by_cases hkind : last.kind = .whitespace
  · simp [hkind]
  · have hsemiColon := h last (by simp [significant, List.filter_append, hkind])
    simp [hsemiColon]

/-- White space aside, two sources are read one after the other if the first ends with a
semicolon. -/
theorem Lexicon.filter_readings_append {lexicon : Lexicon}
    (hsemiColon : lexicon.HasNoWord .semiColon) (hwhitespace : lexicon.HasNoWord .whitespace)
    {first : String} {read : List Lexeme}
    (hread : (lexicon.readings first).filter matters = read.map .ok)
    (hends : ∀ last ∈ read.getLast?, last.kind = .semiColon) (second : String) :
    (lexicon.readings (first ++ second)).filter matters =
      read.map .ok ++ ((lexicon.readings second).filter matters).map
        (Reading.shift (Position.start.after first.toList)) := by
  obtain ⟨earlier, fault?, hearlier⟩ := exists_cuts lexicon first.toList .start
  obtain ⟨later, fault?', hlater⟩ := exists_cuts lexicon second.toList .start
  have hread' := hearlier.filter_readings.symm.trans hread
  obtain rfl : fault? = none := by
    cases fault? with
    | none => rfl
    | some e => simpa [List.map_eq_append_iff] using hread'.symm
  obtain rfl : Lexeme.significant earlier = read := map_ok_inj.1 (by simpa using hread')
  have hmoved := hlater.shift ⟨by decide, by decide⟩ (Position.start.after first.toList)
  rw [Position.shift_start] at hmoved
  obtain ⟨all, hall, hsignificant⟩ := hearlier.append hsemiColon hwhitespace
    (Lexeme.separates_of_significant hends) hmoved
  have hsecond : (lexicon.readings second).filter matters = _ := hlater.filter_readings
  have hboth : (lexicon.readings (first ++ second)).filter matters = _ :=
    (String.toList_append ▸ hall : Cuts lexicon (first ++ second).toList _ _ _).filter_readings
  rw [hboth, hsecond, hsignificant, Lexeme.significant_map_shift, List.map_append, List.map_append,
    map_shift_map_ok, List.append_assoc]
  cases fault?' <;> rfl

namespace Dialect

variable {dialect : Dialect}

/-- The steps that the grammar takes through a source, in order. -/
def steps (dialect : Dialect) (source : String) : List (Kind × State) :=
  match Grammar.machine with
  | .error _ => []
  | .ok machine =>
    match Grammar.run machine (.empty dialect.operators) .start
      ((dialect.lexicon.readings source).filter matters) with
    | .error _ => []
    | .ok (machine, _, _) => machine.steps.reverse

/-- A source that parses leaves the grammar where a statement may begin. -/
theorem exists_walk_of_parse {source : String} {program : Program}
    (h : dialect.parse source = .ok program) :
    ∃ base, walk atStart (lexemes (dialect.lexicon.readings source)) = machineAt base ∧
      (machineAt base).state ∈ State.beginnings ∧ dialect.steps source = base.reverse := by
  obtain ⟨-, herrors, -⟩ := describeAll_of_parseReadings h
  have hlexemes := filter_matters_eq_iff.2 ⟨herrors, rfl⟩
  rw [parse, parseReadings_eq] at h
  cases hrun : run atStart (.empty dialect.operators) .start
      ((dialect.lexicon.readings source).filter matters) with
  | error e =>
      rw [hrun] at h
      cases h
  | ok result =>
      obtain ⟨left, draft, last⟩ := result
      obtain ⟨state, read, hat, -⟩ := Reached.of_run isAt_start .empty hrun
      have hstate : state ∈ State.beginnings := by
        by_contra hstate
        simp [hrun, Except.bind, hat.finish, hstate] at h
      obtain ⟨base, hbase, -⟩ := @exists_walk [] (by decide) []
        (lexemes (dialect.lexicon.readings source))
      rw [List.append_nil] at hbase
      obtain rfl : left = machineAt base := by
        rw [hlexemes] at hrun
        rw [eq_walk_of_run isAt_start hrun, ← hbase]
      refine ⟨base, hbase, hat.state.symm ▸ hstate, ?_⟩
      delta steps
      rw [machine_eq]
      dsimp only
      rw [hrun]

/-- Parsing one source after the other is parsing each by itself. If the second parses, its
statements come after those of the first, at places moved by where the first ends. If it fails, the
whole fails in the same way, at the moved place, and with the steps of the first in front of its
own if a route is told. -/
theorem parse_append (hsemiColon : dialect.lexicon.HasNoWord .semiColon)
    (hwhitespace : dialect.lexicon.HasNoWord .whitespace) {first : String} {program : Program}
    (hfirst : dialect.parse first = .ok program) (second : String) :
    (∀ later, dialect.parse second = .ok later →
      dialect.parse (first ++ second) = .ok ⟨program.statements ++
        (later.shift (Position.start.after first.toList)).statements⟩) ∧
    ∀ e, dialect.parse second = .error e →
      ∃ e', dialect.parse (first ++ second) = .error e' ∧
        e.Follows (Position.start.after first.toList) (dialect.steps first) e' := by
  obtain ⟨hcanonical, herrors, hmarks⟩ := describeAll_of_parseReadings hfirst
  have hreading : IsReading dialect.operators (lexemes (dialect.lexicon.readings first)) .program :=
    ⟨program, hcanonical, hmarks⟩
  have hends : ∀ last ∈ (lexemes (dialect.lexicon.readings first)).getLast?,
      last.kind = .semiColon := by
    intro last hlast
    have hderives := (isReading_program_iff.1 hreading).2
    exact hderives.getLast? last.kind (by rw [List.getLast?_map, hlast]; rfl)
  have hwhole := Lexicon.filter_readings_append hsemiColon hwhitespace
    (filter_matters_eq_iff.2 ⟨herrors, rfl⟩) hends second
  obtain ⟨base, hwalk, hbase, hsteps⟩ := exists_walk_of_parse hfirst
  refine ⟨fun later hlater => ?_, fun e he => ?_⟩
  · exact parseReadings_follow hwhole hcanonical hmarks hlater
  · rw [hsteps]
    exact exists_follows hwhole hreading hwalk hbase he

/-! ### A number and a bracket -/

/-- The program that the source `1;` stands for. -/
def one : Program := ⟨[⟨[.number (.ofDecimal false 1 0) ⟨1, 1⟩], ⟨1, 1⟩⟩]⟩

theorem parse_one : stock.parse "1;" = .ok one := by
  have hnumber : stock.lexicon.scan '1' [';'] = .ok (.plain .number ['1'] [';']) := rfl
  have hsemiColon : stock.lexicon.scan ';' [] = .ok (.plain .semiColon [';'] []) := rfl
  have hcuts : Cuts stock.lexicon "1;".toList .start _ none :=
    .lexeme hnumber (.lexeme hsemiColon .done)
  have hreadings : stock.lexicon.readings "1;" = _ := hcuts.readings_eq
  have hcanonical : one.IsCanonical .stock := by
    simp only [Program.IsCanonical, one, List.forall_mem_singleton]
    exact ⟨_, rfl, .expression .number, rfl⟩
  rw [parse, hreadings]
  exact parseReadings_of_describeAll hcanonical (by simp) (by decide)

/-- The one lexeme of the source `)`. -/
def bracket : Lexeme := .plain .parenClose ")" ⟨1, 1⟩

theorem parse_bracket : stock.parse ")" = .error (.unexpectedToken bracket (routeOf [])) := by
  have hbracket : stock.lexicon.scan ')' [] = .ok (.plain .parenClose [')'] []) := rfl
  have hcuts : Cuts stock.lexicon ")".toList .start _ none := .lexeme hbracket .done
  have hreadings : stock.lexicon.readings ")" = [.ok bracket] := hcuts.readings_eq
  have hfilter : [Except.ok bracket].filter matters = [.ok bracket] := rfl
  have hmove : ∀ next, ¬ Move .start .parenClose next := by
    intro next h
    cases h with
    | literal _ h => simp [literals] at h
    | bracketEnd h => simp [State.complete] at h
  rw [parse, hreadings, parseReadings_eq, hfilter, run_cons_of_not_move isAt_start hmove]
  rfl

/-- Two numbers in a row parse, and a bracket after a number is refused where it stands. -/
theorem parse_append_one :
    stock.lexicon.HasNoWord .semiColon ∧ stock.lexicon.HasNoWord .whitespace ∧
      stock.parse "1;" = .ok one ∧
      stock.parse ("1;" ++ "1;") = .ok ⟨one.statements ++ (one.shift ⟨1, 3⟩).statements⟩ ∧
      ∃ e, stock.parse ("1;" ++ ")") = .error e ∧
        (ParseError.unexpectedToken bracket (routeOf [])).Follows ⟨1, 3⟩ (stock.steps "1;") e := by
  have hsemiColon : stock.lexicon.HasNoWord .semiColon := Lexicon.hasNoWord_stock (by decide)
  have hwhitespace : stock.lexicon.HasNoWord .whitespace := Lexicon.hasNoWord_stock (by decide)
  refine ⟨hsemiColon, hwhitespace, parse_one, ?_, ?_⟩
  · exact (parse_append hsemiColon hwhitespace parse_one "1;").1 one parse_one
  · exact (parse_append hsemiColon hwhitespace parse_one ")").2 _ parse_bracket

end Dialect

end Scriptlet
