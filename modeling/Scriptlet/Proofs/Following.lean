/-
# Readings that follow a program

Where a statement may begin the grammar is as it was at the start, so readings that follow a program
parse as they do by themselves. If they fail, they stop at the same item: it ends the longest
beginning of a program, and what begins one does so after another program too. There the grammar has
taken the same steps, and rejects the item for the same reason.
-/

import Scriptlet.Proofs.Moving
import Scriptlet.Proofs.Statements

namespace Scriptlet

open Grammar Phrase

/-! ## Where a parse stops -/

theorem map_ok_inj {first second : List Lexeme} :
    (first.map .ok : List Reading) = second.map .ok ↔ first = second :=
  (List.map_injective_iff.2 fun _ _ => Except.ok.inj).eq_iff

/-- Readings that begin like a program, up to an item with which they do so no longer. -/
structure Stops (operators : OperatorTable) (readings : List Reading) (before : List Lexeme)
    (item : Reading) : Prop where
  exists_rest : ∃ after, readings = before.map .ok ++ item :: after
  beginning : IsBeginning operators before
  hopeless : ∀ lexeme, item = .ok lexeme → ¬ IsBeginning operators (before ++ [lexeme])

/-- Readings that are lexemes up to some point are lexemes there. -/
theorem exists_of_map_ok_eq {lexemes before : List Lexeme} {item : Reading} {after : List Reading}
    (h : lexemes.map .ok = before.map .ok ++ item :: after) :
    ∃ lexeme more, item = .ok lexeme ∧ lexemes = before ++ lexeme :: more := by
  obtain ⟨taken, left, rfl, htaken, hleft⟩ := List.map_eq_append_iff.1 h
  obtain ⟨lexeme, more, rfl, rfl, -⟩ := List.map_eq_cons_iff.1 hleft
  exact ⟨lexeme, more, rfl, by rw [map_ok_inj.1 htaken]⟩

namespace Stops

variable {operators : OperatorTable} {readings : List Reading} {before other : List Lexeme}
  {item : Reading}

/-- What readings have of the beginning of a program ends where they stop. -/
theorem length_le (h : Stops operators readings before item) (hother : IsBeginning operators other)
    (hreadings : other.map .ok <+: readings) : other.length ≤ before.length := by
  by_contra hlonger
  obtain ⟨after, rfl⟩ := h.exists_rest
  obtain ⟨rest, hrest⟩ : before.map .ok ++ [item] <+: other.map .ok := by
    refine List.prefix_of_prefix_length_le ⟨after, by simp⟩ hreadings ?_
    simp only [List.length_append, List.length_map, List.length_singleton]
    omega
  rw [List.append_assoc, List.singleton_append] at hrest
  obtain ⟨lexeme, more, hitem, rfl⟩ := exists_of_map_ok_eq hrest.symm
  obtain ⟨left, hleft⟩ := hother
  exact h.hopeless lexeme hitem ⟨more ++ left, by simpa using hleft⟩

theorem unique {item' : Reading} (h : Stops operators readings before item)
    (h' : Stops operators readings other item') : before = other ∧ item = item' := by
  obtain ⟨after, hafter⟩ := h.exists_rest
  obtain ⟨after', hafter'⟩ := h'.exists_rest
  have hlength : before.length = other.length :=
    Nat.le_antisymm (h'.length_le h.beginning ⟨_, hafter.symm⟩)
      (h.length_le h'.beginning ⟨_, hafter'.symm⟩)
  obtain ⟨hbefore, hrest⟩ := List.append_inj (hafter.symm.trans hafter') (by simpa using hlength)
  exact ⟨map_ok_inj.1 hbefore, (List.cons.inj hrest).1⟩

/-- The beginning of a program has no stop in it. -/
theorem not_isBeginning (h : Stops operators (other.map .ok) before item) :
    ¬ IsBeginning operators other := by
  intro hother
  obtain ⟨after, hafter⟩ := h.exists_rest
  have hlength := congrArg List.length hafter
  have hlonger := h.length_le hother (List.prefix_refl _)
  simp only [List.length_map, List.length_append, List.length_cons] at hlength
  omega

end Stops

/-! ## The grammar where a statement may begin -/

namespace Grammar

/-- The grammar after some steps, the latest first. -/
abbrev machineAt (steps : List (Kind × State)) : Running := ⟨plan, .start, steps, false⟩

/-- The route of some steps. -/
def routeOf (steps : List (Kind × State)) : String :=
  steps.foldl (fun told (kind, state) => s!"{told} >>{kind}>> {state}") "ORIGIN: start"

theorem route_machineAt (steps : List (Kind × State)) :
    (machineAt steps).route = routeOf steps.reverse := by
  rw [routeOf, List.foldl_reverse]
  rfl

/-- A statement begins in the same way wherever one may begin. -/
theorem Move.of_beginning {state other next : State} {kind : Kind}
    (hstate : state ∈ State.beginnings) (hother : other ∈ State.beginnings)
    (h : Move state kind next) : Move other kind next := by
  cases h with
  | literal _ hliteral => exact .literal (List.mem_append_left _ hother) hliteral
  | name => exact .name hother
  | group => exact .group (List.mem_append_left _ hother)
  | declaration => exact .declaration hother
  | innerName h | arguments h | operator h | argumentEnd h | bracketEnd h | statementEnd h =>
      exfalso
      cases state <;> simp_all [State.beginnings, State.expectant, State.complete]
  | _ => simp [State.beginnings] at hstate

section

variable {base : List (Kind × State)} (hbase : (machineAt base).state ∈ State.beginnings)

include hbase

/-- After a step the state is the same, and before it a statement may begin in both. -/
theorem move_append_iff (steps : List (Kind × State)) {kind : Kind} {next : State} :
    Move (machineAt (steps ++ base)).state kind next ↔ Move (machineAt steps).state kind next := by
  cases steps with
  | nil => exact ⟨.of_beginning hbase (by decide), .of_beginning (by decide) hbase⟩
  | cons => exact Iff.rfl

theorem advance_append (steps : List (Kind × State)) (kind : Kind) :
    ∃ taken, advance (machineAt steps) kind = machineAt (taken ++ steps) ∧
      advance (machineAt (steps ++ base)) kind = machineAt (taken ++ (steps ++ base)) := by
  have htarget : plan.target? (machineAt (steps ++ base)).state kind =
      plan.target? (machineAt steps).state kind := by
    ext next
    rw [target?_plan_eq_some_iff, target?_plan_eq_some_iff, move_append_iff hbase]
  rw [advance, advance, htarget]
  cases plan.target? (machineAt steps).state kind with
  | none => exact ⟨[], rfl, rfl⟩
  | some next => exact ⟨[(kind, next)], rfl, rfl⟩

/-- The grammar takes the same steps where it goes on as at the start. -/
theorem exists_walk (steps : List (Kind × State)) (lexemes : List Lexeme) :
    ∃ taken, walk (machineAt steps) lexemes = machineAt (taken ++ steps) ∧
      walk (machineAt (steps ++ base)) lexemes = machineAt (taken ++ (steps ++ base)) := by
  induction lexemes generalizing steps with
  | nil => exact ⟨[], rfl, rfl⟩
  | cons lexeme rest ih =>
      obtain ⟨taken, hstart, hbase'⟩ := advance_append hbase steps lexeme.kind
      obtain ⟨more, hwalk, hwalk'⟩ := ih (taken ++ steps)
      refine ⟨more ++ taken, ?_, ?_⟩
      · rw [List.append_assoc, ← hwalk, ← hstart]
        rfl
      · rw [List.append_assoc, ← List.append_assoc taken, ← hwalk', List.append_assoc, ← hbase']
        rfl

end

/-- The grammar after a run has walked over what was read. -/
theorem eq_walk_of_run {machine left : Running} {state : State} {draft grown : Draft}
    {last final : Position} {lexemes : List Lexeme} (hat : IsAt machine state)
    (h : run machine draft last (lexemes.map .ok) = .ok (left, grown, final)) :
    left = walk machine lexemes := by
  induction lexemes generalizing machine draft last state with
  | nil =>
      cases h
      rfl
  | cons lexeme rest ih =>
      rw [List.map_cons, run] at h
      split at h
      · cases h
      · next after grown' hstep =>
          obtain ⟨next, hmove, -, rfl⟩ := exists_move_of_step hat (.ok ()) hstep
          rw [ih (hat.moved _ _) h, ← advance_of_move hat hmove]
          rfl

end Grammar

/-! ## The same failure -/

namespace ParseError

/-- The same error in a source that follows another: at the moved place, and with the steps of the
earlier source in front of its own if a route is told. -/
inductive Follows (origin : Position) (earlier : List (Kind × State)) :
    ParseError → ParseError → Prop
  | unexpectedToken {lexeme steps} :
      Follows origin earlier (.unexpectedToken lexeme (routeOf steps))
        (.unexpectedToken (lexeme.shift origin) (routeOf (earlier ++ steps)))
  | other {e} (he : ∀ lexeme route, e ≠ .unexpectedToken lexeme route) :
      Follows origin earlier e (e.shift origin)

end ParseError

/-- The one complaint that an action may have about a lexeme. -/
def Lexeme.complaint (lexeme : Lexeme) : ParseError :=
  match lexeme.kind with
  | .number => .invalidNumber lexeme.text lexeme.position
  | .operator => .unknownOperator lexeme.value lexeme.position
  | _ => .unexpectedToken lexeme ""

variable {operators : OperatorTable} {origin : Position} {e e' : ParseError}

theorem Complaint.eq_complaint {lexeme : Lexeme} (h : Complaint operators lexeme e) :
    e = lexeme.complaint := by
  cases h with
  | nesting hkind =>
      simp only [List.mem_cons, List.not_mem_nil, or_false] at hkind
      rcases hkind with hkind | hkind | hkind <;> simp [Lexeme.complaint, hkind]
  | number hkind | operator hkind => simp [Lexeme.complaint, hkind]

/-- A complaint is the same in a source that follows another, with a route that goes on. -/
theorem Lexeme.follows_complaint (lexeme : Lexeme) (base steps : List (Kind × State)) :
    ((StepError.failed lexeme.complaint).onLexeme lexeme (machineAt steps).route).Follows origin
      base.reverse ((StepError.failed (lexeme.shift origin).complaint).onLexeme
        (lexeme.shift origin) (machineAt (steps ++ base)).route) := by
  have hkind : (lexeme.shift origin).kind = lexeme.kind := rfl
  rw [route_machineAt, route_machineAt, List.reverse_append]
  unfold Lexeme.complaint
  rw [hkind]
  split
  · exact .other nofun
  · exact .other nofun
  · exact .unexpectedToken

/-- A reading that is rejected by itself is rejected for the same reason after an earlier source. -/
theorem Grammar.Rejects.follows {base steps : List (Kind × State)}
    (hbase : (machineAt base).state ∈ State.beginnings) {item : Reading}
    (h : Rejects operators (machineAt steps) item e)
    (h' : Rejects operators (machineAt (steps ++ base)) (Reading.shift origin item) e') :
    e.Follows origin base.reverse e' := by
  cases h with
  | scan =>
      cases h'
      exact .other nofun
  | @path _ lexeme hat hmove =>
      cases h' with
      | path =>
          rw [route_machineAt, route_machineAt, List.reverse_append]
          exact .unexpectedToken
      | action hat' hmove' =>
          obtain rfl := hat.state
          obtain rfl := hat'.state
          exact absurd ((move_append_iff hbase steps).1 hmove') (hmove _)
  | @action _ next lexeme _ hat hmove hcomplaint =>
      obtain rfl := hat.state
      cases h' with
      | path hat' hmove' =>
          obtain rfl := hat'.state
          exact absurd ((move_append_iff hbase steps).2 hmove) (hmove' _)
      | @action _ next' _ _ hat' hmove' hcomplaint' =>
          obtain rfl := hat'.state
          have hnext := target?_plan_eq_some_iff.2 ((move_append_iff hbase steps).1 hmove')
          cases hnext.symm.trans (target?_plan_eq_some_iff.2 hmove)
          rw [hcomplaint.eq_complaint, hcomplaint'.eq_complaint]
          exact lexeme.follows_complaint base ((lexeme.kind, next) :: steps)

/-! ## Readings that follow a program -/

theorem map_relocate_map_ok (change : Position → Position) (lexemes : List Lexeme) :
    (lexemes.map .ok).map (Reading.relocate change) =
      ((lexemes.map (Lexeme.relocate change)).map .ok : List Reading) := by
  rw [List.map_map, List.map_map]
  rfl

theorem map_shift_map_ok (origin : Position) (lexemes : List Lexeme) :
    (lexemes.map .ok).map (Reading.shift origin) =
      ((lexemes.map (Lexeme.shift origin)).map .ok : List Reading) :=
  map_relocate_map_ok origin.shift lexemes

namespace Stops

variable {readings : List Reading} {before : List Lexeme} {item : Reading}

/-- Readings stop at the same item when they follow a program, wherever they stand. -/
theorem append_relocate {first : List Lexeme} (hfirst : IsReading operators first .program)
    (h : Stops operators readings before item) (change : Position → Position) :
    Stops operators (first.map .ok ++ readings.map (Reading.relocate change))
      (first ++ before.map (Lexeme.relocate change)) (Reading.relocate change item) := by
  obtain ⟨⟨after, rfl⟩, hbeginning, hhopeless⟩ := h
  refine ⟨⟨after.map (Reading.relocate change), ?_⟩, ?_, fun lexeme hlexeme => ?_⟩
  · rw [List.map_append, map_relocate_map_ok, List.map_append, List.append_assoc, List.map_cons]
  · exact (isBeginning_append_relocate_iff hfirst change _).2 hbeginning
  · cases item with
    | error => cases hlexeme
    | ok read =>
        cases hlexeme
        have hlonger := isBeginning_append_relocate_iff hfirst change (before ++ [read])
        rw [List.map_append, List.map_singleton, ← List.append_assoc] at hlonger
        exact fun h => hhopeless read rfl (hlonger.1 h)

end Stops

theorem Grammar.walk_append (machine : Running) (first second : List Lexeme) :
    walk machine (first ++ second) = walk (walk machine first) second := by
  rw [walk, List.map_append, List.foldl_append]
  rfl

theorem Grammar.walk_map_relocate (change : Position → Position) (machine : Running)
    (lexemes : List Lexeme) :
    walk machine (lexemes.map (Lexeme.relocate change)) = walk machine lexemes := by
  rw [walk, List.map_map]
  rfl

theorem Grammar.walk_map_shift (machine : Running) (lexemes : List Lexeme) :
    walk machine (lexemes.map (Lexeme.shift origin)) = walk machine lexemes :=
  walk_map_relocate origin.shift machine lexemes

/-- What is rejected after some lexemes is rejected for the same reason if an earlier source stands
before them. -/
theorem Grammar.Rejects.follows_walk {base : List (Kind × State)} {first before : List Lexeme}
    (hwalk : walk (machineAt []) first = machineAt base)
    (hbase : (machineAt base).state ∈ State.beginnings) {item : Reading}
    (h : Rejects operators (walk (machineAt []) before) item e)
    (h' : Rejects operators (walk (machineAt []) (first ++ before.map (Lexeme.shift origin)))
      (Reading.shift origin item) e') : e.Follows origin base.reverse e' := by
  obtain ⟨taken, htaken, htaken'⟩ := exists_walk hbase [] before
  rw [htaken, List.append_nil] at h
  rw [walk_append, walk_map_shift, hwalk] at h'
  rw [List.nil_append] at htaken'
  exact h.follows hbase (htaken' ▸ h')

namespace Dialect

variable {dialect : Dialect} {second whole : List Reading} {first : List Lexeme}
  {program later : Program}

theorem stops_of_failsAt {before : List Lexeme} {item : Reading} {after : List Reading}
    (h : FailsAt dialect.operators atStart (.empty dialect.operators) .start e before item after)
    (hbeginning : IsBeginning dialect.operators before) :
    Stops dialect.operators (before.map .ok ++ item :: after) before item := by
  refine ⟨⟨after, rfl⟩, hbeginning, ?_⟩
  rintro lexeme rfl ⟨more, hmore⟩
  have hfilter := filter_matters_of_isReading hmore
  obtain ⟨program, hprogram⟩ := (exists_parseReadings_iff_isReading hfilter).2 hmore
  have htaken : before.map .ok ++ [.ok lexeme] <+:
      ((before ++ [lexeme] ++ more).map .ok).filter matters := by
    rw [hfilter]
    exact ⟨more.map .ok, by simp⟩
  cases hprogram.symm.trans (parseReadings_of_failsAt h htaken)

/-- A parse that fails rejects the item at which its readings stop, or there is no such item. -/
theorem exists_stops {readings : List Reading} (h : dialect.parseReadings readings = .error e) :
    (∃ before item, Stops dialect.operators (readings.filter matters) before item ∧
      Rejects dialect.operators (walk atStart before) item e) ∨
    ∃ earlier last, readings.filter matters = (earlier ++ [last]).map .ok ∧
      e = .unterminatedStatement last.position ∧
      IsBeginning dialect.operators (earlier ++ [last]) := by
  rcases exists_stop h with ⟨before, item, after, hreadings, hfails, hbeginning⟩ | hend
  · exact .inl ⟨before, item, hreadings ▸ stops_of_failsAt hfails hbeginning, hfails.rejects⟩
  · exact .inr hend

section

variable {change : Position → Position} (hwhole : whole.filter matters =
  first.map .ok ++ (second.filter matters).map (Reading.relocate change))

include hwhole

/-- What parses by itself parses after a program as well, wherever it stands. -/
theorem parseReadings_append_relocate (hprogram : program.IsCanonical dialect.operators)
    (hfirst : Mark.DescribeAll program.marks first)
    (hsecond : dialect.parseReadings second = .ok later) :
    dialect.parseReadings whole =
      .ok ⟨program.statements ++ (later.relocate change).statements⟩ := by
  obtain ⟨hcanonical, herrors, hmarks⟩ := describeAll_of_parseReadings hsecond
  have hlexemes := filter_matters_eq_iff.2 ⟨herrors, rfl⟩
  rw [hlexemes, map_relocate_map_ok, ← List.map_append] at hwhole
  obtain ⟨herrors', hlexemes'⟩ := filter_matters_eq_iff.1 hwhole
  refine parseReadings_of_describeAll ?_ herrors' ?_
  · intro statement hstatement
    rcases List.mem_append.1 hstatement with hstatement | hstatement
    · exact hprogram statement hstatement
    · exact hcanonical.relocate change statement hstatement
  · rw [← hlexemes', Program.marks, List.flatMap_append]
    refine hfirst.append ?_
    have hmoved := hmarks.relocate change
    rw [← Program.marks_relocate] at hmoved
    exact hmoved

theorem exists_parseReadings_of_append_relocate
    (hfirst : IsReading dialect.operators first .program)
    (h : dialect.parseReadings whole = .ok program) :
    ∃ later, dialect.parseReadings second = .ok later := by
  have herrors : ∀ e, .error e ∉ second := by
    intro e he
    have hmem : .error (e.relocate change) ∈
        (second.filter matters).map (Reading.relocate change) :=
      List.mem_map.2 ⟨.error e, List.mem_filter.2 ⟨he, rfl⟩, rfl⟩
    have hfilter : .error (e.relocate change) ∈ whole.filter matters :=
      hwhole ▸ List.mem_append_right _ hmem
    exact (describeAll_of_parseReadings h).2.1 _ (List.mem_of_mem_filter hfilter)
  have hlexemes := filter_matters_eq_iff.2 ⟨herrors, rfl⟩
  rw [hlexemes, map_relocate_map_ok, ← List.map_append] at hwhole
  have hreading := (exists_parseReadings_iff_isReading hwhole).1 ⟨program, h⟩
  rw [isReading_append_iff hfirst, isReading_relocate_iff] at hreading
  exact (exists_parseReadings_iff_isReading hlexemes).2 hreading

/-- What fails by itself fails after a program at the same item, or at the end as well. -/
theorem exists_error_of_append_relocate (hfirst : IsReading dialect.operators first .program)
    (hsecond : dialect.parseReadings second = .error e) :
    ∃ e', dialect.parseReadings whole = .error e' ∧
      ((∃ before item, Rejects dialect.operators (walk atStart before) item e ∧
          Rejects dialect.operators (walk atStart (first ++ before.map (Lexeme.relocate change)))
            (Reading.relocate change item) e') ∨
        ∃ place, e = .unterminatedStatement place ∧
          e' = .unterminatedStatement (change place)) := by
  cases hresult : dialect.parseReadings whole with
  | ok program =>
      obtain ⟨later, hlater⟩ := exists_parseReadings_of_append_relocate hwhole hfirst hresult
      cases hlater.symm.trans hsecond
  | error e' =>
      refine ⟨e', rfl, ?_⟩
      rcases exists_stops hsecond with ⟨before, item, hstops, hrejects⟩ |
        ⟨earlier, last, hreadings, rfl, hbeginning⟩
      · have hmoved := hstops.append_relocate hfirst change
        rw [← hwhole] at hmoved
        rcases exists_stops hresult with ⟨before', item', hstops', hrejects'⟩ |
          ⟨earlier', last', hreadings', -, hbeginning'⟩
        · obtain ⟨rfl, rfl⟩ := hmoved.unique hstops'
          exact .inl ⟨before, item, hrejects, hrejects'⟩
        · rw [hreadings'] at hmoved
          exact absurd hbeginning' hmoved.not_isBeginning
      · have hlexemes : whole.filter matters =
            (first ++ (earlier ++ [last]).map (Lexeme.relocate change)).map .ok := by
          rw [hwhole, hreadings, map_relocate_map_ok, ← List.map_append]
        rcases exists_stops hresult with ⟨before', item', hstops', -⟩ |
          ⟨earlier', last', hreadings', rfl, -⟩
        · rw [hlexemes] at hstops'
          exact absurd ((isBeginning_append_relocate_iff hfirst change _).2 hbeginning)
            hstops'.not_isBeginning
        · have hends := map_ok_inj.1 (hlexemes.symm.trans hreadings')
          rw [List.map_append, ← List.append_assoc] at hends
          obtain ⟨-, hlast⟩ := List.append_inj' hends rfl
          cases hlast
          exact .inr ⟨last.position, rfl, rfl⟩

end

variable (hwhole : whole.filter matters =
  first.map .ok ++ (second.filter matters).map (Reading.shift origin))

include hwhole

/-- What parses by itself parses after a program as well. -/
theorem parseReadings_follow (hprogram : program.IsCanonical dialect.operators)
    (hfirst : Mark.DescribeAll program.marks first)
    (hsecond : dialect.parseReadings second = .ok later) :
    dialect.parseReadings whole =
      .ok ⟨program.statements ++ (later.shift origin).statements⟩ := by
  rw [Program.shift]
  exact parseReadings_append_relocate hwhole hprogram hfirst hsecond

/-- What fails by itself fails in the same way after a program. -/
theorem exists_follows {base : List (Kind × State)}
    (hfirst : IsReading dialect.operators first .program)
    (hwalk : walk atStart first = machineAt base)
    (hbase : (machineAt base).state ∈ State.beginnings)
    (hsecond : dialect.parseReadings second = .error e) :
    ∃ e', dialect.parseReadings whole = .error e' ∧ e.Follows origin base.reverse e' := by
  obtain ⟨e', hresult, ⟨before, item, hrejects, hrejects'⟩ | ⟨place, rfl, rfl⟩⟩ :=
    exists_error_of_append_relocate hwhole hfirst hsecond
  · exact ⟨e', hresult, hrejects.follows_walk hwalk hbase hrejects'⟩
  · exact ⟨_, hresult, .other nofun⟩

end Dialect

end Scriptlet
