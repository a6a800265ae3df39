/-
# Only the order of levels matters

The levels of operators are compared with each other and with nothing else. So two tables that
register the same of the operators in a source, and rank any two of them alike, give the same parse:
the same program, or the same error with the same route.

A program is canonical for both tables or for neither. What stops a parse is known from the lexemes
before it being the beginning of some program and no longer so with the next; and that can be said
without any table, since whatever begins a program can be completed without operators.
-/

import Scriptlet.Proofs.Placement

namespace Scriptlet

open Grammar Phrase Mark

theorem prefix_append_cases {α : Type} {before first second : List α}
    (h : before <+: first ++ second) :
    before <+: first ∨ ∃ more, before = first ++ more ∧ more <+: second := by
  obtain ⟨rest, hrest⟩ := h
  rcases List.append_eq_append_iff.1 hrest with ⟨more, hfirst, -⟩ | ⟨more, hbefore, hsecond⟩
  · exact .inl ⟨more, hfirst.symm⟩
  · exact .inr ⟨more, hbefore, rest, hsecond.symm⟩

/-! ## Completions without operators -/

namespace Phrase

/-- Whether kinds can be completed to a phrase, without operators and numbers. -/
def Begins (phrase : Phrase) (kinds : List Kind) : Prop :=
  ∃ more, (∀ kind ∈ more, kind ∉ [Kind.operator, .number]) ∧ Derives phrase (kinds ++ more)

variable {phrase whole : Phrase} {kinds before header inner outer : List Kind}

theorem Derives.begins (h : Derives phrase kinds) : Begins phrase kinds :=
  ⟨[], nofun, by rwa [List.append_nil]⟩

/-- A truth value completes what has not begun yet. -/
theorem begins_nil (phrase : Phrase) : Begins phrase [] := by
  have hvalue : Derives expression [.trueWord] := .single .trueWord
  cases phrase with
  | operand => exact ⟨[.trueWord], by decide, .trueWord⟩
  | expression => exact ⟨[.trueWord], by decide, hvalue⟩
  | arguments => exact ⟨[.trueWord], by decide, .argument hvalue⟩
  | statement => exact ⟨[.trueWord, .semiColon], by decide, .evaluation hvalue⟩
  | program => exact Derives.empty.begins

/-- A phrase around another one is completed by what completes the inner one and what closes the
outer one. -/
theorem Begins.extend (h : Begins phrase inner) (closing : List Kind)
    (hclosing : ∀ kind ∈ closing, kind ∉ [Kind.operator, .number])
    (hrule : ∀ more, Derives phrase (inner ++ more) → Derives whole (outer ++ (more ++ closing))) :
    Begins whole outer := by
  obtain ⟨more, hmore, hderives⟩ := h
  exact ⟨more ++ closing, List.forall_mem_append.2 ⟨hmore, hclosing⟩, hrule more hderives⟩

/-- Where a phrase begins with a header, less than the header begins it as well. -/
theorem begins_of_header (hheader : ∀ kind ∈ header, kind ∉ [Kind.operator, .number])
    (h : ∀ rest, rest <+: kinds → Begins phrase (header ++ rest))
    (hbefore : before <+: header ++ kinds) : Begins phrase before := by
  rcases prefix_append_cases hbefore with ⟨left, rfl⟩ | ⟨rest, rfl, hrest⟩
  · obtain ⟨more, hmore, hderives⟩ := h [] List.nil_prefix
    refine ⟨left ++ more, ?_, by simpa using hderives⟩
    exact List.forall_mem_append.2 ⟨(List.forall_mem_append.1 hheader).2, hmore⟩
  · exact h rest hrest

/-- A phrase that encloses another one, after a header and before one last kind, begins as the inner
one does. -/
theorem begins_of_enclosed {last : Kind} (header : List Kind)
    (hheader : ∀ kind ∈ header, kind ∉ [Kind.operator, .number])
    (hlast : last ∉ [Kind.operator, .number])
    (hrule : ∀ {more}, Derives phrase more → Derives whole (header ++ (more ++ [last])))
    (hkinds : Derives phrase kinds) (h : ∀ {rest}, rest <+: kinds → Begins phrase rest)
    (hbefore : before <+: header ++ (kinds ++ [last])) : Begins whole before := by
  refine begins_of_header hheader (fun rest hrest => ?_) hbefore
  rcases List.prefix_concat_iff.1 hrest with rfl | hrest
  · exact (hrule hkinds).begins
  · exact (h hrest).extend [last] (by simpa using hlast) fun more hmore => by
      simpa using hrule hmore

/-- A phrase of one kind begins with nothing or with all of it. -/
theorem Derives.begins_singleton {kind : Kind} (h : Derives phrase [kind])
    (hbefore : before <+: [kind]) : Begins phrase before := by
  rcases List.prefix_cons_iff.1 hbefore with rfl | ⟨rest, rfl, hrest⟩
  · exact begins_nil phrase
  · rw [List.prefix_nil.1 hrest]
    exact h.begins

/-- What a phrase begins with can be completed to one without operators and numbers. -/
theorem Derives.begins_of_prefix (h : Derives phrase kinds) (hbefore : before <+: kinds) :
    Begins phrase before := by
  induction h generalizing before with
  | number => exact Derives.number.begins_singleton hbefore
  | quoted => exact Derives.quoted.begins_singleton hbefore
  | trueWord => exact Derives.trueWord.begins_singleton hbefore
  | falseWord => exact Derives.falseWord.begins_singleton hbefore
  | identifier => exact Derives.identifier.begins_singleton hbefore
  | emptyCall =>
      have hcall : before <+: [.identifier, .parenOpen, .parenClose] ++ [] := hbefore
      refine begins_of_header (by decide) (fun rest hrest => ?_) hcall
      rw [List.prefix_nil.1 hrest]
      exact Derives.emptyCall.begins
  | call harguments ih =>
      exact begins_of_enclosed [.identifier, .parenOpen] (by decide) (by decide) .call harguments ih
        hbefore
  | group hinner ih =>
      exact begins_of_enclosed [.parenOpen] (by decide) (by decide) .group hinner ih hbefore
  | single _ ih => exact (ih hbefore).extend [] nofun fun more h => by simpa using h.single
  | operation hleft _ ihleft ihright =>
      rcases prefix_append_cases hbefore with hbefore | ⟨rest, rfl, hrest⟩
      · exact ihleft hbefore
      rcases List.prefix_cons_iff.1 hrest with rfl | ⟨right, rfl, hright⟩
      · rw [List.append_nil]
        exact hleft.begins
      · exact (ihright hright).extend [] nofun fun more h => by simpa using hleft.operation h
  | argument _ ih => exact (ih hbefore).extend [] nofun fun more h => by simpa using h.argument
  | further hearlier _ ihearlier ihlast =>
      rcases prefix_append_cases hbefore with hbefore | ⟨rest, rfl, hrest⟩
      · exact ihearlier hbefore
      rcases List.prefix_cons_iff.1 hrest with rfl | ⟨last, rfl, hlast⟩
      · rw [List.append_nil]
        exact hearlier.begins
      · exact (ihlast hlast).extend [] nofun fun more h => by simpa using hearlier.further h
  | evaluation hvalue ih =>
      exact begins_of_enclosed [] nofun (by decide) .evaluation hvalue ih hbefore
  | assignment hvalue ih =>
      exact begins_of_enclosed [.identifier, .equals] (by decide) (by decide) .assignment hvalue ih
        hbefore
  | declaration hvalue ih =>
      exact begins_of_enclosed [.letWord, .identifier, .identifier, .equals] (by decide) (by decide)
        .declaration hvalue ih hbefore
  | empty =>
      rw [List.prefix_nil.1 hbefore]
      exact begins_nil _
  | append hearlier _ ihearlier ihlast =>
      rcases prefix_append_cases hbefore with hbefore | ⟨rest, rfl, hrest⟩
      · exact ihearlier hbefore
      · exact (ihlast hrest).extend [] nofun fun more h => by simpa using hearlier.append h

end Phrase

/-- What begins a program is known from the kinds and from the values of the lexemes themselves. -/
theorem isBeginning_iff {operators : OperatorTable} {lexemes : List Lexeme} :
    IsBeginning operators lexemes ↔ (∀ lexeme ∈ lexemes, lexeme.IsValid operators) ∧
      Begins program (lexemes.map Lexeme.kind) := by
  constructor
  · rintro ⟨more, hmore⟩
    obtain ⟨hvalid, hderives⟩ := isReading_program_iff.1 hmore
    refine ⟨(List.forall_mem_append.1 hvalid).1, hderives.begins_of_prefix ?_⟩
    rw [List.map_append]
    exact List.prefix_append _ _
  · rintro ⟨hvalid, more, hmore, hderives⟩
    refine ⟨more.map fun kind => .plain kind "" .start, isReading_program_iff.2 ⟨?_, ?_⟩⟩
    · refine List.forall_mem_append.2 ⟨hvalid, List.forall_mem_map.2 fun kind hkind => ⟨?_, ?_⟩⟩
      · rintro rfl
        exact absurd (by decide) (hmore _ hkind)
      · rintro rfl
        exact absurd (by decide) (hmore _ hkind)
    · have hkinds : Lexeme.kind ∘ (fun kind => Lexeme.plain kind "" .start) = id := rfl
      rwa [List.map_append, List.map_map, hkinds, List.map_id]

/-! ## Tables that rank alike -/

/-- Whether two tables register the same of some symbols, and rank any two of them alike. -/
structure OperatorTable.RanksAlike (first second : OperatorTable) (symbols : List String) :
    Prop where
  registered : ∀ symbol ∈ symbols,
    (first.level? symbol).isSome ↔ (second.level? symbol).isSome
  precedence : ∀ symbol ∈ symbols, ∀ other ∈ symbols,
    first.takesPrecedence symbol other = .ok true ↔
      second.takesPrecedence symbol other = .ok true

variable {first second : OperatorTable} {symbols : List String}

namespace OperatorTable.RanksAlike

theorem symm (h : first.RanksAlike second symbols) : second.RanksAlike first symbols :=
  ⟨fun symbol hsymbol => (h.registered symbol hsymbol).symm,
    fun symbol hsymbol other hother => (h.precedence symbol hsymbol other hother).symm⟩

theorem exists_level? (h : first.RanksAlike second symbols) {symbol : String}
    (hsymbol : symbol ∈ symbols) {level : Level} (hlevel : first.level? symbol = some level) :
    ∃ other, second.level? symbol = some other :=
  Option.isSome_iff_exists.1 ((h.registered symbol hsymbol).1 (by rw [hlevel]; rfl))

/-- Levels that stand for the same symbols are in the same order. -/
theorem lt_iff (h : first.RanksAlike second symbols) {symbol other : String}
    (hsymbol : symbol ∈ symbols) (hother : other ∈ symbols) {tight loose tight' loose' : Level}
    (htight : first.level? symbol = some tight) (hloose : first.level? other = some loose)
    (htight' : second.level? symbol = some tight')
    (hloose' : second.level? other = some loose') : loose < tight ↔ loose' < tight' := by
  have hprecedence := h.precedence symbol hsymbol other hother
  rw [takesPrecedence_eq htight hloose, takesPrecedence_eq htight' hloose'] at hprecedence
  simpa using hprecedence

theorem isValid_iff (h : first.RanksAlike second symbols) {lexeme : Lexeme}
    (hsymbol : lexeme.kind = .operator → lexeme.value ∈ symbols) :
    lexeme.IsValid first ↔ lexeme.IsValid second := by
  constructor
  · intro hvalid
    exact ⟨fun hkind => (h.registered _ (hsymbol hkind)).1 (hvalid.operator hkind), hvalid.number⟩
  · intro hvalid
    exact ⟨fun hkind => (h.registered _ (hsymbol hkind)).2 (hvalid.operator hkind), hvalid.number⟩

end OperatorTable.RanksAlike

/-! ## Canonical for both tables -/

namespace Mark

/-- Whether all operators among marks are among some symbols. -/
def OperatorsIn (symbols : List String) (marks : List Mark) : Prop :=
  ∀ symbol position, word .operator symbol position ∈ marks → symbol ∈ symbols

theorem OperatorsIn.of_subset {marks more : List Mark} (h : OperatorsIn symbols more)
    (hmarks : marks ⊆ more) : OperatorsIn symbols marks :=
  fun symbol position hword => h symbol position (hmarks hword)

theorem DescribeAll.operatorsIn {marks : List Mark} {lexemes : List Lexeme}
    (h : DescribeAll marks lexemes)
    (hsymbols : ∀ lexeme ∈ lexemes, lexeme.kind = .operator → lexeme.value ∈ symbols) :
    OperatorsIn symbols marks := by
  intro symbol position hword
  induction h with
  | nil => cases hword
  | @cons mark lexeme marks lexemes hmark _ ih =>
      rw [List.forall_mem_cons] at hsymbols
      rcases List.mem_cons.1 hword with rfl | hword
      · obtain ⟨hkind, rfl, -⟩ := describes_word.1 hmark
        exact hsymbols.1 hkind
      · exact ih hsymbols.2 hword

/-- What is put between parts takes nothing out of them. -/
theorem subset_intercalate {separator : Mark} {part : List Mark} {parts : List (List Mark)}
    (hpart : part ∈ parts) : part ⊆ [separator].intercalate parts := by
  intro mark hmark
  rcases List.eq_nil_or_concat parts with rfl | ⟨earlier, last, rfl⟩
  · cases hpart
  rw [List.concat_eq_append, List.mem_append, List.mem_singleton] at hpart
  rw [List.concat_eq_append, intercalate_concat]
  rcases hpart with hpart | rfl
  · exact List.mem_append_left _
      (List.mem_flatMap.2 ⟨part, hpart, List.mem_append_left _ hmark⟩)
  · exact List.mem_append_right _ hmark

end Mark

namespace Node

/-- Only an operation has a level, the one that its symbol has in the table. -/
theorem exists_of_level? {operators : OperatorTable} {node : Node} {level : Level}
    (h : node.level? operators = some level) :
    ∃ symbol position, word .operator symbol position ∈ node.marks ∧
      ∀ table, node.level? table = table.level? symbol := by
  cases node with
  | operator symbol left right position => exact ⟨symbol, position, by simp [marks], fun _ => rfl⟩
  | _ => cases h

/-- An operand that has a level in the second table has one in the first, for the same symbol. -/
theorem exists_level?_of_ranksAlike (hranks : first.RanksAlike second symbols) {node : Node}
    (hsymbols : OperatorsIn symbols node.marks) {level' : Level}
    (h : node.level? second = some level') :
    ∃ symbol ∈ symbols, ∃ level, node.level? first = some level ∧
      first.level? symbol = some level ∧ second.level? symbol = some level' := by
  obtain ⟨symbol, position, hword, hlevel⟩ := exists_of_level? h
  have hin := hsymbols symbol position hword
  have hsecond := (hlevel second).symm.trans h
  obtain ⟨level, hfirst⟩ := hranks.symm.exists_level? hin hsecond
  exact ⟨symbol, hin, level, (hlevel first).trans hfirst, hfirst, hsecond⟩

/-- An expression is canonical for every table that ranks its operators alike. -/
theorem IsExpression.of_ranksAlike (hranks : first.RanksAlike second symbols) {node : Node}
    (h : node.IsExpression first) (hsymbols : OperatorsIn symbols node.marks) :
    node.IsExpression second := by
  induction h with
  | identifier | string | number | boolean => constructor
  | @call name arguments position harguments ih =>
      refine .call fun argument hargument => ih argument hargument (hsymbols.of_subset ?_)
      intro mark hmark
      have hinside : mark ∈ [sign .comma].intercalate (arguments.map marks) :=
        subset_intercalate (List.mem_map_of_mem hargument) hmark
      rw [marks, marksEach_eq_map]
      exact List.mem_cons_of_mem _ (List.mem_cons_of_mem _ (List.mem_append_left _ hinside))
  | group hinner ih =>
      exact .group (ih (hsymbols.of_subset fun mark hmark => by simp [marks, hmark]))
  | @operator symbol level left right position hsymbol hleft hright hloose htight ihleft ihright =>
      have hin : symbol ∈ symbols := hsymbols symbol position (by simp [marks])
      have hleftSymbols : OperatorsIn symbols left.marks :=
        hsymbols.of_subset fun mark hmark => by simp [marks, hmark]
      have hrightSymbols : OperatorsIn symbols right.marks :=
        hsymbols.of_subset fun mark hmark => by simp [marks, hmark]
      obtain ⟨level', hsymbol'⟩ := hranks.exists_level? hin hsymbol
      refine .operator hsymbol' (ihleft hleftSymbols) (ihright hrightSymbols) ?_ ?_
      · intro other' hother'
        obtain ⟨inner, hinnerIn, other, hother, hinner, hinner'⟩ :=
          exists_level?_of_ranksAlike hranks hleftSymbols hother'
        have hlt := hranks.lt_iff hin hinnerIn hsymbol hinner hsymbol' hinner'
        exact Fin.not_lt.1 (hlt.not.1 (Fin.not_lt.2 (hloose other hother)))
      · intro other' hother'
        obtain ⟨inner, hinnerIn, other, hother, hinner, hinner'⟩ :=
          exists_level?_of_ranksAlike hranks hrightSymbols hother'
        exact (hranks.lt_iff hinnerIn hin hinner hsymbol hinner' hsymbol').1 (htight other hother)

theorem IsLine.of_ranksAlike (hranks : first.RanksAlike second symbols) {node : Node}
    (h : node.IsLine first) (hsymbols : OperatorsIn symbols node.marks) :
    node.IsLine second := by
  cases h with
  | expression hvalue => exact .expression (hvalue.of_ranksAlike hranks hsymbols)
  | assignment hvalue =>
      exact .assignment (hvalue.of_ranksAlike hranks
        (hsymbols.of_subset fun mark hmark => by simp [marks, hmark]))
  | declaration hvalue =>
      exact .declaration (hvalue.of_ranksAlike hranks
        (hsymbols.of_subset fun mark hmark => by simp [marks, hmark]))

end Node

theorem Program.IsCanonical.of_ranksAlike (hranks : first.RanksAlike second symbols)
    {program : Program} (h : program.IsCanonical first) {lexemes : List Lexeme}
    (hmarks : DescribeAll program.marks lexemes)
    (hsymbols : ∀ lexeme ∈ lexemes, lexeme.kind = .operator → lexeme.value ∈ symbols) :
    program.IsCanonical second := by
  obtain ⟨statements⟩ := program
  induction statements using List.reverseRecOn generalizing lexemes with
  | nil => exact nofun
  | append_singleton earlier last ih =>
      obtain ⟨hearlier, child, hchildren, hline, hstart⟩ := isCanonical_concat.1 h
      rw [marks_concat] at hmarks
      obtain ⟨before, after, hbefore, hafter, rfl⟩ := describeAll_append.1 hmarks
      rw [List.forall_mem_append] at hsymbols
      rw [Statement.marks, hchildren, List.flatMap_singleton] at hafter
      have hlast := (Node.describeAll_startAt.1 hafter).2.operatorsIn hsymbols.2
      have hchild : OperatorsIn symbols child.marks :=
        hlast.of_subset (List.subset_append_left _ _)
      exact isCanonical_concat.2 ⟨ih hsymbols.1 hearlier hbefore, child, hchildren,
        hline.of_ranksAlike hranks hchild, hstart⟩

/-! ## The same parse -/

namespace Grammar

/-- The symbols that stand for operators among readings. -/
def operatorSymbols (readings : List Reading) : List String :=
  ((lexemes readings).filter fun lexeme => lexeme.kind = .operator).map Lexeme.value

theorem mem_operatorSymbols {readings : List Reading} {lexeme : Lexeme}
    (h : lexeme ∈ lexemes readings) (hkind : lexeme.kind = .operator) :
    lexeme.value ∈ operatorSymbols readings :=
  List.mem_map_of_mem (List.mem_filter.2 ⟨h, decide_eq_true hkind⟩)

theorem mem_lexemes_of_mem_filter {readings : List Reading} {lexeme : Lexeme}
    (h : .ok lexeme ∈ readings.filter matters) : lexeme ∈ lexemes readings := by
  induction readings with
  | nil => cases h
  | cons reading rest ih =>
      cases reading with
      | error e =>
          rw [List.filter_cons_of_pos rfl] at h
          rw [lexemes]
          exact ih (by simpa using h)
      | ok read =>
          rw [lexemes]
          by_cases hkind : read.kind = .whitespace
          · rw [List.filter_cons_of_neg (by simp [matters, hkind])] at h
            rw [if_pos hkind]
            exact ih h
          · rw [List.filter_cons_of_pos (by simp [matters, hkind])] at h
            rw [if_neg hkind]
            rcases List.mem_cons.1 h with hread | hrest
            · cases hread
              exact List.mem_cons_self
            · exact List.mem_cons_of_mem _ (ih hrest)

end Grammar

theorem isBeginning_iff_of_ranksAlike (hranks : first.RanksAlike second symbols)
    {lexemes : List Lexeme}
    (hsymbols : ∀ lexeme ∈ lexemes, lexeme.kind = .operator → lexeme.value ∈ symbols) :
    IsBeginning first lexemes ↔ IsBeginning second lexemes := by
  rw [isBeginning_iff, isBeginning_iff]
  refine and_congr_left fun _ => ?_
  exact forall₂_congr fun lexeme hlexeme => hranks.isValid_iff (hsymbols lexeme hlexeme)

/-- Readings stop at the same item under tables that rank their operators alike. -/
theorem Stops.of_ranksAlike {readings : List Reading} {before : List Lexeme} {item : Reading}
    (h : Stops first (readings.filter matters) before item)
    (hranks : first.RanksAlike second (operatorSymbols readings)) :
    Stops second (readings.filter matters) before item := by
  obtain ⟨⟨after, hafter⟩, hbeginning, hhopeless⟩ := h
  have hsymbols : ∀ lexeme, .ok lexeme ∈ before.map .ok ++ item :: after →
      lexeme.kind = .operator → lexeme.value ∈ operatorSymbols readings :=
    fun lexeme hlexeme => mem_operatorSymbols (mem_lexemes_of_mem_filter (hafter ▸ hlexeme))
  have hbefore : ∀ lexeme ∈ before, lexeme.kind = .operator →
      lexeme.value ∈ operatorSymbols readings :=
    fun lexeme hlexeme => hsymbols lexeme (List.mem_append_left _ (List.mem_map_of_mem hlexeme))
  refine ⟨⟨after, hafter⟩, (isBeginning_iff_of_ranksAlike hranks hbefore).1 hbeginning, ?_⟩
  rintro lexeme rfl hlonger
  refine hhopeless lexeme rfl ((isBeginning_iff_of_ranksAlike hranks ?_).2 hlonger)
  refine List.forall_mem_append.2 ⟨hbefore, ?_⟩
  rw [List.forall_mem_singleton]
  exact hsymbols lexeme (List.mem_append_right _ List.mem_cons_self)

/-- Readings that stop under one table are not the beginning of a program under the other. -/
theorem Stops.not_isBeginning_of_ranksAlike {readings : List Reading}
    {before lexemes : List Lexeme} {item : Reading}
    (h : Stops first (readings.filter matters) before item)
    (hranks : first.RanksAlike second (operatorSymbols readings))
    (hreadings : readings.filter matters = lexemes.map .ok) : ¬ IsBeginning second lexemes := by
  have hstops := h.of_ranksAlike hranks
  rw [hreadings] at hstops
  exact hstops.not_isBeginning

namespace Dialect

variable {dialect other : Dialect} {readings : List Reading} {parsed : Program} {e e' : ParseError}

theorem parseReadings_of_ranksAlike
    (hranks : dialect.operators.RanksAlike other.operators (operatorSymbols readings))
    (h : dialect.parseReadings readings = .ok parsed) :
    other.parseReadings readings = .ok parsed := by
  obtain ⟨hcanonical, herrors, hmarks⟩ := parseReadings_eq_ok_iff.1 h
  exact parseReadings_eq_ok_iff.2 ⟨hcanonical.of_ranksAlike hranks hmarks
    fun lexeme hlexeme => mem_operatorSymbols hlexeme, herrors, hmarks⟩

/-- Two parses that fail do so at the same item, and for the same reason. -/
theorem error_eq_of_ranksAlike
    (hranks : dialect.operators.RanksAlike other.operators (operatorSymbols readings))
    (h : dialect.parseReadings readings = .error e)
    (h' : other.parseReadings readings = .error e') : e = e' := by
  rcases exists_stops h with ⟨before, item, hstops, hrejects⟩ |
    ⟨earlier, last, hreadings, rfl, hbeginning⟩ <;>
  rcases exists_stops h' with ⟨before', item', hstops', hrejects'⟩ |
    ⟨earlier', last', hreadings', rfl, hbeginning'⟩
  · obtain ⟨rfl, rfl⟩ := (hstops.of_ranksAlike hranks).unique hstops'
    exact hrejects.unique hrejects'
  · exact absurd hbeginning' (hstops.not_isBeginning_of_ranksAlike hranks hreadings')
  · exact absurd hbeginning (hstops'.not_isBeginning_of_ranksAlike hranks.symm hreadings)
  · have hlexemes := map_ok_inj.1 (hreadings.symm.trans hreadings')
    obtain ⟨-, hlast⟩ := List.append_inj' hlexemes rfl
    cases hlast
    rfl

/-- Only the order of levels matters: dialects whose tables register the same of the operators among
readings, and rank any two of them alike, parse the readings alike. -/
theorem parseReadings_eq_of_ranksAlike
    (hranks : dialect.operators.RanksAlike other.operators (operatorSymbols readings)) :
    dialect.parseReadings readings = other.parseReadings readings := by
  cases h : dialect.parseReadings readings with
  | ok parsed => exact (parseReadings_of_ranksAlike hranks h).symm
  | error e =>
      cases h' : other.parseReadings readings with
      | ok parsed => cases h.symm.trans (parseReadings_of_ranksAlike hranks.symm h')
      | error e' => rw [error_eq_of_ranksAlike hranks h h']

/-- A dialect with fewer operators than the stock language, at levels of its own. -/
def sparse (low high : Level) : Dialect := ⟨.stock, .ofList [("+", low), ("*", high)]⟩

theorem ranksAlike_sparse :
    stock.operators.RanksAlike (sparse 17 200).operators (operatorSymbols productReadings) := by
  have hsymbols : operatorSymbols productReadings = ["+", "*"] := by decide
  rw [hsymbols]
  constructor
  · decide
  · decide

theorem parseReadings_eq_of_ranksAlike_sparse :
    stock.operators.RanksAlike (sparse 17 200).operators (operatorSymbols productReadings) ∧
      (sparse 17 200).parseReadings productReadings = .ok product :=
  ⟨ranksAlike_sparse,
    (parseReadings_eq_of_ranksAlike ranksAlike_sparse).symm.trans parseReadings_eq_product⟩

end Dialect

end Scriptlet
