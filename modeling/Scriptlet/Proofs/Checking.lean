/-
# Checking agrees with reading each source

Checking goes through the sources at a path in the order of a walk. It says of each what the command
that prints the program of a source comes to: the status line tells whether that command succeeds,
and the reports on the source are the reports of that command. Nothing that happens to one source
has a say in what is said of another.
-/

import Mathlib.Data.List.Forall2
import Scriptlet.Command.Run
import Scriptlet.Proofs.Sources

namespace Scriptlet.Command

/-! ## The verdicts -/

/-- The code of a report on an error. -/
def Notice.code? : Notice → Option String
  | route _ => none
  | error e => some e.code

/-- The codes of the errors that are reported. -/
def Outcome.codes (outcome : Outcome) : List String := outcome.notices.filterMap Notice.code?

/-- The status line of a source, without the line feed that ends it. -/
def statusLine (passed : Prop) [Decidable passed] (source : String) : String :=
  (if passed then "  ok " else "FAIL ") ++ source

/-- The sources that fail, where `alone` tells what comes of each source by itself. -/
def failing (alone : String → Outcome) (sources : List String) : List String :=
  sources.filter fun source => (alone source).exitCode ≠ 0

/-- The line that counts the sources, without the line feed that ends it. -/
def summaryLine (total failed : Nat) : String :=
  toString total ++ " checked, " ++ toString failed ++ " failed"

/-- One line for each source, and one that counts, where `alone` tells what comes of each source by
itself. -/
def statusLines (alone : String → Outcome) (sources : List String) : List String :=
  (sources.map fun source => statusLine ((alone source).exitCode = 0) source) ++
    [summaryLine sources.length (failing alone sources).length]

/-- What checking some sources comes to, where `alone` tells what comes of each by itself. -/
structure Checks (alone : String → Outcome) (sources : List String) (outcome : Outcome) : Prop where
  output : outcome.output = String.join ((statusLines alone sources).map (· ++ "\n"))
  /-- A line holds a line feed only if a path does. -/
  oneLine : (∀ source ∈ sources, '\n' ∉ source.toList) →
    ∀ line ∈ statusLines alone sources, '\n' ∉ line.toList
  /-- One code for each source that fails, and one that says that there are such. -/
  codes : ∃ codes, List.Forall₂ (fun source code => (alone source).codes = [code])
      (failing alone sources) codes ∧
    outcome.codes = codes ++ if failing alone sources = [] then [] else ["jaslang::cli::check"]
  exitCode : outcome.exitCode = 0 ↔ failing alone sources = []

variable {files : Files} {dialectFile : Option String} {dialect : Dialect} {route : Bool}
  {source : String} {entry : Entry}

/-- The verdict on a source that comes to an outcome by itself. -/
def verdictOf (source : String) (alone : Outcome) : Verdict :=
  ⟨alone.exitCode = 0, statusLine (alone.exitCode = 0) source ++ "\n", alone.notices⟩

theorem run_ast (hdialect : loadDialect files dialectFile = .ok dialect) :
    Arguments.run files ⟨dialectFile, route, .ast source⟩ =
      match parseSource dialect source (files source) with
      | .error e => .failure route "" [] e
      | .ok program => .success (program.toJson.text ++ "\n") := by
  rw [Arguments.run, hdialect]
  rfl

/-- Checking a source comes to what its program comes to. -/
theorem checkSource_eq (hdialect : loadDialect files dialectFile = .ok dialect)
    (hsource : files source = some entry) :
    checkSource dialect route source entry =
      verdictOf source (Arguments.run files ⟨dialectFile, route, .ast source⟩) := by
  rw [run_ast hdialect, checkSource, hsource]
  cases parseSource dialect source (some entry) <;> rfl

theorem codes_failure (output : String) (earlier : List Notice) (e : CommandError) :
    (Outcome.failure route output earlier e).codes =
      earlier.filterMap Notice.code? ++ [e.code] := by
  rw [Outcome.codes, Outcome.failure, noticesOf, List.filterMap_append, List.filterMap_append]
  cases route
  · rfl
  · cases e.route? <;> rfl

/-- A source that fails is reported with one code, and a source that does not with none. -/
theorem codes_run_ast (hdialect : loadDialect files dialectFile = .ok dialect) (source : String) :
    let alone := Arguments.run files ⟨dialectFile, route, .ast source⟩
    alone.exitCode = 0 ∧ alone.codes = [] ∨ alone.exitCode ≠ 0 ∧ ∃ code, alone.codes = [code] := by
  intro alone
  rw [show alone = _ from run_ast hdialect]
  split
  · exact .inr ⟨Nat.one_ne_zero, _, codes_failure _ _ _⟩
  · exact .inl ⟨rfl, rfl⟩

/-- The codes of sources that come to at most one code each are those of the sources that fail. -/
theorem exists_codes {alone : String → Outcome} {sources : List String}
    (halone : ∀ source, (alone source).exitCode = 0 ∧ (alone source).codes = [] ∨
      (alone source).exitCode ≠ 0 ∧ ∃ code, (alone source).codes = [code]) :
    List.Forall₂ (fun source code => (alone source).codes = [code]) (failing alone sources)
      (sources.flatMap fun source => (alone source).codes) := by
  induction sources with
  | nil => exact .nil
  | cons source rest ih =>
      rw [failing, List.filter_cons, List.flatMap_cons]
      rcases halone source with ⟨hpass, hcodes⟩ | ⟨hfail, code, hcodes⟩
      · rw [if_neg (by simpa using hpass), hcodes]
        exact ih
      · rw [if_pos (by simpa using hfail), hcodes]
        exact .cons hcodes ih

/-- Neither the words nor the numbers of the lines hold a line feed. -/
theorem oneLine_statusLines {alone : String → Outcome} {sources : List String}
    (hsources : ∀ source ∈ sources, '\n' ∉ source.toList) :
    ∀ line ∈ statusLines alone sources, '\n' ∉ line.toList := by
  have hdigits : ∀ n : Nat, '\n' ∉ Nat.toDigits 10 n := fun n hmem => by
    cases Nat.isDigit_of_mem_toDigits (by decide) (by decide) hmem
  intro line hline
  rcases List.mem_append.1 hline with hstatus | hcount
  · obtain ⟨source, hsource, rfl⟩ := List.mem_map.1 hstatus
    have hfree := hsources source hsource
    unfold statusLine
    split <;> simp [hfree]
  · rw [List.mem_singleton.1 hcount]
    simp [summaryLine, hdigits]

theorem join_statusLines (alone : String → Outcome) (sources : List String) :
    String.join ((statusLines alone sources).map (· ++ "\n")) =
      String.join ((sources.map fun source => verdictOf source (alone source)).map Verdict.line) ++
        s!"{sources.length} checked, {(failing alone sources).length} failed\n" := by
  have hsummary : summaryLine sources.length (failing alone sources).length ++ "\n" =
      s!"{sources.length} checked, {(failing alone sources).length} failed\n" := by
    rw [summaryLine, String.append_assoc]
    rfl
  rw [← hsummary, statusLines, List.map_append, List.map_map, List.map_map]
  apply String.toList_inj.1
  simp [String.toList_join, Function.comp_def, verdictOf]

/-- The verdicts on sources, taken together, tell what each source comes to. -/
theorem checks_of_verdicts {alone : String → Outcome} {sources : List String} {path : String}
    {entry : Option Entry}
    (halone : ∀ source, (alone source).exitCode = 0 ∧ (alone source).codes = [] ∨
      (alone source).exitCode ≠ 0 ∧ ∃ code, (alone source).codes = [code])
    (hverdicts : (((entry.map (sourcesAt path)).getD []).map fun (path, entry) =>
      checkSource dialect route path entry) =
        sources.map fun source => verdictOf source (alone source))
    (hne : sources ≠ []) : Checks alone sources (check dialect route path entry) := by
  have hfailed : (sources.map fun source => verdictOf source (alone source)).countP
      (fun verdict => !verdict.passed) = (failing alone sources).length := by
    rw [List.countP_map, List.countP_eq_length_filter, failing]
    simp only [Function.comp_def, verdictOf, decide_not]
  have hnotices : ((sources.map fun source => verdictOf source (alone source)).flatMap
      Verdict.notices).filterMap Notice.code? =
        sources.flatMap fun source => (alone source).codes := by
    rw [List.flatMap_map, List.filterMap_flatMap]
    rfl
  have houtput := join_statusLines alone sources
  unfold check
  split
  · next h =>
      rw [h] at hverdicts
      exact absurd (List.map_eq_nil_iff.1 hverdicts.symm) hne
  · simp only [hverdicts, hfailed, List.length_map]
    split
    · next hnil =>
        have hnil := List.length_eq_zero_iff.1 hnil
        refine ⟨houtput.symm, oneLine_statusLines, ⟨_, exists_codes halone, ?_⟩,
          iff_of_true rfl hnil⟩
        rw [if_pos hnil, List.append_nil, Outcome.codes, hnotices]
    · next hsome =>
        have hsome := mt List.length_eq_zero_iff.2 hsome
        refine ⟨houtput.symm, oneLine_statusLines, ⟨_, exists_codes halone, ?_⟩,
          iff_of_false Nat.one_ne_zero hsome⟩
        rw [if_neg hsome, codes_failure, hnotices]
        rfl

/-- Checking goes through the sources at a path, each of them once and in the order of a walk, and
comes to what the command that prints its program comes to for each of them. Without sources nothing
is written, and that is an error. -/
theorem check_agrees_with_ast {system : FileSystem} (hroot : system.root.IsTree)
    {arguments : List String} {path : String}
    (harguments : Request.ofList arguments = .run ⟨dialectFile, route, .check path⟩)
    (hdialect : loadDialect system.at? dialectFile = .ok dialect) :
    let sources := system.sourcePaths path
    let outcome := (Request.ofList arguments).answer system.at?
    sources.Nodup ∧ (∀ source, source ∈ sources ↔ system.HasSource path source) ∧
      (sources = [] → outcome.exitCode = 1 ∧ outcome.output = "") ∧
      (sources ≠ [] → Checks (fun source =>
        Arguments.run system.at? ⟨dialectFile, route, .ast source⟩) sources outcome) := by
  have hanswer : (Request.ofList arguments).answer system.at? =
      check dialect route path (system.at? path) := by
    rw [harguments, Request.answer, Arguments.run, hdialect]
    rfl
  intro sources outcome
  rw [show outcome = _ from hanswer]
  refine ⟨FileSystem.nodup_sourcePaths hroot, fun source => FileSystem.mem_sourcePaths_iff,
    fun hnil => ?_, fun hne => ?_⟩
  · have hfound : ((system.at? path).map (sourcesAt path)).getD [] = [] :=
      List.map_eq_nil_iff.1 ((FileSystem.map_fst_sourcesAt hroot).trans hnil)
    rw [check, hfound]
    exact ⟨rfl, rfl⟩
  · refine checks_of_verdicts (codes_run_ast hdialect) ?_ hne
    rw [show sources = _ from (FileSystem.map_fst_sourcesAt hroot).symm, List.map_map]
    refine List.map_congr_left fun found hmem => ?_
    exact checkSource_eq hdialect (FileSystem.at?_of_mem_sourcesAt hroot hmem)

/-- A blank source, a source that cannot be read, a file that is no source, and a directory named
like a source with a lone semicolon in it. -/
def mixedTree : Entry :=
  .directory [("b.jsl", .file none), ("a.jsl", .file (some "")), ("notes.txt", .file (some "")),
    ("c.jsl", .directory [("d.jsl", .file (some ";"))])]

/-- The tree in a root directory. Commands are given in the innermost directory. -/
def mixedSystem : FileSystem := ⟨.directory [("src", mixedTree)], "/src/c.jsl"⟩

theorem isTree_mixedTree : mixedTree.IsTree := by
  have hinner : (Entry.directory [("d.jsl", .file (some ";"))]).IsTree := by
    refine .directory ?_ (by decide) (by simp [Entry.IsTree.file])
    simp [IsName]
  refine .directory (by simp [IsName]) (by decide) ?_
  simp [Entry.IsTree.file, hinner]

theorem isTree_mixedSystem : mixedSystem.root.IsTree :=
  .directory (by simp [IsName]) (by decide) (List.forall_mem_singleton.2 isTree_mixedTree)

theorem visit_mixedTree : mixedTree.visit =
    [(["a.jsl"], .file (some "")), (["b.jsl"], .file none), (["c.jsl", "d.jsl"], .file (some ";")),
      (["notes.txt"], .file (some ""))] := by
  refine Entry.visit_eq_of_perm isTree_mixedTree ?_ (by decide +kernel)
  exact (List.Perm.swap _ _ _).trans (.cons _ (.cons _ (.swap _ _ _)))

/-- Checked from inside, by a path that leads up and by one that starts at the root. -/
theorem check_agrees_with_ast_mixedSystem :
    ((Request.ofList ["check", ".."]).answer mixedSystem.at?).output =
      "  ok ../a.jsl\nFAIL ../b.jsl\nFAIL ../c.jsl/d.jsl\n3 checked, 2 failed\n" ∧
    ((Request.ofList ["check", "/src/c.jsl"]).answer mixedSystem.at?).exitCode ≠ 0 := by
  constructor
  · have hfound : mixedSystem.at? ".." = some mixedTree := by
      have habsolute : segments (mixedSystem.absolute "..") = ["", "src", "c.jsl", ".."] := by
        decide +kernel
      rw [FileSystem.at?, if_neg (by decide), Entry.at?, habsolute]
      rfl
    have hsources : mixedSystem.sourcePaths ".." = ["../a.jsl", "../b.jsl", "../c.jsl/d.jsl"] := by
      have hbeneath := visit_mixedTree
      rw [mixedTree] at hfound hbeneath
      simp only [FileSystem.sourcePaths, hfound, Entry.sourcesBeneath, hbeneath]
      decide +kernel
    obtain ⟨-, -, -, hchecks⟩ := @check_agrees_with_ast none .stock false mixedSystem
      isTree_mixedSystem ["check", ".."] ".." (by decide +kernel) rfl
    rw [hsources] at hchecks
    have hfirst : (Arguments.run mixedSystem.at? ⟨none, false, .ast "../a.jsl"⟩).exitCode = 0 := by
      decide +kernel
    have hsecond : (Arguments.run mixedSystem.at? ⟨none, false, .ast "../b.jsl"⟩).exitCode = 1 := by
      decide +kernel
    have hthird :
        (Arguments.run mixedSystem.at? ⟨none, false, .ast "../c.jsl/d.jsl"⟩).exitCode = 1 := by
      decide +kernel
    rw [(hchecks (List.cons_ne_nil _ _)).output]
    simp only [statusLines, failing, List.filter_cons, List.map_cons, hfirst, hsecond, hthird]
    rfl
  · have hsources : mixedSystem.sourcePaths "/src/c.jsl" = ["/src/c.jsl/d.jsl"] := by
      decide +kernel
    obtain ⟨-, -, -, hchecks⟩ := @check_agrees_with_ast none .stock false mixedSystem
      isTree_mixedSystem ["check", "/src/c.jsl"] "/src/c.jsl" (by decide +kernel) rfl
    rw [hsources] at hchecks
    have halone : (Arguments.run mixedSystem.at? ⟨none, false, .ast "/src/c.jsl/d.jsl"⟩).exitCode =
        1 := by
      decide +kernel
    rw [ne_eq, (hchecks (List.cons_ne_nil _ _)).exitCode, failing, List.filter_cons]
    simp [halone]

end Scriptlet.Command
