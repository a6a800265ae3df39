/-
# Running a command line

A command reads its files, writes what it finds to one stream and reports errors to another, and
ends with an exit code: zero if all went well, one after an error, two if the command line makes no
sense. Checking goes on after a file that fails, and fails at the end.
-/

import Scriptlet.Command.Arguments
import Scriptlet.Command.Files
import Scriptlet.Command.Listing
import Scriptlet.Diagnosis
import Scriptlet.Dialect.Read
import Scriptlet.Json.Program
import Scriptlet.Syntax.Parse

namespace Scriptlet.Command

/-- What stops a command. -/
inductive CommandError
  /-- A source cannot be read. -/
  | unreadable (path : String)
  /-- There is nothing to check. -/
  | noSources (path : String)
  /-- Some of the sources that were checked have errors. -/
  | checkFailed (failed total : Nat)
  /-- The dialect cannot be used. -/
  | dialect (e : DialectError)
  /-- A source has an error. -/
  | source (diagnosis : Diagnosis)
  deriving DecidableEq

namespace CommandError

/-- What a message says about an error of a command. -/
def message : CommandError → String
  | unreadable path => s!"Cannot read {path}"
  | noSources path => s!"No .jsl files found under {path}"
  | checkFailed failed total => s!"{failed} of {total} files failed to parse"
  | dialect e => e.message
  | source diagnosis => diagnosis.message

/-- The code that identifies an error of a command. -/
def code : CommandError → String
  | unreadable _ => "jaslang::cli::read"
  | noSources _ => "jaslang::cli::no_sources"
  | checkFailed .. => "jaslang::cli::check"
  | dialect e => e.code
  | source _ => Diagnosis.code

/-- The route up to a rejected lexeme. -/
def route? : CommandError → Option String
  | source diagnosis => diagnosis.error.route?
  | _ => none

end CommandError

/-- A report on an error. -/
inductive Notice
  | route (trace : String)
  | error (e : CommandError)
  deriving DecidableEq

namespace Notice

/-- The line that a report starts with. -/
def heading : Notice → String
  | route trace => s!"route: {trace}"
  | error e => e.code

end Notice

/-- The reports on an error; the route comes first, if it is asked for and known. -/
def noticesOf (route : Bool) (e : CommandError) : List Notice :=
  (if route then e.route?.toList.map .route else []) ++ [.error e]

/-- What a command leaves. -/
structure Outcome where
  exitCode : Nat
  output : String
  notices : List Notice

namespace Outcome

/-- All went well. -/
def success (output : String) : Outcome := ⟨0, output, []⟩

/-- An error, after some output and reports. -/
def failure (route : Bool) (output : String) (earlier : List Notice) (e : CommandError) :
    Outcome :=
  ⟨1, output, earlier ++ noticesOf route e⟩

end Outcome

/-- Where files are found. -/
abbrev Files := String → Option Entry

/-- The text of a source. -/
def readSource (path : String) (entry : Option Entry) : Except CommandError String :=
  match entry.bind Entry.text? with
  | some text => .ok text
  | none => .error (.unreadable path)

/-- The program of a source. -/
def parseSource (dialect : Dialect) (path : String) (entry : Option Entry) :
    Except CommandError Program := do
  let text ← readSource path entry
  (dialect.parse text).mapError fun e => .source (.of text e)

/-- The lexemes of a source. -/
def scanSource (dialect : Dialect) (path : String) (entry : Option Entry) :
    Except CommandError (List Lexeme) := do
  let text ← readSource path entry
  (dialect.lexicon.lexemes text).mapError fun e => .source (.of text (.scan e))

/-- The dialect of a file, or the stock language. -/
def loadDialect (files : Files) : Option String → Except CommandError Dialect
  | none => .ok .stock
  | some path =>
    match (files path).bind Entry.text? with
    | some text => (Dialect.ofYaml text).mapError .dialect
    | none => .error (.dialect (.unreadable path))

/-- What checking one source leaves: whether it passed, its status line and its reports. -/
structure Verdict where
  passed : Bool
  line : String
  notices : List Notice

/-- Checks one source. -/
def checkSource (dialect : Dialect) (route : Bool) (path : String) (entry : Entry) : Verdict :=
  match parseSource dialect path (some entry) with
  | .ok _ => ⟨true, s!"  ok {path}\n", []⟩
  | .error e => ⟨false, s!"FAIL {path}\n", noticesOf route e⟩

/-- Checks the sources at a path. -/
def check (dialect : Dialect) (route : Bool) (path : String) (entry : Option Entry) : Outcome :=
  match (entry.map (sourcesAt path)).getD [] with
  | [] => .failure route "" [] (.noSources path)
  | sources =>
    let verdicts := sources.map fun (path, entry) => checkSource dialect route path entry
    let total := verdicts.length
    let failed := verdicts.countP fun verdict => !verdict.passed
    let output :=
      String.join (verdicts.map Verdict.line) ++ s!"{total} checked, {failed} failed\n"
    let notices := verdicts.flatMap Verdict.notices
    if failed = 0 then ⟨0, output, notices⟩
    else .failure route output notices (.checkFailed failed total)

/-- Does a task in a dialect. -/
def perform (files : Files) (dialect : Dialect) (route : Bool) : Task → Outcome
  | .tokens file json =>
    match scanSource dialect file (files file) with
    | .error e => .failure route "" [] e
    | .ok lexemes =>
      .success (if json then (Json.Value.array (lexemes.map Lexeme.toJson)).text ++ "\n"
        else listing lexemes)
  | .ast file =>
    match parseSource dialect file (files file) with
    | .error e => .failure route "" [] e
    | .ok program => .success (program.toJson.text ++ "\n")
  | .check path => check dialect route path (files path)

/-- Runs a command with its options. The dialect is looked at first. -/
def Arguments.run (files : Files) (arguments : Arguments) : Outcome :=
  match loadDialect files arguments.dialect with
  | .error e => .failure arguments.route "" [] e
  | .ok dialect => perform files dialect arguments.route arguments.task

/-- How the command is used. -/
def usage : String :=
  "Usage: jsl [--dialect FILE] [--route] tokens FILE [--json]\n"
    ++ "       jsl [--dialect FILE] [--route] ast FILE\n"
    ++ "       jsl [--dialect FILE] [--route] check [PATH]\n"

/-- Answers a request. -/
def Request.answer (files : Files) : Request → Outcome
  | .run arguments => arguments.run files
  | .version => .success "jsl 0.1.0\n"
  | .help => .success usage
  | .misuse => ⟨2, "", []⟩

end Scriptlet.Command
