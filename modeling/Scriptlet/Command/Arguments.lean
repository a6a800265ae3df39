/-
# Command lines

A command line names a task with its file, after options that hold for every task and may stand
before or after the name of the task. An option that is given after the name wins over the same
option before it; given twice in one place it is an error. Two dashes end the options.
-/

namespace Scriptlet.Command

/-- What is to be done. -/
inductive Task
  | tokens (file : String) (json : Bool)
  | ast (file : String)
  | check (path : String)
  deriving DecidableEq

/-- A task with the options that hold for every task. -/
structure Arguments where
  /-- The file that defines the dialect. -/
  dialect : Option String
  /-- Whether routes are reported. -/
  route : Bool
  task : Task
  deriving DecidableEq

/-- What a command line asks for. -/
inductive Request
  | run (arguments : Arguments)
  | version
  | help
  /-- The command line makes no sense. -/
  | misuse
  deriving DecidableEq

/-- What has been read of a command line in one place. -/
structure Options where
  dialect : Option String
  route : Bool
  json : Bool
  operand : Option String

namespace Options

/-- Nothing has been read. -/
def empty : Options := ⟨none, false, false, none⟩

/-- Takes the file of a dialect. -/
def takeDialect? (options : Options) (file : String) : Option Options :=
  if file.isEmpty || options.dialect.isSome then none
  else some { options with dialect := some file }

/-- Takes the option that asks for routes. -/
def takeRoute? (options : Options) : Option Options :=
  if options.route then none else some { options with route := true }

/-- Takes the option that asks for structured text, where it is allowed. -/
def takeJson? (options : Options) (allowed : Bool) : Option Options :=
  if !allowed || options.json then none else some { options with json := true }

/-- Takes the one operand there may be. -/
def takeOperand? (options : Options) (operand : String) : Option Options :=
  if operand.isEmpty || options.operand.isSome then none
  else some { options with operand := some operand }

/-- Options after the name of a task, on top of those before it. -/
def merge (inner outer : Options) : Options :=
  { inner with dialect := inner.dialect <|> outer.dialect, route := inner.route || outer.route }

end Options

/-- Whether an argument looks like an option. -/
def isOption (argument : String) : Bool :=
  argument.startsWith "-" && argument != "-"

/-- The value of the dialect option, if an argument holds both. -/
def joinedDialect? (argument : String) : Option String :=
  if argument.startsWith "--dialect=" then some (argument.drop "--dialect=".length).toString
  else none

/-- What stands after the name of a task: options and an operand. -/
def readTask (json : Bool) (finish : Options → Request) : Options → List String → Request
  | options, [] => finish options
  | options, "--" :: operands =>
    match operands.foldlM Options.takeOperand? options with
    | some options => finish options
    | none => .misuse
  | options, "--dialect" :: file :: rest =>
    if isOption file then .misuse
    else
      match options.takeDialect? file with
      | some options => readTask json finish options rest
      | none => .misuse
  | options, argument :: rest =>
    let taken :=
      if argument = "--route" then options.takeRoute?
      else if argument = "--json" then options.takeJson? json
      else
        match joinedDialect? argument with
        | some file => options.takeDialect? file
        | none => if isOption argument then none else options.takeOperand? argument
    if argument = "--help" ∨ argument.startsWith "-h" then .help
    else
      match taken with
      | some options => readTask json finish options rest
      | none => .misuse

/-- The request for a task, once its options are known. -/
def Options.request (options : Options) (task : Option Task) : Request :=
  match task with
  | some task => .run ⟨options.dialect, options.route, task⟩
  | none => .misuse

/-- What stands after the word that asks for help: nothing, or one thing to be helped with. -/
def readHelp : List String → Request
  | [] => .help
  | [topic] => if ["tokens", "ast", "check", "help"].contains topic then .help else .misuse
  | _ => .misuse

/-- The whole of a command line. -/
def readArguments : Options → List String → Request
  | _, [] => .misuse
  | outer, "tokens" :: rest =>
    readTask true (fun options => (options.merge outer).request
      (options.operand.map fun file => .tokens file options.json)) .empty rest
  | outer, "ast" :: rest =>
    readTask false (fun options => (options.merge outer).request (options.operand.map .ast)) .empty
      rest
  | outer, "check" :: rest =>
    readTask false (fun options => (options.merge outer).request
      (some (.check (options.operand.getD ".")))) .empty rest
  | _, "help" :: topics => readHelp topics
  | outer, "--dialect" :: file :: rest =>
    if isOption file then .misuse
    else
      match outer.takeDialect? file with
      | some options => readArguments options rest
      | none => .misuse
  | outer, argument :: rest =>
    let taken :=
      if argument = "--route" then outer.takeRoute?
      else (joinedDialect? argument).bind outer.takeDialect?
    if argument = "--version" ∨ argument.startsWith "-V" then .version
    else if argument = "--help" ∨ argument.startsWith "-h" then .help
    else
      match taken with
      | some options => readArguments options rest
      | none => .misuse

namespace Request

/-- What a command line asks for. -/
def ofList (arguments : List String) : Request := readArguments .empty arguments

end Request

end Scriptlet.Command
