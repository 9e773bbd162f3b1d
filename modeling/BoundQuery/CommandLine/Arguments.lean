import BoundQuery.Decimal.Reader
import BoundQuery.Query.Words

/-!
# Arguments of the command line

* `Switch`: an option of a command; `Given`: what was given to a command.
* `scan`: takes the arguments of a command one by one.
* `Invocation`: what the arguments ask for; `Invocation.ofArguments` reads them.

An option stands as `--name`, or as a letter in a group like `-vf`. A value follows as the next
argument, after `=`, or after the letter itself; a value that is an argument of its own starts with
no hyphen, unless it is one. After `--` nothing is an option.
-/

namespace BoundQuery

/-- Why arguments cannot be used. -/
inductive UsageFault where
  /-- An argument has no meaning. -/
  | unexpected (argument : String)
  /-- An option lacks its value. -/
  | noValue (option : String)
  /-- An option takes no value. -/
  | unwantedValue (option : String)
  /-- An option is given twice. -/
  | repeated (option : String)
  /-- A value is none of those that are possible. -/
  | badValue (option value : String)
  /-- Something that must be given is not. -/
  | missing (what : String)
  /-- There is no such command. -/
  | unknownCommand (name : String)
  /-- No command is given. -/
  | noCommand
deriving DecidableEq

/-- The text of the fault. -/
def UsageFault.message : UsageFault → String
  | .unexpected argument => "error: unexpected argument: " ++ argument
  | .noValue option => "error: a value is required for " ++ option
  | .unwantedValue option => "error: no value is possible for " ++ option
  | .repeated option => "error: given more than once: " ++ option
  | .badValue option value => "error: invalid value for " ++ option ++ ": " ++ value
  | .missing what => "error: not given: " ++ what
  | .unknownCommand name => "error: unrecognized command: " ++ name
  | .noCommand => "error: a command is required"

/-- Why no command is carried out. -/
inductive Stop where
  /-- The arguments cannot be used. -/
  | usage (fault : UsageFault)
  /-- Help is asked for. -/
  | help
  /-- The version is asked for. -/
  | version
deriving DecidableEq

/-! ### Options -/

/-- What an option does. -/
inductive SwitchKind where
  /-- It is there or not. -/
  | flag
  /-- It takes a value for which the test holds. -/
  | valued (accepts : String → Bool)
  /-- It asks for help. -/
  | help
  /-- It asks for the version. -/
  | version

/-- An option of a command. -/
structure Switch where
  /-- The name. -/
  name : String
  /-- The letter. -/
  letter : Option Char
  /-- What the option does. -/
  kind : SwitchKind

/-- What has been given to a command. -/
structure Given where
  /-- The options by name with their values; the value of a flag is empty. -/
  options : List (String × String)
  /-- The other arguments, in order. -/
  operands : List String

namespace Given

/-- The value of an option. -/
def value? (g : Given) (name : String) : Option String := g.options.lookup name

/-- Whether an option was given. -/
def has (g : Given) (name : String) : Bool := (g.value? name).isSome

/-- Adds an option, which must not be there yet. -/
def add (g : Given) (name value : String) : Except Stop Given :=
  if g.has name then .error (.usage (.repeated name))
  else .ok { g with options := g.options ++ [(name, value)] }

/-- Adds the value of an option. -/
def addValue (g : Given) (s : Switch) (accepts : String → Bool) (value : String) :
    Except Stop Given :=
  if accepts value then g.add s.name value else .error (.usage (.badValue s.name value))

end Given

/-- Where the scan of arguments stands: what was given, and an option that waits for its value. -/
structure Scan where
  /-- What was given. -/
  given : Given
  /-- The option that waits, with the test of its value. -/
  waiting : Option (Switch × (String → Bool))

/-- Takes an option that has a value attached to it or none. -/
def Switch.take (s : Switch) (attached : Option String) (g : Given) : Except Stop Scan :=
  match s.kind, attached with
  | .valued accepts, some v => (g.addValue s accepts v).map fun g => ⟨g, none⟩
  | .valued accepts, none => .ok ⟨g, some (s, accepts)⟩
  | _, some _ => .error (.usage (.unwantedValue s.name))
  | .flag, none => (g.add s.name "").map fun g => ⟨g, none⟩
  | .help, none => .error .help
  | .version, none => .error .version

/-- Takes an argument that starts with two hyphens: the characters after them. -/
def takeLong (switches : List Switch) (cs : List Char) (g : Given) : Except Stop Scan :=
  let name := String.ofList (cs.takeWhile (· ≠ '='))
  let attached :=
    match cs.dropWhile (· ≠ '=') with
    | [] => none
    | _ :: value => some (String.ofList value)
  match switches.find? (·.name = name) with
  | some s => s.take attached g
  | none => .error (.usage (.unexpected ("--" ++ name)))

/-- The value attached to the letter of an option: the rest of the argument, perhaps after `=`. -/
def attachedValue : List Char → Option String
  | [] => none
  | '=' :: rest => some (String.ofList rest)
  | cs => some (String.ofList cs)

/-- Takes the letters of an argument that starts with one hyphen. -/
def takeLetters (switches : List Switch) : List Char → Given → Except Stop Scan
  | [], g => .ok ⟨g, none⟩
  | c :: rest, g =>
    match switches.find? (·.letter = some c) with
    | none => .error (.usage (.unexpected (String.ofList ['-', c])))
    | some s =>
      match s.kind with
      | .valued _ => s.take (attachedValue rest) g
      | _ =>
        match s.take none g with
        | .error stop => .error stop
        | .ok scan => takeLetters switches rest scan.given

/-- What an argument is, before options are known. -/
inductive ArgumentForm where
  /-- The mark after which nothing is an option. -/
  | mark
  /-- An option by name. -/
  | long (chars : List Char)
  /-- Options by letter. -/
  | letters (chars : List Char)
  /-- Anything else. -/
  | operand

/-- The form of an argument. -/
def argumentForm (argument : String) : ArgumentForm :=
  match argument.toList with
  | ['-', '-'] => .mark
  | '-' :: '-' :: cs => .long cs
  | '-' :: c :: cs => .letters (c :: cs)
  | _ => .operand

/-- Takes an argument. The outer result is that of an option or of a value; `none` stands for an
operand. -/
def takeOption (switches : List Switch) (argument : String) (s : Scan) :
    Except Stop (Option Scan) :=
  match argumentForm argument, s.waiting with
  | .operand, none => .ok none
  | .operand, some (switch, accepts) =>
    (s.given.addValue switch accepts argument).map fun g => some ⟨g, none⟩
  | _, some (switch, _) => .error (.usage (.noValue switch.name))
  | .mark, none => .ok none
  | .long cs, none => (takeLong switches cs s.given).map some
  | .letters cs, none => (takeLetters switches cs s.given).map some

/-- What is left over at the end of the arguments. -/
def Scan.finish (s : Scan) : Except Stop Given :=
  match s.waiting with
  | some (switch, _) => .error (.usage (.noValue switch.name))
  | none => .ok s.given

/-- Adds an operand, if one more may be given; `tests` are those of all operands. -/
def addOperand (tests : List (String → Bool)) (argument : String) (g : Given) :
    Except Stop Given :=
  match tests[g.operands.length]? with
  | none => .error (.usage (.unexpected argument))
  | some accepts =>
    if accepts argument then .ok { g with operands := g.operands ++ [argument] }
    else .error (.usage (.badValue "operand" argument))

/-- Takes the arguments of a command after the mark: all are operands. -/
def scanOperands (tests : List (String → Bool)) : List String → Given → Except Stop Given
  | [], g => .ok g
  | argument :: rest, g =>
    match addOperand tests argument g with
    | .error stop => .error stop
    | .ok g => scanOperands tests rest g

/-- Takes the arguments of a command. -/
def scan (switches : List Switch) (tests : List (String → Bool)) :
    List String → Scan → Except Stop Given
  | [], s => s.finish
  | argument :: rest, s =>
    match takeOption switches argument s with
    | .error stop => .error stop
    | .ok (some s) => scan switches tests rest s
    | .ok none =>
      match argumentForm argument with
      | .mark => scanOperands tests rest s.given
      | _ =>
        match addOperand tests argument s.given with
        | .error stop => .error stop
        | .ok g => scan switches tests rest ⟨g, none⟩

/-! ### Commands -/

/-- The form in which outputs are shown. -/
inductive OutputForm where
  /-- As tables, as far as they are rows. -/
  | table
  /-- As data. -/
  | json
deriving DecidableEq

/-- What `run` is asked to do. -/
structure RunRequest where
  /-- The path of the pipeline file. -/
  file : String
  /-- The URL of the store. -/
  databaseUrl : Option String
  /-- Whether statements are only resolved. -/
  preview : Bool
  /-- Whether all steps run in one transaction. -/
  transaction : Bool
  /-- Whether a failure returns all outputs. -/
  stopOnError : Bool
  /-- Whether only reads may run. -/
  selectOnly : Bool
  /-- The greatest number of rows. -/
  rowLimit : Option UInt64
  /-- The return mode. -/
  returnMode : Option String
  /-- The form of the outputs. -/
  form : OutputForm
deriving DecidableEq

/-- What the program is asked to do. -/
inductive Command where
  /-- Compiles a query model over a table. -/
  | compile (table model : String) (schema : Option String) (dialect : Option Dialect)
  /-- Binds parameters to a template. -/
  | bind (sql parameters : String)
  /-- Counts the placeholders of a statement. -/
  | count (sql : String)
  /-- Runs a pipeline file. -/
  | run (request : RunRequest)
deriving DecidableEq

/-- A command with what holds for all commands. -/
structure Invocation where
  /-- The path of the settings. -/
  settings : Option String
  /-- Whether to tell more. -/
  verbose : Bool
  /-- The command. -/
  command : Command
deriving DecidableEq

/-- Any text is accepted. -/
def anyText (_ : String) : Bool := true

/-- A path is not empty. -/
def isPath (s : String) : Bool := !s.isEmpty

/-- The dialects by the words of the command line. -/
def dialectWords : List (String × Dialect) :=
  [("db2", .db2), ("postgres", .postgres), ("mysql", .mysql), ("sqlite", .sqlite)]

/-- The forms of outputs by their words. -/
def formWords : List (String × OutputForm) := [("table", .table), ("json", .json)]

/-- The options of all commands. -/
def globalSwitches : List Switch :=
  [⟨"config", some 'c', .valued isPath⟩, ⟨"verbose", some 'v', .flag⟩, ⟨"help", some 'h', .help⟩]

/-- The options before the command. -/
def rootSwitches : List Switch := ⟨"version", some 'V', .version⟩ :: globalSwitches

/-- The value of something that must be given. -/
def demand {α : Type} (what : String) : Option α → Except Stop α
  | some a => .ok a
  | none => .error (.usage (.missing what))

/-- How the arguments of one command are taken, and what they ask for. -/
structure CommandReader where
  /-- The options of the command. -/
  switches : List Switch
  /-- The tests of its operands. -/
  operands : List (String → Bool)
  /-- The command. -/
  make : Given → Except Stop Command

/-- The arguments of `compile`. -/
def compileReader : CommandReader where
  switches :=
    [⟨"model", some 'm', .valued isPath⟩, ⟨"schema", some 's', .valued isPath⟩,
      ⟨"dialect", some 'd', .valued fun v => (dialectWords.lookup v).isSome⟩]
  operands := [anyText]
  make g := do
    let model ← demand "--model" (g.value? "model")
    let table ← demand "TABLE" g.operands[0]?
    return .compile table model (g.value? "schema")
      ((g.value? "dialect").bind fun v => dialectWords.lookup v)

/-- The arguments of `bind`. -/
def bindReader : CommandReader where
  switches := [⟨"params", some 'p', .valued anyText⟩]
  operands := [anyText]
  make g := do
    let sql ← demand "SQL" g.operands[0]?
    return .bind sql ((g.value? "params").getD "[]")

/-- The arguments of `count`. -/
def countReader : CommandReader where
  switches := []
  operands := [anyText]
  make g := do
    let sql ← demand "SQL" g.operands[0]?
    return .count sql

/-- The arguments of `run`. -/
def runReader : CommandReader where
  switches :=
    [⟨"database-url", none, .valued anyText⟩, ⟨"preview", none, .flag⟩,
      ⟨"transaction", none, .flag⟩, ⟨"stop-on-error", none, .flag⟩,
      ⟨"select-only", none, .flag⟩,
      ⟨"row-limit", none, .valued fun v => (uint64? v.toList).isSome⟩,
      ⟨"return-mode", some 'r', .valued anyText⟩,
      ⟨"format", some 'f', .valued fun v => (formWords.lookup v).isSome⟩]
  operands := [isPath]
  make g := do
    let file ← demand "FILE" g.operands[0]?
    return .run
      { file
        databaseUrl := g.value? "database-url"
        preview := g.has "preview"
        transaction := g.has "transaction"
        stopOnError := g.has "stop-on-error"
        selectOnly := g.has "select-only"
        rowLimit := (g.value? "row-limit").bind fun v => uint64? v.toList
        returnMode := g.value? "return-mode"
        form := ((g.value? "format").bind fun v => formWords.lookup v).getD .table }

/-- The commands by name. -/
def commandReaders : List (String × CommandReader) :=
  [("compile", compileReader), ("bind", bindReader), ("count", countReader), ("run", runReader)]

/-- What the command `help` shows: the help of the program or of one command. -/
def helpCommand : List String → Stop
  | [] => .help
  | [name] =>
    if name = "help" ∨ (commandReaders.lookup name).isSome then .help
    else .usage (.unknownCommand name)
  | name :: _ => .usage (.unknownCommand name)

/-- The invocation of a command, after the options before it. What a command is given counts before
what is given ahead of it. -/
def invoke (root : Given) (name : String) (arguments : List String) : Except Stop Invocation :=
  match commandReaders.lookup name with
  | none =>
    .error (if name = "help" then helpCommand arguments else .usage (.unknownCommand name))
  | some reader => do
    let g ← scan (reader.switches ++ globalSwitches) reader.operands arguments ⟨⟨[], []⟩, none⟩
    let command ← reader.make g
    return ⟨(g.value? "config").or (root.value? "config"), g.has "verbose" || root.has "verbose",
      command⟩

/-- Takes the arguments up to the name of a command. -/
def scanRoot : List String → Scan → Except Stop Invocation
  | [], s =>
    match s.finish with
    | .error stop => .error stop
    | .ok _ => .error (.usage .noCommand)
  | argument :: rest, s =>
    match takeOption rootSwitches argument s with
    | .error stop => .error stop
    | .ok (some s) => scanRoot rest s
    | .ok none =>
      match argumentForm argument, rest with
      | .mark, [] => .error (.usage .noCommand)
      | .mark, next :: _ => .error (.usage (.unexpected next))
      | _, rest => invoke s.given argument rest

/-- What the arguments of the program ask for. -/
def Invocation.ofArguments (arguments : List String) : Except Stop Invocation :=
  scanRoot arguments ⟨⟨[], []⟩, none⟩

end BoundQuery
