import BoundQuery.Clause.Query
import BoundQuery.CommandLine.Files
import BoundQuery.CommandLine.Listing
import BoundQuery.Pipeline.Run
import BoundQuery.Reading.Query
import BoundQuery.Reading.Schema
import BoundQuery.Reading.Settings
import BoundQuery.Schema.Cache

/-!
# The program

`Program.answer` carries out what the arguments ask for. It reads files through a function that it
is given, so that it can be run on files of any kind, and answers with what it prints and its exit
code.

* `Program.Environment`: what else it knows of the world.
* `Program.Fault`: why a command fails; `Program.Fault.message` is the report.
* `Program.compile`, `Program.bind`, `Program.count`, `Program.run`: the commands.
-/

namespace BoundQuery.Program

/-- What the program knows of the world besides files. -/
structure Environment where
  /-- The path of the settings that are read if no other path is given. -/
  settingsPath : Option String
  /-- The URL of a store. -/
  databaseUrl : Option String

/-- Why a text is no number of an output. -/
inductive IndexFault where
  /-- There is no digit. -/
  | empty
  /-- A character is no digit. -/
  | notDigit
  /-- The number does not fit 64 bits. -/
  | tooLarge
deriving DecidableEq

/-- The text of the fault. -/
def IndexFault.message : IndexFault → String
  | .empty => "cannot parse integer from empty string"
  | .notDigit => "invalid digit found in string"
  | .tooLarge => "number too large to fit in target type"

/-- Why a command fails. -/
inductive Fault where
  /-- The settings cannot be read. -/
  | settingsFile (fault : FileFault)
  /-- The settings cannot be used. -/
  | settings (fault : SettingsFault)
  /-- A file cannot be read. -/
  | file (path : String) (fault : FileFault)
  /-- No schema document is named. -/
  | noSchemaDocument
  /-- A file is no schema document. -/
  | schemaDocument (path : String) (fault : ReadFault)
  /-- A table is unknown. -/
  | table (fault : UnknownTable)
  /-- A file is no query model. -/
  | model (fault : ReadFault)
  /-- A query model does not compile. -/
  | clause (fault : ClauseFault)
  /-- The parameters cannot be read. -/
  | parameters (fault : ReadFault)
  /-- The parameters do not fit the template. -/
  | statement (fault : StatementFault)
  /-- A file is no pipeline, for a reason given as text. -/
  | pipelineFile (path reason : String)
  /-- A return mode does not exist. -/
  | returnMode (word : String) (fault : IndexFault)
  /-- No store is named. -/
  | noDatabase
  /-- There is no way to the store. -/
  | connection (url : String)
  /-- A run fails. -/
  | run (fault : RunFault)

/-- The report of the fault. -/
def Fault.message : Fault → String
  | .settingsFile fault =>
    "Failed to load configuration: IO error: " ++ fault.message ++ ": " ++ fault.message
  | .settings fault =>
    "Failed to load configuration: Configuration error: " ++ fault.message
  | .file path fault => "Failed to read " ++ path ++ ": " ++ fault.message
  | .noSchemaDocument =>
    "No schema document. Use --schema or set schema_path in the config file"
  | .schemaDocument path fault => "Invalid schema document " ++ path ++ ": " ++ fault.message
  | .table fault => fault.message
  | .model fault => "Malformed query model: " ++ fault.message
  | .clause fault => fault.message
  | .parameters fault =>
    "--params must be a JSON array of \x7btype, value\x7d: " ++ fault.message
  | .statement fault => fault.message
  | .pipelineFile path reason => "Invalid pipeline file " ++ path ++ ": " ++ reason
  | .returnMode word fault => "Unknown return mode \"" ++ word ++ "\": " ++ fault.message
  | .noDatabase => "No database URL. Use --database-url or set SQLPIPE_DATABASE_URL"
  | .connection url => "Connection error: no driver for " ++ url
  | .run fault => fault.message

/-- What a program run shows. -/
structure Report where
  /-- The exit code: 0, or 1 after a failure, or 2 if the arguments cannot be used. -/
  code : Nat
  /-- The lines of the output. -/
  lines : List String
  /-- The report of a failure. -/
  error : Option String
deriving DecidableEq

/-- A list of lines as text. -/
def unlines (lines : List String) : String := String.join (lines.map (· ++ "\n"))

/-- The output as text. -/
def Report.output (r : Report) : String := unlines r.lines

/-- The report of a command that fails after it has printed some lines. -/
def Report.failed (lines : List String) (fault : Fault) : Report :=
  ⟨1, lines, some ("Error: " ++ fault.message)⟩

/-- The report of a command that prints lines or fails. -/
def Report.ofResult : Except Fault (List String) → Report
  | .ok lines => ⟨0, lines, none⟩
  | .error fault => .failed [] fault

/-! ### The commands -/

/-- Counts the placeholders of a statement. -/
def count (sql : String) : List String := [toString (placeholderCount sql)]

/-- Binds parameters, given as data, to a template. -/
def bind (sql parameters : String) : Except Fault (List String) := do
  let ps ← (readText (Source.items (readParameter .text)) parameters).mapError .parameters
  let b ← (bindParameters .empty sql ps).mapError .statement
  if b.empty then return ["⚠ Empty parameter: statement would match nothing"]
  else return boundLines "Resolved SQL:" b.sql b.values

/-- Compiles a query model, given as text, over a table of a schema document. -/
def compileOver (t : Table) (d : Dialect) (table model : String) :
    Except Fault (List String) := do
  let m ← (readText readQueryModel model).mapError .model
  let f ← (Scope.query ⟨t, d⟩ table m).mapError .clause
  return boundLines "Generated SQL:" f.sql f.values

/-- The table of a name in a schema document, given as text, through a cache. -/
def tableIn (settings : Settings) (path document table : String) : Except Fault Table := do
  let d ← (readText readDocument document).mapError (.schemaDocument path)
  let resolver := Resolver.empty "cli" (settings.schemaCacheSeconds.toNat * 1000)
  (resolver.resolve d.table table false).1.mapError .table

/-- Takes digits as a number after those that make `n`. -/
def indexDigits (n : Nat) : List Char → Except IndexFault UInt64
  | [] => .ok (UInt64.ofNat n)
  | c :: rest =>
    if !c.isDigit then .error .notDigit
    else
      let next := n * 10 + (c.toNat - 48)
      if next < twoTo 64 then indexDigits next rest else .error .tooLarge

/-- The number of an output, after an optional plus sign. -/
def index (cs : List Char) : Except IndexFault UInt64 :=
  match cs with
  | [] => .error .empty
  | ['+'] => .error .notDigit
  | '+' :: rest => indexDigits 0 rest
  | cs => indexDigits 0 cs

/-- The return mode that a word names: the number of an output, or one of three words. -/
def returnMode (word : String) : Except Fault ReturnMode :=
  match Text.lower (Text.trim word) with
  | "all" => .ok .all
  | "last" => .ok .last
  | "merge" => .ok .merge
  | other =>
    match index other.toList with
    | .ok n => .ok (.specific n)
    | .error fault => .error (.returnMode word fault)

/-- The settings of a run: those of the user, changed by what the command asks for. -/
def runSettings (settings : RunSettings) (r : RunRequest) : Except Fault RunSettings :=
  let mode : Except Fault ReturnMode :=
    match r.returnMode with
    | some word => returnMode word
    | none => .ok settings.returnMode
  mode.map fun returnMode =>
    { rowLimit := r.rowLimit.getD settings.rowLimit
      preview := settings.preview || r.preview
      useTransaction := settings.useTransaction || r.transaction
      stopOnError := settings.stopOnError || r.stopOnError
      selectOnly := settings.selectOnly || r.selectOnly
      returnMode }

/-- The steps of a pipeline file, given as text. Its extension tells the format. -/
def steps (path text : String) : Except Fault (List Step) :=
  if extension? path = some "toml" then
    (readSettingsText (readPipeline .settings) text).mapError fun fault =>
      .pipelineFile path fault.message
  else (readText (readPipeline .text) text).mapError fun fault => .pipelineFile path fault.message

/-- Shows the outputs of a run that executes nothing. -/
def preview (settings : RunSettings) (form : OutputForm) (ss : List Step) :
    Except Fault (List String) :=
  match ((Runner.standard Store.closed .db2 settings).run ss ()).1 with
  | .ok outputs => .ok (outputLines form outputs)
  | .error fault => .error (.run fault)

/-- Runs the steps of a pipeline. Without a preview a store is needed, and there is a driver for
none. -/
def runSteps (settings : RunSettings) (form : OutputForm) (url : Option String) (verbose : Bool)
    (ss : List Step) : Report :=
  if settings.preview then .ofResult (preview settings form ss)
  else
    match url with
    | none => .failed [] .noDatabase
    | some url =>
      .failed (if verbose then ["Connecting to: " ++ url] else []) (.connection url)

/-! ### Reading files -/

variable {m : Type → Type} [Monad m]

/-- The settings at a path that is given, else at the usual path if there are any. -/
def loadSettings (read : String → m (Except FileFault String)) (e : Environment)
    (path : Option String) : m (Except Fault Settings) := do
  let parse (text : String) : Except Fault Settings := (Settings.parse text).mapError .settings
  match path, e.settingsPath with
  | some path, _ =>
    match (← read path) with
    | .ok text => return parse text
    | .error fault => return .error (.settingsFile fault)
  | none, none => return .ok {}
  | none, some path =>
    match (← read path) with
    | .ok text => return parse text
    | .error .missing => return .ok {}
    | .error .notDirectory => return .ok {}
    | .error fault => return .error (.settingsFile fault)

/-- Reads a file that a command needs. -/
def readNeeded (read : String → m (Except FileFault String)) (path : String) :
    m (Except Fault String) := do
  return (← read path).mapError (.file path)

/-- Compiles a query model over a table; the files are read in the order in which they count. -/
def compile (read : String → m (Except FileFault String)) (settings : Settings)
    (table model : String) (schema : Option String) (dialect : Option Dialect) : m Report := do
  match schema.or settings.schemaPath with
  | none => return .failed [] .noSchemaDocument
  | some path =>
    match (← readNeeded read path) with
    | .error fault => return .failed [] fault
    | .ok document =>
      match tableIn settings path document table with
      | .error fault => return .failed [] fault
      | .ok t =>
        match (← readNeeded read model) with
        | .error fault => return .failed [] fault
        | .ok text =>
          return .ofResult (compileOver t (dialect.getD settings.effectiveDialect) table text)

/-- Runs a pipeline file. -/
def run (read : String → m (Except FileFault String)) (e : Environment) (settings : Settings)
    (verbose : Bool) (r : RunRequest) : m Report := do
  match runSettings settings.pipeline r with
  | .error fault => return .failed [] fault
  | .ok rules =>
    match (← readNeeded read r.file) with
    | .error fault => return .failed [] fault
    | .ok text =>
      match steps r.file text with
      | .error fault => return .failed [] fault
      | .ok ss =>
        let url := r.databaseUrl.or (e.databaseUrl.or settings.databaseUrl)
        return runSteps rules r.form url verbose ss

/-- Carries out a command. -/
def perform (read : String → m (Except FileFault String)) (e : Environment) (settings : Settings)
    (verbose : Bool) : Command → m Report
  | .compile table model schema dialect => compile read settings table model schema dialect
  | .bind sql parameters => return .ofResult (bind sql parameters)
  | .count sql => return .ofResult (.ok (count sql))
  | .run r => run read e settings verbose r

/-- How the program is used. -/
def usage : List String :=
  ["Usage: sqlpipe [-c FILE] [-v] COMMAND", "", "Commands:",
    "  compile TABLE -m FILE [-s FILE] [-d db2|postgres|mysql|sqlite]",
    "  bind SQL [-p PARAMETERS]", "  count SQL",
    "  run FILE [--database-url URL] [--preview] [--transaction] [--stop-on-error]",
    "      [--select-only] [--row-limit N] [-r MODE] [-f table|json]"]

/-- The report where no command is carried out. -/
def stopped : Stop → Report
  | .usage fault => ⟨2, [], some fault.message⟩
  | .help => ⟨0, usage, none⟩
  | .version => ⟨0, ["sqlpipe 0.1.0"], none⟩

/-- Carries out what the arguments ask for. The settings are read first, whatever the command. -/
def answer (read : String → m (Except FileFault String)) (e : Environment)
    (arguments : List String) : m Report := do
  match Invocation.ofArguments arguments with
  | .error stop => return stopped stop
  | .ok i =>
    match (← loadSettings read e i.settings) with
    | .error fault => return .failed [] fault
    | .ok settings => perform read e settings i.verbose i.command

end BoundQuery.Program
