import ListQuery.Engine
import ListQuery.Json.Printer
import ListQuery.Metadata.Decode
import ListQuery.Request.Form
import ListQuery.Settings

/-!
# Commands

* `Command` : what the program is told to do.
* `Command.perform` : what it prints then, and its exit code.

The surroundings of the program are arguments: the file with the metadata, the environment
variables, and the faults that a connection to an address meets.
-/

namespace ListQuery

/-- What the program is told to do. -/
inductive Command where
  /-- Print the statements of a request. -/
  | explain (query : String)
  /-- Print the page that answers a request. -/
  | run (query : String)
  /-- Check the metadata, and, if asked, whether the database can be reached. -/
  | check (database : Bool)
deriving DecidableEq, Repr

/-- What a program leaves behind. -/
structure Outcome where
  /-- The exit code. -/
  code : Nat
  /-- What it printed. -/
  stdout : String
  /-- What it reported. -/
  stderr : String
deriving DecidableEq, Repr

/-- What surrounds the program. -/
structure Surroundings where
  /-- The path of the file with the metadata. -/
  path : String
  /-- Its contents, if it can be read. -/
  source : Option String
  /-- The environment variables. -/
  environment : String → Option String
  /-- Why no connection to an address is made, the outermost cause first; `none` if there is one. -/
  connectionFault? : String → Option (List String)

/-- A failure of the program, with its causes. -/
structure Failure where
  /-- What failed. -/
  message : String
  /-- Why, the outermost cause first. -/
  causes : List String := []
  /-- The causes are known and are reported. -/
  isExplained : Bool := true
deriving DecidableEq, Repr

namespace Failure

/-- The lines of several causes, numbered from `n`. -/
def numbered (n : Nat) : List String → String
  | [] => ""
  | c :: cs => "    " ++ toString n ++ ": " ++ c ++ "\n" ++ numbered (n + 1) cs

/-- The part of a report on the causes. -/
def explanation : List String → String
  | [] => ""
  | [c] => "\nCaused by:\n    " ++ c ++ "\n"
  | cs => "\nCaused by:\n" ++ numbered 0 cs

/-- The report of a failure. -/
def report (f : Failure) : String :=
  "Error: " ++ f.message ++ (if f.isExplained then "\n" ++ explanation f.causes else "")

/-- The causes of a fault of the database. -/
def databaseCauses : DatabaseFault → List String
  | .refused reason => ["error returned from database: " ++ reason, reason]
  | .unexpected => ["error occurred while decoding column 0"]

/-- The failure that a query is not answered. -/
def ofQuery (e : QueryError) : Failure where
  message := e.message
  causes := match e with
    | .database fault => databaseCauses fault
    | _ => []

/-- The failure that the settings are not right. -/
def ofSettings (e : SettingsFault) : Failure where
  message := e.message
  causes := [e.cause]

end Failure

namespace Command

/-- A part of the work of the program, which may fail. -/
abbrev Task := ExceptT Failure Conversation

/-- The metadata in the file. -/
def loadMetadata (s : Surroundings) : Except Failure Metadata :=
  match s.source with
  | none =>
    .error {
      message := "failed to read " ++ s.path
      causes := ["No such file or directory (os error 2)"] }
  | some source =>
    (Metadata.ofToml? source).elim
      (.error { message := "failed to parse metadata in " ++ s.path, isExplained := false }) .ok

/-- The settings, once a connection is made. -/
def connect (s : Surroundings) : Except Failure Settings := do
  let settings ← (Settings.ofEnvironment s.environment).mapError Failure.ofSettings
  match s.connectionFault? settings.databaseUrl with
  | some causes => throw { message := "failed to connect to PostgreSQL", causes := causes }
  | none => return settings

/-- The statements of a request, for the number of rows and for the rows. -/
def explanation (s : Surroundings) (query : String) : Except Failure String := do
  let metadata ← loadMetadata s
  let plan ← (Plan.ofValid metadata (Parameters.ofQueryString query)).mapError Failure.ofQuery
  return plan.count.write ++ ";\n" ++ plan.select.write ++ ";\n"

/-- The page that answers a request, as text. -/
def answer (s : Surroundings) (query : String) : Task String := do
  let metadata ← loadMetadata s
  let settings ← connect s
  let fetch := Database.fetchJson (some settings.statementTimeout)
  let page ← Engine.executeInDatabase fetch metadata (Parameters.ofQueryString query)
  match page with
  | .ok page => return page.toJson.pretty ++ "\n"
  | .error e => throw (Failure.ofQuery e)

/-- The line on the version of the database. -/
def databaseLine (s : Surroundings) : Task String := do
  let _ ← connect s
  match ← Database.version.run with
  | .ok version => return "database: ok (PostgreSQL " ++ version ++ ")\n"
  | .error fault =>
    throw { message := "database health check failed", causes := Failure.databaseCauses fault }

/-- The outcome of a task behind which `printed` was printed already. -/
def outcome (printed : String) (t : Task String) : Conversation Outcome := do
  match ← t.run with
  | .ok text => return ⟨0, printed ++ text, ""⟩
  | .error f => return ⟨1, printed, f.report⟩

/-- The failure that there are problems, reported behind a line for each of them. -/
def problemReport (path : String) (problems : List Problem) : String :=
  String.join (problems.map fun p => path ++ ": " ++ p.message ++ "\n") ++
    Failure.report { message := toString problems.length ++ " problem(s) in " ++ path }

/-- The outcome of a check. -/
def checked (s : Surroundings) (database : Bool) : Conversation Outcome :=
  match loadMetadata s with
  | .error f => pure ⟨1, "", f.report⟩
  | .ok metadata =>
    if metadata.problems.isEmpty then
      outcome (s.path ++ ": ok (" ++ metadata.entity ++ ")\n")
        (if database then databaseLine s else pure "")
    else pure ⟨1, "", problemReport s.path metadata.problems⟩

/-- What the program prints, and its exit code. -/
def perform (s : Surroundings) : Command → Conversation Outcome
  | explain query => outcome "" (ExceptT.mk (pure (explanation s query)))
  | run query => outcome "" (answer s query)
  | check database => checked s database

end Command

end ListQuery
