import GridSql.Command.Options
import GridSql.Grid.Answer
import GridSql.Json.Parser
import GridSql.Settings.File
import GridSql.Table.File

/-!
# Running commands

A command works on its settings, the data file and the request; the first of them
that is at fault decides how it fails. The system is a record of what a command may
ask it, so that the work itself is the same over any file system.
-/

namespace GridSql.Command

inductive FileContent where
  | text (s : String)
  /-- There is no regular file, with the system's reason. -/
  | absent (reason : String)
  /-- The file cannot be read as text, with the system's reason. -/
  | unreadable (reason : String)
deriving DecidableEq, Repr

namespace FileContent

def isFile : FileContent → Bool
  | absent _ => false
  | _ => true

def text? : FileContent → Except String String
  | text s => .ok s
  | absent reason | unreadable reason => .error reason

end FileContent

structure System (m : Type → Type) where
  environment : Environment
  read : String → m FileContent

inductive Failure where
  | query (error : QueryError)
  | unreadableRequest (path reason : String)
  | malformedRequest

namespace Failure

def message : Failure → String
  | query error => error.message
  | unreadableRequest path reason => s!"Error reading request '{path}': {reason}"
  | malformedRequest => "malformed request"

end Failure

inductive Outcome where
  /-- It prints a text. -/
  | done (text : String)
  | failed (failure : Failure)
  | misused

namespace Outcome

def exitCode : Outcome → UInt8
  | done _ => 0
  | failed _ => 1
  | misused => 2

end Outcome

def configVariable : String := "GRIDQUERY_CONFIG"

def joinPath (directory name : String) : String :=
  if directory.endsWith "/" then directory ++ name else directory ++ "/" ++ name

def userDirectory? (env : Environment) : Option String :=
  match (env "XDG_CONFIG_HOME").filter (·.startsWith "/") with
  | some directory => some directory
  | none => ((env "HOME").filter (· ≠ "")).map (joinPath · ".config")

/-- The settings files that are looked for if none is given. -/
def settingsPaths (env : Environment) : List String :=
  "gridquery.toml" ::
    ((userDirectory? env).map (joinPath · "gridquery/config.toml")).toList

def settingsOf (path : String) : FileContent → Except SettingsError Settings
  | .text s => Settings.ofText s
  | .absent _ => .error (.fileNotFound path)
  | .unreadable reason => .error (.unreadable reason)

def tableOf (content : FileContent) : Except SourceError Table :=
  match content.text? with
  | .ok s => Table.ofText s
  | .error reason => .error (.unreadable reason)

def requestOf (path : String) (content : FileContent) : Except Failure Request :=
  match content.text? with
  | .ok s =>
      match (Json.parseFast? s).bind Request.ofJson? with
      | some r => .ok r
      | none => .error .malformedRequest
  | .error reason => .error (.unreadableRequest path reason)

structure Inputs where
  settings : Except SettingsError Settings
  data : FileContent
  request : FileContent

def Given.value (given : Given) (name : String) : String :=
  (given.lookup name).getD ""

/-- The grid of a command: its table has the name that the data file gives it. -/
def gridOf (given : Given) (env : Environment) (i : Inputs) : Except QueryError Grid := do
  let settings ← i.settings.mapError QueryError.settings
  let settings := match (given.lookup "dialect").bind Dialect.ofExactName? with
    | some dialect => { settings with dialect }
    | none => settings
  let table ← (tableOf i.data).mapError QueryError.source
  ({ source := table, settings } : GridConfig).build (some table.name) env

def perform (v : Verb) (given : Given) (env : Environment) (i : Inputs) :
    Except Failure String := do
  let g ← (gridOf given env i).mapError Failure.query
  let answer {α : Type} (f : Request → Except QueryError α) : Except Failure α := do
    let r ← requestOf (given.value "request") i.request
    (f r).mapError Failure.query
  match v with
  | .sql => (answer g.query).map fun (q, _) => q.toSql g.settings.dialect
  | .rows => (answer g.rows).map fun block => block.toJson.pretty
  | .count => (answer g.count).map toString
  | .values =>
      let values ← (g.filterValues (given.value "field")).mapError Failure.query
      .ok (Json.array (values.map Value.toJson)).pretty

section

variable {m : Type → Type} [Monad m]

/-- The settings in the first of some files that is there; defaults if none is. -/
def firstSettings (s : System m) : List String → m (Except SettingsError Settings)
  | [] => pure (.ok {})
  | path :: rest => do
      let content ← s.read path
      if content.isFile then pure (settingsOf path content) else firstSettings s rest

def loadSettings (s : System m) (given : Given) : m (Except SettingsError Settings) :=
  match (given.lookup "config").or (s.environment configVariable) with
  | some path => settingsOf path <$> s.read path
  | none => firstSettings s (settingsPaths s.environment)

def readInputs (s : System m) (given : Given) : m Inputs := do
  let settings ← loadSettings s given
  let data ← s.read (given.value "data")
  let request ← s.read (given.value "request")
  return { settings := settings, data, request }

def run (s : System m) (args : List String) : m Outcome := do
  match wish args with
  | .misuse => return .misused
  | .print text => return .done text
  | .run v given =>
      let inputs ← readInputs s given
      match perform v given s.environment inputs with
      | .ok text => return .done text
      | .error failure => return .failed failure

end

end GridSql.Command
