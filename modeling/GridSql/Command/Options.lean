import GridSql.Sql.Dialect
import GridSql.Text.Case

/-!
# Command line options

The commands of the program with their options, how arguments are read, and the
help texts.
-/

namespace GridSql.Command

def programName : String := "gridquery"

def programVersion : String := "0.1.0"

inductive Verb where
  | sql
  | rows
  | count
  | values
deriving DecidableEq, Repr

/-- An option; each one takes a value. -/
structure OptionSpec where
  long : String
  short : Option Char := none
  isRequired : Bool := false
  /-- Whether the value may be empty. -/
  mayBeEmpty : Bool := false
  /-- The values that are allowed; none allows all. -/
  choices : List String := []
  help : String := ""

namespace OptionSpec

/-- The option with the name of its value, such as `--data <DATA>`. -/
def usage (o : OptionSpec) : String :=
  s!"--{o.long} <{Text.asciiUpper o.long}>"

def heading (o : OptionSpec) : String :=
  match o.short with
  | some c => s!"-{c}, {o.usage}"
  | none => "    " ++ o.usage

def description (o : OptionSpec) : String :=
  if o.choices.isEmpty then o.help
  else o.help ++ " [possible values: " ++ ", ".intercalate o.choices ++ "]"

def accepts (o : OptionSpec) (value : String) : Bool :=
  (o.mayBeEmpty || value ≠ "") && (o.choices.isEmpty || o.choices.contains value)

end OptionSpec

namespace Verb

def all : List Verb := [sql, rows, count, values]

def name : Verb → String
  | sql => "sql"
  | rows => "rows"
  | count => "count"
  | values => "values"

def ofName? (s : String) : Option Verb :=
  all.find? (·.name == s)

def about : Verb → String
  | sql => "Print the SQL compiled for a request"
  | rows => "Run a request and print the grid response"
  | count => "Count the rows or groups a request matches"
  | values => "Print the set filter values of a column"

def commonOptions : List OptionSpec :=
  [ { long := "data", isRequired := true, help := "Path to the JSON data file" }
  , { long := "config", short := some 'c'
      help := "Settings file (defaults to GRIDQUERY_CONFIG, ./gridquery.toml, " ++
        "then the user config dir)" }
  , { long := "dialect", short := some 'd', choices := ["duckdb", "postgres", "tsql", "mysql"]
      help := "SQL dialect, overrides the settings" } ]

def options (v : Verb) : List OptionSpec :=
  commonOptions ++
    match v with
    | sql =>
        [{ long := "request", short := some 'r', isRequired := true
           help := "Path to the request JSON" }]
    | rows | count => [{ long := "request", short := some 'r', isRequired := true }]
    | values => [{ long := "field", short := some 'f', isRequired := true, mayBeEmpty := true }]

end Verb

/-- Two columns of text, the first one padded to its longest line. -/
def table (lines : List (String × String)) : String :=
  let width := (lines.map (·.1.length)).foldl max 0
  "\n".intercalate (lines.map fun (left, right) =>
    "  " ++ left ++ String.ofList (List.replicate (width - left.length + 2) ' ') ++ right)

def help : String :=
  "\n".intercalate
    [ "Compile server-side row model requests into SQL and run them"
    , ""
    , s!"Usage: {programName} <COMMAND>"
    , ""
    , "Commands:"
    , table (Verb.all.map (fun v => (v.name, v.about)) ++
        [("help", "Print this message or the help of the given subcommand(s)")])
    , ""
    , "Options:"
    , table [("-h, --help", "Print help"), ("-V, --version", "Print version")] ]

def Verb.help (v : Verb) : String :=
  let required := (v.options.filter (·.isRequired)).map (·.usage)
  "\n".intercalate
    [ v.about
    , ""
    , s!"Usage: {programName} {v.name} [OPTIONS] " ++ " ".intercalate required
    , ""
    , "Options:"
    , table (v.options.map (fun o => (o.heading, o.description)) ++
        [("-h, --help", "Print help")]) ]

/-- The values of options, by long name. -/
abbrev Given := List (String × String)

inductive Wish where
  | run (verb : Verb) (given : Given)
  | print (text : String)
  /-- Arguments that the program has no use for. -/
  | misuse
deriving DecidableEq, Repr

inductive Argument where
  | help
  /-- An option with its value, if the value is in the same argument. -/
  | option (spec : OptionSpec) (value : Option String)
  | unknown

/-- The text before the first equals sign, and what follows it if there is one. -/
def splitEquals : List Char → List Char × Option (List Char)
  | [] => ([], none)
  | c :: cs =>
      if c = '=' then ([], some cs)
      else
        let (name, value) := splitEquals cs
        (c :: name, value)

def Verb.argument (v : Verb) (arg : String) : Argument :=
  match arg.toList with
  | '-' :: '-' :: cs =>
      let (name, value) := splitEquals cs
      if name = "help".toList ∧ value.isNone then .help
      else
        match v.options.find? (·.long.toList = name) with
        | some spec => .option spec (value.map String.ofList)
        | none => .unknown
  | '-' :: 'h' :: _ => .help
  | '-' :: c :: cs =>
      match v.options.find? (·.short = some c) with
      | some spec =>
          .option spec (match cs with
            | [] => none
            | '=' :: value => some (String.ofList value)
            | value => some (String.ofList value))
      | none => .unknown
  | _ => .unknown

/-- Whether an argument is read as an option and not as the value of one. -/
def looksLikeOption (arg : String) : Bool :=
  match arg.toList with
  | '-' :: _ :: _ => true
  | _ => false

/-- Adds the value of an option, unless it is refused or given twice. -/
def Given.add? (given : Given) (spec : OptionSpec) (value : String) : Option Given :=
  if spec.accepts value ∧ (given.lookup spec.long).isNone then
    some (given ++ [(spec.long, value)])
  else none

def Verb.wish (v : Verb) (given : Given) : List String → Wish
  | [] =>
      if v.options.all fun o => !o.isRequired || (given.lookup o.long).isSome then .run v given
      else .misuse
  | ["--"] => v.wish given []
  | arg :: rest =>
      match v.argument arg with
      | .help => .print v.help
      | .unknown => .misuse
      | .option spec (some value) =>
          match given.add? spec value with
          | some given => v.wish given rest
          | none => .misuse
      | .option spec none =>
          match rest with
          | value :: rest =>
              if looksLikeOption value then .misuse
              else
                match given.add? spec value with
                | some given => v.wish given rest
                | none => .misuse
          | [] => .misuse

def wish : List String → Wish
  | [] => .misuse
  | ["help"] => .print help
  | ["help", name] =>
      match Verb.ofName? name with
      | some v => .print v.help
      | none => .misuse
  | arg :: rest =>
      match Verb.ofName? arg with
      | some v => v.wish [] rest
      | none =>
          if arg = "--help" ∨ ['-', 'h'].isPrefixOf arg.toList then .print help
          else if arg = "--version" ∨ ['-', 'V'].isPrefixOf arg.toList then
            .print s!"{programName} {programVersion}"
          else .misuse

end GridSql.Command
