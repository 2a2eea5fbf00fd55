import GridSql.Json.Basic

/-!
# TOML documents

The tree of a document while it is read. A table remembers how it came to be,
because that decides what may be added to it: a header may open a table that was
only implied, dotted keys may extend a table that other dotted keys have made, and
a value is never extended.
-/

namespace GridSql.Toml

inductive Origin where
  /-- A header names it on the way to another table. -/
  | implied
  | header
  | dotted
deriving DecidableEq, Repr

inductive Node where
  | value (j : Json)
  | table (origin : Origin) (entries : List (String × Node))
  /-- An array of tables: those before the last one, and the entries of the last one. -/
  | tables (closed : List Json) (entries : List (String × Node))

/-- The keys of a table, each one once. -/
abbrev Entries := List (String × Node)

mutual

def Node.toJson : Node → Json
  | .value j => j
  | .table _ entries => .object (Entries.members entries)
  | .tables closed entries => .array (closed ++ [.object (Entries.members entries)])

def Entries.members : List (String × Node) → List (String × Json)
  | [] => []
  | (key, node) :: rest => (key, node.toJson) :: Entries.members rest

end

namespace Entries

def toJson (entries : Entries) : Json :=
  .object (members entries)

/-- Changes what a key stands for; a new key comes last. -/
def change (key : String) (f : Option Node → Option Node) : Entries → Option Entries
  | [] => (f none).map fun node => [(key, node)]
  | (other, node) :: rest =>
      if other = key then (f (some node)).map fun node => (other, node) :: rest
      else (change key f rest).map ((other, node) :: ·)

/-- Puts a value under a key, unless it stands for something. -/
def putValue (j : Json) : Option Node → Option Node
  | none => some (.value j)
  | some _ => none

/-- Puts a value under dotted keys; they make the tables that are missing. -/
def assign (j : Json) : List String → Entries → Option Entries
  | [], _ => none
  | [key], entries => change key (putValue j) entries
  | key :: next :: path, entries =>
      change key (fun
        | none => (assign j (next :: path) []).map (.table .dotted)
        | some (.table .dotted inner) => (assign j (next :: path) inner).map (.table .dotted)
        | some (.table .implied inner) =>
            if path.isEmpty then none
            else (assign j (next :: path) inner).map (.table .implied)
        | some (.tables closed inner) =>
            if path.isEmpty then none
            else (assign j (next :: path) inner).map (.tables closed)
        | some _ => none) entries

/-- Changes the entries of a table that may be on the way of a header. -/
def inTable (f : Entries → Option Entries) : Option Node → Option Node
  | none => (f []).map (.table .implied)
  | some (.table origin entries) => (f entries).map (.table origin)
  | some (.tables closed entries) => (f entries).map (.tables closed)
  | some (.value _) => none

/-- Changes the entries at the end of a path of headers. -/
def atPath (f : Entries → Option Entries) : List String → Entries → Option Entries
  | [], entries => f entries
  | key :: path, entries => change key (inTable (atPath f path)) entries

/-- Opens a table; none may be opened twice. -/
def openTable : Option Node → Option Node
  | none => some (.table .header [])
  | some (.table .implied entries) => some (.table .header entries)
  | some _ => none

/-- Adds a table to an array of tables. -/
def openElement : Option Node → Option Node
  | none => some (.tables [] [])
  | some (.tables closed entries) => some (.tables (closed ++ [toJson entries]) [])
  | some _ => none

/-- Changes what the last name of a header stands for. -/
def atHeader (f : Option Node → Option Node) (path : List String) (entries : Entries) :
    Option Entries :=
  match path.getLast? with
  | some key => atPath (change key f) path.dropLast entries
  | none => none

end Entries

end GridSql.Toml
