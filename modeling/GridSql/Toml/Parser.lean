import GridSql.Toml.Basic
import GridSql.Toml.Scalar
import GridSql.Toml.Text

/-!
# Reading TOML

A document is a list of lines: headers, and keys with values. The value of a
document is a JSON object. Arrays and inline tables may be nested up to 80 deep.
-/

namespace GridSql.Toml

def skipComment (cs : List Char) : List Char :=
  match cs with
  | '#' :: rest => rest.dropWhile isTextChar
  | cs => cs

def skipBetweenAux : Nat → List Char → List Char
  | 0, cs => cs
  | fuel + 1, cs =>
      match skipComment (skipSpace cs) with
      | [] => []
      | rest =>
          match lineBreak? rest with
          | some rest => skipBetweenAux fuel rest
          | none => rest

/-- Skips blanks, comments and line breaks inside an array or an inline table. -/
def skipBetween (cs : List Char) : List Char :=
  skipBetweenAux cs.length cs

/-- Items with commas between them up to the closing bracket; a last comma is allowed. -/
def readItems (readItem : List Char → Option (Json × List Char)) (items : List Json) :
    Nat → List Char → Option (List Json × List Char)
  | 0, _ => none
  | fuel + 1, cs =>
      match skipBetween cs with
      | ']' :: rest => some (items.reverse, rest)
      | cs => do
          let (item, rest) ← readItem cs
          match skipBetween rest with
          | ',' :: rest => readItems readItem (item :: items) fuel rest
          | ']' :: rest => some ((item :: items).reverse, rest)
          | _ => none

/-- A key, an equals sign and a value; `skip` drops what may stand around the sign. -/
def readPair (skip : List Char → List Char)
    (readItem : List Char → Option (Json × List Char)) (cs : List Char) :
    Option ((List String × Json) × List Char) := do
  let (key, rest) ← readKey cs
  match skip rest with
  | '=' :: rest =>
      let (value, rest) ← readItem (skip rest)
      some ((key, value), rest)
  | _ => none

/--
Pairs with commas between them up to the closing brace of an inline table; a last
comma is allowed.
-/
def readPairs (readItem : List Char → Option (Json × List Char)) (entries : Entries) :
    Nat → List Char → Option (Entries × List Char)
  | 0, _ => none
  | fuel + 1, cs =>
      match skipBetween cs with
      | '\x7d' :: rest => some (entries, rest)
      | cs => do
          let ((key, value), rest) ← readPair skipBetween readItem cs
          let entries ← Entries.assign value key entries
          match skipBetween rest with
          | ',' :: rest => readPairs readItem entries fuel rest
          | '\x7d' :: rest => some (entries, rest)
          | _ => none

/-- A value with arrays and inline tables nested up to `depth` deep. -/
def readValue (depth : Nat) (cs : List Char) : Option (Json × List Char) :=
  match cs, depth with
  | '"' :: _, _ => (Quotation.basic.read cs).map fun (s, rest) => (.string s, rest)
  | '\'' :: _, _ => (Quotation.plain.read cs).map fun (s, rest) => (.string s, rest)
  | '[' :: rest, depth + 1 =>
      (readItems (readValue depth) [] rest.length rest).map fun (items, rest) =>
        (.array items, rest)
  | '\x7b' :: rest, depth + 1 =>
      (readPairs (readValue depth) [] rest.length rest).map fun (entries, rest) =>
        (entries.toJson, rest)
  | cs, _ => readScalar cs

/-- How deep arrays and inline tables may be nested. -/
def maxDepth : Nat := 80

structure Document where
  entries : Entries := []
  /-- The header that keys belong to. -/
  path : List String := []

namespace Document

/-- What follows the end of a line; the end of the text ends a line too. -/
def lineEnd? (cs : List Char) : Option (List Char) :=
  match skipComment (skipSpace cs) with
  | [] => some []
  | rest => lineBreak? rest

def header (d : Document) (openNode : Option Node → Option Node) (path : List String) :
    Option Document :=
  (Entries.atHeader openNode path d.entries).map fun entries => { entries := entries, path }

def readLine (d : Document) (cs : List Char) : Option (Document × List Char) :=
  match cs with
  | '[' :: '[' :: rest => do
      let (path, rest) ← readKey rest
      let d ← d.header Entries.openElement path
      match rest with
      | ']' :: ']' :: rest => some (d, rest)
      | _ => none
  | '[' :: rest => do
      let (path, rest) ← readKey rest
      let d ← d.header Entries.openTable path
      match rest with
      | ']' :: rest => some (d, rest)
      | _ => none
  | cs => do
      let ((key, value), rest) ← readPair skipSpace (readValue maxDepth) cs
      let entries ← Entries.atPath (Entries.assign value key) d.path d.entries
      some ({ d with entries }, rest)

def readLines (d : Document) : Nat → List Char → Option Document
  | 0, cs => if cs.isEmpty then some d else none
  | fuel + 1, cs =>
      let cs := skipSpace cs
      if cs.isEmpty then some d
      else do
        let (d, rest) ←
          match cs with
          | '#' :: _ | '\n' :: _ | '\r' :: _ => some (d, cs)
          | _ => d.readLine cs
        readLines d fuel (← lineEnd? rest)

end Document

/-- The object that a text stands for; a byte order mark in front is skipped. -/
def parse? (s : String) : Option Json :=
  let cs := match s.toList with
    | '\ufeff' :: rest => rest
    | cs => cs
  (Document.readLines {} cs.length cs).map (·.entries.toJson)

end GridSql.Toml
