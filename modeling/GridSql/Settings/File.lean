import GridSql.Settings.Basic
import GridSql.Toml.Parser

/-!
# Settings files

Settings are written as a TOML document and have to be valid. Where a document
writes a record as an array, items behind its last field are ignored; a word may
be the only name of a table, with nothing under it.
-/

namespace GridSql.Settings

/-- A word that is written as the name of an empty table or array. -/
def plainWord : Json → Json
  | .object [(word, .object [])] => .string word
  | .object [(word, .array [])] => .string word
  | j => j

/-- An array without the items behind the first `count` ones. -/
def firstItems (count : Nat) : Json → Json
  | .array items => .array (items.take count)
  | j => j

def plainMember (name : String) (j : Json) : Json :=
  if name = "dialect" then plainWord j
  else if name = "pivot" then firstItems PivotSettings.memberNames.length j
  else if name = "grid" then firstItems GridSettings.memberNames.length j
  else j

def plainDocument : Json → Json
  | .object members => .object (members.map fun (name, j) => (name, plainMember name j))
  | j => j

def ofText (s : String) : Except SettingsError Settings :=
  match (Toml.parse? s).bind fun document => ofJson? (plainDocument document) with
  | some settings => settings.validate.map fun _ => settings
  | none => .error .malformed

end GridSql.Settings
