import GridSql.Json.Basic

/-!
# Records in JSON

A record with known fields is an object that has each of them at most once, or
an array with the fields in their order. Unknown members are ignored.
-/

namespace GridSql.Json

structure Record where
  fields : List (String × Json)

namespace Record

/-- Whether no known name is repeated. -/
def namesOnce (names : List String) (members : List (String × Json)) : Bool :=
  names.all fun name => (members.filter (·.1 = name)).length ≤ 1

def read? (names : List String) : Json → Option Record
  | object members =>
      if namesOnce names members then some ⟨members.filter (names.contains ·.1)⟩ else none
  | array items =>
      if items.length ≤ names.length then some ⟨names.zip items⟩ else none
  | _ => none

def get? (r : Record) (name : String) : Option Json :=
  lookup name r.fields

def required {α : Type} (r : Record) (name : String) (decode : Json → Option α) :
    Option α :=
  (r.get? name).bind decode

def withDefault {α : Type} (r : Record) (name : String) (fallback : α)
    (decode : Json → Option α) : Option α :=
  match r.get? name with
  | some j => decode j
  | none => some fallback

/-- A field that may be missing or null. -/
def nullable {α : Type} (r : Record) (name : String) (decode : Json → Option α) :
    Option (Option α) :=
  match r.get? name with
  | some .null => some none
  | some j => (decode j).map some
  | none => some none

end Record

def list? {α : Type} (decode : Json → Option α) (j : Json) : Option (List α) :=
  j.asArray?.bind (·.mapM decode)

/-- A word of an enumeration: a string, or an object with it as the only name. -/
def word? : Json → Option String
  | string s => some s
  | object [(s, null)] => some s
  | _ => none

end GridSql.Json
