import GridSql.Error
import GridSql.Filter.Model
import GridSql.Value.Json

/-!
# Recognition of filter models

Reads a filter model from the JSON of a request. A model whose members are all
objects has one filter for each column; any other model is a tree of conditions.
Texts that cannot be read as numbers or dates are collected as violations; a word
that stands for nothing ends recognition. Recognizers of the server are asked, in
order, only where the built-in reading fails.
-/

namespace GridSql

abbrev Payload := List (String × Json)

/-- Own ways to read filters. Each one declines with none. -/
structure Recognizers where
  /-- For the filter of a column, given its name. -/
  column : List (String → Payload → Option ColumnFilter) := []
  /-- For a node of an advanced filter. -/
  advanced : List (Payload → Option AdvancedFilter) := []
deriving Inhabited

namespace Payload

def field (path key : String) : String := s!"{path}.{key}"

def requiredString (payload : Payload) (key path : String) : Except QueryError String :=
  match Json.lookup key payload with
  | some (.string s) => .ok s
  | some other => .error (.refused (field path key) "must be a string" other)
  | none => .error (.single (field path key) "is required")

def member (payload : Payload) (key : String) : Json :=
  (Json.lookup key payload).getD .null

end Payload

namespace Recognizers

def word {α : Type} (ofName? : String → Option α) (construct s : String) :
    Except QueryError α :=
  match ofName? s with
  | some a => .ok a
  | none => .error (.unrecognized construct s)

/-- The text of a JSON literal; null has none. -/
def literalText : Json → Option String
  | .null => none
  | j => some (Value.jsonText j)

def literal {α : Type} (read : String → Except LiteralError α) (j : Json)
    (path key : String) : Except QueryError (Option α) :=
  match literalText j with
  | none => .ok none
  | some s =>
      match read s with
      | .ok a => .ok (some a)
      | .error e => .error (.refused (Payload.field path key) e.message j)

/-- The date-time of a filter; its usual form is tried first, untrimmed. -/
def filterTimestamp (s : String) : Except LiteralError Timestamp :=
  let usual : DateLayout := DateLayout.yearFirst '-' ++ .blanks :: DateLayout.clock
  match usual.timestamp? s.toList with
  | some t => .ok t
  | none => Literal.timestamp s

/-- The date of an advanced filter; its usual form is tried first, untrimmed. -/
def filterDate (s : String) : Except LiteralError Date :=
  match (DateLayout.yearFirst '-').date? s.toList with
  | some d => .ok d
  | none => (Literal.timestamp s).map (·.date)

inductive ScalarFamily where
  | text
  | number
  | date
deriving DecidableEq, Repr

namespace ScalarFamily

def name : ScalarFamily → String
  | text => "text"
  | number => "number"
  | date => "date"

def ofName? (s : String) : Option ScalarFamily :=
  [text, number, date].find? (·.name == s)

end ScalarFamily

/-- A condition with one operator. Both of its literals are looked at. -/
def scalar (family : ScalarFamily) (payload : Payload) (path : String) :
    Except QueryError ColumnFilter := do
  let option ← word FilterOption.ofName? s!"{family.name} filter type"
    (← payload.requiredString "type" path)
  match family with
  | .text =>
      .ok (.text
        { option
          filter := literalText (payload.member "filter")
          filterTo := literalText (payload.member "filterTo") })
  | .number =>
      let (filter, vs) ← Violations.take []
        (literal Literal.decimal (payload.member "filter") path "filter")
      let (filterTo, vs) ← Violations.take vs
        (literal Literal.decimal (payload.member "filterTo") path "filterTo")
      Violations.finish vs (.number { option, filter := filter.join, filterTo := filterTo.join })
  | .date =>
      let (dateFrom, vs) ← Violations.take []
        (literal filterTimestamp (payload.member "dateFrom") path "dateFrom")
      let (dateTo, vs) ← Violations.take vs
        (literal filterTimestamp (payload.member "dateTo") path "dateTo")
      Violations.finish vs (.date { option, dateFrom := dateFrom.join, dateTo := dateTo.join })

/-- The conditions of a combined filter from number `index` on. -/
def conditions (family : ScalarFamily) (path : String) (vs : Violations) :
    Nat → List Json → Except QueryError (List ColumnFilter × Violations)
  | _, [] => .ok ([], vs)
  | index, item :: rest =>
      match item with
      | .object payload => do
          let own := ((Payload.member payload "filterType").asString?).getD family.name
          if own ≠ family.name then
            .error (.unrecognized "combined condition type" s!"{own} inside {family.name}")
          else
            let (condition, vs) ← Violations.take vs
              (scalar family payload s!"{path}.conditions[{index}]")
            let (others, vs) ← conditions family path vs (index + 1) rest
            .ok (condition.toList ++ others, vs)
      | other => .error (.refused (Payload.field path "conditions") "must hold objects" other)

/-- A filter with an operator between conditions of one family. -/
def combined (familyName : String) (payload : Payload) (path : String) :
    Except QueryError ColumnFilter := do
  let family ← word ScalarFamily.ofName? "combined filter type" familyName
  let op ← word JoinOp.ofName? "operator" (← payload.requiredString "operator" path)
  match Json.lookup "conditions" payload with
  | some (.array items) =>
      let (filters, vs) ← conditions family path [] 0 items
      Violations.finish vs (.combined op filters)
  | some other =>
      .error (.refused (Payload.field path "conditions") "must be an array" other)
  | none => .error (.single (Payload.field path "conditions") "is required")

def setValues (payload : Payload) (path : String) : Except QueryError ColumnFilter :=
  match payload.member "values" with
  | .array items => .ok (.set (items.map literalText))
  | .null => .ok (.set [])
  | other => .error (.refused (Payload.field path "values") "must be an array" other)

/-- The result of the first recognizer that accepts, or the error that was met before. -/
def rescue {α : Type} (r : Except QueryError α) (attempts : List (Option α)) :
    Except QueryError α :=
  match r with
  | .ok a => .ok a
  | .error e =>
      match attempts.findSome? id with
      | some a => .ok a
      | none => .error e

theorem sizeOf_lookup_lt {key : String} {payload : Payload} {j : Json}
    (h : Json.lookup key payload = some j) : sizeOf j < sizeOf payload := by
  induction payload with
  | nil => simp [Json.lookup] at h
  | cons member rest ih =>
      obtain ⟨name, value⟩ := member
      simp only [Json.lookup] at h
      cases hr : Json.lookup key rest with
      | some found =>
          simp only [hr, Option.orElse_some, Option.some.injEq] at h
          subst h
          have := ih hr
          simp only [List.cons.sizeOf_spec]
          omega
      | none =>
          simp only [hr, Option.orElse_none] at h
          split at h
          · simp only [Option.some.injEq] at h
            subst h
            simp only [List.cons.sizeOf_spec, Prod.mk.sizeOf_spec]
            omega
          · simp at h

mutual

def columnFilter (r : Recognizers) (id : String) (payload : Payload) :
    Except QueryError ColumnFilter :=
  rescue (builtinColumn r id payload) (r.column.map fun f => f id payload)
termination_by (sizeOf payload, 1)

/-- The filter of a column, unless only a recognizer of the server knows it. -/
def builtinColumn (r : Recognizers) (id : String) (payload : Payload) :
    Except QueryError ColumnFilter := do
  let path := s!"filterModel.{id}"
  let family ← payload.requiredString "filterType" path
  let hasMember := fun key => (Json.lookup key payload).isSome
  if hasMember "conditions" && hasMember "operator" then
    combined family payload path
  else
    match ScalarFamily.ofName? family with
    | some scalarFamily => scalar scalarFamily payload path
    | none =>
        if family = "set" then setValues payload path
        else if family = "multi" then
          match _found : Json.lookup "filterModels" payload with
          | some (.array items) =>
              let (children, vs) ← childFilters r id path [] items
              Violations.finish vs (.multi children)
          | none | some .null => .ok (.multi [])
          | some other =>
              .error (.refused (Payload.field path "filterModels") "must be an array" other)
        else
          .error (.unrecognized "filter type" family)
termination_by (sizeOf payload, 0)
decreasing_by
  have := sizeOf_lookup_lt _found
  simp only [Json.array.sizeOf_spec] at this
  left
  omega

def childFilters (r : Recognizers) (id path : String) (vs : Violations)
    (items : List Json) : Except QueryError (List (Option ColumnFilter) × Violations) :=
  match items with
  | [] => .ok ([], vs)
  | .object child :: rest => do
      let (filter, vs) ← Violations.take vs (columnFilter r id child)
      let (others, vs) ← childFilters r id path vs rest
      .ok ((filter.map some).toList ++ others, vs)
  | .null :: rest => do
      let (others, vs) ← childFilters r id path vs rest
      .ok (none :: others, vs)
  | other :: _ =>
      .error (.refused (Payload.field path "filterModels") "must hold objects" other)
termination_by (sizeOf items, 0)

end

mutual

def advancedFilter (r : Recognizers) (payload : Payload) :
    Except QueryError AdvancedFilter :=
  rescue (builtinAdvanced r payload) (r.advanced.map fun f => f payload)
termination_by (sizeOf payload, 1)

/-- A node of an advanced filter, unless only a recognizer of the server knows it. -/
def builtinAdvanced (r : Recognizers) (payload : Payload) :
    Except QueryError AdvancedFilter := do
  let family ← payload.requiredString "filterType" "filterModel"
  if family = "join" then
    let op ← word JoinOp.ofName? "join operator" (← payload.requiredString "type" "filterModel")
    match _found : Json.lookup "conditions" payload with
    | some (.array items) =>
        let (children, vs) ← advancedFilters r [] items
        Violations.finish vs (.join op children)
    | none | some .null => .ok (.join op [])
    | some other => .error (.refused "filterModel.conditions" "must be an array" other)
  else
    let id ← payload.requiredString "colId" "filterModel"
    let path := s!"filterModel.{id}"
    let kind ← payload.requiredString "type" path
    let filter := payload.member "filter"
    let condition ←
      if family = "text" then
        (word TextOption.ofName? "text filter type" kind).map fun option =>
          AdvancedCondition.text option (literalText filter)
      else if family = "object" then
        (word TextOption.ofName? "object filter type" kind).map fun option =>
          .object option (literalText filter)
      else if family = "number" then do
        let option ← word ScalarOption.ofName? "number filter type" kind
        (literal Literal.decimal filter path "filter").map (.number option)
      else if family = "date" then do
        let option ← word ScalarOption.ofName? "date filter type" kind
        (literal filterDate filter path "filter").map (.date option)
      else if family = "dateString" then do
        let option ← word ScalarOption.ofName? "dateString filter type" kind
        (literal filterDate filter path "filter").map (.dateString option)
      else if family = "boolean" then
        (word BooleanOption.ofName? "boolean filter type" kind).map .boolean
      else
        .error (.unrecognized "advanced filter type" family)
    .ok (.column id condition)
termination_by (sizeOf payload, 0)
decreasing_by
  have := sizeOf_lookup_lt _found
  simp only [Json.array.sizeOf_spec] at this
  left
  omega

def advancedFilters (r : Recognizers) (vs : Violations) (items : List Json) :
    Except QueryError (List AdvancedFilter × Violations) :=
  match items with
  | [] => .ok ([], vs)
  | .object child :: rest => do
      let (filter, vs) ← Violations.take vs (advancedFilter r child)
      let (others, vs) ← advancedFilters r vs rest
      .ok (filter.toList ++ others, vs)
  | other :: _ => .error (.unrecognized "advanced filter" other.compact)
termination_by (sizeOf items, 0)

end

def isColumnKeyed (payload : Payload) : Bool :=
  payload.all fun (_, j) => j.asObject?.isSome

def columnFilters (r : Recognizers) (vs : Violations) :
    Payload → Except QueryError (List (String × ColumnFilter) × Violations)
  | [] => .ok ([], vs)
  | (id, .object payload) :: rest => do
      let (filter, vs) ← Violations.take vs (columnFilter r id payload)
      let (others, vs) ← columnFilters r vs rest
      .ok ((filter.map (id, ·)).toList ++ others, vs)
  | _ :: rest => columnFilters r vs rest

def recognize (r : Recognizers) (j : Json) : Except QueryError FilterModel :=
  match j with
  | .object payload =>
      if isColumnKeyed payload then do
        let (entries, vs) ← columnFilters r [] payload
        Violations.finish vs (.columns entries)
      else
        (advancedFilter r payload).map .advanced
  | other => .error (.unrecognized "filter model" other.compact)

end Recognizers

end GridSql
