import GridSql.Grid.Filters
import GridSql.Proofs.Filter.Faults
import GridSql.Proofs.Filter.Refusals

/-!
# Collected faults

A step whose result is taken over does not end the work when it is refused: what it reports is
added to what was found before. So recognition reports the faults of all parts of a filter
model, where its lists hold what they should: of every column, of both bounds of a range, of
every condition and of every child.
-/

namespace GridSql

def QueryError.violations : QueryError → Violations
  | .invalid vs => vs
  | _ => []

def reported {α : Type} (x : Except QueryError α) : Violations :=
  (errorOf x).flatMap QueryError.violations

/-- The violations that are left of some faults where only the first one is reported. -/
def firstReported (faults : List QueryError) : Violations :=
  (faults.take 1).flatMap QueryError.violations

section

variable {α β : Type} {x : Except QueryError α} {vs us : Violations}

theorem reported_invalid (vs : Violations) :
    reported (α := α) (.error (.invalid vs)) = vs := by
  simp [reported, errorOf, QueryError.violations]

theorem FailsFirst.reported_eq {faults : List QueryError} (h : FailsFirst x faults) :
    reported x = firstReported faults := by
  rw [reported, firstReported, h]

/-- A chain of steps is refused at its first step or at the others. -/
theorem bind_invalid {f : α → Except QueryError β} (h : (x >>= f) = .error (.invalid vs)) :
    x = .error (.invalid vs) ∨ ∃ a, x = .ok a ∧ f a = .error (.invalid vs) := by
  cases x with
  | error e =>
      cases h
      exact .inl rfl
  | ok a => exact .inr ⟨a, rfl, h⟩

namespace Violations

theorem finish_invalid_iff {a : α} :
    finish vs a = .error (.invalid us) ↔ us = vs ∧ vs ≠ [] := by
  unfold finish
  cases vs with
  | nil => simp
  | cons v vs => simp [eq_comm]

theorem reported_finish (vs : Violations) (a : α) :
    reported (finish vs a) = vs := by
  cases vs with
  | nil => rfl
  | cons v vs => exact reported_invalid _

end Violations

def NotRefused (x : Except QueryError α) : Prop :=
  ∀ vs, x ≠ .error (.invalid vs)

namespace NotRefused

theorem ok (a : α) : NotRefused (.ok a) := by
  simp [NotRefused]

theorem unrecognized (construct value : String) :
    NotRefused (α := α) (.error (.unrecognized construct value)) := by
  simp [NotRefused]

theorem bind {f : α → Except QueryError β} (hx : NotRefused x)
    (hf : ∀ a, x = .ok a → NotRefused (f a)) :
    NotRefused (x >>= f) := by
  intro us h
  rcases bind_invalid h with h | ⟨a, ha, h⟩
  · exact hx us h
  · exact hf a ha us h

theorem mapM {f : α → Except QueryError β} {l : List α} (hf : ∀ a ∈ l, NotRefused (f a)) :
    NotRefused (l.mapM f) := by
  induction l with
  | nil => exact ok []
  | cons a l ih =>
      obtain ⟨ha, hl⟩ := List.forall_mem_cons.1 hf
      rw [List.mapM_cons]
      exact bind ha fun b _ => bind (ih hl) fun bs _ => ok _

theorem of_failsFirst (h : FailsFirst x []) : NotRefused x := by
  rintro us rfl
  cases h

end NotRefused

/-- Whether a step is never refused itself, but hands on certain violations. -/
structure Gathers (x : Except QueryError (α × Violations)) (vs : Violations) : Prop where
  handsOn : ∀ a us, x = .ok (a, us) → us = vs
  notRefused : NotRefused x

namespace Gathers

theorem ok (a : α) (vs : Violations) : Gathers (.ok (a, vs)) vs where
  handsOn := fun _ _ h => (congrArg Prod.snd (Except.ok.inj h)).symm
  notRefused := .ok _

theorem unrecognized (construct value : String) (vs : Violations) :
    Gathers (α := α) (.error (.unrecognized construct value)) vs where
  handsOn := fun _ _ h => by cases h
  notRefused := .unrecognized _ _

/-- What a step reports is added to what was found before. -/
theorem take (vs : Violations) (x : Except QueryError α) :
    Gathers (Violations.take vs x) (vs ++ reported x) where
  handsOn := by
    intro a us h
    unfold Violations.take at h
    split at h
    · cases h
      exact (List.append_nil _).symm
    · cases h
      rw [reported_invalid]
    · cases h
  notRefused := by
    intro us h
    unfold Violations.take at h
    split at h
    · cases h
    · cases h
    · next other => exact other us (Except.error.inj h)

theorem bind {y : Except QueryError (α × Violations)}
    {f : α × Violations → Except QueryError (β × Violations)} (hy : Gathers y vs)
    (hf : ∀ a, Gathers (f (a, vs)) us) :
    Gathers (y >>= f) us where
  handsOn := by
    intro b ws h
    obtain ⟨⟨a, found⟩, ha, hb⟩ := bind_ok_iff.1 h
    cases hy.handsOn a found ha
    exact (hf a).handsOn b ws hb
  notRefused := hy.notRefused.bind fun _ ha => by
    cases hy.handsOn _ _ ha
    exact (hf _).notRefused

/-- A chain that begins with a step that gathers is refused behind it. -/
theorem refused {y : Except QueryError (α × Violations)}
    {f : α × Violations → Except QueryError β} (hy : Gathers y vs)
    (h : (y >>= f) = .error (.invalid us)) :
    ∃ a, y = .ok (a, vs) ∧ f (a, vs) = .error (.invalid us) := by
  rcases bind_invalid h with h | ⟨⟨a, found⟩, ha, hf⟩
  · exact absurd h (hy.notRefused us)
  · cases hy.handsOn a found ha
    exact ⟨a, ha, hf⟩

theorem finished {y : Except QueryError (α × Violations)} {f : α → β} (hy : Gathers y vs)
    (h : (y >>= fun found => Violations.finish found.2 (f found.1)) = .error (.invalid us)) :
    us = vs := by
  obtain ⟨a, -, h⟩ := hy.refused h
  exact (Violations.finish_invalid_iff.1 h).1

theorem takeAll (step : α → Except QueryError β) (vs : Violations) (l : List α) :
    Gathers (Violations.takeAll step vs l) (vs ++ l.flatMap fun a => reported (step a)) := by
  induction l generalizing vs with
  | nil =>
      rw [Violations.takeAll, List.flatMap_nil, List.append_nil]
      exact ok _ _
  | cons a l ih =>
      rw [List.flatMap_cons, ← List.append_assoc]
      exact bind (take vs (step a)) fun b => bind (ih _) fun bs => ok _ _

end Gathers

end

/-! ## Recognition -/

namespace Recognizers

variable {r : Recognizers} {family : ScalarFamily} {payload : Payload} {path id : String}
  {items : List Json} {vs us : Violations}

def membersOf (j : Json) : Payload :=
  j.asObject?.getD []

def boundsReported (family : ScalarFamily) (payload : Payload) (path : String) : Violations :=
  match family with
  | .text => []
  | .number =>
      reported (literal Literal.decimal (payload.member "filter") path "filter") ++
        reported (literal Literal.decimal (payload.member "filterTo") path "filterTo")
  | .date =>
      reported (literal filterTimestamp (payload.member "dateFrom") path "dateFrom") ++
        reported (literal filterTimestamp (payload.member "dateTo") path "dateTo")

/--
Recognition reports all parts of a filter model together: columns, the bounds of a condition,
conditions, children of multi filters and those of joins.
-/
structure CollectsFaults (r : Recognizers) : Prop where
  columns : ∀ (payload : Payload) vs, isColumnKeyed payload = true →
    r.recognize (.object payload) = .error (.invalid vs) →
      vs = payload.flatMap fun entry => reported (r.columnFilter entry.1 (membersOf entry.2))
  bounds : ∀ family (payload : Payload) path option vs,
    Json.lookup "type" payload = some (.string option) →
    scalar family payload path = .error (.invalid vs) → vs = boundsReported family payload path
  conditions : ∀ id (payload : Payload) family op items vs,
    Json.lookup "filterType" payload = some (.string (ScalarFamily.name family)) →
    Json.lookup "operator" payload = some (.string op) →
    Json.lookup "conditions" payload = some (.array items) →
    (∀ item ∈ items, item.asObject?.isSome = true) →
    r.columnFilter id payload = .error (.invalid vs) →
      vs = items.zipIdx.flatMap fun item => reported
        (scalar family (membersOf item.1) s!"filterModel.{id}.conditions[{item.2}]")
  children : ∀ id (payload : Payload) items vs,
    Json.lookup "filterType" payload = some (.string "multi") →
    Json.lookup "operator" payload = none →
    Json.lookup "filterModels" payload = some (.array items) →
    (∀ item ∈ items, item.isNull = true ∨ item.asObject?.isSome = true) →
    r.columnFilter id payload = .error (.invalid vs) →
      vs = items.flatMap fun item =>
        (item.asObject?.map fun child => reported (r.columnFilter id child)).getD []
  joins : ∀ (payload : Payload) op items vs,
    Json.lookup "filterType" payload = some (.string "join") →
    Json.lookup "type" payload = some (.string op) →
    Json.lookup "conditions" payload = some (.array items) →
    r.advancedFilter payload = .error (.invalid vs) →
      vs = items.flatMap fun item => reported (r.advancedFilter (membersOf item))

theorem requiredString_of_lookup {key s : String}
    (h : Json.lookup key payload = some (.string s)) :
    Payload.requiredString payload key path = .ok s := by
  rw [Payload.requiredString, h]

theorem rescue_invalid {α : Type} {x : Except QueryError α} {attempts : List (Option α)}
    (h : rescue x attempts = .error (.invalid vs)) :
    x = .error (.invalid vs) := by
  unfold rescue at h
  split at h
  · cases h
  · split at h
    · cases h
    · exact h

/-- A step behind a member that is there is refused by itself. -/
theorem requiredString_bind {α : Type} {key s : String}
    (named : Json.lookup key payload = some (.string s)) {f : String → Except QueryError α} :
    (Payload.requiredString payload key path >>= f) = f s := by
  rw [requiredString_of_lookup named]
  rfl

theorem word_bind_invalid {α β : Type} {ofName? : String → Option α} {construct s : String}
    {f : α → Except QueryError β} (h : (word ofName? construct s >>= f) = .error (.invalid vs)) :
    ∃ a, ofName? s = some a ∧ f a = .error (.invalid vs) := by
  unfold word at h
  split at h
  · next a ha => exact ⟨a, ha, h⟩
  · cases h

theorem scalar_invalid {option : String}
    (named : Json.lookup "type" payload = some (.string option))
    (h : scalar family payload path = .error (.invalid vs)) :
    vs = boundsReported family payload path := by
  unfold scalar at h
  rw [requiredString_bind named] at h
  obtain ⟨kind, -, h⟩ := word_bind_invalid h
  cases family with
  | text => cases h
  | number =>
      obtain ⟨low, -, h⟩ := (Gathers.take [] _).refused h
      obtain ⟨high, -, h⟩ := (Gathers.take _ _).refused h
      exact (Violations.finish_invalid_iff.1 h).1
  | date =>
      obtain ⟨low, -, h⟩ := (Gathers.take [] _).refused h
      obtain ⟨high, -, h⟩ := (Gathers.take _ _).refused h
      exact (Violations.finish_invalid_iff.1 h).1

theorem gathers_columnFilters (r : Recognizers) (us : Violations) {payload : Payload}
    (keyed : isColumnKeyed payload = true) :
    Gathers (r.columnFilters us payload) (us ++ payload.flatMap fun entry =>
      reported (r.columnFilter entry.1 (membersOf entry.2))) := by
  induction payload generalizing us with
  | nil =>
      rw [columnFilters, List.flatMap_nil, List.append_nil]
      exact .ok _ _
  | cons entry rest ih =>
      obtain ⟨id, j⟩ := entry
      simp only [isColumnKeyed, List.all_cons, Bool.and_eq_true] at keyed
      rw [List.flatMap_cons, ← List.append_assoc]
      cases j with
      | object members =>
          exact .bind (.take us _) fun filter => .bind (ih _ keyed.2) fun others => .ok _ _
      | _ => cases keyed.1

theorem gathers_conditions (family : ScalarFamily) (path : String) (us : Violations)
    (index : Nat) {items : List Json} (objects : ∀ item ∈ items, item.asObject?.isSome = true) :
    Gathers (conditions family path us index items) (us ++ (items.zipIdx index).flatMap fun item =>
      reported (scalar family (membersOf item.1) s!"{path}.conditions[{item.2}]")) := by
  induction items generalizing us index with
  | nil =>
      rw [conditions, List.zipIdx_nil, List.flatMap_nil, List.append_nil]
      exact .ok _ _
  | cons item rest ih =>
      obtain ⟨isObject, others⟩ := List.forall_mem_cons.1 objects
      rw [List.zipIdx_cons, List.flatMap_cons, ← List.append_assoc]
      cases item with
      | object payload =>
          unfold conditions
          dsimp only
          split
          · exact .unrecognized _ _ _
          · exact .bind (.take us _) fun condition => .bind (ih _ _ others) fun rest => .ok _ _
      | _ => cases isObject

theorem gathers_childFilters (r : Recognizers) (id path : String) (us : Violations)
    {items : List Json}
    (shaped : ∀ item ∈ items, item.isNull = true ∨ item.asObject?.isSome = true) :
    Gathers (r.childFilters id path us items) (us ++ items.flatMap fun item =>
      (item.asObject?.map fun child => reported (r.columnFilter id child)).getD []) := by
  induction items generalizing us with
  | nil =>
      rw [childFilters, List.flatMap_nil, List.append_nil]
      exact .ok _ _
  | cons item rest ih =>
      obtain ⟨shape, others⟩ := List.forall_mem_cons.1 shaped
      rw [List.flatMap_cons, ← List.append_assoc]
      cases item with
      | object child =>
          rw [childFilters]
          exact .bind (.take us _) fun filter => .bind (ih _ others) fun rest => .ok _ _
      | null =>
          rw [childFilters]
          change Gathers _ (us ++ [] ++ _)
          rw [List.append_nil]
          exact .bind (ih _ others) fun rest => .ok _ _
      | _ => simp [Json.isNull, Json.asObject?] at shape

theorem gathers_advancedFilters (r : Recognizers) (us : Violations) (items : List Json) :
    Gathers (r.advancedFilters us items) (us ++ items.flatMap fun item =>
      reported (r.advancedFilter (membersOf item))) := by
  induction items generalizing us with
  | nil =>
      rw [advancedFilters, List.flatMap_nil, List.append_nil]
      exact .ok _ _
  | cons item rest ih =>
      rw [List.flatMap_cons, ← List.append_assoc]
      cases item with
      | object child =>
          rw [advancedFilters]
          exact .bind (.take us _) fun filter => .bind (ih _) fun others => .ok _ _
      | _ =>
          rw [advancedFilters]
          · exact .unrecognized _ _ _
          · simp

theorem columnFilter_invalid {id : String} (h : r.columnFilter id payload = .error (.invalid vs)) :
    r.builtinColumn id payload = .error (.invalid vs) := by
  rw [columnFilter] at h
  exact rescue_invalid h

theorem ScalarFamily.ofName?_name (family : ScalarFamily) :
    ScalarFamily.ofName? family.name = some family := by
  cases family <;> rfl

theorem combined_invalid {op : String}
    (joined : Json.lookup "operator" payload = some (.string op))
    (listed : Json.lookup "conditions" payload = some (.array items))
    (objects : ∀ item ∈ items, item.asObject?.isSome = true)
    (h : combined family.name payload path = .error (.invalid vs)) :
    vs = items.zipIdx.flatMap fun item => reported
      (scalar family (membersOf item.1) s!"{path}.conditions[{item.2}]") := by
  unfold combined at h
  rw [word, ScalarFamily.ofName?_name] at h
  change (Payload.requiredString payload "operator" path >>= _) = _ at h
  rw [requiredString_bind joined] at h
  obtain ⟨joinOp, -, found⟩ := word_bind_invalid h
  rw [listed] at found
  exact (gathers_conditions _ _ [] 0 objects).finished found

theorem builtinColumn_conditions {id : String}
    (named : Json.lookup "filterType" payload = some (.string family.name))
    (joined : (Json.lookup "operator" payload).isSome = true)
    (listed : (Json.lookup "conditions" payload).isSome = true) :
    r.builtinColumn id payload = combined family.name payload s!"filterModel.{id}" := by
  rw [builtinColumn, requiredString_bind named]
  simp only [joined, listed, Bool.and_self, if_true]

theorem builtinColumn_multi {id : String}
    (named : Json.lookup "filterType" payload = some (.string "multi"))
    (alone : Json.lookup "operator" payload = none)
    (listed : Json.lookup "filterModels" payload = some (.array items)) :
    r.builtinColumn id payload = r.childFilters id s!"filterModel.{id}" [] items >>= fun found =>
      Violations.finish found.2 (.multi found.1) := by
  have noFamily : ScalarFamily.ofName? "multi" = none := rfl
  rw [builtinColumn, requiredString_bind named]
  simp only [alone, noFamily, Option.isSome_none, Bool.and_false, Bool.false_eq_true, if_false,
    String.reduceEq, if_true]
  split <;> simp_all

theorem builtinAdvanced_join {op : String}
    (named : Json.lookup "filterType" payload = some (.string "join"))
    (joined : Json.lookup "type" payload = some (.string op))
    (listed : Json.lookup "conditions" payload = some (.array items)) :
    r.builtinAdvanced payload = word JoinOp.ofName? "join operator" op >>= fun op =>
      r.advancedFilters [] items >>= fun found => Violations.finish found.2 (.join op found.1) := by
  rw [builtinAdvanced, requiredString_bind named, if_pos rfl, requiredString_bind joined]
  congr 1
  funext op
  split <;> simp_all

theorem collectsFaults (r : Recognizers) : r.CollectsFaults where
  columns := by
    intro payload vs keyed h
    rw [recognize, if_pos keyed] at h
    exact (r.gathers_columnFilters [] keyed).finished h
  bounds := fun _ _ _ _ _ named h => scalar_invalid named h
  conditions := by
    intro id payload family op items vs named joined listed objects h
    have builtin := columnFilter_invalid h
    rw [builtinColumn_conditions named (by rw [joined]; rfl) (by rw [listed]; rfl)] at builtin
    exact combined_invalid joined listed objects builtin
  children := by
    intro id payload items vs named alone listed shaped h
    have builtin := columnFilter_invalid h
    rw [builtinColumn_multi named alone listed] at builtin
    exact (r.gathers_childFilters id _ [] shaped).finished builtin
  joins := by
    intro payload op items vs named joined listed h
    rw [advancedFilter] at h
    have builtin := rescue_invalid h
    rw [builtinAdvanced_join named joined listed] at builtin
    obtain ⟨joinOp, -, found⟩ := word_bind_invalid builtin
    exact (r.gathers_advancedFilters [] items).finished found

end Recognizers

end GridSql
