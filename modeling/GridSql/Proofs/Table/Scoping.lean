import GridSql.Proofs.Sql.Columns
import GridSql.Proofs.Sql.ReadValue
import GridSql.Proofs.Table.Subquery

/-!
# Lexical scoping of subqueries

A column that is qualified with the name of a query reads the current row of the innermost
query of that name around it, and any other column the row of the query that it stands in.
A table runs an EXISTS subquery with one row only, that of the query directly around it, and
an IN subquery with none. So it follows the scoping as long as no column reads farther out.
-/

namespace GridSql

/-- A query around an expression: the name of its columns and its current row. -/
structure Frame where
  name : String
  row : Row

namespace Table

/-! ## What columns read -/

/--
What a column of the query `own` stands for inside other queries, the innermost first: the
cell of the first query of its name. Columns of no such query are left as they are.
-/
def scopedColumn (t : Table) (own : String) (env : List Frame) : Option String → String → Expr
  | none, name => .column none name
  | some owner, name =>
      if Text.eqIgnoringCase owner own then .column (some owner) name
      else
        match env.find? fun frame => Text.eqIgnoringCase owner frame.name with
        | some frame =>
            if (t.typeOf? name).isSome then .literal (frame.row.cell name)
            else .column (some owner) name
        | none => .column (some owner) name

/-- An expression with the columns of the queries around it read. -/
def closed (t : Table) (own : String) (env : List Frame) (e : Expr) : Expr :=
  e.mapColumns (t.scopedColumn own env)

/-- A query with the columns of the queries around it read in all clauses but WHERE. -/
def closedClauses (t : Table) (own : String) (env : List Frame) (q : Query) : Query :=
  { q with
    select := q.select.map fun item => { item with expr := t.closed own env item.expr }
    groupBy := q.groupBy.map (t.closed own env)
    having := q.having.map (t.closed own env)
    orderBy := q.orderBy.map fun key => { key with expr := t.closed own env key.expr } }

/-- The name that the columns of a query are qualified with. -/
def nameOf (t : Table) (source : Option TableRef) : String :=
  (source.map (·.referenceName)).getD t.name

mutual

/-- The rows of the answer to a query inside other queries. -/
def answerIn (t : Table) (env : List Frame) : Query → Except SourceError (List (List Value))
  | ⟨select, distinct, source, filter, groupBy, having, orderBy, window⟩ => do
      t.checkSource source
      let kept ← t.rows.filterM fun row => t.passesIn env (t.nameOf source) row filter
      let q := t.closedClauses (t.nameOf source) env
        ⟨select, distinct, source, filter, groupBy, having, orderBy, window⟩
      let result ← t.output q q.having kept
      .ok result.rows

/-- Whether a row of the query `own` passes its WHERE clause inside other queries. -/
def passesIn (t : Table) (env : List Frame) (own : String) (row : Row) :
    Option Expr → Except SourceError Bool
  | some e => do
      let decided ← t.decidedIn env own row e
      t.test (.row row) decided
  | none => .ok true

/-- A predicate with its subqueries answered for a row of the query `own` inside others. -/
def decidedIn (t : Table) (env : List Frame) (own : String) (row : Row) :
    Expr → Except SourceError Expr
  | .inQuery e query negated => do
      let rows ← t.answerIn (⟨own, row⟩ :: env) query
      let candidates := rows.filterMap fun row => row.head?.map Expr.literal
      .ok (.inList (t.closed own env e) candidates negated)
  | .existsIn query negated => do
      let rows ← t.answerIn (⟨own, row⟩ :: env) query
      .ok (.truth (!rows.isEmpty != negated))
  | .binary op l r => do
      let left ← t.decidedIn env own row l
      let right ← t.decidedIn env own row r
      .ok (.binary op left right)
  | .unary op e => do
      let operand ← t.decidedIn env own row e
      .ok (.unary op operand)
  | .paren e => do
      let inner ← t.decidedIn env own row e
      .ok (.paren inner)
  | e => .ok (t.closed own env e)

end

/--
Whether an answer to a query is made of the rows of the table on which its WHERE clause is
true under lexical scoping.
-/
def AnswersScoped (t : Table) (q : Query) (result : ResultSet) : Prop :=
  ∃ passes : Row → Bool,
    (∀ row ∈ t.rows, t.passesIn [] (t.nameOf q.source) row q.filter = .ok (passes row)) ∧
    ∃ having_, t.resolveOption none q.having = .ok having_ ∧
      t.output q (having_.map (·.expr)) (t.rows.filter passes) = .ok result

end Table

/-! ## Columns that are near -/

/--
Whether every qualified column of an expression is one of the query `own` that it stands in,
or a known column of the query `around` that is directly around that one.
-/
def Expr.ReadsNear (t : Table) (own : String) (around : Option String) (e : Expr) : Prop :=
  ∀ owner name, .column (some owner) name ∈ e.nodes →
    Text.eqIgnoringCase owner own = true ∨
      (t.typeOf? name).isSome = true ∧ ∃ near ∈ around, Text.eqIgnoringCase owner near = true

def Expr.HasNoQuery (e : Expr) : Prop :=
  (∀ subject q negated, .inQuery subject q negated ∉ e.nodes) ∧
    ∀ q negated, .existsIn q negated ∉ e.nodes

mutual

/--
Whether the subqueries of a predicate of the query `own` read near columns only: an EXISTS
subquery in WHERE and HAVING those of the query around it, and everything else its own.
-/
def Expr.CorrelatesNear (t : Table) (own : String) (around : Option String) : Expr → Prop
  | .binary _ l r => l.CorrelatesNear t own around ∧ r.CorrelatesNear t own around
  | .unary _ e | .paren e => e.CorrelatesNear t own around
  | .inQuery e q _ => e.HasNoQuery ∧ e.ReadsNear t own none ∧ q.CorrelatesNear t none
  | .existsIn q _ => q.CorrelatesNear t (some own)
  | e => e.ReadsNear t own around

def Expr.OptionCorrelatesNear (t : Table) (own : String) (around : Option String) :
    Option Expr → Prop
  | some e => e.CorrelatesNear t own around
  | none => True

def Query.CorrelatesNear (t : Table) (around : Option String) : Query → Prop
  | ⟨select, _, source, filter, groupBy, having, orderBy, _⟩ =>
      Expr.OptionCorrelatesNear t (t.nameOf source) around filter ∧
        (∀ item ∈ select, item.expr.ReadsNear t (t.nameOf source) none) ∧
        (∀ e ∈ groupBy, e.ReadsNear t (t.nameOf source) none) ∧
        (∀ e ∈ having, e.HasNoQuery ∧ e.ReadsNear t (t.nameOf source) around) ∧
        ∀ key ∈ orderBy, key.expr.ReadsNear t (t.nameOf source) none

end

theorem Expr.HasNoQuery.of_subset {e whole : Expr} (h : whole.HasNoQuery)
    (subset : e.nodes ⊆ whole.nodes) :
    e.HasNoQuery :=
  ⟨fun subject q negated hmem => h.1 subject q negated (subset hmem),
    fun q negated hmem => h.2 q negated (subset hmem)⟩

namespace Table

variable {t : Table} {own : String} {around : Option String} {env : List Frame}
  {outer : Option OuterRow} {row : Row} {e : Expr}

/-- What a subquery is run with: nothing, or the row of the first of the queries around it. -/
inductive Surrounds (own : String) : Option OuterRow → Option String → List Frame → Prop where
  | alone (env : List Frame) : Surrounds own none none env
  | inside (name : String) (row : Row) (env : List Frame) :
      Surrounds own (some ⟨own, row⟩) (some name) (⟨name, row⟩ :: env)

theorem closed_of_own (h : e.ReadsNear t own none) :
    t.closed own env e = e := by
  refine Expr.mapColumns_self fun owner name hmem => ?_
  cases owner with
  | none => rfl
  | some owner =>
      rcases h owner name hmem with heq | ⟨-, near, hnear, -⟩
      · exact if_pos heq
      · cases hnear

/-- What is put in place of near columns is what the scoping says. -/
theorem within_eq_closed (h : Surrounds own outer around env) (near : e.ReadsNear t own around) :
    e.within outer = t.closed own env e := by
  cases h with
  | alone => exact (closed_of_own near).symm
  | inside name row env =>
      refine (Expr.bindOuter_eq_mapColumns _ e).trans (Expr.mapColumns_congr ?_)
      intro owner column hmem
      cases owner with
      | none => rfl
      | some owner =>
          simp only [Expr.outerColumn, scopedColumn]
          split
          · rfl
          · next other =>
              rcases near owner column hmem with heq | ⟨known, near, hnear, heq⟩
              · exact absurd heq other
              · cases hnear
                simp [heq, known]

/-- A predicate without subqueries is resolved to itself, with the columns around it read. -/
theorem resolve_of_hasNoQuery : ∀ {e : Expr}, e.HasNoQuery →
    t.resolve outer e = .ok (.plain (e.within outer))
  | .binary op l r, h => by
      have left : l.HasNoQuery := h.of_subset (by simp [Expr.nodes])
      have right : r.HasNoQuery := h.of_subset (by simp [Expr.nodes])
      rw [resolve, resolve_of_hasNoQuery left, resolve_of_hasNoQuery right]
      cases outer <;> rfl
  | .unary op e, h => by
      have operand : e.HasNoQuery := h.of_subset (by simp [Expr.nodes])
      rw [resolve, resolve_of_hasNoQuery operand]
      cases outer <;> rfl
  | .paren e, h => by
      have inner : e.HasNoQuery := h.of_subset (by simp [Expr.nodes])
      rw [resolve, resolve_of_hasNoQuery inner]
      cases outer <;> rfl
  | .inQuery e q negated, h => absurd (Expr.mem_nodes _) (h.1 e q negated)
  | .existsIn q negated, h => absurd (Expr.mem_nodes _) (h.2 q negated)
  | .literal _, _ | .truth _, _ | .star _, _ => by cases outer <;> rfl
  | .column .., _ | .call .., _ | .choice .., _ | .cast .., _ | .inList .., _ | .between .., _
  | .isNull .., _ | .like .., _ => rfl

/-! ## Answers -/

theorem extends_filterM {ε α : Type} {f g : α → Except ε Bool} (h : ∀ a, Extends (f a) (g a))
    (l : List α) :
    Extends (l.filterM f) (l.filterM g) := by
  intro kept hkept
  obtain ⟨tested, rfl⟩ := filterM_ok_iff.1 hkept
  refine filterM_ok_iff.2 ⟨fun a ha => ?_, List.filter_congr fun a ha => ?_⟩
  · obtain ⟨b, hb⟩ := tested a ha
    exact ⟨b, h a b hb⟩
  · obtain ⟨b, hb⟩ := tested a ha
    rw [hb, h a b hb]

def passesResolved (t : Table) (row : Row) : Option Resolved → Except SourceError Bool
  | some p => do
      let bound ← p.onRow row
      t.test (.row row) bound
  | none => .ok true

theorem filterM_true {ε α : Type} (l : List α) :
    (l.filterM fun _ => (.ok true : Except ε Bool)) = .ok l := by
  refine filterM_ok_iff.2 ⟨fun a _ => ⟨true, rfl⟩, ?_⟩
  simp [isTrue]

theorem matchedWithin_eq_filterM (filter : Option Expr) :
    t.matchedWithin outer filter = (do
      let p? ← t.resolveOption outer filter
      t.rows.filterM fun row => t.passesResolved row p?) := by
  refine bind_congr fun p? => ?_
  cases p? with
  | none => exact (filterM_true t.rows).symm
  | some p => rfl

/-- In the clauses behind WHERE near columns are read as the scoping says. -/
theorem closedClauses_of_near {q : Query}
    (select : ∀ item ∈ q.select, item.expr.ReadsNear t own none)
    (groupBy : ∀ e ∈ q.groupBy, e.ReadsNear t own none)
    (orderBy : ∀ key ∈ q.orderBy, key.expr.ReadsNear t own none) :
    t.closedClauses own env q = { q with having := q.having.map (t.closed own env) } := by
  have items : (q.select.map fun item => { item with expr := t.closed own env item.expr }) =
      q.select := by
    refine (List.map_congr_left fun item hitem => ?_).trans (List.map_id _)
    rw [closed_of_own (select item hitem)]
    cases item
    rfl
  have keys : q.groupBy.map (t.closed own env) = q.groupBy :=
    (List.map_congr_left fun e he => closed_of_own (groupBy e he)).trans (List.map_id _)
  have orders : (q.orderBy.map fun key => { key with expr := t.closed own env key.expr }) =
      q.orderBy := by
    refine (List.map_congr_left fun key hkey => ?_).trans (List.map_id _)
    rw [closed_of_own (orderBy key hkey)]
    cases key
    rfl
  rw [closedClauses, items, keys, orders]

theorem projectGroups_having (q : Query) (having_ passed : Option Expr)
    (groups : List (List Row)) :
    t.projectGroups { q with having := having_ } passed groups = t.projectGroups q passed groups := by
  induction groups with
  | nil => rfl
  | cons rows groups ih =>
      unfold projectGroups project
      simp only [ih]

/-- The HAVING clause that is written down only tells whether there is one. -/
theorem output_having (q : Query) {having_ : Option Expr} (same : having_.isSome = q.having.isSome)
    (passed : Option Expr) (rows : List Row) :
    t.output { q with having := having_ } passed rows = t.output q passed rows := by
  have grouped : isGrouped { q with having := having_ } = isGrouped q := by
    rw [isGrouped, isGrouped, same]
  unfold output
  simp only [grouped, projectGroups_having, project]

mutual

/--
What a table answers to a query inside others is what the scoping says, by induction over
the query: its WHERE clause passes the same rows.
-/
theorem extends_answerIn {around : Option String} {env : List Frame} {outer : Option OuterRow} :
    ∀ {q : Query}, q.CorrelatesNear t around → Surrounds (t.nameOf q.source) outer around env →
      Extends ((t.runWithin outer q).map (·.rows)) (t.answerIn env q)
  | ⟨select, distinct, source, filter, groupBy, having_, orderBy, window⟩, near, surrounds => by
      obtain ⟨hfilter, hselect, hgroup, hhaving, horder⟩ := near
      intro rows h
      obtain ⟨result, hrun, rfl⟩ := map_ok_iff.1 h
      obtain ⟨hsource, kept, resolved, hmatched, hresolved, houtput⟩ := runWithin_ok_iff.1 hrun
      rw [matchedWithin_eq_filterM] at hmatched
      obtain ⟨p?, hp, hkept⟩ := bind_ok_iff.1 hmatched
      have sameRows := extends_filterM
        (fun row => extends_passesIn row hfilter surrounds hp) t.rows kept hkept
      have sameHaving : resolved.map (·.expr) = having_.map (t.closed (t.nameOf source) env) := by
        cases having_ with
        | none =>
            cases hresolved
            rfl
        | some e =>
            obtain ⟨hplain, hnear⟩ := hhaving e rfl
            obtain ⟨p, hp, rfl⟩ := map_ok_iff.1 hresolved
            rw [resolve_of_hasNoQuery hplain] at hp
            cases hp
            exact congrArg some (within_eq_closed surrounds hnear)
      let whole : Query := ⟨select, distinct, source, filter, groupBy, having_, orderBy, window⟩
      have clauses : t.closedClauses (t.nameOf source) env whole =
          { whole with having := having_.map (t.closed (t.nameOf source) env) } :=
        closedClauses_of_near hselect hgroup horder
      refine bind_ok_iff.2 ⟨(), hsource, bind_ok_iff.2 ⟨kept, sameRows, ?_⟩⟩
      refine bind_ok_iff.2 ⟨result, ?_, rfl⟩
      rw [clauses, output_having _ (Option.isSome_map ..), ← sameHaving]
      exact houtput

theorem extends_passesIn {around : Option String} {env : List Frame} {outer : Option OuterRow}
    {own : String} (row : Row) :
    ∀ {filter : Option Expr} {p? : Option Resolved}, Expr.OptionCorrelatesNear t own around filter →
      Surrounds own outer around env → t.resolveOption outer filter = .ok p? →
        Extends (t.passesResolved row p?) (t.passesIn env own row filter)
  | none, p?, _, _, h => by
      cases h
      exact .refl _
  | some e, p?, near, surrounds, h => by
      obtain ⟨p, hp, rfl⟩ := map_ok_iff.1 h
      exact (extends_decidedIn near surrounds hp).bind fun f => .refl _

theorem extends_decidedIn {around : Option String} {env : List Frame} {outer : Option OuterRow}
    {own : String} {row : Row} :
    ∀ {e : Expr} {p : Resolved}, e.CorrelatesNear t own around → Surrounds own outer around env →
      t.resolve outer e = .ok p → Extends (p.onRow row) (t.decidedIn env own row e)
  | .inQuery e q negated, p, near, surrounds, h => by
      obtain ⟨hplain, hnear, hq⟩ := near
      obtain ⟨result, hresult, h⟩ := bind_ok_iff.1 h
      rw [resolve_of_hasNoQuery hplain] at h
      cases h
      intro f hf
      cases hf
      have rows := extends_answerIn hq (.alone (⟨own, row⟩ :: env)) _
        (map_ok_iff.2 ⟨result, hresult, rfl⟩)
      refine bind_ok_iff.2 ⟨result.rows, rows, ?_⟩
      rw [closed_of_own hnear]
      rfl
  | .existsIn q negated, p, near, _, h => by
      cases h
      intro f hf
      obtain ⟨result, hresult, hf⟩ := bind_ok_iff.1 hf
      cases hf
      have rows := extends_answerIn near (.inside own row env) _
        (map_ok_iff.2 ⟨result, hresult, rfl⟩)
      exact bind_ok_iff.2 ⟨result.rows, rows, rfl⟩
  | .binary op l r, p, near, surrounds, h => by
      obtain ⟨left, hleft, h⟩ := bind_ok_iff.1 h
      obtain ⟨right, hright, h⟩ := bind_ok_iff.1 h
      cases h
      exact (extends_decidedIn near.1 surrounds hleft).bind fun _ =>
        (extends_decidedIn near.2 surrounds hright).bind fun _ => .refl _
  | .unary op e, p, near, surrounds, h => by
      obtain ⟨operand, hoperand, h⟩ := bind_ok_iff.1 h
      cases h
      have inside : e.CorrelatesNear t own around := near
      exact (extends_decidedIn inside surrounds hoperand).bind fun _ => .refl _
  | .paren e, p, near, surrounds, h => by
      obtain ⟨inner, hinner, h⟩ := bind_ok_iff.1 h
      cases h
      have inside : e.CorrelatesNear t own around := near
      exact (extends_decidedIn inside surrounds hinner).bind fun _ => .refl _
  | .literal v, p, _, _, h | .truth v, p, _, _, h | .star v, p, _, _, h => by
      cases h
      exact .refl _
  | .column .., p, near, surrounds, h | .call .., p, near, surrounds, h
  | .choice .., p, near, surrounds, h | .cast .., p, near, surrounds, h
  | .inList .., p, near, surrounds, h | .between .., p, near, surrounds, h
  | .isNull .., p, near, surrounds, h | .like .., p, near, surrounds, h => by
      cases h
      intro f hf
      cases hf
      exact congrArg Except.ok (within_eq_closed surrounds near).symm

end

/--
A query whose subqueries read near columns only is answered from the rows of the table on
which its WHERE clause is true under lexical scoping.
-/
theorem answersScoped_of_run {q : Query} {result : ResultSet}
    (near : Expr.OptionCorrelatesNear t (t.nameOf q.source) none q.filter)
    (h : t.run q = .ok result) :
    t.AnswersScoped q result := by
  obtain ⟨-, kept, having_, hmatched, hhaving, houtput⟩ := runWithin_ok_iff.1 h
  rw [matchedWithin_eq_filterM] at hmatched
  obtain ⟨p?, hp, hkept⟩ := bind_ok_iff.1 hmatched
  have sameRows := extends_filterM
    (fun row => extends_passesIn row near (.alone []) hp) t.rows kept hkept
  obtain ⟨tested, rfl⟩ := filterM_ok_iff.1 sameRows
  refine ⟨fun row => isTrue (t.passesIn [] (t.nameOf q.source) row q.filter), fun row hrow => ?_,
    having_, hhaving, houtput⟩
  obtain ⟨b, hb⟩ := tested row hrow
  simp only [hb, isTrue]

def shifts : Table :=
  ⟨"shifts", [⟨"kind", .text⟩, ⟨"late", .boolean⟩],
    [[("kind", .text "day"), ("late", .bool false)],
      [("kind", .text "night"), ("late", .bool true)]]⟩

def kindsWhere (filter : Expr) : Query :=
  ⟨[⟨.col "kind", none⟩], false, some { table := "shifts" }, some filter, [], none, [], none⟩

def someShift (name : String) (filter : Expr) : Expr :=
  .existsIn ⟨[⟨.ofInt 1, none⟩], false, some { table := "shifts", asName := some name },
    some filter, [], none, [], none⟩ false

def laterThanOuter (name : String) : Expr :=
  .binary .gt (.column (some name) "late") (.column (some "shifts") "late")

/-- A shift than which a later one is found right inside its query. -/
theorem answersScoped_of_run_later :
    shifts.run (kindsWhere (someShift "a" (laterThanOuter "a"))) =
        .ok ⟨["kind"], [[.text "day"]]⟩ ∧
      shifts.AnswersScoped (kindsWhere (someShift "a" (laterThanOuter "a")))
        ⟨["kind"], [[.text "day"]]⟩ := by
  have same (s : String) : Text.eqIgnoringCase s s = true := beq_self_eq_true _
  have known : (shifts.typeOf? "late").isSome = true := rfl
  have near : Expr.OptionCorrelatesNear shifts "shifts" none
      (some (someShift "a" (laterThanOuter "a"))) := by
    simp [Expr.OptionCorrelatesNear, someShift, laterThanOuter, Expr.CorrelatesNear,
      Query.CorrelatesNear, Expr.ReadsNear, Expr.nodes, Expr.ofInt, nameOf, TableRef.referenceName,
      same, known]
  have answer : shifts.run (kindsWhere (someShift "a" (laterThanOuter "a"))) =
      .ok ⟨["kind"], [[.text "day"]]⟩ := by
    cbv
  exact ⟨answer, answersScoped_of_run near answer⟩

/--
Two queries farther in, the column of the outermost query reads a row of the query between:
the night shift is kept, although none is later.
-/
theorem not_answersScoped_of_run :
    shifts.run (kindsWhere (someShift "a" (someShift "b" (laterThanOuter "b")))) =
        .ok ⟨["kind"], [[.text "day"], [.text "night"]]⟩ ∧
      ¬ shifts.AnswersScoped (kindsWhere (someShift "a" (someShift "b" (laterThanOuter "b"))))
        ⟨["kind"], [[.text "day"], [.text "night"]]⟩ := by
  let day : Row := [("kind", .text "day"), ("late", .bool false)]
  let night : Row := [("kind", .text "night"), ("late", .bool true)]
  let filter := some (someShift "a" (someShift "b" (laterThanOuter "b")))
  have answer : shifts.run (kindsWhere (someShift "a" (someShift "b" (laterThanOuter "b")))) =
      .ok ⟨["kind"], [[.text "day"], [.text "night"]]⟩ := by
    cbv
  have kept : shifts.passesIn [] "shifts" day filter = .ok true := by cbv
  have dropped : shifts.passesIn [] "shifts" night filter = .ok false := by cbv
  refine ⟨answer, ?_⟩
  rintro ⟨passes, hpasses, having_, hhaving, houtput⟩
  cases hhaving
  have hday : true = passes day :=
    Except.ok.inj (kept.symm.trans (hpasses day (by simp [shifts, day])))
  have hnight : false = passes night :=
    Except.ok.inj (dropped.symm.trans (hpasses night (by simp [shifts, night])))
  have rows : shifts.rows.filter passes = [day] := by
    simp [shifts, List.filter, day, night, ← hday, ← hnight]
  rw [rows] at houtput
  have single : shifts.output (kindsWhere (someShift "a" (someShift "b" (laterThanOuter "b"))))
      none [day] = .ok ⟨["kind"], [[.text "day"]]⟩ := rfl
  rw [Option.map_none, single] at houtput
  cases houtput

end Table

end GridSql
