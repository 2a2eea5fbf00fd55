import GridSql.Proofs.Table.Truth
import GridSql.Table.Run

/-!
# The rows that pass a conjunction

A query keeps the rows on which the conjunction of its predicates is true, whether or
not there are subqueries in them. The conjunction is evaluated from left to right and
stops where it is false, so a further predicate that has a truth value on every row can
be put anywhere into it: no new error is raised, and of the rows that were kept those
stay on which the new predicate is true.
-/

namespace GridSql

/-! ## Three-valued conjunction -/

def andTruth : Option Bool → Option Bool → Option Bool
  | some false, _ => some false
  | _, some false => some false
  | some true, b => b
  | none, _ => none

@[simp] theorem andTruth_true (a : Option Bool) :
    andTruth (some true) a = a := by
  rcases a with _ | _ | _ <;> rfl

theorem andTruth_eq_true_iff {a b : Option Bool} :
    andTruth a b = some true ↔ a = some true ∧ b = some true := by
  rcases a with _ | _ | _ <;> rcases b with _ | _ | _ <;> decide

theorem andTruth_right_comm (a b c : Option Bool) :
    andTruth (andTruth a b) c = andTruth (andTruth a c) b := by
  rcases a with _ | _ | _ <;> rcases b with _ | _ | _ <;> rcases c with _ | _ | _ <;> rfl

namespace Table

variable {t : Table} {outer : Option OuterRow} {row : Row}

/-! ## Predicates on a row -/

/-- A predicate inside a row, with its own subqueries decided for a row of the table. -/
def boundWithin (t : Table) (outer : Option OuterRow) (e : Expr) (row : Row) :
    Except SourceError Expr := do
  let p ← t.resolve outer e
  p.onRow row

/-- A predicate with its subqueries decided for a row. -/
def bound (t : Table) (e : Expr) (row : Row) : Except SourceError Expr := do
  let p ← t.resolve none e
  p.onRow row

def HasTruth (t : Table) (row : Row) (e : Expr) (b : Option Bool) : Prop :=
  ∃ f, t.bound e row = .ok f ∧ t.eval (.row row) f = .ok (.ofTruth b)

/-- Wherever a predicate can be evaluated, it has a truth value. -/
def Truthful (t : Table) (e : Expr) : Prop :=
  ∀ row ∈ t.rows, ∀ f v, t.bound e row = .ok f → t.eval (.row row) f = .ok v →
    ∃ b, v = .ofTruth b

theorem HasTruth.unique {e : Expr} {a b : Option Bool} (ha : t.HasTruth row e a)
    (hb : t.HasTruth row e b) :
    a = b := by
  obtain ⟨f, hf, hfa⟩ := ha
  obtain ⟨g, hg, hgb⟩ := hb
  rw [hf] at hg
  cases hg
  rw [hfa] at hgb
  exact ofTruth_injective (Except.ok.inj hgb)

/-- An operator waits for the subqueries of both operands. -/
theorem boundWithin_binary_ok_iff {op : BinaryOp} {l r f : Expr} :
    t.boundWithin outer (.binary op l r) row = .ok f ↔
      ∃ l' r', t.boundWithin outer l row = .ok l' ∧ t.boundWithin outer r row = .ok r' ∧
        f = .binary op l' r' := by
  simp only [boundWithin, resolve, bind_ok_iff]
  constructor
  · rintro ⟨_, ⟨p, hp, q, hq, heq⟩, hf⟩
    cases heq
    obtain ⟨l', hl, hf⟩ := bind_ok_iff.1 hf
    obtain ⟨r', hr, hf⟩ := bind_ok_iff.1 hf
    cases hf
    exact ⟨l', r', ⟨p, hp, hl⟩, ⟨q, hq, hr⟩, rfl⟩
  · rintro ⟨l', r', ⟨p, hp, hl⟩, ⟨q, hq, hr⟩, rfl⟩
    refine ⟨_, ⟨p, hp, q, hq, rfl⟩, ?_⟩
    exact bind_ok_iff.2 ⟨l', hl, bind_ok_iff.2 ⟨r', hr, rfl⟩⟩

theorem bound_binary_ok_iff {op : BinaryOp} {l r f : Expr} :
    t.bound (.binary op l r) row = .ok f ↔
      ∃ l' r', t.bound l row = .ok l' ∧ t.bound r row = .ok r' ∧ f = .binary op l' r' :=
  boundWithin_binary_ok_iff

theorem joinTruth_false {a b : Option Bool} (ha : a ≠ some false) :
    joinTruth false a b = andTruth a b := by
  rcases a with _ | _ | _ <;> rcases b with _ | _ | _ <;> simp_all [joinTruth, andTruth]

/-- AND looks at its right operand only if the left one is not false. -/
theorem eval_and_ok_iff {s : Scope} {l r : Expr} {v : Value} :
    t.eval s (.binary .and l r) = .ok v ↔
      ∃ a, t.eval s l = .ok (.ofTruth a) ∧
        if a = some false then v = .ofTruth a
        else ∃ b, t.eval s r = .ok (.ofTruth b) ∧ v = .ofTruth (andTruth a b) := by
  refine (eval_logical_ok_iff rfl).trans (exists_congr fun a => and_congr_right fun _ => ?_)
  by_cases ha : a = some false
  · simp [ha, decisive, Value.ofTruth]
  · simp [ha, decisive, joinTruth_false ha]

/-- The right operand of AND has to have a truth value only if the left one is not false. -/
theorem hasTruth_and_iff {l r : Expr} {b : Option Bool} :
    t.HasTruth row (.binary .and l r) b ↔
      ∃ a, t.HasTruth row l a ∧
        if a = some false then b = some false ∧ ∃ f, t.bound r row = .ok f
        else ∃ c, t.HasTruth row r c ∧ b = andTruth a c := by
  constructor
  · rintro ⟨f, hf, heval⟩
    obtain ⟨l', r', hl, hr, rfl⟩ := bound_binary_ok_iff.1 hf
    obtain ⟨a, ha, h⟩ := eval_and_ok_iff.1 heval
    refine ⟨a, ⟨l', hl, ha⟩, ?_⟩
    split at h
    · next hfalse =>
        rw [if_pos hfalse, ← hfalse]
        exact ⟨ofTruth_injective h, r', hr⟩
    · next hne =>
        obtain ⟨c, hc, hv⟩ := h
        rw [if_neg hne]
        exact ⟨c, ⟨r', hr, hc⟩, ofTruth_injective hv⟩
  · rintro ⟨a, ⟨l', hl, ha⟩, h⟩
    split at h
    · next hfalse =>
        obtain ⟨rfl, r', hr⟩ := h
        refine ⟨_, bound_binary_ok_iff.2 ⟨l', r', hl, hr, rfl⟩, eval_and_ok_iff.2 ⟨a, ha, ?_⟩⟩
        rw [if_pos hfalse, hfalse]
    · next hne =>
        obtain ⟨c, ⟨r', hr, hc⟩, rfl⟩ := h
        refine ⟨_, bound_binary_ok_iff.2 ⟨l', r', hl, hr, rfl⟩, eval_and_ok_iff.2 ⟨a, ha, ?_⟩⟩
        rw [if_neg hne]
        exact ⟨c, hc, rfl⟩

/-! ## Conjunctions -/

/--
What the AND of a truth value and further predicates comes to. Behind a false one only
the subqueries of a predicate are run.
-/
inductive Joined (t : Table) (row : Row) :
    Option Bool → List Expr → Option Bool → Prop where
  | nil (a : Option Bool) : Joined t row a [] a
  | skip {e f : Expr} {es : List Expr} {b : Option Bool} (subqueries : t.bound e row = .ok f)
      (rest : Joined t row (some false) es b) : Joined t row (some false) (e :: es) b
  | step {a b c : Option Bool} {e : Expr} {es : List Expr} (undecided : a ≠ some false)
      (truth : t.HasTruth row e c) (rest : Joined t row (andTruth a c) es b) :
      Joined t row a (e :: es) b

theorem hasTruth_foldl_iff {e : Expr} {es : List Expr} {b : Option Bool} :
    t.HasTruth row (es.foldl (.binary .and) e) b ↔
      ∃ a, t.HasTruth row e a ∧ Joined t row a es b := by
  induction es generalizing e with
  | nil =>
      constructor
      · intro h
        exact ⟨b, h, .nil b⟩
      · rintro ⟨_, h, ⟨⟩⟩
        exact h
  | cons f es ih =>
      rw [List.foldl_cons, ih]
      constructor
      · rintro ⟨m, hm, hes⟩
        obtain ⟨a, ha, h⟩ := hasTruth_and_iff.1 hm
        refine ⟨a, ha, ?_⟩
        split at h
        · next hfalse =>
            obtain ⟨rfl, f', hf'⟩ := h
            subst hfalse
            exact .skip hf' hes
        · next hne =>
            obtain ⟨c, hc, rfl⟩ := h
            exact .step hne hc hes
      · rintro ⟨a, ha, h⟩
        cases h with
        | skip hf' hes =>
            exact ⟨some false, hasTruth_and_iff.2 ⟨_, ha, by simpa using ⟨_, hf'⟩⟩, hes⟩
        | step hne hc hes =>
            refine ⟨_, hasTruth_and_iff.2 ⟨_, ha, ?_⟩, hes⟩
            rw [if_neg hne]
            exact ⟨_, hc, rfl⟩

theorem joined_append_iff {a b : Option Bool} {es fs : List Expr} :
    Joined t row a (es ++ fs) b ↔ ∃ m, Joined t row a es m ∧ Joined t row m fs b := by
  induction es generalizing a with
  | nil =>
      constructor
      · intro h
        exact ⟨a, .nil a, h⟩
      · rintro ⟨_, ⟨⟩, h⟩
        exact h
  | cons e es ih =>
      constructor
      · intro h
        cases h with
        | skip he hrest =>
            obtain ⟨m, hes, hfs⟩ := ih.1 hrest
            exact ⟨m, .skip he hes, hfs⟩
        | step hne he hrest =>
            obtain ⟨m, hes, hfs⟩ := ih.1 hrest
            exact ⟨m, .step hne he hes, hfs⟩
      · rintro ⟨m, h, hfs⟩
        cases h with
        | skip he hes => exact .skip he (ih.2 ⟨m, hes, hfs⟩)
        | step hne he hes => exact .step hne he (ih.2 ⟨m, hes, hfs⟩)

/-- A truth value that is joined in front could as well be joined behind. -/
theorem Joined.and {a b : Option Bool} {es : List Expr} (h : Joined t row a es b)
    (c : Option Bool) :
    Joined t row (andTruth a c) es (andTruth b c) := by
  induction h with
  | nil a => exact .nil _
  | skip he _ ih => exact .skip he ih
  | @step a b d e es hne he _ ih =>
      rw [andTruth_right_comm] at ih
      by_cases hfalse : andTruth a c = some false
      · rw [hfalse] at ih ⊢
        obtain ⟨f, hf, -⟩ := he
        exact .skip hf ih
      · exact .step hfalse he ih

/-- A further predicate raises no error where it has a truth value itself. -/
theorem Joined.insert {a b c : Option Bool} {es fs : List Expr} {e : Expr}
    (h : Joined t row a (es ++ fs) b) (he : t.HasTruth row e c) :
    Joined t row a (es ++ e :: fs) (andTruth b c) := by
  obtain ⟨m, hes, hfs⟩ := joined_append_iff.1 h
  refine joined_append_iff.2 ⟨m, hes, ?_⟩
  by_cases hfalse : m = some false
  · subst hfalse
    obtain ⟨f, hf, -⟩ := he
    exact .skip hf (hfs.and c)
  · exact .step hfalse he (hfs.and c)

theorem Joined.all_true {a b : Option Bool} {es : List Expr} (h : Joined t row a es b)
    (holds : b = some true) :
    a = some true ∧ ∀ e ∈ es, t.HasTruth row e (some true) := by
  induction h with
  | nil a => exact ⟨holds, by simp⟩
  | skip _ _ ih => cases (ih holds).1
  | step _ he _ ih =>
      obtain ⟨hand, hall⟩ := ih holds
      obtain ⟨ha, rfl⟩ := andTruth_eq_true_iff.1 hand
      exact ⟨ha, List.forall_mem_cons.2 ⟨he, hall⟩⟩

/-! ## WHERE clauses -/

def whereClause : List Expr → Option Expr
  | [] => none
  | e :: es => some (es.foldl (.binary .and) e)

end Table

namespace Query

theorem foldl_where (es : List Expr) (q : Query) :
    es.foldl where_ q = { q with filter := es.foldl andInto q.filter } := by
  induction es generalizing q with
  | nil =>
      cases q
      rfl
  | cons e es ih => exact ih (q.where_ e)

theorem foldl_andHaving (es : List Expr) (q : Query) :
    es.foldl andHaving q = { q with having := es.foldl andInto q.having } := by
  induction es generalizing q with
  | nil =>
      cases q
      rfl
  | cons e es ih => exact ih (q.andHaving e)

theorem foldl_andInto (es : List Expr) :
    es.foldl andInto none = Table.whereClause es := by
  have more (es : List Expr) (e : Expr) :
      es.foldl andInto (some e) = some (es.foldl (.binary .and) e) := by
    induction es generalizing e with
    | nil => rfl
    | cons f es ih => exact ih (.binary .and e f)
  cases es with
  | nil => rfl
  | cons e es => exact more es e

end Query

namespace Table

variable {t : Table} {row : Row}

def matched (t : Table) (filter : Option Expr) : Except SourceError (List Row) := do
  match ← t.resolveOption none filter with
  | some p => t.rows.filterM fun row => do t.test (.row row) (← p.onRow row)
  | none => .ok t.rows

theorem sublist_of_matched {filter : Option Expr} {kept : List Row}
    (h : t.matched filter = .ok kept) :
    kept.Sublist t.rows := by
  obtain ⟨p?, -, h⟩ := bind_ok_iff.1 h
  cases p? with
  | none =>
      cases h
      exact .refl _
  | some p =>
      obtain ⟨-, rfl⟩ := filterM_ok_iff.1 h
      exact List.filter_sublist

/-- A query without HAVING clause works on the rows that pass its WHERE clause. -/
theorem run_eq {q : Query} (h : q.having = none) :
    t.run q = (t.checkSource q.source >>= fun _ => t.matched q.filter >>= t.output q none) := by
  obtain ⟨select, distinct, source, filter, groupBy, having_, orderBy, window⟩ := q
  subst h
  simp only [run, runWithin, matched, resolveOption]
  cases t.checkSource source with
  | error e => rfl
  | ok _ =>
      cases t.resolveOption none filter with
      | error e => rfl
      | ok p => cases p <;> rfl

/-- Whether the subqueries in a predicate can be run. -/
def Resolves (t : Table) (e : Expr) : Prop :=
  ∃ p, t.resolve none e = .ok p

theorem resolves_foldl_iff {e : Expr} {es : List Expr} :
    t.Resolves (es.foldl (.binary .and) e) ↔ t.Resolves e ∧ ∀ f ∈ es, t.Resolves f := by
  induction es generalizing e with
  | nil => simp
  | cons f es ih =>
      have both : t.Resolves (.binary .and e f) ↔ t.Resolves e ∧ t.Resolves f := by
        simp only [Resolves, resolve, bind_ok_iff]
        constructor
        · rintro ⟨_, p, hp, q, hq, -⟩
          exact ⟨⟨p, hp⟩, q, hq⟩
        · rintro ⟨⟨p, hp⟩, q, hq⟩
          exact ⟨_, p, hp, q, hq, rfl⟩
      rw [List.foldl_cons, ih, both, List.forall_mem_cons, and_assoc]

theorem Truthful.binary_and {l r : Expr} :
    t.Truthful (.binary .and l r) := by
  intro row _ f v hf hv
  obtain ⟨l', r', -, -, rfl⟩ := bound_binary_ok_iff.1 hf
  obtain ⟨a, -, h⟩ := eval_and_ok_iff.1 hv
  split at h
  · exact ⟨a, h⟩
  · obtain ⟨c, -, hc⟩ := h
    exact ⟨_, hc⟩

theorem Truthful.foldl_and {e : Expr} (h : t.Truthful e) (es : List Expr) :
    t.Truthful (es.foldl (.binary .and) e) := by
  induction es generalizing e with
  | nil => exact h
  | cons f es ih => exact ih Truthful.binary_and

theorem test_bound {e : Expr} {p : Resolved} {b : Option Bool}
    (hp : t.resolve none e = .ok p) (h : t.HasTruth row e b) :
    (do t.test (.row row) (← p.onRow row)) = .ok (b == some true) := by
  obtain ⟨f, hf, heval⟩ := h
  have hrow : p.onRow row = .ok f := by simpa [bound, hp, bind, Except.bind] using hf
  simp only [hrow, bind, Except.bind, test, heval]
  rcases b with _ | _ | _ <;> rfl

theorem hasTruth_of_test {e : Expr} {p : Resolved} {b : Bool} (truthful : t.Truthful e)
    (hrow : row ∈ t.rows) (hp : t.resolve none e = .ok p)
    (h : (do t.test (.row row) (← p.onRow row)) = .ok b) :
    ∃ c, t.HasTruth row e c := by
  obtain ⟨f, hf, h⟩ := bind_ok_iff.1 h
  obtain ⟨v, hv, -⟩ := bind_ok_iff.1 h
  have hbound : t.bound e row = .ok f := bind_ok_iff.2 ⟨p, hp, hf⟩
  obtain ⟨c, rfl⟩ := truthful row hrow f v hbound hv
  exact ⟨c, f, hbound, hv⟩

/-- The rows that pass a predicate are those on which it is true, if it can be decided on all. -/
theorem matched_some_iff {e : Expr} (truthful : t.Truthful e) {kept : List Row} :
    t.matched (some e) = .ok kept ↔
      t.Resolves e ∧ ∃ passes : Row → Bool,
        (∀ row ∈ t.rows, ∃ b, t.HasTruth row e b ∧ passes row = (b == some true)) ∧
          kept = t.rows.filter passes := by
  constructor
  · intro h
    obtain ⟨p?, hwhole, h⟩ := bind_ok_iff.1 h
    obtain ⟨p, hp, rfl⟩ := map_ok_iff.1 hwhole
    obtain ⟨tested, rfl⟩ := filterM_ok_iff.1 h
    refine ⟨⟨p, hp⟩, _, fun row hrow => ?_, rfl⟩
    obtain ⟨_, hb⟩ := tested row hrow
    obtain ⟨b, htruth⟩ := hasTruth_of_test truthful hrow hp hb
    refine ⟨b, htruth, ?_⟩
    rw [test_bound hp htruth]
    rfl
  · rintro ⟨⟨p, hp⟩, passes, hpasses, rfl⟩
    refine bind_ok_iff.2 ⟨some p, map_ok_iff.2 ⟨p, hp, rfl⟩, filterM_ok_iff.2 ⟨?_, ?_⟩⟩
    · intro row hrow
      obtain ⟨b, h, -⟩ := hpasses row hrow
      exact ⟨_, test_bound hp h⟩
    · refine List.filter_congr fun row hrow => ?_
      obtain ⟨b, h, hb⟩ := hpasses row hrow
      rw [test_bound hp h, hb]
      rfl

/-- A conjunction has the truth value that its predicates are joined to. -/
theorem hasTruth_foldl_iff_joined {e : Expr} {es : List Expr} {b : Option Bool} :
    t.HasTruth row (es.foldl (.binary .and) e) b ↔ Joined t row (some true) (e :: es) b := by
  rw [hasTruth_foldl_iff]
  constructor
  · rintro ⟨a, ha, h⟩
    exact .step (by simp) ha (by rwa [andTruth_true])
  · intro h
    cases h with
    | step _ ha h =>
        rw [andTruth_true] at h
        exact ⟨_, ha, h⟩

/--
The rows that pass a WHERE clause are those on which its predicates are joined to true,
if they can be joined on every row. A predicate that stands alone has to be truthful.
-/
theorem matched_ok_iff {es : List Expr} (truthful : ∀ e, es = [e] → t.Truthful e)
    {kept : List Row} :
    t.matched (whereClause es) = .ok kept ↔
      (∀ e ∈ es, t.Resolves e) ∧ ∃ passes : Row → Bool,
        (∀ row ∈ t.rows, ∃ b, Joined t row (some true) es b ∧ passes row = (b == some true)) ∧
          kept = t.rows.filter passes := by
  cases es with
  | nil =>
      constructor
      · intro h
        cases h
        exact ⟨by simp, fun _ => true, fun row _ => ⟨some true, .nil _, rfl⟩, by simp⟩
      · rintro ⟨-, passes, hpasses, rfl⟩
        have all : t.rows.filter passes = t.rows := by
          refine List.filter_eq_self.2 fun row hrow => ?_
          obtain ⟨b, h, hb⟩ := hpasses row hrow
          cases h
          exact hb
        rw [all]
        rfl
  | cons e es =>
      have whole : t.Truthful (es.foldl (.binary .and) e) := by
        cases es with
        | nil => exact truthful e rfl
        | cons f es => exact Truthful.binary_and.foldl_and es
      have clause : whereClause (e :: es) = some (es.foldl (.binary .and) e) := rfl
      rw [clause, matched_some_iff whole, resolves_foldl_iff, List.forall_mem_cons]
      simp only [hasTruth_foldl_iff_joined]

theorem hasTruth_of_mem_matched {es : List Expr} (truthful : ∀ e, es = [e] → t.Truthful e)
    {kept : List Row} (h : t.matched (whereClause es) = .ok kept) (hrow : row ∈ kept) :
    row ∈ t.rows ∧ ∀ e ∈ es, t.HasTruth row e (some true) := by
  obtain ⟨-, passes, hpasses, rfl⟩ := (matched_ok_iff truthful).1 h
  obtain ⟨hmem, hpass⟩ := List.mem_filter.1 hrow
  obtain ⟨b, hjoined, hb⟩ := hpasses row hmem
  rw [hpass] at hb
  exact ⟨hmem, (hjoined.all_true (by simpa using hb.symm)).2⟩

/-! ## A further predicate -/

def IsPlain (t : Table) (e : Expr) : Prop :=
  t.resolve none e = .ok (.plain e)

theorem IsPlain.bound {e : Expr} (plain : t.IsPlain e) (row : Row) :
    t.bound e row = .ok e :=
  bind_ok_iff.2 ⟨_, plain, rfl⟩

theorem Decides.hasTruth {e : Expr} {P : Prop} (plain : t.IsPlain e)
    (h : t.Decides (.row row) e P) :
    ∃ b, t.HasTruth row e b ∧ (b = some true ↔ P) := by
  obtain ⟨b, hb, hP⟩ := h
  exact ⟨b, ⟨e, plain.bound row, hb⟩, hP⟩

theorem Truthful.of_decides {e : Expr} {P : Row → Prop} (plain : t.IsPlain e)
    (decides : ∀ row ∈ t.rows, t.Decides (.row row) e (P row)) :
    t.Truthful e := by
  intro row hrow f v hbound hv
  rw [plain.bound row] at hbound
  cases hbound
  obtain ⟨b, hb, -⟩ := decides row hrow
  rw [hb] at hv
  exact ⟨b, (Except.ok.inj hv).symm⟩

/--
A further predicate that decides something of every row raises no error, wherever it
stands in a WHERE clause, and keeps those rows of which it holds.
-/
theorem matched_insert {es fs : List Expr} {e : Expr} {P : Row → Prop} [DecidablePred P]
    (truthful : ∀ f, es ++ fs = [f] → t.Truthful f) (plain : t.IsPlain e)
    (decides : ∀ row ∈ t.rows, t.Decides (.row row) e (P row))
    {kept : List Row} (h : t.matched (whereClause (es ++ fs)) = .ok kept) :
    t.matched (whereClause (es ++ e :: fs)) = .ok (kept.filter fun row => P row) := by
  have truthful' : ∀ f, es ++ e :: fs = [f] → t.Truthful f := by
    intro f hf
    have hmem : e ∈ [f] := by
      rw [← hf]
      simp
    cases List.mem_singleton.1 hmem
    exact .of_decides plain decides
  obtain ⟨resolves, passes, hpasses, rfl⟩ := (matched_ok_iff truthful).1 h
  refine (matched_ok_iff truthful').2 ⟨?_, fun row => passes row && decide (P row), ?_, ?_⟩
  · intro f hf
    rcases List.mem_append.1 hf with hf | hf
    · exact resolves f (List.mem_append_left fs hf)
    · rcases List.mem_cons.1 hf with rfl | hf
      · exact ⟨_, plain⟩
      · exact resolves f (List.mem_append_right es hf)
  · intro row hrow
    obtain ⟨b, hjoined, hb⟩ := hpasses row hrow
    obtain ⟨c, hc, hP⟩ := (decides row hrow).hasTruth plain
    refine ⟨andTruth b c, hjoined.insert hc, ?_⟩
    rw [Bool.eq_iff_iff]
    simp [hb, andTruth_eq_true_iff, hP]
  · rw [List.filter_filter]
    exact List.filter_congr fun row _ => Bool.and_comm _ _

end Table

end GridSql
