import GridSql.Filter.Quick
import GridSql.Proofs.Filter.TextPredicate
import GridSql.Proofs.Table.JoinedTruth

/-!
# Searching the text of a cell

A search is a LIKE test of the text that a cell is shown with, brought into the form that the
rules ask for. It is unknown of a null cell and has a truth value otherwise. The quick filter
is a conjunction over the words and a disjunction over the searched columns of such tests, so
its truth value is made up of theirs.
-/

namespace GridSql

variable {t : Table} {s : Scope} {cell v : Value}

namespace Value

/-- Whether a value is null with a cell and else has the text of the cell in some form. -/
structure Shows (f : String → String) (cell v : Value) : Prop where
  null_iff : v = .null ↔ cell = .null
  display : cell ≠ .null → v.display = f cell.display

theorem shows_self (cell : Value) : Shows id cell cell where
  null_iff := Iff.rfl
  display := fun _ => rfl

theorem Shows.mapText {f : String → String} (h : Shows f cell v) (g : String → String) :
    Shows (fun text => g (f text)) cell (v.mapText g) where
  null_iff := (mapText_eq_null_iff v).trans h.null_iff
  display := fun hcell => by
    rw [display_mapText fun hv => hcell (h.null_iff.1 hv), h.display hcell]

end Value

theorem FilterTarget.exists_eval_textExpr (target : FilterTarget)
    (hcell : t.eval s target.expr = .ok cell) :
    ∃ v, t.eval s target.textExpr = .ok v ∧ cell.Shows id v := by
  unfold textExpr
  split
  · exact ⟨cell, hcell, cell.shows_self⟩
  · exact ⟨cell, hcell, cell.shows_self⟩
  · exact ⟨_, Table.eval_cast_text hcell, cell.shows_self.mapText id⟩

/-! ## Tests of what is shown -/

namespace Value

/-- The truth value of a test of a cell's text; of a null cell nothing is known. -/
def tested (cell : Value) (test : String → Bool) : Option Bool :=
  if cell.isNull then none else some (test cell.display)

theorem tested_eq_true_iff {test : String → Bool} :
    cell.tested test = some true ↔ cell ≠ .null ∧ test cell.display = true := by
  unfold tested
  rw [← isNull_eq_false_iff]
  cases cell.isNull <;> simp

end Value

namespace Table

theorem eval_like_of_shows {e pattern : Expr} {f : String → String} {p : String} {escape : Char}
    (he : t.eval s e = .ok v) (shows_ : cell.Shows f v)
    (hpattern : t.eval s pattern = .ok (.text p)) (taken : Regex.engine.Takes p escape)
    (negated : Bool) :
    t.eval s (.like e pattern escape negated) =
      .ok (.ofTruth (cell.tested fun text =>
        decide (Like.Matches (Like.items escape p.toList) (f text).toList) != negated)) := by
  have answer := Like.like_of_takes taken v.display
  rw [eval_like escape negated he hpattern, Value.isLike, Value.tested, Value.display, answer]
  by_cases hcell : cell = .null
  · rw [shows_.null_iff.2 hcell, hcell]
    rfl
  · have hv : v ≠ .null := fun hv => hcell (shows_.null_iff.1 hv)
    rw [(Value.isNull_eq_false_iff v).2 hv, (Value.isNull_eq_false_iff cell).2 hcell,
      shows_.display hcell]
    rfl

/-- A row passes a LIKE test if the pattern is taken and has the answer that is asked for. -/
theorem test_like_eq_true_iff {e pattern : Expr} {p : String} (escape : Char) (negated : Bool)
    (he : t.eval s e = .ok v) (hpattern : t.eval s pattern = .ok (.text p)) :
    t.test s (.like e pattern escape negated) = .ok true ↔
      v ≠ .null ∧ Regex.engine.Takes p escape ∧
        (negated = false ↔ Like.Matches (Like.items escape p.toList) v.display.toList) := by
  by_cases taken : Regex.engine.Takes p escape
  · have answer : Like.like v.display (Value.text p).display escape = _ :=
      Like.like_of_takes taken v.display
    obtain ⟨b, hb, passes⟩ := (decides_like negated he hpattern (by simp) answer).test
    rw [hb, Except.ok.injEq, passes]
    cases negated <;> simp [taken]
  · obtain ⟨reason, refused⟩ := Like.exists_error_of_not_takes taken v.display
    have tested : t.test s (.like e pattern escape negated) =
        if v.isNull then .ok false else .error (.evaluation (.pattern reason)) := by
      rw [test, eval_like escape negated he hpattern, Value.isLike, Value.display, refused]
      cases v.isNull <;> rfl
    rw [tested]
    cases v.isNull <;> simp [taken]

end Table

/-! ## The quick filter -/

namespace QuickFilter

variable {q : QuickFilter} {text : String} {fields : List Column} {p : Expr}
  {found : String → Column → Option Bool}

/-- The truth value of a search for all words, each in some column. -/
def searchTruth (found : String → Column → Option Bool) (words : List String)
    (fields : List Column) : Option Bool :=
  chainTruth false (words.map fun w => chainTruth true (fields.map (found w)))

theorem searchTruth_eq_true_iff {words : List String} :
    searchTruth found words fields = some true ↔
      ∀ w ∈ words, ∃ c ∈ fields, found w c = some true := by
  refine (chainTruth_eq_other_iff (d := false)).trans ?_
  rw [List.forall_mem_map]
  simp only [Bool.not_false, chainTruth_eq_decisive_iff, List.mem_map]

theorem predicate_eq_none_iff : q.predicate text fields = none ↔ q.words text = [] := by
  unfold predicate
  cases q.words text with
  | nil => simp
  | cons w words => cases q.matcher <;> simp

/-- The predicate has the truth value that the searches of single columns make up. -/
theorem eval_predicate (noMatcher : q.matcher = none)
    (searched : ∀ w ∈ q.words text, ∀ c ∈ fields,
      t.eval s (Predicate.matching (q.column c) (q.ofText w) true true false) =
        .ok (.ofTruth (found w c)))
    (compiled : q.predicate text fields = some p) :
    t.eval s p = .ok (.ofTruth (searchTruth found (q.words text) fields)) := by
  unfold predicate at compiled
  dsimp only at compiled
  split at compiled
  · cases compiled
  · rw [noMatcher] at compiled
    cases compiled
    refine Table.eval_conjunction ?_
    simp only [List.map_map, List.forall₂_map_left_iff, List.forall₂_map_right_iff]
    refine List.forall₂_same.2 fun w hw => Table.eval_disjunction ?_
    simp only [List.forall₂_map_left_iff, List.forall₂_map_right_iff]
    exact List.forall₂_same.2 fun c hc => searched w hw c hc

end QuickFilter

end GridSql
