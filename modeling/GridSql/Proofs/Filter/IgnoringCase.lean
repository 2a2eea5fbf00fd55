import GridSql.Proofs.Filter.FormattedSearch
import GridSql.Proofs.Text.LowerCase

/-!
# Searching without regard to case

A search that does not mind the case compares the lower case of the filter text with that of
the cell. A capital sigma has two small forms, and the one that it gets depends on the characters
around it, so the filter text alone can have another one than where it stands in the cell. Then
the cell is not found although the text is in it as it is written. With patterns that the engine
takes, this happens for some cell exactly if the filter text leaves open which form one of its
sigmas has.
-/

namespace GridSql

namespace TextSearch

variable {op : TextSearch} {word shown : String}

/-- A text stands in another one with other text where the operator allows it. -/
theorem stands_iff :
    op.Stands word shown ↔ ∃ before after, shown.toList = before ++ (word.toList ++ after) ∧
      (op.leading = false → before = []) ∧ (op.trailing = false → after = []) := by
  cases op with
  | contains => simp [Stands, leading, trailing, List.IsInfix, eq_comm]
  | notContains => simp [Stands, leading, trailing, List.IsInfix, eq_comm]
  | startsWith => simp [Stands, leading, trailing, List.IsPrefix, eq_comm]
  | endsWith => simp [Stands, leading, trailing, List.IsSuffix, eq_comm]

/-- Whether the form of every sigma of a text is settled wherever the operator finds the text. -/
def Closed (op : TextSearch) (word : String) : Prop :=
  (op.leading = true → Text.ClosedBefore word.toList) ∧
    (op.trailing = true → Text.ClosedBehind word.toList)

theorem closed_of_not_mem (h : 'Σ' ∉ word.toList) : op.Closed word :=
  ⟨fun _ p q heq => absurd (by simp [heq]) h, fun _ p q heq => absurd (by simp [heq]) h⟩

/-- Where a closed text is found as it is written, its lower case is found in the lower case. -/
theorem Stands.lower (h : op.Stands word shown) (closed : op.Closed word) :
    op.Stands (Text.lower word) (Text.lower shown) := by
  obtain ⟨before, after, heq, hbefore, hafter⟩ := stands_iff.1 h
  have same : Text.lowerBetween before.reverse word.toList after =
      Text.lowerChars word.toList := by
    refine Text.lowerBetween_of_closed ?_ ?_
    · cases hleading : op.leading with
      | false => exact .inl (by simp [hbefore hleading])
      | true => exact .inr (closed.1 hleading)
    · cases htrailing : op.trailing with
      | false => exact .inl (hafter htrailing)
      | true => exact .inr (closed.2 htrailing)
  refine stands_iff.2 ⟨Text.lowerBetween [] before (word.toList ++ after),
    Text.lowerAux (word.toList.reverse ++ before.reverse) after, ?_, fun hleading => ?_,
    fun htrailing => ?_⟩
  · simp only [Text.lower, String.toList_ofList, heq, Text.lowerChars_append₃, same]
  · rw [hbefore hleading]
    rfl
  · rw [hafter htrailing]
    rfl

/-- A text that has less of a character than the filter text has does not contain it. -/
theorem not_stands_of_count_lt {c : Char}
    (h : shown.toList.count c < word.toList.count c) : ¬ op.Stands word shown :=
  fun stands => absurd (stands.isInfix.sublist.count_le c) (not_le.2 h)

theorem exists_lost (h : ¬ op.Closed word) :
    ∃ shown, op.Stands word shown ∧ ¬ op.Stands (Text.lower word) (Text.lower shown) := by
  rw [Closed, not_and_or] at h
  rcases h with h | h
  · -- With a letter in front, the first sigma becomes final.
    rw [Classical.not_imp] at h
    obtain ⟨hleading, h⟩ := h
    simp only [Text.ClosedBefore, Text.SettledBefore, not_forall, not_or, Bool.not_eq_true] at h
    obtain ⟨p, q, heq, ignorable, ends⟩ := h
    refine ⟨String.ofList ('a' :: word.toList), stands_iff.2 ⟨['a'], [], by simp, ?_, by simp⟩,
      not_stands_of_count_lt (c := 'σ') ?_⟩
    · simp [hleading]
    · simpa [Text.lower, heq] using Text.count_sigma_lt_of_open ignorable ends
  · -- With a letter behind, the last sigma is no longer final.
    rw [Classical.not_imp] at h
    obtain ⟨htrailing, h⟩ := h
    simp only [Text.ClosedBehind, Text.SettledBehind, not_forall, not_or, Bool.not_eq_false] at h
    obtain ⟨p, q, heq, begins, ignorable⟩ := h
    refine ⟨String.ofList (word.toList ++ ['a']), stands_iff.2 ⟨[], ['a'], by simp, by simp, ?_⟩,
      not_stands_of_count_lt (c := 'ς') ?_⟩
    · simp [htrailing]
    · simpa [Text.lower, heq] using Text.count_final_lt_of_open begins ignorable

/-! ## Rows that pass -/

def filter (op : TextSearch) (word : String) : ColumnFilter :=
  .text { option := op.option, filter := some word, filterTo := none }

def Passes (op : TextSearch) (rules : Option FilterRules) (t : Table) (field word : String)
    (s : Scope) : Prop :=
  ∃ p, FilterContext.compileColumn ⟨fun _ => rules, t.fieldType⟩ field (op.filter word) = .ok p ∧
    t.test s p = .ok true

def minding : Option FilterRules :=
  some (.text { caseSensitive := true })

variable {t : Table} {field : String} {s : Scope}

def TakesLiteral (op : TextSearch) (word : String) : Prop :=
  Regex.engine.Takes (Predicate.patternOf op.leading op.trailing word) Predicate.likeEscape

theorem matched_iff_stands (op : TextSearch) (word shown : String) :
    Predicate.Matched op.leading op.trailing word shown ↔ op.Stands word shown :=
  (Predicate.matched_iff op.leading op.trailing word shown).trans stands_iff.symm

theorem passes_iff (column : t.typeOf? field = some .text) (op : TextSearch) (word : String)
    (rules : Option FilterRules) (form : TextForm) (plain : form.IsPlain)
    (found : (rules.bind FilterRules.textRules?).getD {} = { toTextForm := form })
    (htype : (s.cell field).HasType .text) :
    op.Passes rules t field word s ↔
      op.TakesLiteral (form.normal word) ∧ s.cell field ≠ .null ∧
        op.Finds (form.normal word) (form.normal (s.cell field).display) := by
  let target := FilterContext.columnTarget ⟨fun _ => rules, t.fieldType⟩ field
  have type : target.type = .text := by
    simp [target, FilterContext.columnTarget, Table.fieldType, column]
  have hcell : t.eval s (.col field) = .ok (s.cell field) := Table.eval_col (by rw [column]; rfl)
  have allowed : FilterOption.all.contains op.option = true := by cases op <;> rfl
  have compiled : FilterContext.compileColumn ⟨fun _ => rules, t.fieldType⟩ field
      (op.filter word) = .ok (Predicate.matching (form.ofExpr target.textExpr)
        (.ofText (form.normal word)) op.leading op.trailing op.negated) := by
    rw [FilterContext.compileColumn, filter, ColumnFilter.compile, found,
      FilterTarget.checkOption, if_pos allowed, ← TextForm.ofText_of_plain plain]
    have noMatcher : ({ toTextForm := form } : TextRules).matcher = none := rfl
    exact Predicate.text_search target noMatcher op word
  have subject : t.eval s (form.ofExpr target.textExpr) =
      .ok ((s.cell field).mapText form.normal) :=
    TextForm.eval_ofExpr plain
      (FilterTarget.eval_textExpr hcell (by rw [type]; exact htype) (by rw [type]; simp))
  have literal :
      t.eval s (.ofText (Predicate.patternOf op.leading op.trailing (form.normal word))) =
        .ok (.text (Predicate.patternOf op.leading op.trailing (form.normal word))) := rfl
  have tested := Table.test_like_eq_true_iff Predicate.likeEscape op.negated subject literal
  have passes : op.Passes rules t field word s ↔ t.test s (Predicate.matching
      (form.ofExpr target.textExpr) (.ofText (form.normal word)) op.leading op.trailing
        op.negated) = .ok true := by
    rw [Passes, compiled]
    simp
  rw [passes, Predicate.matching, Predicate.likePattern_ofText, tested, Ne,
    Value.mapText_eq_null_iff]
  by_cases hnull : s.cell field = .null
  · simp [hnull]
  · have matched :=
      matched_iff_stands op (form.normal word) (form.normal (s.cell field).display)
    rw [Value.display_mapText hnull, ← Predicate.Matched, matched, Finds, TakesLiteral]
    cases op.negated <;> simp [hnull]

theorem passes_minding_iff (column : t.typeOf? field = some .text)
    (positive : op.negated = false) (htype : (s.cell field).HasType .text) :
    op.Passes minding t field word s ↔ op.TakesLiteral word ∧
      s.cell field ≠ .null ∧ op.Stands word (s.cell field).display := by
  simpa [Finds, positive, TextForm.normal] using
    passes_iff column op word minding { caseSensitive := true } rfl rfl htype

theorem passes_default_iff (column : t.typeOf? field = some .text)
    (positive : op.negated = false) (htype : (s.cell field).HasType .text) :
    op.Passes none t field word s ↔ op.TakesLiteral (Text.lower word) ∧
      s.cell field ≠ .null ∧ op.Stands (Text.lower word) (Text.lower (s.cell field).display) := by
  simpa [Finds, positive, TextForm.normal] using
    passes_iff column op word none {} rfl rfl htype

/--
On a column of texts, a search that minds the case passes the rows with the filter text in
their cell, and the usual search those with its lower case in the lower case of the cell, each
if the engine takes its pattern. With a pattern that is taken, the rows of the first one are among
those of the second one exactly if the other pattern is taken, too, and the filter text settles
the form of its sigmas; it does so if there is no capital sigma in it.
-/
theorem default_of_minding_iff (column : t.typeOf? field = some .text) (op : TextSearch)
    (positive : op.negated = false) (word : String) :
    (∀ s : Scope, (s.cell field).HasType .text →
      (op.Passes minding t field word s ↔ op.TakesLiteral word ∧
        s.cell field ≠ .null ∧ op.Stands word (s.cell field).display) ∧
      (op.Passes none t field word s ↔ op.TakesLiteral (Text.lower word) ∧
        s.cell field ≠ .null ∧ op.Stands (Text.lower word) (Text.lower (s.cell field).display))) ∧
    ((∀ s : Scope, (s.cell field).HasType .text →
      op.Passes minding t field word s → op.Passes none t field word s) ↔
        (op.TakesLiteral word → op.TakesLiteral (Text.lower word) ∧ op.Closed word)) ∧
    ('Σ' ∉ word.toList → op.Closed word) := by
  refine ⟨fun s htype => ⟨passes_minding_iff column positive htype,
    passes_default_iff column positive htype⟩, ⟨fun kept taken => ?_, fun settled s htype h => ?_⟩,
    closed_of_not_mem⟩
  · -- What the first search finds in some text, the second one finds there, too.
    have found (shown : String) (stands : op.Stands word shown) :
        op.TakesLiteral (Text.lower word) ∧
          op.Stands (Text.lower word) (Text.lower shown) := by
      have cell : (Scope.row [(field, .text shown)]).cell field = .text shown := by
        simp [Scope.cell, Row.cell, Row.get?]
      have htype : ((Scope.row [(field, .text shown)]).cell field).HasType .text := by
        rw [cell]
        exact .text shown
      have passes := kept _ htype
      rw [passes_minding_iff column positive htype, passes_default_iff column positive htype,
        cell] at passes
      obtain ⟨takes, -, stands⟩ := passes ⟨taken, Value.noConfusion, stands⟩
      exact ⟨takes, stands⟩
    refine ⟨(found word (stands_iff.2 ⟨[], [], by simp, by simp, by simp⟩)).1, ?_⟩
    by_contra notClosed
    obtain ⟨shown, stands, lost⟩ := exists_lost notClosed
    exact lost (found shown stands).2
  · rw [passes_minding_iff column positive htype] at h
    rw [passes_default_iff column positive htype]
    obtain ⟨taken, notNull, stands⟩ := h
    obtain ⟨takes, closed⟩ := settled taken
    exact ⟨takes, notNull, stands.lower closed⟩

def signs : Table where
  name := "signs"
  columns := [⟨"name", .text⟩]
  rows := [[("name", .text "ΟΔΟΣΗΜΑΝΣΗ")], [("name", .text "ΟΔΟΣ ΕΡΜΟΥ")]]

/-- The space behind its sigma settles the form of a word. -/
theorem default_of_minding_signs :
    signs.typeOf? "name" = some .text ∧ TextSearch.startsWith.negated = false ∧
      ∀ s : Scope, (s.cell "name").HasType .text →
        TextSearch.startsWith.Passes minding signs "name" "ΟΔΟΣ Ε" s →
          TextSearch.startsWith.Passes none signs "name" "ΟΔΟΣ Ε" s := by
  have column : signs.typeOf? "name" = some .text := by decide
  have closed : TextSearch.startsWith.Closed "ΟΔΟΣ Ε" := by
    refine ⟨fun h => Bool.noConfusion h, fun _ p q heq => .inr ?_⟩
    have letters : "ΟΔΟΣ Ε".toList = ['Ο', 'Δ', 'Ο', 'Σ', ' ', 'Ε'] := by decide
    rw [letters] at heq
    obtain ⟨-, rfl⟩ : p = ['Ο', 'Δ', 'Ο'] ∧ q = [' ', 'Ε'] := by
      simpa [List.cons_eq_append_iff] using heq
    exact ⟨' ', by simp, by decide +kernel⟩
  have taken : TextSearch.startsWith.TakesLiteral (Text.lower "ΟΔΟΣ Ε") :=
    Like.takes_of_length_le (by decide +kernel)
  exact ⟨column, rfl,
    (default_of_minding_iff column .startsWith rfl "ΟΔΟΣ Ε").2.1.2 fun _ => ⟨taken, closed⟩⟩

/-- A street is not found at the start of the word for its signs, where it does not end. -/
theorem not_default_of_minding :
    ∃ row ∈ signs.rows, TextSearch.startsWith.Passes minding signs "name" "ΟΔΟΣ" (.row row) ∧
      ¬ TextSearch.startsWith.Passes none signs "name" "ΟΔΟΣ" (.row row) := by
  have column : signs.typeOf? "name" = some .text := by decide
  have htype : ((Scope.row [("name", .text "ΟΔΟΣΗΜΑΝΣΗ")]).cell "name").HasType .text :=
    .text "ΟΔΟΣΗΜΑΝΣΗ"
  have street : Text.lower "ΟΔΟΣ" = "οδος" := by decide +kernel
  have sign : Text.lower "ΟΔΟΣΗΜΑΝΣΗ" = "οδοσημανση" := by decide +kernel
  refine ⟨_, List.mem_cons_self, ?_, ?_⟩
  · rw [passes_minding_iff column rfl htype]
    refine ⟨Like.takes_of_length_le (by decide +kernel), Value.noConfusion, ?_⟩
    change "ΟΔΟΣ".toList <+: "ΟΔΟΣΗΜΑΝΣΗ".toList
    decide
  · rw [passes_default_iff column rfl htype]
    rintro ⟨-, -, stands⟩
    change (Text.lower "ΟΔΟΣ").toList <+: (Text.lower "ΟΔΟΣΗΜΑΝΣΗ").toList at stands
    rw [street, sign] at stands
    revert stands
    decide

end TextSearch

end GridSql
