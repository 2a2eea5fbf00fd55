import GridSql.Proofs.Filter.Meaning
import GridSql.Proofs.Table.Loaded
import GridSql.Proofs.Table.PatternCache
import GridSql.Proofs.Table.Truth

/-!
# Predicates of text filters

The predicate of a condition on texts decides what the condition says of the text
that the cell is shown with. Both sides are brought into one form, and a text that
is searched for is escaped, so that it is found exactly where it stands.
-/

namespace GridSql

variable {t : Table} {s : Scope} {target : FilterTarget} {cell : Value}

/-! ## The text of a cell -/

namespace Value

theorem mapText_eq_null_iff {f : String → String} (v : Value) :
    v.mapText f = .null ↔ v = .null := by
  cases v <;> simp [mapText]

theorem display_mapText {f : String → String} {v : Value} (h : v ≠ .null) :
    (v.mapText f).display = f v.display := by
  cases v
  case null => exact absurd rfl h
  all_goals rfl

theorem order?_mapText {f : String → String} {v : Value} (h : v ≠ .null) (w : String) :
    (v.mapText f).order? (.text w) = some (compare (f v.display) w) := by
  cases v
  case null => exact absurd rfl h
  all_goals rfl

end Value

theorem Table.eval_cast_text {e : Expr} (hcell : t.eval s e = .ok cell) :
    t.eval s (.cast e .text) = .ok (cell.mapText id) := by
  cases cell <;> simp [Table.eval, hcell, bind, Except.bind, Value.castTo, Value.isNull,
    Value.mapText, Table.lift, Except.mapError]

namespace FilterTarget

theorem eval_textExpr (hcell : t.eval s target.expr = .ok cell)
    (htype : cell.HasType target.type) (known : target.type ≠ .other) :
    t.eval s target.textExpr = .ok (cell.mapText id) := by
  have cast := Table.eval_cast_text hcell
  cases hkind : target.type with
  | text =>
      rw [hkind] at htype
      rw [textExpr, hkind]
      cases htype <;> exact hcell
  | other => exact absurd hkind known
  | integer => rw [textExpr, hkind]; exact cast
  | decimal => rw [textExpr, hkind]; exact cast
  | boolean => rw [textExpr, hkind]; exact cast
  | date => rw [textExpr, hkind]; exact cast
  | timestamp => rw [textExpr, hkind]; exact cast

end FilterTarget

namespace TextForm

variable {form : TextForm}

theorem eval_lower {e : Expr} {v : Value} (hv : t.eval s e = .ok v) :
    t.eval s (.fn "LOWER" [e]) = .ok (v.mapText Text.lower) := by
  have noAggregate : Aggregate.ofName? "LOWER" = none := by decide +kernel
  have capitals : Text.asciiUpper "LOWER" = "LOWER" := by decide +kernel
  simp [Expr.fn, Table.eval, Table.evalAll, noAggregate, capitals, hv, bind, Except.bind,
    Value.applyFunction]

theorem normal_eq_id (h : form.caseSensitive = true) : form.normal = id := by
  funext text
  simp [normal, h]

theorem normal_eq_lower (h : form.caseSensitive = false) : form.normal = Text.lower := by
  funext text
  simp [normal, h]

theorem eval_ofExpr (plain : form.IsPlain) {e : Expr} (hv : t.eval s e = .ok (cell.mapText id)) :
    t.eval s (form.ofExpr e) = .ok (cell.mapText form.normal) := by
  unfold ofExpr
  rw [plain]
  cases hcase : form.caseSensitive with
  | true =>
      rw [normal_eq_id hcase]
      exact hv
  | false =>
      have hlower := eval_lower hv
      rw [normal_eq_lower hcase]
      cases cell <;> exact hlower

theorem ofText_of_plain (plain : form.IsPlain) (text : String) :
    form.ofText text = .ofText (form.normal text) := by
  unfold ofText normal
  rw [plain]

end TextForm

/-! ## Comparing and searching -/

namespace Predicate

variable {f : String → String} {e : Expr}

theorem decides_equal (hv : t.eval s e = .ok (cell.mapText f)) (word : String) :
    t.Decides s (e.eq (.ofText word)) (cell ≠ .null ∧ f cell.display = word) := by
  refine (Table.decides_comparison .eq rfl hv rfl).congr ?_
  by_cases hnull : cell = .null
  · simp [hnull, Value.mapText]
  · simp [Value.mapText_eq_null_iff, hnull, BinaryOp.Accepts, Value.order?_mapText hnull]

theorem decides_different (hv : t.eval s e = .ok (cell.mapText f)) (word : String) :
    t.Decides s (.binary .ne e (.ofText word)) (cell ≠ .null ∧ f cell.display ≠ word) := by
  refine (Table.decides_comparison .ne rfl hv rfl).congr ?_
  by_cases hnull : cell = .null
  · simp [hnull, Value.mapText]
  · simp [Value.mapText_eq_null_iff, hnull, BinaryOp.Accepts, Value.order?_mapText hnull]

/-- The literal that a filter text becomes. -/
def patternOf (leading trailing : Bool) (word : String) : String :=
  (if leading then "%" else "") ++ escapeLike word ++ (if trailing then "%" else "")

theorem likePattern_ofText (leading trailing : Bool) (word : String) :
    likePattern (.ofText word) leading trailing = .ofText (patternOf leading trailing word) :=
  rfl

theorem patternOf_toList (leading trailing : Bool) (word : String) :
    (patternOf leading trailing word).toList =
      Like.wild leading ++ (escapeChars word.toList ++ Like.wild trailing) := by
  cases leading <;> cases trailing <;> simp [patternOf, Like.wild, escapeLike]

/-- A LIKE test of a text with the literal of a filter text is what the engine answers. -/
theorem eval_matching_ofText {word shown : String} {leading trailing : Bool}
    (he : t.eval s e = .ok (.text shown)) (negated : Bool) :
    t.eval s (matching e (.ofText word) leading trailing negated) =
      Table.lift ((Like.like shown (patternOf leading trailing word) likeEscape).map
        fun matched => .bool (matched != negated)) := by
  have pattern : t.eval s (.ofText (patternOf leading trailing word)) =
      .ok (.text (patternOf leading trailing word)) := rfl
  rw [matching, likePattern_ofText, Table.eval_like likeEscape negated he pattern]
  rfl

theorem eval_matching_of_not_takes {word shown : String} {leading trailing : Bool}
    (he : t.eval s e = .ok (.text shown))
    (refused : ¬ Regex.engine.Takes (patternOf leading trailing word) likeEscape)
    (negated : Bool) :
    ∃ reason, t.eval s (matching e (.ofText word) leading trailing negated) =
      .error (.evaluation (.pattern reason)) := by
  obtain ⟨reason, refused⟩ := Like.exists_error_of_not_takes refused shown
  refine ⟨reason, ?_⟩
  rw [eval_matching_ofText he, refused]
  rfl

def Matched (leading trailing : Bool) (word shown : String) : Prop :=
  Like.Matches (Like.items likeEscape (patternOf leading trailing word).toList) shown.toList

instance (leading trailing : Bool) (word shown : String) :
    Decidable (Matched leading trailing word shown) :=
  inferInstanceAs (Decidable (Like.Matches _ _))

/-- The pattern of a text accepts what has the text in it, at an end where that is asked. -/
theorem matched_iff (leading trailing : Bool) (word shown : String) :
    Matched leading trailing word shown ↔
      ∃ before after, shown.toList = before ++ (word.toList ++ after) ∧
        (leading = false → before = []) ∧ (trailing = false → after = []) := by
  rw [Matched, patternOf_toList]
  exact Like.matches_wild_iff leading trailing word.toList shown.toList

theorem matched_contains_iff (word shown : String) :
    Matched true true word shown ↔ word.toList <:+: shown.toList := by
  refine (matched_iff true true word shown).trans ⟨?_, ?_⟩
  · rintro ⟨before, after, heq, -, -⟩
    exact ⟨before, after, by rw [heq, List.append_assoc]⟩
  · rintro ⟨before, after, heq⟩
    exact ⟨before, after, by rw [← heq, List.append_assoc], by simp, by simp⟩

theorem matched_startsWith_iff (word shown : String) :
    Matched false true word shown ↔ word.toList <+: shown.toList := by
  refine (matched_iff false true word shown).trans ⟨?_, ?_⟩
  · rintro ⟨before, after, heq, hbefore, -⟩
    rw [hbefore rfl] at heq
    exact ⟨after, heq.symm⟩
  · rintro ⟨after, heq⟩
    exact ⟨[], after, heq.symm, fun _ => rfl, by simp⟩

theorem matched_endsWith_iff (word shown : String) :
    Matched true false word shown ↔ word.toList <:+ shown.toList := by
  refine (matched_iff true false word shown).trans ⟨?_, ?_⟩
  · rintro ⟨before, after, heq, -, hafter⟩
    rw [hafter rfl, List.append_nil] at heq
    exact ⟨before, heq.symm⟩
  · rintro ⟨before, heq⟩
    exact ⟨before, [], by rw [← heq, List.append_nil], by simp, fun _ => rfl⟩

theorem elementsSize_wild (d : Regex.Direction) (wanted : Bool) :
    Like.elementsSize d (Like.items likeEscape (Like.wild wanted)) =
      wanted.toNat * (Regex.Step.many .any).size d := by
  cases wanted with
  | false => rw [Bool.toNat_false, Nat.zero_mul]; rfl
  | true => rw [Bool.toNat_true, Nat.one_mul]; rfl

theorem elementsSize_patternOf (d : Regex.Direction) (leading trailing : Bool) (word : String) :
    Like.elementsSize d (Like.items likeEscape (patternOf leading trailing word).toList) =
      (leading.toNat + trailing.toNat) * (Regex.Step.many .any).size d +
        word.utf8ByteSize * Regex.stateSize := by
  rw [patternOf_toList, Like.items_wild, Like.items_escapeChars, Like.elementsSize_append,
    Like.elementsSize_append, elementsSize_wild, Like.elementsSize_exactly, String.utf8Len_toList]
  cases leading <;> cases trailing <;> simp [Like.elementsSize, Like.stepOf] <;> omega

/-- The engine takes the pattern of a filter text if there is room for the bytes of the text. -/
theorem takes_patternOf_iff (leading trailing : Bool) (word : String) :
    Regex.engine.Takes (patternOf leading trailing word) likeEscape ↔
      ∀ d, Regex.frameSize d + 2 * Regex.stateSize +
        (leading.toNat + trailing.toNat) * (Regex.Step.many .any).size d +
          word.utf8ByteSize * Regex.stateSize ≤ Regex.sizeLimit := by
  simp only [Like.takes_iff, elementsSize_patternOf, ← Nat.add_assoc]

/-- A filter text with a state for each of its characters too many is refused. -/
theorem not_takes_patternOf {word : String}
    (long : Regex.sizeLimit < word.length * Regex.stateSize) (leading trailing : Bool) :
    ¬ Regex.engine.Takes (patternOf leading trailing word) likeEscape := by
  intro taken
  have room := (takes_patternOf_iff leading trailing word).1 taken .forward
  have bytes := Like.length_le_utf8Len word.toList
  rw [String.length_toList, String.utf8Len_toList] at bytes
  have states := Nat.mul_le_mul_right Regex.stateSize bytes
  omega

def wordOfLength (n : Nat) : String := String.ofList (List.replicate n 'a')

theorem length_wordOfLength (n : Nat) : (wordOfLength n).length = n := by
  rw [wordOfLength, String.length_ofList, List.length_replicate]

theorem mem_wordOfLength {n : Nat} {c : Char} (h : c ∈ (wordOfLength n).toList) : c = 'a' := by
  rw [wordOfLength, String.toList_ofList] at h
  exact List.eq_of_mem_replicate h

/-- A word that is too long for a pattern. -/
def longWord : String := wordOfLength 400000

theorem not_takes_longWord (leading trailing : Bool) :
    ¬ Regex.engine.Takes (patternOf leading trailing longWord) likeEscape := by
  refine not_takes_patternOf ?_ leading trailing
  rw [longWord, length_wordOfLength]
  decide

theorem takes_of_patternsTaken {e : Expr} {word : String} {leading trailing negated : Bool}
    (taken : (matching e (.ofText word) leading trailing negated).PatternsTaken) :
    Regex.engine.Takes (patternOf leading trailing word) likeEscape :=
  taken _ (Expr.mem_nodes _) e _ likeEscape negated (by rw [matching, likePattern_ofText])

theorem decides_matching (hv : t.eval s e = .ok (cell.mapText f)) {word : String}
    {leading trailing negated : Bool}
    (taken : Regex.engine.Takes (patternOf leading trailing word) likeEscape) {P : Prop}
    (hP : Matched leading trailing word (f cell.display) ↔ P) :
    t.Decides s (matching e (.ofText word) leading trailing negated)
      (cell ≠ .null ∧ if negated then ¬ P else P) := by
  have pattern : t.eval s (likePattern (.ofText word) leading trailing) =
      .ok (.text (patternOf leading trailing word)) := rfl
  have answer := Like.like_of_takes taken (cell.mapText f).display
  refine (Table.decides_like negated hv pattern (by simp) answer).congr ?_
  by_cases hnull : cell = .null
  · simp [hnull, Value.mapText]
  · have hshown := Value.display_mapText (f := f) hnull
    rw [Ne, Value.mapText_eq_null_iff, hshown, ← hP, Matched]
    cases negated <;> simp [hnull]

/-! ## Conditions -/

theorem need_ok {α : Type} {option : FilterOption} {key : String} {x : Option α} {a : α}
    (h : target.need option key x = .ok a) :
    x = some a := by
  cases x with
  | none => cases h
  | some b =>
      cases h
      rfl

theorem decides_text {option : FilterOption} {filter : Option String} {rules : TextRules}
    {p : Expr} (hcell : t.eval s target.expr = .ok cell) (htype : cell.HasType target.type)
    (known : target.type ≠ .other) (plain : rules.toTextForm.IsPlain)
    (noMatcher : rules.matcher = none)
    (compiled : Predicate.text target option filter rules = .ok p) (taken : p.PatternsTaken) :
    t.Decides s p (rules.Holds option filter cell) := by
  have hraw := FilterTarget.eval_textExpr hcell htype known
  have hvalue := TextForm.eval_ofExpr plain hraw
  have hempty := decides_equal hraw ""
  have hfilled := decides_different hraw ""
  have hisNull := (Table.decides_isNull hraw).congr (Value.mapText_eq_null_iff cell)
  have hisNotNull :=
    (Table.decides_isNotNull hraw).congr (Value.mapText_eq_null_iff cell).not
  simp only [Predicate.text, noMatcher, TextForm.ofText_of_plain plain] at compiled
  -- Operators with a text share the way to it.
  have withText {make : Expr → Expr} {P : String → Prop}
      (hp : ((target.need option "filter" (filter.map fun word => Expr.ofText
        (rules.normal (if rules.trimInput then Text.trim word else word)))).map make) = .ok p)
      (hmake : ∀ word, (make (.ofText word)).PatternsTaken →
        t.Decides s (make (.ofText word)) (cell ≠ .null ∧ P word)) :
      t.Decides s p (cell ≠ .null ∧ ∃ word ∈ filter,
        P (rules.normal (if rules.trimInput then Text.trim word else word))) := by
    obtain ⟨_, hneed, rfl⟩ := map_ok_iff.1 hp
    obtain ⟨word, hword, rfl⟩ := Option.map_eq_some_iff.1 (need_ok hneed)
    refine (hmake _ taken).congr ?_
    simp [hword]
  cases option with
  | empty =>
      cases compiled
      refine (hisNull.or hempty).congr ?_
      simp only [TextRules.Holds, id_eq]
      tauto
  | blank =>
      cases compiled
      refine (hisNull.or hempty).congr ?_
      simp only [TextRules.Holds, id_eq]
      tauto
  | notBlank =>
      cases compiled
      refine (hisNotNull.and hfilled).congr ?_
      simp only [TextRules.Holds, id_eq]
      tauto
  | equals => exact withText compiled fun word _ => decides_equal hvalue word
  | notEqual => exact withText compiled fun word _ => decides_different hvalue word
  | contains =>
      exact withText compiled fun word taken =>
        decides_matching hvalue (takes_of_patternsTaken taken) (matched_contains_iff word _)
  | notContains =>
      exact withText compiled fun word taken =>
        decides_matching hvalue (takes_of_patternsTaken taken) (matched_contains_iff word _)
  | startsWith =>
      exact withText compiled fun word taken =>
        decides_matching hvalue (takes_of_patternsTaken taken) (matched_startsWith_iff word _)
  | endsWith =>
      exact withText compiled fun word taken =>
        decides_matching hvalue (takes_of_patternsTaken taken) (matched_endsWith_iff word _)
  | _ => cases compiled

end Predicate

end GridSql
