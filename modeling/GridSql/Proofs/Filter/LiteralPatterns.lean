import GridSql.Proofs.Filter.TextPredicate

/-!
# Literal patterns

The pattern of a filter text is a literal in which every character of the text is escaped that
has another meaning. So a LIKE test finds the text as it is written, whatever it is made of and
unless it is too long for the engine, and other text is allowed exactly on the sides that have a
percent sign.
-/

namespace GridSql.Predicate

variable {t : Table} {s : Scope} {e : Expr} {leading trailing : Bool} {word shown : String}

/-- Whether a word is in a text, with other text only on the sides that are open. -/
def HasWord (leading trailing : Bool) (word text : String) : Prop :=
  ∃ before after, text = before ++ word ++ after ∧
    (leading = false → before = "") ∧ (trailing = false → after = "")

theorem hasWord_iff_toList :
    HasWord leading trailing word shown ↔
      ∃ before after, shown.toList = before ++ (word.toList ++ after) ∧
        (leading = false → before = []) ∧ (trailing = false → after = []) := by
  constructor
  · rintro ⟨before, after, rfl, hbefore, hafter⟩
    refine ⟨before.toList, after.toList, by simp, fun h => ?_, fun h => ?_⟩
    · simp [hbefore h]
    · simp [hafter h]
  · rintro ⟨before, after, heq, hbefore, hafter⟩
    refine ⟨String.ofList before, String.ofList after, ?_, fun h => ?_, fun h => ?_⟩
    · apply String.toList_injective
      simp [heq]
    · simp [hbefore h]
    · simp [hafter h]

theorem matched_iff_hasWord :
    Matched leading trailing word shown ↔ HasWord leading trailing word shown :=
  (matched_iff leading trailing word shown).trans hasWord_iff_toList.symm

/-- With a pattern that is taken, a LIKE test of a text is true or false, never unknown. -/
theorem eval_matching_of_takes (he : t.eval s e = .ok (.text shown))
    (taken : Regex.engine.Takes (patternOf leading trailing word) likeEscape) (negated : Bool) :
    t.eval s (matching e (.ofText word) leading trailing negated) =
      .ok (.bool (decide (Matched leading trailing word shown) != negated)) := by
  rw [eval_matching_ofText he, Like.like_of_takes taken]
  rfl

/--
The pattern of a filter text is a literal. With the backslash as the escape, and in an engine
that takes the pattern, a text is like it exactly if the filter text is in it as it stands, with
other text in front and behind only where a wildcard is; and a LIKE test of an expression tells
just this of the text that it has.
-/
theorem matching_hasWord (he : t.eval s e = .ok (.text shown)) (word : String)
    (leading trailing : Bool) :
    ∃ pattern, likePattern (.ofText word) leading trailing = .ofText pattern ∧
      (∀ {ρ : Type} (E : RegexEngine ρ) (earlier : List RegexEngine.Comparison), E.Documented →
        E.Takes pattern '\\' →
          ∃ b, (E.like (E.cacheAfter earlier) shown pattern '\\').1 = .ok b ∧
            (b = true ↔ HasWord leading trailing word shown)) ∧
      (Regex.engine.Takes pattern '\\' → ∀ negated, ∃ b,
        t.eval s (matching e (.ofText word) leading trailing negated) = .ok (.bool b) ∧
          (b = true ↔ if negated then ¬ HasWord leading trailing word shown
            else HasWord leading trailing word shown)) := by
  refine ⟨_, likePattern_ofText leading trailing word, fun E earlier documented taken => ?_,
    fun taken negated => ⟨_, eval_matching_of_takes he taken negated, ?_⟩⟩
  · obtain ⟨b, answer, matched⟩ := RegexEngine.like_cacheAfter documented earlier shown taken
    exact ⟨b, answer, matched.trans matched_iff_hasWord⟩
  · cases negated <;> simp [matched_iff_hasWord]

/-- A path with all characters that have another meaning, in two lines. -/
def notesFile : String := "C:\\50%_off\nnotes"

theorem matching_hasWord_notesFile :
    HasWord true true "\\50%_off\n" notesFile ∧
      ∃ pattern, likePattern (.ofText "\\50%_off\n") true true = .ofText pattern ∧
        Regex.engine.Documented ∧ Regex.engine.Takes pattern '\\' ∧
        (∃ b, (Regex.engine.like (Regex.engine.cacheAfter [⟨"", pattern, '%'⟩]) notesFile pattern
          '\\').1 = .ok b ∧ (b = true ↔ HasWord true true "\\50%_off\n" notesFile)) ∧
        ∃ b, (Table.empty "files" []).eval (.row [])
          (matching (.ofText notesFile) (.ofText "\\50%_off\n") true true false) = .ok (.bool b) ∧
            (b = true ↔ HasWord true true "\\50%_off\n" notesFile) := by
  obtain ⟨pattern, literal, answers, tests⟩ := matching_hasWord (t := Table.empty "files" [])
    (s := .row []) (e := .ofText notesFile) rfl "\\50%_off\n" true true
  have own : patternOf true true "\\50%_off\n" = pattern := by
    rw [likePattern_ofText] at literal
    cases literal
    rfl
  have taken : Regex.engine.Takes pattern '\\' :=
    own ▸ Like.takes_of_length_le (by decide)
  exact ⟨⟨"C:", "notes", by decide, by simp, by simp⟩, pattern, literal, Regex.documented_engine,
    taken, answers Regex.engine _ Regex.documented_engine taken, tests taken false⟩

theorem not_matching_hasWord :
    HasWord true true longWord longWord ∧ ∃ reason,
      (Table.empty "files" []).eval (.row [])
        (matching (.ofText longWord) (.ofText longWord) true true false) =
          .error (.evaluation (.pattern reason)) :=
  ⟨⟨"", "", by simp, by simp, by simp⟩,
    eval_matching_of_not_takes rfl (not_takes_longWord true true) false⟩

end GridSql.Predicate
