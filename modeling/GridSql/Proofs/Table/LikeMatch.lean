import GridSql.Filter.Predicate
import GridSql.Table.Like
import Mathlib.Data.List.Basic
import Mathlib.Data.List.Infix

/-!
# What LIKE patterns match

A text is like a pattern if it can be cut into pieces, one for each element of the
pattern in order. An escaped text is a pattern that only the text itself matches, so
with a percent sign before or behind it a pattern matches what has the text as its
end, its start or anywhere inside.
-/

namespace GridSql

namespace Like

/-- Whether a text can be cut into one piece for each element. -/
def Matches : List LikeItem → List Char → Prop
  | [], cs => cs = []
  | .exactly c :: rest, cs => ∃ tail, cs = c :: tail ∧ Matches rest tail
  | .anyOne :: rest, cs => ∃ c tail, cs = c :: tail ∧ Matches rest tail
  | .anyRun :: rest, cs => ∃ run tail, cs = run ++ tail ∧ Matches rest tail

/-! ## Patterns of texts -/

def itemOf (c : Char) : LikeItem :=
  if c = '%' then .anyRun else if c = '_' then .anyOne else .exactly c

theorem items_cons {escape c : Char} (hc : c ≠ escape) (cs : List Char) :
    items escape (c :: cs) = itemOf c :: items escape cs := by
  cases cs with
  | nil =>
      simp only [items, if_neg hc, itemOf]
      split
      · rfl
      · split <;> rfl
  | cons next rest =>
      simp only [items, if_neg hc, itemOf]
      split
      · rfl
      · split <;> rfl

theorem items_escaped (escape c : Char) (cs : List Char) :
    items escape (escape :: c :: cs) = .exactly c :: items escape cs := by
  simp [items]

theorem escapeChars_cons_special {c : Char} (hc : c = '%' ∨ c = '_' ∨ c = Predicate.likeEscape)
    (cs : List Char) :
    Predicate.escapeChars (c :: cs) = Predicate.likeEscape :: c :: Predicate.escapeChars cs := by
  simp [Predicate.escapeChars, hc]

theorem escapeChars_cons_plain {c : Char} (hc : ¬ (c = '%' ∨ c = '_' ∨ c = Predicate.likeEscape))
    (cs : List Char) :
    Predicate.escapeChars (c :: cs) = c :: Predicate.escapeChars cs := by
  simp [Predicate.escapeChars, hc]

/-- An escaped text stands for its own characters. -/
theorem items_escapeChars (cs rest : List Char) :
    items Predicate.likeEscape (Predicate.escapeChars cs ++ rest) =
      cs.map .exactly ++ items Predicate.likeEscape rest := by
  induction cs with
  | nil => rfl
  | cons c cs ih =>
      by_cases hc : c = '%' ∨ c = '_' ∨ c = Predicate.likeEscape
      · rw [escapeChars_cons_special hc, List.cons_append, List.cons_append, items_escaped, ih]
        rfl
      · obtain ⟨hpercent, hunderscore, hescape⟩ : c ≠ '%' ∧ c ≠ '_' ∧ c ≠ Predicate.likeEscape := by
          simpa [not_or] using hc
        rw [escapeChars_cons_plain hc, List.cons_append, items_cons hescape, ih, itemOf,
          if_neg hpercent, if_neg hunderscore]
        rfl

theorem matches_exactly (word : List Char) (rest : List LikeItem) (cs : List Char) :
    Matches (word.map .exactly ++ rest) cs ↔ ∃ tail, cs = word ++ tail ∧ Matches rest tail := by
  induction word generalizing cs with
  | nil => simp
  | cons c word ih =>
      simp only [List.map_cons, List.cons_append, Matches, ih]
      constructor
      · rintro ⟨_, rfl, tail, rfl, htail⟩
        exact ⟨tail, rfl, htail⟩
      · rintro ⟨tail, rfl, htail⟩
        exact ⟨_, rfl, tail, rfl, htail⟩

def wild (wanted : Bool) : List Char :=
  if wanted then ['%'] else []

theorem items_wild (wanted : Bool) (cs : List Char) :
    items Predicate.likeEscape (wild wanted ++ cs) =
      (if wanted then [.anyRun] else []) ++ items Predicate.likeEscape cs := by
  cases wanted with
  | false => rfl
  | true => exact items_cons (by decide) cs

/--
A text between percent signs, where they are wanted, matches what has it in it with
nothing else where none is.
-/
theorem matches_wild_iff (leading trailing : Bool) (word cs : List Char) :
    Matches (items Predicate.likeEscape
        (wild leading ++ (Predicate.escapeChars word ++ wild trailing))) cs ↔
      ∃ before after, cs = before ++ (word ++ after) ∧
        (leading = false → before = []) ∧ (trailing = false → after = []) := by
  have last : ∀ tail, Matches (items Predicate.likeEscape (wild trailing)) tail ↔
      (trailing = false → tail = []) := by
    intro tail
    have hitems := items_wild trailing []
    rw [List.append_nil] at hitems
    rw [hitems]
    cases trailing with
    | false => simp [items, Matches]
    | true =>
        simp only [items, Matches, if_true, List.append_nil, Bool.true_eq_false,
          false_implies, iff_true]
        exact ⟨tail, [], by simp, rfl⟩
  rw [items_wild, items_escapeChars]
  cases leading with
  | false =>
      simp only [Bool.false_eq_true, if_false, List.nil_append, matches_exactly, last]
      constructor
      · rintro ⟨after, rfl, hafter⟩
        exact ⟨[], after, rfl, fun _ => rfl, hafter⟩
      · rintro ⟨before, after, rfl, hbefore, hafter⟩
        rw [hbefore trivial]
        exact ⟨after, rfl, hafter⟩
  | true =>
      simp only [if_true, List.cons_append, List.nil_append, Matches, matches_exactly, last]
      constructor
      · rintro ⟨before, _, rfl, after, rfl, hafter⟩
        exact ⟨before, after, rfl, fun h => by simp at h, hafter⟩
      · rintro ⟨before, after, rfl, -, hafter⟩
        exact ⟨before, _, rfl, after, rfl, hafter⟩

end Like

end GridSql
