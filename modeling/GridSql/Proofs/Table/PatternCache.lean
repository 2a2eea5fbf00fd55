import GridSql.Proofs.Table.PatternExpression
import Mathlib.Data.List.Forall2

/-!
# Patterns and what is kept of them

A text is like a pattern if it can be split into pieces, one for each element of the pattern in
order. What is kept of earlier patterns is what would be compiled again, so no earlier pattern
changes an answer. A pattern that the engine refuses gives no answer, and another one an answer
for every text.
-/

namespace GridSql

/-! ## The elements of a pattern -/

namespace Like

/-- Whether a pattern has some elements in order, with an escape character. -/
inductive Reads (escape : Char) : List Char → List LikeItem → Prop where
  | nil : Reads escape [] []
  | loneEscape : Reads escape [escape] []
  | escaped (c : Char) {pattern : List Char} {elements : List LikeItem}
      (rest : Reads escape pattern elements) :
      Reads escape (escape :: c :: pattern) (.exactly c :: elements)
  | percent {pattern : List Char} {elements : List LikeItem} (h : '%' ≠ escape)
      (rest : Reads escape pattern elements) :
      Reads escape ('%' :: pattern) (.anyRun :: elements)
  | underscore {pattern : List Char} {elements : List LikeItem} (h : '_' ≠ escape)
      (rest : Reads escape pattern elements) :
      Reads escape ('_' :: pattern) (.anyOne :: elements)
  | plain {c : Char} {pattern : List Char} {elements : List LikeItem} (h : c ≠ escape)
      (noPercent : c ≠ '%') (noUnderscore : c ≠ '_') (rest : Reads escape pattern elements) :
      Reads escape (c :: pattern) (.exactly c :: elements)

def StandsFor : LikeItem → List Char → Prop
  | .exactly c, piece => piece = [c]
  | .anyOne, piece => ∃ c, piece = [c]
  | .anyRun, _ => True

/-- Whether a text can be split into pieces that the elements of a pattern stand for. -/
def Splits (escape : Char) (pattern text : List Char) : Prop :=
  ∃ elements pieces, Reads escape pattern elements ∧ text = pieces.flatten ∧
    List.Forall₂ StandsFor elements pieces

theorem items_of_reads {escape : Char} {pattern : List Char} {elements : List LikeItem}
    (h : Reads escape pattern elements) :
    items escape pattern = elements := by
  induction h with
  | nil => rfl
  | loneEscape => simp [items]
  | escaped c _ ih => rw [items_escaped, ih]
  | percent h _ ih =>
      rw [items_cons h, ih]
      rfl
  | underscore h _ ih =>
      rw [items_cons h, ih]
      rfl
  | plain h noPercent noUnderscore _ ih =>
      rw [items_cons h, ih, itemOf, if_neg noPercent, if_neg noUnderscore]

theorem reads_cons {escape c : Char} {pattern : List Char} {elements : List LikeItem}
    (h : c ≠ escape) (rest : Reads escape pattern elements) :
    Reads escape (c :: pattern) (itemOf c :: elements) := by
  unfold itemOf
  by_cases percent : c = '%'
  · subst percent
    exact .percent h rest
  · by_cases underscore : c = '_'
    · subst underscore
      exact .underscore h rest
    · rw [if_neg percent, if_neg underscore]
      exact .plain h percent underscore rest

theorem reads_items (escape : Char) (pattern : List Char) :
    Reads escape pattern (items escape pattern) := by
  fun_induction items escape pattern with
  | case1 => exact .nil
  | case2 => exact .loneEscape
  | case3 h => exact reads_cons h .nil
  | case4 h _ => exact reads_cons h .nil
  | case5 c h hp hu => exact .plain h hp hu .nil
  | case6 next rest ih => exact .escaped next ih
  | case7 next rest h ih => exact .percent h ih
  | case8 next rest h _ ih => exact .underscore h ih
  | case9 c next rest h hp hu ih => exact .plain h hp hu ih

theorem matches_cons_iff {item : LikeItem} {rest : List LikeItem} {text : List Char} :
    Matches (item :: rest) text ↔
      ∃ piece tail, text = piece ++ tail ∧ StandsFor item piece ∧ Matches rest tail := by
  cases item with
  | exactly c => simp [Matches, StandsFor]
  | anyOne =>
      constructor
      · intro h
        obtain ⟨c, tail, htext, hrest⟩ := h
        exact ⟨[c], tail, htext, ⟨c, rfl⟩, hrest⟩
      · intro h
        obtain ⟨_, tail, htext, ⟨c, rfl⟩, hrest⟩ := h
        exact ⟨c, tail, htext, hrest⟩
  | anyRun => simp [Matches, StandsFor]

theorem matches_iff_pieces {elements : List LikeItem} {text : List Char} :
    Matches elements text ↔
      ∃ pieces, text = pieces.flatten ∧ List.Forall₂ StandsFor elements pieces := by
  induction elements generalizing text with
  | nil => simp [Matches]
  | cons item rest ih =>
      rw [matches_cons_iff]
      constructor
      · intro h
        obtain ⟨piece, tail, htext, hpiece, hrest⟩ := h
        obtain ⟨pieces, rfl, hpieces⟩ := ih.1 hrest
        exact ⟨piece :: pieces, htext, .cons hpiece hpieces⟩
      · intro h
        obtain ⟨_, htext, hpieces⟩ := h
        cases hpieces with
        | cons hpiece hpieces => exact ⟨_, _, htext, hpiece, ih.2 ⟨_, rfl, hpieces⟩⟩

theorem matches_items_iff {escape : Char} {pattern text : List Char} :
    Matches (items escape pattern) text ↔ Splits escape pattern text := by
  rw [matches_iff_pieces]
  constructor
  · intro h
    obtain ⟨pieces, htext, hpieces⟩ := h
    exact ⟨_, pieces, reads_items escape pattern, htext, hpieces⟩
  · intro h
    obtain ⟨elements, pieces, hreads, htext, hpieces⟩ := h
    rw [items_of_reads hreads]
    exact ⟨pieces, htext, hpieces⟩

end Like

namespace RegexEngine

variable {ρ : Type} {E : RegexEngine ρ}

/-! ## What is kept of earlier patterns -/

def Keeps (E : RegexEngine ρ) (cache : PatternCache ρ) : Prop :=
  ∀ pattern escape re, cache.lookup (pattern, escape) = some re →
    E.compile (E.translate pattern escape) = .ok re

/-- The answer is the same as if nothing had been kept. -/
theorem like_of_keeps {cache : PatternCache ρ} (keeps : E.Keeps cache) (text pattern : String)
    (escape : Char) :
    (E.like cache text pattern escape).1 = (E.like [] text pattern escape).1 := by
  unfold like
  rw [List.lookup_nil]
  cases kept : cache.lookup (pattern, escape) with
  | none => cases E.compile (E.translate pattern escape) <;> rfl
  | some re => rw [keeps pattern escape re kept]

theorem Keeps.like {cache : PatternCache ρ} (keeps : E.Keeps cache) (text pattern : String)
    (escape : Char) :
    E.Keeps (E.like cache text pattern escape).2 := by
  unfold RegexEngine.like
  cases cache.lookup (pattern, escape) with
  | some re => exact keeps
  | none =>
      cases compiled : E.compile (E.translate pattern escape) with
      | error reason => exact keeps
      | ok re =>
          intro pattern' escape' re' kept
          by_cases same : (pattern', escape') = (pattern, escape)
          · cases same
            rw [List.lookup_cons_self] at kept
            cases kept
            exact compiled
          · rw [List.lookup_cons, beq_eq_false_iff_ne.2 same] at kept
            exact keeps pattern' escape' re' kept

structure Comparison where
  text : String
  pattern : String
  escape : Char

/-- What is kept after some comparisons, refused patterns among them. -/
def cacheAfter (E : RegexEngine ρ) (earlier : List Comparison) : PatternCache ρ :=
  earlier.foldl (fun cache c => (E.like cache c.text c.pattern c.escape).2) []

theorem keeps_cacheAfter (E : RegexEngine ρ) (earlier : List Comparison) :
    E.Keeps (E.cacheAfter earlier) := by
  have run (cache : PatternCache ρ) (keeps : E.Keeps cache) : E.Keeps
      (earlier.foldl (fun cache c => (E.like cache c.text c.pattern c.escape).2) cache) := by
    induction earlier generalizing cache with
    | nil => exact keeps
    | cons c earlier ih => exact ih _ (keeps.like c.text c.pattern c.escape)
  exact run [] (by intro pattern escape re kept; cases kept)

theorem like_of_compiled {pattern : String} {escape : Char} {re : ρ}
    (compiled : E.compile (E.translate pattern escape) = .ok re) (text : String) :
    (E.like [] text pattern escape).1 = .ok (E.isFound re text.toList) := by
  rw [like, List.lookup_nil, compiled]

/-- Whatever was compared before, a pattern that is taken has an answer for every text. -/
theorem like_cacheAfter (documented : E.Documented) (earlier : List Comparison) (text : String)
    {pattern : String} {escape : Char} (taken : E.Takes pattern escape) :
    ∃ b, (E.like (E.cacheAfter earlier) text pattern escape).1 = .ok b ∧
      (b = true ↔ Like.Matches (Like.items escape pattern.toList) text.toList) := by
  obtain ⟨re, compiled⟩ := taken
  refine ⟨_, ?_, isFound_iff_matches documented compiled text.toList⟩
  rw [like_of_keeps (keeps_cacheAfter E earlier), like_of_compiled compiled]

end RegexEngine

namespace Like

open RegexEngine Regex

variable {text pattern : String} {escape : Char}

theorem like_of_takes (taken : engine.Takes pattern escape) (text : String) :
    like text pattern escape = .ok (decide (Matches (items escape pattern.toList) text.toList)) := by
  obtain ⟨re, compiled⟩ := taken
  have found := isFound_iff_matches documented_engine compiled text.toList
  rw [like, like_of_compiled compiled, Except.ok.injEq, Bool.eq_iff_iff, found,
    decide_eq_true_iff]

theorem exists_error_of_not_takes (refused : ¬ engine.Takes pattern escape) (text : String) :
    ∃ reason, like text pattern escape = .error (.pattern reason) := by
  cases compiled : engine.compile (engine.translate pattern escape) with
  | ok re => exact absurd ⟨re, compiled⟩ refused
  | error reason => exact ⟨reason, by rw [like, RegexEngine.like, List.lookup_nil, compiled]⟩

end Like

/--
Whatever was compared before, a text is compared with a pattern that the engine takes without
a fault. The answer is yes exactly if the text can be split into pieces that the elements of the
pattern stand for, and it is that of the evaluator if its own engine takes the pattern, too.
-/
theorem RegexEngine.like_splits {ρ : Type} {E : RegexEngine ρ} (documented : E.Documented)
    (earlier : List RegexEngine.Comparison) (text pattern : String) (escape : Char)
    (accepted : ∃ re, E.compile (E.translate pattern escape) = .ok re) :
    ∃ matched, (E.like (E.cacheAfter earlier) text pattern escape).1 = .ok matched ∧
      (matched = true ↔ Like.Splits escape pattern.toList text.toList) ∧
      (Regex.engine.Takes pattern escape → Like.like text pattern escape = .ok matched) := by
  obtain ⟨matched, answer, found⟩ := like_cacheAfter documented earlier text accepted
  refine ⟨matched, answer, found.trans Like.matches_items_iff, fun taken => ?_⟩
  rw [Like.like_of_takes taken, Except.ok.injEq, Bool.eq_iff_iff, found, decide_eq_true_iff]

/-- The percent sign escapes here: itself, and nothing at the end. -/
theorem RegexEngine.like_splits_discount :
    Regex.engine.Documented ∧
      (∃ re, Regex.engine.compile (Regex.engine.translate "5%%_%" '%') = .ok re) ∧
      (Regex.engine.like (Regex.engine.cacheAfter [⟨"5", "5%%_%", '_'⟩]) "5%\n" "5%%_%" '%').1 =
        .ok true := by
  have accepted : Regex.engine.Takes "5%%_%" '%' := Like.takes_of_length_le (by decide)
  obtain ⟨matched, answer, splits, -⟩ :=
    like_splits Regex.documented_engine [⟨"5", "5%%_%", '_'⟩] "5%\n" "5%%_%" '%' accepted
  have reads : Like.Reads '%' ['5', '%', '%', '_', '%'] [.exactly '5', .exactly '%', .anyOne] :=
    .plain (by decide) (by decide) (by decide)
      (.escaped '%' (.underscore (by decide) .loneEscape))
  have yes : matched = true :=
    splits.2 ⟨_, [['5'], ['%'], ['\n']], reads, by cbv,
      .cons rfl (.cons rfl (.cons ⟨_, rfl⟩ .nil))⟩
  refine ⟨Regex.documented_engine, accepted, ?_⟩
  rw [answer, yes]

end GridSql
