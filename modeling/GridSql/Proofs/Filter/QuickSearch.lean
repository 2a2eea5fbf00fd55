import GridSql.Proofs.Filter.Searching
import GridSql.Proofs.Text.Words

/-!
# What the quick filter finds

Without hooks, and if the engine takes the patterns of the words, a row passes the quick filter
exactly if every word of the text is in the text of at least one searched cell, in lower case if
the filter does not mind the case. There is no predicate only if there is no word. Words and
columns count as sets: neither their order nor their repetition makes a difference, not even to
what is unknown.
-/

namespace GridSql

variable {t : Table} {s : Scope}

/-- An expression of texts in the form in which it is compared, without a formatter. -/
theorem TextForm.exists_eval_ofExpr {form : TextForm} (plain : form.IsPlain) {e : Expr}
    {cell v : Value} (he : t.eval s e = .ok v) (shows_ : cell.Shows id v) :
    ∃ w, t.eval s (form.ofExpr e) = .ok w ∧ cell.Shows form.normal w := by
  unfold ofExpr
  rw [plain]
  cases hcase : form.caseSensitive with
  | true =>
      rw [normal_eq_id hcase]
      exact ⟨v, he, shows_⟩
  | false =>
      rw [normal_eq_lower hcase]
      exact ⟨_, eval_lower he, shows_.mapText Text.lower⟩

namespace QuickFilter

/-- Whether no formatter, no parser and no matcher of the server takes part. -/
structure IsPlain (q : QuickFilter) : Prop where
  formatter : q.toTextForm.IsPlain
  parser : q.parser = none
  matcher : q.matcher = none

variable {q : QuickFilter} {text : String} {fields : List Column} {p : Expr}

/-- Trimming the words of a text changes nothing, and none of them is empty. -/
theorem words_eq (parser : q.parser = none) (text : String) : q.words text = Text.words text := by
  have trimmed : (Text.words text).map (fun w => if q.trimInput then Text.trim w else w) =
      Text.words text := by
    refine (List.map_congr_left fun w hw => ?_).trans (List.map_id _)
    rw [Text.trim_word hw, ite_self]
    rfl
  rw [words, parser, trimmed]
  exact List.filter_eq_self.2 fun w hw => decide_eq_true (Text.word_ne_empty hw)

/-- Whether a word is in the text of a cell; of a null cell nothing is known. -/
def inCell (q : QuickFilter) (s : Scope) (word name : String) : Option Bool :=
  (s.cell name).tested fun shown => decide ((q.normal word).toList <:+: (q.normal shown).toList)

theorem inCell_eq_true_iff {word name : String} :
    q.inCell s word name = some true ↔ s.cell name ≠ .null ∧
      (q.normal word).toList <:+: (q.normal (s.cell name).display).toList := by
  rw [inCell, Value.tested_eq_true_iff, decide_eq_true_iff]

theorem eval_matching_column (plain : q.IsPlain) {c : Column}
    (known : (t.typeOf? c.name).isSome = true) {word : String}
    (taken : Regex.engine.Takes (Predicate.patternOf true true (q.normal word))
      Predicate.likeEscape) :
    t.eval s (Predicate.matching (q.column c) (q.ofText word) true true false) =
      .ok (.ofTruth (q.inCell s word c.name)) := by
  have hcell : t.eval s (.col c.name) = .ok (s.cell c.name) := Table.eval_col known
  obtain ⟨raw, hraw, showsRaw⟩ :=
    FilterTarget.exists_eval_textExpr ⟨c.name, .col c.name, c.type⟩ hcell
  obtain ⟨v, hv, shows_⟩ := TextForm.exists_eval_ofExpr plain.formatter hraw showsRaw
  rw [TextForm.ofText_of_plain plain.formatter]
  refine (Table.eval_like_of_shows hv shows_ rfl taken false).trans ?_
  have contained (shown : String) :
      (decide (Predicate.Matched true true (q.normal word) (q.normal shown)) != false) =
        decide ((q.normal word).toList <:+: (q.normal shown).toList) := by
    simp only [Bool.bne_false, Predicate.matched_contains_iff]
  exact congrArg (fun test => Except.ok (Value.ofTruth ((s.cell c.name).tested test)))
    (funext contained)

/-- Whether the engine takes the patterns of all words of a text. -/
def TakesWords (q : QuickFilter) (text : String) : Prop :=
  ∀ word : String, Text.IsWordOf word.toList text.toList →
    Regex.engine.Takes (Predicate.patternOf true true (q.normal word)) Predicate.likeEscape

theorem eval_plain (plain : q.IsPlain) (known : ∀ c ∈ fields, (t.typeOf? c.name).isSome = true)
    (compiled : q.predicate text fields = some p) (taken : q.TakesWords text) (s : Scope) :
    t.eval s p =
      .ok (.ofTruth (searchTruth (fun w c => q.inCell s w c.name) (Text.words text) fields)) := by
  rw [← words_eq plain.parser]
  refine eval_predicate plain.matcher (fun w hw c hc => ?_) compiled
  rw [words_eq plain.parser, Text.mem_words_iff] at hw
  exact eval_matching_column plain (known c hc) (taken w hw)

theorem searchTruth_congr (test : String → String → Option Bool) {words words' : List String}
    {fields' : List Column} (hwords : ∀ w, w ∈ words' ↔ w ∈ words)
    (hfields : ∀ name, name ∈ fields'.map (·.name) ↔ name ∈ fields.map (·.name)) :
    searchTruth (fun w c => test w c.name) words' fields' =
      searchTruth (fun w c => test w c.name) words fields := by
  have byName (fields : List Column) (w : String) :
      fields.map (fun c => test w c.name) = (fields.map (·.name)).map (test w) := by
    rw [List.map_map]
    rfl
  have someColumn (w : String) : chainTruth true (fields'.map fun c => test w c.name) =
      chainTruth true (fields.map fun c => test w c.name) := by
    rw [byName, byName]
    exact chainTruth_congr fun b => by simp only [List.mem_map (f := test w), hfields]
  unfold searchTruth
  simp only [someColumn]
  exact chainTruth_congr fun b => by simp only [List.mem_map, hwords]

/-- Whether every word of a text is in the text of at least one searched cell. -/
def Finds (q : QuickFilter) (text : String) (fields : List Column) (s : Scope) : Prop :=
  ∀ word : String, Text.IsWordOf word.toList text.toList → ∃ c ∈ fields,
    s.cell c.name ≠ .null ∧
      (q.normal word).toList <:+: (q.normal (s.cell c.name).display).toList

theorem decides_predicate (plain : q.IsPlain)
    (known : ∀ c ∈ fields, (t.typeOf? c.name).isSome = true)
    (compiled : q.predicate text fields = some p) (taken : q.TakesWords text) (s : Scope) :
    t.Decides s p (q.Finds text fields s) := by
  refine ⟨_, eval_plain plain known compiled taken s, ?_⟩
  rw [searchTruth_eq_true_iff]
  simp only [Finds, inCell_eq_true_iff, Text.mem_words_iff]

theorem predicate_eq_none_iff_noWord (parser : q.parser = none) :
    q.predicate text fields = none ↔
      ∀ word : String, ¬ Text.IsWordOf word.toList text.toList := by
  rw [predicate_eq_none_iff, words_eq parser, List.eq_nil_iff_forall_not_mem]
  simp only [Text.mem_words_iff]

/-- Without columns no row passes, whatever the words are. -/
theorem test_nil (noMatcher : q.matcher = none) (compiled : q.predicate text [] = some p) :
    t.test s p = .ok false := by
  have searched : t.eval s p =
      .ok (.ofTruth (searchTruth (fun _ _ => none) (q.words text) [])) :=
    eval_predicate noMatcher (fun w _ c hc => absurd hc List.not_mem_nil) compiled
  have someWord : q.words text ≠ [] := by
    intro noWord
    rw [predicate_eq_none_iff.2 noWord] at compiled
    cases compiled
  obtain ⟨w, hw⟩ := List.exists_mem_of_ne_nil _ someWord
  rw [Table.test_of_truth searched, Except.ok.injEq, beq_eq_false_iff_ne]
  intro passes
  obtain ⟨c, hc, -⟩ := searchTruth_eq_true_iff.1 passes w hw
  cases hc

/--
Without hooks there is a predicate exactly if there is a word in the text, and without columns
no row passes it. If the engine takes the patterns of the words, it has a truth value on every
row, and a row passes exactly if every word is in the text of at least one of the searched cells.
Then a text with the same words, and columns with the same names, give the same value on every
row, in whatever order and however often they are named.
-/
theorem predicate_searches (plain : q.IsPlain)
    (known : ∀ c ∈ fields, (t.typeOf? c.name).isSome = true) (text : String) :
    (q.predicate text fields = none ↔
      ∀ word : String, ¬ Text.IsWordOf word.toList text.toList) ∧
    ∀ p, q.predicate text fields = some p →
      (fields = [] → ∀ s, t.test s p = .ok false) ∧
      (q.TakesWords text →
        (∀ s, t.Decides s p (q.Finds text fields s)) ∧
        ∀ (text' : String) (fields' : List Column),
          (∀ word : String, Text.IsWordOf word.toList text'.toList ↔
            Text.IsWordOf word.toList text.toList) →
          (∀ name, name ∈ fields'.map (·.name) ↔ name ∈ fields.map (·.name)) →
          ∃ p', q.predicate text' fields' = some p' ∧ ∀ s, t.eval s p' = t.eval s p) := by
  refine ⟨predicate_eq_none_iff_noWord plain.parser, fun p compiled => ⟨?_, fun taken =>
    ⟨decides_predicate plain known compiled taken, ?_⟩⟩⟩
  · rintro rfl s
    exact test_nil plain.matcher compiled
  · intro text' fields' sameWords sameFields
    have noWord : q.predicate text fields = none ↔ _ := predicate_eq_none_iff_noWord plain.parser
    have someWord : q.predicate text' fields' ≠ none := by
      rw [Ne, predicate_eq_none_iff_noWord plain.parser]
      simp only [sameWords]
      rw [← noWord, compiled]
      exact Option.some_ne_none p
    obtain ⟨p', hp'⟩ := Option.ne_none_iff_exists'.1 someWord
    have known' : ∀ c ∈ fields', (t.typeOf? c.name).isSome = true := by
      intro c hc
      obtain ⟨d, hd, same⟩ :=
        List.mem_map.1 ((sameFields c.name).1 (List.mem_map_of_mem hc))
      rw [← same]
      exact known d hd
    have wordsMatch : ∀ w, w ∈ Text.words text' ↔ w ∈ Text.words text := by
      simpa only [Text.mem_words_iff] using sameWords
    have taken' : q.TakesWords text' := fun word hword => taken word ((sameWords word).1 hword)
    refine ⟨p', hp', fun s => ?_⟩
    rw [eval_plain plain known' hp' taken', eval_plain plain known compiled taken,
      searchTruth_congr (q.inCell s) wordsMatch sameFields]

def orders : Table where
  name := "orders"
  columns := [⟨"customer", .text⟩, ⟨"pieces", .integer⟩]
  rows := [[("customer", .text "Bob & Co"), ("pieces", .int 125)],
    [("customer", .null), ("pieces", .int 12)]]

/-- The words of a customer and of a number of pieces. -/
theorem predicate_searches_orders :
    ∃ p, ({} : QuickFilter).predicate " BOB  12" orders.columns = some p ∧
      ({} : QuickFilter).TakesWords " BOB  12" ∧
      (∀ s, orders.Decides s p (({} : QuickFilter).Finds " BOB  12" orders.columns s)) ∧
      ∃ p', ({} : QuickFilter).predicate "12 BOB 12" orders.columns.reverse = some p' ∧
        ∀ s, orders.eval s p' = orders.eval s p := by
  have plain : ({} : QuickFilter).IsPlain := ⟨rfl, rfl, rfl⟩
  have known : ∀ c ∈ orders.columns, (orders.typeOf? c.name).isSome = true := by decide
  have split : Text.words " BOB  12" = ["BOB", "12"] := by cbv
  have split' : Text.words "12 BOB 12" = ["12", "BOB", "12"] := by cbv
  have sameWords : ∀ word : String, Text.IsWordOf word.toList "12 BOB 12".toList ↔
      Text.IsWordOf word.toList " BOB  12".toList := by
    intro word
    rw [← Text.mem_words_iff, ← Text.mem_words_iff, split, split']
    simp only [List.mem_cons, List.not_mem_nil, or_false]
    tauto
  have someWord : ({} : QuickFilter).predicate " BOB  12" orders.columns ≠ none := by
    rw [Ne, predicate_eq_none_iff, words_eq rfl, split]
    simp
  have taken : ({} : QuickFilter).TakesWords " BOB  12" := by
    intro word hword
    rw [← Text.mem_words_iff, split] at hword
    rcases List.mem_pair.1 hword with rfl | rfl <;>
      exact Like.takes_of_length_le (by decide +kernel)
  obtain ⟨p, hp⟩ := Option.ne_none_iff_exists'.1 someWord
  obtain ⟨decides, sameSearch⟩ := ((predicate_searches plain known " BOB  12").2 p hp).2 taken
  exact ⟨p, hp, taken, decides, sameSearch _ _ sameWords (by simp)⟩

def exactSearch : QuickFilter := { caseSensitive := true }

theorem exactSearch_predicate {word : String} (split : Text.words word = [word]) (c : Column) :
    exactSearch.predicate word [c] =
      some (Predicate.matching (exactSearch.column c) (.ofText word) true true false) := by
  have words : exactSearch.words word = [word] := (words_eq rfl word).trans split
  rw [predicate, words]
  rfl

theorem not_predicate_searches :
    exactSearch.IsPlain ∧ (∀ c ∈ orders.columns, (orders.typeOf? c.name).isSome = true) ∧
      ∃ p reason, exactSearch.predicate Predicate.longWord [⟨"customer", .text⟩] = some p ∧
        orders.eval (.row [("customer", .text "Bob & Co"), ("pieces", .int 125)]) p =
          .error (.evaluation (.pattern reason)) := by
  have split : Text.words Predicate.longWord = [Predicate.longWord] := by
    refine Text.words_of_solid (fun c hc => ?_) fun empty => ?_
    · rw [Predicate.mem_wordOfLength hc]
      decide
    · have length := Predicate.length_wordOfLength 400000
      rw [← Predicate.longWord, empty] at length
      cases length
  obtain ⟨reason, refused⟩ := Predicate.eval_matching_of_not_takes (t := orders)
    (s := .row [("customer", .text "Bob & Co"), ("pieces", .int 125)]) (e := .col "customer")
    rfl (Predicate.not_takes_longWord true true) false
  exact ⟨⟨rfl, rfl, rfl⟩, by decide, _, reason, exactSearch_predicate split _, refused⟩

end QuickFilter

end GridSql
