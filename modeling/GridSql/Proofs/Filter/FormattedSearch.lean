import GridSql.Proofs.Filter.Searching

/-!
# Searching formatted text

Where a formatter makes the text that is searched for, the pattern is put together while the
query runs, and what has been made is not escaped. So a percent sign, an underscore and a
backslash in it are read as the pattern has them, and only a text without them is looked for
as it is.
-/

namespace GridSql

/-! ## Patterns that are not escaped -/

namespace Like

/-- Whether a pattern gives a character another meaning than itself. -/
def IsSpecial (c : Char) : Prop :=
  c = '%' ∨ c = '_' ∨ c = Predicate.likeEscape

theorem escapeChars_of_plain {cs : List Char} (plain : ∀ c ∈ cs, ¬ IsSpecial c) :
    Predicate.escapeChars cs = cs := by
  induction cs with
  | nil => rfl
  | cons c cs ih =>
      obtain ⟨hc, hcs⟩ := List.forall_mem_cons.1 plain
      rw [escapeChars_cons_plain hc, ih hcs]

/-- A shortest text of a pattern, with a zero for each single character. -/
def shortest : List LikeItem → List Char
  | [] => []
  | .exactly c :: rest => c :: shortest rest
  | .anyOne :: rest => '0' :: shortest rest
  | .anyRun :: rest => shortest rest

theorem matches_shortest (pattern : List LikeItem) : Matches pattern (shortest pattern) := by
  induction pattern with
  | nil => rfl
  | cons item rest ih =>
      cases item with
      | exactly c => exact ⟨_, rfl, ih⟩
      | anyOne => exact ⟨'0', _, rfl, ih⟩
      | anyRun => exact ⟨[], _, rfl, ih⟩

theorem literal_of_shorter {xs cs : List Char} (shorter : xs.length < cs.length) :
    xs.length ≤ cs.length ∧ (xs = cs → ∀ c ∈ cs, ¬ IsSpecial c) :=
  ⟨shorter.le, fun same => absurd (congrArg List.length same) shorter.ne⟩

/--
A pattern is not longer than what it is written with, and the same only if nothing in it is
special: an escape or a run is left out, and no single character is an underscore.
-/
theorem shortest_unescaped (trailing : Bool) : ∀ cs : List Char,
    (shortest (items Predicate.likeEscape (cs ++ wild trailing))).length ≤ cs.length ∧
      (shortest (items Predicate.likeEscape (cs ++ wild trailing)) = cs →
        ∀ c ∈ cs, ¬ IsSpecial c)
  | [] => by
      cases trailing <;> simp [wild, items, shortest, Predicate.likeEscape]
  | c :: cs => by
      by_cases hescape : c = Predicate.likeEscape
      · subst hescape
        match cs with
        | [] => cases trailing <;> simp [wild, items, shortest, Predicate.likeEscape]
        | d :: cs =>
            -- An escape takes the next character with it, so the recursion skips both.
            obtain ⟨short, -⟩ := shortest_unescaped trailing cs
            rw [List.cons_append, List.cons_append, items_escaped, shortest]
            exact literal_of_shorter (Nat.succ_lt_succ (Nat.lt_succ_of_le short))
      · obtain ⟨short, literal⟩ := shortest_unescaped trailing cs
        rw [List.cons_append, items_cons hescape]
        unfold itemOf
        split
        · exact literal_of_shorter (Nat.lt_succ_of_le short)
        · next notRun =>
            split
            · next single =>
                refine ⟨by simpa [shortest] using short, fun same => ?_⟩
                rw [shortest, single] at same
                cases (List.cons.inj same).1
            · next notSingle =>
                refine ⟨by simpa [shortest] using short, fun same => ?_⟩
                rw [shortest] at same
                refine List.forall_mem_cons.2 ⟨?_, literal (List.cons.inj same).2⟩
                rintro (h | h | h)
                · exact notRun h
                · exact notSingle h
                · exact hescape h

end Like

/-! ## Functions of texts -/

inductive TextFunction where
  | upper
  | lower
  | trim
deriving DecidableEq

namespace TextFunction

def name : TextFunction → String
  | upper => "UPPER"
  | lower => "LOWER"
  | trim => "TRIM"

def apply : TextFunction → String → String
  | upper => Text.upper
  | lower => Text.lower
  | trim => Text.trim

def format (f : TextFunction) (e : Expr) : Expr :=
  .fn f.name [e]

variable {t : Table} {s : Scope} {f : TextFunction} {e : Expr} {v : Value}

theorem eval_format (he : t.eval s e = .ok v) :
    t.eval s (f.format e) = .ok (v.mapText f.apply) := by
  have noAggregate : Aggregate.ofName? f.name = none := by cases f <;> decide +kernel
  have capitals : Text.asciiUpper f.name = f.name := by cases f <;> decide +kernel
  have evaluated : t.eval s (f.format e) = Value.applyFunction f.name [v] := by
    simp [format, Expr.fn, Table.eval, Table.evalAll, noAggregate, capitals, he, bind, Except.bind]
  rw [evaluated]
  cases f <;> simp [Value.applyFunction, name, apply]

/-- The pattern for a formatted text is put together as it stands. -/
theorem eval_likePattern (word : String) (leading trailing : Bool) :
    t.eval s (Predicate.likePattern (f.format (.ofText word)) leading trailing) =
      .ok (.text ((if leading then "%" else "") ++ f.apply word ++
        (if trailing then "%" else ""))) := by
  have formatted : t.eval s (f.format (.ofText word)) = .ok (.text (f.apply word)) :=
    eval_format (v := .text word) rfl
  have noAggregate : Aggregate.ofName? "CONCAT" = none := by decide +kernel
  have capitals : Text.asciiUpper "CONCAT" = "CONCAT" := by decide +kernel
  have percent : t.eval s (.ofText "%") = .ok (.text "%") := rfl
  have joined : Predicate.likePattern (f.format (.ofText word)) leading trailing =
      .fn "CONCAT" ((if leading then [.ofText "%"] else []) ++ [f.format (.ofText word)] ++
        if trailing then [.ofText "%"] else []) := rfl
  rw [joined]
  cases leading <;> cases trailing <;>
    simp [Expr.fn, Table.eval, Table.evalAll, noAggregate, capitals, formatted, percent, bind,
      Except.bind, Value.applyFunction, Value.isNull, Value.display, String.join]

end TextFunction

/-! ## Operators that search -/

inductive TextSearch where
  | contains
  | notContains
  | startsWith
  | endsWith
deriving DecidableEq

namespace TextSearch

def option : TextSearch → FilterOption
  | contains => .contains
  | notContains => .notContains
  | startsWith => .startsWith
  | endsWith => .endsWith

def leading : TextSearch → Bool
  | startsWith => false
  | _ => true

def trailing : TextSearch → Bool
  | endsWith => false
  | _ => true

def negated : TextSearch → Bool
  | notContains => true
  | _ => false

/-- Whether a text stands where the operator, without its negation, looks for it. -/
def Stands (op : TextSearch) (word shown : String) : Prop :=
  match op with
  | contains | notContains => word.toList <:+: shown.toList
  | startsWith => word.toList <+: shown.toList
  | endsWith => word.toList <:+ shown.toList

/-- What an operator says of a text that is looked for as it is. -/
def Finds (op : TextSearch) (word shown : String) : Prop :=
  if op.negated then ¬ op.Stands word shown else op.Stands word shown

/-- The pattern with a text that is not escaped. -/
def pattern (op : TextSearch) (word : String) : String :=
  (if op.leading then "%" else "") ++ word ++ (if op.trailing then "%" else "")

/-- Whether a text can be cut into pieces for the pattern. -/
def Fits (op : TextSearch) (word shown : String) : Prop :=
  Like.Matches (Like.items Predicate.likeEscape (op.pattern word).toList) shown.toList

instance (op : TextSearch) (word shown : String) : Decidable (op.Fits word shown) :=
  inferInstanceAs (Decidable (Like.Matches _ _))

/-- What an operator says of a text that is read as a part of the pattern. -/
def Likes (op : TextSearch) (word shown : String) : Prop :=
  if op.negated then ¬ op.Fits word shown else op.Fits word shown

variable {op : TextSearch} {word shown : String}

theorem likes_iff : op.Likes word shown ↔
    (decide (op.Fits word shown) != op.negated) = true := by
  rw [Likes]
  cases op.negated <;> simp

def Takes (op : TextSearch) (word : String) : Prop :=
  Regex.engine.Takes (op.pattern word) Predicate.likeEscape

theorem likes_iff_finds_iff :
    (op.Likes word shown ↔ op.Finds word shown) ↔ (op.Fits word shown ↔ op.Stands word shown) := by
  unfold Likes Finds
  cases op.negated <;> simp [not_iff_not]

theorem pattern_toList :
    (op.pattern word).toList =
      Like.wild op.leading ++ (word.toList ++ Like.wild op.trailing) := by
  cases op <;> simp [pattern, Like.wild, leading, trailing]

/-- A text without special characters is looked for as it is. -/
theorem fits_iff_stands (plain : ∀ c ∈ word.toList, ¬ Like.IsSpecial c) (shown : String) :
    op.Fits word shown ↔ op.Stands word shown := by
  have escaped : Predicate.escapeLike word = word := by
    rw [Predicate.escapeLike, Like.escapeChars_of_plain plain, String.ofList_toList]
  have contains_iff := Predicate.matched_contains_iff word shown
  have startsWith_iff := Predicate.matched_startsWith_iff word shown
  have endsWith_iff := Predicate.matched_endsWith_iff word shown
  rw [Predicate.Matched, Predicate.patternOf, escaped] at contains_iff startsWith_iff endsWith_iff
  cases op with
  | contains => exact contains_iff
  | notContains => exact contains_iff
  | startsWith => exact startsWith_iff
  | endsWith => exact endsWith_iff

theorem Stands.isInfix (h : op.Stands word shown) : word.toList <:+: shown.toList := by
  cases op with
  | contains => exact h
  | notContains => exact h
  | startsWith => exact List.IsPrefix.isInfix h
  | endsWith => exact List.IsSuffix.isInfix h

/-- A shortest text of what is looked for fits the pattern, with nothing around it. -/
theorem fits_shortest : op.Fits word (String.ofList (Like.shortest
    (Like.items Predicate.likeEscape (word.toList ++ Like.wild op.trailing)))) := by
  have inner := Like.matches_shortest
    (Like.items Predicate.likeEscape (word.toList ++ Like.wild op.trailing))
  rw [Fits, pattern_toList, Like.items_wild, String.toList_ofList]
  cases op.leading with
  | false => exact inner
  | true => exact ⟨[], _, rfl, inner⟩

/-- Exactly the texts without special characters are looked for as they are in every text. -/
theorem forall_likes_iff_finds :
    (∀ shown, op.Likes word shown ↔ op.Finds word shown) ↔
      ∀ c ∈ word.toList, ¬ Like.IsSpecial c := by
  simp only [likes_iff_finds_iff]
  refine ⟨fun literal => ?_, fits_iff_stands⟩
  obtain ⟨short, plain⟩ := Like.shortest_unescaped op.trailing word.toList
  have inside := ((literal _).1 fits_shortest).isInfix
  rw [String.toList_ofList] at inside
  exact plain (inside.eq_of_length_le short).symm

end TextSearch

/-! ## Predicates under a formatter -/

section

variable {t : Table} {s : Scope} {f : TextFunction} {form : TextForm} {cell v : Value} {e : Expr}

theorem TextFunction.eval_matching (formatter : form.formatter = some f.format)
    (he : t.eval s e = .ok v) (shows_ : cell.Shows id v) (op : TextSearch) {word : String}
    (taken : op.Takes (f.apply word)) :
    t.eval s (Predicate.matching (form.ofExpr e) (form.ofText word) op.leading op.trailing
        op.negated) =
      .ok (.ofTruth (cell.tested fun shown =>
        decide (op.Fits (f.apply word) (f.apply shown)) != op.negated)) := by
  have value : form.ofExpr e = f.format e := by rw [TextForm.ofExpr, formatter]
  have wanted : form.ofText word = f.format (.ofText word) := by rw [TextForm.ofText, formatter]
  rw [value, wanted]
  exact Table.eval_like_of_shows (eval_format he) (shows_.mapText f.apply)
    (eval_likePattern word op.leading op.trailing) taken op.negated

theorem Predicate.text_search (target : FilterTarget) {rules : TextRules}
    (noMatcher : rules.matcher = none) (op : TextSearch) (word : String) :
    Predicate.text target op.option (some word) rules =
      .ok (Predicate.matching (rules.ofExpr target.textExpr)
        (rules.ofText (if rules.trimInput then Text.trim word else word))
        op.leading op.trailing op.negated) := by
  cases op <;> simp only [Predicate.text, noMatcher, TextSearch.option] <;> rfl

theorem TextRules.decides_formatted {rules : TextRules} {target : FilterTarget} {p : Expr}
    (formatter : rules.formatter = some f.format) (noMatcher : rules.matcher = none)
    (hcell : t.eval s target.expr = .ok cell) {op : TextSearch} {word : String}
    (compiled : Predicate.text target op.option (some word) rules = .ok p)
    (taken : op.Takes (f.apply (if rules.trimInput then Text.trim word else word))) :
    t.Decides s p (cell ≠ .null ∧
      op.Likes (f.apply (if rules.trimInput then Text.trim word else word))
        (f.apply cell.display)) := by
  rw [Predicate.text_search target noMatcher] at compiled
  cases compiled
  obtain ⟨v, hv, shows_⟩ := target.exists_eval_textExpr hcell
  refine ⟨_, TextFunction.eval_matching formatter hv shows_ op taken, ?_⟩
  rw [Value.tested_eq_true_iff, TextSearch.likes_iff]

theorem QuickFilter.decides_formatted {q : QuickFilter} {text : String} {fields : List Column}
    {p : Expr} (formatter : q.formatter = some f.format) (noMatcher : q.matcher = none)
    (known : ∀ c ∈ fields, (t.typeOf? c.name).isSome = true)
    (compiled : q.predicate text fields = some p)
    (taken : ∀ word ∈ q.words text, TextSearch.contains.Takes (f.apply word)) :
    t.Decides s p (∀ word ∈ q.words text, ∃ c ∈ fields, s.cell c.name ≠ .null ∧
      TextSearch.contains.Likes (f.apply word) (f.apply (s.cell c.name).display)) := by
  have searched (word : String) (hword : word ∈ q.words text) (c : Column) (hc : c ∈ fields) :
      t.eval s (Predicate.matching (q.column c) (q.ofText word) true true false) =
        .ok (.ofTruth ((s.cell c.name).tested fun shown =>
          decide (TextSearch.contains.Fits (f.apply word) (f.apply shown)) != false)) := by
    have hcell : t.eval s (.col c.name) = .ok (s.cell c.name) := Table.eval_col (known c hc)
    obtain ⟨v, hv, shows_⟩ :=
      FilterTarget.exists_eval_textExpr ⟨c.name, .col c.name, c.type⟩ hcell
    exact TextFunction.eval_matching formatter hv shows_ .contains (taken word hword)
  refine ⟨_, eval_predicate noMatcher searched compiled, ?_⟩
  rw [searchTruth_eq_true_iff]
  simp only [Value.tested_eq_true_iff, TextSearch.likes_iff, TextSearch.negated]

end

/--
Under a formatter, a text filter that searches and the quick filter read the formatted text as
a part of the pattern: this is what they decide of every cell that is not null, if the engine
takes the pattern. It is the same as looking for the text as it is exactly if no percent sign,
underscore or backslash is in it.
-/
theorem TextFunction.search_formatted (f : TextFunction) :
    (∀ (rules : TextRules) (target : FilterTarget) (op : TextSearch) (word : String),
      rules.formatter = some f.format → rules.matcher = none →
        ∃ p, Predicate.text target op.option (some word) rules = .ok p ∧
          ∀ (t : Table) (s : Scope) (cell : Value), t.eval s target.expr = .ok cell →
            op.Takes (f.apply (if rules.trimInput then Text.trim word else word)) →
            t.Decides s p (cell ≠ .null ∧
              op.Likes (f.apply (if rules.trimInput then Text.trim word else word))
                (f.apply cell.display))) ∧
    (∀ (q : QuickFilter) (t : Table) (text : String) (fields : List Column) (p : Expr),
      q.formatter = some f.format → q.matcher = none →
        (∀ c ∈ fields, (t.typeOf? c.name).isSome = true) → q.predicate text fields = some p →
        (∀ word ∈ q.words text, TextSearch.contains.Takes (f.apply word)) →
          ∀ s, t.Decides s p (∀ word ∈ q.words text, ∃ c ∈ fields, s.cell c.name ≠ .null ∧
            TextSearch.contains.Likes (f.apply word) (f.apply (s.cell c.name).display))) ∧
    ∀ (op : TextSearch) (word : String),
      (∀ shown, op.Likes word shown ↔ op.Finds word shown) ↔
        ∀ c ∈ word.toList, ¬ Like.IsSpecial c :=
  ⟨fun _ target op word formatter noMatcher => ⟨_, Predicate.text_search target noMatcher op word,
      fun _ _ _ hcell => TextRules.decides_formatted formatter noMatcher hcell
        (Predicate.text_search target noMatcher op word)⟩,
    fun _ _ _ _ _ formatter noMatcher known compiled taken _ =>
      QuickFilter.decides_formatted formatter noMatcher known compiled taken,
    fun _ _ => TextSearch.forall_likes_iff_finds⟩

def notes : Table where
  name := "notes"
  columns := [⟨"note", .text⟩]
  rows := [[("note", .text "50% off")], [("note", .text "500 left")]]

def capitalNotes : TextRules :=
  { formatter := some TextFunction.upper.format }

def capitalSearch : QuickFilter :=
  { formatter := some TextFunction.upper.format }

/-- The percent sign of the filter text stands for any run of characters. -/
theorem TextFunction.search_formatted_notes :
    ∃ p, Predicate.text ⟨"note", .col "note", .text⟩ TextSearch.contains.option (some "50%")
        capitalNotes = .ok p ∧
      TextSearch.contains.Takes (Text.upper "50%") ∧
      notes.Decides (.row [("note", .text "500 left")]) p ((Value.text "500 left") ≠ .null ∧
        TextSearch.contains.Likes (Text.upper "50%") (Text.upper "500 left")) ∧
      ∃ quick, capitalSearch.predicate "50% off" notes.columns = some quick ∧
        (∀ word ∈ capitalSearch.words "50% off", TextSearch.contains.Takes (Text.upper word)) ∧
        ∀ s, notes.Decides s quick (∀ word ∈ capitalSearch.words "50% off",
          ∃ c ∈ notes.columns, s.cell c.name ≠ .null ∧
            TextSearch.contains.Likes (Text.upper word)
              (Text.upper (s.cell c.name).display)) := by
  obtain ⟨text, quick, -⟩ := TextFunction.upper.search_formatted
  obtain ⟨p, compiled, decides⟩ :=
    text capitalNotes ⟨"note", .col "note", .text⟩ .contains "50%" rfl rfl
  have known : ∀ c ∈ notes.columns, (notes.typeOf? c.name).isSome = true := by decide
  have taken : TextSearch.contains.Takes (Text.upper "50%") :=
    Like.takes_of_length_le (by decide +kernel)
  have words : capitalSearch.words "50% off" = ["50%", "off"] := by decide +kernel
  have allTaken : ∀ word ∈ capitalSearch.words "50% off",
      TextSearch.contains.Takes (Text.upper word) := by
    rw [words]
    exact List.forall_mem_cons.2 ⟨taken, List.forall_mem_singleton.2
      (Like.takes_of_length_le (by decide +kernel))⟩
  exact ⟨p, compiled, taken, decides notes _ _ rfl taken, _, rfl, allTaken,
    quick capitalSearch notes "50% off" notes.columns _ rfl rfl known rfl allTaken⟩

/-- What is left passes a filter on what has a percent sign, and the quick filter alike. -/
theorem TextFunction.not_search_formatted :
    (∃ p, Predicate.text ⟨"note", .col "note", .text⟩ .contains (some "50%") capitalNotes =
        .ok p ∧ notes.test (.row [("note", .text "500 left")]) p = .ok true) ∧
      (∃ p, capitalSearch.predicate "50%" notes.columns = some p ∧
        notes.test (.row [("note", .text "500 left")]) p = .ok true) ∧
      ¬ TextSearch.contains.Finds (Text.upper "50%") (Text.upper "500 left") := by
  have word : Text.upper "50%" = "50%" := by decide +kernel
  have shown : Text.upper "500 left" = "500 LEFT" := by decide +kernel
  have words : capitalSearch.words "50%" = ["50%"] := by decide +kernel
  have likes : TextSearch.contains.Likes (Text.upper "50%") (Text.upper "500 left") := by
    rw [word, shown, TextSearch.likes_iff]
    decide +kernel
  have taken : TextSearch.contains.Takes (Text.upper "50%") :=
    Like.takes_of_length_le (by decide +kernel)
  have known : ∀ c ∈ notes.columns, (notes.typeOf? c.name).isSome = true := by decide
  obtain ⟨p, hp⟩ : ∃ p, Predicate.text ⟨"note", .col "note", .text⟩ TextSearch.contains.option
      (some "50%") capitalNotes = .ok p := ⟨_, rfl⟩
  obtain ⟨quick, hquick⟩ : ∃ quick, capitalSearch.predicate "50%" notes.columns = some quick :=
    ⟨_, rfl⟩
  have filters : notes.Decides (.row [("note", .text "500 left")]) p _ :=
    TextRules.decides_formatted (f := .upper) rfl rfl rfl hp taken
  have searches : notes.Decides (.row [("note", .text "500 left")]) quick _ :=
    QuickFilter.decides_formatted (f := .upper) rfl rfl known hquick (by
      rw [words]
      exact List.forall_mem_singleton.2 taken)
  refine ⟨⟨p, hp, filters.passes ⟨Value.noConfusion, likes⟩⟩,
    ⟨quick, hquick, searches.passes ?_⟩, ?_⟩
  · rw [words]
    intro w hw
    rw [List.mem_singleton.1 hw]
    exact ⟨⟨"note", .text⟩, List.mem_singleton_self _, Value.noConfusion, likes⟩
  · rw [word, shown]
    change ¬ "50%".toList <:+: "500 LEFT".toList
    decide

end GridSql
