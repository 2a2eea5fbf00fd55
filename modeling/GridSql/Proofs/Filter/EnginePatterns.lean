import GridSql.Proofs.Filter.LiteralPatterns
import GridSql.Proofs.Sql.Quoting

/-!
# Patterns in the engines

All engines read a percent sign of a pattern as any run of characters and an underscore as any
one character, unless the escape character stands before it. SQL Server also reads an opening
bracket, as the beginning of a set of characters, and this one is not escaped in the pattern of
a filter text. So the pattern is literal, and finds what it finds in memory, exactly if the
engine is another one or no opening bracket is in the text.
-/

namespace GridSql

/-- A character of a pattern, and whether the escape character stands before it. -/
structure PatternChar where
  char : Char
  escaped : Bool
deriving DecidableEq, Repr

namespace PatternChar

def item (p : PatternChar) : LikeItem :=
  if p.escaped then .exactly p.char else Like.itemOf p.char

/-- Whether the character is no percent sign that stands for a run. -/
def isSingle (p : PatternChar) : Bool :=
  p ≠ ⟨'%', false⟩

end PatternChar

namespace Like

def patternChars (escape : Char) : List Char → Option (List PatternChar)
  | [] => some []
  | [c] => if c = escape then none else some [⟨c, false⟩]
  | c :: next :: rest =>
      if c = escape then (patternChars escape rest).map (⟨next, true⟩ :: ·)
      else (patternChars escape (next :: rest)).map (⟨c, false⟩ :: ·)

/-- Whether a set has a character: by itself, or in a range between two that a hyphen joins. -/
def inMembers (c : Char) : List PatternChar → Bool
  | [] => false
  | low :: ⟨'-', false⟩ :: high :: rest => (low.char ≤ c && c ≤ high.char) || inMembers c rest
  | p :: rest => c == p.char || inMembers c rest

/-- Whether a set between brackets has a character; a caret in front excludes the members. -/
def inSet (c : Char) : List PatternChar → Bool
  | ⟨'^', false⟩ :: members => !inMembers c members
  | members => inMembers c members

end Like

namespace Dialect

def wildcards : Dialect → List Char
  | tSql => ['%', '_', '[']
  | duckDb | mySql | postgres => ['%', '_']

def IsActive (d : Dialect) (p : PatternChar) : Prop :=
  p.escaped = false ∧ p.char ∈ d.wildcards

/--
Whether an engine finds a text to be like a pattern. A bracket that is not closed is no
beginning of a set, and no text is like it.
-/
inductive IsLike (d : Dialect) : List PatternChar → List Char → Prop
  | nil : IsLike d [] []
  | self {p : PatternChar} {rest : List PatternChar} {cs : List Char} (inactive : ¬ d.IsActive p)
      (h : IsLike d rest cs) : IsLike d (p :: rest) (p.char :: cs)
  | one {rest : List PatternChar} {cs : List Char} (c : Char) (h : IsLike d rest cs) :
      IsLike d (⟨'_', false⟩ :: rest) (c :: cs)
  | run {rest : List PatternChar} {cs : List Char} (skipped : List Char) (h : IsLike d rest cs) :
      IsLike d (⟨'%', false⟩ :: rest) (skipped ++ cs)
  | set {members rest : List PatternChar} {c : Char} {cs : List Char} (brackets : d = tSql)
      (first : ⟨']', false⟩ ∉ members) (hc : Like.inSet c members = true)
      (h : IsLike d rest cs) :
      IsLike d (⟨'[', false⟩ :: (members ++ ⟨']', false⟩ :: rest)) (c :: cs)

/-- Whether only percent signs at the ends that are open have another meaning. -/
def OnlyAdded (d : Dialect) (leading trailing : Bool) (chars : List PatternChar) : Prop :=
  ∀ front p back, chars = front ++ p :: back → d.IsActive p →
    p.char = '%' ∧ (leading = true ∧ front = [] ∨ trailing = true ∧ back = [])

variable {d : Dialect} {chars : List PatternChar} {p : PatternChar} {cs : List Char}

/-! ## Patterns without sets -/

theorem isActive_iff :
    d.IsActive p ↔ p.escaped = false ∧ (p.char = '%' ∨ p.char = '_' ∨ d = tSql ∧ p.char = '[') := by
  cases d <;> simp [IsActive, wildcards]

variable {rest : List PatternChar}

theorem isLike_cons_iff (inactive : ¬ d.IsActive p) :
    d.IsLike (p :: rest) cs ↔ ∃ tail, cs = p.char :: tail ∧ d.IsLike rest tail := by
  constructor
  · intro h
    cases h with
    | self _ h => exact ⟨_, rfl, h⟩
    | one => exact absurd (isActive_iff.2 (by simp)) inactive
    | run => exact absurd (isActive_iff.2 (by simp)) inactive
    | set brackets => exact absurd (isActive_iff.2 (by simp [brackets])) inactive
  · rintro ⟨tail, rfl, h⟩
    exact .self inactive h

theorem isLike_one_iff :
    d.IsLike (⟨'_', false⟩ :: rest) cs ↔ ∃ c tail, cs = c :: tail ∧ d.IsLike rest tail := by
  constructor
  · intro h
    cases h with
    | self inactive => exact absurd (isActive_iff.2 (by simp)) inactive
    | one c h => exact ⟨c, _, rfl, h⟩
  · rintro ⟨c, tail, rfl, h⟩
    exact .one c h

theorem isLike_run_iff :
    d.IsLike (⟨'%', false⟩ :: rest) cs ↔
      ∃ skipped tail, cs = skipped ++ tail ∧ d.IsLike rest tail := by
  constructor
  · intro h
    cases h with
    | self inactive => exact absurd (isActive_iff.2 (by simp)) inactive
    | run skipped h => exact ⟨skipped, _, rfl, h⟩
  · rintro ⟨skipped, tail, rfl, h⟩
    exact .run skipped h

theorem item_of_not_isActive (inactive : ¬ d.IsActive p) : p.item = .exactly p.char := by
  rw [isActive_iff] at inactive
  unfold PatternChar.item
  split
  · rfl
  · next plain =>
      simp only [Bool.not_eq_true] at plain
      simp only [plain, true_and, not_or] at inactive
      rw [Like.itemOf, if_neg inactive.1, if_neg inactive.2.1]

/-- Without sets all engines read a pattern as it is read in memory. -/
theorem isLike_iff_matches (noSet : d = tSql → ⟨'[', false⟩ ∉ chars) :
    d.IsLike chars cs ↔ Like.Matches (chars.map PatternChar.item) cs := by
  induction chars generalizing cs with
  | nil =>
      constructor
      · rintro ⟨⟩
        rfl
      · rintro rfl
        exact .nil
  | cons p rest ih =>
      have behind {tail : List Char} :
          d.IsLike rest tail ↔ Like.Matches (rest.map PatternChar.item) tail :=
        ih fun brackets hmem => noSet brackets (List.mem_cons_of_mem _ hmem)
      by_cases active : d.IsActive p
      · obtain ⟨plain, hc⟩ := isActive_iff.1 active
        obtain ⟨c, escaped⟩ := p
        cases plain
        rcases hc with rfl | rfl | ⟨brackets, rfl⟩
        · rw [isLike_run_iff]
          simp only [behind]
          exact Iff.rfl
        · rw [isLike_one_iff]
          simp only [behind]
          exact Iff.rfl
        · exact absurd List.mem_cons_self (noSet brackets)
      · rw [isLike_cons_iff active, List.map_cons, item_of_not_isActive active]
        simp only [behind]
        exact Iff.rfl

end Dialect

/-! ## The pattern of a filter text -/

namespace Like

variable {escape c : Char} {cs : List Char} {chars : List PatternChar}

theorem patternChars_cons (hc : c ≠ escape) (cs : List Char) :
    patternChars escape (c :: cs) = (patternChars escape cs).map (⟨c, false⟩ :: ·) := by
  cases cs with
  | nil => simp [patternChars, hc]
  | cons next rest => rw [patternChars, if_neg hc]

theorem patternChars_escaped (escape c : Char) (cs : List Char) :
    patternChars escape (escape :: c :: cs) =
      (patternChars escape cs).map (⟨c, true⟩ :: ·) := by
  rw [patternChars, if_pos rfl]

theorem items_eq_map (h : patternChars escape cs = some chars) :
    items escape cs = chars.map PatternChar.item := by
  induction cs using patternChars.induct escape generalizing chars with
  | case1 =>
      cases h
      rfl
  | case2 => simp [patternChars] at h
  | case3 c hc =>
      rw [patternChars, if_neg hc] at h
      cases h
      rw [items_cons hc]
      rfl
  | case4 next rest ih =>
      rw [patternChars_escaped] at h
      obtain ⟨others, hothers, rfl⟩ := Option.map_eq_some_iff.1 h
      rw [items_escaped, ih hothers]
      rfl
  | case5 c next rest hc ih =>
      rw [patternChars_cons hc] at h
      obtain ⟨others, hothers, rfl⟩ := Option.map_eq_some_iff.1 h
      rw [items_cons hc, ih hothers]
      rfl

def ownChar (c : Char) : PatternChar :=
  ⟨c, c = '%' ∨ c = '_' ∨ c = Predicate.likeEscape⟩

def ownChars (leading trailing : Bool) (word : List Char) : List PatternChar :=
  (wild leading).map (⟨·, false⟩) ++ (word.map ownChar ++ (wild trailing).map (⟨·, false⟩))

theorem patternChars_wild (wanted : Bool) (cs : List Char) :
    patternChars Predicate.likeEscape (wild wanted ++ cs) =
      (patternChars Predicate.likeEscape cs).map ((wild wanted).map (⟨·, false⟩) ++ ·) := by
  cases wanted with
  | false => simp [wild]
  | true => exact patternChars_cons (by decide) cs

theorem patternChars_escapeChars (cs rest : List Char) :
    patternChars Predicate.likeEscape (Predicate.escapeChars cs ++ rest) =
      (patternChars Predicate.likeEscape rest).map (cs.map ownChar ++ ·) := by
  induction cs with
  | nil => simp [Predicate.escapeChars]
  | cons c cs ih =>
      by_cases hc : c = '%' ∨ c = '_' ∨ c = Predicate.likeEscape
      · rw [escapeChars_cons_special hc, List.cons_append, List.cons_append, patternChars_escaped,
          ih, Option.map_map]
        simp [Function.comp_def, ownChar, hc]
      · rw [escapeChars_cons_plain hc, List.cons_append,
          patternChars_cons (not_or.1 (not_or.1 hc).2).2, ih, Option.map_map]
        simp [Function.comp_def, ownChar, hc]

theorem patternChars_patternOf (leading trailing : Bool) (word : String) :
    patternChars Predicate.likeEscape (Predicate.patternOf leading trailing word).toList =
      some (ownChars leading trailing word.toList) := by
  have chars : (Predicate.patternOf leading trailing word).toList =
      wild leading ++ (Predicate.escapeChars word.toList ++ (wild trailing ++ [])) := by
    cases leading <;> cases trailing <;> simp [Predicate.patternOf, Predicate.escapeLike, wild]
  rw [chars, patternChars_wild, patternChars_escapeChars, patternChars_wild]
  simp [patternChars, ownChars]

variable {leading trailing : Bool} {word : List Char}

theorem mem_ownChars_opening_iff :
    ⟨'[', false⟩ ∈ ownChars leading trailing word ↔ '[' ∈ word := by
  have wilds (wanted : Bool) :
      ⟨'[', false⟩ ∉ (wild wanted).map fun c => PatternChar.mk c false := by
    cases wanted <;> simp [wild]
  have own : ⟨'[', false⟩ ∈ word.map ownChar ↔ '[' ∈ word := by
    simp [ownChar, Predicate.likeEscape]
  rw [ownChars, List.mem_append, List.mem_append, own]
  simp [wilds]

/-- Each character of the text counts, and the percent signs around it do not. -/
theorem countP_ownChars :
    (ownChars leading trailing word).countP PatternChar.isSingle = word.length := by
  have wilds (wanted : Bool) :
      ((wild wanted).map fun c => PatternChar.mk c false).countP PatternChar.isSingle = 0 := by
    cases wanted <;> rfl
  have own : (word.map ownChar).countP PatternChar.isSingle = (word.map ownChar).length := by
    refine List.countP_eq_length.2 fun p hp => ?_
    obtain ⟨c, -, rfl⟩ := List.mem_map.1 hp
    by_cases hc : c = '%' <;> simp [PatternChar.isSingle, ownChar, hc]
  rw [ownChars, List.countP_append, List.countP_append, wilds, wilds, own, List.length_map]
  omega

end Like

namespace Dialect

variable {d : Dialect} {leading trailing : Bool} {word : List Char} {chars : List PatternChar}
  {cs : List Char}

/-- No character of a text is active in its pattern, but an opening bracket of SQL Server. -/
theorem isActive_ownChar_iff {c : Char} : d.IsActive (Like.ownChar c) ↔ d = tSql ∧ c = '[' := by
  rw [isActive_iff]
  constructor
  · rintro ⟨plain, hc⟩
    simp only [Like.ownChar, decide_eq_false_iff_not, not_or] at plain
    exact (hc.resolve_left plain.1).resolve_left plain.2.1
  · rintro ⟨brackets, rfl⟩
    exact ⟨by decide, .inr (.inr ⟨brackets, rfl⟩)⟩

theorem exists_of_isActive {inactive last front back : List PatternChar} {p : PatternChar}
    (h : ∀ q ∈ inactive, ¬ d.IsActive q) (active : d.IsActive p)
    (split : inactive ++ last = front ++ p :: back) :
    ∃ middle, last = middle ++ p :: back := by
  rcases List.append_eq_append_iff.1 split with ⟨middle, -, heq⟩ | ⟨middle, heq, hback⟩
  · exact ⟨middle, heq⟩
  · cases middle with
    | nil => exact ⟨[], hback.symm⟩
    | cons q middle =>
        cases hback
        exact absurd active (h p (by simp [heq]))

theorem onlyAdded_iff :
    d.OnlyAdded leading trailing (Like.ownChars leading trailing word) ↔
      ¬ (d = tSql ∧ '[' ∈ word) := by
  constructor
  · rintro h ⟨brackets, hmem⟩
    have opening : ⟨'[', false⟩ ∈ Like.ownChars leading trailing word :=
      Like.mem_ownChars_opening_iff.2 hmem
    obtain ⟨front, back, split⟩ := List.append_of_mem opening
    exact absurd (h _ _ _ split (isActive_iff.2 (by simp [brackets]))).1 (by simp)
  · intro noSet front p back split active
    have inactive : ∀ q ∈ word.map Like.ownChar, ¬ d.IsActive q := by
      intro q hq
      obtain ⟨c, hc, rfl⟩ := List.mem_map.1 hq
      rw [isActive_ownChar_iff]
      rintro ⟨brackets, rfl⟩
      exact noSet ⟨brackets, hc⟩
    have behind {front : List PatternChar} (split : word.map Like.ownChar ++
        (Like.wild trailing).map (⟨·, false⟩) = front ++ p :: back) :
        p.char = '%' ∧ trailing = true ∧ back = [] := by
      obtain ⟨middle, last⟩ := exists_of_isActive inactive active split
      cases trailing with
      | false => simp [Like.wild] at last
      | true =>
          cases middle with
          | nil =>
              cases last
              exact ⟨rfl, rfl, rfl⟩
          | cons q middle => simp [Like.wild] at last
    rw [Like.ownChars] at split
    cases leading with
    | false =>
        obtain ⟨percent, last⟩ := behind split
        exact ⟨percent, .inr last⟩
    | true =>
        cases front with
        | nil =>
            cases split
            exact ⟨rfl, .inl ⟨rfl, rfl⟩⟩
        | cons first front =>
            obtain ⟨percent, last⟩ := behind (List.cons.inj split).2
            exact ⟨percent, .inr last⟩

/-- Some text like a pattern is no longer than it has to be, and shorter if there is a set. -/
theorem IsLike.exists_short (h : d.IsLike chars cs) :
    ∃ short, d.IsLike chars short ∧ short.length ≤ chars.countP PatternChar.isSingle ∧
      (d = tSql → ⟨'[', false⟩ ∈ chars → short.length < chars.countP PatternChar.isSingle) := by
  induction h with
  | nil => exact ⟨[], .nil, le_rfl, by simp⟩
  | @self p rest cs inactive h ih =>
      obtain ⟨short, hshort, le, lt⟩ := ih
      have single : p.isSingle = true := by
        refine decide_eq_true fun percent => inactive (isActive_iff.2 ?_)
        simp [percent]
      rw [List.countP_cons_of_pos single]
      refine ⟨p.char :: short, .self inactive hshort, Nat.succ_le_succ le,
        fun brackets hmem => ?_⟩
      rcases List.mem_cons.1 hmem with rfl | hmem
      · exact absurd (isActive_iff.2 (by simp [brackets])) inactive
      · exact Nat.succ_lt_succ (lt brackets hmem)
  | one c h ih =>
      obtain ⟨short, hshort, le, lt⟩ := ih
      rw [List.countP_cons_of_pos rfl]
      refine ⟨c :: short, .one c hshort, Nat.succ_le_succ le, fun brackets hmem => ?_⟩
      exact Nat.succ_lt_succ (lt brackets (by simpa using hmem))
  | run skipped h ih =>
      obtain ⟨short, hshort, le, lt⟩ := ih
      rw [List.countP_cons_of_neg (by decide)]
      exact ⟨short, .run [] hshort, le, fun brackets hmem => lt brackets (by simpa using hmem)⟩
  | @set members rest c cs brackets first hc h ih =>
      obtain ⟨short, hshort, le, -⟩ := ih
      -- The brackets are two characters of the pattern, and the set is one of the text.
      have longer : (c :: short).length <
          (⟨'[', false⟩ :: (members ++ ⟨']', false⟩ :: rest)).countP PatternChar.isSingle := by
        rw [List.countP_cons_of_pos rfl, List.countP_append, List.countP_cons_of_pos rfl,
          List.length_cons]
        omega
      exact ⟨c :: short, .set brackets first hc hshort, longer.le, fun _ _ => longer⟩

end Dialect

/-! ## Literal patterns in the engines -/

namespace Predicate

variable {d : Dialect} {leading trailing : Bool} {word : String}

def likeTokens (pattern : String) (escape : Char) : List Token :=
  .keyword .like :: .space :: .string pattern :: Token.infixWord .escape ++
    [.string (String.singleton escape)]

theorem exists_tokens_matching (d : Dialect) (e : Expr) (negated : Bool) :
    ∃ front, (matching e (.ofText word) leading trailing negated).tokens d =
      front ++ likeTokens (patternOf leading trailing word) likeEscape := by
  refine ⟨Token.asSubject e (e.tokens d) ++ .space :: Token.negation negated, ?_⟩
  have literal : Token.asSubject (.ofText (patternOf leading trailing word))
      ((Expr.ofText (patternOf leading trailing word)).tokens d) =
        [.string (patternOf leading trailing word)] := rfl
  rw [matching, likePattern_ofText, Expr.tokens, literal]
  simp [likeTokens]

/-- An engine reads the pattern and the escape character as they were written. -/
theorem scan_likeTokens (d : Dialect) (pattern : String) (escape : Char) :
    d.scan (Token.serializeAll d (likeTokens pattern escape)).toList =
      some ("LIKE ".toList.map .mark ++ .text (d.marksText pattern) pattern ::
        " ESCAPE ".toList.map .mark ++
          [.text (d.marksText (String.singleton escape)) (String.singleton escape)]) := by
  have spaced : Token.SpacedBy (fun t => ¬ t.Leads d) (likeTokens pattern escape) := by
    simp [likeTokens, Token.infixWord, Token.spacedBy_cons, Token.spacedBy_cons_begins,
      Token.begins_cons, Token.IsPiece, Token.Plain]
  rw [Token.scan_serializeAll spaced]
  simp [likeTokens, Token.infixWord, Token.lexemes, Token.serialize, Keyword.text]

/-- A text is found by the engines alike if its pattern has no set. -/
theorem isLike_ownChars_iff (noSet : ¬ (d = .tSql ∧ '[' ∈ word.toList)) (shown : String) :
    d.IsLike (Like.ownChars leading trailing word.toList) shown.toList ↔
      Matched leading trailing word shown := by
  have read := Like.items_eq_map (Like.patternChars_patternOf leading trailing word)
  rw [Matched, read, Dialect.isLike_iff_matches fun brackets hmem =>
    noSet ⟨brackets, Like.mem_ownChars_opening_iff.1 hmem⟩]

/-- With an opening bracket the text itself or a shorter text tells SQL Server from the memory. -/
theorem exists_told_apart (leading trailing : Bool) (word : String) (h : '[' ∈ word.toList) :
    ∃ shown : String, ¬ (Dialect.tSql.IsLike (Like.ownChars leading trailing word.toList)
      shown.toList ↔ HasWord leading trailing word shown) := by
  by_contra same
  push Not at same
  have own : HasWord leading trailing word word := ⟨"", "", by simp, by simp, by simp⟩
  obtain ⟨short, hshort, -, shorter⟩ := ((same word).2 own).exists_short
  have found : Dialect.tSql.IsLike (Like.ownChars leading trailing word.toList)
      (String.ofList short).toList := by
    rwa [String.toList_ofList]
  obtain ⟨before, after, split, -⟩ := hasWord_iff_toList.1 ((same _).1 found)
  have lengths := shorter rfl (Like.mem_ownChars_opening_iff.2 h)
  rw [Like.countP_ownChars] at lengths
  have whole := congrArg List.length split
  simp only [String.toList_ofList, List.length_append] at whole
  omega

/--
The pattern that is written for a filter text and its escape character are read back in every
engine as they are. Read with it, only the percent signs that were added have another meaning
than themselves, exactly if the engine is not SQL Server or no opening bracket is in the text;
and exactly then the engine finds the texts that the test finds in memory, where the pattern is
taken.
-/
theorem likePattern_literal_iff (d : Dialect) (word : String) (leading trailing : Bool) :
    ∃ pattern chars,
      (∀ e negated, ∃ front, (matching e (.ofText word) leading trailing negated).tokens d =
        front ++ likeTokens pattern '\\') ∧
      (∃ national, d.scan (Token.serializeAll d (likeTokens pattern '\\')).toList =
        some ("LIKE ".toList.map .mark ++ .text national pattern ::
          " ESCAPE ".toList.map .mark ++ [.text false "\\"])) ∧
      Like.patternChars '\\' pattern.toList = some chars ∧
      (d.OnlyAdded leading trailing chars ↔ ¬ (d = .tSql ∧ '[' ∈ word.toList)) ∧
      (Regex.engine.Takes pattern '\\' →
        ((∀ (t : Table) (s : Scope) (shown : String), d.IsLike chars shown.toList ↔
          t.eval s (matching (.ofText shown) (.ofText word) leading trailing false) =
            .ok (.bool true)) ↔ ¬ (d = .tSql ∧ '[' ∈ word.toList))) := by
  have escape : d.marksText (String.singleton '\\') = false := by
    cases d <;> decide
  refine ⟨patternOf leading trailing word, Like.ownChars leading trailing word.toList,
    fun e negated => exists_tokens_matching d e negated,
    ⟨d.marksText (patternOf leading trailing word), ?_⟩,
    Like.patternChars_patternOf leading trailing word, Dialect.onlyAdded_iff, fun taken => ?_⟩
  · rw [scan_likeTokens, escape]
    rfl
  · have memory (t : Table) (s : Scope) (shown : String) :
        t.eval s (matching (.ofText shown) (.ofText word) leading trailing false) =
            .ok (.bool true) ↔ Matched leading trailing word shown := by
      have evaluated : t.eval s (.ofText shown) = .ok (.text shown) := rfl
      rw [eval_matching_of_takes evaluated taken]
      simp
    simp only [memory]
    constructor
    · rintro same ⟨rfl, hmem⟩
      obtain ⟨shown, apart⟩ := exists_told_apart leading trailing word hmem
      exact apart ((same (Table.empty "" []) (.row []) shown).trans matched_iff_hasWord)
    · intro noSet t s shown
      exact isLike_ownChars_iff noSet shown

/-- PostgreSQL finds the texts with a bracket that are found in memory, and no others. -/
theorem likePattern_literal_bracket :
    ∃ pattern chars, Like.patternChars '\\' pattern.toList = some chars ∧
      Regex.engine.Takes pattern '\\' ∧ Dialect.postgres.OnlyAdded true true chars ∧
      ∀ shown : String, Dialect.postgres.IsLike chars shown.toList ↔
        (Table.empty "notes" []).eval (.row [])
          (matching (.ofText shown) (.ofText "[a]") true true false) = .ok (.bool true) := by
  obtain ⟨pattern, chars, written, -, read, added, found⟩ :=
    likePattern_literal_iff .postgres "[a]" true true
  have noSet : ¬ (Dialect.postgres = .tSql ∧ '[' ∈ "[a]".toList) := fun h => absurd h.1 (by decide)
  have own : pattern = patternOf true true "[a]" := by
    obtain ⟨front, tokens⟩ := written (.col "note") false
    obtain ⟨front', tokens'⟩ := exists_tokens_matching .postgres (.col "note") false
    have ends := (List.append_inj' (tokens.symm.trans tokens') rfl).2
    simp only [likeTokens, List.cons_append, List.cons.injEq, Token.string.injEq] at ends
    exact ends.2.2.1
  have taken : Regex.engine.Takes pattern '\\' := own ▸ Like.takes_of_length_le (by decide)
  exact ⟨pattern, chars, read, taken, added.2 noSet,
    (found taken).2 noSet (Table.empty "notes" []) (.row [])⟩

/--
A bracket in a filter text begins a set in the pattern: SQL Server finds a single letter to be
like it, in which the text is not found in memory.
-/
theorem not_likePattern_literal :
    ∃ pattern chars, likePattern (.ofText "[a]") true true = .ofText pattern ∧
      Like.patternChars '\\' pattern.toList = some chars ∧
      ¬ Dialect.tSql.OnlyAdded true true chars ∧ Dialect.tSql.IsLike chars "a".toList ∧
      (Table.empty "notes" []).eval (.row [])
        (matching (.ofText "a") (.ofText "[a]") true true false) = .ok (.bool false) := by
  refine ⟨_, [⟨'%', false⟩, ⟨'[', false⟩, ⟨'a', false⟩, ⟨']', false⟩, ⟨'%', false⟩], rfl,
    by decide, fun h => ?_, ?_, ?_⟩
  · have bracket := h [⟨'%', false⟩] ⟨'[', false⟩ [⟨'a', false⟩, ⟨']', false⟩, ⟨'%', false⟩] rfl
      ⟨rfl, by decide⟩
    exact absurd bracket.1 (by decide)
  · exact .run [] (@Dialect.IsLike.set .tSql [⟨'a', false⟩] [⟨'%', false⟩] 'a' [] rfl (by decide)
      rfl (.run [] .nil))
  · have noBracket : decide (Matched true true "[a]" "a") = false := by decide
    have evaluated : (Table.empty "notes" []).eval (.row []) (.ofText "a") = .ok (.text "a") := rfl
    rw [eval_matching_of_takes evaluated (Like.takes_of_length_le (by decide)), noBracket]
    rfl

end Predicate

end GridSql
