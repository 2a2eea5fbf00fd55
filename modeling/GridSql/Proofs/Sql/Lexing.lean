import GridSql.Sql.Dialect
import Mathlib.Data.List.Chain

/-!
# Reading the text of a statement

The lexical rules of the engines, as far as they decide where a quoted part ends: names
and texts end at a closing quote that is not doubled, a backslash of a MySQL text keeps
the character behind it, and comments hide what they hold.
-/

namespace GridSql

/-- A piece of a statement's text. Outside quotes and comments every character is one. -/
inductive Lexeme where
  | mark (c : Char)
  | name (s : String)
  | text (national : Bool) (s : String)
  | comment
deriving DecidableEq

namespace Lexeme

/-- Whether the piece is no single character. -/
def isBlock : Lexeme → Bool
  | mark _ => false
  | _ => true

/-- The piece without what is quoted in it, and without the mark of a national text. -/
def shape : Lexeme → Lexeme
  | name _ => name ""
  | text _ _ => text false ""
  | l => l

end Lexeme

namespace Dialect

def nameMarks : Dialect → Char × Char
  | tSql => ('[', ']')
  | mySql => ('\x60', '\x60')
  | duckDb | postgres => ('"', '"')

/-- Reads up to the closing quote, which stands for itself where it is doubled. -/
def readQuoted (closing : Char) (escapes : Bool) : List Char → Option (List Char × List Char)
  | [] => none
  | [c] => if c = closing then some ([], []) else none
  | c :: next :: rest =>
      if escapes = true ∧ c = '\\' then (readQuoted closing escapes rest).map (keep next)
      else if c = closing then
        if next = closing then (readQuoted closing escapes rest).map (keep next)
        else some ([], next :: rest)
      else (readQuoted closing escapes (next :: rest)).map (keep c)
where
  keep (c : Char) (read : List Char × List Char) : List Char × List Char :=
    (c :: read.1, read.2)

/-- What stands behind the end of a block comment. -/
def afterBlock : List Char → Option (List Char)
  | [] => none
  | '*' :: '/' :: rest => some rest
  | _ :: rest => afterBlock rest

def readText (d : Dialect) (national : Bool) (cs : List Char) : Option (Lexeme × List Char) :=
  (readQuoted '\'' (d = mySql) cs).map fun read => (.text national (String.ofList read.1), read.2)

/-- Reads the piece that begins with `c`; quotes and block comments have to end. -/
def readLexeme (d : Dialect) (c : Char) (rest : List Char) : Option (Lexeme × List Char) :=
  if c = d.nameMarks.1 then
    (readQuoted d.nameMarks.2 false rest).map fun read => (.name (String.ofList read.1), read.2)
  else if c = '\'' then d.readText false rest
  else if d = tSql ∧ c = 'N' ∧ rest.head? = some '\'' then d.readText true rest.tail
  else if c = '-' ∧ rest.head? = some '-' then some (.comment, rest.dropWhile (· ≠ '\n'))
  else if c = '/' ∧ rest.head? = some '*' then
    (afterBlock rest.tail).map fun left => (.comment, left)
  else some (.mark c, rest)

/-! ## Reading goes on -/

variable {d : Dialect} {closing c : Char} {escapes : Bool} {cs rest left : List Char}
variable {l : Lexeme}

theorem readQuoted_length {read : List Char × List Char}
    (h : readQuoted closing escapes cs = some read) : read.2.length ≤ cs.length := by
  induction cs using readQuoted.induct closing escapes generalizing read with
  | case1 => cases h
  | case2 =>
      rw [readQuoted, if_pos rfl] at h
      cases h
      exact Nat.zero_le _
  | case3 c hc =>
      rw [readQuoted, if_neg hc] at h
      cases h
  | case4 c next rest hescape ih =>
      rw [readQuoted, if_pos hescape, Option.map_eq_some_iff] at h
      obtain ⟨inner, hread, rfl⟩ := h
      have fits := ih hread
      simp only [readQuoted.keep, List.length_cons] at fits ⊢
      omega
  | case5 rest hescape ih =>
      rw [readQuoted, if_neg hescape, if_pos rfl, if_pos rfl, Option.map_eq_some_iff] at h
      obtain ⟨inner, hread, rfl⟩ := h
      have fits := ih hread
      simp only [readQuoted.keep, List.length_cons] at fits ⊢
      omega
  | case6 next rest hescape hnext =>
      rw [readQuoted, if_neg hescape, if_pos rfl, if_neg hnext] at h
      cases h
      simp
  | case7 c next rest hescape hc ih =>
      rw [readQuoted, if_neg hescape, if_neg hc, Option.map_eq_some_iff] at h
      obtain ⟨inner, hread, rfl⟩ := h
      have fits := ih hread
      simp only [readQuoted.keep, List.length_cons] at fits ⊢
      omega

theorem afterBlock_length (h : afterBlock cs = some left) : left.length ≤ cs.length := by
  induction cs using afterBlock.induct with
  | case1 => cases h
  | case2 rest =>
      cases h
      simp only [List.length_cons]
      omega
  | case3 c rest hend ih =>
      rw [afterBlock.eq_3 _ _ hend] at h
      exact Nat.le_trans (ih h) (by simp)

theorem readText_length {national : Bool} (h : d.readText national cs = some (l, left)) :
    left.length ≤ cs.length := by
  obtain ⟨read, hread, heq⟩ := Option.map_eq_some_iff.1 h
  cases heq
  exact readQuoted_length hread

theorem readLexeme_length (h : d.readLexeme c rest = some (l, left)) :
    left.length ≤ rest.length := by
  have tail : rest.tail.length ≤ rest.length := by simp
  unfold readLexeme at h
  split at h
  · obtain ⟨read, hread, heq⟩ := Option.map_eq_some_iff.1 h
    cases heq
    exact readQuoted_length hread
  split at h
  · exact readText_length h
  split at h
  · exact Nat.le_trans (readText_length h) tail
  split at h
  · cases h
    exact (List.dropWhile_sublist _).length_le
  split at h
  · obtain ⟨after, hafter, heq⟩ := Option.map_eq_some_iff.1 h
    cases heq
    exact Nat.le_trans (afterBlock_length hafter) tail
  · cases h
    exact Nat.le_refl _

/-- The pieces of a text, if every quote and block comment in it ends. -/
def scan (d : Dialect) : List Char → Option (List Lexeme)
  | [] => some []
  | c :: rest =>
      match h : d.readLexeme c rest with
      | none => none
      | some (l, left) =>
          have := readLexeme_length h
          (scan d left).map (l :: ·)
termination_by cs => cs.length

theorem scan_cons (h : d.readLexeme c rest = some (l, left)) :
    d.scan (c :: rest) = (d.scan left).map (l :: ·) := by
  rw [scan]
  split
  · next hnone =>
      rw [h] at hnone
      cases hnone
  · next hsome =>
      rw [h] at hsome
      cases hsome
      rfl

/-! ## Quoted parts -/

theorem readQuoted_cons (hescape : ¬ (escapes = true ∧ c = '\\')) (hc : c ≠ closing) :
    readQuoted closing escapes (c :: cs) =
      (readQuoted closing escapes cs).map (readQuoted.keep c) := by
  cases cs with
  | nil => simp only [readQuoted, if_neg hc, Option.map_none]
  | cons next rest => rw [readQuoted, if_neg hescape, if_neg hc]

theorem doubled_cons_self : doubled c (c :: cs) = c :: c :: doubled c cs := by
  simp [doubled]

theorem doubled_cons_of_ne (h : c ≠ closing) :
    doubled closing (c :: cs) = c :: doubled closing cs := by
  simp [doubled, h]

/-- What is quoted is read back, whatever it is, unless one more quote stands behind it. -/
theorem readQuoted_doubled (hclosing : closing ≠ '\\') (hrest : rest.head? ≠ some closing) :
    readQuoted closing escapes
      (doubled closing (if escapes then doubled '\\' cs else cs) ++ closing :: rest) =
        some (cs, rest) := by
  induction cs with
  | nil =>
      cases rest with
      | nil => cases escapes <;> simp [doubled, readQuoted]
      | cons next rest =>
          have hnext : next ≠ closing := fun h => hrest (congrArg some h)
          cases escapes <;> simp [doubled, readQuoted, hnext, hclosing]
  | cons c cs ih =>
      by_cases hescape : escapes = true ∧ c = '\\'
      · obtain ⟨rfl, rfl⟩ := hescape
        rw [if_pos rfl] at ih ⊢
        rw [doubled_cons_self, doubled_cons_of_ne hclosing.symm, doubled_cons_of_ne hclosing.symm,
          List.cons_append, List.cons_append, readQuoted, if_pos ⟨rfl, rfl⟩, ih]
        rfl
      have kept : (if escapes then doubled '\\' (c :: cs) else c :: cs) =
          c :: if escapes then doubled '\\' cs else cs := by
        cases escapes with
        | false => rfl
        | true => exact doubled_cons_of_ne fun h => hescape ⟨rfl, h⟩
      rw [kept]
      by_cases hc : c = closing
      · subst hc
        rw [doubled_cons_self, List.cons_append, List.cons_append, readQuoted, if_neg hescape,
          if_pos rfl, if_pos rfl, ih]
        rfl
      · rw [doubled_cons_of_ne hc, List.cons_append, readQuoted_cons hescape hc, ih]
        rfl

theorem readText_escapedText {national : Bool} (hrest : rest.head? ≠ some '\'') :
    d.readText national (d.escapedText cs ++ '\'' :: rest) =
      some (.text national (String.ofList cs), rest) := by
  have read : readQuoted '\'' (d = mySql) (d.escapedText cs ++ '\'' :: rest) = some (cs, rest) := by
    cases d <;> exact readQuoted_doubled (by decide) hrest
  rw [readText, read]
  rfl

theorem scan_quoteName {s : String} (hrest : rest.head? ≠ some d.nameMarks.2) :
    d.scan ((d.quoteName s).toList ++ rest) = (d.scan rest).map (.name s :: ·) := by
  have marks : d.spelling.nameQuotes = d.nameMarks := by cases d <;> rfl
  have closing : d.nameMarks.2 ≠ '\\' := by cases d <;> decide
  have written : (d.quoteName s).toList ++ rest =
      d.nameMarks.1 :: (doubled d.nameMarks.2 s.toList ++ d.nameMarks.2 :: rest) := by
    simp [quoteName, marks]
  have read : readQuoted d.nameMarks.2 false
      (doubled d.nameMarks.2 s.toList ++ d.nameMarks.2 :: rest) = some (s.toList, rest) :=
    readQuoted_doubled closing hrest
  rw [written]
  apply scan_cons
  rw [readLexeme, if_pos rfl, read, Option.map_some, String.ofList_toList]

/-- Whether a text is written with the mark of a national one. -/
def marksText (d : Dialect) (s : String) : Bool :=
  d.spelling.marksNational && !s.toList.all (·.toNat < 0x80)

theorem scan_quoteText {s : String} (hrest : rest.head? ≠ some '\'') :
    d.scan ((d.quoteText s).toList ++ rest) =
      (d.scan rest).map (.text (d.marksText s) s :: ·) := by
  have read (national : Bool) : d.readText national (d.escapedText s.toList ++ '\'' :: rest) =
      some (.text national s, rest) := by
    rw [readText_escapedText hrest, String.ofList_toList]
  cases hmark : d.marksText s with
  | true =>
      have written : (d.quoteText s).toList ++ rest =
          'N' :: '\'' :: (d.escapedText s.toList ++ '\'' :: rest) := by
        unfold marksText at hmark
        simp [quoteText, hmark]
      have tsql : d = tSql := by
        cases d <;> first | rfl | cases hmark
      rw [written]
      apply scan_cons
      rw [← read true, readLexeme, if_neg (by subst tsql; decide), if_neg (by decide),
        if_pos ⟨tsql, rfl, rfl⟩, List.tail_cons]
  | false =>
      have written : (d.quoteText s).toList ++ rest =
          '\'' :: (d.escapedText s.toList ++ '\'' :: rest) := by
        unfold marksText at hmark
        simp [quoteText, hmark]
      rw [written]
      apply scan_cons
      rw [← read false, readLexeme, if_neg (by cases d <;> decide), if_pos rfl]

/-! ## Other characters -/

def opening : List Char := ['\'', '"', '[', '\x60']

/-- A character stands for itself, unless it and the next one begin something. -/
theorem scan_mark (hc : c ∉ opening)
    (hnational : ∀ next ∈ rest.head?, c = 'N' → next ≠ '\'')
    (hcomment : ∀ next ∈ rest.head?, c ∈ ['-', '/'] → next ∉ ['-', '*']) :
    d.scan (c :: rest) = (d.scan rest).map (.mark c :: ·) := by
  have hname : c ≠ d.nameMarks.1 := by
    rintro rfl
    cases d <;> exact hc (by decide)
  have htext : c ≠ '\'' := by
    rintro rfl
    exact hc (by decide)
  have hline : ¬ (c = '-' ∧ rest.head? = some '-') := by
    rintro ⟨rfl, hhead⟩
    exact hcomment _ hhead (by decide) (by decide)
  have hblock : ¬ (c = '/' ∧ rest.head? = some '*') := by
    rintro ⟨rfl, hhead⟩
    exact hcomment _ hhead (by decide) (by decide)
  apply scan_cons
  rw [readLexeme, if_neg hname, if_neg htext, if_neg fun h => hnational _ h.2.2 h.2.1 rfl,
    if_neg hline, if_neg hblock]

/-- A text without quotes, in which no comment begins. -/
def Bare (cs : List Char) : Prop :=
  (∀ c ∈ cs, c ∉ opening) ∧ cs.IsChain fun c next => c ∈ ['-', '/'] → next ∉ ['-', '*']

instance (cs : List Char) : Decidable (Bare cs) :=
  have : Decidable (∀ c ∈ cs, c ∉ opening) := List.decidableBAll _ cs
  inferInstanceAs (Decidable (_ ∧ _))

/-- The characters that can stand between names, words and numbers. -/
def separators : List Char := [' ', '\n', '(', ')', ',', '.']

theorem scan_separators (hcs : ∀ c ∈ cs, c ∈ separators) :
    d.scan (cs ++ rest) = (d.scan rest).map (cs.map .mark ++ ·) := by
  have plain : ∀ c ∈ separators, c ∉ opening ∧ c ≠ 'N' ∧ c ∉ ['-', '/'] := by
    simp [separators, opening]
  induction cs with
  | nil => simp
  | cons c cs ih =>
      obtain ⟨hopening, hnational, hcomment⟩ := plain c (hcs c List.mem_cons_self)
      rw [List.cons_append, scan_mark hopening (fun _ _ h => absurd h hnational)
        fun _ _ h => absurd h hcomment, ih fun x hx => hcs x (List.mem_cons_of_mem _ hx),
        Option.map_map]
      rfl

/-- Whether a text ends or goes on with a separator. -/
def Apart (rest : List Char) : Prop :=
  ∀ c ∈ rest.head?, c ∈ separators

theorem Apart.head_ne (h : Apart rest) (hc : c ∉ separators) : rest.head? ≠ some c :=
  fun hhead => hc (h c hhead)

theorem scan_bare (bare : Bare cs) (hrest : Apart rest) :
    d.scan (cs ++ rest) = (d.scan rest).map (cs.map .mark ++ ·) := by
  induction cs with
  | nil => simp
  | cons c cs ih =>
      have inner : Bare cs :=
        ⟨fun x hx => bare.1 x (List.mem_cons_of_mem _ hx), (List.isChain_cons.1 bare.2).2⟩
      have hnational : ∀ next ∈ (cs ++ rest).head?, c = 'N' → next ≠ '\'' := by
        rintro next hnext - rfl
        cases cs with
        | nil => exact hrest.head_ne (by decide) hnext
        | cons second cs =>
            cases hnext
            exact inner.1 _ List.mem_cons_self (by decide)
      have hcomment : ∀ next ∈ (cs ++ rest).head?, c ∈ ['-', '/'] → next ∉ ['-', '*'] := by
        intro next hnext hc
        cases cs with
        | nil =>
            intro hmark
            simp only [List.mem_cons, List.not_mem_nil, or_false] at hmark
            rcases hmark with rfl | rfl <;> exact hrest.head_ne (by decide) hnext
        | cons second cs => exact (List.isChain_cons.1 bare.2).1 next hnext hc
      rw [List.cons_append, scan_mark (bare.1 c List.mem_cons_self) hnational hcomment, ih inner,
        Option.map_map]
      rfl

/-- Whether neither a quote nor a comment can begin with the character. -/
def Inert (c : Char) : Prop :=
  c ∉ opening ∧ c ∉ ['-', '/', '*']

instance (c : Char) : Decidable (Inert c) :=
  inferInstanceAs (Decidable (_ ∧ _))

theorem inert_of_isAlphanum (h : c.isAlphanum = true) : Inert c := by
  have other {marks : List Char} (hmarks : (marks.all fun x => !x.isAlphanum) = true) :
      c ∉ marks := by
    intro hc
    have hx := List.all_eq_true.1 hmarks c hc
    rw [h] at hx
    cases hx
  exact ⟨other (by decide), other (by decide)⟩

theorem inert_of_isDigit (h : c.isDigit = true) : Inert c :=
  inert_of_isAlphanum (by simp [Char.isAlphanum, h])

theorem bare_append (hcs : ∀ c ∈ cs, Inert c) (hrest : Bare rest) : Bare (cs ++ rest) := by
  induction cs with
  | nil => exact hrest
  | cons c cs ih =>
      have hc := hcs c List.mem_cons_self
      have inner := ih fun x hx => hcs x (List.mem_cons_of_mem _ hx)
      refine ⟨List.forall_mem_cons.2 ⟨hc.1, inner.1⟩, List.isChain_cons.2 ⟨?_, inner.2⟩⟩
      intro next _ hmark
      exact absurd (List.mem_append_left ['*'] hmark) hc.2

theorem bare_nil : Bare [] :=
  ⟨List.forall_mem_nil _, .nil⟩

theorem bare_of_inert (hcs : ∀ c ∈ cs, Inert c) : Bare cs := by
  have h := bare_append hcs bare_nil
  rwa [List.append_nil] at h

theorem bare_minus (hcs : Bare cs) (hhead : ∀ c ∈ cs.head?, Inert c) : Bare ('-' :: cs) := by
  refine ⟨List.forall_mem_cons.2 ⟨by decide, hcs.1⟩, List.isChain_cons.2 ⟨?_, hcs.2⟩⟩
  intro next hnext _ hmark
  have inert := (hhead next hnext).2
  simp only [List.mem_cons, List.not_mem_nil, or_false, not_or] at inert hmark
  rcases hmark with hmark | hmark
  · exact inert.1 hmark
  · exact inert.2.2 hmark

end Dialect

end GridSql
