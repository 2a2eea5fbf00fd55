import GridSql.Proofs.Sql.Lexing
import GridSql.Proofs.Sql.Spacing
import GridSql.Proofs.Calendar.ReadBack

/-!
# No injection through quotes

Scanning a statement finds one quoted part for every name and text that it was written
with, and reads it back. What the names and texts hold has no influence on anything else.
-/

namespace GridSql

namespace Dialect

/-! ## Texts that are not quoted -/

theorem inert_of_mem_toDigits {n : Nat} {c : Char} (h : c ∈ Nat.toDigits 10 n) : Inert c :=
  inert_of_isDigit (Decimal.isDigit_of_mem_toDigits h)

theorem bare_toDigits (n : Nat) : Bare (Nat.toDigits 10 n) :=
  bare_of_inert fun _ hc => inert_of_mem_toDigits hc

theorem bare_minus_toDigits (n : Nat) : Bare ('-' :: Nat.toDigits 10 n) :=
  bare_minus (bare_toDigits n) fun _ hc => inert_of_mem_toDigits (List.mem_of_mem_head? hc)

theorem bare_int (n : Int) : Bare (toString n).toList := by
  rw [Decimal.toList_toString_int]
  split
  · exact bare_toDigits _
  · exact bare_minus_toDigits _

theorem bare_decimal (x : Decimal) : Bare x.toChars := by
  have inert {c : Char} (hc : c ∈ if x.scale = 0 then
      Nat.toDigits 10 (x.coeff.natAbs / tenTo x.scale)
      else Nat.toDigits 10 (x.coeff.natAbs / tenTo x.scale) ++
        '.' :: Decimal.paddedDigits x.scale (x.coeff.natAbs % tenTo x.scale)) : Inert c := by
    split at hc
    · exact inert_of_mem_toDigits hc
    · rcases List.mem_append.1 hc with hc | hc
      · exact inert_of_mem_toDigits hc
      · rcases List.mem_cons.1 hc with rfl | hc
        · decide
        · exact inert_of_isDigit (Decimal.isDigit_of_mem_paddedDigits hc)
  unfold Decimal.toChars
  dsimp only
  split
  · exact bare_minus (bare_of_inert fun _ => inert) fun _ hc => inert (List.mem_of_mem_head? hc)
  · exact bare_of_inert fun _ => inert

open Binary64 in
theorem inert_of_mem_shortest {m : Magnitude} {c : Char} (h : c ∈ (shortest m).digits) :
    Inert c := by
  have hdigits : c ∈ (Nat.toDigits 10 _).reverse :=
    (List.dropWhile_sublist _).subset (List.mem_reverse.1 h)
  exact inert_of_mem_toDigits (List.mem_reverse.1 hdigits)

open Binary64 in
theorem bare_exponent (e : Int) : Bare (Layout.plain.exponent e) := by
  have number : Bare ((if e < 0 then ['-'] else []) ++ Nat.toDigits 10 e.natAbs) := by
    split
    · exact bare_minus_toDigits _
    · exact bare_toDigits _
  have mark : ∀ c ∈ ['e'], Inert c := List.forall_mem_singleton.2 (by decide)
  have whole : Bare (['e'] ++ ((if e < 0 then ['-'] else []) ++ Nat.toDigits 10 e.natAbs)) :=
    bare_append mark number
  exact whole

open Binary64 in
/-- The text of digits begins with a digit, a point or an exponent. -/
theorem bare_positive {digits : Digits} (h : ∀ c ∈ digits.digits, Inert c) :
    Bare (Layout.plain.positive digits) ∧
      ∀ c ∈ (Layout.plain.positive digits).head?, Inert c := by
  have point : Inert '.' := by decide
  have zero : Inert '0' := by decide
  have zeros {n : Nat} {c : Char} (hc : c ∈ List.replicate n '0') : Inert c := by
    rw [(List.mem_replicate.1 hc).2]
    exact zero
  have whole {cs : List Char} (hcs : ∀ c ∈ cs, Inert c) :
      Bare cs ∧ ∀ c ∈ cs.head?, Inert c :=
    ⟨bare_of_inert hcs, fun c hc => hcs c (List.mem_of_mem_head? hc)⟩
  unfold Layout.positive
  dsimp only
  split
  · refine ⟨bare_append ?_ (bare_exponent _), ?_⟩
    · split
      · next first second rest hdigits =>
          rw [hdigits, List.forall_mem_cons] at h
          exact List.forall_mem_cons.2 ⟨h.1, List.forall_mem_cons.2 ⟨point, h.2⟩⟩
      · exact h
    · intro c hc
      split at hc
      · next first second rest hdigits =>
          cases hc
          exact h c (by simp [hdigits])
      · cases hdigits : digits.digits with
        | nil =>
            rw [hdigits] at hc
            cases hc
            decide
        | cons first rest =>
            rw [hdigits] at hc
            cases hc
            exact h c (by simp [hdigits])
  split
  · apply whole
    simp only [List.cons_append, List.forall_mem_cons, List.forall_mem_append]
    exact ⟨zero, point, fun _ => zeros, h⟩
  split
  · apply whole
    simp only [List.forall_mem_append, List.forall_mem_cons]
    exact ⟨⟨h, fun _ => zeros⟩, point, zero, by simp⟩
  · apply whole
    simp only [List.forall_mem_append, List.forall_mem_cons]
    exact ⟨fun c hc => h c (List.mem_of_mem_take hc), point,
      fun c hc => h c (List.mem_of_mem_drop hc)⟩

open Binary64 in
theorem bare_float {x : Float} (finite : isFinite x = true) :
    Bare (Layout.plain.chars x) := by
  have number : isNaN x = false := by
    simp only [isFinite, ne_eq, decide_eq_true_eq] at finite
    simp [isNaN, finite]
  have signed {cs : List Char} (hcs : Bare cs ∧ ∀ c ∈ cs.head?, Inert c) :
      Bare ((if signBit x then ['-'] else []) ++ cs) := by
    split
    · exact bare_minus hcs.1 hcs.2
    · exact hcs.1
  simp only [Layout.chars, number, finite, Bool.false_eq_true, if_false, Bool.not_true]
  split
  · exact signed ⟨bare_of_inert (by simp [Inert, opening]), by simp [Inert, opening]⟩
  · exact signed (bare_positive fun _ => inert_of_mem_shortest)

theorem isAlphanum_toUpper {c : Char} (h : c.isAlphanum = true) :
    c.toUpper.isAlphanum = true := by
  unfold Char.toUpper
  split
  · next hlower =>
      have low : 97 ≤ c.val.toNat := UInt32.le_iff_toNat_le.1 hlower.1
      have high : c.val.toNat ≤ 122 := UInt32.le_iff_toNat_le.1 hlower.2
      have gap : ('A'.val - 'a'.val).toNat = 4294967264 := by decide
      have first : 'A'.val.toNat = 65 := by decide
      have last : 'Z'.val.toNat = 90 := by decide
      have upper : 'A'.val.toNat ≤ (c.val + ('A'.val - 'a'.val)).toNat ∧
          (c.val + ('A'.val - 'a'.val)).toNat ≤ 'Z'.val.toNat := by
        rw [UInt32.toNat_add]
        omega
      refine (Bool.or_eq_true_iff ..).2 (.inl ((Bool.or_eq_true_iff ..).2 (.inl ?_)))
      exact decide_eq_true ⟨UInt32.le_iff_toNat_le.2 upper.1, UInt32.le_iff_toNat_le.2 upper.2⟩
  · exact h

theorem bare_keyword (k : Keyword) : Bare k.text.toList := by
  cases k <;> decide

theorem bare_symbol (op : BinaryOp) : Bare op.symbol.toList := by
  cases op <;> decide

theorem functionName_cases (d : Dialect) {name : String} (hname : Text.IsWord name) :
    (∃ own ∈ d.spelling.functionNames,
        (d.functionName? (Text.asciiUpper name)).getD (Text.asciiUpper name) = own.2) ∨
      ∀ c ∈ ((d.functionName? (Text.asciiUpper name)).getD (Text.asciiUpper name)).toList,
        Inert c := by
  cases hown : d.functionName? (Text.asciiUpper name) with
  | some own =>
      obtain ⟨front, back, hnames, -⟩ := List.lookup_eq_some_iff.1 hown
      exact .inl ⟨(Text.asciiUpper name, own), by simp [hnames], rfl⟩
  | none =>
      refine .inr fun c hc => ?_
      rw [Option.getD_none, Text.asciiUpper, String.toList_map] at hc
      obtain ⟨small, hsmall, rfl⟩ := List.mem_map.1 hc
      rcases hname small hsmall with h | rfl
      · exact inert_of_isAlphanum (isAlphanum_toUpper h)
      · decide

theorem bare_functionName (d : Dialect) {name : String} (hname : Text.IsWord name) :
    Bare ((d.functionName? (Text.asciiUpper name)).getD (Text.asciiUpper name)).toList := by
  have known : ∀ own ∈ d.spelling.functionNames, Bare own.2.toList := by
    cases d <;> decide
  rcases functionName_cases d hname with ⟨own, hown, spelled⟩ | inert
  · exact spelled ▸ known own hown
  · exact bare_of_inert inert

/-! ## Quoted dates -/

theorem doubled_of_not_mem {closing : Char} {cs : List Char} (h : closing ∉ cs) :
    doubled closing cs = cs := by
  induction cs with
  | nil => rfl
  | cons c cs ih =>
      simp only [List.mem_cons, not_or] at h
      rw [doubled_cons_of_ne (Ne.symm h.1), ih h.2]

theorem escapedText_of_not_mem {d : Dialect} {cs : List Char} (hquote : '\'' ∉ cs)
    (hescape : '\\' ∉ cs) : d.escapedText cs = cs := by
  rw [escapedText, doubled_of_not_mem hescape, ite_self, doubled_of_not_mem hquote]

theorem escapedText_of_isDigit {d : Dialect} {cs : List Char}
    (h : ∀ c ∈ cs, c.isDigit = true ∨ c ∈ ['-', '+', ':', '.', ' ']) : d.escapedText cs = cs := by
  apply escapedText_of_not_mem <;> exact fun hc => absurd (h _ hc) (by decide)

theorem escapedText_date (d : Dialect) (x : Date) :
    d.escapedText x.toText.toList = x.toText.toList := by
  apply escapedText_of_isDigit
  intro c hc
  rw [Date.toText, String.toList_ofList] at hc
  rcases Date.mem_toChars hc with h | rfl | rfl
  · exact .inl h
  · decide
  · decide

theorem escapedText_timestamp (d : Dialect) (t : Timestamp) :
    d.escapedText (t.toText ' ').toList = (t.toText ' ').toList := by
  apply escapedText_of_isDigit
  intro c hc
  rcases Timestamp.mem_toText hc with h | rfl | h
  · exact .inl h
  · decide
  · exact .inr (List.mem_append_left [' '] h)

end Dialect

namespace Token

/-- The pieces of a token's text. -/
def lexemes (d : Dialect) : Token → List Lexeme
  | ident name | table none name => [.name name]
  | table (some schema) name => [.name schema, .mark '.', .name name]
  | string s => [.text (d.marksText s) s]
  | date x => dated "DATE" x.toText
  | timestamp t => dated "TIMESTAMP" (t.toText ' ')
  | t => (t.serialize d).toList.map .mark
where
  dated (type text : String) : List Lexeme :=
    (if d.spelling.typedDates then type.toList ++ [' '] else []).map .mark ++ [.text false text]

/-- The names and texts that are quoted in a token. -/
def quoted (d : Dialect) : Token → List Lexeme
  | ident name | table none name => [.name name]
  | table (some schema) name => [.name schema, .name name]
  | string s => [.text (d.marksText s) s]
  | date x => [.text false x.toText]
  | timestamp t => [.text false (t.toText ' ')]
  | _ => []

def erase : Token → Token
  | ident _ => ident ""
  | table schema _ => table (schema.map fun _ => "") ""
  | string _ => string ""
  | t => t

variable {d : Dialect} {t : Token} {ts : List Token} {rest : List Char}

theorem filter_marks (cs : List Char) : (cs.map Lexeme.mark).filter (·.isBlock) = [] := by
  simp [Lexeme.isBlock]

theorem filter_lexemes : (t.lexemes d).filter (·.isBlock) = t.quoted d := by
  cases t with
  | table schema name => cases schema <;> rfl
  | ident | string => rfl
  | date | timestamp =>
      rw [lexemes, lexemes.dated, List.filter_append, filter_marks]
      rfl
  | _ => exact filter_marks _

theorem shape_lexemes : (t.erase.lexemes d).map Lexeme.shape = (t.lexemes d).map Lexeme.shape := by
  cases t with
  | table schema name => cases schema <;> rfl
  | _ => rfl

theorem plain_erase : t.erase.Plain ↔ t.Plain := by
  cases t <;> exact Iff.rfl

theorem separates_erase : t.erase.separates = t.separates := by
  cases t <;> rfl

theorem wellSpaced_erase : WellSpaced (ts.map erase) ↔ WellSpaced ts := by
  simp [WellSpaced, List.isChain_map, plain_erase, separates_erase]

/-! ## Scanning tokens -/

open Dialect

theorem bare_serialize (plain : t.Plain) (hquoted : t.quoted d = []) :
    Bare (t.serialize d).toList := by
  cases t with
  | keyword k => exact bare_keyword k
  | operator op => exact bare_symbol op
  | punct c =>
      have marks : ∀ c ∈ ['(', ')', ',', '.', '*'], Bare [c] := by simp [Bare, opening]
      simpa [serialize] using marks c plain
  | space => exact (by decide : Bare " ".toList)
  | newline => exact (by decide : Bare "\n".toList)
  | indent => exact (by decide : Bare "  ".toList)
  | ident | string | date | timestamp => cases hquoted
  | table schema name => cases schema <;> cases hquoted
  | integer n => exact bare_int _
  | float x =>
      rw [serialize.eq_def]
      dsimp only
      split
      · next finite =>
          rw [Binary64.Layout.text, String.toList_ofList]
          exact bare_float finite
      · exact bare_keyword .null
  | decimal x =>
      rw [serialize.eq_def]
      dsimp only
      rw [Decimal.toText, String.toList_ofList]
      exact bare_decimal x
  | bool b => cases d <;> cases b <;> decide
  | predicate holds => cases d <;> cases holds <;> decide
  | type t => cases d <;> cases t <;> decide
  | function name => exact bare_functionName d plain

theorem scan_dated {type text : String} (htype : Bare type.toList)
    (htext : d.escapedText text.toList = text.toList) (hrest : Apart rest) :
    d.scan ((d.datedLiteral type text).toList ++ rest) =
      (d.scan rest).map (lexemes.dated d type text ++ ·) := by
  have quoted : d.scan ('\'' :: (text.toList ++ '\'' :: rest)) =
      (d.scan rest).map (.text false text :: ·) := by
    apply scan_cons
    have ends : rest.head? ≠ some '\'' := hrest.head_ne (by decide)
    have read : d.readText false (d.escapedText text.toList ++ '\'' :: rest) =
        some (.text false (String.ofList text.toList), rest) := readText_escapedText ends
    rw [htext, String.ofList_toList] at read
    rw [readLexeme, if_neg (by cases d <;> decide), if_pos rfl, read]
  have self (s : String) : toString s = s := rfl
  unfold datedLiteral lexemes.dated
  split
  · have written : (s!"{type} '{text}'").toList ++ rest =
        type.toList ++ ' ' :: '\'' :: (text.toList ++ '\'' :: rest) := by
      simp [self]
    rw [written, scan_bare htype (by simp [Apart, separators]),
      scan_mark (by decide) (by simp) (by simp), quoted,
      Option.map_map, Option.map_map]
    simp [Function.comp_def]
  · have written : (s!"'{text}'").toList ++ rest = '\'' :: (text.toList ++ '\'' :: rest) := by
      simp [self]
    rw [written, quoted]
    rfl

/-- The pieces of a token are scanned where it stands, and then the rest. -/
theorem scan_serialize (plain : t.Plain) (hrest : Apart rest) :
    d.scan ((t.serialize d).toList ++ rest) = (d.scan rest).map (t.lexemes d ++ ·) := by
  have name {s : String} {rest : List Char} (hrest : Apart rest) :
      d.scan ((d.quoteName s).toList ++ rest) = (d.scan rest).map (.name s :: ·) :=
    scan_quoteName (hrest.head_ne (by cases d <;> decide))
  cases t with
  | ident s => exact name hrest
  | table schema s =>
      cases schema with
      | none => exact name hrest
      | some schema =>
          have point : Apart ('.' :: ((d.quoteName s).toList ++ rest)) := by
            simp [Apart, separators]
          have written : (serialize d (table (some schema) s)).toList ++ rest =
              (d.quoteName schema).toList ++ '.' :: ((d.quoteName s).toList ++ rest) := by
            simp [serialize]
          rw [written, name point, scan_mark (by decide) (by simp) (by simp), name hrest,
            Option.map_map, Option.map_map]
          rfl
  | string s => exact scan_quoteText (hrest.head_ne (by decide))
  | date x => exact scan_dated (by decide) (escapedText_date d x) hrest
  | timestamp x => exact scan_dated (by decide) (escapedText_timestamp d x) hrest
  | _ => exact scan_bare (bare_serialize plain rfl) hrest

theorem serialize_separator (h : t.separates = true) :
    (t.serialize d).toList ≠ [] ∧ ∀ c ∈ (t.serialize d).toList, c ∈ separators := by
  cases t with
  | punct c =>
      have hc : c ∈ ['(', ')', ',', '.'] := of_decide_eq_true h
      rw [show serialize d (punct c) = String.singleton c from rfl, String.toList_singleton]
      simpa [separators] using List.mem_append_right [' ', '\n'] hc
  | space => exact (by simp [separators] : " ".toList ≠ [] ∧ ∀ c ∈ " ".toList, c ∈ separators)
  | newline => exact (by simp [separators] : "\n".toList ≠ [] ∧ ∀ c ∈ "\n".toList, c ∈ separators)
  | indent => exact (by simp [separators] : "  ".toList ≠ [] ∧ ∀ c ∈ "  ".toList, c ∈ separators)
  | _ => cases h

theorem scan_separator (h : t.separates = true) :
    d.scan ((t.serialize d).toList ++ rest) = (d.scan rest).map (t.lexemes d ++ ·) := by
  have marks : t.lexemes d = (t.serialize d).toList.map .mark := by
    cases t <;> first | rfl | cases h
  rw [marks]
  exact scan_separators (serialize_separator h).2

theorem apart_of_separates (h : t.separates = true) : Apart ((t.serialize d).toList ++ rest) := by
  obtain ⟨nonempty, all⟩ := serialize_separator (d := d) h
  obtain ⟨c, cs, hcs⟩ := List.exists_cons_of_ne_nil nonempty
  intro head hhead
  rw [hcs] at hhead
  cases hhead
  exact all c (by simp [hcs])

/-! ## Scanning a statement -/

variable {allowed : Token → Prop}

def chars (d : Dialect) (ts : List Token) : List Char :=
  ts.flatMap fun t => (t.serialize d).toList

theorem chars_cons : chars d (t :: ts) = (t.serialize d).toList ++ chars d ts :=
  List.flatMap_cons

theorem toList_serializeAll : (serializeAll d ts).toList = chars d ts := by
  rw [serializeAll, String.toList_join, List.flatMap_map, chars]

def Leads (d : Dialect) (t : Token) : Prop :=
  (t.serialize d).toList.head? = some '-'

theorem not_leads_of_separates (h : t.separates = true) : ¬ t.Leads d := by
  obtain ⟨-, all⟩ := serialize_separator (d := d) h
  exact fun leads => absurd (all '-' (List.mem_of_mem_head? leads)) (by decide)

theorem scan_minus {rest : List Char} (h : rest.head? ≠ some '-') :
    d.scan ('-' :: rest) = (d.scan rest).map (.mark '-' :: ·) := by
  apply scan_cons
  rw [readLexeme, if_neg (by cases d <;> decide), if_neg (by decide), if_neg (by simp),
    if_neg (by simp [h]), if_neg (by simp)]

/-- What stands behind a token that is no minus sign and does not separate. -/
theorem apart_chars (spaced : SpacedBy allowed (t :: ts)) (ht : t.separates ≠ true)
    (minus : t ≠ punct '-') : Apart (chars d ts) := by
  cases ts with
  | nil => simp [Apart, chars]
  | cons u us =>
      obtain ⟨-, next, -⟩ := spacedBy_cons_iff.1 spaced
      have hu : u.separates = true := by
        rcases next u rfl with h | h | ⟨h, -⟩
        · exact absurd h ht
        · exact h
        · exact absurd h minus
      exact apart_of_separates hu

theorem serialize_minus : ((punct '-').serialize d).toList = ['-'] := by
  simp [serialize]

theorem head?_chars (spaced : SpacedBy allowed ts) (h : ∀ t ∈ ts.head?, ¬ t.Leads d) :
    (chars d ts).head? ≠ some '-' := by
  cases ts with
  | nil => simp [chars]
  | cons t ts =>
      rw [chars_cons, List.head?_append]
      cases hhead : (t.serialize d).toList.head? with
      | some c =>
          have own := h t rfl
          rwa [Leads, hhead] at own
      | none =>
          -- Only a function without a name has no text, and what is behind it separates.
          have empty := List.head?_eq_none_iff.1 hhead
          refine (apart_chars spaced ?_ ?_).head_ne (by decide)
          · exact fun ht => (serialize_separator ht).1 empty
          · rintro rfl
            simp [serialize_minus] at empty

/-- A token is scanned and then the rest, unless it is a minus sign before another one. -/
theorem scan_piece (spaced : SpacedBy allowed (t :: ts))
    (single : t = punct '-' → ∀ u ∈ ts.head?, ¬ u.Leads d) :
    d.scan (chars d (t :: ts)) = (d.scan (chars d ts)).map (t.lexemes d ++ ·) := by
  obtain ⟨piece, -, rest⟩ := spacedBy_cons_iff.1 spaced
  rw [chars_cons]
  by_cases ht : t.separates = true
  · exact scan_separator ht
  by_cases minus : t = punct '-'
  · subst minus
    have mark : lexemes d (punct '-') = [.mark '-'] := by simp [lexemes, serialize]
    rw [mark, serialize_minus]
    exact scan_minus (head?_chars rest (single rfl))
  · exact scan_serialize (piece.resolve_right fun sign => minus sign.1) (apart_chars spaced ht minus)

/-- A statement is scanned token by token where no minus sign stands before another one. -/
theorem scan_serializeAll (spaced : SpacedBy (fun t => ¬ t.Leads d) ts) :
    d.scan (serializeAll d ts).toList = some (ts.flatMap (lexemes d)) := by
  rw [toList_serializeAll]
  induction ts with
  | nil =>
      rw [chars, List.flatMap_nil, Dialect.scan]
      rfl
  | cons t ts ih =>
      obtain ⟨-, next, rest⟩ := spacedBy_cons_iff.1 spaced
      rw [scan_piece spaced, ih rest]
      · rfl
      · rintro rfl u hu
        rcases next u hu with h | h | ⟨-, h⟩
        · cases h
        · exact not_leads_of_separates h
        · exact h

end Token

end GridSql
