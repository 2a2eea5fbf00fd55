import GridSql.Proofs.Sql.Nodes
import GridSql.Proofs.Sql.Reading
import GridSql.Sql.Render
import Mathlib.Data.List.Forall2

/-!
# What rendered expressions are read as

Parentheses come back where they were written. A chain of sums, products or logical
operators that was nested on the right comes back nested on the left.
-/

namespace GridSql

namespace Expr

open Token

/-- The level of an expression: how tightly it binds when it is written. -/
def level : Expr → Nat
  | binary op _ _ => op.level
  | unary .not _ => 2
  | unary .minus _ => 6
  | inList _ candidates _ => if candidates.isEmpty then 7 else 3
  | inQuery .. | between .. | isNull .. | like .. => 3
  | _ => 7

/-- The operator with the operands on its right, those of a chain of its level one by one. -/
def graft (acc : Expr) (op : BinaryOp) : Expr → Expr
  | binary op' l r =>
      if op'.level = op.level then binary op' (graft acc op l) r
      else binary op acc (binary op' l r)
  | e => binary op acc e

def grouped (needed : Bool) (e : Expr) : Expr :=
  if needed then paren e else e

mutual

/-- What an expression is read as when it is written. -/
def readBack : Expr → Expr
  | column owner name => column owner name
  | literal v => literal v
  | truth holds => truth holds
  | binary op l r =>
      graft (grouped (l.operator?.any (op.wraps · false)) l.readBack) op
        (grouped (r.operator?.any (op.wraps · true)) r.readBack)
  | unary op e => unary op (grouped e.operator?.isSome e.readBack)
  | call name args distinct => call name (readBackList args) distinct
  | choice subject branches otherwise =>
      choice (readBackOption subject) (readBackBranches branches) (readBackOption otherwise)
  | cast e t => cast e.readBack t
  | inList e candidates negated =>
      if candidates.isEmpty then truth negated
      else inList (grouped e.operator?.isSome e.readBack) (readBackList candidates) negated
  | inQuery e q negated => inQuery e q negated
  | existsIn q negated => existsIn q negated
  | between e low high negated =>
      between (grouped e.operator?.isSome e.readBack) (grouped low.operator?.isSome low.readBack)
        (grouped high.operator?.isSome high.readBack) negated
  | isNull e negated => isNull (grouped e.operator?.isSome e.readBack) negated
  | like e pattern escape negated =>
      like (grouped e.operator?.isSome e.readBack)
        (grouped pattern.operator?.isSome pattern.readBack) escape negated
  | star owner => star owner
  | paren e => paren e.readBack

def readBackList : List Expr → List Expr
  | [] => []
  | e :: es => e.readBack :: readBackList es

def readBackOption : Option Expr → Option Expr
  | some e => some e.readBack
  | none => none

def readBackBranches : List (Expr × Expr) → List (Expr × Expr)
  | [] => []
  | (condition, result) :: rest =>
      (condition.readBack, result.readBack) :: readBackBranches rest

end

/-- Whether an operand gets parentheses or binds at least as tightly as a level. -/
def Binds (level : Nat) (e : Expr) : Prop :=
  e.operator?.isSome = true ∨ level ≤ e.level

/--
Whether an expression is no test of a subquery and its operands can stand where they are
without the parentheses that only operands with two operands get.
-/
def Upright : Expr → Prop
  | binary op l r => l.Binds op.level ∧ r.Binds (op.level + 1)
  | unary .minus e => e.Binds 6
  | inList e _ _ | isNull e _ => e.Binds 3
  | between e low high _ => e.Binds 3 ∧ low.Binds 4 ∧ high.Binds 4
  | like e pattern _ _ => e.Binds 3 ∧ pattern.Binds 4
  | inQuery .. | existsIn .. => False
  | _ => True

variable {acc e l r x y : Expr} {op op' : BinaryOp} {us vs rest : List Token}

/-! ## Chains -/

theorem graft_of_level_ne (h : op.level ≠ e.level) : graft acc op e = binary op acc e := by
  cases e with
  | binary op' l r => exact if_neg (Ne.symm h)
  | _ => rfl

theorem graft_of_operator? (h : e.operator? = none) : graft acc op e = binary op acc e := by
  cases e with
  | binary => cases h
  | _ => rfl

theorem level_graft : (graft acc op e).level = op.level := by
  cases e with
  | binary op' l r =>
      rw [graft]
      split
      · next h => exact h
      · rfl
  | _ => rfl

theorem graft_graft (h : op'.level = op.level) (y : Expr) :
    graft acc op (graft x op' y) = graft (graft acc op x) op' y := by
  cases y with
  | binary op'' l r =>
      by_cases hop : op''.level = op'.level
      · rw [graft, if_pos hop, graft, if_pos (hop.trans h), graft_graft h l, graft, if_pos hop]
      · rw [graft, if_neg hop, graft, if_pos h, graft, if_neg hop]
  | _ => exact if_pos h

/-! ## Tokens that are read as an expression -/

/--
Whether glyphs are read as an expression in front of everything that does not bind tighter,
alone and behind an operator of a chain.
-/
structure ReadsAs (us : List Token) (e : Expr) : Prop where
  begins : ∃ t ts, us = t :: ts ∧ t.begins = true
  first : ∀ p ≤ e.level, ∀ rest, Stops (e.level + 1) rest →
    readAt p (us ++ rest) = readMore p e rest
  chained : ∀ op : BinaryOp, op.level = e.level → op.level ≠ 3 → ∀ p ≤ op.level, ∀ acc rest,
    Stops (op.level + 1) rest →
      readMore p acc (operator op :: (us ++ rest)) = readMore p (graft acc op e) rest

theorem level_of_operator? (h : e.operator? = none) :
    e.level = 2 ∨ e.level = 3 ∨ e.level = 6 ∨ e.level = 7 := by
  cases e with
  | binary => cases h
  | unary op => cases op <;> simp [level]
  | inList e candidates =>
      rw [level]
      split <;> simp
  | _ => simp [level]

theorem ReadsAs.length_lt (h : ReadsAs us e) (rest : List Token) :
    rest.length < (us ++ rest).length := by
  obtain ⟨t, ts, rfl, -⟩ := h.begins
  simp only [List.cons_append, List.length_cons, List.length_append]
  omega

theorem level_ne_of_operator? (h : e.operator? = none) (hop : op.level ≠ 3) :
    op.level ≠ e.level := by
  have he := level_of_operator? h
  cases op <;> simp only [BinaryOp.level] at hop ⊢ <;> omega

theorem ReadsAs.of_readFirst (begins : ∃ t ts, us = t :: ts ∧ t.begins = true)
    (hop : e.operator? = none)
    (h : ∀ p ≤ e.level, ∀ rest, Stops (e.level + 1) rest →
      readFirst p (us ++ rest) = some (e, rest)) :
    ReadsAs us e where
  begins := begins
  first p hp rest hrest := by
    apply readAt_of_readFirst (h p hp rest hrest)
    obtain ⟨t, ts, rfl, -⟩ := begins
    simp only [List.cons_append, List.length_cons, List.length_append]
    omega
  chained _ hlevel h3 := absurd hlevel (level_ne_of_operator? hop h3)

/-- Glyphs in front of what ends an expression are read as it whole. -/
theorem ReadsAs.readAt_of_stops {p : Nat} (h : ReadsAs us e) (hp : p ≤ e.level)
    (hrest : Stops p rest) : readAt p (us ++ rest) = some (e, rest) := by
  rw [h.first p hp rest (hrest.mono (by omega)), readMore_of_stops hrest]

theorem ReadsAs.advanced_readAt {p : Nat} (h : ReadsAs us e) (hp : p ≤ e.level)
    (hrest : Stops p rest) :
    advanced (us ++ rest) (readAt p (us ++ rest)) = some (e, ⟨rest, h.length_lt rest⟩) := by
  rw [h.readAt_of_stops hp hrest, advanced_some]

theorem ReadsAs.paren (h : ReadsAs us e) :
    ReadsAs (punct '(' :: (us ++ [punct ')'])) (.paren e) := by
  apply ReadsAs.of_readFirst ⟨_, _, rfl, rfl⟩ rfl
  intro p _ rest _
  have ends : Stops 0 (punct ')' :: rest) := by simp [stops_cons, level?]
  simpa using readFirst_paren (h.readAt_of_stops (Nat.zero_le _) ends)

theorem ReadsAs.readMore_right {p : Nat} (h : ReadsAs us e)
    (hlevel : op.level < e.level ∨ op.level = e.level ∧ op.level ≠ 3) (hp : p ≤ op.level)
    (hrest : Stops (op.level + 1) rest) :
    readMore p acc (operator op :: (us ++ rest)) = readMore p (graft acc op e) rest := by
  rcases hlevel with hlt | ⟨heq, h3⟩
  · rw [readMore_operator hp (h.readAt_of_stops hlt hrest) (h.length_lt rest),
      graft_of_level_ne (by omega)]
  · exact h.chained op heq h3 p hp acc rest hrest

theorem ReadsAs.binary (hl : ReadsAs us l) (hr : ReadsAs vs r) (hleft : op.level ≤ l.level)
    (hright : op.level < r.level ∨ op.level = r.level ∧ op.level ≠ 3) :
    ReadsAs (us ++ operator op :: vs) (graft l op r) where
  begins := by
    obtain ⟨t, ts, rfl, ht⟩ := hl.begins
    exact ⟨t, _, rfl, ht⟩
  first p hp rest hrest := by
    rw [level_graft] at hp hrest
    have next : Stops (l.level + 1) (operator op :: (vs ++ rest)) := by
      simp only [stops_cons, level?, Option.mem_some_iff, forall_eq']
      omega
    rw [List.append_assoc, List.cons_append, hl.first p (by omega) _ next,
      hr.readMore_right hright hp hrest]
  chained op' hlevel h3 p hp acc rest hrest := by
    rw [level_graft] at hlevel
    have next : Stops (op'.level + 1) (operator op :: (vs ++ rest)) := by
      simp only [stops_cons, level?, Option.mem_some_iff, forall_eq']
      omega
    rw [List.append_assoc, List.cons_append, hl.readMore_right (by omega) hp next,
      hr.readMore_right hright (by omega) (hlevel ▸ hrest), graft_graft hlevel.symm]

theorem ReadsAs.readAt_prefix {p : Nat} (h : ReadsAs us e) (hp : p = 2 ∨ p = 6)
    (he : p ≤ e.level) (hrest : Stops (p + 1) rest) : readAt p (us ++ rest) = some (e, rest) :=
  h.readAt_of_stops he (hrest.of_prefix hp)

theorem ReadsAs.not (h : ReadsAs us e) (he : 2 ≤ e.level) :
    ReadsAs (keyword .notWord :: us) (.unary .not e) := by
  apply ReadsAs.of_readFirst ⟨_, _, rfl, rfl⟩ rfl
  intro p hp rest hrest
  exact readFirst_not hp (h.readAt_prefix (.inl rfl) he hrest)

theorem ReadsAs.minus (h : ReadsAs us e) (he : 6 ≤ e.level) :
    ReadsAs (operator .sub :: us) (.unary .minus e) := by
  apply ReadsAs.of_readFirst ⟨_, _, rfl, rfl⟩ rfl
  intro p hp rest hrest
  exact readFirst_minus hp (h.readAt_prefix (.inr rfl) he hrest)

theorem ReadsAs.test {k : Keyword} {test : Expr} (h : ReadsAs us e) (he : 3 ≤ e.level)
    (hlevel : test.level = 3) (hop : test.operator? = none) (hk : k.isTest = true)
    (htest : ∀ rest, Stops 4 rest →
      readTest e false (keyword k :: (vs ++ rest)) = some (test, rest)) :
    ReadsAs (us ++ keyword k :: vs) test where
  begins := by
    obtain ⟨t, ts, rfl, ht⟩ := h.begins
    exact ⟨t, _, rfl, ht⟩
  first p hp rest hrest := by
    have next : Stops (e.level + 1) (keyword k :: (vs ++ rest)) := by
      simp only [stops_cons, level?, hk, if_true, Option.mem_some_iff, forall_eq']
      omega
    have shorter : rest.length < (keyword k :: (vs ++ rest)).length := by
      simp only [List.length_cons, List.length_append]
      omega
    rw [hlevel] at hp hrest
    rw [List.append_assoc, List.cons_append, h.first p (by omega) _ next,
      readMore_test hp hk (htest rest hrest) shorter]
  chained _ hlevel h3 := absurd hlevel (level_ne_of_operator? hop h3)

theorem ReadsAs.negatable {k : Keyword} {test : Expr} {negated : Bool} (h : ReadsAs us e)
    (he : 3 ≤ e.level) (hlevel : test.level = 3) (hop : test.operator? = none)
    (hk : k.isTest = true)
    (htest : ∀ rest, Stops 4 rest →
      readTest e negated (keyword k :: (vs ++ rest)) = some (test, rest)) :
    ReadsAs (us ++ ((negation negated).filterMap glyph? ++ keyword k :: vs)) test := by
  cases negated with
  | false => exact h.test he hlevel hop hk htest
  | true =>
      apply h.test he hlevel hop rfl (k := .notWord)
      intro rest hrest
      rw [readTest]
      exact htest rest hrest

/-! ## Operands as they are written -/

theorem binds_two (e : Expr) : e.Binds 2 := by
  cases hop : e.operator? with
  | some _ => exact .inl (by rw [hop]; rfl)
  | none =>
      have he := level_of_operator? hop
      exact .inr (by omega)

theorem level_of_eq_operator? (h : e.operator? = some op) : e.level = op.level := by
  cases e with
  | binary => cases h; rfl
  | _ => cases h

theorem level_readBack (e : Expr) : e.readBack.level = e.level := by
  cases e with
  | binary => exact level_graft
  | unary op => cases op <;> rfl
  | inList e candidates =>
      cases candidates <;> rfl
  | _ => rfl

theorem operator?_readBack (h : e.operator? = none) : e.readBack.operator? = none := by
  cases e with
  | binary => cases h
  | inList e candidates =>
      cases candidates <;> rfl
  | _ => rfl

theorem operator?_grouped {needed : Bool} (h : e.operator? = none) :
    (grouped needed e).operator? = none := by
  cases needed with
  | true => rfl
  | false => exact h

theorem le_level_grouped {m : Nat} (h : e.Binds m) (hm : m ≤ 7) :
    m ≤ (grouped e.operator?.isSome e.readBack).level := by
  cases hop : e.operator?.isSome with
  | true => exact hm
  | false =>
      rw [Binds, hop] at h
      rw [grouped, if_neg (by simp), level_readBack]
      exact h.resolve_left (by simp)

/-- An operand without parentheses on the left binds at least as tightly as its operator. -/
theorem level_le_of_not_wraps {child : BinaryOp} (h : op.wraps child false = false) :
    op.level ≤ child.level := by
  revert h
  cases op <;> cases child <;> decide

/-- One on the right binds tighter, or is part of a chain. -/
theorem level_lt_of_not_wraps {child : BinaryOp} (h : op.wraps child true = false) :
    op.level < child.level ∨ op.level = child.level ∧ op.level ≠ 3 := by
  revert h
  cases op <;> cases child <;> decide

theorem le_level_left (h : e.Binds op.level) :
    op.level ≤ (grouped (e.operator?.any (op.wraps · false)) e.readBack).level := by
  cases hop : e.operator? with
  | none =>
      rw [Binds, hop] at h
      rw [grouped, if_neg (by simp), level_readBack]
      exact h.resolve_left (by simp)
  | some child =>
      rw [Option.any_some, grouped]
      split
      · exact Nat.le_of_lt (Nat.lt_of_lt_of_le op.level_lt (by decide : 6 ≤ 7))
      · next hwraps =>
          rw [level_readBack, level_of_eq_operator? hop]
          exact level_le_of_not_wraps (Bool.eq_false_iff.2 hwraps)

theorem lt_level_right (h : e.Binds (op.level + 1)) :
    let r := grouped (e.operator?.any (op.wraps · true)) e.readBack
    op.level < r.level ∨ op.level = r.level ∧ op.level ≠ 3 := by
  intro r
  cases hop : e.operator? with
  | none =>
      have hr : r = e.readBack := by simp [r, hop, grouped]
      rw [Binds, hop] at h
      rw [hr, level_readBack]
      exact .inl (h.resolve_left (by simp))
  | some child =>
      cases hwraps : op.wraps child true with
      | true =>
          have hr : r = .paren e.readBack := by simp [r, hop, grouped, hwraps]
          rw [hr]
          exact .inl (Nat.lt_of_lt_of_le op.level_lt (by decide : 6 ≤ 7))
      | false =>
          have hr : r = e.readBack := by simp [r, hop, grouped, hwraps]
          rw [hr, level_readBack, level_of_eq_operator? hop]
          exact level_lt_of_not_wraps hwraps

theorem ReadsAs.grouped {ts : List Token} (needed : Bool) (h : ReadsAs (ts.filterMap glyph?) e) :
    ReadsAs ((wrapped needed ts).filterMap glyph?) (grouped needed e) := by
  cases needed with
  | true => simpa [wrapped, inParens, glyph?, Expr.grouped] using h.paren
  | false => exact h

/-! ## Lists and branches -/

theorem stops_closing {p : Nat} {rest : List Token} : Stops p (punct ')' :: rest) := by
  simp [stops_cons, level?]

theorem stops_comma {p : Nat} {rest : List Token} : Stops p (punct ',' :: rest) := by
  simp [stops_cons, level?]

theorem readList_commaSeparated {items : List (List Token)} {es : List Expr}
    (h : List.Forall₂ (fun ts e => ReadsAs (ts.filterMap glyph?) e) items es) (hne : es ≠ []) :
    readList ((commaSeparated items).filterMap glyph? ++ punct ')' :: rest) =
      some (es, rest) := by
  induction h with
  | nil => exact absurd rfl hne
  | @cons ts e items es hfirst hrest ih =>
      cases hrest with
      | nil =>
          have ends : Stops 0 (punct ')' :: rest) := stops_closing
          have first := hfirst.advanced_readAt (Nat.zero_le _) ends
          rw [commaSeparated, List.intercalate_singleton, readList, first]
          rfl
      | @cons us e' items es hsecond hrest =>
          let behind := (commaSeparated (us :: items)).filterMap glyph? ++ punct ')' :: rest
          have written :
              (commaSeparated (ts :: us :: items)).filterMap glyph? ++ punct ')' :: rest =
                ts.filterMap glyph? ++ punct ',' :: behind := by
            rw [commaSeparated, List.intercalate_cons_cons]
            simp [behind, glyph?, commaSeparated]
          have ends : Stops 0 (punct ',' :: behind) := stops_comma
          have first := hfirst.advanced_readAt (Nat.zero_le _) ends
          have others : readList behind = some (e' :: es, rest) := ih (by simp)
          rw [written, readList, first]
          simp only [Option.bind_eq_bind, Option.bind_some, others]

theorem commaSeparated_begins {items : List (List Token)} {es : List Expr}
    (h : List.Forall₂ (fun ts e => ReadsAs (ts.filterMap glyph?) e) items es) (hne : es ≠ [])
    (rest : List Token) :
    ∃ t ts, (commaSeparated items).filterMap glyph? ++ rest = t :: ts ∧ t.begins = true := by
  cases h with
  | nil => exact absurd rfl hne
  | @cons ts e items es hfirst hrest =>
      obtain ⟨t, us, hts, ht⟩ := hfirst.begins
      cases hrest with
      | nil => exact ⟨t, us ++ rest, by simp [commaSeparated, hts], ht⟩
      | cons _ _ =>
          rw [commaSeparated, List.intercalate_cons_cons]
          simp only [List.filterMap_append, hts, List.cons_append]
          exact ⟨t, _, rfl, ht⟩

theorem ReadsAs.head_begins (h : ReadsAs us e) (rest : List Token) :
    ∃ t ts, us ++ rest = t :: ts ∧ t.begins = true := by
  obtain ⟨t, ts, rfl, ht⟩ := h.begins
  exact ⟨t, ts ++ rest, rfl, ht⟩

theorem readSubject_of_begins {t : Token} {ts : List Token} (ht : t.begins = true)
    (h : readAt 0 (t :: ts) = some (e, rest)) : readSubject (t :: ts) = some (some e, rest) := by
  rw [readSubject, h]
  · rfl
  all_goals
    rintro rest heq
    cases heq
    cases ht

theorem readCall_distinct_of_begins {name : String} {t : Token} {ts : List Token}
    {args : List Expr} (ht : t.begins = true) (h : readList (t :: ts) = some (args, rest)) :
    readCall name (keyword .distinct :: t :: ts) = some (.call name args true, rest) := by
  rw [readCall, h]
  · rfl
  · rintro rest heq
    cases heq
    cases ht

theorem readCall_of_begins {name : String} {t : Token} {ts : List Token} {args : List Expr}
    (ht : t.begins = true) (h : readList (t :: ts) = some (args, rest)) :
    readCall name (t :: ts) = some (.call name args false, rest) := by
  rw [readCall, h]
  · rfl
  all_goals
    rintro rest heq
    cases heq
    cases ht

def GoesOn (ts : List Token) : Prop :=
  ∃ k us, ts = keyword k :: us ∧ k ∈ [.whenWord, .elseWord, .endWord]

theorem GoesOn.stops {p : Nat} {ts : List Token} (h : GoesOn ts) : Stops p ts := by
  obtain ⟨k, us, rfl, hk⟩ := h
  have test : k.isTest = false := by
    revert hk
    cases k <;> decide
  simp [stops_cons, level?, test]

def Closes (ts : List Token) : Prop :=
  ∃ k us, ts = keyword k :: us ∧ k ∈ [.elseWord, .endWord]

theorem Closes.goesOn {ts : List Token} (h : Closes ts) : GoesOn ts := by
  obtain ⟨k, us, rfl, hk⟩ := h
  exact ⟨k, us, rfl, List.mem_cons_of_mem _ hk⟩

theorem readBranches_nil (h : Closes rest) : readBranches rest = some ([], rest) := by
  obtain ⟨k, us, rfl, hk⟩ := h
  rw [readBranches]
  rintro ts heq
  cases heq
  revert hk
  decide

theorem readBranches_cons {branches : List (Expr × Expr)} {condition result : Expr}
    (hcondition : ReadsAs us condition) (hresult : ReadsAs vs result) {tail : List Token}
    (htail : GoesOn tail) (h : readBranches tail = some (branches, rest)) :
    readBranches (keyword .whenWord :: (us ++ keyword .thenWord :: (vs ++ tail))) =
      some ((condition, result) :: branches, rest) := by
  have ends : Stops 0 (keyword .thenWord :: (vs ++ tail)) := by
    simp [stops_cons, level?, Keyword.isTest]
  have first := hcondition.advanced_readAt (Nat.zero_le _) ends
  have second := hresult.advanced_readAt (Nat.zero_le _) htail.stops
  rw [readBranches, first]
  simp [second, h]

theorem readOtherwise_endWord :
    readOtherwise (keyword .endWord :: rest) = some (none, keyword .endWord :: rest) := by
  rw [readOtherwise]
  simp

theorem readOtherwise_elseWord (h : ReadsAs us e) :
    readOtherwise (keyword .elseWord :: (us ++ keyword .endWord :: rest)) =
      some (some e, keyword .endWord :: rest) := by
  have ends : Stops 0 (keyword .endWord :: rest) := GoesOn.stops ⟨_, _, rfl, by simp⟩
  rw [readOtherwise, h.readAt_of_stops (Nat.zero_le _) ends]
  rfl

theorem readSubject_none (h : GoesOn rest) : readSubject rest = some (none, rest) := by
  obtain ⟨k, us, rfl, hk⟩ := h
  simp only [List.mem_cons, List.not_mem_nil, or_false] at hk
  rcases hk with rfl | rfl | rfl <;> rw [readSubject]

theorem readSubject_some (h : ReadsAs us e) (hrest : GoesOn rest) :
    readSubject (us ++ rest) = some (some e, rest) := by
  have read := h.readAt_of_stops (Nat.zero_le _) hrest.stops
  obtain ⟨t, ts, heq, ht⟩ := h.head_begins rest
  rw [heq] at read ⊢
  exact readSubject_of_begins ht read

/-! ## Tests and calls -/

theorem ReadsAs.isNull (h : ReadsAs us e) (he : 3 ≤ e.level) (negated : Bool) :
    ReadsAs (us ++ [keyword (if negated then .isNotNull else .isNull)]) (.isNull e negated) := by
  cases negated with
  | false =>
      apply h.test he rfl rfl rfl
      simp [readTest]
  | true =>
      apply h.test he rfl rfl rfl
      simp [readTest]

theorem ReadsAs.inList {items : List (List Token)} {es : List Expr} (h : ReadsAs us e)
    (he : 3 ≤ e.level)
    (list : List.Forall₂ (fun ts e => ReadsAs (ts.filterMap glyph?) e) items es) (hne : es ≠ [])
    (negated : Bool) :
    ReadsAs (us ++ ((negation negated).filterMap glyph? ++ keyword .inWord :: punct '(' ::
      ((commaSeparated items).filterMap glyph? ++ [punct ')']))) (.inList e es negated) := by
  have level : (Expr.inList e es negated).level = 3 := by
    cases es with
    | nil => exact absurd rfl hne
    | cons => rfl
  apply h.negatable he level rfl rfl
  intro rest _
  rw [List.cons_append, List.append_assoc, readTest, List.singleton_append,
    readList_commaSeparated list hne]
  rfl

theorem ReadsAs.between {ws : List Token} {low high : Expr} (h : ReadsAs us e) (he : 3 ≤ e.level)
    (hlow : ReadsAs vs low) (hlow4 : 4 ≤ low.level) (hhigh : ReadsAs ws high)
    (hhigh4 : 4 ≤ high.level) (negated : Bool) :
    ReadsAs (us ++ ((negation negated).filterMap glyph? ++ keyword .betweenWord ::
      (vs ++ operator .and :: ws))) (.between e low high negated) := by
  apply h.negatable he rfl rfl rfl
  intro rest hrest
  have next : Stops 4 (operator .and :: (ws ++ rest)) := by
    simp [stops_cons, level?, BinaryOp.level]
  have first := hlow.advanced_readAt hlow4 next
  have second := hhigh.readAt_of_stops hhigh4 hrest
  simp [readTest, first, second]

theorem ReadsAs.like {pattern : Expr} (h : ReadsAs us e) (he : 3 ≤ e.level)
    (hpattern : ReadsAs vs pattern) (hpattern4 : 4 ≤ pattern.level) (escape : Char)
    (negated : Bool) :
    ReadsAs (us ++ ((negation negated).filterMap glyph? ++ keyword .like ::
      (vs ++ [keyword .escape, string (String.singleton escape)])))
      (.like e pattern escape negated) := by
  apply h.negatable he rfl rfl rfl
  intro rest _
  have next : Stops 4 (keyword .escape :: string (String.singleton escape) :: rest) := by
    simp [stops_cons, level?, Keyword.isTest]
  have first := hpattern.readAt_of_stops hpattern4 next
  simp [readTest, first]

theorem ReadsAs.cast (h : ReadsAs us e) (type : CastType) :
    ReadsAs (keyword .cast :: punct '(' ::
      (us ++ [keyword .asWord, Token.type type, punct ')'])) (.cast e type) := by
  refine .of_readFirst ⟨_, _, rfl, rfl⟩ rfl fun p _ rest _ => ?_
  have next : Stops 0 (keyword .asWord :: Token.type type :: punct ')' :: rest) := by
    simp [stops_cons, level?, Keyword.isTest]
  have read := h.readAt_of_stops (Nat.zero_le _) next
  simp [readFirst, read]

/-- A call with the glyphs of its arguments between the parentheses. -/
theorem ReadsAs.call {name : String} {args : List Expr} {distinct : Bool}
    (h : ∀ rest, readCall name ((if distinct then [keyword .distinct] else []) ++
      (us ++ punct ')' :: rest)) = some (.call name args distinct, rest)) :
    ReadsAs (function name :: punct '(' :: ((if distinct then [keyword .distinct] else []) ++
      (us ++ [punct ')']))) (.call name args distinct) := by
  refine .of_readFirst ⟨_, _, rfl, rfl⟩ rfl fun p _ rest _ => ?_
  have read := h rest
  cases distinct <;> simpa [readFirst] using read

theorem readCall_commaSeparated (name : String) {items : List (List Token)} {args : List Expr}
    (list : List.Forall₂ (fun ts e => ReadsAs (ts.filterMap glyph?) e) items args)
    (distinct : Bool) (rest : List Token) :
    readCall name ((if distinct then [keyword .distinct] else []) ++
      ((commaSeparated items).filterMap glyph? ++ punct ')' :: rest)) =
        some (.call name args distinct, rest) := by
  by_cases hne : args = []
  · subst hne
    cases list
    cases distinct <;> simp [commaSeparated, readCall]
  · have read : readList ((commaSeparated items).filterMap glyph? ++ punct ')' :: rest) =
        some (args, rest) := readList_commaSeparated list hne
    obtain ⟨t, ts, heq, ht⟩ := commaSeparated_begins list hne (punct ')' :: rest)
    rw [heq] at read ⊢
    cases distinct with
    | false => exact readCall_of_begins ht read
    | true => exact readCall_distinct_of_begins ht read

/-! ## Rendered expressions -/

theorem readFirst_column {p : Nat} {name : String} (h : Stops 8 rest) :
    readFirst p (ident name :: rest) = some (.column none name, rest) := by
  have point (ts : List Token) : rest ≠ punct '.' :: ts := by
    rintro rfl
    exact absurd (stops_cons.1 h 8 rfl) (by decide)
  rw [readFirst]
  · rintro ts heq
    exact point _ heq
  · rintro _ ts heq
    exact point _ heq

theorem readFirst_literal {p : Nat} {v : Value} :
    readFirst p (Token.ofValue v :: rest) = some (.literal v, rest) := by
  cases v <;> (rw [Token.ofValue, readFirst] <;> first | rfl | simp)

section

variable {d : Dialect}

mutual

theorem readsAs : ∀ {e : Expr}, (∀ n ∈ e.nodes, n.Upright) →
    ReadsAs ((e.tokens d).filterMap glyph?) e.readBack
  | column none name, _ =>
      .of_readFirst ⟨_, _, rfl, rfl⟩ rfl fun _ _ _ hrest => readFirst_column hrest
  | column (some owner) name, _ =>
      .of_readFirst ⟨_, _, rfl, rfl⟩ rfl fun _ _ _ _ => by
        simp [tokens, qualifier, glyph?, readFirst, readBack]
  | literal v, _ => by
      have glyph : (Token.ofValue v).glyph? = some (Token.ofValue v) := by cases v <;> rfl
      have begins : (Token.ofValue v).begins = true := by cases v <;> rfl
      rw [tokens, List.filterMap_cons_some glyph]
      exact .of_readFirst ⟨_, _, rfl, begins⟩ rfl fun _ _ _ _ => readFirst_literal
  | truth holds, _ => .of_readFirst ⟨_, _, rfl, rfl⟩ rfl fun _ _ _ _ => by
      simp [tokens, glyph?, readFirst, readBack]
  | binary op l r, h => by
      have upright : l.Binds op.level ∧ r.Binds (op.level + 1) := h _ List.mem_cons_self
      simp only [nodes, List.mem_cons, List.mem_append, or_imp, forall_and] at h
      have left := (readsAs h.2.1).grouped (l.operator?.any (op.wraps · false))
      have right := (readsAs h.2.2).grouped (r.operator?.any (op.wraps · true))
      have both := left.binary right (le_level_left upright.1) (lt_level_right upright.2)
      simpa [tokens, asOperand, readBack, glyph?] using both
  | unary .not e, h => by
      simp only [nodes, List.mem_cons, or_imp, forall_and] at h
      have operand := (readsAs h.2).grouped e.operator?.isSome
      simpa [tokens, asSubject, readBack, glyph?] using
        operand.not (le_level_grouped (binds_two e) (by decide))
  | unary .minus e, h => by
      have upright : e.Binds 6 := h _ List.mem_cons_self
      simp only [nodes, List.mem_cons, or_imp, forall_and] at h
      have operand := (readsAs h.2).grouped e.operator?.isSome
      simpa [tokens, asSubject, readBack, glyph?] using
        operand.minus (le_level_grouped upright (by decide))
  | call name args distinct, h => by
      simp only [nodes, List.mem_cons, or_imp, forall_and] at h
      have call := ReadsAs.call (readCall_commaSeparated name (list_readsAs h.2) distinct)
      cases distinct <;> simpa [tokens, inParens, glyph?, readBack] using call
  | choice subject branches otherwise, h => by
      simp only [nodes, List.mem_cons, List.mem_append, or_imp, forall_and] at h
      refine .of_readFirst ⟨_, _, rfl, rfl⟩ rfl fun p _ rest _ => ?_
      have last := otherwise_readBack rest h.2.2
      have middle := branches_readBack last.1 h.2.1.2
      have head := subject_readBack middle.1 h.2.1.1
      have read := readFirst_choice (p := p) head (by simp) middle.2 (by simp) last.2
      simpa [tokens, glyph?, readBack] using read
  | cast e t, h => by
      simp only [nodes, List.mem_cons, or_imp, forall_and] at h
      simpa [tokens, inParens, infixWord, glyph?, readBack] using (readsAs h.2).cast t
  | inList e candidates negated, h => by
      have upright : e.Binds 3 := h _ List.mem_cons_self
      simp only [nodes, List.mem_cons, List.mem_append, or_imp, forall_and] at h
      cases candidates with
      | nil =>
          exact .of_readFirst ⟨_, _, rfl, rfl⟩ rfl fun _ _ _ _ => by
            simp [tokens, glyph?, readFirst, readBack]
      | cons first others =>
          have operand := (readsAs h.2.1).grouped e.operator?.isSome
          have test := operand.inList (le_level_grouped upright (by decide)) (list_readsAs h.2.2)
            (List.cons_ne_nil _ _) negated
          simpa [tokens, asSubject, inParens, readBack, glyph?] using test
  | inQuery .., h => absurd (h _ List.mem_cons_self) id
  | existsIn .., h => absurd (h _ List.mem_cons_self) id
  | between e low high negated, h => by
      have upright : e.Binds 3 ∧ low.Binds 4 ∧ high.Binds 4 := h _ List.mem_cons_self
      simp only [nodes, List.mem_cons, List.mem_append, or_imp, forall_and] at h
      have operand := (readsAs h.2.1.1).grouped e.operator?.isSome
      have lower := (readsAs h.2.1.2).grouped low.operator?.isSome
      have upper := (readsAs h.2.2).grouped high.operator?.isSome
      have test := operand.between (le_level_grouped upright.1 (by decide)) lower
        (le_level_grouped upright.2.1 (by decide)) upper
        (le_level_grouped upright.2.2 (by decide)) negated
      simpa [tokens, asSubject, infixWord, readBack, glyph?] using test
  | isNull e negated, h => by
      have upright : e.Binds 3 := h _ List.mem_cons_self
      simp only [nodes, List.mem_cons, or_imp, forall_and] at h
      have operand := (readsAs h.2).grouped e.operator?.isSome
      have test := operand.isNull (le_level_grouped upright (by decide)) negated
      cases negated <;> simpa [tokens, asSubject, readBack, glyph?] using test
  | like e pattern escape negated, h => by
      have upright : e.Binds 3 ∧ pattern.Binds 4 := h _ List.mem_cons_self
      simp only [nodes, List.mem_cons, List.mem_append, or_imp, forall_and] at h
      have operand := (readsAs h.2.1).grouped e.operator?.isSome
      have wanted := (readsAs h.2.2).grouped pattern.operator?.isSome
      have test := operand.like (le_level_grouped upright.1 (by decide)) wanted
        (le_level_grouped upright.2 (by decide)) escape negated
      simpa [tokens, asSubject, infixWord, readBack, glyph?] using test
  | star none, _ => .of_readFirst ⟨_, _, rfl, rfl⟩ rfl fun _ _ _ _ => by
      simp [tokens, qualifier, glyph?, readFirst, readBack]
  | star (some owner), _ => .of_readFirst ⟨_, _, rfl, rfl⟩ rfl fun _ _ _ _ => by
      simp [tokens, qualifier, glyph?, readFirst, readBack]
  | paren e, h => by
      simp only [nodes, List.mem_cons, or_imp, forall_and] at h
      simpa [tokens, inParens, glyph?, readBack] using (readsAs h.2).paren

theorem list_readsAs : ∀ {es : List Expr}, (∀ n ∈ listNodes es, n.Upright) →
    List.Forall₂ (fun ts e => ReadsAs (ts.filterMap glyph?) e) (listTokens d es) (readBackList es)
  | [], _ => .nil
  | e :: es, h => by
      simp only [listNodes, List.mem_append, or_imp, forall_and] at h
      exact .cons (readsAs h.1) (list_readsAs h.2)

theorem otherwise_readBack (rest : List Token) : ∀ {e : Option Expr},
    (∀ n ∈ optionNodes e, n.Upright) →
    let ts := (leadTokens d (infixWord .elseWord) e).filterMap glyph? ++ keyword .endWord :: rest
    Closes ts ∧ readOtherwise ts = some (readBackOption e, keyword .endWord :: rest)
  | none, _ => ⟨⟨_, _, rfl, by simp⟩, readOtherwise_endWord⟩
  | some e, h => by
      have read : readOtherwise (keyword .elseWord ::
          ((e.tokens d).filterMap glyph? ++ keyword .endWord :: rest)) =
            some (some e.readBack, keyword .endWord :: rest) := readOtherwise_elseWord (readsAs h)
      exact ⟨⟨_, _, rfl, by simp⟩,
        by simpa [leadTokens, infixWord, glyph?, readBackOption] using read⟩

theorem branches_readBack {tail : List Token} (htail : Closes tail) :
    ∀ {branches : List (Expr × Expr)}, (∀ n ∈ branchNodes branches, n.Upright) →
    let ts := (branchTokens d branches).filterMap glyph? ++ tail
    GoesOn ts ∧ readBranches ts = some (readBackBranches branches, tail)
  | [], _ => ⟨htail.goesOn, readBranches_nil htail⟩
  | (condition, result) :: branches, h => by
      simp only [branchNodes, List.mem_append, or_imp, forall_and] at h
      have inner := branches_readBack htail h.2
      have step := readBranches_cons (readsAs h.1.1) (readsAs h.1.2) inner.1 inner.2
      exact ⟨⟨_, _, rfl, by simp⟩,
        by simpa [branchTokens, infixWord, glyph?, readBackBranches] using step⟩

theorem subject_readBack {tail : List Token} (htail : GoesOn tail) : ∀ {e : Option Expr},
    (∀ n ∈ optionNodes e, n.Upright) →
    readSubject ((leadTokens d [space] e).filterMap glyph? ++ tail) = some (readBackOption e, tail)
  | none, _ => readSubject_none htail
  | some e, h => by
      simpa [leadTokens, readBackOption] using readSubject_some (readsAs h) htail

end

end

end Expr

end GridSql
