import GridSql.Sql.Token
import Mathlib.Data.Nat.Init

/-!
# Reading tokens back

Expressions are read with the precedence of standard SQL. From the weakest level to the
tightest: 0 OR, 1 AND, 2 NOT, 3 comparisons and the tests IS, IN, LIKE and BETWEEN, 4 sums,
5 products, 6 the minus sign, 7 all that is complete in itself. Operators of one level are
read from the left.
-/

namespace GridSql

def BinaryOp.level : BinaryOp → Nat
  | or => 0
  | and => 1
  | eq | ne | lt | gt | le | ge => 3
  | add | sub => 4
  | mul | div => 5

namespace Token

/-- What is read of a token. Space is not, and tokens with one text are one token. -/
def glyph? : Token → Option Token
  | space | newline | indent => none
  | keyword .andWord => some (operator .and)
  | punct '-' => some (operator .sub)
  | punct '*' => some (operator .mul)
  | t => some t

@[simp] theorem filterMap_space (ts : List Token) :
    (space :: ts).filterMap glyph? = ts.filterMap glyph? := rfl

/-- The constant that a token is the literal of. -/
def value? : Token → Option Value
  | keyword .null => some .null
  | bool b => some (.bool b)
  | integer n => some (.int n)
  | float x => some (.float x)
  | decimal x => some (.decimal x)
  | string s => some (.text s)
  | date x => some (.date x)
  | timestamp t => some (.timestamp t)
  | _ => none

end Token

namespace Keyword

def isTest : Keyword → Bool
  | isNull | isNotNull | notWord | inWord | betweenWord | like => true
  | _ => false

end Keyword

namespace Expr

open Token

def advanced {α : Type} (ts : List Token) :
    Option (α × List Token) → Option (α × { rest : List Token // rest.length < ts.length })
  | some (a, rest) => if h : rest.length < ts.length then some (a, ⟨rest, h⟩) else none
  | none => none

theorem advanced_some {α : Type} {a : α} {ts rest : List Token} (h : rest.length < ts.length) :
    advanced ts (some (a, rest)) = some (a, ⟨rest, h⟩) :=
  dif_pos h

/-
A reader that is called behind another one is given what that one left of its tokens. It is
by `advanced` that they are known to have become fewer, so that all the readers end.
-/
mutual

def readAt (level : Nat) (ts : List Token) : Option (Expr × List Token) := do
  let (e, ⟨rest, _⟩) ← advanced ts (readFirst level ts)
  readMore level e rest
termination_by (ts.length, 1)

def readFirst (level : Nat) : List Token → Option (Expr × List Token)
  | keyword .notWord :: rest =>
      if level ≤ 2 then do
        let (e, rest) ← readAt 2 rest
        some (.unary .not e, rest)
      else none
  | operator .sub :: rest =>
      if level ≤ 6 then do
        let (e, rest) ← readAt 6 rest
        some (.unary .minus e, rest)
      else none
  | operator .mul :: rest => some (.star none, rest)
  | ident owner :: punct '.' :: operator .mul :: rest => some (.star (some owner), rest)
  | ident owner :: punct '.' :: ident name :: rest => some (.column (some owner) name, rest)
  | ident name :: rest => some (.column none name, rest)
  | predicate holds :: rest => some (.truth holds, rest)
  | punct '(' :: rest => do
      match ← readAt 0 rest with
      | (e, punct ')' :: rest) => some (.paren e, rest)
      | _ => none
  | function name :: punct '(' :: rest => readCall name rest
  | keyword .cast :: punct '(' :: rest => do
      match ← readAt 0 rest with
      | (e, keyword .asWord :: type t :: punct ')' :: rest) => some (.cast e t, rest)
      | _ => none
  | keyword .caseWord :: ts => do
      let (subject, ⟨rest, _⟩) ← advanced (keyword .caseWord :: ts) (readSubject ts)
      let (branches, ⟨rest, _⟩) ← advanced (keyword .caseWord :: ts) (readBranches rest)
      let (otherwise, rest) ← readOtherwise rest
      match rest with
      | keyword .endWord :: rest => some (.choice subject branches otherwise, rest)
      | _ => none
  | t :: rest => t.value?.map fun v => (.literal v, rest)
  | [] => none
termination_by ts => (ts.length, 0)

def readMore (level : Nat) (e : Expr) : List Token → Option (Expr × List Token)
  | operator op :: ts =>
      if level ≤ op.level then do
        let (r, ⟨rest, _⟩) ← advanced ts (readAt (op.level + 1) ts)
        readMore level (.binary op e r) rest
      else some (e, operator op :: ts)
  | keyword k :: ts =>
      if level ≤ 3 ∧ k.isTest = true then do
        let (test, ⟨rest, _⟩) ← advanced (keyword k :: ts) (readTest e false (keyword k :: ts))
        readMore level test rest
      else some (e, keyword k :: ts)
  | rest => some (e, rest)
termination_by ts => (ts.length, 1)

def readTest (e : Expr) (negated : Bool) : List Token → Option (Expr × List Token)
  | keyword .notWord :: rest => if negated then none else readTest e true rest
  | keyword .isNull :: rest => if negated then none else some (.isNull e false, rest)
  | keyword .isNotNull :: rest => if negated then none else some (.isNull e true, rest)
  | keyword .inWord :: punct '(' :: rest => do
      let (candidates, rest) ← readList rest
      some (.inList e candidates negated, rest)
  | keyword .betweenWord :: ts => do
      match ← advanced ts (readAt 4 ts) with
      | (low, ⟨operator .and :: rest, _⟩) => do
          let (high, rest) ← readAt 4 rest
          some (.between e low high negated, rest)
      | _ => none
  | keyword .like :: rest => do
      match ← readAt 4 rest with
      | (pattern, keyword .escape :: string s :: rest) =>
          match s.toList with
          | [c] => some (.like e pattern c negated, rest)
          | _ => none
      | _ => none
  | _ => none
termination_by ts => (ts.length, 0)
decreasing_by all_goals grind

/-- Reads expressions with commas between them up to the closing parenthesis. -/
def readList (ts : List Token) : Option (List Expr × List Token) := do
  match ← advanced ts (readAt 0 ts) with
  | (e, ⟨punct ',' :: rest, _⟩) => do
      let (es, rest) ← readList rest
      some (e :: es, rest)
  | (e, ⟨punct ')' :: rest, _⟩) => some ([e], rest)
  | _ => none
termination_by (ts.length, 2)
decreasing_by all_goals grind

def readCall (name : String) : List Token → Option (Expr × List Token)
  | keyword .distinct :: punct ')' :: rest => some (.call name [] true, rest)
  | keyword .distinct :: rest => do
      let (args, rest) ← readList rest
      some (.call name args true, rest)
  | punct ')' :: rest => some (.call name [] false, rest)
  | ts => do
      let (args, rest) ← readList ts
      some (.call name args false, rest)
termination_by ts => (ts.length, 3)

def readSubject : List Token → Option (Option Expr × List Token)
  | keyword .whenWord :: rest => some (none, keyword .whenWord :: rest)
  | keyword .elseWord :: rest => some (none, keyword .elseWord :: rest)
  | keyword .endWord :: rest => some (none, keyword .endWord :: rest)
  | ts => do
      let (e, rest) ← readAt 0 ts
      some (some e, rest)
termination_by ts => (ts.length, 2)

def readBranches : List Token → Option (List (Expr × Expr) × List Token)
  | keyword .whenWord :: ts => do
      match ← advanced ts (readAt 0 ts) with
      | (condition, ⟨keyword .thenWord :: rest, _⟩) => do
          let (result, ⟨rest, _⟩) ← advanced rest (readAt 0 rest)
          let (branches, rest) ← readBranches rest
          some ((condition, result) :: branches, rest)
      | _ => none
  | rest => some ([], rest)
termination_by ts => (ts.length, 0)
decreasing_by all_goals grind

def readOtherwise : List Token → Option (Option Expr × List Token)
  | keyword .elseWord :: rest => do
      let (e, rest) ← readAt 0 rest
      some (some e, rest)
  | rest => some (none, rest)
termination_by ts => (ts.length, 0)

end

/-- The expression that tokens are read as, all of them. -/
def read? (tokens : List Token) : Option Expr :=
  match readAt 0 (tokens.filterMap glyph?) with
  | some (e, []) => some e
  | _ => none

/-! ## Single steps -/

variable {p : Nat} {e r test : Expr} {op : BinaryOp} {k : Keyword} {ts rest : List Token}

theorem readAt_of_readFirst (h : readFirst p ts = some (e, rest))
    (hlt : rest.length < ts.length) : readAt p ts = readMore p e rest := by
  rw [readAt, h, advanced_some hlt]
  rfl

theorem readFirst_not (hp : p ≤ 2) (h : readAt 2 ts = some (e, rest)) :
    readFirst p (keyword .notWord :: ts) = some (.unary .not e, rest) := by
  rw [readFirst, if_pos hp, h]
  rfl

theorem readFirst_minus (hp : p ≤ 6) (h : readAt 6 ts = some (e, rest)) :
    readFirst p (operator .sub :: ts) = some (.unary .minus e, rest) := by
  rw [readFirst, if_pos hp, h]
  rfl

theorem readFirst_paren (h : readAt 0 ts = some (e, punct ')' :: rest)) :
    readFirst p (punct '(' :: ts) = some (.paren e, rest) := by
  rw [readFirst, h]
  rfl

theorem readFirst_choice {subject otherwise : Option Expr} {branches : List (Expr × Expr)}
    {middle last : List Token} (hsubject : readSubject ts = some (subject, middle))
    (hmiddle : middle.length ≤ ts.length) (hbranches : readBranches middle = some (branches, last))
    (hlast : last.length ≤ middle.length)
    (hotherwise : readOtherwise last = some (otherwise, keyword .endWord :: rest)) :
    readFirst p (keyword .caseWord :: ts) = some (.choice subject branches otherwise, rest) := by
  have first : middle.length < (keyword .caseWord :: ts).length := Nat.lt_succ_of_le hmiddle
  have second : last.length < (keyword .caseWord :: ts).length :=
    Nat.lt_succ_of_le (Nat.le_trans hlast hmiddle)
  simp [readFirst, hsubject, advanced_some first, hbranches, advanced_some second, hotherwise]

theorem readMore_operator (hp : p ≤ op.level) (h : readAt (op.level + 1) ts = some (r, rest))
    (hlt : rest.length < ts.length) :
    readMore p e (operator op :: ts) = readMore p (.binary op e r) rest := by
  rw [readMore, if_pos hp, h, advanced_some hlt]
  rfl

theorem readMore_test (hp : p ≤ 3) (hk : k.isTest = true)
    (h : readTest e false (keyword k :: ts) = some (test, rest))
    (hlt : rest.length < (keyword k :: ts).length) :
    readMore p e (keyword k :: ts) = readMore p test rest := by
  rw [readMore, if_pos ⟨hp, hk⟩, h, advanced_some hlt]
  rfl

end Expr

namespace BinaryOp

theorem level_lt (op : BinaryOp) : op.level < 6 := by
  cases op <;> decide

theorem level_ne_two (op : BinaryOp) : op.level ≠ 2 := by
  cases op <;> decide

theorem eq_of_level {op op' : BinaryOp} (logical : op.isLogical = true)
    (h : op'.level = op.level) :
    op' = op := by
  revert logical h
  cases op <;> cases op' <;> decide

end BinaryOp

namespace Token

/-- The level of what begins with a token behind an operand. A point binds names tightest. -/
def level? : Token → Option Nat
  | operator op => some op.level
  | keyword k => if k.isTest then some 3 else none
  | punct '.' => some 8
  | _ => none

def begins : Token → Bool
  | keyword k => k ∈ [.notWord, .cast, .caseWord, .null]
  | operator op => op ∈ [.sub, .mul]
  | punct c => c = '('
  | _ => true

def Stops (level : Nat) (ts : List Token) : Prop :=
  ∀ t ∈ ts.head?, ∀ l ∈ t.level?, l < level

theorem Stops.mono {p q : Nat} {ts : List Token} (h : Stops p ts) (hpq : p ≤ q) : Stops q ts :=
  fun t ht l hl => Nat.lt_of_lt_of_le (h t ht l hl) hpq

theorem level?_ne {t : Token} {l : Nat} (h : l ∈ t.level?) : l ≠ 2 ∧ l ≠ 6 := by
  cases t with
  | operator op =>
      cases h
      exact ⟨op.level_ne_two, by have := op.level_lt; omega⟩
  | keyword k =>
      simp only [level?, Option.mem_ite_none_right, Option.mem_some_iff] at h
      omega
  | punct c =>
      rw [level?.eq_def] at h
      split at h
      all_goals simp at *
      omega
  | _ => cases h

/-- Nothing goes on on the levels of NOT and of the minus sign. -/
theorem Stops.of_prefix {p : Nat} {ts : List Token} (hp : p = 2 ∨ p = 6) (h : Stops (p + 1) ts) :
    Stops p ts := by
  intro t ht l hl
  have below := h t ht l hl
  have gap := level?_ne hl
  omega

theorem stops_cons {p : Nat} {t : Token} {ts : List Token} :
    Stops p (t :: ts) ↔ ∀ l ∈ t.level?, l < p := by
  simp [Stops]

end Token

namespace Expr

open Token

theorem readMore_of_stops {p : Nat} {e : Expr} {rest : List Token} (h : Stops p rest) :
    readMore p e rest = some (e, rest) := by
  cases rest with
  | nil => rw [readMore] <;> simp
  | cons t rest =>
      have hlevel := stops_cons.1 h
      cases t with
      | operator op =>
          have hop : op.level < p := hlevel _ rfl
          rw [readMore, if_neg (by omega)]
      | keyword k =>
          rw [readMore, if_neg]
          rintro ⟨hp, hk⟩
          have h3 : 3 < p := hlevel 3 (by simp [level?, hk])
          omega
      | _ => rw [readMore] <;> simp

end Expr

end GridSql
