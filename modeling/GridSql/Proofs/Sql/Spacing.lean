import GridSql.Sql.Render
import GridSql.Proofs.Sql.Written
import Mathlib.Data.List.Chain

/-!
# Spaces between tokens

Between any two names, words, numbers and texts of a statement stands a space, a line end,
a parenthesis, a comma or a point. Only behind a minus sign in front of an operand there is
nothing: what begins the operand stands next to the sign.
-/

namespace GridSql

def Text.IsWord (s : String) : Prop :=
  ∀ c ∈ s.toList, c.isAlphanum = true ∨ c = '_'

instance (s : String) : Decidable (Text.IsWord s) :=
  List.decidableBAll _ s.toList

namespace Token

/-- Whether a token can stand on both sides of any other. -/
def separates : Token → Bool
  | space | newline | indent => true
  | punct c => c ∈ ['(', ')', ',', '.']
  | _ => false

/-- Whether a token is no minus sign and no function with a name that is none. -/
def Plain : Token → Prop
  | punct c => c ∈ ['(', ')', ',', '.', '*']
  | function name => Text.IsWord name
  | _ => True

def WellSpaced (tokens : List Token) : Prop :=
  (∀ t ∈ tokens, t.Plain) ∧ tokens.IsChain fun a b => a.separates = true ∨ b.separates = true

variable {allowed : Token → Prop} {s t : Token} {ts us : List Token}

theorem plain_of_separates (h : t.separates = true) : t.Plain := by
  cases t with
  | punct c =>
      have hc : c ∈ ['(', ')', ',', '.'] := of_decide_eq_true h
      exact List.mem_append_left ['*'] hc
  | function name => cases h
  | _ => trivial

@[simp] theorem separates_space : separates .space = true := by decide

@[simp] theorem separates_newline : separates .newline = true := by decide

@[simp] theorem separates_indent : separates .indent = true := by decide

@[simp] theorem separates_point : separates (.punct '.') = true := by decide

@[simp] theorem separates_comma : separates (.punct ',') = true := by decide

@[simp] theorem separates_opening : separates (.punct '(') = true := by decide

@[simp] theorem separates_closing : separates (.punct ')') = true := by decide

/-- Whether a token is plain or, if tokens are allowed behind minus signs, such a sign. -/
def IsPiece (allowed : Token → Prop) (t : Token) : Prop :=
  t.Plain ∨ t = punct '-' ∧ ∃ u, allowed u

/-- Whether of any two neighbours one separates, or a minus sign is followed by an allowed token. -/
def SpacedBy (allowed : Token → Prop) (ts : List Token) : Prop :=
  (∀ t ∈ ts, t.IsPiece allowed) ∧
    ts.IsChain fun a b => a.separates = true ∨ b.separates = true ∨ a = punct '-' ∧ allowed b

def Begins (ts : List Token) : Prop :=
  ∀ t ∈ ts.head?, t.separates = true

theorem isPiece_of_separates (h : t.separates = true) : t.IsPiece allowed :=
  .inl (plain_of_separates h)

/-- Tokens without minus signs are those that allow nothing behind one. -/
theorem wellSpaced_iff : WellSpaced ts ↔ SpacedBy (fun _ => False) ts := by
  simp [WellSpaced, SpacedBy, IsPiece]

theorem WellSpaced.spacedBy (h : WellSpaced ts) : SpacedBy allowed ts :=
  ⟨fun t ht => .inl (h.1 t ht), h.2.imp fun _ _ hab => hab.imp_right .inl⟩

/-! ## Lists of tokens -/

@[simp] theorem spacedBy_nil : SpacedBy allowed [] := by
  simp [SpacedBy]

@[simp] theorem spacedBy_singleton : SpacedBy allowed [t] ↔ t.IsPiece allowed := by
  simp [SpacedBy]

theorem spacedBy_cons_iff :
    SpacedBy allowed (t :: ts) ↔
      t.IsPiece allowed ∧ (∀ u ∈ ts.head?, t.separates = true ∨ u.separates = true ∨
        t = punct '-' ∧ allowed u) ∧ SpacedBy allowed ts := by
  simp only [SpacedBy, List.forall_mem_cons, List.isChain_cons]
  tauto

theorem spacedBy_cons (h : s.separates = true) :
    SpacedBy allowed (s :: ts) ↔ SpacedBy allowed ts := by
  simp [spacedBy_cons_iff, h, isPiece_of_separates h]

theorem spacedBy_append (h : Begins us) :
    SpacedBy allowed (ts ++ us) ↔ SpacedBy allowed ts ∧ SpacedBy allowed us := by
  have joined (a b : Token) (hb : b ∈ us.head?) :
      a.separates = true ∨ b.separates = true ∨ a = punct '-' ∧ allowed b :=
    .inr (.inl (h b hb))
  simp only [SpacedBy, List.isChain_append, List.forall_mem_append]
  constructor
  · rintro ⟨⟨hts, hus⟩, cts, cus, -⟩
    exact ⟨⟨hts, cts⟩, hus, cus⟩
  · rintro ⟨⟨hts, cts⟩, hus, cus⟩
    exact ⟨⟨hts, hus⟩, cts, cus, fun a _ b hb => joined a b hb⟩

theorem spacedBy_cons_begins (h : Begins ts) :
    SpacedBy allowed (t :: ts) ↔ t.IsPiece allowed ∧ SpacedBy allowed ts := by
  rw [← List.singleton_append, spacedBy_append h, spacedBy_singleton]

/-- A minus sign needs an allowed token or one that separates behind it. -/
theorem spacedBy_minus :
    SpacedBy allowed (punct '-' :: ts) ↔
      (∃ u, allowed u) ∧ (∀ t ∈ ts.head?, t.separates = true ∨ allowed t) ∧
        SpacedBy allowed ts := by
  have noSeparator : (punct '-').separates = false := rfl
  simp [spacedBy_cons_iff, noSeparator, IsPiece, Plain]

theorem begins_nil : Begins [] := by
  simp [Begins]

theorem begins_cons (h : s.separates = true) : Begins (s :: ts) := by
  simp [Begins, h]

theorem begins_append (hts : Begins ts) (hus : Begins us) : Begins (ts ++ us) := by
  cases ts with
  | nil => exact hus
  | cons t ts => exact hts

/-! ## Common groups of tokens -/

attribute [local simp] spacedBy_cons spacedBy_append spacedBy_cons_begins begins_cons begins_nil
  IsPiece Plain

theorem spacedBy_inParens : SpacedBy allowed (inParens ts) ↔ SpacedBy allowed ts := by
  simp [inParens]

theorem begins_inParens : Begins (inParens ts) := begins_cons separates_opening

theorem spacedBy_wrapped {needed : Bool} :
    SpacedBy allowed (wrapped needed ts) ↔ SpacedBy allowed ts := by
  cases needed <;> simp [wrapped, spacedBy_inParens]

theorem spacedBy_negation {negated : Bool} :
    SpacedBy allowed (negation negated ++ ts) ↔ SpacedBy allowed ts := by
  cases negated <;> simp [negation]

theorem spacedBy_qualifier {owner : Option String} :
    SpacedBy allowed (qualifier owner ++ ts) ↔ SpacedBy allowed ts := by
  cases owner <;> simp [qualifier]

theorem begins_aliased {asName : Option String} : Begins (aliased asName) := by
  cases asName <;> simp [aliased]

theorem spacedBy_aliased {asName : Option String} : SpacedBy allowed (aliased asName) := by
  cases asName <;> simp [aliased]

theorem spacedBy_separators {gap : List Token} (hgap : ∀ t ∈ gap, t.separates = true) :
    SpacedBy allowed (gap ++ ts) ↔ SpacedBy allowed ts := by
  induction gap with
  | nil => exact Iff.rfl
  | cons s gap ih =>
      obtain ⟨hs, hgap⟩ := List.forall_mem_cons.1 hgap
      rw [List.cons_append, spacedBy_cons hs, ih hgap]

theorem spacedBy_intercalate {gap : List Token} (hgap : ∀ t ∈ gap, t.separates = true)
    {items : List (List Token)} :
    SpacedBy allowed (List.intercalate (punct ',' :: gap) items) ↔
      ∀ ts ∈ items, SpacedBy allowed ts := by
  induction items with
  | nil => simp
  | cons ts items ih =>
      cases items with
      | nil => simp
      | cons us items =>
          rw [List.intercalate_cons_cons, List.append_assoc, List.cons_append,
            spacedBy_append (begins_cons separates_comma), spacedBy_cons separates_comma,
            spacedBy_separators hgap, List.forall_mem_cons, ih]

theorem spacedBy_commaSeparated {items : List (List Token)} :
    SpacedBy allowed (commaSeparated items) ↔ ∀ ts ∈ items, SpacedBy allowed ts :=
  spacedBy_intercalate (by simp)

theorem spacedBy_window {d : Dialect} {w : Window} : SpacedBy allowed (d.windowTokens w) := by
  obtain ⟨limit, offset⟩ := w
  unfold Dialect.windowTokens
  split
  · cases limit <;> simp [Dialect.windowBound]
  · cases limit <;> cases offset <;> simp [Dialect.windowBound]

end Token

namespace Token

variable {allowed : Token → Prop} {d : Dialect}

attribute [local simp] spacedBy_cons spacedBy_append spacedBy_cons_begins begins_cons begins_nil
  begins_append begins_aliased spacedBy_aliased spacedBy_wrapped spacedBy_inParens begins_inParens
  spacedBy_negation spacedBy_qualifier spacedBy_commaSeparated infixWord asSubject asOperand
  IsPiece Token.Plain

theorem listTokens_eq (es : List Expr) : Expr.listTokens d es = es.map (·.tokens d) := by
  induction es with
  | nil => rfl
  | cons e es ih => rw [Expr.listTokens, ih, List.map_cons]

theorem begins_leadTokens {lead : List Token} (hlead : lead ≠ []) (begins : Begins lead)
    (e? : Option Expr) : Begins (Expr.leadTokens d lead e?) := by
  cases e? with
  | none => exact begins_nil
  | some e =>
      obtain ⟨s, rest, rfl⟩ := List.exists_cons_of_ne_nil hlead
      exact begins

theorem begins_branchTokens (branches : List (Expr × Expr)) :
    Begins (Expr.branchTokens d branches) := by
  rcases branches with _ | ⟨⟨condition, result⟩, rest⟩ <;> simp [Expr.branchTokens]

theorem spacedBy_branchTokens (branches : List (Expr × Expr)) :
    SpacedBy allowed (Expr.branchTokens d branches) ↔
      ∀ branch ∈ branches, SpacedBy allowed (branch.1.tokens d) ∧
        SpacedBy allowed (branch.2.tokens d) := by
  induction branches with
  | nil => simp [Expr.branchTokens]
  | cons branch rest ih =>
      obtain ⟨condition, result⟩ := branch
      simp [Expr.branchTokens, ih, begins_branchTokens, and_assoc]

theorem spacedBy_leadTokens {lead : List Token}
    (hlead : ∀ ts, SpacedBy allowed (lead ++ ts) ↔ SpacedBy allowed ts) (e? : Option Expr) :
    SpacedBy allowed (Expr.leadTokens d lead e?) ↔ ∀ e ∈ e?, SpacedBy allowed (e.tokens d) := by
  cases e? with
  | none => simp [Expr.leadTokens]
  | some e => simpa [Expr.leadTokens] using hlead (e.tokens d)

theorem spacedBy_orderKey (key : OrderKey) :
    SpacedBy allowed (key.tokens d) ↔ SpacedBy allowed (key.expr.tokens d) := by
  obtain ⟨e, direction, nulls⟩ := key
  rw [OrderKey.tokens.eq_def]
  rcases direction with _ | _ | _ <;> rcases nulls with _ | _ | _ <;>
    cases d.spelling.supportsNullsOrder <;> simp

theorem orderKeyTokens_eq (keys : List OrderKey) :
    OrderKey.listTokens d keys = keys.map (·.tokens d) := by
  induction keys with
  | nil => rfl
  | cons key keys ih => rw [OrderKey.listTokens, ih, List.map_cons]

theorem selectTokens_eq (items : List SelectItem) :
    SelectItem.listTokens d items =
      items.map fun item => newline :: indent :: (item.expr.tokens d ++ aliased item.asName) := by
  induction items with
  | nil => rfl
  | cons item items ih =>
      obtain ⟨e, asName⟩ := item
      rw [SelectItem.listTokens, ih, List.map_cons, SelectItem.tokens]

/-- Whether tokens can stand behind any others and are spaced exactly if `p` holds. -/
structure IsClause (allowed : Token → Prop) (ts : List Token) (p : Prop) : Prop where
  begins : Begins ts
  spaced : SpacedBy allowed ts ↔ p

variable {ts us : List Token} {p q : Prop}

theorem isClause_nil : IsClause allowed [] True :=
  ⟨begins_nil, by simp⟩

theorem IsClause.append (hts : IsClause allowed ts p) (hus : IsClause allowed us q) :
    IsClause allowed (ts ++ us) (p ∧ q) :=
  ⟨begins_append hts.begins hus.begins, by rw [spacedBy_append hus.begins, hts.spaced, hus.spaced]⟩

theorem IsClause.congr (h : IsClause allowed ts p) (hpq : p ↔ q) : IsClause allowed ts q :=
  ⟨h.begins, h.spaced.trans hpq⟩

theorem isClause_leadTokens {lead : List Token} (nonempty : lead ≠ []) (begins : Begins lead)
    (hlead : ∀ ts, SpacedBy allowed (lead ++ ts) ↔ SpacedBy allowed ts) (e? : Option Expr) :
    IsClause allowed (Expr.leadTokens d lead e?) (∀ e ∈ e?, SpacedBy allowed (e.tokens d)) :=
  ⟨begins_leadTokens nonempty begins e?, spacedBy_leadTokens hlead e?⟩

theorem isClause_selectTokens (items : List SelectItem) :
    IsClause allowed (List.intercalate [punct ','] (SelectItem.listTokens d items))
      (∀ item ∈ items, SpacedBy allowed (item.expr.tokens d)) where
  begins := by
    rw [selectTokens_eq]
    rcases items with _ | ⟨item, _ | ⟨next, rest⟩⟩
    · exact begins_nil
    · simp
    · rw [List.map_cons, List.map_cons, List.intercalate_cons_cons]
      simp
  spaced := by
    rw [selectTokens_eq, spacedBy_intercalate (by simp)]
    simp

end Token

namespace Query

variable {allowed : Token → Prop} {d : Dialect}

open Token

attribute [local simp] spacedBy_cons spacedBy_append spacedBy_cons_begins begins_cons
  spacedBy_commaSeparated listTokens_eq orderKeyTokens_eq spacedBy_orderKey spacedBy_inParens
  begins_inParens IsPiece Token.Plain

theorem spacedBy_line (k : Keyword) (ts : List Token) :
    SpacedBy allowed ([newline, keyword k, space] ++ ts) ↔ SpacedBy allowed ts := by
  simp

theorem isClause_distinct (distinct : Bool) :
    IsClause allowed (if distinct then [space, keyword .distinct] else []) True := by
  cases distinct
  · exact isClause_nil
  · exact ⟨by simp, by simp⟩

theorem isClause_source (source : Option TableRef) :
    IsClause allowed
      (match source with
        | some t => [newline, keyword .fromWord, space] ++ t.tokens
        | none => []) True := by
  cases source with
  | none => exact isClause_nil
  | some t => exact ⟨by simp, by simp [TableRef.tokens, begins_aliased, spacedBy_aliased]⟩

theorem isClause_groupBy (keys : List Expr) :
    IsClause allowed
      (if keys.isEmpty then []
        else [newline, keyword .groupBy, space] ++ commaSeparated (Expr.listTokens d keys))
      (∀ e ∈ keys, SpacedBy allowed (e.tokens d)) := by
  cases keys with
  | nil => exact isClause_nil.congr (by simp)
  | cons e es => exact ⟨by simp, by simp⟩

theorem isClause_orderBy (keys : List OrderKey) (window : Option Window) :
    IsClause allowed
      (if !keys.isEmpty then
        [newline, keyword .orderBy, space] ++ commaSeparated (OrderKey.listTokens d keys)
      else if window.isSome && d.spelling.fetchesAfterOrder then
        [newline, keyword .orderBy, space] ++ inParens [keyword .select, space, keyword .null]
      else [])
      (∀ key ∈ keys, SpacedBy allowed (key.expr.tokens d)) := by
  cases keys with
  | nil =>
      cases window.isSome && d.spelling.fetchesAfterOrder
      · exact isClause_nil.congr (by simp)
      · exact ⟨by simp, by simp⟩
  | cons key keys => exact ⟨by simp, by simp⟩

theorem isClause_window (window : Option Window) :
    IsClause allowed
      (match window with
        | some w => newline :: d.windowTokens w
        | none => []) True := by
  cases window with
  | none => exact isClause_nil
  | some w => exact ⟨by simp, by simp [spacedBy_window]⟩

theorem spacedBy_tokens (q : Query) :
    SpacedBy allowed (q.tokens d) ↔ ∀ e ∈ q.exprs, SpacedBy allowed (e.tokens d) := by
  obtain ⟨select, distinct, source, filter, groupBy, having_, orderBy, window⟩ := q
  rw [Query.tokens.eq_def]
  dsimp only
  have hfilter := isClause_leadTokens (d := d) (by simp) (by simp)
    (@spacedBy_line allowed .whereWord) filter
  have hhaving := isClause_leadTokens (d := d) (by simp) (by simp)
    (@spacedBy_line allowed .having) having_
  have clauses := (((((((isClause_distinct distinct).append (isClause_selectTokens (d := d) select))
    |>.append (isClause_source source)).append hfilter).append (isClause_groupBy (d := d) groupBy))
      |>.append hhaving).append (isClause_orderBy (d := d) orderBy window))
        |>.append (isClause_window (d := d) window)
  refine (spacedBy_cons_begins clauses.begins).trans ?_
  have word : (keyword .select).IsPiece allowed := .inl trivial
  simp only [clauses.spaced, word, Query.exprs, List.forall_mem_append, List.forall_mem_map,
    Option.mem_toList, Option.mem_def, true_and, and_true]

end Query

namespace Expr

variable {allowed : Token → Prop} {d : Dialect} {e : Expr}

open Token

/-- What the tokens of an expression need beside what those of its operands do. -/
def Fits (allowed : Token → Prop) (d : Dialect) : Expr → Prop
  | .call name _ _ => Text.IsWord name
  | .unary .minus e =>
      (∃ u, allowed u) ∧
        (e.operator? = none → ∀ t ∈ (e.tokens d).head?, t.separates = true ∨ allowed t)
  | _ => True

attribute [local simp] spacedBy_cons spacedBy_append spacedBy_cons_begins begins_cons begins_nil
  begins_append begins_aliased spacedBy_aliased spacedBy_wrapped spacedBy_inParens begins_inParens
  spacedBy_negation spacedBy_qualifier spacedBy_commaSeparated infixWord asSubject asOperand
  IsPiece Token.Plain Fits written listTokens_eq

/-- Tokens are spaced if those of all operands are and the expression itself fits. -/
theorem spacedBy_tokens (e : Expr) :
    SpacedBy allowed (e.tokens d) ↔
      e.Fits allowed d ∧ ∀ c ∈ e.written, SpacedBy allowed (c.tokens d) := by
  cases e with
  | column owner name => simp [Expr.tokens]
  | literal v => cases v <;> simp [Expr.tokens, Token.ofValue]
  | truth holds => simp [Expr.tokens]
  | binary op l r => simp [Expr.tokens]
  | unary op e =>
      cases op with
      | not => simp [Expr.tokens]
      | minus =>
          rw [Expr.tokens, List.singleton_append, spacedBy_minus]
          have head : (∀ t ∈ (asSubject e (e.tokens d)).head?, t.separates = true ∨ allowed t) ↔
              (e.operator? = none →
                ∀ t ∈ (e.tokens d).head?, t.separates = true ∨ allowed t) := by
            cases h : e.operator? <;> simp [wrapped, inParens, h]
          rw [head]
          simp [and_assoc]
  | call name args distinct => cases distinct <;> simp [Expr.tokens, inParens]
  | choice subject branches otherwise =>
      have hsubject := isClause_leadTokens (d := d) (by simp) (begins_cons separates_space)
        (fun ts => @spacedBy_separators allowed ts [space] (by simp)) subject
      have hbranches : IsClause allowed (Expr.branchTokens d branches) _ :=
        ⟨begins_branchTokens branches, spacedBy_branchTokens branches⟩
      have hotherwise : IsClause allowed (Expr.leadTokens d (infixWord .elseWord) otherwise) _ :=
        isClause_leadTokens (by simp) (by simp) (by simp) otherwise
      have hend : IsClause allowed [space, keyword .endWord] True := ⟨by simp, by simp⟩
      have clauses := ((hsubject.append hbranches).append hotherwise).append hend
      have word : (keyword .caseWord).IsPiece allowed := .inl trivial
      rw [Expr.tokens]
      refine (spacedBy_cons_begins clauses.begins).trans ?_
      simp only [clauses.spaced, word, Fits, written, List.forall_mem_append, List.forall_mem_map,
        Option.mem_toList, Option.mem_def, forall₂_and, true_and, and_true, and_assoc]
  | cast e type => simp [Expr.tokens]
  | inList subject candidates negated =>
      rw [Expr.tokens]
      split <;> simp [*]
  | inQuery subject query negated => simp [Expr.tokens, query.spacedBy_tokens]
  | existsIn query negated => simp [Expr.tokens, query.spacedBy_tokens]
  | between subject low high negated => simp [Expr.tokens]
  | isNull subject negated => simp [Expr.tokens]
  | like subject pattern escape negated => simp [Expr.tokens]
  | star owner => simp [Expr.tokens]
  | paren e => simp [Expr.tokens]

theorem spacedBy_tokens_iff (e : Expr) :
    SpacedBy allowed (e.tokens d) ↔ ∀ n : Expr, n.WrittenIn e → n.Fits allowed d := by
  have operands : (∀ c ∈ e.written, SpacedBy allowed (c.tokens d)) ↔
      ∀ c ∈ e.written, ∀ n : Expr, n.WrittenIn c → n.Fits allowed d :=
    forall₂_congr fun c hc => spacedBy_tokens_iff c
  rw [spacedBy_tokens, operands]
  constructor
  · rintro ⟨own, inner⟩ n hn
    rcases writtenIn_iff.1 hn with rfl | ⟨c, hc, hn⟩
    · exact own
    · exact inner c hc n hn
  · intro all
    exact ⟨all e (.self e), fun c hc n hn => all n (.inside hc hn)⟩
termination_by sizeOf e
decreasing_by exact sizeOf_written hc

/-- Whether an expression itself is no minus sign and no call of a function without a name. -/
def Plain : Expr → Prop
  | .unary .minus _ => False
  | .call name _ _ => Text.IsWord name
  | _ => True

theorem Plain.fits {n : Expr} (h : n.Plain) : n.Fits allowed d := by
  cases n with
  | call => exact h
  | unary op e => cases op <;> trivial
  | _ => trivial

theorem wellSpaced (plain : ∀ n ∈ e.nodes, n.Plain) : WellSpaced (e.tokens d) :=
  wellSpaced_iff.2 (e.spacedBy_tokens_iff.2 fun n hn => (plain n hn.mem_nodes).fits)

end Expr

theorem Query.wellSpaced {d : Dialect} {q : Query} (plain : ∀ n ∈ q.nodes, n.Plain) :
    Token.WellSpaced (q.tokens d) := by
  refine Token.wellSpaced_iff.2 (q.spacedBy_tokens.2 fun e he => Token.wellSpaced_iff.1 ?_)
  exact Expr.wellSpaced fun n hn => plain n (Expr.mem_nodes_of_exprs he hn)

end GridSql
