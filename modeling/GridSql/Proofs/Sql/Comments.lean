import GridSql.Proofs.Sql.Quoting

/-!
# Comments in rendered expressions

No comment begins in the text of an expression, except where a unary minus stands before an
operand whose own text begins with a minus sign: the two signs are written next to each other
and hide the rest of the line.
-/

namespace GridSql

/-! ## Texts that begin with a minus sign -/

namespace Token

variable {d : Dialect} {t : Token}

theorem leads_minus : (punct '-').Leads d := by
  simp [Leads, serialize]

theorem exists_not_leads : ∃ t : Token, ¬ t.Leads d :=
  ⟨space, not_leads_of_separates separates_space⟩

end Token

def Value.isNegative : Value → Bool
  | .int n => n.toInt < 0
  | .float x => Binary64.isFinite x && Binary64.signBit x
  | .decimal x => x.coeff < 0
  | _ => false

namespace Token

variable {d : Dialect}

open Dialect

theorem head?_ne_minus {cs : List Char} (h : ∀ c ∈ cs.head?, Inert c) : cs.head? ≠ some '-' := by
  exact fun head => absurd (h '-' head) (by decide)

theorem head?_signed {sign : Bool} {cs : List Char} (h : ∀ c ∈ cs.head?, Inert c) :
    ((if sign then ['-'] else []) ++ cs).head? = some '-' ↔ sign = true := by
  cases sign <;> simp [head?_ne_minus h]

theorem inert_digits {n : Nat} : ∀ c ∈ (Nat.toDigits 10 n).head?, Inert c :=
  fun _ hc => inert_of_mem_toDigits (List.mem_of_mem_head? hc)

theorem leads_integer (n : Int64) : (integer n).Leads d ↔ n.toInt < 0 := by
  rw [Leads, serialize, Decimal.toList_toString_int]
  split
  · next positive => simp [head?_ne_minus inert_digits, positive]
  · next negative => simpa using negative

theorem leads_decimal (x : Decimal) : (decimal x).Leads d ↔ x.coeff < 0 := by
  have magnitude : ∀ c ∈ (if x.scale = 0 then Nat.toDigits 10 (x.coeff.natAbs / tenTo x.scale)
      else Nat.toDigits 10 (x.coeff.natAbs / tenTo x.scale) ++
        '.' :: Decimal.paddedDigits x.scale (x.coeff.natAbs % tenTo x.scale)).head?, Inert c := by
    split
    · exact inert_digits
    · intro c hc
      rw [List.head?_append] at hc
      cases hdigits : (Nat.toDigits 10 (x.coeff.natAbs / tenTo x.scale)).head? with
      | some digit =>
          rw [hdigits] at hc
          cases hc
          exact inert_digits _ hdigits
      | none =>
          rw [hdigits] at hc
          cases hc
          decide
  rw [Leads, serialize, Decimal.toText, String.toList_ofList, Decimal.toChars]
  split
  · next negative => simp [negative]
  · next positive => exact iff_of_false (head?_ne_minus magnitude) positive

theorem leads_float (x : Float) :
    (float x).Leads d ↔ Binary64.isFinite x = true ∧ Binary64.signBit x = true := by
  rw [Leads, serialize]
  split
  · next finite =>
      have number : Binary64.isNaN x = false := by
        simp only [Binary64.isFinite, ne_eq, decide_eq_true_eq] at finite
        simp [Binary64.isNaN, finite]
      have zero : ∀ c ∈ (['0', '.', '0'] : List Char).head?, Inert c := by simp [Inert, opening]
      have inert : ∀ c ∈ (Binary64.shortest (Binary64.magnitude x)).digits, Inert c :=
        fun _ => inert_of_mem_shortest
      have positive := bare_positive inert
      simp only [Binary64.Layout.text, String.toList_ofList, Binary64.Layout.chars, number, finite,
        Bool.false_eq_true, if_false, Bool.not_true, true_and]
      split
      · exact head?_signed zero
      · exact head?_signed positive.2
  · next infinite => exact iff_of_false (by decide) (by simp [infinite])

theorem not_leads_quoteText (s : String) : (d.quoteText s).toList.head? ≠ some '-' := by
  unfold quoteText
  dsimp only
  split <;> simp

theorem not_leads_datedLiteral {type : String} {c : Char} (text : String)
    (htype : type.toList.head? = some c) (hc : c ≠ '-') :
    (d.datedLiteral type text).toList.head? ≠ some '-' := by
  have self (s : String) : toString s = s := rfl
  unfold datedLiteral
  split <;> simp [self, htype, hc]

theorem leads_ofValue (v : Value) : (ofValue v).Leads d ↔ v.isNegative = true := by
  cases v with
  | int n => exact (leads_integer n).trans decide_eq_true_iff.symm
  | float x => exact (leads_float x).trans (Bool.and_eq_true_iff).symm
  | decimal x => exact (leads_decimal x).trans decide_eq_true_iff.symm
  | null =>
      have word : Keyword.null.text.toList.head? ≠ some '-' := by decide
      exact iff_of_false word Bool.false_ne_true
  | bool b =>
      have word : (d.boolValue b).toList.head? ≠ some '-' := by
        cases d <;> cases b <;> decide
      exact iff_of_false word Bool.false_ne_true
  | text s => exact iff_of_false (not_leads_quoteText s) Bool.false_ne_true
  | date x =>
      have name : "DATE".toList.head? = some 'D' := rfl
      exact iff_of_false (not_leads_datedLiteral _ name (by decide)) Bool.false_ne_true
  | timestamp x =>
      have name : "TIMESTAMP".toList.head? = some 'T' := rfl
      exact iff_of_false (not_leads_datedLiteral _ name (by decide)) Bool.false_ne_true

theorem not_leads_keyword (k : Keyword) : ¬ (keyword k).Leads d := by
  have word : k.text.toList.head? ≠ some '-' := by cases k <;> decide
  exact word

theorem not_leads_ident (name : String) : ¬ (ident name).Leads d := by
  have quoted : (d.quoteName name).toList.head? ≠ some '-' := by
    cases d <;> simp [quoteName, spelling]
  exact quoted

theorem not_leads_predicate (holds : Bool) : ¬ (predicate holds).Leads d := by
  have word : (d.boolPredicate holds).toList.head? ≠ some '-' := by
    cases d <;> cases holds <;> decide
  exact word

theorem not_leads_function {name : String} (hname : Text.IsWord name) :
    ¬ (function name).Leads d := by
  rw [Leads, serialize.eq_def]
  dsimp only
  have known : ∀ own ∈ d.spelling.functionNames, own.2.toList.head? ≠ some '-' := by
    cases d <;> decide
  rcases functionName_cases d hname with ⟨own, hown, spelled⟩ | inert
  · exact spelled ▸ known own hown
  · exact head?_ne_minus fun c hc => inert c (List.mem_of_mem_head? hc)

def FirstLeads (d : Dialect) (ts : List Token) : Prop :=
  ∃ t ∈ ts.head?, t.Leads d

variable {t : Token} {ts us : List Token}

theorem firstLeads_cons : FirstLeads d (t :: ts) ↔ t.Leads d := by
  simp [FirstLeads]

theorem firstLeads_append (h : ts ≠ []) : FirstLeads d (ts ++ us) ↔ FirstLeads d ts := by
  obtain ⟨t, ts, rfl⟩ := List.exists_cons_of_ne_nil h
  rw [List.cons_append, firstLeads_cons, firstLeads_cons]

theorem wrapped_ne_nil {needed : Bool} (h : ts ≠ []) : wrapped needed ts ≠ [] := by
  cases needed
  · exact h
  · simp [wrapped, inParens]

theorem firstLeads_wrapped {needed : Bool} :
    FirstLeads d (wrapped needed ts) ↔ needed = false ∧ FirstLeads d ts := by
  cases needed with
  | false => simp [wrapped]
  | true =>
      have opening : ¬ (punct '(').Leads d := not_leads_of_separates separates_opening
      simp [wrapped, inParens, firstLeads_cons, opening]

end Token

/-! ## Expressions that begin with a minus sign -/

namespace Expr

variable {d : Dialect} {e : Expr}

open Token

/-- Whether an expression is no call of a function whose name is no word. -/
def HasPlainName : Expr → Prop
  | .call name _ _ => Text.IsWord name
  | _ => True

def leadsWithMinus : Expr → Bool
  | .literal v => v.isNegative
  | .unary op _ => op = .minus
  | .binary op l _ => !l.operator?.any (op.wraps · false) && l.leadsWithMinus
  | .inList e candidates _ => !candidates.isEmpty && !e.operator?.isSome && e.leadsWithMinus
  | .inQuery e _ _ | .between e _ _ _ | .isNull e _ | .like e _ _ _ =>
      !e.operator?.isSome && e.leadsWithMinus
  | _ => false

theorem tokens_ne_nil (e : Expr) : e.tokens d ≠ [] := by
  cases e with
  | unary op e => cases op <;> simp [Expr.tokens]
  | inList subject candidates negated =>
      rw [Expr.tokens]
      split <;> simp
  | _ => simp [Expr.tokens, inParens]

theorem firstLeads_asSubject (e : Expr) (ts : List Token) :
    FirstLeads d (asSubject e (e.tokens d) ++ ts) ↔
      (!e.operator?.isSome) = true ∧ FirstLeads d (e.tokens d) := by
  rw [asSubject, firstLeads_append (wrapped_ne_nil e.tokens_ne_nil), firstLeads_wrapped,
    Bool.not_eq_true']

theorem firstLeads_asOperand (op : BinaryOp) (e : Expr) (onRight : Bool) (ts : List Token) :
    FirstLeads d (asOperand op e onRight (e.tokens d) ++ ts) ↔
      (!e.operator?.any (op.wraps · onRight)) = true ∧ FirstLeads d (e.tokens d) := by
  rw [asOperand, firstLeads_append (wrapped_ne_nil e.tokens_ne_nil), firstLeads_wrapped,
    Bool.not_eq_true']

/-- The first token of an expression begins with a minus sign if its text has to. -/
theorem firstLeads_tokens (e : Expr) (named : ∀ n : Expr, n.WrittenIn e → n.HasPlainName) :
    FirstLeads d (e.tokens d) ↔ e.leadsWithMinus = true := by
  have inner (c : Expr) (hc : c ∈ e.written) :
      FirstLeads d (c.tokens d) ↔ c.leadsWithMinus = true :=
    firstLeads_tokens c fun n hn => named n (.inside hc hn)
  have word (k : Keyword) (ts : List Token) : FirstLeads d (keyword k :: ts) ↔ False :=
    firstLeads_cons.trans (iff_false_intro (not_leads_keyword k))
  cases e with
  | column owner name =>
      cases owner <;>
        simp [Expr.tokens, qualifier, firstLeads_cons, not_leads_ident, leadsWithMinus]
  | literal v =>
      rw [Expr.tokens, firstLeads_cons]
      exact leads_ofValue v
  | truth holds => simp [Expr.tokens, firstLeads_cons, not_leads_predicate, leadsWithMinus]
  | binary op l r =>
      rw [Expr.tokens, List.append_assoc, firstLeads_asOperand, inner l (by simp [written]),
        leadsWithMinus, Bool.and_eq_true]
  | unary op e =>
      cases op with
      | not => simp [Expr.tokens, word, leadsWithMinus]
      | minus => simp [Expr.tokens, firstLeads_cons, leads_minus, leadsWithMinus]
  | call name args distinct =>
      rw [Expr.tokens, firstLeads_cons]
      exact iff_of_false (not_leads_function (named _ (.self _))) Bool.false_ne_true
  | choice subject branches otherwise => simp [Expr.tokens, word, leadsWithMinus]
  | cast e type => simp [Expr.tokens, word, leadsWithMinus]
  | inList subject candidates negated =>
      rw [Expr.tokens]
      split
      · next empty => simp [firstLeads_cons, not_leads_predicate, leadsWithMinus, empty]
      · next filled =>
          simp only [List.append_assoc]
          rw [firstLeads_asSubject, inner subject (by simp [written, filled])]
          simp [leadsWithMinus, filled]
  | existsIn query negated =>
      cases negated <;> simp [Expr.tokens, negation, word, leadsWithMinus]
  | inQuery subject | between subject | isNull subject | like subject =>
      simp only [Expr.tokens, List.append_assoc]
      rw [firstLeads_asSubject, inner subject (by simp [written]), leadsWithMinus, Bool.and_eq_true]
  | star owner =>
      have mark : ¬ (punct '*').Leads d := by simp [Leads, serialize]
      cases owner <;>
        simp [Expr.tokens, qualifier, firstLeads_cons, not_leads_ident, mark, leadsWithMinus]
  | paren e =>
      have opening : ¬ (punct '(').Leads d := not_leads_of_separates separates_opening
      simp [Expr.tokens, inParens, firstLeads_cons, opening, leadsWithMinus]
termination_by sizeOf e
decreasing_by exact sizeOf_written hc

end Expr

/-! ## Scanning next to minus signs -/

namespace Token

variable {d : Dialect} {allowed : Token → Prop} {t : Token} {ts : List Token}

open Dialect

theorem scan_line {rest : List Char} :
    d.scan ('-' :: '-' :: rest) =
      (d.scan (('-' :: rest).dropWhile (· ≠ '\n'))).map (.comment :: ·) := by
  apply scan_cons
  rw [readLexeme, if_neg (by cases d <;> decide), if_neg (by decide), if_neg (by simp),
    if_pos (by simp)]

theorem chars_of_firstLeads (h : FirstLeads d ts) : ∃ rest, chars d ts = '-' :: rest := by
  obtain ⟨u, hu, leads⟩ := h
  obtain ⟨us, rfl⟩ := List.head?_eq_some_iff.1 hu
  obtain ⟨cs, hcs⟩ := List.head?_eq_some_iff.1 leads
  exact ⟨cs ++ chars d us, by rw [chars_cons, hcs, List.cons_append]⟩

theorem comment_notMem_lexemes : Lexeme.comment ∉ t.lexemes d := by
  intro h
  have block : Lexeme.comment ∈ t.quoted d := by
    rw [← filter_lexemes]
    exact List.mem_filter.2 ⟨h, rfl⟩
  cases t with
  | table schema name => cases schema <;> simp [quoted] at block
  | _ => simp [quoted] at block

/-- Where a minus sign stands before another one a comment is scanned. -/
theorem comment_mem_scan (spaced : SpacedBy allowed ts)
    (doubled : ¬ SpacedBy (fun t => ¬ t.Leads d) ts) {ls : List Lexeme}
    (h : d.scan (chars d ts) = some ls) : Lexeme.comment ∈ ls := by
  induction ts generalizing ls with
  | nil => exact absurd spacedBy_nil doubled
  | cons t ts ih =>
      obtain ⟨piece, next, rest⟩ := spacedBy_cons_iff.1 spaced
      by_cases here : t = punct '-' ∧ FirstLeads d ts
      · obtain ⟨rfl, leads⟩ := here
        obtain ⟨left, hleft⟩ := chars_of_firstLeads leads
        rw [chars_cons, serialize_minus, hleft, List.singleton_append, scan_line] at h
        obtain ⟨ls', -, rfl⟩ := Option.map_eq_some_iff.1 h
        exact List.mem_cons_self
      · have single : t = punct '-' → ∀ u ∈ ts.head?, ¬ u.Leads d :=
          fun minus u hu leads => here ⟨minus, u, hu, leads⟩
        rw [scan_piece spaced single] at h
        obtain ⟨ls', hscan, rfl⟩ := Option.map_eq_some_iff.1 h
        refine List.mem_append_right _ (ih rest (fun later => doubled ?_) hscan)
        have own : t.IsPiece fun t => ¬ t.Leads d :=
          piece.imp_right fun sign => ⟨sign.1, exists_not_leads⟩
        refine spacedBy_cons_iff.2 ⟨own, fun u hu => ?_, later⟩
        rcases next u hu with h | h | ⟨minus, -⟩
        · exact .inl h
        · exact .inr (.inl h)
        · exact .inr (.inr ⟨minus, single minus u hu⟩)

/-- No comment is scanned exactly if no minus sign stands before another one. -/
theorem scan_comment_iff (spaced : SpacedBy allowed ts) :
    (∃ ls, d.scan (serializeAll d ts).toList = some ls ∧ Lexeme.comment ∉ ls) ↔
      SpacedBy (fun t => ¬ t.Leads d) ts := by
  constructor
  · rintro ⟨ls, hscan, without⟩
    rw [toList_serializeAll] at hscan
    by_contra doubled
    exact without (comment_mem_scan spaced doubled hscan)
  · intro single
    refine ⟨_, scan_serializeAll single, ?_⟩
    simp [comment_notMem_lexemes]

end Token

namespace Expr

variable {d : Dialect}

open Token

/-- Whether an expression is a minus sign before an operand that begins with one. -/
def doublesMinus : Expr → Bool
  | .unary .minus e => !e.operator?.isSome && e.leadsWithMinus
  | _ => false

/-- Beside its operands an expression needs that its minus sign, if any, is not doubled. -/
theorem fits_iff {n : Expr} (named : ∀ m : Expr, m.WrittenIn n → m.HasPlainName) :
    n.Fits (fun t => ¬ t.Leads d) d ↔ n.doublesMinus = false := by
  have own := named n (.self n)
  cases n with
  | call name args distinct => exact iff_of_true own rfl
  | unary op e =>
      cases op with
      | not => exact iff_of_true trivial rfl
      | minus =>
          have first := firstLeads_tokens (d := d) e fun m hm =>
            named m (.inside List.mem_cons_self hm)
          have single : (∀ t ∈ (e.tokens d).head?, t.separates = true ∨ ¬ t.Leads d) ↔
              ¬ FirstLeads d (e.tokens d) := by
            constructor
            · rintro h ⟨t, ht, leads⟩
              exact (h t ht).elim (not_leads_of_separates · leads) (· leads)
            · exact fun h t ht => .inr fun leads => h ⟨t, ht, leads⟩
          rw [Fits, single, first]
          cases h : e.operator? <;> simp [doublesMinus, h, exists_not_leads]
  | _ => exact iff_of_true trivial rfl

theorem HasPlainName.fits {n : Expr} (h : n.HasPlainName) : n.Fits (fun _ => True) d := by
  cases n with
  | call => exact h
  | unary op e =>
      cases op with
      | not => trivial
      | minus => exact ⟨⟨.space, trivial⟩, fun _ _ _ => .inr trivial⟩
  | _ => trivial

/-- The tokens of an expression hold no doubled sign exactly if none of its operands does. -/
theorem spacedBy_iff_not_doublesMinus (e : Expr) (named : ∀ n ∈ e.nodes, n.HasPlainName) :
    SpacedBy (fun t => ¬ t.Leads d) (e.tokens d) ↔
      ∀ n : Expr, n.WrittenIn e → n.doublesMinus = false := by
  rw [spacedBy_tokens_iff]
  exact forall₂_congr fun n hn => fits_iff fun m hm => named m (hm.trans hn).mem_nodes

theorem spacedBy_true (e : Expr) (named : ∀ n ∈ e.nodes, n.HasPlainName) :
    SpacedBy (fun _ => True) (e.tokens d) :=
  e.spacedBy_tokens_iff.2 fun n hn => (named n hn.mem_nodes).fits

end Expr

namespace Dialect

/--
No comment is scanned in the text of an expression or statement exactly if nothing that is
written of it is a unary minus before an operand whose own text begins with a minus sign.
-/
theorem scan_toSql_comment_iff (d : Dialect) :
    (∀ e : Expr, (∀ n ∈ e.nodes, n.HasPlainName) →
      ((∃ ls, d.scan (e.toSql d).toList = some ls ∧ Lexeme.comment ∉ ls) ↔
        ∀ n : Expr, n.WrittenIn e → n.doublesMinus = false)) ∧
    ∀ q : Query, (∀ n ∈ q.nodes, n.HasPlainName) →
      ((∃ ls, d.scan (q.toSql d).toList = some ls ∧ Lexeme.comment ∉ ls) ↔
        ∀ e ∈ q.exprs, ∀ n : Expr, n.WrittenIn e → n.doublesMinus = false) := by
  constructor
  · intro e named
    rw [Expr.toSql, Token.scan_comment_iff (e.spacedBy_true named),
      e.spacedBy_iff_not_doublesMinus named]
  · intro q named
    have own (e : Expr) (he : e ∈ q.exprs) : ∀ n ∈ e.nodes, n.HasPlainName :=
      fun n hn => named n (Expr.mem_nodes_of_exprs he hn)
    have spaced : Token.SpacedBy (fun _ => True) (q.tokens d) :=
      q.spacedBy_tokens.2 fun e he => e.spacedBy_true (own e he)
    rw [Query.toSql, Token.scan_comment_iff spaced, q.spacedBy_tokens]
    exact forall₂_congr fun e he => e.spacedBy_iff_not_doublesMinus (own e he)

def negatedProduct : Expr :=
  .binary .mul (.unary .minus (.col "a")) (.ofInt (-5))

theorem mem_nodes_negatedProduct {n : Expr} (h : n ∈ negatedProduct.nodes) :
    n.HasPlainName ∧ n.doublesMinus = false := by
  have nodes : negatedProduct.nodes =
      [negatedProduct, .unary .minus (.col "a"), .col "a", .ofInt (-5)] := rfl
  rw [nodes] at h
  simp only [List.mem_cons, List.not_mem_nil, or_false] at h
  rcases h with rfl | rfl | rfl | rfl <;> exact ⟨trivial, rfl⟩

theorem scan_toSql_comment_negatedProduct :
    (∃ ls, mySql.scan (negatedProduct.toSql mySql).toList = some ls ∧ Lexeme.comment ∉ ls) ∧
      ∃ ls, mySql.scan ((Query.empty.where_ negatedProduct).toSql mySql).toList = some ls ∧
        Lexeme.comment ∉ ls := by
  have query : ∀ n ∈ (Query.empty.where_ negatedProduct).nodes, n ∈ negatedProduct.nodes := by
    intro n hn
    exact hn
  have only : ∀ e ∈ (Query.empty.where_ negatedProduct).exprs, e = negatedProduct := by
    intro e he
    simpa [Query.exprs, Query.empty, Query.where_, Query.andInto, default] using he
  constructor
  · refine ((scan_toSql_comment_iff mySql).1 negatedProduct fun n hn =>
      (mem_nodes_negatedProduct hn).1).2 fun n hn => ?_
    exact (mem_nodes_negatedProduct hn.mem_nodes).2
  · refine ((scan_toSql_comment_iff mySql).2 _ fun n hn =>
      (mem_nodes_negatedProduct (query n hn)).1).2 fun e he n hn => ?_
    exact (mem_nodes_negatedProduct (only e he ▸ hn).mem_nodes).2

/-- Two signs before a number open a comment in every dialect. -/
theorem not_scan_toSql_without_comment :
    (∀ n ∈ (Expr.unary .minus (.ofInt (-5))).nodes, n.HasPlainName) ∧
      ∀ d : Dialect, ¬ ∃ ls, d.scan ((Expr.unary .minus (.ofInt (-5))).toSql d).toList = some ls ∧
        Lexeme.comment ∉ ls := by
  constructor
  · intro n hn
    have nodes : (Expr.unary .minus (.ofInt (-5))).nodes =
        [.unary .minus (.ofInt (-5)), .ofInt (-5)] := rfl
    rw [nodes] at hn
    simp only [List.mem_cons, List.not_mem_nil, or_false] at hn
    rcases hn with rfl | rfl <;> trivial
  · rintro d ⟨ls, hscan, without⟩
    have text : ((Expr.unary .minus (.ofInt (-5))).toSql d).toList = ['-', '-', '5'] := by
      cases d <;> decide
    rw [text, Token.scan_line] at hscan
    obtain ⟨ls', -, rfl⟩ := Option.map_eq_some_iff.1 hscan
    exact without List.mem_cons_self

end Dialect

end GridSql
