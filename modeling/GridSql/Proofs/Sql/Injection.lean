import GridSql.Proofs.Sql.Quoting

/-!
# Statements that differ in names and texts

Two statements with the same structure are scanned into the same structure, whatever
their names and texts hold.
-/

namespace GridSql

def Value.erase : Value → Value
  | .text _ => .text ""
  | v => v

def TableRef.erase (t : TableRef) : TableRef :=
  ⟨t.schema.map fun _ => "", "", t.asName.map fun _ => ""⟩

mutual

/-- The expression with empty names and texts. Functions keep their names. -/
def Expr.erase : Expr → Expr
  | .column owner _ => .column (owner.map fun _ => "") ""
  | .literal v => .literal v.erase
  | .truth holds => .truth holds
  | .binary op l r => .binary op l.erase r.erase
  | .unary op e => .unary op e.erase
  | .call name args distinct => .call name (Expr.eraseList args) distinct
  | .choice subject branches otherwise =>
      .choice (Expr.eraseOption subject) (Expr.eraseBranches branches) (Expr.eraseOption otherwise)
  | .cast e t => .cast e.erase t
  | .inList subject candidates negated =>
      .inList subject.erase (Expr.eraseList candidates) negated
  | .inQuery subject query negated => .inQuery subject.erase query.erase negated
  | .existsIn query negated => .existsIn query.erase negated
  | .between subject low high negated => .between subject.erase low.erase high.erase negated
  | .isNull subject negated => .isNull subject.erase negated
  | .like subject pattern _ negated => .like subject.erase pattern.erase ' ' negated
  | .star owner => .star (owner.map fun _ => "")
  | .paren e => .paren e.erase

def Expr.eraseList : List Expr → List Expr
  | [] => []
  | e :: es => e.erase :: Expr.eraseList es

def Expr.eraseOption : Option Expr → Option Expr
  | some e => some e.erase
  | none => none

def Expr.eraseBranches : List (Expr × Expr) → List (Expr × Expr)
  | [] => []
  | (condition, result) :: rest => (condition.erase, result.erase) :: Expr.eraseBranches rest

def SelectItem.eraseList : List SelectItem → List SelectItem
  | [] => []
  | ⟨e, asName⟩ :: items => ⟨e.erase, asName.map fun _ => ""⟩ :: SelectItem.eraseList items

def OrderKey.eraseList : List OrderKey → List OrderKey
  | [] => []
  | ⟨e, direction, nulls⟩ :: keys => ⟨e.erase, direction, nulls⟩ :: OrderKey.eraseList keys

def Query.erase : Query → Query
  | ⟨select, distinct, source, filter, groupBy, having, orderBy, window⟩ =>
      ⟨SelectItem.eraseList select, distinct, source.map TableRef.erase, Expr.eraseOption filter,
        Expr.eraseList groupBy, Expr.eraseOption having, OrderKey.eraseList orderBy, window⟩

end

namespace Token

/-! ## Erased tokens -/

variable {d : Dialect} {ts : List Token}

theorem map_intercalate {separator : List Token} (h : separator.map erase = separator)
    (items : List (List Token)) :
    (List.intercalate separator items).map erase =
      List.intercalate separator (items.map (·.map erase)) := by
  induction items with
  | nil => rfl
  | cons ts items ih =>
      cases items with
      | nil => simp
      | cons us items =>
          simp only [List.map_cons] at ih ⊢
          rw [List.intercalate_cons_cons, List.map_append, List.map_append, ih, h,
            List.intercalate_cons_cons]

theorem map_commaSeparated (items : List (List Token)) :
    (commaSeparated items).map erase = commaSeparated (items.map (·.map erase)) :=
  map_intercalate rfl items

theorem map_inParens : (inParens ts).map erase = inParens (ts.map erase) := by
  simp [inParens, erase]

theorem map_wrapped {needed : Bool} :
    (wrapped needed ts).map erase = wrapped needed (ts.map erase) := by
  cases needed
  · rfl
  · exact map_inParens

theorem map_negation {negated : Bool} : (negation negated).map erase = negation negated := by
  cases negated <;> rfl

theorem map_qualifier {owner : Option String} :
    (qualifier (owner.map fun _ => "")).map erase = (qualifier owner).map erase := by
  cases owner <;> rfl

theorem map_aliased {asName : Option String} :
    (aliased (asName.map fun _ => "")).map erase = (aliased asName).map erase := by
  cases asName <;> rfl

theorem map_ofValue {v : Value} : (ofValue v.erase).erase = (ofValue v).erase := by
  cases v <;> rfl

theorem map_tableRef {t : TableRef} : t.erase.tokens.map erase = t.tokens.map erase := by
  obtain ⟨schema, table, asName⟩ := t
  cases schema <;> cases asName <;> rfl

end Token

section

variable {d : Dialect}

open Token

theorem Expr.operator?_erase {e : Expr} : e.erase.operator? = e.operator? := by
  cases e <;> rfl

theorem Expr.isEmpty_eraseList {es : List Expr} : (Expr.eraseList es).isEmpty = es.isEmpty := by
  cases es <;> rfl

theorem OrderKey.isEmpty_eraseList {keys : List OrderKey} :
    (OrderKey.eraseList keys).isEmpty = keys.isEmpty := by
  rcases keys with _ | ⟨⟨⟩, _⟩ <;> rfl

attribute [local simp] map_commaSeparated map_inParens map_wrapped map_negation map_qualifier
  map_aliased Expr.operator?_erase Expr.isEmpty_eraseList Token.erase infixWord
  asSubject asOperand

mutual

theorem Expr.erase_tokens :
    ∀ e : Expr, (e.erase.tokens d).map Token.erase = (e.tokens d).map Token.erase
  | .column .. => by
      simp [Expr.erase, Expr.tokens]
  | .literal _ => congrArg (fun t => [t]) map_ofValue
  | .truth _ => rfl
  | .binary op l r => by
      simp [Expr.erase, Expr.tokens, Expr.erase_tokens l, Expr.erase_tokens r]
  | .unary op e => by
      simp [Expr.erase, Expr.tokens, Expr.erase_tokens e]
  | .call name args distinct => by
      cases distinct <;> simp [Expr.erase, Expr.tokens, Expr.list_erase_tokens args]
  | .choice subject branches otherwise => by
      simp [Expr.erase, Expr.tokens, Expr.lead_erase_tokens _ subject,
        Expr.branch_erase_tokens branches, Expr.lead_erase_tokens _ otherwise]
  | .cast e t => by
      simp [Expr.erase, Expr.tokens, Expr.erase_tokens e]
  | .inList subject candidates negated => by
      rw [Expr.erase, Expr.tokens, Expr.tokens, Expr.isEmpty_eraseList]
      split
      · rfl
      · simp [Expr.erase_tokens subject, Expr.list_erase_tokens candidates]
  | .inQuery subject query negated => by
      simp [Expr.erase, Expr.tokens, Expr.erase_tokens subject, Query.erase_tokens query]
  | .existsIn query negated => by
      simp [Expr.erase, Expr.tokens, Query.erase_tokens query]
  | .between subject low high negated => by
      simp [Expr.erase, Expr.tokens, Expr.erase_tokens subject, Expr.erase_tokens low,
        Expr.erase_tokens high]
  | .isNull subject negated => by
      simp [Expr.erase, Expr.tokens, Expr.erase_tokens subject]
  | .like subject pattern escape negated => by
      simp [Expr.erase, Expr.tokens, Expr.erase_tokens subject, Expr.erase_tokens pattern]
  | .star owner => by
      simp [Expr.erase, Expr.tokens]
  | .paren e => by
      simp [Expr.erase, Expr.tokens, Expr.erase_tokens e]

theorem Expr.list_erase_tokens : ∀ es : List Expr,
    (Expr.listTokens d (Expr.eraseList es)).map (·.map Token.erase) =
      (Expr.listTokens d es).map (·.map Token.erase)
  | [] => rfl
  | e :: es => by
      simp [Expr.eraseList, Expr.listTokens, Expr.erase_tokens e, Expr.list_erase_tokens es]

theorem Expr.lead_erase_tokens (lead : List Token) : ∀ e : Option Expr,
    (Expr.leadTokens d lead (Expr.eraseOption e)).map Token.erase =
      (Expr.leadTokens d lead e).map Token.erase
  | none => rfl
  | some e => by
      simp [Expr.eraseOption, Expr.leadTokens, Expr.erase_tokens e]

theorem Expr.branch_erase_tokens : ∀ branches : List (Expr × Expr),
    (Expr.branchTokens d (Expr.eraseBranches branches)).map Token.erase =
      (Expr.branchTokens d branches).map Token.erase
  | [] => rfl
  | (condition, result) :: rest => by
      simp [Expr.eraseBranches, Expr.branchTokens, Expr.erase_tokens condition,
        Expr.erase_tokens result, Expr.branch_erase_tokens rest]

theorem SelectItem.list_erase_tokens : ∀ items : List SelectItem,
    (SelectItem.listTokens d (SelectItem.eraseList items)).map (·.map Token.erase) =
      (SelectItem.listTokens d items).map (·.map Token.erase)
  | [] => rfl
  | ⟨e, asName⟩ :: items => by
      simp [SelectItem.eraseList, SelectItem.listTokens, SelectItem.tokens, Expr.erase_tokens e,
        SelectItem.list_erase_tokens items]

theorem OrderKey.list_erase_tokens : ∀ keys : List OrderKey,
    (OrderKey.listTokens d (OrderKey.eraseList keys)).map (·.map Token.erase) =
      (OrderKey.listTokens d keys).map (·.map Token.erase)
  | [] => rfl
  | ⟨e, direction, nulls⟩ :: keys => by
      simp [OrderKey.eraseList, OrderKey.listTokens, OrderKey.tokens, Expr.erase_tokens e,
        OrderKey.list_erase_tokens keys]

theorem Query.erase_tokens : ∀ q : Query,
    (q.erase.tokens d).map Token.erase = (q.tokens d).map Token.erase
  | ⟨select, distinct, source, filter, groupBy, having, orderBy, window⟩ => by
      have items : (List.intercalate [punct ','] (SelectItem.listTokens d
          (SelectItem.eraseList select))).map Token.erase =
          (List.intercalate [punct ','] (SelectItem.listTokens d select)).map Token.erase := by
        rw [map_intercalate rfl, map_intercalate rfl, SelectItem.list_erase_tokens select]
      rw [Query.erase, Query.tokens.eq_def, Query.tokens.eq_def]
      dsimp only
      simp only [List.map_cons, List.map_append, items, Expr.lead_erase_tokens,
        Expr.isEmpty_eraseList, OrderKey.isEmpty_eraseList, apply_ite (List.map Token.erase),
        map_commaSeparated, Expr.list_erase_tokens groupBy, OrderKey.list_erase_tokens orderBy]
      cases source with
      | none => rfl
      | some t => simp [map_tableRef]

end

end

/-! ## The texts of statements -/

namespace Token

variable {d : Dialect} {ts us : List Token}

theorem filter_flatMap_lexemes :
    (ts.flatMap (lexemes d)).filter (·.isBlock) = ts.flatMap (quoted d) := by
  rw [List.filter_flatMap]
  simp only [filter_lexemes]

theorem shape_flatMap_lexemes :
    ((ts.map erase).flatMap (lexemes d)).map Lexeme.shape =
      (ts.flatMap (lexemes d)).map Lexeme.shape := by
  simp only [List.map_flatMap, List.flatMap_map, shape_lexemes]

/-- The text of tokens is scanned into their quoted parts, which do not shape the rest. -/
theorem scan_wellSpaced (spaced : WellSpaced ts) :
    ∃ ls, d.scan (serializeAll d ts).toList = some ls ∧
      ls.filter (·.isBlock) = ts.flatMap (quoted d) ∧
      ∀ us, us.map erase = ts.map erase →
        ∃ ls', d.scan (serializeAll d us).toList = some ls' ∧
          ls'.map Lexeme.shape = ls.map Lexeme.shape := by
  refine ⟨_, scan_serializeAll spaced.spacedBy, filter_flatMap_lexemes, fun us same => ?_⟩
  have spaced' : WellSpaced us := by
    rwa [← wellSpaced_erase, same, wellSpaced_erase]
  refine ⟨_, scan_serializeAll spaced'.spacedBy, ?_⟩
  rw [← shape_flatMap_lexemes, same, shape_flatMap_lexemes]

end Token

namespace Dialect

/--
Scanning the text of an expression or statement succeeds and finds, besides single
characters, the quoted names and texts of its tokens in their order. Whatever names and
texts stand there instead, the structure of the scanned text is the same.
-/
theorem scan_toSql (d : Dialect) :
    (∀ e : Expr, (∀ n ∈ e.nodes, n.Plain) →
      ∃ ls, d.scan (e.toSql d).toList = some ls ∧
        ls.filter (·.isBlock) = (e.tokens d).flatMap (Token.quoted d) ∧
        ∀ e' : Expr, e'.erase = e.erase →
          ∃ ls', d.scan (e'.toSql d).toList = some ls' ∧
            ls'.map Lexeme.shape = ls.map Lexeme.shape) ∧
    ∀ q : Query, (∀ n ∈ q.nodes, n.Plain) →
      ∃ ls, d.scan (q.toSql d).toList = some ls ∧
        ls.filter (·.isBlock) = (q.tokens d).flatMap (Token.quoted d) ∧
        ∀ q' : Query, q'.erase = q.erase →
          ∃ ls', d.scan (q'.toSql d).toList = some ls' ∧
            ls'.map Lexeme.shape = ls.map Lexeme.shape := by
  refine ⟨fun e plain => ?_, fun q plain => ?_⟩
  · obtain ⟨ls, hscan, hquoted, hshape⟩ := Token.scan_wellSpaced (Expr.wellSpaced (d := d) plain)
    refine ⟨ls, hscan, hquoted, fun e' same => hshape _ ?_⟩
    rw [← Expr.erase_tokens e', same, Expr.erase_tokens e]
  · obtain ⟨ls, hscan, hquoted, hshape⟩ := Token.scan_wellSpaced (Query.wellSpaced (d := d) plain)
    refine ⟨ls, hscan, hquoted, fun q' same => hshape _ ?_⟩
    rw [← Query.erase_tokens q', same, Query.erase_tokens q]

def likeQuery (column text : String) : Query :=
  ((Query.empty.withSelect [⟨.count (.col column), some text⟩]).withSource
    { table := column }).where_ (.like (.col column) (.ofText text) '\\' false)

theorem plain_likeQuery (column text : String) :
    ∀ n ∈ (likeQuery column text).nodes, n.Plain := by
  have nodes : (likeQuery column text).nodes =
      [.count (.col column), .col column, .like (.col column) (.ofText text) '\\' false,
        .col column, .ofText text] := rfl
  have function : (Expr.count (.col column)).Plain := by
    exact (by decide : Text.IsWord "COUNT")
  intro n hn
  rw [nodes] at hn
  simp only [List.mem_cons, List.not_mem_nil, or_false] at hn
  rcases hn with rfl | rfl | rfl | rfl | rfl
  · exact function
  all_goals trivial

/-- Quotes, backslashes and comment marks stay inside the quotes. -/
theorem scan_toSql_likeQuery :
    ∃ ls, mySql.scan ((likeQuery "a\x60 --" "it's \\' OR 1 = 1 /*").toSql mySql).toList = some ls ∧
      ls.filter (·.isBlock) =
        [.name "a\x60 --", .name "it's \\' OR 1 = 1 /*", .name "a\x60 --", .name "a\x60 --",
          .text false "it's \\' OR 1 = 1 /*", .text false "\\"] ∧
      ∃ ls', mySql.scan ((likeQuery "" "").toSql mySql).toList = some ls' ∧
        ls'.map Lexeme.shape = ls.map Lexeme.shape := by
  obtain ⟨ls, hscan, hquoted, hshape⟩ :=
    (scan_toSql mySql).2 _ (plain_likeQuery "a\x60 --" "it's \\' OR 1 = 1 /*")
  exact ⟨ls, hscan, hquoted, hshape (likeQuery "" "") rfl⟩

end Dialect

end GridSql
