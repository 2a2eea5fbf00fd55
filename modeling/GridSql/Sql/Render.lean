import GridSql.Sql.Dialect

/-!
# Writing statements

The tokens of expressions and queries. Parentheses stand where precedence needs
them and around every AND inside an OR and every OR inside an AND.
-/

namespace GridSql

namespace BinaryOp

/-- How tightly an operator binds. -/
def precedence : BinaryOp → Nat
  | or => 1
  | and => 2
  | eq | ne | lt | gt | le | ge => 3
  | add | sub => 4
  | mul | div => 5

/-- Whether operands of the same precedence can be regrouped. -/
def regroups : BinaryOp → Bool
  | add | mul => true
  | _ => false

/-- Whether an operand with operator `child` has to be put in parentheses. -/
def wraps (parent child : BinaryOp) (onRight : Bool) : Bool :=
  if parent.isLogical && child.isLogical then
    parent != child
  else
    child.precedence < parent.precedence ||
      (child.precedence == parent.precedence &&
        (onRight || parent.precedence == 3) && !parent.regroups)

end BinaryOp

namespace Expr

def operator? : Expr → Option BinaryOp
  | binary op _ _ => some op
  | _ => none

end Expr

namespace Token

def inParens (tokens : List Token) : List Token :=
  punct '(' :: tokens ++ [punct ')']

def wrapped (needed : Bool) (tokens : List Token) : List Token :=
  if needed then inParens tokens else tokens

def negation (negated : Bool) : List Token :=
  if negated then [keyword .notWord, space] else []

/-- A name with a point behind it, for a qualified column. -/
def qualifier : Option String → List Token
  | some owner => [ident owner, punct '.']
  | none => []

def aliased : Option String → List Token
  | some name => [space, keyword .asWord, space, ident name]
  | none => []

def infixWord (k : Keyword) : List Token :=
  [space, keyword k, space]

/-- The tokens of an operand of a predicate: two operands are put in parentheses. -/
def asSubject (e : Expr) (tokens : List Token) : List Token :=
  wrapped e.operator?.isSome tokens

def asOperand (op : BinaryOp) (e : Expr) (onRight : Bool) (tokens : List Token) :
    List Token :=
  wrapped (e.operator?.any (op.wraps · onRight)) tokens

end Token

namespace TableRef

def tokens (t : TableRef) : List Token :=
  .table t.schema t.table :: Token.aliased t.asName

end TableRef

open Token in
mutual

/-- The tokens of an expression. -/
def Expr.tokens (d : Dialect) : Expr → List Token
  | .column owner name => qualifier owner ++ [ident name]
  | .literal v => [Token.ofValue v]
  | .truth holds => [predicate holds]
  | .binary op l r =>
      asOperand op l false (l.tokens d) ++ [space, operator op, space] ++
        asOperand op r true (r.tokens d)
  | .unary op e =>
      let mark := match op with
        | .not => [keyword .notWord, space]
        | .minus => [punct '-']
      mark ++ asSubject e (e.tokens d)
  | .call name args distinct =>
      let word := if distinct then [keyword .distinct, space] else []
      function name :: inParens (word ++ commaSeparated (Expr.listTokens d args))
  | .choice subject branches otherwise =>
      keyword .caseWord :: Expr.leadTokens d [space] subject ++
        Expr.branchTokens d branches ++
        Expr.leadTokens d (infixWord .elseWord) otherwise ++ [space, keyword .endWord]
  | .cast e t =>
      keyword .cast :: inParens (e.tokens d ++ infixWord .asWord ++ [type t])
  | .inList subject candidates negated =>
      -- an empty list is no valid statement; nothing is in it
      if candidates.isEmpty then [predicate negated]
      else
        asSubject subject (subject.tokens d) ++ space :: negation negated ++
          [keyword .inWord, space] ++
          inParens (commaSeparated (Expr.listTokens d candidates))
  | .inQuery subject query negated =>
      asSubject subject (subject.tokens d) ++ space :: negation negated ++
        [keyword .inWord, space] ++ inParens (query.tokens d)
  | .existsIn query negated =>
      negation negated ++ [keyword .existsWord, space] ++ inParens (query.tokens d)
  | .between subject low high negated =>
      asSubject subject (subject.tokens d) ++ space :: negation negated ++
        [keyword .betweenWord, space] ++ asSubject low (low.tokens d) ++
        infixWord .andWord ++ asSubject high (high.tokens d)
  | .isNull subject negated =>
      asSubject subject (subject.tokens d) ++
        [space, keyword (if negated then .isNotNull else .isNull)]
  | .like subject pattern escape negated =>
      asSubject subject (subject.tokens d) ++ space :: negation negated ++
        [keyword .like, space] ++ asSubject pattern (pattern.tokens d) ++
        infixWord .escape ++ [string (String.singleton escape)]
  | .star owner => qualifier owner ++ [punct '*']
  | .paren e => inParens (e.tokens d)

def Expr.listTokens (d : Dialect) : List Expr → List (List Token)
  | [] => []
  | e :: es => e.tokens d :: Expr.listTokens d es

def Expr.leadTokens (d : Dialect) (lead : List Token) : Option Expr → List Token
  | some e => lead ++ e.tokens d
  | none => []

def Expr.branchTokens (d : Dialect) : List (Expr × Expr) → List Token
  | [] => []
  | (condition, result) :: rest =>
      infixWord .whenWord ++ condition.tokens d ++ infixWord .thenWord ++
        result.tokens d ++ Expr.branchTokens d rest

def SelectItem.tokens (d : Dialect) : SelectItem → List Token
  | ⟨e, asName⟩ => e.tokens d ++ aliased asName

def SelectItem.listTokens (d : Dialect) : List SelectItem → List (List Token)
  | [] => []
  | item :: items => (newline :: indent :: item.tokens d) :: SelectItem.listTokens d items

def OrderKey.tokens (d : Dialect) : OrderKey → List Token
  | ⟨e, direction, nulls⟩ =>
      let direction := match direction with
        | some .asc => [space, keyword .asc]
        | some .desc => [space, keyword .desc]
        | none => []
      let nulls := match nulls with
        | some .first => [space, keyword .nullsFirst]
        | some .last => [space, keyword .nullsLast]
        | none => []
      e.tokens d ++ direction ++ if d.spelling.supportsNullsOrder then nulls else []

def OrderKey.listTokens (d : Dialect) : List OrderKey → List (List Token)
  | [] => []
  | key :: keys => key.tokens d :: OrderKey.listTokens d keys

def Query.tokens (d : Dialect) : Query → List Token
  | ⟨select, distinct, source, filter, groupBy, having, orderBy, window⟩ =>
      let line (k : Keyword) : List Token := [newline, keyword k, space]
      let order :=
        if !orderBy.isEmpty then
          line .orderBy ++ commaSeparated (OrderKey.listTokens d orderBy)
        else if window.isSome && d.spelling.fetchesAfterOrder then
          -- any order will do, but one has to be named
          line .orderBy ++ inParens [keyword .select, space, keyword .null]
        else
          []
      keyword .select :: (if distinct then [space, keyword .distinct] else []) ++
        List.intercalate [punct ','] (SelectItem.listTokens d select) ++
        (match source with
          | some t => line .fromWord ++ t.tokens
          | none => []) ++
        Expr.leadTokens d (line .whereWord) filter ++
        (if groupBy.isEmpty then []
          else line .groupBy ++ commaSeparated (Expr.listTokens d groupBy)) ++
        Expr.leadTokens d (line .having) having ++
        order ++
        (match window with
          | some w => newline :: d.windowTokens w
          | none => [])

end

namespace Expr

def toSql (e : Expr) (d : Dialect) : String :=
  Token.serializeAll d (e.tokens d)

end Expr

namespace OrderKey

def toSql (key : OrderKey) (d : Dialect) : String :=
  Token.serializeAll d (key.tokens d)

end OrderKey

namespace Query

def toSql (q : Query) (d : Dialect) : String :=
  Token.serializeAll d (q.tokens d)

end Query

namespace SelectItem

/-- The name of an item's values in a result: its AS name, column or text. -/
def outputName (item : SelectItem) : String :=
  item.asName.getD (item.expr.columnName?.getD (item.expr.toSql .duckDb))

end SelectItem

end GridSql
