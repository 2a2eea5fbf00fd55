/-!
# LIKE patterns

A percent sign stands for any run of characters and an underscore for any one
character. The escape character makes the next one stand for itself; it is looked
for first, and alone at the end it stands for nothing.
-/

namespace GridSql

inductive LikeItem where
  | exactly (c : Char)
  | anyOne
  | anyRun
deriving DecidableEq, Repr

namespace Like

/-- The elements of a pattern. -/
def items (escape : Char) : List Char → List LikeItem
  | [] => []
  | [c] =>
      if c = escape then []
      else if c = '%' then [.anyRun]
      else if c = '_' then [.anyOne]
      else [.exactly c]
  | c :: next :: rest =>
      if c = escape then .exactly next :: items escape rest
      else if c = '%' then .anyRun :: items escape (next :: rest)
      else if c = '_' then .anyOne :: items escape (next :: rest)
      else .exactly c :: items escape (next :: rest)

end Like

end GridSql
