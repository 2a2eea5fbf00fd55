import GridSql.Table.Error
import GridSql.Table.Like
import GridSql.Table.Regex

/-!
# Patterns as regular expressions

To compare texts with a pattern, its elements are written as a regular expression between the
two anchors. The compiled expression is kept for the next text, under the pattern and its
escape character.
-/

namespace GridSql

/-- The expressions of patterns that were matched before. -/
abbrev PatternCache (ρ : Type) := List ((String × Char) × ρ)

namespace RegexEngine

variable {ρ : Type} (E : RegexEngine ρ)

def written : LikeItem → List Char
  | .exactly c => E.escape c
  | .anyOne => ['.']
  | .anyRun => ['.', '*']

/-- The expression that matches what is like a pattern as a whole. -/
def translate (pattern : String) (escape : Char) : List Char :=
  Regex.flag ++ '^' :: ((Like.items escape pattern.toList).flatMap E.written ++ ['$'])

/-- Whether a text is like a pattern, and the expressions that are kept then. -/
def like (cache : PatternCache ρ) (text pattern : String) (escape : Char) :
    Except EvalFault Bool × PatternCache ρ :=
  match cache.lookup (pattern, escape) with
  | some re => (.ok (E.isFound re text.toList), cache)
  | none =>
      match E.compile (E.translate pattern escape) with
      | .ok re => (.ok (E.isFound re text.toList), ((pattern, escape), re) :: cache)
      | .error reason => (.error (.pattern reason), cache)

end RegexEngine

namespace Like

/--
Whether a text is like a pattern, if the library's engine does not refuse the pattern. What was
matched before does not change that, so nothing is kept here.
-/
def like (text pattern : String) (escape : Char) : Except EvalFault Bool :=
  (Regex.engine.like [] text pattern escape).1

end Like

end GridSql
