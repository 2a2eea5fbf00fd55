import GridSql.Proofs.Sql.Nodes
import GridSql.Proofs.Table.LikeMatch
import GridSql.Proofs.Table.RegexSearch
import GridSql.Table.Pattern
import Mathlib.Data.String.Basic

/-!
# The expressions of patterns

A pattern is written as an expression with one step for each of its elements, between the two
anchors, and a compiled pattern is found in exactly the texts that its elements match. The
library's own engine refuses a pattern if a program of its expression is too large: no pattern
that is short, and every one with too many elements.
-/

namespace GridSql

namespace Like

def stepOf : LikeItem → Regex.Step
  | .exactly c => .one (.exactly c)
  | .anyOne => .one .any
  | .anyRun => .many .any

end Like

open Like Regex

namespace RegexEngine

variable {ρ : Type} {E : RegexEngine ρ}

theorem writes_written (documented : E.Documented) (item : LikeItem) {text : List Char}
    {steps : List Step} (rest : Writes text steps) :
    Writes (E.written item ++ text) (stepOf item :: steps) := by
  cases item with
  | exactly c => exact .one (documented.escape c) rest
  | anyOne => exact .one .any rest
  | anyRun => exact .many .any rest

theorem writes_elements (documented : E.Documented) (elements : List LikeItem) :
    Writes (elements.flatMap E.written ++ ['$']) (elements.map stepOf ++ [.finish]) := by
  induction elements with
  | nil => exact .finish .nil
  | cons item rest ih =>
      rw [List.flatMap_cons, List.append_assoc]
      exact writes_written documented item ih

/-- Between the anchors, the steps of elements run over the texts that the elements match. -/
theorem runs_iff_matches {elements : List LikeItem} {before behind : List Char} :
    Runs before (elements.map stepOf ++ [.finish]) behind ↔ Matches elements behind := by
  induction elements generalizing before behind with
  | nil => simp [Runs, Matches]
  | cons item rest ih =>
      cases item with
      | exactly c =>
          simp only [List.map_cons, List.cons_append, stepOf, Runs, CharSet.has, beq_iff_eq, ih,
            Matches]
          constructor
          · intro taken
            obtain ⟨_, tail, htail, rfl, hrest⟩ := taken
            exact ⟨tail, htail, hrest⟩
          · intro taken
            obtain ⟨tail, htail, hrest⟩ := taken
            exact ⟨c, tail, htail, rfl, hrest⟩
      | anyOne => simp [stepOf, Runs, CharSet.has, ih, Matches]
      | anyRun => simp [stepOf, Runs, CharSet.has, ih, Matches]

theorem found_iff_matches {elements : List LikeItem} {text : List Char} :
    Found (.start :: (elements.map stepOf ++ [.finish])) text ↔ Matches elements text := by
  constructor
  · intro found
    obtain ⟨before, behind, rfl, rfl, hruns⟩ := found
    exact runs_iff_matches.1 hruns
  · intro matched
    exact ⟨[], text, rfl, rfl, runs_iff_matches.2 matched⟩

theorem isFound_iff_matches (documented : E.Documented) {pattern : String} {escape : Char} {re : ρ}
    (compiled : E.compile (E.translate pattern escape) = .ok re) (text : List Char) :
    E.isFound re text = true ↔ Matches (items escape pattern.toList) text := by
  have written := writes_elements documented (items escape pattern.toList)
  rw [documented.found (.start written) compiled, found_iff_matches]

/-- Whether an engine takes the expression of a pattern. -/
def Takes (E : RegexEngine ρ) (pattern : String) (escape : Char) : Prop :=
  ∃ re, E.compile (E.translate pattern escape) = .ok re

end RegexEngine

namespace Like

instance (elements : List LikeItem) (text : List Char) : Decidable (Matches elements text) :=
  decidable_of_iff (engine.isFound (.start :: (elements.map stepOf ++ [.finish])) text = true)
    ((isFound_engine_iff _ text).trans RegexEngine.found_iff_matches)

/-! ## Patterns that are not too large -/

/-- The bytes that the elements of a pattern take in a program. -/
def elementsSize (d : Direction) : List LikeItem → Nat
  | [] => 0
  | item :: rest => (stepOf item).size d + elementsSize d rest

variable {d : Direction} {elements : List LikeItem} {pattern : String} {escape : Char}

theorem elementsSize_append (elements others : List LikeItem) :
    elementsSize d (elements ++ others) = elementsSize d elements + elementsSize d others := by
  induction elements with
  | nil => rw [List.nil_append, elementsSize, Nat.zero_add]
  | cons item rest ih => rw [List.cons_append, elementsSize, elementsSize, ih, Nat.add_assoc]

theorem programSize_elements (d : Direction) (elements : List LikeItem) :
    programSize d (.start :: (elements.map stepOf ++ [.finish])) =
      frameSize d + 2 * stateSize + elementsSize d elements := by
  induction elements with
  | nil =>
      simp only [programSize, elementsSize, Step.size, List.map_nil, List.nil_append,
        List.foldr_cons, List.foldr_nil]
      omega
  | cons item rest ih =>
      simp only [programSize, elementsSize, List.map_cons, List.cons_append,
        List.foldr_cons] at ih ⊢
      omega

/-- A pattern is taken if there is room for its elements beside the two anchors. -/
theorem takes_iff : engine.Takes pattern escape ↔
    ∀ d, frameSize d + 2 * stateSize + elementsSize d (items escape pattern.toList) ≤
      sizeLimit := by
  have compiled : engine.compile (engine.translate pattern escape) =
      if fits (.start :: ((items escape pattern.toList).map stepOf ++ [.finish])) then
        .ok (.start :: ((items escape pattern.toList).map stepOf ++ [.finish]))
      else .error tooLarge :=
    compile_of_writes (.start (RegexEngine.writes_elements documented_engine _))
  rw [RegexEngine.Takes, compiled, fits, programSize_elements, programSize_elements]
  constructor
  · rintro ⟨re, taken⟩ d
    split at taken
    · next both =>
        rw [Bool.and_eq_true, decide_eq_true_iff, decide_eq_true_iff] at both
        cases d with
        | forward => exact both.1
        | backward => exact both.2
    · cases taken
  · intro room
    exact ⟨_, if_pos (by simp [room .forward, room .backward])⟩

theorem length_items_le (escape : Char) (pattern : List Char) :
    (items escape pattern).length ≤ pattern.length := by
  fun_induction items escape pattern <;> simp_all
  omega

/-- The largest step is that of a run, read backward. -/
theorem elementsSize_le (elements : List LikeItem) :
    elementsSize d elements ≤ elements.length * 1004 := by
  induction elements with
  | nil => rfl
  | cons item rest ih =>
      have step : (stepOf item).size d ≤ 1004 := by
        cases item with
        | exactly c =>
            have bytes := c.utf8Size_le_four
            simp only [stepOf, Step.size, CharSet.size, stateSize]
            omega
        | anyOne => cases d <;> decide
        | anyRun => cases d <;> decide
      rw [elementsSize, List.length_cons]
      omega

/-- Every pattern of up to ten thousand characters is taken. -/
theorem takes_of_length_le (short : pattern.length ≤ 10000) : engine.Takes pattern escape := by
  refine takes_iff.2 fun d => ?_
  have read := length_items_le escape pattern.toList
  have size := elementsSize_le (d := d) (items escape pattern.toList)
  have frame : frameSize d ≤ 4 * stateSize := by cases d <;> decide
  rw [String.length_toList] at read
  simp only [stateSize, sizeLimit] at frame ⊢
  omega

theorem length_le_utf8Len (cs : List Char) : cs.length ≤ String.utf8Len cs := by
  induction cs with
  | nil => exact Nat.zero_le _
  | cons c cs ih =>
      have byte := c.utf8Size_pos
      rw [String.utf8Len_cons, List.length_cons]
      omega

theorem elementsSize_exactly (cs : List Char) :
    elementsSize d (cs.map .exactly) = String.utf8Len cs * stateSize := by
  induction cs with
  | nil => rfl
  | cons c cs ih =>
      rw [String.utf8Len_cons, Nat.add_mul, ← ih, Nat.add_comm]
      rfl

end Like

/-! ## Patterns in expressions -/

/-- Whether the library's engine takes all patterns that an expression compares texts with. -/
def Expr.PatternsTaken (e : Expr) : Prop :=
  ∀ n ∈ e.nodes, ∀ subject pattern escape negated,
    n = .like subject (.ofText pattern) escape negated → engine.Takes pattern escape

/-- Whether no pattern of an expression has more than ten thousand characters. -/
def Expr.hasShortPatterns (e : Expr) : Bool :=
  e.nodes.all fun
    | .like _ (.literal (.text pattern)) _ _ => decide (pattern.length ≤ 10000)
    | _ => true

theorem Expr.PatternsTaken.of_short {e : Expr} (short : e.hasShortPatterns = true) :
    e.PatternsTaken := by
  intro n hn subject pattern escape negated heq
  have length := List.all_eq_true.1 short n hn
  subst heq
  exact Like.takes_of_length_le (of_decide_eq_true length)

theorem Expr.PatternsTaken.of_joinAll {op : BinaryOp} {empty : Bool} {es : List Expr} {e : Expr}
    (taken : (joinAll op empty es).PatternsTaken) (he : e ∈ es) : e.PatternsTaken :=
  fun n hn => taken n (mem_nodes_joinAll he hn)

end GridSql
