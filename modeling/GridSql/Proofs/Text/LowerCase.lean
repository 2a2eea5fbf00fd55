import GridSql.Text.Case
import Mathlib.Data.List.Infix

/-!
# Lower case of a part of a text

Every character but one has the same small letters wherever it stands. A capital sigma has the
final form at the end of a word, so a text between two others can have another lower case than
alone: in front of it a word may have begun, behind it a word may go on. It has the same lower
case between any two texts exactly if the characters of the text itself decide this.
-/

namespace GridSql.Text

variable {before after cs ds word p q : List Char}

/-- Lower case of a text between two others, the one in front reversed. -/
def lowerBetween (before : List Char) : List Char → List Char → List Char
  | [], _ => []
  | c :: rest, after =>
      (if c = 'Σ' then [lowerSigma before (rest ++ after)] else lowerChar c) ++
        lowerBetween (c :: before) rest after

theorem lowerAux_append (before cs after : List Char) :
    lowerAux before (cs ++ after) =
      lowerBetween before cs after ++ lowerAux (cs.reverse ++ before) after := by
  induction cs generalizing before with
  | nil => rfl
  | cons c cs ih => simp [lowerAux, lowerBetween, ih]

theorem lowerChars_eq_lowerBetween (cs : List Char) : lowerChars cs = lowerBetween [] cs [] := by
  have whole := lowerAux_append [] cs []
  rw [List.append_nil] at whole
  rw [lowerChars, whole]
  exact List.append_nil _

theorem lowerBetween_append (before cs ds after : List Char) :
    lowerBetween before (cs ++ ds) after =
      lowerBetween before cs (ds ++ after) ++ lowerBetween (cs.reverse ++ before) ds after := by
  induction cs generalizing before with
  | nil => rfl
  | cons c cs ih => simp [lowerBetween, ih]

/-! ## What decides the form of a sigma -/

/-- Whether there is a character that counts for the case of its neighbours. -/
def CountsForCase (cs : List Char) : Prop :=
  ∃ c ∈ cs, isCaseIgnorable c = false

theorem not_countsForCase_iff :
    ¬ CountsForCase cs ↔ ∀ c ∈ cs, isCaseIgnorable c = true := by
  simp [CountsForCase]

theorem startsCased_append (counts : CountsForCase cs) (ds : List Char) :
    startsCased (cs ++ ds) = startsCased cs := by
  obtain ⟨c, hc, hcounts⟩ := counts
  induction cs with
  | nil => cases hc
  | cons d cs ih =>
      cases hd : isCaseIgnorable d with
      | false => simp [startsCased, hd]
      | true =>
          rcases List.mem_cons.1 hc with rfl | hc
          · rw [hd] at hcounts
            cases hcounts
          · simpa [startsCased, List.dropWhile_cons, hd] using ih hc

theorem startsCased_append_ignorable (ignorable : ¬ CountsForCase cs) (ds : List Char) :
    startsCased (cs ++ ds) = startsCased ds := by
  rw [not_countsForCase_iff] at ignorable
  unfold startsCased
  rw [List.dropWhile_append_of_pos ignorable]

theorem not_startsCased (ignorable : ¬ CountsForCase cs) : startsCased cs = false := by
  have nothing := startsCased_append_ignorable ignorable []
  rwa [List.append_nil] at nothing

theorem countsForCase_of_startsCased (h : startsCased cs = true) : CountsForCase cs := by
  by_contra ignorable
  rw [not_startsCased ignorable] at h
  cases h

theorem CountsForCase.reverse (h : CountsForCase cs) : CountsForCase cs.reverse := by
  simpa [CountsForCase] using h

theorem not_countsForCase_reverse (h : ¬ CountsForCase cs) : ¬ CountsForCase cs.reverse := by
  simpa [CountsForCase] using h

/-- Whether a sigma between two texts has the same form whatever is in front of the first one. -/
def SettledBefore (p q : List Char) : Prop :=
  CountsForCase p ∨ startsCased q = true

/-- Whether a sigma between two texts has the same form whatever is behind the second one. -/
def SettledBehind (p q : List Char) : Prop :=
  startsCased p.reverse = false ∨ CountsForCase q

theorem lowerSigma_eq (hbefore : before = [] ∨ SettledBefore p q)
    (hafter : after = [] ∨ SettledBehind p q) :
    lowerSigma (p.reverse ++ before) (q ++ after) = lowerSigma p.reverse q := by
  unfold lowerSigma
  by_cases counts : CountsForCase p
  · rw [startsCased_append counts.reverse]
    rcases hafter with rfl | cased | counts
    · rw [List.append_nil]
    · rw [cased]
      rfl
    · rw [startsCased_append counts]
  · rw [startsCased_append_ignorable (not_countsForCase_reverse counts),
      not_startsCased (not_countsForCase_reverse counts)]
    rcases hbefore with rfl | counts' | cased
    · rfl
    · exact absurd counts' counts
    · rw [startsCased_append (countsForCase_of_startsCased cased), cased]
      simp

/--
What is far from a text makes no difference to its lower case where every sigma is settled by
what is near.
-/
theorem lowerBetween_near
    (hbefore : before = [] ∨ ∀ a b, cs = a ++ 'Σ' :: b → SettledBefore (p ++ a) (b ++ q))
    (hafter : after = [] ∨ ∀ a b, cs = a ++ 'Σ' :: b → SettledBehind (p ++ a) (b ++ q)) :
    lowerBetween (p.reverse ++ before) cs (q ++ after) = lowerBetween p.reverse cs q := by
  induction cs generalizing p with
  | nil => rfl
  | cons c cs ih =>
      have rest := @ih (p ++ [c])
        (hbefore.imp_right fun h a b heq => by simpa using h (c :: a) b (by rw [heq]; rfl))
        (hafter.imp_right fun h a b heq => by simpa using h (c :: a) b (by rw [heq]; rfl))
      rw [List.reverse_append, List.reverse_singleton, List.singleton_append,
        List.cons_append] at rest
      unfold lowerBetween
      rw [rest]
      congr 1
      by_cases hc : c = 'Σ'
      · subst hc
        rw [if_pos rfl, if_pos rfl, ← List.append_assoc]
        rw [lowerSigma_eq (hbefore.imp_right fun h => by simpa using h [] cs rfl)
          (hafter.imp_right fun h => by simpa using h [] cs rfl)]
      · rw [if_neg hc, if_neg hc]

/-- A text without a capital sigma has the same lower case everywhere. -/
theorem lowerBetween_of_not_mem (h : 'Σ' ∉ cs) (before after : List Char) :
    lowerBetween before cs after = lowerBetween [] cs [] := by
  have none (a b : List Char) (heq : cs = a ++ 'Σ' :: b) : False := h (by simp [heq])
  exact lowerBetween_near (p := []) (q := []) (.inr fun a b heq => (none a b heq).elim)
    (.inr fun a b heq => (none a b heq).elim)

/-! ## Texts that keep their lower case -/

/-- Whether no sigma of a text depends on what is in front of it. -/
def ClosedBefore (word : List Char) : Prop :=
  ∀ p q, word = p ++ 'Σ' :: q → SettledBefore p q

/-- Whether no sigma of a text depends on what is behind it. -/
def ClosedBehind (word : List Char) : Prop :=
  ∀ p q, word = p ++ 'Σ' :: q → SettledBehind p q

theorem lowerBetween_of_closed (hbefore : before = [] ∨ ClosedBefore word)
    (hafter : after = [] ∨ ClosedBehind word) :
    lowerBetween before word after = lowerChars word := by
  rw [lowerChars_eq_lowerBetween]
  refine lowerBetween_near (p := []) (q := [])
    (hbefore.imp_right fun h a b heq => ?_) (hafter.imp_right fun h a b heq => ?_)
  · simpa using h a b heq
  · simpa using h a b heq

theorem lowerChars_append₃ (before word after : List Char) :
    lowerChars (before ++ (word ++ after)) =
      lowerBetween [] before (word ++ after) ++
        (lowerBetween before.reverse word after ++
          lowerAux (word.reverse ++ before.reverse) after) := by
  rw [lowerChars, lowerAux_append, lowerAux_append, List.append_nil]

theorem sigma_counts : isCaseIgnorable 'Σ' = false := by
  decide +kernel

theorem countsForCase_sigma (p q : List Char) : CountsForCase (p ++ 'Σ' :: q) :=
  ⟨'Σ', by simp, sigma_counts⟩

theorem sigma_not_mem (ignorable : ¬ CountsForCase cs) : 'Σ' ∉ cs :=
  fun h => ignorable ⟨'Σ', h, sigma_counts⟩

theorem lower_a : lowerChar 'a' = ['a'] ∧ startsCased ['a'] = true := by
  decide +kernel

/-- Behind a letter, a sigma that depends on what is in front of it is no longer small. -/
theorem count_sigma_lt_of_open (ignorable : ¬ CountsForCase p) (ends : startsCased q = false) :
    (lowerChars ('a' :: (p ++ 'Σ' :: q))).count 'σ' < (lowerChars (p ++ 'Σ' :: q)).count 'σ' := by
  have plain := lowerBetween_of_not_mem (sigma_not_mem ignorable)
  have behind : lowerBetween ('Σ' :: (p.reverse ++ ['a'])) q [] =
      lowerBetween ('Σ' :: p.reverse) q [] := by
    have near := @lowerBetween_near ['a'] [] q (p ++ ['Σ']) []
      (.inr fun a b _ => .inl (by simpa using countsForCase_sigma p a)) (.inl rfl)
    simpa using near
  have outside : lowerSigma p.reverse q = 'σ' := by
    simp [lowerSigma, not_startsCased (not_countsForCase_reverse ignorable)]
  have inside : lowerSigma (p.reverse ++ ['a']) q = 'ς' := by
    simp [lowerSigma, startsCased_append_ignorable (not_countsForCase_reverse ignorable),
      lower_a.2, ends]
  have first : ('a' : Char) ≠ 'Σ' := by decide
  have whole : lowerBetween [] ('a' :: (p ++ 'Σ' :: q)) [] =
      'a' :: (lowerBetween [] p [] ++ 'ς' :: lowerBetween ('Σ' :: p.reverse) q []) := by
    rw [lowerBetween, if_neg first, lower_a.1, lowerBetween_append, plain ['a'], lowerBetween,
      if_pos rfl, List.append_nil, inside, behind]
    rfl
  have alone : lowerBetween [] (p ++ 'Σ' :: q) [] =
      lowerBetween [] p [] ++ 'σ' :: lowerBetween ('Σ' :: p.reverse) q [] := by
    rw [lowerBetween_append, plain [], List.append_nil, lowerBetween, if_pos rfl, List.append_nil,
      outside]
    rfl
  rw [lowerChars_eq_lowerBetween, lowerChars_eq_lowerBetween, whole, alone]
  simp [List.count_append]

/-- Before a letter, a sigma that depends on what is behind it is no longer final. -/
theorem count_final_lt_of_open (begins : startsCased p.reverse = true)
    (ignorable : ¬ CountsForCase q) :
    (lowerChars (p ++ 'Σ' :: q ++ ['a'])).count 'ς' < (lowerChars (p ++ 'Σ' :: q)).count 'ς' := by
  have plain := lowerBetween_of_not_mem (sigma_not_mem ignorable)
  have front : lowerBetween [] p ('Σ' :: (q ++ ['a'])) = lowerBetween [] p ('Σ' :: q) :=
    lowerBetween_near (p := []) (q := 'Σ' :: q) (.inl rfl)
      (.inr fun a b _ => .inr (countsForCase_sigma b q))
  have outside : lowerSigma p.reverse q = 'ς' := by
    simp [lowerSigma, begins, not_startsCased ignorable]
  have inside : lowerSigma p.reverse (q ++ ['a']) = 'σ' := by
    simp [lowerSigma, startsCased_append_ignorable ignorable, lower_a.2]
  have first : ('a' : Char) ≠ 'Σ' := by decide
  have whole : lowerBetween [] (p ++ 'Σ' :: q ++ ['a']) [] =
      lowerBetween [] p ('Σ' :: q) ++ 'σ' :: (lowerBetween [] q [] ++ ['a']) := by
    rw [List.append_assoc, List.cons_append, lowerBetween_append, List.append_nil, front,
      lowerBetween, if_pos rfl, List.append_nil, List.append_nil, inside, lowerBetween_append,
      plain, lowerBetween, if_neg first, lower_a.1]
    rfl
  have alone : lowerBetween [] (p ++ 'Σ' :: q) [] =
      lowerBetween [] p ('Σ' :: q) ++ 'ς' :: lowerBetween [] q [] := by
    rw [lowerBetween_append, List.append_nil, lowerBetween, if_pos rfl, List.append_nil,
      List.append_nil, outside, plain]
    rfl
  rw [lowerChars_eq_lowerBetween, lowerChars_eq_lowerBetween, whole, alone]
  simp [List.count_append]

end GridSql.Text
