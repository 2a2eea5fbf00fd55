import GridSql.Text.Blank
import Mathlib.Data.List.Basic

/-!
# The words of a text

A word is a run of characters without blanks that cannot be made longer: in front of it and
behind it there is a blank or an end of the text. Splitting a text into words finds exactly
these, and trimming leaves them as they are.
-/

namespace GridSql.Text

def IsWordOf (word cs : List Char) : Prop :=
  ∃ before after, cs = before ++ (word ++ after) ∧ word ≠ [] ∧
    (∀ c ∈ word, isBlank c = false) ∧
    (∀ c ∈ before.getLast?, isBlank c = true) ∧ ∀ c ∈ after.head?, isBlank c = true

section

variable {word run cs rest : List Char} {c : Char}

theorem eq_nil_of_last (solid : ∀ c ∈ cs, isBlank c = false)
    (last : ∀ c ∈ cs.getLast?, isBlank c = true) :
    cs = [] := by
  rw [← List.getLast?_eq_none_iff, Option.eq_none_iff_forall_not_mem]
  intro c hc
  have blank := last c hc
  rw [solid c (List.mem_of_mem_getLast? hc)] at blank
  cases blank

theorem eq_nil_of_head (solid : ∀ c ∈ cs, isBlank c = false)
    (head : ∀ c ∈ (cs ++ rest).head?, isBlank c = true) :
    cs = [] := by
  cases cs with
  | nil => rfl
  | cons c cs =>
      have blank := head c rfl
      rw [solid c List.mem_cons_self] at blank
      cases blank

theorem isWordOf_run_iff (hrun : ∀ c ∈ run, isBlank c = false) :
    IsWordOf word run ↔ run ≠ [] ∧ word = run := by
  constructor
  · rintro ⟨before, after, rfl, nonempty, -, hbefore, hafter⟩
    rw [List.forall_mem_append, List.forall_mem_append] at hrun
    have start : before = [] := eq_nil_of_last hrun.1 hbefore
    have hafter' : ∀ c ∈ (after ++ []).head?, isBlank c = true := by simpa using hafter
    have stop : after = [] := eq_nil_of_head hrun.2.2 hafter'
    subst start stop
    simpa using nonempty
  · rintro ⟨nonempty, rfl⟩
    exact ⟨[], [], by simp, nonempty, hrun, by simp, by simp⟩

theorem eq_run_of_start {before tail after : List Char}
    (hrun : ∀ c ∈ before ++ tail, isBlank c = false) (hc : isBlank c = true)
    (heq : word ++ after = tail ++ c :: rest)
    (solid : ∀ c ∈ word, isBlank c = false)
    (hbefore : ∀ c ∈ before.getLast?, isBlank c = true)
    (hafter : ∀ c ∈ after.head?, isBlank c = true) :
    word = before ++ tail := by
  rw [List.forall_mem_append] at hrun
  rw [eq_nil_of_last hrun.1 hbefore, List.nil_append]
  rcases List.append_eq_append_iff.1 heq with ⟨more, rfl, rfl⟩ | ⟨more, rfl, hmore⟩
  · rw [List.forall_mem_append] at hrun
    rw [eq_nil_of_head hrun.2.2 hafter, List.append_nil]
  · cases more with
    | nil => rw [List.append_nil]
    | cons d more =>
        cases hmore
        rw [solid c (by simp)] at hc
        cases hc

theorem isWordOf_append_cons_iff (hrun : ∀ c ∈ run, isBlank c = false) (hc : isBlank c = true) :
    IsWordOf word (run ++ c :: rest) ↔ (run ≠ [] ∧ word = run) ∨ IsWordOf word rest := by
  constructor
  · rintro ⟨before, after, heq, nonempty, solid, hbefore, hafter⟩
    -- The word starts behind the run or in it.
    rcases List.append_eq_append_iff.1 heq with ⟨more, rfl, hmore⟩ | ⟨tail, rfl, htail⟩
    · cases more with
      | nil =>
          obtain ⟨d, word, rfl⟩ := List.exists_cons_of_ne_nil nonempty
          cases hmore
          rw [solid c List.mem_cons_self] at hc
          cases hc
      | cons d more =>
          cases hmore
          refine .inr ⟨more, after, rfl, nonempty, solid, fun d hd => hbefore d ?_, hafter⟩
          cases more with
          | nil => cases hd
          | cons d' more => simpa using hd
    · have whole := eq_run_of_start hrun hc htail solid hbefore hafter
      exact .inl ⟨whole ▸ nonempty, whole⟩
  · rintro (⟨nonempty, rfl⟩ | ⟨before, after, rfl, nonempty, solid, hbefore, hafter⟩)
    · exact ⟨[], c :: rest, rfl, nonempty, hrun, by simp, by simpa using hc⟩
    · refine ⟨run ++ c :: before, after, by simp, nonempty, solid, fun d hd => ?_, hafter⟩
      cases before with
      | nil =>
          obtain rfl : c = d := by simpa using hd
          exact hc
      | cons d' before => exact hbefore d (by simpa using hd)

end

/-- Reading on behind a run of characters without blanks. -/
theorem mem_wordsAux_iff {current cs : List Char} (hcurrent : ∀ c ∈ current, isBlank c = false)
    (word : List Char) :
    word ∈ wordsAux current cs ↔ IsWordOf word (current.reverse ++ cs) := by
  induction cs generalizing current with
  | nil =>
      rw [List.append_nil, isWordOf_run_iff (by simpa using hcurrent), wordsAux]
      cases current <;> simp
  | cons c rest ih =>
      rw [wordsAux]
      split
      · next blank =>
          rw [isWordOf_append_cons_iff (by simpa using hcurrent) blank]
          have behind := ih (List.forall_mem_nil (isBlank · = false))
          cases current with
          | nil => simpa using behind
          | cons d current => simpa using or_congr_right behind
      · next solid =>
          rw [ih (List.forall_mem_cons.2 ⟨by simpa using solid, hcurrent⟩)]
          simp

theorem mem_words_iff (word s : String) :
    word ∈ words s ↔ IsWordOf word.toList s.toList := by
  have parts : word.toList ∈ wordsAux [] s.toList ↔ IsWordOf word.toList s.toList :=
    mem_wordsAux_iff (List.forall_mem_nil (isBlank · = false)) word.toList
  rw [words, ← parts, List.mem_map]
  constructor
  · rintro ⟨cs, hcs, rfl⟩
    simpa using hcs
  · intro h
    exact ⟨_, h, String.ofList_toList⟩

theorem skipBlanks_of_solid {cs : List Char} (h : ∀ c ∈ cs, isBlank c = false) :
    skipBlanks cs = cs := by
  cases cs with
  | nil => rfl
  | cons c cs => simp [skipBlanks, h]

/-- A text without blanks is read to its end. -/
theorem wordsAux_of_solid {current cs : List Char} (solid : ∀ c ∈ cs, isBlank c = false)
    (someChar : current.reverse ++ cs ≠ []) :
    wordsAux current cs = [current.reverse ++ cs] := by
  induction cs generalizing current with
  | nil =>
      have begun : current ≠ [] := by simpa using someChar
      simp [wordsAux, begun]
  | cons c cs ih =>
      obtain ⟨hc, rest⟩ := List.forall_mem_cons.1 solid
      rw [wordsAux, hc, if_neg Bool.false_ne_true, ih rest (by simp), List.reverse_cons,
        List.append_assoc, List.singleton_append]

theorem words_of_solid {word : String} (solid : ∀ c ∈ word.toList, isBlank c = false)
    (someChar : word ≠ "") :
    words word = [word] := by
  rw [words, wordsAux_of_solid solid (by simpa using someChar), List.reverse_nil, List.nil_append,
    List.map_singleton, String.ofList_toList]

theorem trim_word {word s : String} (h : word ∈ words s) : trim word = word := by
  obtain ⟨-, -, -, -, solid, -, -⟩ := (mem_words_iff word s).1 h
  have reversed : skipBlanks word.toList.reverse = word.toList.reverse :=
    skipBlanks_of_solid (by simpa using solid)
  rw [skipBlanks] at reversed
  rw [trim, trimChars, skipBlanks_of_solid solid, dropTrailingBlanks, reversed,
    List.reverse_reverse, String.ofList_toList]

theorem word_ne_empty {word s : String} (h : word ∈ words s) : word ≠ "" := by
  obtain ⟨-, -, -, nonempty, -⟩ := (mem_words_iff word s).1 h
  rintro rfl
  exact nonempty rfl

end GridSql.Text
