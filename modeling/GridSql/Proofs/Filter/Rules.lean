import GridSql.Filter.Rules

/-!
# Rules inside rules

The rules that a filter is compiled by are found in the rules of its column, at any
depth of child filters.
-/

namespace GridSql

namespace FilterRules

/-- Rules that stand in others: these themselves, or the rules of a child filter. -/
inductive Within : FilterRules → FilterRules → Prop where
  | self (rules : FilterRules) : Within rules rules
  | child {leaf rules : FilterRules} {children : List FilterRules} (mem : rules ∈ children)
      (within : Within leaf rules) : Within leaf (.multi children)

theorem Within.trans {leaf inner outer : FilterRules} (h : Within leaf inner)
    (h' : Within inner outer) :
    Within leaf outer := by
  induction h' with
  | self => exact h
  | child hmem _ ih => exact .child hmem ih

mutual

theorem findRules_within {α : Type} {own : FilterRules → Option α} :
    ∀ {rules : FilterRules} {a : α}, findRules own rules = some a →
      ∃ leaf, Within leaf rules ∧ own leaf = some a
  | .multi children, a, found => by
      rw [findRules] at found
      obtain ⟨rules, hmem, leaf, hleaf, hown⟩ := findChildRules_within found
      exact ⟨leaf, .child hmem hleaf, hown⟩
  | .text rules, a, found => ⟨_, .self _, found⟩
  | .number rules, a, found => ⟨_, .self _, found⟩
  | .date rules, a, found => ⟨_, .self _, found⟩
  | .set form, a, found => ⟨_, .self _, found⟩

theorem findChildRules_within {α : Type} {own : FilterRules → Option α} :
    ∀ {children : List FilterRules} {a : α}, findChildRules own children = some a →
      ∃ rules ∈ children, ∃ leaf, Within leaf rules ∧ own leaf = some a
  | [], a, found => by cases found
  | rules :: rest, a, found => by
      rw [findChildRules] at found
      split at found
      · next b hb =>
          cases found
          exact ⟨rules, List.mem_cons_self, findRules_within hb⟩
      · obtain ⟨r, hr, hleaf⟩ := findChildRules_within found
        exact ⟨r, List.mem_cons_of_mem rules hr, hleaf⟩

end

theorem textRules?_within {rules : Option FilterRules} {own : TextRules}
    (h : rules.bind textRules? = some own) :
    ∃ all ∈ rules, Within (.text own) all := by
  obtain ⟨all, hall, found⟩ := Option.bind_eq_some_iff.1 h
  obtain ⟨leaf, hleaf, hown⟩ := findRules_within found
  cases leaf <;> cases hown
  exact ⟨all, hall, hleaf⟩

theorem setForm?_within {rules : Option FilterRules} {form : TextForm}
    (h : rules.bind setForm? = some form) :
    ∃ all ∈ rules, Within (.set form) all := by
  obtain ⟨all, hall, found⟩ := Option.bind_eq_some_iff.1 h
  obtain ⟨leaf, hleaf, hown⟩ := findRules_within found
  cases leaf <;> cases hown
  exact ⟨all, hall, hleaf⟩

theorem child?_within {rules : Option FilterRules} {index : Nat} {r : FilterRules}
    (h : child? rules index = some r) :
    ∃ all ∈ rules, Within r all := by
  unfold child? at h
  split at h
  · exact ⟨_, rfl, .child (List.mem_of_getElem? h) (.self r)⟩
  · exact ⟨r, h, .self r⟩

end FilterRules

end GridSql
