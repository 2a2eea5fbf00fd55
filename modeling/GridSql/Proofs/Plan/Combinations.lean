import GridSql.Plan.Pivot
import Mathlib.Algebra.Group.Nat.Defs
import Mathlib.Data.List.Forall2
import Mathlib.Data.List.Induction
import Mathlib.Data.List.Nodup
import Mathlib.Data.List.Pairwise

/-!
# Choices of one item from each list

A choice is in the product of some lists if it has one item of each in order, and the
product has no choice twice if no list has an item twice.
-/

namespace GridSql

variable {α β : Type}

theorem cartesianProduct_nil : cartesianProduct ([] : List (List α)) = [[]] :=
  rfl

theorem cartesianProduct_append_singleton (lists : List (List α)) (items : List α) :
    cartesianProduct (lists ++ [items]) =
      (cartesianProduct lists).flatMap fun chosen => items.map fun a => chosen ++ [a] := by
  simp [cartesianProduct, List.foldl_append]

theorem mem_cartesianProduct_iff {lists : List (List α)} {choice : List α} :
    choice ∈ cartesianProduct lists ↔ List.Forall₂ (fun a items => a ∈ items) choice lists := by
  induction lists using List.reverseRecOn generalizing choice with
  | nil => simp [cartesianProduct_nil]
  | append_singleton lists items ih =>
      rw [cartesianProduct_append_singleton]
      simp only [List.mem_flatMap, List.mem_map, ih]
      constructor
      · rintro ⟨chosen, hchosen, a, ha, rfl⟩
        exact List.rel_append hchosen (.cons ha .nil)
      · intro h
        obtain ⟨chosen, last, hchosen, hlast, rfl⟩ :
            ∃ chosen last, List.Forall₂ (fun a items => a ∈ items) chosen lists ∧
              List.Forall₂ (fun a items => a ∈ items) last [items] ∧ choice = chosen ++ last :=
          ⟨_, _, List.forall₂_take_append _ _ _ h, List.forall₂_drop_append _ _ _ h,
            (List.take_append_drop _ _).symm⟩
        cases hlast with
        | cons ha hnil =>
            cases hnil
            exact ⟨chosen, hchosen, _, ha, rfl⟩

theorem map_cartesianProduct (f : α → β) (lists : List (List α)) :
    (cartesianProduct lists).map (List.map f) = cartesianProduct (lists.map (List.map f)) := by
  induction lists using List.reverseRecOn with
  | nil => rfl
  | append_singleton lists items ih =>
      rw [List.map_append, List.map_singleton, cartesianProduct_append_singleton,
        cartesianProduct_append_singleton, ← ih]
      simp [List.map_flatMap, List.flatMap_map, Function.comp_def]

theorem nodup_cartesianProduct {lists : List (List α)} (h : ∀ items ∈ lists, items.Nodup) :
    (cartesianProduct lists).Nodup := by
  induction lists using List.reverseRecOn with
  | nil => simp [cartesianProduct_nil]
  | append_singleton lists items ih =>
      have hitems : items.Nodup := h items (by simp)
      have hlists := ih fun l hl => h l (List.mem_append_left _ hl)
      rw [cartesianProduct_append_singleton, List.nodup_flatMap]
      refine ⟨fun chosen _ => hitems.map fun a b hab => by simpa using hab, ?_⟩
      refine hlists.imp fun {chosen chosen'} hne => ?_
      intro choice hchoice hchoice'
      obtain ⟨a, -, rfl⟩ := List.mem_map.1 hchoice
      obtain ⟨b, -, heq⟩ := List.mem_map.1 hchoice'
      exact hne (List.append_inj_left' heq.symm rfl)

/-! ## Counting choices -/

theorem countP_all_append_items (passes : α → Bool) (choices : List (List α)) (items : List α) :
    (choices.flatMap fun chosen => items.map fun a => chosen ++ [a]).countP (·.all passes) =
      choices.countP (·.all passes) * items.countP passes := by
  induction choices with
  | nil => simp
  | cons chosen choices ih =>
      rw [List.flatMap_cons, List.countP_append, ih, List.countP_map]
      by_cases hchosen : chosen.all passes = true
      · have first : items.countP ((·.all passes) ∘ fun a => chosen ++ [a]) =
            items.countP passes :=
          List.countP_congr fun a _ => by simp [hchosen]
        rw [first, List.countP_cons, if_pos hchosen, Nat.succ_mul, Nat.add_comm]
      · have first : items.countP ((·.all passes) ∘ fun a => chosen ++ [a]) = 0 :=
          List.countP_eq_zero.2 fun a _ => by simp [hchosen]
        rw [first, List.countP_cons, if_neg hchosen, Nat.zero_add, Nat.add_zero]

/-- The choices of passing items are as many as the passing items of each list, multiplied. -/
theorem countP_all_cartesianProduct (passes : α → Bool) (lists : List (List α)) :
    (cartesianProduct lists).countP (·.all passes) = (lists.map (·.countP passes)).prod := by
  induction lists using List.reverseRecOn with
  | nil => rfl
  | append_singleton lists items ih =>
      rw [cartesianProduct_append_singleton, countP_all_append_items, ih, List.map_append,
        List.map_singleton]
      simp

/-- There are as many choices as items of each list, multiplied. -/
theorem length_cartesianProduct (lists : List (List α)) :
    (cartesianProduct lists).length = (lists.map List.length).prod := by
  have all := countP_all_cartesianProduct (fun _ : α => true) lists
  simpa [List.countP_eq_length.2] using all

end GridSql
