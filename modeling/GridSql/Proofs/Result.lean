import Mathlib.Data.List.Forall2

/-!
# Results of steps that can fail

When a chain of steps, or the same step over a list, gives a value.
-/

namespace GridSql

section

variable {ε α β : Type}

theorem bind_ok_iff {x : Except ε α} {f : α → Except ε β} {b : β} :
    (x >>= f) = .ok b ↔ ∃ a, x = .ok a ∧ f a = .ok b := by
  cases x with
  | error e => simp [bind, Except.bind]
  | ok a => simp [bind, Except.bind]

/-- What follows a step needs to be the same for its value only. -/
theorem bind_congr_of_ok {x : Except ε α} {f g : α → Except ε β} (h : ∀ a, x = .ok a → f a = g a) :
    (x >>= f) = x >>= g := by
  cases x with
  | error e => rfl
  | ok a => exact h a rfl

theorem map_ok_iff {x : Except ε α} {f : α → β} {b : β} :
    x.map f = .ok b ↔ ∃ a, x = .ok a ∧ f a = b := by
  cases x with
  | error e => simp [Except.map]
  | ok a => simp [Except.map]

theorem except_map_bind {γ : Type} {x : Except ε α} {f : α → Except ε β} {g : β → γ} :
    (x >>= f).map g = x >>= fun a => (f a).map g := by
  cases x <;> rfl

theorem mapError_ok_iff {δ : Type} {x : Except ε α} {f : ε → δ} {a : α} :
    x.mapError f = .ok a ↔ x = .ok a := by
  cases x with
  | error e => simp [Except.mapError]
  | ok a => simp [Except.mapError]

/-- What is computed from a step tells that the step has succeeded. -/
theorem exists_of_toOption_map {x : Except ε α} {f : α → β} {b : β}
    (h : x.toOption.map f = some b) :
    ∃ a, x = .ok a ∧ f a = b := by
  cases x with
  | error e => simp [Except.toOption] at h
  | ok a => exact ⟨a, rfl, by simpa [Except.toOption] using h⟩

theorem exists_of_mem_left {R : α → β → Prop} {l : List α} {bs : List β}
    (h : List.Forall₂ R l bs) {a : α} (ha : a ∈ l) :
    ∃ b ∈ bs, R a b := by
  induction h with
  | nil => cases ha
  | @cons first b l bs hfirst _ ih =>
      rcases List.mem_cons.1 ha with rfl | ha
      · exact ⟨b, List.mem_cons_self, hfirst⟩
      · obtain ⟨c, hc, hR⟩ := ih ha
        exact ⟨c, List.mem_cons_of_mem b hc, hR⟩

theorem exists_of_mem_right {R : α → β → Prop} {l : List α} {bs : List β}
    (h : List.Forall₂ R l bs) {b : β} (hb : b ∈ bs) :
    ∃ a ∈ l, R a b :=
  exists_of_mem_left h.flip hb

theorem exists_getElem?_of_forall₂ {R : α → β → Prop} {l : List α} {bs : List β}
    (h : List.Forall₂ R l bs) {i : Nat} {a : α} (ha : l[i]? = some a) :
    ∃ b, bs[i]? = some b ∧ R a b := by
  induction h generalizing i with
  | nil => cases ha
  | @cons first b l bs hfirst _ ih =>
      cases i with
      | zero =>
          cases ha
          exact ⟨b, rfl, hfirst⟩
      | succ i => exact ih ha

theorem exists_forall₂ {R : α → β → Prop} {l : List α} (h : ∀ a ∈ l, ∃ b, R a b) :
    ∃ bs, List.Forall₂ R l bs := by
  induction l with
  | nil => exact ⟨[], .nil⟩
  | cons a l ih =>
      obtain ⟨⟨b, hb⟩, hl⟩ := List.forall_mem_cons.1 h
      obtain ⟨bs, hbs⟩ := ih hl
      exact ⟨b :: bs, .cons hb hbs⟩

theorem forall₂_imp_of_mem {R S : α → β → Prop} {l : List α} {bs : List β}
    (h : List.Forall₂ R l bs) (himp : ∀ a ∈ l, ∀ b ∈ bs, R a b → S a b) :
    List.Forall₂ S l bs := by
  induction h with
  | nil => exact .nil
  | @cons a b l bs hab _ ih =>
      exact .cons (himp a List.mem_cons_self b List.mem_cons_self hab)
        (ih fun c hc d hd => himp c (List.mem_cons_of_mem a hc) d (List.mem_cons_of_mem b hd))

theorem forall₂_comp {γ : Type} {R : α → β → Prop} {S : β → γ → Prop} {T : α → γ → Prop}
    {l : List α} {bs : List β} {cs : List γ} (h : List.Forall₂ R l bs)
    (h' : List.Forall₂ S bs cs) (himp : ∀ a ∈ l, ∀ b c, R a b → S b c → T a c) :
    List.Forall₂ T l cs := by
  induction h generalizing cs with
  | nil =>
      cases h'
      exact .nil
  | @cons a b l bs hab _ ih =>
      cases h' with
      | cons hbc hrest =>
          exact .cons (himp a List.mem_cons_self b _ hab hbc)
            (ih hrest fun a' ha' => himp a' (List.mem_cons_of_mem a ha'))

/-- What stands beside joined lists can be cut where the lists were joined. -/
theorem exists_blocks {R : α → β → Prop} {lists : List (List α)} {bs : List β}
    (h : List.Forall₂ R lists.flatten bs) :
    ∃ blocks, bs = blocks.flatten ∧ List.Forall₂ (List.Forall₂ R) lists blocks := by
  induction lists generalizing bs with
  | nil =>
      cases h
      exact ⟨[], rfl, .nil⟩
  | cons list lists ih =>
      rw [List.flatten_cons] at h
      have first := (List.forall₂_take_append _ _ _ h.flip).flip
      obtain ⟨blocks, hblocks, rest⟩ := ih (List.forall₂_drop_append _ _ _ h.flip).flip
      refine ⟨bs.take list.length :: blocks, ?_, .cons first rest⟩
      rw [List.flatten_cons, ← hblocks, List.take_append_drop]

theorem exists_map_of_forall₂ {γ : Type} {f : γ → β} {R : α → β → Prop} {S : α → γ → Prop}
    {l : List α} {bs : List β} (h : List.Forall₂ R l bs)
    (himp : ∀ a b, R a b → ∃ c, b = f c ∧ S a c) :
    ∃ cs, bs = cs.map f ∧ List.Forall₂ S l cs := by
  induction h with
  | nil => exact ⟨[], rfl, .nil⟩
  | cons hab _ ih =>
      obtain ⟨c, rfl, hc⟩ := himp _ _ hab
      obtain ⟨cs, rfl, hcs⟩ := ih
      exact ⟨c :: cs, rfl, .cons hc hcs⟩

theorem map_eq_of_forall₂ {γ : Type} {f : α → γ} {g : β → γ} {l : List α} {bs : List β}
    (h : List.Forall₂ (fun a b => g b = f a) l bs) :
    bs.map g = l.map f := by
  induction h with
  | nil => rfl
  | cons hab _ ih => rw [List.map_cons, List.map_cons, hab, ih]

/-- A step over a list gives a value exactly if it does on every item. -/
theorem mapM_ok_iff {f : α → Except ε β} {l : List α} {bs : List β} :
    l.mapM f = .ok bs ↔ List.Forall₂ (fun a b => f a = .ok b) l bs := by
  induction l generalizing bs with
  | nil =>
      cases bs with
      | nil => simp [pure, Except.pure]
      | cons b bs => simp [pure, Except.pure]
  | cons a l ih =>
      rw [List.mapM_cons, bind_ok_iff]
      cases bs with
      | nil => simp [bind_ok_iff, pure, Except.pure]
      | cons b bs => simp [bind_ok_iff, pure, Except.pure, ih, and_comm]

theorem mapM_isOk {f : α → Except ε β} {l : List α} (h : ∀ a ∈ l, ∃ b, f a = .ok b) :
    ∃ bs, l.mapM f = .ok bs := by
  obtain ⟨bs, hbs⟩ := exists_forall₂ h
  exact ⟨bs, mapM_ok_iff.2 hbs⟩

theorem bind_error_iff {x : Except ε α} {f : α → Except ε β} {e : ε} :
    (x >>= f) = .error e ↔ x = .error e ∨ ∃ a, x = .ok a ∧ f a = .error e := by
  cases x with
  | error e => simp [bind, Except.bind]
  | ok a => simp [bind, Except.bind]

/-- All values of a step over a list have a property if the step gives one on every item. -/
theorem forall_values_iff {f : α → Except ε β} {l : List α} {bs : List β}
    (h : List.Forall₂ (fun a b => f a = .ok b) l bs) {P : β → Prop} :
    (∀ b ∈ bs, P b) ↔ ∀ a ∈ l, ∃ b, f a = .ok b ∧ P b := by
  constructor
  · intro hP a ha
    obtain ⟨b, hb, hf⟩ := exists_of_mem_left h ha
    exact ⟨b, hf, hP b hb⟩
  · intro hP b hb
    obtain ⟨a, ha, hf⟩ := exists_of_mem_right h hb
    obtain ⟨c, hc, hPc⟩ := hP a ha
    rw [hf, Except.ok.injEq] at hc
    rwa [hc]

def isTrue (r : Except ε Bool) : Bool :=
  match r with
  | .ok b => b
  | .error _ => false

theorem filterAuxM_ok_iff {f : α → Except ε Bool} {l acc out : List α} :
    List.filterAuxM f l acc = .ok out ↔
      (∀ a ∈ l, ∃ b, f a = .ok b) ∧
        out = (l.filter fun a => isTrue (f a)).reverse ++ acc := by
  induction l generalizing acc with
  | nil => simp [List.filterAuxM, pure, Except.pure, eq_comm]
  | cons a l ih =>
      rw [List.filterAuxM]
      cases ha : f a with
      | error e => simp [ha, bind, Except.bind]
      | ok b => cases b <;> simp [ha, bind, Except.bind, ih, isTrue]

/--
Keeping items by a test succeeds exactly if the test never fails, and keeps those
for which it is true.
-/
theorem filterM_ok_iff {f : α → Except ε Bool} {l kept : List α} :
    l.filterM f = .ok kept ↔
      (∀ a ∈ l, ∃ b, f a = .ok b) ∧ kept = l.filter fun a => isTrue (f a) := by
  rw [List.filterM, bind_ok_iff]
  simp only [filterAuxM_ok_iff, pure, Except.pure, Except.ok.injEq, List.append_nil]
  constructor
  · rintro ⟨_, ⟨hall, rfl⟩, rfl⟩
    exact ⟨hall, List.reverse_reverse _⟩
  · rintro ⟨hall, rfl⟩
    exact ⟨_, ⟨hall, rfl⟩, List.reverse_reverse _⟩

end

/-! ## Steps that go alike -/

/-- Whether two steps fail with the same error or give values that are related. -/
inductive Alike {ε α β : Type} (R : α → β → Prop) : Except ε α → Except ε β → Prop where
  | error (e : ε) : Alike R (.error e) (.error e)
  | ok {a : α} {b : β} (h : R a b) : Alike R (.ok a) (.ok b)

namespace Alike

variable {ε α β γ δ : Type} {R : α → β → Prop} {S : γ → δ → Prop}

/-- A step goes like itself, and what is known of its value is known of both. -/
theorem self {R : α → α → Prop} {x : Except ε α} (h : ∀ a, x = .ok a → R a a) : Alike R x x := by
  cases x with
  | error e => exact .error e
  | ok a => exact .ok (h a rfl)

theorem bind {x : Except ε α} {y : Except ε β} (h : Alike R x y) {f : α → Except ε γ}
    {g : β → Except ε δ} (next : ∀ a b, R a b → Alike S (f a) (g b)) :
    Alike S (x >>= f) (y >>= g) := by
  cases h with
  | error e => exact .error e
  | ok h => exact next _ _ h

theorem map {x : Except ε α} {y : Except ε β} (h : Alike R x y) {f : α → γ} {g : β → δ}
    (next : ∀ a b, R a b → S (f a) (g b)) :
    Alike S (x.map f) (y.map g) := by
  cases h with
  | error e => exact .error e
  | ok h => exact .ok (next _ _ h)

/-- Behind the same step, it is enough to look at its value. -/
theorem bind_self {x : Except ε α} {f : α → Except ε γ} {g : α → Except ε δ}
    (next : ∀ a, x = .ok a → Alike S (f a) (g a)) :
    Alike S (x >>= f) (x >>= g) := by
  cases x with
  | error e => exact .error e
  | ok a => exact next a rfl

/-- Where what follows is the same for related values, it is the same altogether. -/
theorem bind_eq {x : Except ε α} {y : Except ε β} (h : Alike R x y) {f : α → Except ε γ}
    {g : β → Except ε γ} (next : ∀ a b, R a b → f a = g b) :
    (x >>= f) = (y >>= g) := by
  cases h with
  | error e => rfl
  | ok h => exact next _ _ h

theorem mapM {f : γ → Except ε α} {g : γ → Except ε β} {l : List γ}
    (h : ∀ c ∈ l, Alike R (f c) (g c)) :
    Alike (List.Forall₂ R) (l.mapM f) (l.mapM g) := by
  induction l with
  | nil => exact .ok .nil
  | cons c l ih =>
      obtain ⟨hc, hl⟩ := List.forall_mem_cons.1 h
      rw [List.mapM_cons, List.mapM_cons]
      exact hc.bind fun a b hab => (ih hl).bind fun as bs habs => .ok (.cons hab habs)

end Alike

/-! ## Steps that fail in one way -/

/-- Whether a step only fails with errors of some kind. -/
def FailsOnly {ε α : Type} (P : ε → Prop) (x : Except ε α) : Prop :=
  ∀ ⦃e⦄, x = .error e → P e

namespace FailsOnly

variable {ε δ α β : Type} {P : ε → Prop} {x : Except ε α}

theorem ok (a : α) : FailsOnly P (.ok a : Except ε α) :=
  fun _ h => by cases h

theorem error {e : ε} (h : P e) : FailsOnly P (.error e : Except ε α) :=
  fun _ he => by
    cases he
    exact h

theorem bind (hx : FailsOnly P x) {f : α → Except ε β} (hf : ∀ a, x = .ok a → FailsOnly P (f a)) :
    FailsOnly P (x >>= f) := by
  cases x with
  | error e => exact error (hx rfl)
  | ok a => exact hf a rfl

theorem map (hx : FailsOnly P x) (f : α → β) : FailsOnly P (x.map f) := by
  cases x with
  | error e => exact error (hx rfl)
  | ok a => exact ok (f a)

theorem ite {p : Prop} {_ : Decidable p} {y : Except ε α} (hx : FailsOnly P x)
    (hy : FailsOnly P y) :
    FailsOnly P (if p then x else y) := by
  split
  · exact hx
  · exact hy

theorem mapError {Q : δ → Prop} {f : ε → δ} (hx : FailsOnly P x) (h : ∀ e, P e → Q (f e)) :
    FailsOnly Q (x.mapError f) := by
  cases x with
  | error e => exact error (h e (hx rfl))
  | ok a => exact ok a

theorem mapM {f : β → Except ε α} {l : List β} (hf : ∀ b ∈ l, FailsOnly P (f b)) :
    FailsOnly P (l.mapM f) := by
  induction l with
  | nil => exact ok []
  | cons b l ih =>
      obtain ⟨hb, hl⟩ := List.forall_mem_cons.1 hf
      rw [List.mapM_cons]
      exact hb.bind fun a _ => (ih hl).bind fun as _ => ok (a :: as)

theorem foldlM {f : α → β → Except ε α} (hf : ∀ a b, FailsOnly P (f a b)) (l : List β) (a : α) :
    FailsOnly P (l.foldlM f a) := by
  induction l generalizing a with
  | nil => exact ok a
  | cons b l ih =>
      rw [List.foldlM_cons]
      exact (hf a b).bind fun a' _ => ih a'

theorem filterM {f : β → Except ε Bool} (hf : ∀ b, FailsOnly P (f b)) (l : List β) :
    FailsOnly P (l.filterM f) := by
  have aux (acc : List β) : FailsOnly P (List.filterAuxM f l acc) := by
    induction l generalizing acc with
    | nil => exact ok acc
    | cons b l ih =>
        rw [List.filterAuxM]
        exact (hf b).bind fun keep _ => ih _
  exact (aux []).bind fun kept _ => ok kept.reverse

end FailsOnly

end GridSql
