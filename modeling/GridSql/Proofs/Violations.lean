import GridSql.Error
import GridSql.Proofs.Result

/-!
# Collected violations

A request that is refused for itself is refused for a word in it or with at least one
violation. So where no violation is left over in the end, every step whose result was taken
over has succeeded.
-/

namespace GridSql

/-- Whether an error says what is wrong with a request: a word of it, or at least one violation. -/
def QueryError.IsExplained : QueryError → Prop
  | .unrecognized _ _ | .invalid (_ :: _) => True
  | _ => False

def Explained {α : Type} (r : Except QueryError α) : Prop :=
  FailsOnly QueryError.IsExplained r

namespace Explained

variable {α β : Type}

theorem ok (a : α) : Explained (.ok a) :=
  FailsOnly.ok a

theorem single (field message : String) :
    Explained (α := α) (.error (.single field message)) :=
  FailsOnly.error trivial

theorem refused (field message : String) (rejected : Json) :
    Explained (α := α) (.error (.refused field message rejected)) :=
  FailsOnly.error trivial

theorem unrecognized (construct value : String) :
    Explained (α := α) (.error (.unrecognized construct value)) :=
  FailsOnly.error trivial

theorem bind {x : Except QueryError α} {f : α → Except QueryError β} (hx : Explained x)
    (hf : ∀ a, Explained (f a)) :
    Explained (x >>= f) :=
  FailsOnly.bind hx fun a _ => hf a

theorem map {x : Except QueryError α} {f : α → β} (hx : Explained x) :
    Explained (x.map f) :=
  FailsOnly.map hx f

theorem mapM {f : α → Except QueryError β} (hf : ∀ a, Explained (f a)) (l : List α) :
    Explained (l.mapM f) :=
  FailsOnly.mapM fun a _ => hf a

end Explained

namespace Violations

variable {α β : Type} {vs found : Violations}

theorem finish_ok_iff {a b : α} :
    finish vs a = .ok b ↔ vs = [] ∧ b = a := by
  unfold finish
  cases vs with
  | nil => simp [eq_comm]
  | cons v vs => simp

theorem explained_finish (vs : Violations) (a : α) : Explained (finish vs a) := by
  unfold finish
  cases vs with
  | nil => exact .ok a
  | cons v vs => exact FailsOnly.error trivial

/-- Violations that were found before are refused whatever the value is. -/
theorem alike_finish {R : α → β → Prop} {a : α} {b : β} (h : vs = [] → R a b) :
    Alike R (finish vs a) (finish vs b) := by
  unfold finish
  cases vs with
  | nil => exact .ok (h rfl)
  | cons v vs => exact .error _

theorem explained_take (vs : Violations) {r : Except QueryError α} (explained : Explained r) :
    Explained (take vs r) := by
  unfold take
  split
  · exact .ok _
  · exact .ok _
  · exact FailsOnly.error (explained rfl)

/-- A step without violations behind it has succeeded, without violations before it. -/
theorem take_ok {r : Except QueryError α} {a? : Option α} (explained : Explained r)
    (h : take vs r = .ok (a?, [])) :
    vs = [] ∧ ∃ a, r = .ok a ∧ a? = some a := by
  unfold take at h
  split at h
  · next a =>
      cases h
      exact ⟨rfl, a, rfl, rfl⟩
  · next more =>
      simp only [Except.ok.injEq, Prod.mk.injEq, List.append_eq_nil_iff] at h
      obtain ⟨-, -, rfl⟩ := h
      exact (explained rfl).elim
  · cases h

/-- The value of a step is taken over, unless it has violations. -/
theorem take_cases {r : Except QueryError α} {a? : Option α} (h : take vs r = .ok (a?, found)) :
    a? = none ∨ ∃ a, r = .ok a ∧ a? = some a := by
  unfold take at h
  split at h
  · next a =>
      cases h
      exact .inr ⟨a, rfl, rfl⟩
  · cases h
    exact .inl rfl
  · cases h

end Violations

end GridSql
