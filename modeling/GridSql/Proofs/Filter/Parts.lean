import GridSql.Filter.Recognize
import GridSql.Proofs.Result

/-!
# Parts of a filter model

A filter model of the right shape consists of words and literals. Each of them can be at fault
by itself, whatever the others are: a word may stand for nothing, a literal may be unreadable.
A step of recognition comes to a verdict on the parts that it reads. The first unknown word is
fatal; where all words are known, the unreadable literals are refused together.
-/

namespace GridSql

/-- A word or a literal of a filter model, with what is wrong with it alone. -/
inductive FilterPart where
  /-- A word, what it is taken for, and whether it stands for something there. -/
  | word (construct value : String) (known : Bool)
  /-- A literal, the field it is in, and why it cannot be read. -/
  | literal (field : String) (value : Json) (fault : Option LiteralError)

namespace FilterPart

def ofWord {α : Type} (ofName? : String → Option α) (construct value : String) : FilterPart :=
  .word construct value (ofName? value).isSome

/-- Why the text of a literal cannot be read; null has no text and so no fault. -/
def literalFault {α : Type} (read : String → Except LiteralError α) (j : Json) :
    Option LiteralError :=
  match Recognizers.literalText j with
  | none => none
  | some text =>
      match read text with
      | .ok _ => none
      | .error fault => some fault

def ofLiteral {α : Type} (read : String → Except LiteralError α) (payload : Payload)
    (path key : String) : FilterPart :=
  .literal (Payload.field path key) (payload.member key) (literalFault read (payload.member key))

def unknown? : FilterPart → Option (String × String)
  | .word construct value false => some (construct, value)
  | _ => none

def violation? : FilterPart → Option Violation
  | .literal field value (some fault) =>
      some { field, message := fault.message, rejected := some value }
  | _ => none

def unknownWords (parts : List FilterPart) : List (String × String) :=
  parts.filterMap unknown?

def badLiterals (parts : List FilterPart) : Violations :=
  parts.filterMap violation?

section

variable (parts others : List FilterPart) (construct value : String) (known : Bool)

@[simp] theorem unknownWords_nil : unknownWords [] = [] :=
  rfl

@[simp] theorem badLiterals_nil : badLiterals [] = [] :=
  rfl

@[simp] theorem unknownWords_append :
    unknownWords (parts ++ others) = unknownWords parts ++ unknownWords others :=
  List.filterMap_append

@[simp] theorem badLiterals_append :
    badLiterals (parts ++ others) = badLiterals parts ++ badLiterals others :=
  List.filterMap_append

@[simp] theorem badLiterals_word :
    badLiterals (.word construct value known :: parts) = badLiterals parts :=
  rfl

@[simp] theorem unknownWords_known :
    unknownWords (.word construct value true :: parts) = unknownWords parts :=
  rfl

@[simp] theorem unknownWords_unknown :
    unknownWords (.word construct value false :: parts) =
      (construct, value) :: unknownWords parts :=
  rfl

@[simp] theorem unknownWords_literal (field : String) (j : Json) (fault : Option LiteralError) :
    unknownWords (.literal field j fault :: parts) = unknownWords parts :=
  rfl

@[simp] theorem badLiterals_readable (field : String) (j : Json) :
    badLiterals (.literal field j none :: parts) = badLiterals parts :=
  rfl

@[simp] theorem badLiterals_unreadable (field : String) (j : Json) (fault : LiteralError) :
    badLiterals (.literal field j (some fault) :: parts) =
      ⟨field, fault.message, some j⟩ :: badLiterals parts :=
  rfl

end

theorem unknownWords_behind {parts : List FilterPart} (known : unknownWords parts = [])
    (others : List FilterPart) : unknownWords (parts ++ others) = unknownWords others := by
  rw [unknownWords_append, known, List.nil_append]

/--
What a step comes to that reads some parts, with violations found before: the first unknown
word, the violations, or a value with a property.
-/
inductive Verdict {α : Type} (vs : Violations) (parts : List FilterPart) (P : α → Prop) :
    Except QueryError α → Prop
  | unrecognized {construct value : String} {more : List (String × String)}
      (unknown : unknownWords parts = (construct, value) :: more) :
      Verdict vs parts P (.error (.unrecognized construct value))
  | invalid (known : unknownWords parts = []) (bad : vs ++ badLiterals parts ≠ []) :
      Verdict vs parts P (.error (.invalid (vs ++ badLiterals parts)))
  | accepted {a : α} (known : unknownWords parts = []) (clean : vs ++ badLiterals parts = [])
      (holds : P a) : Verdict vs parts P (.ok a)

/--
What a step comes to that reads some parts and hands its violations on, behind those found
before. Its value has a property where all literals are readable.
-/
inductive Tally {α : Type} (vs : Violations) (parts : List FilterPart) (P : α → Prop) :
    Except QueryError (α × Violations) → Prop
  | unrecognized {construct value : String} {more : List (String × String)}
      (unknown : unknownWords parts = (construct, value) :: more) :
      Tally vs parts P (.error (.unrecognized construct value))
  | counted {a : α} (known : unknownWords parts = []) (holds : badLiterals parts = [] → P a) :
      Tally vs parts P (.ok (a, vs ++ badLiterals parts))

section

variable {α β : Type} {vs : Violations} {parts others : List FilterPart} {P : α → Prop}
  {Q : β → Prop}

namespace Verdict

theorem ok {a : α} (h : P a) : Verdict [] [] P (.ok a) :=
  .accepted rfl rfl h

section

variable {x : Except QueryError α} (hx : Verdict vs parts P x)
include hx

theorem eq_unrecognized {construct value : String} {more : List (String × String)}
    (unknown : unknownWords parts = (construct, value) :: more) :
    x = .error (.unrecognized construct value) := by
  cases hx with
  | unrecognized first =>
      rw [unknown] at first
      cases first
      rfl
  | invalid known _ => simp [unknown] at known
  | accepted known _ _ => simp [unknown] at known

theorem eq_invalid (known : unknownWords parts = []) (bad : vs ++ badLiterals parts ≠ []) :
    x = .error (.invalid (vs ++ badLiterals parts)) := by
  cases hx with
  | unrecognized unknown => simp [known] at unknown
  | invalid _ _ => rfl
  | accepted _ clean _ => exact absurd clean bad

theorem exists_ok (known : unknownWords parts = []) (clean : vs ++ badLiterals parts = []) :
    ∃ a, x = .ok a ∧ P a := by
  cases hx with
  | unrecognized unknown => simp [known] at unknown
  | invalid _ bad => exact absurd clean bad
  | accepted _ _ holds => exact ⟨_, rfl, holds⟩

end

/-- Violations that were found before are what is refused where nothing else is read. -/
theorem finish (vs : Violations) {a : α} (h : P a) :
    Verdict vs [] P (Violations.finish vs a) := by
  cases vs with
  | nil => exact .ok h
  | cons v vs =>
      have refused : Verdict (v :: vs) [] P (.error (.invalid ((v :: vs) ++ badLiterals []))) :=
        .invalid rfl (by simp)
      rwa [badLiterals_nil, List.append_nil] at refused

theorem known {construct value : String} {x : Except QueryError α} (hx : Verdict vs parts P x) :
    Verdict vs (.word construct value true :: parts) P x := by
  cases hx with
  | unrecognized unknown => exact .unrecognized unknown
  | invalid known bad => exact .invalid known bad
  | accepted known clean holds => exact .accepted known clean holds

theorem word {γ : Type} {ofName? : String → Option γ} {construct value : String}
    {f : γ → Except QueryError α} (hf : ∀ c, ofName? value = some c → Verdict vs parts P (f c)) :
    Verdict vs (ofWord ofName? construct value :: parts) P
      (Recognizers.word ofName? construct value >>= f) := by
  unfold ofWord Recognizers.word
  cases found : ofName? value with
  | none => exact .unrecognized rfl
  | some c => exact (hf c found).known

theorem map {x : Except QueryError α} {f : α → β} (hx : Verdict vs parts P x)
    (h : ∀ a, P a → Q (f a)) : Verdict vs parts Q (x.map f) := by
  cases hx with
  | unrecognized unknown => exact .unrecognized unknown
  | invalid known bad => exact .invalid known bad
  | accepted known clean holds => exact .accepted known clean (h _ holds)

theorem weaken {x : Except QueryError α} {P' : α → Prop} (hx : Verdict vs parts P x)
    (h : ∀ a, P a → P' a) : Verdict vs parts P' x := by
  have same : x.map id = x := by cases x <;> rfl
  rw [← same]
  exact hx.map h

theorem map_bind_ok {γ : Type} {x : Except QueryError α} {f : α → γ} {g : γ → β}
    (hx : Verdict vs parts P x) (h : ∀ a, P a → Q (g (f a))) :
    Verdict vs parts Q (x.map f >>= fun c => .ok (g c)) := by
  have joined : (x.map f >>= fun c => .ok (g c)) = x.map (g ∘ f) := by cases x <;> rfl
  rw [joined]
  exact hx.map h

theorem wordAlone (ofName? : String → Option α) (construct value : String) :
    Verdict [] [ofWord ofName? construct value] (fun _ => True)
      (Recognizers.word ofName? construct value) := by
  unfold ofWord Recognizers.word
  cases ofName? value with
  | none => exact .unrecognized rfl
  | some a => exact .accepted rfl rfl trivial

theorem literal (read : String → Except LiteralError α) (payload : Payload)
    (path key : String) :
    Verdict [] [ofLiteral read payload path key] (fun _ => True)
      (Recognizers.literal read (payload.member key) path key) := by
  unfold Recognizers.literal ofLiteral literalFault
  cases Recognizers.literalText (payload.member key) with
  | none =>
      change Verdict [] [.literal _ _ none] _ (.ok none)
      exact .accepted rfl rfl trivial
  | some text =>
      dsimp only
      cases read text with
      | ok a =>
          change Verdict [] [.literal _ _ none] _ (.ok (some a))
          exact .accepted rfl rfl trivial
      | error fault =>
          have bad : [] ++ badLiterals [.literal (Payload.field path key) (payload.member key)
              (some fault)] ≠ [] := by simp
          exact .invalid rfl bad

/-- Taken over, violations are handed on, and a value is there if there are none. -/
theorem take (vs : Violations) {x : Except QueryError α} (hx : Verdict [] parts P x) :
    Tally vs parts (fun taken => ∃ a, taken = some a ∧ P a) (Violations.take vs x) := by
  cases hx with
  | unrecognized unknown => exact .unrecognized unknown
  | invalid known bad => exact .counted known fun clean => absurd clean bad
  | @accepted a known clean holds =>
      have counted : Tally vs parts (fun taken => ∃ a, taken = some a ∧ P a)
          (.ok (some a, vs ++ badLiterals parts)) :=
        .counted known fun _ => ⟨a, rfl, holds⟩
      rw [show badLiterals parts = [] from clean, List.append_nil] at counted
      exact counted

end Verdict

namespace Tally

theorem ok (vs : Violations) {a : α} (h : P a) : Tally vs [] P (.ok (a, vs)) := by
  have counted : Tally vs [] P (.ok (a, vs ++ badLiterals [])) := .counted rfl fun _ => h
  rwa [badLiterals_nil, List.append_nil] at counted

variable {y : Except QueryError (α × Violations)}

theorem known {construct value : String} (hy : Tally vs parts P y) :
    Tally vs (.word construct value true :: parts) P y := by
  cases hy with
  | unrecognized unknown => exact .unrecognized unknown
  | counted known holds => exact .counted known holds

/-- The parts of a step come before those of the steps behind it. -/
theorem bind {f : α × Violations → Except QueryError (β × Violations)} (hy : Tally vs parts P y)
    (hf : ∀ a, Tally (vs ++ badLiterals parts) others (fun b => P a → Q b)
      (f (a, vs ++ badLiterals parts))) :
    Tally vs (parts ++ others) Q (y >>= f) := by
  cases hy with
  | unrecognized unknown => exact .unrecognized (by rw [unknownWords_append, unknown]; rfl)
  | @counted a known holds =>
      change Tally vs (parts ++ others) Q (f (a, vs ++ badLiterals parts))
      have step := hf a
      generalize f (a, vs ++ badLiterals parts) = z at step
      cases step with
      | unrecognized unknown => exact .unrecognized ((unknownWords_behind known _).trans unknown)
      | @counted b known' holds' =>
          rw [List.append_assoc, ← badLiterals_append]
          refine .counted ((unknownWords_behind known _).trans known') fun clean => ?_
          rw [badLiterals_append, List.append_eq_nil_iff] at clean
          exact holds' clean.2 (holds clean.1)

theorem bind_ok {f : α → β} (hy : Tally vs parts P y) (h : ∀ a, P a → Q (f a)) :
    Tally vs parts Q (y >>= fun found => .ok (f found.1, found.2)) := by
  rw [← List.append_nil parts]
  exact hy.bind fun a => .ok _ (h a)

/-- Where nothing is handed on any more, the violations are decided on. -/
theorem verdict {f : α × Violations → Except QueryError β} (hy : Tally vs parts P y)
    (hf : ∀ a, Verdict (vs ++ badLiterals parts) others (fun b => P a → Q b)
      (f (a, vs ++ badLiterals parts))) :
    Verdict vs (parts ++ others) Q (y >>= f) := by
  cases hy with
  | unrecognized unknown => exact .unrecognized (by rw [unknownWords_append, unknown]; rfl)
  | @counted a known holds =>
      change Verdict vs (parts ++ others) Q (f (a, vs ++ badLiterals parts))
      have step := hf a
      generalize f (a, vs ++ badLiterals parts) = z at step
      cases step with
      | unrecognized unknown => exact .unrecognized ((unknownWords_behind known _).trans unknown)
      | invalid known' bad =>
          rw [List.append_assoc, ← badLiterals_append] at bad ⊢
          exact .invalid ((unknownWords_behind known _).trans known') bad
      | accepted known' clean holds' =>
          rw [List.append_assoc, ← badLiterals_append] at clean
          refine .accepted ((unknownWords_behind known _).trans known') clean ?_
          rw [badLiterals_append, List.append_eq_nil_iff, List.append_eq_nil_iff] at clean
          exact holds' (holds clean.2.1)

/-- The last step refuses what has been found. -/
theorem finished {f : α → β} (hy : Tally vs parts P y) (h : ∀ a, P a → Q (f a)) :
    Verdict vs parts Q (y >>= fun found => Violations.finish found.2 (f found.1)) := by
  rw [← List.append_nil parts]
  exact hy.verdict fun a => .finish _ (h a)

end Tally

end

end FilterPart

end GridSql
