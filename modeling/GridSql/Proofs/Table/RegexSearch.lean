import GridSql.Table.Regex

/-!
# Where regular expressions are found

What a regular expression means, said apart from any engine: how its steps are written, which
part of a text they run over, and that it is looked for at every position. The library's own
engine compiles every expression that is written so, unless it is too large, and finds it
exactly where its steps run.
-/

namespace GridSql

namespace Regex

/-! ## The meaning of expressions -/

/-- Whether a text is how a set of characters is written. -/
inductive WritesSet : List Char → CharSet → Prop where
  | any : WritesSet ['.'] .any
  | plain {c : Char} (h : c ∉ special) : WritesSet [c] (.exactly c)
  | escaped {c : Char} (h : c ∈ special) : WritesSet ['\\', c] (.exactly c)

/-- Whether a text, behind the flag, is how some steps are written. -/
inductive Writes : List Char → List Step → Prop where
  | nil : Writes [] []
  | one {front text : List Char} {set : CharSet} {steps : List Step} (h : WritesSet front set)
      (rest : Writes text steps) : Writes (front ++ text) (.one set :: steps)
  | many {front text : List Char} {set : CharSet} {steps : List Step} (h : WritesSet front set)
      (rest : Writes text steps) : Writes (front ++ '*' :: text) (.many set :: steps)
  | start {text : List Char} {steps : List Step} (rest : Writes text steps) :
      Writes ('^' :: text) (.start :: steps)
  | finish {text : List Char} {steps : List Step} (rest : Writes text steps) :
      Writes ('$' :: text) (.finish :: steps)

/-- Whether steps run from a position of a text, with what stands before and behind it. -/
def Runs : List Char → List Step → List Char → Prop
  | _, [], _ => True
  | before, .one set :: steps, behind =>
      ∃ c tail, behind = c :: tail ∧ set.has c = true ∧ Runs (before ++ [c]) steps tail
  | before, .many set :: steps, behind =>
      ∃ run tail, behind = run ++ tail ∧ (∀ c ∈ run, set.has c = true) ∧
        Runs (before ++ run) steps tail
  | before, .start :: steps, behind => before = [] ∧ Runs before steps behind
  | before, .finish :: steps, behind => behind = [] ∧ Runs before steps behind

def Found (steps : List Step) (text : List Char) : Prop :=
  ∃ before behind, text = before ++ behind ∧ Runs before steps behind

end Regex

/--
What is documented of an engine: a character is escaped so that it stands for itself, and a
compiled expression is found in exactly the texts that it is in by its meaning.
-/
structure RegexEngine.Documented {ρ : Type} (E : RegexEngine ρ) : Prop where
  escape : ∀ c, Regex.WritesSet (E.escape c) (.exactly c)
  found : ∀ {text : List Char} {steps : List Regex.Step} {re : ρ}, Regex.Writes text steps →
    E.compile (Regex.flag ++ text) = .ok re →
      ∀ sought, E.isFound re sought = true ↔ Regex.Found steps sought

namespace Regex

/-! ## Reading what is written -/

theorem read?_cons {c : Char} (h : c ≠ '\\') (text : List Char) :
    read? (c :: text) = (read? text).bind (·.add? c) := by
  cases text with
  | nil => rfl
  | cons next rest => rw [read?, if_neg h]

theorem read?_escaped {c : Char} (h : c ∈ special) (text : List Char) :
    read? ('\\' :: c :: text) = (read? text).map (·.take (.exactly c)) := by
  rw [read?, if_pos rfl, if_pos h]

theorem add?_plain {c : Char} (h : c ∉ special) (r : Reading) :
    r.add? c = some (r.take (.exactly c)) := by
  have noPoint : c ≠ '.' := by
    intro same
    exact h (same ▸ by decide)
  rw [Reading.add?, if_neg noPoint, if_pos h]

/-- A set of characters is read in front of whatever stands behind it, a star too. -/
theorem read?_writesSet {front : List Char} {set : CharSet} (h : WritesSet front set)
    (text : List Char) :
    read? (front ++ text) = (read? text).map (·.take set) := by
  cases h with
  | any =>
      rw [List.singleton_append, read?_cons (by decide)]
      cases read? text <;> rfl
  | @plain c h =>
      have noBackslash : c ≠ '\\' := by
        intro same
        exact h (same ▸ by decide)
      rw [List.singleton_append, read?_cons noBackslash]
      cases read? text with
      | none => rfl
      | some r => exact add?_plain h r
  | escaped h => exact read?_escaped h text

theorem read?_of_writes {text : List Char} {steps : List Step} (h : Writes text steps) :
    read? text = some ⟨false, steps⟩ := by
  induction h with
  | nil => rfl
  | one h _ ih =>
      rw [read?_writesSet h, ih]
      rfl
  | many h _ ih =>
      rw [read?_writesSet h, read?_cons (by decide), ih]
      rfl
  | start _ ih =>
      rw [read?_cons (by decide), ih]
      rfl
  | finish _ ih =>
      rw [read?_cons (by decide), ih]
      rfl

theorem compile_of_writes {text : List Char} {steps : List Step} (h : Writes text steps) :
    compile (flag ++ text) = if fits steps then .ok steps else .error tooLarge := by
  have flagged : flag.isPrefixOf (flag ++ text) = true :=
    List.isPrefixOf_iff_prefix.2 (List.prefix_append flag text)
  rw [compile, if_pos flagged, List.drop_left, read?_of_writes h]

theorem writesSet_escape (c : Char) : WritesSet (escape c) (.exactly c) := by
  unfold escape
  by_cases h : c ∈ special
  · rw [if_pos h]
    exact .escaped h
  · rw [if_neg h]
    exact .plain h

/-! ## Entries for the suffixes of a text -/

/-- Whether entries tell of each suffix of a text, longest first, if it has a property. -/
def Marks (P : List Char → Prop) : List Char → List Bool → Prop
  | [], entries => ∃ b, entries = [b] ∧ (b = true ↔ P [])
  | c :: cs, entries =>
      ∃ b rest, entries = b :: rest ∧ (b = true ↔ P (c :: cs)) ∧ Marks P cs rest

variable {P Q : List Char → Prop} {cs text : List Char} {entries : List Bool}

theorem Marks.headD (h : Marks P cs entries) : entries.headD false = true ↔ P cs := by
  cases cs with
  | nil =>
      obtain ⟨b, rfl, hb⟩ := h
      exact hb
  | cons c cs =>
      obtain ⟨b, rest, rfl, hb, -⟩ := h
      exact hb

theorem Marks.congr (h : Marks P cs entries) (hPQ : ∀ ds, ds <:+ cs → (P ds ↔ Q ds)) :
    Marks Q cs entries := by
  induction cs generalizing entries with
  | nil =>
      obtain ⟨b, rfl, hb⟩ := h
      exact ⟨b, rfl, hb.trans (hPQ [] List.suffix_rfl)⟩
  | cons c cs ih =>
      obtain ⟨b, rest, rfl, hb, hrest⟩ := h
      refine ⟨b, rest, rfl, hb.trans (hPQ _ List.suffix_rfl), ih hrest ?_⟩
      intro ds hds
      exact hPQ ds (hds.trans (List.suffix_cons c cs))

theorem marks_all (cs : List Char) :
    Marks (fun _ => True) cs (cs.map (fun _ => true) ++ [true]) := by
  induction cs with
  | nil => exact ⟨true, rfl, by simp⟩
  | cons c cs ih => exact ⟨true, _, rfl, by simp, ih⟩

theorem marks_none (h : Marks P cs entries) (none : ∀ ds, ds <:+ cs → ¬ Q ds) :
    Marks Q cs (entries.map fun _ => false) := by
  induction cs generalizing entries with
  | nil =>
      obtain ⟨b, rfl, -⟩ := h
      exact ⟨false, rfl, by simp [none [] List.suffix_rfl]⟩
  | cons c cs ih =>
      obtain ⟨b, rest, rfl, -, hrest⟩ := h
      refine ⟨false, _, rfl, by simp [none _ List.suffix_rfl], ih hrest ?_⟩
      intro ds hds
      exact none ds (hds.trans (List.suffix_cons c cs))

theorem marks_behindOne {accepts : Char → Bool} (h : Marks P cs entries) :
    Marks (fun ds => ∃ c tail, ds = c :: tail ∧ accepts c = true ∧ P tail) cs
      (behindOne accepts cs entries) := by
  induction cs generalizing entries with
  | nil => exact ⟨false, rfl, by simp⟩
  | cons c cs ih =>
      obtain ⟨b, rest, rfl, -, hrest⟩ := h
      refine ⟨_, _, rfl, ?_, ih hrest⟩
      rw [Bool.and_eq_true, hrest.headD]
      constructor
      · intro taken
        exact ⟨c, cs, rfl, taken.1, taken.2⟩
      · intro taken
        obtain ⟨_, _, heq, hc, htail⟩ := taken
        cases heq
        exact ⟨hc, htail⟩

theorem marks_behindRun {accepts : Char → Bool} (h : Marks P cs entries) :
    Marks (fun ds => ∃ run tail, ds = run ++ tail ∧ (∀ c ∈ run, accepts c = true) ∧ P tail) cs
      (behindRun accepts cs entries) := by
  induction cs generalizing entries with
  | nil =>
      obtain ⟨b, rfl, hb⟩ := h
      refine ⟨b, rfl, hb.trans ?_⟩
      constructor
      · intro hnil
        exact ⟨[], [], rfl, by simp, hnil⟩
      · intro hrun
        obtain ⟨run, tail, heq, -, htail⟩ := hrun
        rwa [(List.append_eq_nil_iff.1 heq.symm).2] at htail
  | cons c cs ih =>
      obtain ⟨b, rest, rfl, hb, hrest⟩ := h
      refine ⟨_, _, rfl, ?_, ih hrest⟩
      rw [Bool.or_eq_true, Bool.and_eq_true, hb, (ih hrest).headD]
      constructor
      · intro hrun
        cases hrun with
        | inl whole => exact ⟨[], _, rfl, by simp, whole⟩
        | inr longer =>
            obtain ⟨hc, run, tail, rfl, hrun, htail⟩ := longer
            exact ⟨c :: run, tail, rfl, List.forall_mem_cons.2 ⟨hc, hrun⟩, htail⟩
      · intro hrun
        obtain ⟨run, tail, heq, hrun, htail⟩ := hrun
        cases run with
        | nil =>
            left
            rwa [heq]
        | cons d run =>
            cases heq
            obtain ⟨hc, hrun⟩ := List.forall_mem_cons.1 hrun
            exact Or.inr ⟨hc, run, tail, rfl, hrun, htail⟩

theorem marks_atStart (h : Marks P cs entries) :
    Marks (fun ds => ds = cs ∧ P ds) cs (atStart entries) := by
  cases cs with
  | nil =>
      obtain ⟨b, rfl, hb⟩ := h
      exact ⟨b, rfl, by simp [hb]⟩
  | cons c cs =>
      obtain ⟨b, rest, rfl, hb, hrest⟩ := h
      refine ⟨b, _, rfl, by simp [hb], marks_none hrest ?_⟩
      intro ds hds whole
      have shorter := hds.length_le
      rw [whole.1, List.length_cons] at shorter
      omega

theorem marks_atFinish (h : Marks P cs entries) :
    Marks (fun ds => ds = [] ∧ P ds) cs (atFinish entries) := by
  induction cs generalizing entries with
  | nil =>
      obtain ⟨b, rfl, hb⟩ := h
      exact ⟨b, rfl, by simp [hb]⟩
  | cons c cs ih =>
      obtain ⟨b, rest, rfl, -, hrest⟩ := h
      have shape : atFinish (b :: rest) = false :: atFinish rest := by
        cases rest with
        | nil => cases cs <;> simp [Marks] at hrest
        | cons d rest => rfl
      exact ⟨false, _, shape, by simp, ih hrest⟩

theorem any_iff_of_marks (h : Marks P cs entries) :
    entries.any id = true ↔ ∃ ds, ds <:+ cs ∧ P ds := by
  induction cs generalizing entries with
  | nil =>
      obtain ⟨b, rfl, hb⟩ := h
      simp [hb]
  | cons c cs ih =>
      obtain ⟨b, rest, rfl, hb, hrest⟩ := h
      rw [List.any_cons, Bool.or_eq_true, ih hrest, id, hb]
      constructor
      · intro h
        cases h with
        | inl whole => exact ⟨_, List.suffix_rfl, whole⟩
        | inr part =>
            obtain ⟨ds, hds, hP⟩ := part
            exact ⟨ds, hds.trans (List.suffix_cons c cs), hP⟩
      · intro h
        obtain ⟨ds, hds, hP⟩ := h
        cases List.suffix_cons_iff.1 hds with
        | inl whole => exact Or.inl (whole ▸ hP)
        | inr part => exact Or.inr ⟨ds, part, hP⟩

/-! ## Expressions are found where their steps run -/

/-- Whether steps run from where the given end of a text begins. -/
def RunsAt (text : List Char) (steps : List Step) (behind : List Char) : Prop :=
  ∃ before, text = before ++ behind ∧ Runs before steps behind

theorem runsAt_iff {before behind : List Char} {steps : List Step}
    (h : text = before ++ behind) :
    RunsAt text steps behind ↔ Runs before steps behind := by
  constructor
  · intro runs
    obtain ⟨other, htext, hruns⟩ := runs
    rw [h] at htext
    rwa [List.append_cancel_right htext]
  · intro hruns
    exact ⟨before, h, hruns⟩

/-- The entry of a suffix tells whether the steps run from where it begins. -/
theorem marks_runsAt (text : List Char) (steps : List Step) :
    Marks (RunsAt text steps) text (marks text steps) := by
  induction steps with
  | nil =>
      refine (marks_all text).congr ?_
      intro behind hbehind
      obtain ⟨before, rfl⟩ := hbehind
      exact iff_of_true trivial ⟨before, rfl, trivial⟩
  | cons step steps ih =>
      cases step with
      | one set =>
          refine (marks_behindOne ih).congr ?_
          intro behind hbehind
          obtain ⟨before, rfl⟩ := hbehind
          rw [runsAt_iff rfl]
          constructor
          · intro taken
            obtain ⟨c, tail, rfl, hc, runs⟩ := taken
            exact ⟨c, tail, rfl, hc, (runsAt_iff (by simp)).1 runs⟩
          · intro runs
            obtain ⟨c, tail, rfl, hc, hruns⟩ := runs
            exact ⟨c, tail, rfl, hc, (runsAt_iff (by simp)).2 hruns⟩
      | many set =>
          refine (marks_behindRun ih).congr ?_
          intro behind hbehind
          obtain ⟨before, rfl⟩ := hbehind
          rw [runsAt_iff rfl]
          constructor
          · intro taken
            obtain ⟨run, tail, rfl, hrun, runs⟩ := taken
            exact ⟨run, tail, rfl, hrun, (runsAt_iff (by simp)).1 runs⟩
          · intro runs
            obtain ⟨run, tail, rfl, hrun, hruns⟩ := runs
            exact ⟨run, tail, rfl, hrun, (runsAt_iff (by simp)).2 hruns⟩
      | start =>
          refine (marks_atStart ih).congr ?_
          intro behind hbehind
          obtain ⟨before, rfl⟩ := hbehind
          rw [runsAt_iff rfl, runsAt_iff rfl, List.self_eq_append_left]
          rfl
      | finish =>
          refine (marks_atFinish ih).congr ?_
          intro behind hbehind
          obtain ⟨before, rfl⟩ := hbehind
          rw [runsAt_iff rfl, runsAt_iff rfl]
          rfl

theorem isFound_engine_iff (steps : List Step) (text : List Char) :
    engine.isFound steps text = true ↔ Found steps text := by
  have entries : engine.isFound steps text = true ↔
      ∃ behind, behind <:+ text ∧ RunsAt text steps behind :=
    any_iff_of_marks (marks_runsAt text steps)
  rw [entries]
  constructor
  · intro found
    obtain ⟨behind, -, before, htext, hruns⟩ := found
    exact ⟨before, behind, htext, hruns⟩
  · intro found
    obtain ⟨before, behind, htext, hruns⟩ := found
    exact ⟨behind, ⟨before, htext.symm⟩, before, htext, hruns⟩

theorem documented_engine : engine.Documented where
  escape := writesSet_escape
  found := by
    intro text steps re written compiled sought
    have read : engine.compile (flag ++ text) = if fits steps then .ok steps else .error tooLarge :=
      compile_of_writes written
    rw [read] at compiled
    split at compiled
    · cases compiled
      exact isFound_engine_iff steps sought
    · cases compiled

end Regex

end GridSql
