import Mathlib.Data.List.TakeWhile
import GridSql.Proofs.Result
import GridSql.Settings.Environment

/-!
# References in one pass

A text is cut in exactly one way into references and single characters so that no reference
begins at a character that is left by itself. The expansion puts the value of its variable in
place of each reference of this cut and keeps every other character, so values are not read
again; if some variable is not set, the first of them is reported.
-/

namespace GridSql.Environment

inductive Reference where
  | braced (letters : List Char)
  | bare (letters : List Char)
deriving DecidableEq, Repr

namespace Reference

def letters : Reference → List Char
  | braced letters | bare letters => letters

def name (r : Reference) : String :=
  String.ofList r.letters

def body : Reference → List Char
  | braced letters => '\x7b' :: (letters ++ ['\x7d'])
  | bare letters => letters

def chars (r : Reference) : List Char :=
  '$' :: r.body

/--
Whether a reference can be read in front of a text: in braces the name ends at the first
closing brace, and without them it is as long as it can be.
-/
def StandsBefore (rest : List Char) : Reference → Prop
  | braced letters => '\x7d' ∉ letters
  | bare letters => letters ≠ [] ∧ (∀ c ∈ letters, isNameChar c = true) ∧
      ∀ c ∈ rest.head?, isNameChar c = false

end Reference

/-- Whether a reference can be read at the beginning of a text. -/
def BeginsReference (cs : List Char) : Prop :=
  ∃ (r : Reference) (rest : List Char), r.StandsBefore rest ∧ cs = r.chars ++ rest

/-- A part of a text: a reference, or a character that stands for itself. -/
inductive Part where
  | literal (c : Char)
  | reference (r : Reference)
deriving DecidableEq, Repr

namespace Part

def chars : Part → List Char
  | literal c => [c]
  | reference r => r.chars

/-- Whether a part can be read in front of a text; a character only where no reference can. -/
def StandsBefore (rest : List Char) : Part → Prop
  | literal c => ¬ BeginsReference (c :: rest)
  | reference r => r.StandsBefore rest

def name? : Part → Option String
  | literal _ => none
  | reference r => some r.name

def value (env : Environment) : Part → String
  | literal c => String.singleton c
  | reference r => (env r.name).getD ""

def piece : Part → Piece
  | literal c => .char c
  | reference r => .reference r.letters

end Part

def textOf (parts : List Part) : List Char :=
  parts.flatMap Part.chars

def names (parts : List Part) : List String :=
  parts.filterMap Part.name?

/-- Whether a text consists of parts, each of which can be read in front of those behind it. -/
def ReadsAs (cs : List Char) (parts : List Part) : Prop :=
  cs = textOf parts ∧
    ∀ front part back, parts = front ++ part :: back → part.StandsBefore (textOf back)

variable {env : Environment} {cs rest rest' letters : List Char} {r r' : Reference} {part : Part}
  {parts parts' : List Part}

/-! ## References -/

theorem upToBrace_append (free : '\x7d' ∉ letters) (rest : List Char) :
    upToBrace (letters ++ '\x7d' :: rest) = some (letters, rest) := by
  induction letters with
  | nil => simp [upToBrace]
  | cons c letters ih =>
      obtain ⟨other, free⟩ := not_or.1 (List.mem_cons.not.1 free)
      rw [List.cons_append, upToBrace, if_neg (Ne.symm other), ih free]
      rfl

theorem upToBrace_eq_some (h : upToBrace cs = some (letters, rest)) :
    '\x7d' ∉ letters ∧ cs = letters ++ '\x7d' :: rest := by
  induction cs generalizing letters with
  | nil => cases h
  | cons c cs ih =>
      rw [upToBrace] at h
      split at h
      · next closing =>
          cases h
          exact ⟨List.not_mem_nil, by rw [closing]; rfl⟩
      · next other =>
          obtain ⟨⟨_, _⟩, found, heq⟩ := Option.map_eq_some_iff.1 h
          cases heq
          obtain ⟨free, rfl⟩ := ih found
          exact ⟨List.mem_cons.not.2 (not_or.2 ⟨Ne.symm other, free⟩), rfl⟩

theorem takeWhile_isNameChar_append (all : ∀ c ∈ letters, isNameChar c = true)
    (ends : ∀ c ∈ rest.head?, isNameChar c = false) :
    (letters ++ rest).takeWhile isNameChar = letters := by
  rw [List.takeWhile_append_of_pos all]
  cases rest with
  | nil => simp
  | cons c rest => simp [ends c rfl]

/-- A reference is read as such, whatever stands behind it. -/
theorem reference?_append (h : r.StandsBefore rest) :
    reference? (r.body ++ rest) = some (r.letters, rest) := by
  cases r with
  | braced letters =>
      have found : upToBrace (letters ++ '\x7d' :: rest) = some (letters, rest) :=
        upToBrace_append h rest
      simp [reference?, Reference.body, Reference.letters, found]
  | bare letters =>
      obtain ⟨nonempty, all, ends⟩ := h
      have run := takeWhile_isNameChar_append all ends
      obtain ⟨c, tail, rfl⟩ := List.exists_cons_of_ne_nil nonempty
      have plain : c ≠ '\x7b' := by
        rintro rfl
        exact absurd (all _ List.mem_cons_self) (by decide)
      unfold reference?
      simp only [Reference.body, Reference.letters, run, List.drop_left]
      simp [plain]

theorem standsBefore_bare
    (h : (if (cs.takeWhile isNameChar).isEmpty then none
      else some (cs.takeWhile isNameChar, cs.drop (cs.takeWhile isNameChar).length)) =
        some (letters, rest)) :
    (Reference.bare letters).StandsBefore rest ∧ cs = letters ++ rest := by
  split at h
  · cases h
  · next nonempty =>
      cases h
      have split : cs.drop (cs.takeWhile isNameChar).length = cs.dropWhile isNameChar := by
        have behind : (cs.takeWhile isNameChar ++ cs.dropWhile isNameChar).drop
            (cs.takeWhile isNameChar).length = cs.dropWhile isNameChar := List.drop_left
        rwa [List.takeWhile_append_dropWhile] at behind
      rw [split]
      refine ⟨⟨by simpa using nonempty, fun c hc => List.mem_takeWhile_imp hc, fun c hc => ?_⟩,
        List.takeWhile_append_dropWhile.symm⟩
      have ends := List.head?_dropWhile_not isNameChar cs
      rw [Option.mem_def.1 hc] at ends
      simpa using ends

/-- What is read behind a dollar sign is a reference. -/
theorem exists_of_reference? (h : reference? cs = some (letters, rest)) :
    ∃ r : Reference, r.letters = letters ∧ r.StandsBefore rest ∧ cs = r.body ++ rest := by
  unfold reference? at h
  split at h
  · next tail =>
      cases found : upToBrace tail with
      | none =>
          rw [found, Option.orElse_none] at h
          obtain ⟨stands, split⟩ := standsBefore_bare h
          exact ⟨.bare letters, rfl, stands, split⟩
      | some closed =>
          rw [found, Option.orElse_some, Option.some.injEq] at h
          subst h
          obtain ⟨free, rfl⟩ := upToBrace_eq_some found
          exact ⟨.braced letters, rfl, free, by simp [Reference.body]⟩
  · rw [Option.orElse_none] at h
    obtain ⟨stands, split⟩ := standsBefore_bare h
    exact ⟨.bare letters, rfl, stands, split⟩

theorem reference?_isSome_iff : (reference? cs).isSome = true ↔ BeginsReference ('$' :: cs) := by
  constructor
  · intro h
    obtain ⟨⟨letters, rest⟩, found⟩ := Option.isSome_iff_exists.1 h
    obtain ⟨r, -, stands, rfl⟩ := exists_of_reference? found
    exact ⟨r, rest, stands, rfl⟩
  · rintro ⟨r, rest, stands, split⟩
    have body : cs = r.body ++ rest := (List.cons.inj split).2
    rw [body, reference?_append stands]
    rfl

theorem reference_unique (h : r.StandsBefore rest) (h' : r'.StandsBefore rest')
    (same : r.chars ++ rest = r'.chars ++ rest') :
    r = r' ∧ rest = rest' := by
  have bodies : r.body ++ rest = r'.body ++ rest' := List.tail_eq_of_cons_eq same
  have read := reference?_append h
  rw [bodies, reference?_append h', Option.some.injEq, Prod.mk.injEq] at read
  obtain ⟨sameLetters, rfl⟩ := read
  refine ⟨?_, rfl⟩
  -- With the same letters, the form with braces is longer.
  have length := congrArg List.length (List.append_cancel_right bodies)
  have lengths := congrArg List.length sameLetters
  cases r <;> cases r' <;>
    simp only [Reference.letters, Reference.body, List.length_cons, List.length_append,
      List.length_nil] at sameLetters length lengths
  · rw [sameLetters]
  · omega
  · omega
  · rw [sameLetters]

/-! ## Cuts -/

theorem readsAs_nil_iff : ReadsAs cs [] ↔ cs = [] := by
  simp [ReadsAs, textOf]

theorem readsAs_cons_iff :
    ReadsAs cs (part :: parts) ↔
      ∃ rest, cs = part.chars ++ rest ∧ part.StandsBefore rest ∧ ReadsAs rest parts := by
  constructor
  · rintro ⟨split, stands⟩
    refine ⟨textOf parts, split, stands [] part parts rfl, rfl, fun front next back h => ?_⟩
    exact stands (part :: front) next back (by rw [h, List.cons_append])
  · rintro ⟨_, rfl, first, rfl, others⟩
    refine ⟨rfl, fun front next back h => ?_⟩
    cases front with
    | nil =>
        cases h
        exact first
    | cons _ front =>
        cases h
        exact others front next back rfl

theorem pieces_char {c : Char} (h : ¬ BeginsReference (c :: cs)) :
    pieces (c :: cs) = .char c :: pieces cs := by
  by_cases dollar : c = '$'
  · subst dollar
    rw [← reference?_isSome_iff, Bool.not_eq_true, Option.isSome_eq_false_iff,
      Option.isNone_iff_eq_none] at h
    rw [pieces]
    split
    · next found =>
        rw [h] at found
        cases found
    · rfl
  · rw [pieces]
    simp [dollar]

theorem pieces_reference (h : r.StandsBefore rest) :
    pieces (r.chars ++ rest) = .reference r.letters :: pieces rest := by
  have found := reference?_append h
  rw [Reference.chars, List.cons_append, pieces]
  split
  · next found' =>
      rw [found] at found'
      cases found'
      rfl
  · next found' =>
      rw [found] at found'
      cases found'

theorem pieces_eq_map (h : ReadsAs cs parts) : pieces cs = parts.map Part.piece := by
  induction parts generalizing cs with
  | nil =>
      rw [readsAs_nil_iff.1 h]
      simp [pieces]
  | cons part parts ih =>
      obtain ⟨rest, rfl, stands, others⟩ := readsAs_cons_iff.1 h
      cases part with
      | literal c => exact (pieces_char stands).trans (congrArg _ (ih others))
      | reference r => exact (pieces_reference stands).trans (congrArg _ (ih others))

theorem exists_readsAs (cs : List Char) : ∃ parts, ReadsAs cs parts := by
  induction hn : cs.length using Nat.strong_induction_on generalizing cs with
  | h n ih =>
      cases cs with
      | nil => exact ⟨[], readsAs_nil_iff.2 rfl⟩
      | cons c cs =>
          by_cases begins : BeginsReference (c :: cs)
          · obtain ⟨r, rest, stands, split⟩ := begins
            have shorter : rest.length < n := by
              rw [← hn, split, Reference.chars, List.cons_append, List.length_cons,
                List.length_append]
              omega
            obtain ⟨parts, hparts⟩ := ih _ shorter rest rfl
            exact ⟨.reference r :: parts, readsAs_cons_iff.2 ⟨rest, split, stands, hparts⟩⟩
          · obtain ⟨parts, hparts⟩ := ih cs.length (by simp [← hn]) cs rfl
            exact ⟨.literal c :: parts, readsAs_cons_iff.2 ⟨cs, rfl, begins, hparts⟩⟩

theorem part_unique {part' : Part} (h : part.StandsBefore rest) (h' : part'.StandsBefore rest')
    (same : part.chars ++ rest = part'.chars ++ rest') :
    part = part' ∧ rest = rest' := by
  cases part with
  | literal c =>
      cases part' with
      | literal c' =>
          cases same
          exact ⟨rfl, rfl⟩
      | reference r' => exact absurd ⟨r', rest', h', same⟩ h
  | reference r =>
      cases part' with
      | literal c' => exact absurd ⟨r, rest, h, same.symm⟩ h'
      | reference r' =>
          obtain ⟨rfl, rfl⟩ := reference_unique h h' same
          exact ⟨rfl, rfl⟩

theorem Part.chars_ne_nil (part : Part) : part.chars ≠ [] := by
  cases part with
  | literal c => exact List.cons_ne_nil c []
  | reference r => exact List.cons_ne_nil '$' r.body

theorem readsAs_unique (h : ReadsAs cs parts) (h' : ReadsAs cs parts') : parts = parts' := by
  induction parts generalizing cs parts' with
  | nil =>
      cases parts' with
      | nil => rfl
      | cons part' parts' =>
          obtain ⟨rest, split, -, -⟩ := readsAs_cons_iff.1 h'
          rw [readsAs_nil_iff.1 h] at split
          exact absurd (List.append_eq_nil_iff.1 split.symm).1 part'.chars_ne_nil
  | cons part parts ih =>
      obtain ⟨rest, rfl, stands, others⟩ := readsAs_cons_iff.1 h
      cases parts' with
      | nil => exact absurd (List.append_eq_nil_iff.1 (readsAs_nil_iff.1 h')).1 part.chars_ne_nil
      | cons part' parts' =>
          obtain ⟨rest', split, stands', others'⟩ := readsAs_cons_iff.1 h'
          obtain ⟨rfl, rfl⟩ := part_unique stands stands' split
          rw [ih others others']

/-! ## Values -/

theorem replacement_piece_ok_iff {s : String} :
    replacement env part.piece = .ok s ↔
      (∀ name ∈ part.name?, (env name).isSome = true) ∧ s = part.value env := by
  cases part with
  | literal c => simpa [Part.piece, replacement, Part.name?, Part.value] using eq_comm
  | reference r =>
      have name : String.ofList r.letters = r.name := rfl
      cases found : env r.name with
      | none => simp [Part.piece, replacement, Part.name?, name, found]
      | some value =>
          simpa [Part.piece, replacement, Part.name?, Part.value, name, found] using eq_comm

theorem replacement_piece_error_iff {e : SettingsError} :
    replacement env part.piece = .error e ↔
      ∃ name ∈ part.name?, env name = none ∧ e = .missingVariable name := by
  cases part with
  | literal c => simp [Part.piece, replacement, Part.name?]
  | reference r =>
      have name : String.ofList r.letters = r.name := rfl
      cases found : env r.name with
      | none => simpa [Part.piece, replacement, Part.name?, name, found] using eq_comm
      | some value => simp [Part.piece, replacement, Part.name?, name, found]

theorem names_cons (part : Part) (parts : List Part) :
    names (part :: parts) = part.name?.toList ++ names parts := by
  cases h : part.name? <;> simp [names, h]

/-- The values of parts are put together if all variables are set. -/
theorem mapM_replacement_ok_iff {values : List String} :
    (parts.map Part.piece).mapM (replacement env) = .ok values ↔
      (∀ name ∈ names parts, (env name).isSome = true) ∧ values = parts.map (Part.value env) := by
  induction parts generalizing values with
  | nil => cases values <;> simp [names, pure, Except.pure]
  | cons part parts ih =>
      rw [List.map_cons, List.mapM_cons, bind_ok_iff]
      simp only [bind_ok_iff, replacement_piece_ok_iff, ih, pure, Except.pure, Except.ok.injEq]
      rw [names_cons, List.forall_mem_append]
      constructor
      · rintro ⟨_, ⟨first, rfl⟩, _, ⟨others, rfl⟩, rfl⟩
        exact ⟨⟨by simpa using first, others⟩, rfl⟩
      · rintro ⟨⟨first, others⟩, rfl⟩
        exact ⟨_, ⟨by simpa using first, rfl⟩, _, ⟨others, rfl⟩, rfl⟩

/-- Otherwise the first variable that is not set is reported. -/
theorem mapM_replacement_error_iff {e : SettingsError} :
    (parts.map Part.piece).mapM (replacement env) = .error e ↔
      ∃ name, (names parts).find? (fun name => (env name).isNone) = some name ∧
        e = .missingVariable name := by
  induction parts with
  | nil => simp [names, pure, Except.pure]
  | cons part parts ih =>
      rw [List.map_cons, List.mapM_cons, bind_error_iff]
      simp only [bind_error_iff, replacement_piece_ok_iff, replacement_piece_error_iff, ih, pure,
        Except.pure, reduceCtorEq, and_false, exists_false, or_false]
      rw [names_cons, List.find?_append]
      cases h : part.name? with
      | none => simp
      | some name => cases found : env name <;> simp [found]

/--
The expansion is one pass from left to right. Every text is cut in exactly one way into the
leftmost references and the characters between them. The expansion fails exactly if one of
these references is to a variable that is not set, and reports the first such variable;
otherwise it is the text with the values of the variables in place of the references, as they
are.
-/
theorem expand_onePass (env : Environment) (s : String) :
    ∃ parts, (∀ others, ReadsAs s.toList others ↔ others = parts) ∧
      (∀ e, expand env s = .error e ↔
        ∃ name, (names parts).find? (fun name => (env name).isNone) = some name ∧
          e = .missingVariable name) ∧
      ∀ expanded, expand env s = .ok expanded ↔
        (∀ name ∈ names parts, (env name).isSome = true) ∧
          expanded = String.join (parts.map (Part.value env)) := by
  obtain ⟨parts, hparts⟩ := exists_readsAs s.toList
  have cut : expand env s =
      ((parts.map Part.piece).mapM (replacement env)).map String.join := by
    rw [expand, pieces_eq_map hparts]
  refine ⟨parts, fun others => ⟨fun h => readsAs_unique h hparts, ?_⟩, fun e => ?_,
    fun expanded => ?_⟩
  · rintro rfl
    exact hparts
  · rw [cut, ← mapM_replacement_error_iff]
    cases (parts.map Part.piece).mapM (replacement env) <;> simp [Except.map]
  · rw [cut, map_ok_iff]
    simp only [mapM_replacement_ok_iff]
    constructor
    · rintro ⟨_, ⟨set, rfl⟩, rfl⟩
      exact ⟨set, rfl⟩
    · rintro ⟨set, rfl⟩
      exact ⟨_, ⟨set, rfl⟩, rfl⟩

/-- A value that looks like a reference, a brace that is not closed and a lone dollar sign. -/
example : expand (fun name => if name = "TABLE" then some "$\x7bYEAR\x7d" else none)
    "$TABLE.$\x7bTABLE\x7d$\x7bTABLE$" =
      .ok "$\x7bYEAR\x7d.$\x7bYEAR\x7d$\x7bTABLE$" := by
  cbv

end GridSql.Environment
