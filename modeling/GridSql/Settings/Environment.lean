import GridSql.Settings.Error

/-!
# Environment references

A text refers to a variable by `${NAME}`, where the name runs up to the closing
brace, or by `$NAME`, where it is the longest run of letters, digits and
underscores. Every other character stands for itself. The references are found in
one pass from left to right; the values that replace them are not read again.
-/

namespace GridSql

abbrev Environment := String → Option String

namespace Environment

inductive Piece where
  | char (c : Char)
  | reference (name : List Char)
deriving DecidableEq, Repr

def isNameChar (c : Char) : Bool :=
  c.isAlphanum || c = '_'

/-- The text up to the closing brace, and what stands behind the brace. -/
def upToBrace : List Char → Option (List Char × List Char)
  | [] => none
  | c :: rest =>
      if c = '\x7d' then some ([], rest)
      else (upToBrace rest).map fun (name, rest) => (c :: name, rest)

/-- The name that a dollar sign in front of a text refers to, and what follows it. -/
def reference? (cs : List Char) : Option (List Char × List Char) :=
  let braced := match cs with
    | '\x7b' :: rest => upToBrace rest
    | _ => none
  braced.orElse fun _ =>
    let name := cs.takeWhile isNameChar
    if name.isEmpty then none else some (name, cs.drop name.length)

theorem upToBrace_length {cs name rest : List Char} (h : upToBrace cs = some (name, rest)) :
    rest.length < cs.length := by
  induction cs generalizing name with
  | nil => simp [upToBrace] at h
  | cons c cs ih =>
      simp only [upToBrace] at h
      split at h
      · simp only [Option.some.injEq, Prod.mk.injEq] at h
        simp [← h.2]
      · obtain ⟨⟨name', rest'⟩, hr, he⟩ := Option.map_eq_some_iff.1 h
        simp only [Prod.mk.injEq] at he
        obtain ⟨-, rfl⟩ := he
        have := ih hr
        simp only [List.length_cons]
        omega

theorem reference?_length {cs name rest : List Char} (h : reference? cs = some (name, rest)) :
    rest.length ≤ cs.length := by
  have hplain : ∀ {r : Option (List Char × List Char)},
      (if (cs.takeWhile isNameChar).isEmpty then none
        else some (cs.takeWhile isNameChar, cs.drop (cs.takeWhile isNameChar).length)) = r →
      r = some (name, rest) → rest.length ≤ cs.length := by
    intro r hr he
    subst hr
    split at he
    · simp at he
    · simp only [Option.some.injEq, Prod.mk.injEq] at he
      simp [← he.2]
  unfold reference? at h
  split at h
  · rename_i tail
    cases hb : upToBrace tail with
    | none =>
        simp only [hb, Option.orElse_none] at h
        exact hplain rfl h
    | some found =>
        simp only [hb, Option.orElse_some, Option.some.injEq] at h
        subst h
        have := upToBrace_length hb
        simp only [List.length_cons]
        omega
  · simp only [Option.orElse_none] at h
    exact hplain rfl h

def pieces (cs : List Char) : List Piece :=
  match cs with
  | [] => []
  | '$' :: rest =>
      match _found : reference? rest with
      | some (name, after) => .reference name :: pieces after
      | none => .char '$' :: pieces rest
  | c :: rest => .char c :: pieces rest
termination_by cs.length
decreasing_by
  · have := reference?_length _found
    simp only [List.length_cons]
    omega
  all_goals simp

def replacement (env : Environment) : Piece → Except SettingsError String
  | .char c => .ok (String.singleton c)
  | .reference name =>
      match env (String.ofList name) with
      | some value => .ok value
      | none => .error (.missingVariable (String.ofList name))

/-- The text with its references replaced; the first one that is not set is an error. -/
def expand (env : Environment) (s : String) : Except SettingsError String :=
  ((pieces s.toList).mapM (replacement env)).map String.join

end Environment

end GridSql
