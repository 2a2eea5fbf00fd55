/-!
# Regular expressions

An engine compiles the text of a regular expression and looks for the expression anywhere in
other texts. The one here knows the part of the syntax that patterns are written in: plain
characters and the point for any character, each with a star behind it for any number of
them, and the anchors at the start and at the end of a text. A backslash takes the meaning
from the character behind it, and the flag in front lets the point stand for line breaks.
An expression is compiled to two programs, one for each direction, and refused if one of them
would be too large.
-/

namespace GridSql

/-- What compiles regular expressions and looks for them in texts. -/
structure RegexEngine (ρ : Type) where
  /-- The expression that a text stands for, or why there is none. -/
  compile : List Char → Except String ρ
  /-- Whether an expression is found anywhere in a text. -/
  isFound : ρ → List Char → Bool
  /-- The text of the expression for one character. -/
  escape : Char → List Char

namespace Regex

/-- The characters that one step of an expression takes. -/
inductive CharSet where
  | any
  | exactly (c : Char)
deriving DecidableEq, Repr

def CharSet.has : CharSet → Char → Bool
  | any, _ => true
  | exactly c, d => d == c

inductive Step where
  | one (set : CharSet)
  /-- Any number of characters. -/
  | many (set : CharSet)
  | start
  | finish
deriving DecidableEq, Repr

/-- The characters that stand for themselves behind a backslash only. -/
def special : List Char :=
  ['\\', '.', '+', '*', '?', '(', ')', '|', '[', ']', '{', '}', '^', '$', '#', '&', '-', '~']

/-- The flag under which the point stands for line breaks too. -/
def flag : List Char := ['(', '?', 's', ')']

def escape (c : Char) : List Char :=
  if c ∈ special then ['\\', c] else [c]

/-! ## Reading expressions -/

/-- The steps of the end of an expression, behind a star if one stands in front. -/
structure Reading where
  starred : Bool
  steps : List Step
deriving DecidableEq, Repr

namespace Reading

/-- Puts a set of characters in front; a star is for this set. -/
def take (r : Reading) (set : CharSet) : Reading :=
  ⟨false, (if r.starred then .many set else .one set) :: r.steps⟩

/-- Puts a character in front that no backslash stands before. -/
def add? (r : Reading) (c : Char) : Option Reading :=
  if c = '.' then some (r.take .any)
  else if c ∉ special then some (r.take (.exactly c))
  else if r.starred then none
  else if c = '*' then some ⟨true, r.steps⟩
  else if c = '^' then some ⟨false, .start :: r.steps⟩
  else if c = '$' then some ⟨false, .finish :: r.steps⟩
  else none

end Reading

/-- Reads an expression, if it has only what is known here. -/
def read? : List Char → Option Reading
  | [] => some ⟨false, []⟩
  | [c] => Reading.add? ⟨false, []⟩ c
  | c :: next :: rest =>
      if c = '\\' then
        if next ∈ special then (read? rest).map (·.take (.exactly next)) else none
      else (read? (next :: rest)).bind (·.add? c)

/-! ## Compiling expressions -/

inductive Direction where
  | forward
  | backward
deriving DecidableEq, Repr

/-- The bytes of a state, besides what it lists. -/
def stateSize : Nat := 32

/--
The bytes of the states for one character. A known one has a state for each byte of its
encoding. The encodings of any character are told apart by nine states with sixteen transitions
of eight bytes; backward there are 29 states and nine jumps of four bytes, as only the last bytes
are shared there.
-/
def CharSet.size (d : Direction) : CharSet → Nat
  | any =>
      match d with
      | .forward => 9 * stateSize + 16 * 8
      | .backward => 29 * stateSize + 9 * 4
  | exactly c => c.utf8Size * stateSize

/-- A star has a state that lists two jumps. -/
def Step.size (d : Direction) : Step → Nat
  | one set => set.size d
  | many set => stateSize + 2 * 4 + set.size d
  | start | finish => stateSize

/-- States that every program has: forward, two of them keep where the expression is found. -/
def frameSize : Direction → Nat
  | .forward => 4 * stateSize
  | .backward => 2 * stateSize

def programSize (d : Direction) (steps : List Step) : Nat :=
  steps.foldr (fun step size => step.size d + size) (frameSize d)

/-- The most bytes that a program may have. -/
def sizeLimit : Nat := 10485760

/-- Whether none of the two programs is too large. -/
def fits (steps : List Step) : Bool :=
  programSize .forward steps ≤ sizeLimit && programSize .backward steps ≤ sizeLimit

/-- Why an expression with a program that is too large is refused. -/
def tooLarge : String :=
  s!"Compiled regex exceeds size limit of {sizeLimit} bytes."

def compile (text : List Char) : Except String (List Step) :=
  if flag.isPrefixOf text then
    match read? (text.drop flag.length) with
    | some ⟨false, steps⟩ => if fits steps then .ok steps else .error tooLarge
    | _ => .error "expression with unknown syntax"
  else .error "expression without its flag"

/-! ## Looking for expressions -/

/-- Whether, behind one accepted character, there is a true entry. -/
def behindOne (accepts : Char → Bool) : List Char → List Bool → List Bool
  | c :: cs, _ :: rest => (accepts c && rest.headD false) :: behindOne accepts cs rest
  | _, _ => [false]

/-- Whether, behind a run of accepted characters, there is a true entry. -/
def behindRun (accepts : Char → Bool) : List Char → List Bool → List Bool
  | c :: cs, b :: rest =>
      let behind := behindRun accepts cs rest
      (b || (accepts c && behind.headD false)) :: behind
  | _, marks => marks

/-- Keeps the entry of the whole text only. -/
def atStart : List Bool → List Bool
  | [] => []
  | b :: rest => b :: rest.map fun _ => false

/-- Keeps the entry of the empty rest only. -/
def atFinish : List Bool → List Bool
  | [] => []
  | [b] => [b]
  | _ :: c :: rest => false :: atFinish (c :: rest)

/-- For every suffix of a text, longest first, whether it begins with what the steps take. -/
def marks (text : List Char) : List Step → List Bool
  | [] => text.map (fun _ => true) ++ [true]
  | .one set :: steps => behindOne set.has text (marks text steps)
  | .many set :: steps => behindRun set.has text (marks text steps)
  | .start :: steps => atStart (marks text steps)
  | .finish :: steps => atFinish (marks text steps)

def engine : RegexEngine (List Step) where
  compile := compile
  isFound steps text := (marks text steps).any id
  escape := escape

end Regex

end GridSql
