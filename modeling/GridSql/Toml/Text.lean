import GridSql.Json.Parser

/-!
# Strings and keys of TOML

Basic strings have escapes, literal strings have none; both can be written over
several lines between three quotes. A key is one or more names with points between
them, 80 at most.
-/

namespace GridSql.Toml

def isSpace (c : Char) : Bool := c = ' ' || c = '\t'

def skipSpace (cs : List Char) : List Char := cs.dropWhile isSpace

/-- Whether a character may stand in a string or a comment of one line. -/
def isTextChar (c : Char) : Bool :=
  c = '\t' || (0x20 ≤ c.toNat && c.toNat ≠ 0x7F)

/-- What follows a line break in front of a text. -/
def lineBreak? : List Char → Option (List Char)
  | '\n' :: rest => some rest
  | '\r' :: '\n' :: rest => some rest
  | _ => none

/-- The text without blanks and line breaks in front. -/
def skipLines (cs : List Char) : List Char :=
  cs.dropWhile fun c => isSpace c || c = '\n' || c = '\r'

def hexValue? (digits : List Char) : Option Nat :=
  digits.foldlM (fun n c => (Json.hexDigit? c).map (n * 16 + ·)) 0

/-- The character with a code of `width` hexadecimal digits in front of a text. -/
def readCode (width : Nat) (cs : List Char) : Option (Char × List Char) := do
  let digits := cs.take width
  let code ← hexValue? digits
  if digits.length = width ∧ code.isValidChar then some (Char.ofNat code, cs.drop width)
  else none

def readEscape : List Char → Option (Char × List Char)
  | 'b' :: rest => some ('\x08', rest)
  | 't' :: rest => some ('\t', rest)
  | 'n' :: rest => some ('\n', rest)
  | 'f' :: rest => some ('\x0c', rest)
  | 'r' :: rest => some ('\r', rest)
  | 'e' :: rest => some ('\x1b', rest)
  | '"' :: rest => some ('"', rest)
  | '\\' :: rest => some ('\\', rest)
  | 'x' :: rest => readCode 2 rest
  | 'u' :: rest => readCode 4 rest
  | 'U' :: rest => readCode 8 rest
  | _ => none

structure Quotation where
  quote : Char
  hasEscapes : Bool

namespace Quotation

def basic : Quotation := ⟨'"', true⟩

def plain : Quotation := ⟨'\'', false⟩

/-- The characters up to the closing quote; `read` holds those before, reversed. -/
def readLineAux (q : Quotation) (read : List Char) : Nat → List Char →
    Option (String × List Char)
  | 0, _ => none
  | fuel + 1, cs =>
      match cs with
      | [] => none
      | c :: rest =>
          if c = q.quote then some (String.ofList read.reverse, rest)
          else if c = '\\' ∧ q.hasEscapes then do
            let (c, rest) ← readEscape rest
            readLineAux q (c :: read) fuel rest
          else if isTextChar c then readLineAux q (c :: read) fuel rest
          else none

/-- What follows a backslash at the end of a line, without the blanks of the next lines. -/
def continued? (cs : List Char) : Option (List Char) :=
  (lineBreak? (skipSpace cs)).map skipLines

/--
The characters up to three closing quotes; `read` holds those before, reversed. Up
to two more quotes in front of the closing ones belong to the string.
-/
def readBlockAux (q : Quotation) (read : List Char) : Nat → List Char →
    Option (String × List Char)
  | 0, _ => none
  | fuel + 1, cs =>
      match cs with
      | [] => none
      | c :: rest =>
          let quotes := (cs.takeWhile (· = q.quote)).length
          if 3 ≤ quotes then
            let own := List.replicate (min quotes 5 - 3) q.quote
            some (String.ofList (read.reverse ++ own), cs.drop (min quotes 5))
          else if c = '\\' ∧ q.hasEscapes then
            match continued? rest with
            | some rest => readBlockAux q read fuel rest
            | none => do
                let (c, rest) ← readEscape rest
                readBlockAux q (c :: read) fuel rest
          else if isTextChar c then readBlockAux q (c :: read) fuel rest
          else
            match lineBreak? cs with
            | some rest => readBlockAux q ('\n' :: read) fuel rest
            | none => none

def readLine (q : Quotation) (cs : List Char) : Option (String × List Char) :=
  q.readLineAux [] cs.length cs

def read (q : Quotation) (cs : List Char) : Option (String × List Char) :=
  if [q.quote, q.quote, q.quote].isPrefixOf cs then
    let inner := cs.drop 3
    let inner := (lineBreak? inner).getD inner
    q.readBlockAux [] inner.length inner
  else
    match cs with
    | c :: rest => if c = q.quote then q.readLine rest else none
    | [] => none

end Quotation

/-- The characters of a name without quotes. -/
def isBareChar (c : Char) : Bool :=
  c.isAlphanum || c = '_' || c = '-'

def readName : List Char → Option (String × List Char)
  | '"' :: rest => Quotation.basic.readLine rest
  | '\'' :: rest => Quotation.plain.readLine rest
  | cs =>
      let name := cs.takeWhile isBareChar
      if name.isEmpty then none else some (String.ofList name, cs.drop name.length)

/-- The names of a key; blanks may stand around the points. -/
def readKeyAux : Nat → List Char → Option (List String × List Char)
  | 0, _ => none
  | fuel + 1, cs => do
      let (name, rest) ← readName (skipSpace cs)
      match skipSpace rest with
      | '.' :: rest =>
          let (names, rest) ← readKeyAux fuel rest
          some (name :: names, rest)
      | rest => some ([name], rest)

def maxNames : Nat := 80

def readKey (cs : List Char) : Option (List String × List Char) :=
  (readKeyAux (cs.length + 1) cs).filter fun (names, _) => names.length ≤ maxNames

end GridSql.Toml
