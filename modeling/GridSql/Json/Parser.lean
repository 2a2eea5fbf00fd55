import GridSql.Json.Basic

/-!
# Reading JSON

A text is one value between blanks. Arrays and objects may be nested up to 127
deep. A surrogate escape has to be one half of a pair, and a number that is too
large for a double is an error. Files are read fast: a double with many digits is
not always the nearest one.
-/

namespace GridSql.Json

def isSpace (c : Char) : Bool :=
  c = ' ' || c = '\t' || c = '\n' || c = '\r'

def skipSpace (cs : List Char) : List Char :=
  cs.dropWhile isSpace

def hexDigit? (c : Char) : Option Nat :=
  if '0' ≤ c ∧ c ≤ '9' then some (c.toNat - '0'.toNat)
  else if 'a' ≤ c ∧ c ≤ 'f' then some (c.toNat - 'a'.toNat + 10)
  else if 'A' ≤ c ∧ c ≤ 'F' then some (c.toNat - 'A'.toNat + 10)
  else none

def readUnit : List Char → Option (Nat × List Char)
  | a :: b :: c :: d :: rest => do
      let unit := (((← hexDigit? a) * 16 + (← hexDigit? b)) * 16 + (← hexDigit? c)) * 16 +
        (← hexDigit? d)
      some (unit, rest)
  | _ => none

/-- The character of an escape behind its `\u`. -/
def readUnicode (cs : List Char) : Option (Char × List Char) := do
  let (unit, rest) ← readUnit cs
  if 0xDC00 ≤ unit ∧ unit ≤ 0xDFFF then none
  else if 0xD800 ≤ unit ∧ unit ≤ 0xDBFF then
    match rest with
    | '\\' :: 'u' :: rest =>
        let (low, rest) ← readUnit rest
        if 0xDC00 ≤ low ∧ low ≤ 0xDFFF then
          some (Char.ofNat (0x10000 + (unit - 0xD800) * 0x400 + (low - 0xDC00)), rest)
        else
          none
    | _ => none
  else
    some (Char.ofNat unit, rest)

def readEscape : List Char → Option (Char × List Char)
  | '"' :: rest => some ('"', rest)
  | '\\' :: rest => some ('\\', rest)
  | '/' :: rest => some ('/', rest)
  | 'b' :: rest => some ('\x08', rest)
  | 'f' :: rest => some ('\x0c', rest)
  | 'n' :: rest => some ('\n', rest)
  | 'r' :: rest => some ('\r', rest)
  | 't' :: rest => some ('\t', rest)
  | 'u' :: rest => readUnicode rest
  | _ => none

/-- The characters up to the closing quote; `read` holds those before, reversed. -/
def readStringAux (read : List Char) : Nat → List Char → Option (String × List Char)
  | 0, _ => none
  | fuel + 1, cs =>
      match cs with
      | [] => none
      | '"' :: rest => some (String.ofList read.reverse, rest)
      | '\\' :: rest =>
          match readEscape rest with
          | some (c, rest) => readStringAux (c :: read) fuel rest
          | none => none
      | c :: rest => if c.toNat < 0x20 then none else readStringAux (c :: read) fuel rest

def readString (cs : List Char) : Option (String × List Char) :=
  readStringAux [] cs.length cs

def decimalValue (digits : List Char) : Nat :=
  digits.foldl (fun n c => n * 10 + (c.toNat - '0'.toNat)) 0

def nearestDouble? (mantissa : Nat) (exponent : Int) : Option Float :=
  if mantissa = 0 then some 0.0
  else
    let point := exponent + (Nat.toDigits 10 mantissa).length
    if 400 < point then none
    else if point < -400 then some 0.0
    else
      let x := Float.ofScientific mantissa (exponent < 0) exponent.natAbs
      if x.isInf then none else some x

/-- Appends digits to a number while it has room in 64 bits, and the digits that are left over. -/
def appendDigits (n : Nat) : List Char → Nat × List Char
  | [] => (n, [])
  | c :: rest =>
      let next := n * 10 + (c.toNat - '0'.toNat)
      if next < twoTo 64 then appendDigits next rest else (n, c :: rest)

def powerOfTen (n : Nat) : Float :=
  Float.ofScientific 1 false n

/-- Divides by a power of ten, in steps of the largest one that is a double. -/
def divideByPower (x : Float) (n : Nat) : Float :=
  if n ≤ 308 then x / powerOfTen n
  else if x == 0.0 then x
  else divideByPower (x / powerOfTen 308) (n - 308)
termination_by n

/-- A number of 64 bits times a power of ten, each rounded to a double, if it is finite. -/
def scaled? (n : Nat) (exponent : Int) : Option Float :=
  let x := (UInt64.ofNat n).toFloat
  if exponent < 0 then some (divideByPower x exponent.natAbs)
  else if 308 < exponent then if n = 0 then some x else none
  else
    let y := x * powerOfTen exponent.natAbs
    if y.isInf then none else some y

/-- What makes a double of the digits before and behind a point and an exponent. -/
abbrev DoubleReader := List Char → List Char → Int → Option Float

def DoubleReader.nearest : DoubleReader := fun whole places exponent =>
  nearestDouble? (decimalValue (whole ++ places)) (exponent - places.length)

/--
Takes few steps and need not find the nearest double. Of digits that 64 bits have no room for, those
before the point only count and those behind it are left out.
-/
def DoubleReader.fast : DoubleReader := fun whole places exponent =>
  let (n, tens) := appendDigits 0 whole
  let (n, omitted) := appendDigits n places
  scaled? n (exponent + tens.length - (places.length - omitted.length : Nat))

/-- The digits in front of a text, at least one, and what follows them. -/
def readDigits (cs : List Char) : Option (List Char × List Char) :=
  let digits := cs.takeWhile Char.isDigit
  if digits.isEmpty then none else some (digits, cs.drop digits.length)

/-- The digits before the point: no zero in front of another digit. -/
def readWhole : List Char → Option (List Char × List Char)
  | '0' :: rest =>
      match rest with
      | c :: _ => if c.isDigit then none else some (['0'], rest)
      | [] => some (['0'], [])
  | cs => readDigits cs

def readFraction : List Char → Option (Option (List Char) × List Char)
  | '.' :: rest => (readDigits rest).map fun (digits, rest) => (some digits, rest)
  | cs => some (none, cs)

def readExponent : List Char → Option (Option Int × List Char)
  | [] => some (none, [])
  | c :: rest =>
      if c = 'e' || c = 'E' then
        let (negative, digits) :=
          match rest with
          | '-' :: digits => (true, digits)
          | '+' :: digits => (false, digits)
          | digits => (false, digits)
        (readDigits digits).map fun (digits, rest) =>
          let n : Int := decimalValue digits
          (some (if negative then -n else n), rest)
      else
        some (none, c :: rest)

/-- A number; `-0` is a double. -/
def readNumber (double? : DoubleReader) (cs : List Char) : Option (JsonNumber × List Char) := do
  let (negative, digits) :=
    match cs with
    | '-' :: rest => (true, rest)
    | _ => (false, cs)
  let (whole, rest) ← readWhole digits
  let (fraction, rest) ← readFraction rest
  let (exponent, rest) ← readExponent rest
  let n := decimalValue whole
  let isInteger := fraction.isNone && exponent.isNone &&
    if negative then n ≠ 0 && n ≤ twoTo 63 else n < twoTo 64
  if isInteger then
    some (.int (if negative then -(n : Int) else n), rest)
  else
    let x ← double? whole (fraction.getD []) (exponent.getD 0)
    some (.real (if negative then -x else x), rest)

def expectWord (word : List Char) (cs : List Char) : Option (List Char) :=
  if word.isPrefixOf cs then some (cs.drop word.length) else none

/-- Items with commas between them, up to the closing bracket. -/
def readItems (readItem : List Char → Option (Json × List Char)) (items : List Json) :
    Nat → List Char → Option (List Json × List Char)
  | 0, _ => none
  | fuel + 1, cs => do
      let (item, rest) ← readItem cs
      match skipSpace rest with
      | ',' :: rest => readItems readItem (item :: items) fuel rest
      | ']' :: rest => some ((item :: items).reverse, rest)
      | _ => none

/-- A quoted name, a colon and a value. -/
def readMember (readItem : List Char → Option (Json × List Char)) (cs : List Char) :
    Option ((String × Json) × List Char) :=
  match skipSpace cs with
  | '"' :: rest => do
      let (name, rest) ← readString rest
      match skipSpace rest with
      | ':' :: rest =>
          let (value, rest) ← readItem rest
          some ((name, value), rest)
      | _ => none
  | _ => none

/-- Members with commas between them, up to the closing brace. -/
def readMembers (readItem : List Char → Option (Json × List Char))
    (members : List (String × Json)) :
    Nat → List Char → Option (List (String × Json) × List Char)
  | 0, _ => none
  | fuel + 1, cs => do
      let (member, rest) ← readMember readItem cs
      match skipSpace rest with
      | ',' :: rest => readMembers readItem (member :: members) fuel rest
      | '\x7d' :: rest => some ((member :: members).reverse, rest)
      | _ => none

def readAtom (double? : DoubleReader) (cs : List Char) : Option (Json × List Char) :=
  match cs with
  | '"' :: rest => (readString rest).map fun (s, rest) => (string s, rest)
  | 'n' :: _ => (expectWord ['n', 'u', 'l', 'l'] cs).map (null, ·)
  | 't' :: _ => (expectWord ['t', 'r', 'u', 'e'] cs).map (bool true, ·)
  | 'f' :: _ => (expectWord ['f', 'a', 'l', 's', 'e'] cs).map (bool false, ·)
  | _ => (readNumber double? cs).map fun (n, rest) => (number n, rest)

/-- A value with arrays and objects nested up to `depth` deep. -/
def readValue (double? : DoubleReader) : Nat → List Char → Option (Json × List Char)
  | 0, cs =>
      match skipSpace cs with
      | '[' :: _ => none
      | '\x7b' :: _ => none
      | cs => readAtom double? cs
  | depth + 1, cs =>
      match skipSpace cs with
      | '[' :: rest =>
          match skipSpace rest with
          | ']' :: rest => some (array [], rest)
          | _ =>
              (readItems (readValue double? depth) [] rest.length rest).map fun (items, rest) =>
                (array items, rest)
      | '\x7b' :: rest =>
          match skipSpace rest with
          | '\x7d' :: rest => some (object [], rest)
          | _ =>
              (readMembers (readValue double? depth) [] rest.length rest).map fun (members, rest) =>
                (object members, rest)
      | cs => readAtom double? cs

/-- How deep arrays and objects may be nested. -/
def maxDepth : Nat := 127

/-- The value that a text stands for, its objects as they are written. -/
def parseWith? (double? : DoubleReader) (s : String) : Option Json :=
  match readValue double? maxDepth s.toList with
  | some (value, rest) => if (skipSpace rest).isEmpty then some value else none
  | none => none

def parse? (s : String) : Option Json :=
  parseWith? .nearest s

/-- The value of a file. -/
def parseFast? (s : String) : Option Json :=
  parseWith? .fast s

end GridSql.Json
