import GridSql.Calendar.Timestamp
import GridSql.Decimal.Literal
import GridSql.Text.Blank

/-!
# Reading dates and times

A layout is a list of fields. A numeric field skips blanks and takes one up to
its width of digits; a year may have a sign and then any number of digits. The
layouts below are tried in order; a text has to match one as a whole.
-/

namespace GridSql

inductive DateField where
  | year
  | month
  | day
  | hour
  | minute
  | second
  /-- An optional point with digits, of which nine count. -/
  | fraction
  /-- Any number of blanks. -/
  | blanks
  /-- Exactly this character. -/
  | mark (c : Char)
deriving DecidableEq, Repr

structure DateParts where
  year : Int := 0
  month : Nat := 0
  day : Nat := 0
  hour : Nat := 0
  minute : Nat := 0
  second : Nat := 0
  nanos : Nat := 0

namespace DateParts

def date? (p : DateParts) : Option Date :=
  Date.ofYmd? p.year p.month p.day

def timestamp? (p : DateParts) : Option Timestamp := do
  let date ← p.date?
  let time ← TimeOfDay.ofHms? p.hour p.minute p.second p.nanos
  return ⟨date, time⟩

end DateParts

namespace DateField

def digitsValue (digits : List Char) : Nat :=
  digits.foldl (fun n c => n * 10 + Decimal.digitValue c) 0

/-- One up to `width` digits, and what follows them. -/
def readNumber (width : Nat) (cs : List Char) : Option (Nat × List Char) :=
  let digits := (cs.take width).takeWhile Char.isDigit
  if digits.isEmpty then none
  else some (digitsValue digits, cs.drop digits.length)

/-- All the digits in front, at least one, and what follows them. -/
def readDigits (cs : List Char) : Option (Nat × List Char) :=
  readNumber cs.length cs

/-- A year: up to four digits, or a sign and any number of them. -/
def readYear : List Char → Option (Int × List Char)
  | '-' :: rest => (readDigits rest).map fun (n, rest) => (-(n : Int), rest)
  | '+' :: rest => (readDigits rest).map fun (n, rest) => ((n : Int), rest)
  | cs => (readNumber 4 cs).map fun (n, rest) => ((n : Int), rest)

def readNanos (cs : List Char) : Option (Nat × List Char) :=
  let digits := cs.takeWhile Char.isDigit
  if digits.isEmpty then none
  else
    let used := digits.take 9
    some (digitsValue used * tenTo (9 - used.length), cs.drop digits.length)

def read (parts : DateParts) (cs : List Char) : DateField → Option (DateParts × List Char)
  | year => (readYear (Text.skipBlanks cs)).map fun (n, rest) => ({ parts with year := n }, rest)
  | month => number fun n => { parts with month := n }
  | day => number fun n => { parts with day := n }
  | hour => number fun n => { parts with hour := n }
  | minute => number fun n => { parts with minute := n }
  | second => number fun n => { parts with second := n }
  | fraction =>
      match cs with
      | '.' :: rest => (readNanos rest).map fun (n, rest) => ({ parts with nanos := n }, rest)
      | _ => some (parts, cs)
  | blanks => some (parts, Text.skipBlanks cs)
  | mark c =>
      match cs with
      | first :: rest => if first = c then some (parts, rest) else none
      | [] => none
where
  number (set : Nat → DateParts) : Option (DateParts × List Char) :=
    (readNumber 2 (Text.skipBlanks cs)).map fun (n, rest) => (set n, rest)

end DateField

/-- A way to write dates. -/
abbrev DateLayout := List DateField

namespace DateLayout

open DateField

/-- Reads the fields of a layout in order; the whole text has to be used. -/
def readAll (parts : DateParts) (cs : List Char) : DateLayout → Option DateParts
  | [] => if cs.isEmpty then some parts else none
  | field :: rest => do
      let (parts, cs) ← field.read parts cs
      readAll parts cs rest

def clock : DateLayout :=
  [hour, mark ':', minute, mark ':', second]

def yearFirst (separator : Char) : DateLayout :=
  [year, mark separator, month, mark separator, day]

def dayFirst (separator : Char) : DateLayout :=
  [day, mark separator, month, mark separator, year]

def dates : List DateLayout :=
  [yearFirst '-', yearFirst '/', dayFirst '-']

/-- The layouts of local date-times, in the order in which they are tried. -/
def timestamps : List DateLayout :=
  [ yearFirst '-' ++ mark 'T' :: clock ++ [fraction]
  , yearFirst '-' ++ blanks :: clock ++ [fraction]
  , yearFirst '/' ++ blanks :: clock
  , dayFirst '-' ++ blanks :: clock ]

def date? (layout : DateLayout) (cs : List Char) : Option Date :=
  (layout.readAll {} cs).bind DateParts.date?

def timestamp? (layout : DateLayout) (cs : List Char) : Option Timestamp :=
  (layout.readAll {} cs).bind DateParts.timestamp?

end DateLayout

end GridSql
