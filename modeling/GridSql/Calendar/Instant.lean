import GridSql.Calendar.Layout

/-!
# Instants

Reads the strict internet form of a date-time with offset and converts it to
universal time.
-/

namespace GridSql.Instant

open DateField (digitsValue readNanos)

/-- Exactly `width` digits. -/
def readExactly (width : Nat) (cs : List Char) : Option (Nat × List Char) :=
  let digits := cs.take width
  if digits.length = width ∧ digits.all Char.isDigit then
    some (digitsValue digits, cs.drop width)
  else
    none

/-- Exactly this character. -/
def expect (c : Char) : List Char → Option (List Char)
  | first :: rest => if first = c then some rest else none
  | [] => none

/-- The offset from universal time in minutes, as the rest of a text. -/
def readOffset : List Char → Option Int
  | [] => none
  | sign :: rest =>
      if sign = 'Z' ∨ sign = 'z' then
        if rest.isEmpty then some 0 else none
      else do
        let negative ←
          if sign = '+' then some false
          else if sign = '-' ∨ sign = '\u2212' then some true
          else none
        let (hours, rest) ← readExactly 2 rest
        let rest ← expect ':' rest
        let (minutes, rest) ← readExactly 2 rest
        if hours ≤ 23 ∧ minutes ≤ 59 ∧ rest.isEmpty then
          let total : Int := hours * 60 + minutes
          some (if negative then -total else total)
        else
          none

/-- The universal time of a date-time with offset. -/
def parse? (cs : List Char) : Option Timestamp := do
  let (year, rest) ← readExactly 4 cs
  let rest ← expect '-' rest
  let (month, rest) ← readExactly 2 rest
  let rest ← expect '-' rest
  let (day, rest) ← readExactly 2 rest
  let rest ←
    match rest with
    | c :: rest => if c = 'T' ∨ c = 't' ∨ c = ' ' then some rest else none
    | [] => none
  let (hour, rest) ← readExactly 2 rest
  let rest ← expect ':' rest
  let (minute, rest) ← readExactly 2 rest
  let rest ← expect ':' rest
  let (second, rest) ← readExactly 2 rest
  let (nanos, rest) ←
    match rest with
    | '.' :: digits => readNanos digits
    | _ => some (0, rest)
  let offset ← readOffset rest
  let local_ ← ({ year := year, month, day, hour, minute, second, nanos } : DateParts).timestamp?
  local_.minusMinutes offset

end GridSql.Instant
