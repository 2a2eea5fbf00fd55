import GridSql.Calendar.Date

/-!
# Points in time

A day and a time of day without zone. The second 59 may be a leap second: it
then has a fraction of a whole second or more and is written as second 60.
-/

namespace GridSql

namespace TimeOfDay

def nanosPerSecond : Nat := 1000000000

end TimeOfDay

/-- The time that has passed since midnight. -/
structure TimeOfDay where
  second : Nat
  nanos : Nat
  second_lt : second < 86400
  nanos_lt : nanos < 2 * TimeOfDay.nanosPerSecond
deriving DecidableEq

namespace TimeOfDay

def midnight : TimeOfDay := ⟨0, 0, by decide, by decide⟩

instance : Inhabited TimeOfDay := ⟨midnight⟩

/-- The time with these hands; second 60 is the leap second. -/
def ofHms? (hour minute second nanos : Nat) : Option TimeOfDay :=
  if h : hour < 24 ∧ minute < 60 ∧ second ≤ 60 ∧ nanos < nanosPerSecond then
    if hs : second = 60 then
      some ⟨hour * 3600 + minute * 60 + 59, nanosPerSecond + nanos, by omega, by omega⟩
    else
      some ⟨hour * 3600 + minute * 60 + second, nanos, by omega, by omega⟩
  else
    none

protected def compare (a b : TimeOfDay) : Ordering :=
  (compare a.second b.second).then (compare a.nanos b.nanos)

instance : Ord TimeOfDay := ⟨TimeOfDay.compare⟩

/-- Hours, minutes and seconds with colons. -/
def toChars (t : TimeOfDay) : List Char :=
  let two := Decimal.paddedDigits 2
  two (t.second / 3600) ++ ':' :: two (t.second / 60 % 60) ++
    ':' :: two (t.second % 60 + t.nanos / nanosPerSecond)

/-- A point and 3, 6 or 9 digits, the fewest that are exact; nothing for none. -/
def fractionChars (t : TimeOfDay) : List Char :=
  let nanos := t.nanos % nanosPerSecond
  if nanos = 0 then []
  else if nanos % 1000000 = 0 then '.' :: Decimal.paddedDigits 3 (nanos / 1000000)
  else if nanos % 1000 = 0 then '.' :: Decimal.paddedDigits 6 (nanos / 1000)
  else '.' :: Decimal.paddedDigits 9 nanos

end TimeOfDay

structure Timestamp where
  date : Date
  time : TimeOfDay
deriving DecidableEq, Inhabited

namespace Timestamp

def atMidnight (d : Date) : Timestamp := ⟨d, TimeOfDay.midnight⟩

/-- Earlier points are smaller. -/
protected def compare (a b : Timestamp) : Ordering :=
  (compare a.date b.date).then (compare a.time b.time)

instance : Ord Timestamp := ⟨Timestamp.compare⟩

/-- Date and time with `separator` between them and no fraction. -/
def toSeconds (separator : Char) (t : Timestamp) : String :=
  String.ofList (t.date.toChars ++ separator :: t.time.toChars)

/-- Date and time with `separator` between them, and the fraction if there is one. -/
def toText (separator : Char) (t : Timestamp) : String :=
  String.ofList (t.date.toChars ++ separator :: t.time.toChars ++ t.time.fractionChars)

/-- The point `minutes` earlier; the fraction stays as it is. -/
def minusMinutes (t : Timestamp) (minutes : Int) : Option Timestamp := do
  let second := (t.time.second : Int) - minutes * 60
  let wrapped := (second % 86400).toNat
  let time ←
    if h : wrapped < 86400 then some (⟨wrapped, t.time.nanos, h, t.time.nanos_lt⟩ : TimeOfDay)
    else none
  let date ←
    if second < 0 then t.date.previous?
    else if 86400 ≤ second then t.date.next?
    else some t.date
  return ⟨date, time⟩

end Timestamp

end GridSql
