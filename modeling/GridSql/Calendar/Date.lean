import GridSql.Decimal.Basic

/-!
# Dates

Days of the proleptic Gregorian calendar in the years that the format supports,
their order and their text. Years from 0 to 9999 are written with four digits;
all others have a sign and at least four digits.
-/

namespace GridSql

namespace Date

def minYear : Int := -262143

def maxYear : Int := 262142

def isLeapYear (year : Int) : Bool :=
  (year % 4 = 0 && year % 100 ≠ 0) || year % 400 = 0

def daysInMonth (year : Int) (month : Nat) : Nat :=
  if month = 2 then (if isLeapYear year then 29 else 28)
  else if month = 4 ∨ month = 6 ∨ month = 9 ∨ month = 11 then 30
  else 31

/-- Whether three numbers name a day. -/
def IsValid (year : Int) (month day : Nat) : Prop :=
  minYear ≤ year ∧ year ≤ maxYear ∧ 1 ≤ month ∧ month ≤ 12 ∧
    1 ≤ day ∧ day ≤ daysInMonth year month

instance (year : Int) (month day : Nat) : Decidable (IsValid year month day) :=
  inferInstanceAs (Decidable (_ ∧ _))

end Date

structure Date where
  year : Int
  month : Nat
  day : Nat
  isValid : Date.IsValid year month day
deriving DecidableEq

namespace Date

def ofYmd? (year : Int) (month day : Nat) : Option Date :=
  if h : IsValid year month day then some ⟨year, month, day, h⟩ else none

/-- The first day of the first year of the common era. -/
def epoch : Date := ⟨1, 1, 1, by decide⟩

instance : Inhabited Date := ⟨epoch⟩

/-- Earlier days are smaller. -/
protected def compare (a b : Date) : Ordering :=
  (compare a.year b.year).then ((compare a.month b.month).then (compare a.day b.day))

instance : Ord Date := ⟨Date.compare⟩

/-- The day after, if it is in a supported year. -/
def next? (d : Date) : Option Date :=
  match ofYmd? d.year d.month (d.day + 1) with
  | some tomorrow => some tomorrow
  | none =>
      match ofYmd? d.year (d.month + 1) 1 with
      | some firstOfMonth => some firstOfMonth
      | none => ofYmd? (d.year + 1) 1 1

/-- The day before, if it is in a supported year. -/
def previous? (d : Date) : Option Date :=
  match ofYmd? d.year d.month (d.day - 1) with
  | some yesterday => some yesterday
  | none =>
      match ofYmd? d.year (d.month - 1) (daysInMonth d.year (d.month - 1)) with
      | some lastOfMonth => some lastOfMonth
      | none => ofYmd? (d.year - 1) 12 31

def yearChars (year : Int) : List Char :=
  if 0 ≤ year ∧ year ≤ 9999 then Decimal.paddedDigits 4 year.toNat
  else (if year < 0 then '-' else '+') :: Decimal.paddedDigits 4 year.natAbs

/-- Year, month and day with hyphens. -/
def toChars (d : Date) : List Char :=
  yearChars d.year ++ '-' :: Decimal.paddedDigits 2 d.month ++
    '-' :: Decimal.paddedDigits 2 d.day

def toText (d : Date) : String :=
  String.ofList d.toChars

end Date

end GridSql
