import Mathlib.Data.List.TakeWhile
import GridSql.Proofs.Decimal.Digits
import GridSql.Proofs.Table.Loaded

/-!
# Dates and times that are read back

A layout with the year in front reads a printed date as the same date and a printed time, with
its fraction of a second, as the same time. A layout with the day in front or with slashes reads
none of them, and without an offset they are no instants.
-/

namespace GridSql

namespace DateField

open Decimal (paddedDigits isDigit_of_mem_paddedDigits length_paddedDigits paddedDigits_ne_nil)

/-! ## Fields -/

theorem digitsValue_paddedDigits (width n : Nat) :
    digitsValue (paddedDigits width n) = n := by
  have same : digitsValue (paddedDigits width n) =
      Nat.ofDigitChars 10 (paddedDigits width n) 0 := by
    unfold digitsValue Nat.ofDigitChars
    congr 1
    funext m c
    rw [Nat.mul_comm]
    rfl
  rw [same, Decimal.ofDigitChars_paddedDigits]

/-- Digits are read up to the width of the field or to a character that is none. -/
theorem readNumber_append {width : Nat} {digits rest : List Char}
    (all : ∀ c ∈ digits, c.isDigit = true) (nonempty : digits ≠ [])
    (fits : digits.length ≤ width)
    (ends : digits.length = width ∨ ∀ c ∈ rest.head?, c.isDigit = false) :
    readNumber width (digits ++ rest) = some (digitsValue digits, rest) := by
  have taken : ((digits ++ rest).take width).takeWhile Char.isDigit = digits := by
    rw [List.take_append, List.take_of_length_le fits, List.takeWhile_append_of_pos all]
    rcases ends with hwidth | hrest
    · simp [hwidth]
    · cases rest with
      | nil => simp
      | cons c rest =>
          have hc := hrest c rfl
          cases width - digits.length with
          | zero => simp
          | succ n => simp [hc]
  unfold readNumber
  simp only [taken]
  simp [nonempty]

theorem readNumber_two {n : Nat} (h : n < 100) (rest : List Char) :
    readNumber 2 (paddedDigits 2 n ++ rest) = some (n, rest) := by
  have length : (paddedDigits 2 n).length = 2 := length_paddedDigits (by decide) h
  rw [readNumber_append (fun c hc => isDigit_of_mem_paddedDigits hc) (paddedDigits_ne_nil 2 n)
    length.le (.inl length), digitsValue_paddedDigits]

theorem paddedDigits_eq_cons (width n : Nat) :
    ∃ c digits, paddedDigits width n = c :: digits ∧ c.isDigit = true := by
  obtain ⟨c, digits, h⟩ := List.exists_cons_of_ne_nil (paddedDigits_ne_nil width n)
  refine ⟨c, digits, h, ?_⟩
  have hc : c ∈ paddedDigits width n := by
    rw [h]
    exact List.mem_cons_self
  exact isDigit_of_mem_paddedDigits hc

theorem skipBlanks_paddedDigits (width n : Nat) (rest : List Char) :
    Text.skipBlanks (paddedDigits width n ++ rest) = paddedDigits width n ++ rest := by
  obtain ⟨c, digits, h, hc⟩ := paddedDigits_eq_cons width n
  rw [h]
  exact Text.skipBlanks_cons (Text.isBlank_of_isDigit hc) _

theorem read_number {n : Nat} (h : n < 100) (rest : List Char) (set : Nat → DateParts) :
    read.number (paddedDigits 2 n ++ rest) set = some (set n, rest) := by
  rw [read.number, skipBlanks_paddedDigits, readNumber_two h]
  rfl

theorem readDigits_paddedDigits (width n : Nat) (rest : List Char) :
    readDigits (paddedDigits width n ++ '-' :: rest) = some (n, '-' :: rest) := by
  have all (c : Char) (hc : c ∈ paddedDigits width n) : c.isDigit = true :=
    isDigit_of_mem_paddedDigits hc
  rw [readDigits, readNumber_append all (paddedDigits_ne_nil width n) (by simp) (.inr (by simp)),
    digitsValue_paddedDigits]

theorem readYear_yearChars (year : Int) (rest : List Char) :
    readYear (Text.skipBlanks (Date.yearChars year ++ '-' :: rest)) =
      some (year, '-' :: rest) := by
  unfold Date.yearChars
  split
  · next bounds =>
      have length : (paddedDigits 4 year.toNat).length = 4 :=
        length_paddedDigits (by decide) (by omega)
      have all (c : Char) (hc : c ∈ paddedDigits 4 year.toNat) : c.isDigit = true :=
        isDigit_of_mem_paddedDigits hc
      have value : ((year.toNat : Nat) : Int) = year := by omega
      rw [skipBlanks_paddedDigits]
      obtain ⟨c, digits, h, hc⟩ := paddedDigits_eq_cons 4 year.toNat
      unfold readYear
      split
      · next heq =>
          rw [h] at heq
          cases heq
          exact absurd hc (by decide)
      · next heq =>
          rw [h] at heq
          cases heq
          exact absurd hc (by decide)
      · rw [readNumber_append all (paddedDigits_ne_nil 4 year.toNat) length.le (.inl length),
          digitsValue_paddedDigits]
        simp only [Option.map_some, value]
  · next outside =>
      by_cases negative : year < 0
      · have value : -((year.natAbs : Nat) : Int) = year := by omega
        rw [if_pos negative, List.cons_append, Text.skipBlanks_cons (by decide), readYear,
          readDigits_paddedDigits]
        simp only [Option.map_some, value]
      · have value : ((year.natAbs : Nat) : Int) = year := by omega
        rw [if_neg negative, List.cons_append, Text.skipBlanks_cons (by decide), readYear,
          readDigits_paddedDigits]
        simp only [Option.map_some, value]

theorem readNanos_paddedDigits {width n : Nat} (pos : 0 < width) (le : width ≤ 9)
    (h : n < 10 ^ width) :
    readNanos (paddedDigits width n) = some (n * tenTo (9 - width), []) := by
  have length := length_paddedDigits pos h
  have all : ∀ c ∈ paddedDigits width n, c.isDigit = true :=
    fun c hc => isDigit_of_mem_paddedDigits hc
  have digits : (paddedDigits width n).takeWhile Char.isDigit = paddedDigits width n :=
    List.takeWhile_eq_self_iff.2 all
  have used : (paddedDigits width n).take 9 = paddedDigits width n :=
    List.take_of_length_le (by omega)
  unfold readNanos
  simp only [digits, used, length, digitsValue_paddedDigits]
  simp [paddedDigits_ne_nil, length]

theorem read_mark (parts : DateParts) (c : Char) (rest : List Char) :
    DateField.read parts (c :: rest) (.mark c) = some (parts, rest) := by
  simp [DateField.read]

theorem read_mark_of_ne (parts : DateParts) {c first : Char} (h : first ≠ c) (rest : List Char) :
    DateField.read parts (first :: rest) (.mark c) = none := by
  simp [DateField.read, h]

end DateField

/-! ## Dates -/

theorem Date.month_day_lt (d : Date) : d.month < 100 ∧ d.day < 100 := by
  obtain ⟨-, -, -, hmonth, -, hday⟩ := d.isValid
  have days : Date.daysInMonth d.year d.month ≤ 31 := by
    unfold Date.daysInMonth
    split
    · split <;> decide
    · split <;> decide
  omega

theorem TimeOfDay.hands_lt (t : TimeOfDay) :
    t.second / 3600 < 100 ∧ t.second / 60 % 60 < 100 ∧
      t.second % 60 + t.nanos / nanosPerSecond < 100 := by
  have := t.second_lt
  have leap : t.nanos / nanosPerSecond < 2 :=
    Nat.div_lt_of_lt_mul (by rw [Nat.mul_comm]; exact t.nanos_lt)
  omega

/-- A fraction is not written if it is zero, and otherwise with 3, 6 or 9 digits. -/
theorem TimeOfDay.fractionChars_cases (t : TimeOfDay) :
    (t.nanos % nanosPerSecond = 0 ∧ t.fractionChars = []) ∨
      ∃ width n, 0 < width ∧ width ≤ 9 ∧ n < 10 ^ width ∧
        t.nanos % nanosPerSecond = n * tenTo (9 - width) ∧
          t.fractionChars = '.' :: Decimal.paddedDigits width n := by
  have lt : t.nanos % nanosPerSecond < 1000000000 := Nat.mod_lt _ (by decide)
  unfold fractionChars
  dsimp only
  split
  · next whole => exact .inl ⟨whole, rfl⟩
  · split
    · next millis =>
        refine .inr ⟨3, _, by decide, by decide, by omega, ?_, rfl⟩
        change _ = _ * 1000000
        omega
    · split
      · next micros =>
          refine .inr ⟨6, _, by decide, by decide, by omega, ?_, rfl⟩
          change _ = _ * 1000
          omega
      · exact .inr ⟨9, _, by decide, by decide, lt, (Nat.mul_one _).symm, rfl⟩

theorem TimeOfDay.fractionChars_of_whole {t : TimeOfDay} (whole : t.nanos % nanosPerSecond = 0) :
    t.fractionChars = [] := by
  unfold fractionChars
  simp [whole]

namespace DateLayout

open Decimal (paddedDigits)
open DateField

theorem readAll_cons (parts : DateParts) (cs : List Char) (field : DateField)
    (layout : DateLayout) :
    readAll parts cs (field :: layout) =
      (field.read parts cs).bind fun next => readAll next.1 next.2 layout :=
  rfl

theorem readAll_date (d : Date) (parts : DateParts) (rest : List Char) (layout : DateLayout) :
    readAll parts (d.toChars ++ rest) (yearFirst '-' ++ layout) =
      readAll { parts with year := d.year, month := d.month, day := d.day } rest layout := by
  obtain ⟨hmonth, hday⟩ := d.month_day_lt
  have hyear := readYear_yearChars d.year
    (paddedDigits 2 d.month ++ '-' :: (paddedDigits 2 d.day ++ rest))
  simp only [Date.toChars, yearFirst, List.append_assoc, List.cons_append, List.nil_append,
    readAll_cons]
  rw [DateField.read, hyear]
  simp only [Option.map_some, Option.bind_some, read_mark]
  rw [DateField.read, read_number hmonth]
  simp only [Option.bind_some, read_mark]
  rw [DateField.read, read_number hday]
  rfl

theorem readAll_clock (t : TimeOfDay) (parts : DateParts) (rest : List Char)
    (layout : DateLayout) :
    readAll parts (t.toChars ++ rest) (clock ++ layout) =
      readAll { parts with
        hour := t.second / 3600
        minute := t.second / 60 % 60
        second := t.second % 60 + t.nanos / TimeOfDay.nanosPerSecond } rest layout := by
  obtain ⟨hhour, hminute, hsecond⟩ := t.hands_lt
  simp only [TimeOfDay.toChars, clock, List.append_assoc, List.cons_append, List.nil_append,
    readAll_cons]
  rw [DateField.read, read_number hhour]
  simp only [Option.bind_some, read_mark]
  rw [DateField.read, read_number hminute]
  simp only [Option.bind_some, read_mark]
  rw [DateField.read, read_number hsecond]
  rfl

end DateLayout

/-- The hands of a time and its fraction show it, a leap second as the second 60. -/
theorem TimeOfDay.ofHms?_hands {t : TimeOfDay} (proper : t.IsProper) :
    ofHms? (t.second / 3600) (t.second / 60 % 60) (t.second % 60 + t.nanos / nanosPerSecond)
      (t.nanos % nanosPerSecond) = some t := by
  obtain ⟨second, nanos, hsecond, hnanos⟩ := t
  have unit : nanosPerSecond = 1000000000 := rfl
  simp only [IsProper] at proper
  simp only
  by_cases leap : nanosPerSecond ≤ nanos
  · have atEnd := proper leap
    have one : nanos / nanosPerSecond = 1 := by
      rw [unit] at leap hnanos ⊢
      omega
    have rest : nanos % nanosPerSecond = nanos - nanosPerSecond := by
      rw [unit] at leap hnanos ⊢
      omega
    have sixty : second % 60 + 1 = 60 := by omega
    have hands : second / 3600 * 3600 + second / 60 % 60 * 60 + 59 = second := by omega
    rw [one, rest, ofHms?, dif_pos (by omega), dif_pos sixty]
    simp only [hands, Nat.add_sub_of_le leap]
  · have ordinary := Nat.lt_of_not_le leap
    have seconds : ¬ second % 60 + 0 = 60 := by omega
    rw [Nat.div_eq_of_lt ordinary, Nat.mod_eq_of_lt ordinary, ofHms?, dif_pos (by omega),
      dif_neg seconds]
    congr 2
    omega

theorem DateField.read_fraction {parts : DateParts} (zero : parts.nanos = 0) (t : TimeOfDay) :
    DateField.read parts t.fractionChars .fraction =
      some ({ parts with nanos := t.nanos % TimeOfDay.nanosPerSecond }, []) := by
  rcases t.fractionChars_cases with ⟨whole, written⟩ | ⟨width, n, pos, le, lt, value, written⟩
  · rw [written, whole, ← zero]
    rfl
  · rw [written, DateField.read]
    simp only [readNanos_paddedDigits pos le lt, Option.map_some, value]

/-- A printed time is read back behind the date that it belongs to. -/
theorem DateLayout.readAll_time {t : Timestamp} (proper : t.time.IsProper) :
    (readAll { year := t.date.year, month := t.date.month, day := t.date.day }
      (t.time.toChars ++ t.time.fractionChars) (clock ++ [.fraction])).bind
        DateParts.timestamp? = some t := by
  rw [readAll_clock, readAll_cons, DateField.read_fraction rfl]
  simp [readAll, DateParts.timestamp?, DateParts.date?, Date.ofYmd?, t.date.isValid,
    TimeOfDay.ofHms?_hands proper]

/-! ## Instants -/

namespace Instant

open Decimal (paddedDigits isDigit_of_mem_paddedDigits length_paddedDigits)

theorem readExactly_paddedDigits {width n : Nat} (pos : 0 < width) (h : n < 10 ^ width)
    (rest : List Char) :
    readExactly width (paddedDigits width n ++ rest) = some (n, rest) := by
  have length := length_paddedDigits pos h
  have all : (paddedDigits width n).all Char.isDigit = true :=
    List.all_eq_true.2 fun c hc => isDigit_of_mem_paddedDigits hc
  have taken : (paddedDigits width n ++ rest).take width = paddedDigits width n :=
    List.take_left' length
  have dropped : (paddedDigits width n ++ rest).drop width = rest := List.drop_left' length
  unfold readExactly
  simp only [taken, dropped, length, all, and_self, if_true]
  rw [DateField.digitsValue_paddedDigits]

theorem readExactly_of_not_digit {width : Nat} (pos : 0 < width) {c : Char}
    (h : c.isDigit = false) (rest : List Char) :
    readExactly width (c :: rest) = none := by
  cases width with
  | zero => exact absurd pos (by decide)
  | succ n => simp [readExactly, h]

/-- The date in front of a text takes its characters and no more. -/
theorem eq_of_read_date (d : Date) {rest afterYear afterMonth behind : List Char}
    {year month day : Nat}
    (hyear : readExactly 4 (d.toChars ++ rest) = some (year, '-' :: afterYear))
    (hmonth : readExactly 2 afterYear = some (month, '-' :: afterMonth))
    (hday : readExactly 2 afterMonth = some (day, behind)) :
    rest = behind := by
  obtain ⟨monthBound, dayBound⟩ := d.month_day_lt
  rw [Date.toChars, Date.yearChars] at hyear
  split at hyear
  · next bounds =>
      have small : d.year.toNat < 10 ^ 4 := by omega
      simp only [List.append_assoc, List.cons_append] at hyear
      rw [readExactly_paddedDigits (by decide) small] at hyear
      cases hyear
      rw [readExactly_paddedDigits (by decide) monthBound] at hmonth
      cases hmonth
      rw [readExactly_paddedDigits (by decide) dayBound] at hday
      cases hday
      rfl
  -- A year of more digits begins with a sign.
  · split at hyear
    · rw [List.cons_append, List.cons_append, List.cons_append,
        readExactly_of_not_digit (by decide) (by decide)] at hyear
      cases hyear
    · rw [List.cons_append, List.cons_append, List.cons_append,
        readExactly_of_not_digit (by decide) (by decide)] at hyear
      cases hyear

theorem eq_of_read_clock (t : TimeOfDay) {rest afterHour afterMinute behind : List Char}
    {hour minute second : Nat}
    (hhour : readExactly 2 (t.toChars ++ rest) = some (hour, ':' :: afterHour))
    (hminute : readExactly 2 afterHour = some (minute, ':' :: afterMinute))
    (hsecond : readExactly 2 afterMinute = some (second, behind)) :
    rest = behind := by
  obtain ⟨hourBound, minuteBound, secondBound⟩ := t.hands_lt
  rw [TimeOfDay.toChars] at hhour
  simp only [List.append_assoc, List.cons_append] at hhour
  rw [readExactly_paddedDigits (by decide) hourBound] at hhour
  cases hhour
  rw [readExactly_paddedDigits (by decide) minuteBound] at hminute
  cases hminute
  rw [readExactly_paddedDigits (by decide) secondBound] at hsecond
  cases hsecond
  rfl

theorem parse?_local (d : Date) {rest : List Char}
    (h : rest = [] ∨
      ∃ (mark : Char) (t : TimeOfDay), rest = mark :: (t.toChars ++ t.fractionChars)) :
    parse? (d.toChars ++ rest) = none := by
  refine Option.eq_none_iff_forall_ne_some.2 fun found hfound => ?_
  obtain ⟨_, _, _, first, clock, ⟨_, _, hyear, hmonth, hday⟩, _, _, _, behind,
    ⟨_, _, hhour, hminute, hsecond⟩, _, zone, _, _, fraction, offset, -, -⟩ :=
      parts_of_parse? hfound
  obtain rfl := eq_of_read_date d hyear hmonth hday
  obtain ⟨mark, t, same⟩ := h.resolve_left (List.cons_ne_nil _ _)
  cases same
  obtain rfl := eq_of_read_clock t hhour hminute hsecond
  -- Behind the fraction there is nothing left for an offset.
  suffices zone = [] by
    rw [this] at offset
    cases offset
  rcases t.fractionChars_cases with ⟨-, written⟩ | ⟨width, n, pos, le, lt, -, written⟩
  · rcases fraction with ⟨_, point, -⟩ | ⟨-, -, rfl⟩
    · cases written.symm.trans point
    · exact written
  · rcases fraction with ⟨_, point, hnanos⟩ | ⟨noPoint, -, -⟩
    · cases written.symm.trans point
      rw [DateField.readNanos_paddedDigits pos le lt] at hnanos
      cases hnanos
      rfl
    · exact absurd written (noPoint _)

end Instant

/-! ## Characters -/

theorem Date.mem_toChars {d : Date} {c : Char} (h : c ∈ d.toChars) :
    c.isDigit = true ∨ c = '-' ∨ c = '+' := by
  have digits {width n : Nat} (hc : c ∈ Decimal.paddedDigits width n) : c.isDigit = true :=
    Decimal.isDigit_of_mem_paddedDigits hc
  have year (hc : c ∈ yearChars d.year) : c.isDigit = true ∨ c = '-' ∨ c = '+' := by
    unfold yearChars at hc
    split at hc
    · exact .inl (digits hc)
    · rcases List.mem_cons.1 hc with rfl | hc
      · split <;> simp
      · exact .inl (digits hc)
  simp only [toChars, List.mem_append, List.mem_cons] at h
  rcases h with (hc | rfl | hc) | rfl | hc
  · exact year hc
  · exact .inr (.inl rfl)
  · exact .inl (digits hc)
  · exact .inr (.inl rfl)
  · exact .inl (digits hc)

theorem TimeOfDay.mem_toChars {t : TimeOfDay} {c : Char} (h : c ∈ t.toChars) :
    c.isDigit = true ∨ c = ':' := by
  have digits {width n : Nat} (hc : c ∈ Decimal.paddedDigits width n) : c.isDigit = true :=
    Decimal.isDigit_of_mem_paddedDigits hc
  simp only [toChars, List.mem_append, List.mem_cons] at h
  rcases h with (hc | rfl | hc) | rfl | hc
  · exact .inl (digits hc)
  · exact .inr rfl
  · exact .inl (digits hc)
  · exact .inr rfl
  · exact .inl (digits hc)

theorem TimeOfDay.mem_fractionChars {t : TimeOfDay} {c : Char} (h : c ∈ t.fractionChars) :
    c.isDigit = true ∨ c = '.' := by
  rcases t.fractionChars_cases with ⟨-, written⟩ | ⟨width, n, -, -, -, -, written⟩
  · rw [written] at h
    cases h
  · rw [written] at h
    rcases List.mem_cons.1 h with rfl | hc
    · exact .inr rfl
    · exact .inl (Decimal.isDigit_of_mem_paddedDigits hc)

/-- Printed date-times are made of digits, signs and marks. -/
theorem Timestamp.mem_toText {t : Timestamp} {mark c : Char} (h : c ∈ (t.toText mark).toList) :
    c.isDigit = true ∨ c = mark ∨ c ∈ ['-', '+', ':', '.'] := by
  rw [Timestamp.toText, String.toList_ofList, List.mem_append, List.mem_append,
    List.mem_cons] at h
  rcases h with (hc | hc | hc) | hc
  · rcases Date.mem_toChars hc with hc | rfl | rfl <;> simp_all
  · exact .inr (.inl hc)
  · rcases TimeOfDay.mem_toChars hc with hc | rfl <;> simp_all
  · rcases TimeOfDay.mem_fractionChars hc with hc | rfl <;> simp_all

/-! ## Layouts that read no such text -/

namespace DateLayout

open DateField

theorem readAll_dayFirst (d : Date) (rest : List Char) (layout : DateLayout) :
    readAll {} (d.toChars ++ rest) (dayFirst '-' ++ layout) = none := by
  have step : readAll {} (d.toChars ++ rest) (dayFirst '-' ++ layout) =
      (DateField.read {} (d.toChars ++ rest) .day).bind fun next =>
        readAll next.1 next.2 (.mark '-' :: .month :: .mark '-' :: .year :: layout) := rfl
  rw [step, Date.toChars, Date.yearChars]
  split
  · next bounds =>
      have length : (Decimal.paddedDigits 4 d.year.toNat).length = 4 :=
        Decimal.length_paddedDigits (by decide) (by omega)
      have all (c : Char) (hc : c ∈ Decimal.paddedDigits 4 d.year.toNat) : c.isDigit = true :=
        Decimal.isDigit_of_mem_paddedDigits hc
      -- Two of the four digits are read as a day, and a digit follows.
      match hyear : Decimal.paddedDigits 4 d.year.toNat, length with
      | [a, b, c, e], _ =>
          rw [hyear] at all
          have hyphen : c ≠ '-' := by
            rintro rfl
            exact absurd (all '-' (by simp)) (by decide)
          have digits : ∀ x ∈ [a, b], x.isDigit = true := by
            simpa using ⟨all a (by simp), all b (by simp)⟩
          have two (rest : List Char) :
              readNumber 2 ([a, b] ++ rest) = some (digitsValue [a, b], rest) :=
            readNumber_append digits (by simp) le_rfl (.inl rfl)
          have day (rest : List Char) : DateField.read {} (a :: b :: rest) .day =
              some ({ day := digitsValue [a, b] }, rest) := by
            have hread := two rest
            simp only [List.cons_append, List.nil_append] at hread
            rw [DateField.read, DateField.read.number,
              Text.skipBlanks_cons (Text.isBlank_of_isDigit (all a (by simp))), hread]
            rfl
          simp only [List.cons_append, day, Option.bind_some, readAll_cons,
            read_mark_of_ne _ hyphen, Option.bind_none]
  · have noDigit {sign : Char} (h : sign.isDigit = false) (blank : Text.isBlank sign = false)
        (rest : List Char) : DateField.read {} (sign :: rest) .day = none := by
      simp [DateField.read, DateField.read.number, Text.skipBlanks_cons blank, readNumber, h]
    split
    · rw [List.cons_append, List.cons_append, List.cons_append,
        noDigit (by decide) (by decide)]
      rfl
    · rw [List.cons_append, List.cons_append, List.cons_append,
        noDigit (by decide) (by decide)]
      rfl

theorem readAll_slashes (d : Date) (rest : List Char) (layout : DateLayout) :
    readAll {} (d.toChars ++ rest) (yearFirst '/' ++ layout) = none := by
  have hyear := readYear_yearChars d.year
    (Decimal.paddedDigits 2 d.month ++ '-' :: (Decimal.paddedDigits 2 d.day ++ rest))
  simp only [Date.toChars, yearFirst, List.append_assoc, List.cons_append, List.nil_append,
    readAll_cons]
  rw [DateField.read, hyear]
  simp only [Option.map_some, Option.bind_some, read_mark_of_ne _ (show '-' ≠ '/' by decide)]
  rfl

/-- What stands behind a printed date, read as a time with the field `between` in front. -/
def timeBehind? (d : Date) (between : DateField) (rest : List Char) : Option Timestamp :=
  (readAll { year := d.year, month := d.month, day := d.day } rest
    (between :: (clock ++ [.fraction]))).bind DateParts.timestamp?

theorem filterMap_timestamps (d : Date) (rest : List Char) :
    timestamps.filterMap (·.timestamp? (d.toChars ++ rest)) =
      (timeBehind? d (.mark 'T') rest).toList ++ (timeBehind? d .blanks rest).toList := by
  have behind (between : DateField) :
      timestamp? (yearFirst '-' ++ between :: clock ++ [.fraction]) (d.toChars ++ rest) =
        timeBehind? d between rest := by
    rw [timestamp?, List.append_assoc, readAll_date]
    rfl
  have slashes : timestamp? (yearFirst '/' ++ .blanks :: clock) (d.toChars ++ rest) = none := by
    rw [timestamp?, readAll_slashes]
    rfl
  have days : timestamp? (dayFirst '-' ++ .blanks :: clock) (d.toChars ++ rest) = none := by
    rw [timestamp?, readAll_dayFirst]
    rfl
  rw [timestamps]
  simp only [List.filterMap_cons, List.filterMap_nil, behind, slashes, days]
  cases timeBehind? d (.mark 'T') rest <;> cases timeBehind? d .blanks rest <;> rfl

/-- A printed date is read in one way, and not if something stands behind it. -/
theorem filterMap_dates (d : Date) (rest : List Char) :
    dates.filterMap (·.date? (d.toChars ++ rest)) = if rest.isEmpty then [d] else [] := by
  have own : date? (yearFirst '-') (d.toChars ++ rest) =
      if rest.isEmpty then some d else none := by
    have read := readAll_date d {} rest []
    rw [List.append_nil] at read
    rw [date?, read, readAll]
    cases rest.isEmpty
    · rfl
    · simp [DateParts.date?, Date.ofYmd?, d.isValid]
  have slashes : date? (yearFirst '/') (d.toChars ++ rest) = none := by
    have read := readAll_slashes d rest []
    rw [List.append_nil] at read
    rw [date?, read]
    rfl
  have days : date? (dayFirst '-') (d.toChars ++ rest) = none := by
    have read := readAll_dayFirst d rest []
    rw [List.append_nil] at read
    rw [date?, read]
    rfl
  rw [dates]
  simp only [List.filterMap_cons, List.filterMap_nil, own, slashes, days]
  cases rest.isEmpty <;> rfl

end DateLayout

end GridSql
