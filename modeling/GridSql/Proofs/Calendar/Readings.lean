import GridSql.Proofs.Calendar.ReadBack
import GridSql.Sql.Render
import GridSql.Value.Json

/-!
# The readings of printed dates and times

A text is tried as an instant, in the layouts of date-times and in those of dates. A date that
is printed, in an answer or as a text, can be read in one of these ways only, as its midnight.
So can a date-time, with its fraction and in any year, as the point in time that it is, and a
leap second at the end of a minute. A leap second anywhere else is printed as the second behind
it, and no text is read as it.
-/

namespace GridSql

theorem Date.toChars_ne_nil (d : Date) : d.toChars ≠ [] := by
  simp [toChars]

theorem Date.isBlank_of_mem {d : Date} {c : Char} (h : c ∈ d.toChars) : Text.isBlank c = false := by
  rcases mem_toChars h with digit | rfl | rfl
  · exact Text.isBlank_of_isDigit digit
  · rfl
  · rfl

theorem TimeOfDay.toChars_ne_nil (t : TimeOfDay) : t.toChars ≠ [] := by
  simp [toChars]

/-! ## Times behind a date -/

namespace DateLayout

variable (d : Date)

theorem timeBehind?_nil (between : DateField) (h : between = .blanks ∨ ∃ c, between = .mark c) :
    timeBehind? d between [] = none := by
  rcases h with rfl | ⟨c, rfl⟩ <;> rfl

/-- Another character than the mark of the layout is no beginning of a time. -/
theorem timeBehind?_mark_of_ne {c first : Char} (h : first ≠ c) (rest : List Char) :
    timeBehind? d (.mark c) (first :: rest) = none := by
  rw [timeBehind?, readAll_cons, DateField.read_mark_of_ne _ h]
  rfl

theorem timeBehind?_blanks_of_solid {first : Char} (solid : Text.isBlank first = false)
    (letter : first.isDigit = false) (rest : List Char) :
    timeBehind? d .blanks (first :: rest) = none := by
  have noHour : DateField.read { year := d.year, month := d.month, day := d.day } (first :: rest)
      .hour = none := by
    simp [DateField.read, DateField.read.number, Text.skipBlanks_cons solid, DateField.readNumber,
      letter]
  rw [timeBehind?, readAll_cons, DateField.read, Text.skipBlanks_cons solid, Option.bind_some,
    clock, List.cons_append, readAll_cons, noHour]
  rfl

variable {t : Timestamp} (proper : t.time.IsProper)
include proper

theorem timeBehind?_mark (c : Char) :
    timeBehind? t.date (.mark c) (c :: (t.time.toChars ++ t.time.fractionChars)) = some t := by
  rw [timeBehind?, readAll_cons, DateField.read_mark, Option.bind_some, readAll_time proper]

theorem timeBehind?_blanks :
    timeBehind? t.date .blanks (' ' :: (t.time.toChars ++ t.time.fractionChars)) = some t := by
  have hand : Text.skipBlanks (' ' :: (t.time.toChars ++ t.time.fractionChars)) =
      t.time.toChars ++ t.time.fractionChars := by
    have blank : Text.skipBlanks (' ' :: (t.time.toChars ++ t.time.fractionChars)) =
        Text.skipBlanks (t.time.toChars ++ t.time.fractionChars) := rfl
    rw [blank, TimeOfDay.toChars, List.append_assoc, List.append_assoc,
      DateField.skipBlanks_paddedDigits]
  rw [timeBehind?, readAll_cons, DateField.read, hand, Option.bind_some, readAll_time proper]

end DateLayout

/-! ## Readings -/

namespace Literal

/-- All that a text can be read as, in the order in which it is tried. -/
def readings (s : String) : List Timestamp :=
  let cs := Text.trimChars s.toList
  (Instant.parse? (withoutZone cs)).toList ++
    (DateLayout.timestamps.filterMap (·.timestamp? cs) ++
      (DateLayout.dates.filterMap (·.date? cs)).map Timestamp.atMidnight)

theorem timestamp_eq_head? (s : String) :
    timestamp s = (readings s).head?.elim (.error (.date s)) .ok := by
  unfold timestamp readings
  simp only [List.head?_append, Option.head?_toList, List.head?_map, List.head?_filterMap,
    Option.orElse_eq_or]
  split
  · next found =>
      rw [found]
      rfl
  · next found =>
      rw [found]
      rfl

theorem withoutZone_of_notMem {cs : List Char} (h : ']' ∉ cs) :
    withoutZone cs = cs := by
  have : cs.getLast? ≠ some ']' := fun hlast => h (List.mem_of_getLast? hlast)
  simp [withoutZone, this]

theorem readings_of_date {s : String} {d : Date} {rest : List Char}
    (chars : s.toList = d.toChars ++ rest)
    (last : ∀ c ∈ rest.getLast?, Text.isBlank c = false) (noZone : ']' ∉ rest)
    (noInstant : Instant.parse? (d.toChars ++ rest) = none) :
    readings s =
      (DateLayout.timeBehind? d (.mark 'T') rest).toList ++
        ((DateLayout.timeBehind? d .blanks rest).toList ++
          if rest.isEmpty then [Timestamp.atMidnight d] else []) := by
  have trimmed : Text.trimChars (d.toChars ++ rest) = d.toChars ++ rest := by
    refine Text.trimChars_of_ends (fun c hc => ?_) fun c hc => ?_
    · rw [List.head?_append_of_ne_nil _ d.toChars_ne_nil] at hc
      exact Date.isBlank_of_mem (List.mem_of_head? hc)
    · rw [List.getLast?_append, Option.mem_def, Option.or_eq_some_iff] at hc
      rcases hc with hc | ⟨-, hc⟩
      · exact last c hc
      · exact Date.isBlank_of_mem (List.mem_of_getLast? hc)
  have zone : withoutZone (d.toChars ++ rest) = d.toChars ++ rest := by
    refine withoutZone_of_notMem fun hc => ?_
    rcases List.mem_append.1 hc with hc | hc
    · rcases Date.mem_toChars hc with hc | hc | hc <;> exact absurd hc (by decide)
    · exact noZone hc
  unfold readings
  simp only [chars, trimmed, zone, noInstant, DateLayout.filterMap_timestamps,
    DateLayout.filterMap_dates, Option.toList_none, List.nil_append, List.append_assoc]
  cases rest <;> rfl

theorem readings_date (d : Date) : readings d.toText = [Timestamp.atMidnight d] := by
  have noInstant : Instant.parse? (d.toChars ++ []) = none := Instant.parse?_local d (.inl rfl)
  rw [readings_of_date (by rw [Date.toText, String.toList_ofList, List.append_nil]) (by simp)
    List.not_mem_nil noInstant, DateLayout.timeBehind?_nil d _ (.inr ⟨'T', rfl⟩),
    DateLayout.timeBehind?_nil d _ (.inl rfl)]
  rfl

/-- A printed date-time can only be read as itself. -/
theorem readings_toText {t : Timestamp} (proper : t.time.IsProper) {mark : Char}
    (h : mark = 'T' ∨ mark = ' ') :
    readings (t.toText mark) = [t] := by
  have chars : (t.toText mark).toList =
      t.date.toChars ++ mark :: (t.time.toChars ++ t.time.fractionChars) := by
    rw [Timestamp.toText, String.toList_ofList, List.append_assoc, List.cons_append]
  have shown {c : Char} (hc : c ∈ t.time.toChars ++ t.time.fractionChars) :
      c.isDigit = true ∨ c = ':' ∨ c = '.' := by
    rcases List.mem_append.1 hc with hc | hc
    · rcases TimeOfDay.mem_toChars hc with hc | hc
      · exact .inl hc
      · exact .inr (.inl hc)
    · rcases TimeOfDay.mem_fractionChars hc with hc | hc
      · exact .inl hc
      · exact .inr (.inr hc)
  have last : ∀ c ∈ (mark :: (t.time.toChars ++ t.time.fractionChars)).getLast?,
      Text.isBlank c = false := by
    intro c hc
    rw [List.getLast?_cons_of_ne_nil (List.append_ne_nil_of_left_ne_nil t.time.toChars_ne_nil _)]
      at hc
    rcases shown (List.mem_of_getLast? hc) with hc | rfl | rfl
    · exact Text.isBlank_of_isDigit hc
    · rfl
    · rfl
  have noZone : ']' ∉ mark :: (t.time.toChars ++ t.time.fractionChars) := by
    intro hc
    rcases List.mem_cons.1 hc with rfl | hc
    · rcases h with h | h <;> exact absurd h (by decide)
    · rcases shown hc with hc | hc | hc <;> exact absurd hc (by decide)
  rw [readings_of_date chars last noZone (Instant.parse?_local t.date (.inr ⟨mark, t.time, rfl⟩))]
  rcases h with rfl | rfl
  · rw [DateLayout.timeBehind?_mark proper, DateLayout.timeBehind?_blanks_of_solid _ (by decide)
      (by decide)]
    rfl
  · rw [DateLayout.timeBehind?_mark_of_ne _ (by decide), DateLayout.timeBehind?_blanks proper]
    rfl

theorem timestamp_of_readings {s : String} {t : Timestamp} (h : readings s = [t]) :
    timestamp s = .ok t := by
  rw [timestamp_eq_head?, h]
  rfl

theorem timestamp_date (d : Date) :
    timestamp d.toText = .ok (Timestamp.atMidnight d) :=
  timestamp_of_readings (readings_date d)

/-- A printed date-time without a fraction is read as the same point in time. -/
theorem timestamp_seconds {t : Timestamp} (proper : t.time.IsProper)
    (whole : t.time.nanos % TimeOfDay.nanosPerSecond = 0) :
    timestamp (t.toSeconds 'T') = .ok t := by
  have noFraction : t.toSeconds 'T' = t.toText 'T' := by
    rw [Timestamp.toText, TimeOfDay.fractionChars_of_whole whole, List.append_nil]
    rfl
  rw [noFraction]
  exact timestamp_of_readings (readings_toText proper (.inl rfl))

/--
A date that is printed in an answer or shown as a text can only be read as its midnight. The
text in the SQL literal of a point in time can only be read as this point, with its fraction
and in any year, if it is a time that a clock shows: a leap second ends a minute. No text at all
is read as another point in time.
-/
theorem timestamp_printed (dialect : Dialect) :
    (∀ d : Date, ∃ s, (Value.date d).toJson = .string s ∧ (Value.date d).display = s ∧
      readings s = [Timestamp.atMidnight d] ∧ timestamp s = .ok (Timestamp.atMidnight d)) ∧
    ∀ t : Timestamp, ∃ s,
      (Token.ofValue (.timestamp t)).serialize dialect = dialect.datedLiteral "TIMESTAMP" s ∧
      (readings s = [t] ↔ t.time.IsProper) ∧ (timestamp s = .ok t ↔ t.time.IsProper) ∧
        (t.time.IsProper ↔ ∃ any, timestamp any = .ok t) := by
  refine ⟨fun d => ⟨d.toText, rfl, rfl, readings_date d, timestamp_date d⟩,
    fun t => ⟨t.toText ' ', rfl, ?_⟩⟩
  have read (proper : t.time.IsProper) : readings (t.toText ' ') = [t] :=
    readings_toText proper (.inr rfl)
  refine ⟨⟨fun h => ?_, read⟩, ⟨isProper_timestamp, fun proper => ?_⟩, fun proper => ?_, ?_⟩
  · exact isProper_timestamp (timestamp_of_readings h)
  · exact timestamp_of_readings (read proper)
  · exact ⟨_, timestamp_of_readings (read proper)⟩
  · rintro ⟨any, h⟩
    exact isProper_timestamp h

/-- A quarter of a leap second that follows the first second of an afternoon. -/
def leapAtNoon : Timestamp :=
  ⟨⟨2024, 6, 30, by decide⟩, ⟨43200, 1250000000, by decide, by decide⟩⟩

def afterNoon : Timestamp :=
  ⟨⟨2024, 6, 30, by decide⟩, ⟨43201, 250000000, by decide, by decide⟩⟩

theorem not_timestamp_printed :
    (Token.ofValue (.timestamp leapAtNoon)).serialize .duckDb =
        "TIMESTAMP '2024-06-30 12:00:01.250'" ∧
      timestamp "2024-06-30 12:00:01.250" = .ok afterNoon ∧
      ∀ s, timestamp s ≠ .ok leapAtNoon := by
  have shown : afterNoon.toText ' ' = "2024-06-30 12:00:01.250" := by decide +kernel
  have proper : afterNoon.time.IsProper := fun leap => absurd leap (by decide)
  refine ⟨by decide +kernel, ?_, fun s read => ?_⟩
  · rw [← shown]
    exact timestamp_of_readings (readings_toText proper (.inr rfl))
  · exact absurd (isProper_timestamp read (by decide)) (by decide)

end Literal

end GridSql
