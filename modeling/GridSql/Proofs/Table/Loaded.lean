import GridSql.Proofs.Result
import GridSql.Proofs.Value.Content
import GridSql.Table.File

/-!
# Loaded tables

The cells of a table that was read from a data file are null or of their column's
declared type. A column of integers may hold decimals that are no 64-bit integers,
and a leap second only stands at the end of a minute.
-/

namespace GridSql

/-! ## Times that can be read -/

/-- A leap second follows the second 59. -/
def TimeOfDay.IsProper (t : TimeOfDay) : Prop :=
  nanosPerSecond ≤ t.nanos → t.second % 60 = 59

theorem TimeOfDay.isProper_midnight : TimeOfDay.midnight.IsProper := by
  intro leap
  exact absurd leap (by decide)

theorem TimeOfDay.isProper_ofHms {hour minute second nanos : Nat} {t : TimeOfDay}
    (h : TimeOfDay.ofHms? hour minute second nanos = some t) :
    t.IsProper := by
  unfold TimeOfDay.ofHms? at h
  split at h
  · next bounds =>
      split at h
      · cases h
        intro _
        change (hour * 3600 + minute * 60 + 59) % 60 = 59
        omega
      · cases h
        intro leap
        exact absurd leap (by simpa using bounds.2.2.2)
  · cases h

theorem DateParts.isProper_timestamp {p : DateParts} {t : Timestamp}
    (h : p.timestamp? = some t) :
    t.time.IsProper := by
  simp only [DateParts.timestamp?, Option.bind_eq_bind, Option.bind_eq_some_iff,
    Option.pure_def, Option.some.injEq] at h
  obtain ⟨date, -, time, htime, rfl⟩ := h
  exact TimeOfDay.isProper_ofHms htime

/-- Whole minutes do not move the end of a minute. -/
theorem Timestamp.isProper_minusMinutes {t u : Timestamp} {minutes : Int}
    (ht : t.time.IsProper) (h : t.minusMinutes minutes = some u) :
    u.time.IsProper := by
  have shifted : u.time.nanos = t.time.nanos ∧
      u.time.second = (((t.time.second : Int) - minutes * 60) % 86400).toNat := by
    unfold Timestamp.minusMinutes at h
    dsimp only at h
    split at h
    · obtain ⟨_, heq, h⟩ := Option.bind_eq_some_iff.1 h
      cases heq
      split at h
      · obtain ⟨_, -, h⟩ := Option.bind_eq_some_iff.1 h
        cases h
        exact ⟨rfl, rfl⟩
      · split at h
        · obtain ⟨_, -, h⟩ := Option.bind_eq_some_iff.1 h
          cases h
          exact ⟨rfl, rfl⟩
        · cases h
          exact ⟨rfl, rfl⟩
    · cases h
  intro leap
  rw [shifted.1] at leap
  have before := ht leap
  rw [shifted.2]
  omega

theorem Instant.expect_eq_some_iff {c : Char} {cs rest : List Char} :
    expect c cs = some rest ↔ cs = c :: rest := by
  cases cs with
  | nil => simp [expect]
  | cons first others => simp [expect]

/-- The parts that an instant is read from: a date, a clock, a fraction and an offset. -/
theorem Instant.parts_of_parse? {cs : List Char} {t : Timestamp} (h : parse? cs = some t) :
    ∃ year month day mark clock,
      (∃ afterYear afterMonth, readExactly 4 cs = some (year, '-' :: afterYear) ∧
        readExactly 2 afterYear = some (month, '-' :: afterMonth) ∧
        readExactly 2 afterMonth = some (day, mark :: clock)) ∧
      ∃ hour minute second behind,
        (∃ afterHour afterMinute, readExactly 2 clock = some (hour, ':' :: afterHour) ∧
          readExactly 2 afterHour = some (minute, ':' :: afterMinute) ∧
          readExactly 2 afterMinute = some (second, behind)) ∧
        ∃ nanos zone offset localTime,
          ((∃ digits, behind = '.' :: digits ∧ DateField.readNanos digits = some (nanos, zone)) ∨
            (∀ digits, behind ≠ '.' :: digits) ∧ nanos = 0 ∧ zone = behind) ∧
          readOffset zone = some offset ∧
          ({ year := year, month, day, hour, minute, second, nanos } : DateParts).timestamp? =
            some localTime ∧
          localTime.minusMinutes offset = some t := by
  unfold parse? at h
  obtain ⟨⟨year, rest⟩, hyear, h⟩ := Option.bind_eq_some_iff.1 h
  obtain ⟨afterYear, hmark, h⟩ := Option.bind_eq_some_iff.1 h
  rw [show rest = _ from expect_eq_some_iff.1 hmark] at hyear
  obtain ⟨⟨month, rest⟩, hmonth, h⟩ := Option.bind_eq_some_iff.1 h
  obtain ⟨afterMonth, hmark, h⟩ := Option.bind_eq_some_iff.1 h
  rw [show rest = _ from expect_eq_some_iff.1 hmark] at hmonth
  obtain ⟨⟨day, rest⟩, hday, h⟩ := Option.bind_eq_some_iff.1 h
  dsimp only at h
  split at h
  · next mark clock =>
      split at h
      · obtain ⟨_, ⟨⟩, h⟩ := Option.bind_eq_some_iff.1 h
        obtain ⟨⟨hour, rest⟩, hhour, h⟩ := Option.bind_eq_some_iff.1 h
        obtain ⟨afterHour, hmark, h⟩ := Option.bind_eq_some_iff.1 h
        rw [show rest = _ from expect_eq_some_iff.1 hmark] at hhour
        obtain ⟨⟨minute, rest⟩, hminute, h⟩ := Option.bind_eq_some_iff.1 h
        obtain ⟨afterMinute, hmark, h⟩ := Option.bind_eq_some_iff.1 h
        rw [show rest = _ from expect_eq_some_iff.1 hmark] at hminute
        obtain ⟨⟨second, behind⟩, hsecond, h⟩ := Option.bind_eq_some_iff.1 h
        refine ⟨year, month, day, mark, clock, ⟨afterYear, afterMonth, hyear, hmonth, hday⟩, hour,
          minute, second, behind, ⟨afterHour, afterMinute, hhour, hminute, hsecond⟩, ?_⟩
        dsimp only at h
        split at h
        · next digits =>
            obtain ⟨⟨nanos, zone⟩, hnanos, h⟩ := Option.bind_eq_some_iff.1 h
            obtain ⟨offset, hoffset, h⟩ := Option.bind_eq_some_iff.1 h
            obtain ⟨localTime, hlocal, h⟩ := Option.bind_eq_some_iff.1 h
            exact ⟨nanos, zone, offset, localTime, .inl ⟨digits, rfl, hnanos⟩, hoffset, hlocal, h⟩
        · next noPoint =>
            obtain ⟨⟨nanos, zone⟩, ⟨⟩, h⟩ := Option.bind_eq_some_iff.1 h
            obtain ⟨offset, hoffset, h⟩ := Option.bind_eq_some_iff.1 h
            obtain ⟨localTime, hlocal, h⟩ := Option.bind_eq_some_iff.1 h
            exact ⟨0, behind, offset, localTime, .inr ⟨noPoint, rfl, rfl⟩, hoffset, hlocal, h⟩
      · cases h
  · cases h

theorem Instant.isProper_parse {cs : List Char} {t : Timestamp}
    (h : Instant.parse? cs = some t) :
    t.time.IsProper := by
  obtain ⟨_, _, _, _, _, -, _, _, _, _, -, _, _, _, _, -, -, hlocal, h⟩ := parts_of_parse? h
  exact Timestamp.isProper_minusMinutes (DateParts.isProper_timestamp hlocal) h

/-- What a text is read as has no leap second but at the end of a minute. -/
theorem Literal.isProper_timestamp {s : String} {t : Timestamp}
    (h : Literal.timestamp s = .ok t) :
    t.time.IsProper := by
  unfold Literal.timestamp at h
  dsimp only at h
  split at h
  · next found hfound =>
      cases h
      simp only [Option.orElse_eq_or, Option.or_eq_some_iff] at hfound
      rcases hfound with hinstant | ⟨-, hlocal | ⟨-, hdate⟩⟩
      · exact Instant.isProper_parse hinstant
      · obtain ⟨layout, -, hlayout⟩ := List.exists_of_findSome?_eq_some hlocal
        obtain ⟨parts, -, hparts⟩ := Option.bind_eq_some_iff.1 hlayout
        exact DateParts.isProper_timestamp hparts
      · obtain ⟨date, -, rfl⟩ := Option.map_eq_some_iff.1 hdate
        exact TimeOfDay.isProper_midnight
  · cases h

/-! ## Cells of a declared type -/

/-- Whether a cell can be in a column of a declared type. -/
inductive Value.HasType : Value → ScalarType → Prop where
  | null (type : ScalarType) : HasType .null type
  | text (s : String) : HasType (.text s) .text
  | int (n : Int64) : HasType (.int n) .integer
  /-- An integer column holds numbers that are no 64-bit integers as decimals. -/
  | wide (d : Decimal) : HasType (.decimal d) .integer
  | decimal (d : Decimal) : HasType (.decimal d) .decimal
  | bool (b : Bool) : HasType (.bool b) .boolean
  | date (d : Date) : HasType (.date d) .date
  | timestamp (t : Timestamp) (proper : t.time.IsProper) : HasType (.timestamp t) .timestamp
  | any (v : Value) : HasType v .other

theorem Value.hasType_ofCell {type : ScalarType} {j : Json} {v : Value}
    (h : Value.ofCell type j = .ok v) :
    v.HasType type := by
  unfold Value.ofCell at h
  split at h
  · cases h
    exact .null type
  · cases type with
    | text => cases h; exact .text _
    | integer =>
        dsimp only at h
        split at h
        · cases h; exact .int _
        · obtain ⟨d, -, rfl⟩ := map_ok_iff.1 h
          exact .wide d
    | decimal =>
        obtain ⟨d, -, rfl⟩ := map_ok_iff.1 h
        exact .decimal d
    | boolean =>
        dsimp only at h
        split at h
        · cases h; exact .bool _
        · obtain ⟨b, -, rfl⟩ := map_ok_iff.1 h
          exact .bool b
    | date =>
        obtain ⟨t, -, rfl⟩ := map_ok_iff.1 h
        exact .date _
    | timestamp =>
        obtain ⟨t, ht, rfl⟩ := map_ok_iff.1 h
        exact .timestamp t (Literal.isProper_timestamp ht)
    | other => exact .any v

theorem Value.HasType.exists_content {v : Value} {type : ScalarType}
    (h : v.HasType type) (known : type ≠ .other) :
    ∃ c, v.content? = some c := by
  cases h
  case any => exact absurd rfl known
  all_goals exact ⟨_, rfl⟩

namespace Table

/-- Every cell is of its column's declared type. -/
def WellTyped (t : Table) : Prop :=
  ∀ row ∈ t.rows, ∀ field type, t.typeOf? field = some type → (row.cell field).HasType type

def Fits (columns : List Column) (row : Row) : Prop :=
  List.Forall₂ (fun c p => p.1 = c.name ∧ p.2.HasType c.type) columns row

theorem fits_readRow {columns : List Column} {index : Nat} {record : List (String × Json)}
    {row : Row} (h : readRow columns index record = .ok row) :
    Fits columns row := by
  refine (mapM_ok_iff.1 h).imp ?_
  intro c p hp
  split at hp
  · next v hv =>
      cases hp
      exact ⟨rfl, Value.hasType_ofCell hv⟩
  · cases hp

theorem fits_readRows {columns : List Column} {index : Nat}
    {records : List (List (String × Json))} {rows : List Row}
    (h : readRows columns index records = .ok rows) :
    ∀ row ∈ rows, Fits columns row := by
  induction records generalizing index rows with
  | nil =>
      cases h
      simp
  | cons record rest ih =>
      obtain ⟨row, hrow, h⟩ := bind_ok_iff.1 h
      obtain ⟨others, hothers, h⟩ := bind_ok_iff.1 h
      cases h
      intro r hr
      rcases List.mem_cons.1 hr with rfl | hr
      · exact fits_readRow hrow
      · exact ih hothers r hr

theorem get?_of_fits {columns : List Column} {row : Row} (h : Fits columns row)
    {field : String} (absent : ∀ c ∈ columns, c.name ≠ field) :
    row.get? field = none := by
  induction h with
  | nil => rfl
  | @cons first p columns row hp _ ih =>
      have hrest := ih fun c hc => absent c (List.mem_cons_of_mem first hc)
      have hfirst := absent first List.mem_cons_self
      simp [Row.get?, hrest, hp.1, hfirst]

/-- The last column with a name decides the type, and the last cell with it is read. -/
theorem hasType_of_fits {columns : List Column} {row : Row} (h : Fits columns row)
    {field : String} {c : Column}
    (hc : columns.reverse.find? (·.name = field) = some c) :
    ∃ v, row.get? field = some v ∧ v.HasType c.type := by
  induction h with
  | nil => simp at hc
  | @cons first p columns row hp _ ih =>
      rw [List.reverse_cons, List.find?_append, Option.or_eq_some_iff] at hc
      rcases hc with hc | ⟨hnone, hc⟩
      · obtain ⟨v, hv, htype⟩ := ih hc
        exact ⟨v, by simp [Row.get?, hv], htype⟩
      · have absent : ∀ c ∈ columns, c.name ≠ field := by simpa using hnone
        have hfirst : first.name = field ∧ first = c := by simpa using hc
        obtain ⟨hname, rfl⟩ := hfirst
        have hget := get?_of_fits (by assumption) absent
        exact ⟨p.2, by simp [Row.get?, hget, hp.1, hname], hp.2⟩

theorem typeOf?_of_fieldType {t : Table} {field : String} (known : t.fieldType field ≠ .other) :
    t.typeOf? field = some (t.fieldType field) := by
  unfold fieldType at known ⊢
  cases h : t.typeOf? field with
  | none => exact absurd (by rw [h]; rfl) known
  | some type => rfl

theorem WellTyped.hasType {t : Table} (h : t.WellTyped) {row : Row} (hrow : row ∈ t.rows)
    {field : String} (known : t.fieldType field ≠ .other) :
    (row.cell field).HasType (t.fieldType field) :=
  h row hrow field _ (typeOf?_of_fieldType known)

theorem wellTyped_ofText {s : String} {t : Table} (h : Table.ofText s = .ok t) :
    t.WellTyped := by
  unfold ofText at h
  split at h
  · next f _ =>
      obtain ⟨rows, hrows, h⟩ := bind_ok_iff.1 h
      cases h
      intro row hrow field type htype
      obtain ⟨c, hc, rfl⟩ := Option.map_eq_some_iff.1 htype
      obtain ⟨v, hv, hv'⟩ := hasType_of_fits (fits_readRows hrows row hrow) hc
      simpa [Row.cell, hv] using hv'
  · cases h

end Table

end GridSql
