import Klogproc.Conversion.Values
import Klogproc.Conversion.DatetimePattern

/-!
# The times that the batch reader reads

Package `batch` (`src/unnamed/part_006`) picks the log files of a directory by the time at the
start of their first line, `importTimeFromLine`, and reads the bounds of a time range given on
the command line with `importTimeRangeEntry`.

* `findDatetime` is `datetimePattern.FindStringSubmatch`: the pattern
  `^(\d{4}-\d{2}-\d{2}\s[012]\d:[0-5]\d:[0-5]\d)[\.,]\d+` is the date-and-clock pattern of
  `Klogproc.Conversion.DatetimePattern` with `\s` between date and clock and `[\.,]` before the
  fraction.
* `importTimeFromLine` parses the group with `time.Parse("2006-01-02 15:04:05", ...)`.  The `err`
  it returns is declared and never set (the `err` of `time.Parse` is a new variable of the `if`),
  so it always returns `nil`, with `-1` for a line it cannot read.
* `lineTime_eq_some_iff`: the lines that `importTimeFromLine` reads are exactly the lines that
  start with a valid date and clock as `Format` writes them with the layout, then `.` or `,` and
  a digit; it reads that time.  A `\s` other than a space, an hour from 24 to 29 or a day the
  month lacks matches the pattern but not `time.Parse`.
* `importTimeRangeEntry_decimal` and `importTimeRangeEntry_format`: a Unix timestamp from `0`
  up is read as itself and a negative one is an unrecognized format, and a time written with
  `2006-01-02T15:04:05-07:00` is read back, except the zero time, which `importTimeRangeEntry`
  takes for a parse failure.
-/

namespace Klogproc.Batch

open Klogproc.Go Klogproc.Conversion

/-! ## `datetimePattern` -/

/-- `\s` of Go's `regexp`: `[\t\n\f\r ]`. -/
def isSpaceClass (c : UInt8) : Bool := c == 9 || c == 10 || c == 12 || c == 13 || c == 32

/-- `datetimePattern.FindStringSubmatch(lineStr)`: the group `srch[1]`, or `none` for no
match. -/
def findDatetime (lineStr : List UInt8) : Option (List UInt8) :=
  findDateClock isSpaceClass commaOrPeriod lineStr

/-! ## `importTimeFromLine` -/

/-- The time that the two `if`s of `importTimeFromLine` read: the group of `datetimePattern`
parsed with `"2006-01-02 15:04:05"`. -/
def lineTime (lineStr : List UInt8) : Option GoTime := (findDatetime lineStr).bind (parse batchLayout)

/-- `importTimeFromLine(lineStr, tzShiftMin)`: the Unix seconds of the line's time plus the shift,
in `int64` arithmetic, or `-1`; and the returned `err`, which is never set. -/
def importTimeFromLine (lineStr : List UInt8) (tzShiftMin : Int) : Int × Option String :=
  let err : Option String := none
  match lineTime lineStr with
  | some t => (wrap64 (t.unix + wrap64 (tzShiftMin * 60)), none)
  | none => (-1, err)

/-! ## `importTimeRangeEntry` and `NewDateTimeRange` -/

/-- `tzRangePattern.MatchString(v)`: `^\d+$`, a nonempty run of ASCII digits. -/
def matchesTzRange (v : List UInt8) : Bool := !v.isEmpty && v.all isDigit

/-- The errors of `importTimeRangeEntry`: the error of `strconv.Atoi` on a numeric value, and a
value that `ConvertDatetimeString` cannot read. -/
inductive RangeEntryError where
  | timestamp (err : NumError)
  | unrecognized
  deriving DecidableEq, Repr

/-- The text of a `RangeEntryError` (`±` is two bytes in UTF-8). -/
def RangeEntryError.message (printTables : Nat → Bool) : RangeEntryError → List UInt8
  | .timestamp err => ascii "failed to parse UNIX timestamp-like value: " ++ err.message printTables
  | .unrecognized =>
    ascii "unrecognized time format. Must be either a numeric UNIX timestamp or YYYY-MM-DDTHH:mm:ss" ++
      [0xC2, 0xB1] ++ ascii "hh:mm"

/-- `importTimeRangeEntry(v)`: the time and the error it returns.  The time returned with an
error is `time.Time{}`, and `t`, which is zero, in the second case. -/
def importTimeRangeEntry (v : List UInt8) : GoTime × Option RangeEntryError :=
  if matchesTzRange v then
    match atoi v with
    | .error err => (GoTime.zero, some (.timestamp err))
    | .ok vc => (GoTime.ofUnix vc, none)
  else
    let t := convertDatetimeString v
    if t.isZero then (t, some .unrecognized) else (t, none)

/-- `DatetimeRange`: the bounds `From` and `To`, `nil` for an open bound. -/
structure DatetimeRange where
  fromTime : Option GoTime
  toTime : Option GoTime
  deriving DecidableEq, Repr

/-- One `if` block of `NewDateTimeRange`: an empty argument leaves the bound as it is, and any
other sets it to the time `importTimeRangeEntry` reads, or stops with its error. -/
def importBound (timestamp : List UInt8) (bound : Option GoTime) :
    Except RangeEntryError (Option GoTime) :=
  if timestamp ≠ [] then
    match importTimeRangeEntry timestamp with
    | (_, some err) => .error err
    | (t, none) => .ok (some t)
  else .ok bound

/-- `NewDateTimeRange(fromTimestamp, toTimestamp)`: the range and the error it returns.  After an
error in `toTimestamp`, the range returned has its `From` set. -/
def newDateTimeRange (fromTimestamp toTimestamp : List UInt8) :
    DatetimeRange × Option RangeEntryError :=
  let ans : DatetimeRange := ⟨none, none⟩
  match importBound fromTimestamp ans.fromTime with
  | .error err => (ans, some err)
  | .ok fromTime =>
    let ans := { ans with fromTime := fromTime }
    match importBound toTimestamp ans.toTime with
    | .error err => (ans, some err)
    | .ok toTime => ({ ans with toTime := toTime }, none)

/-! ## What `importTimeFromLine` reads -/

/-- The lines that `importTimeFromLine` reads are exactly those that start with a valid date and
clock as `Format` writes them with `2006-01-02 15:04:05`, then a `.` or a `,` and a digit; the
time it reads is theirs. -/
theorem lineTime_eq_some_iff (line : List UInt8) (t : GoTime) :
    lineTime line = some t ↔ ∃ (f : Fields) (sep d : UInt8) (rest : List UInt8), f.Valid ∧
      commaOrPeriod sep = true ∧ isDigit d = true ∧
      line = format f batchLayout ++ sep :: d :: rest ∧ t = f.time :=
  dateClockTime_eq_some_iff (p := space) rfl line t

/-! ## What `importTimeRangeEntry` reads -/

section RangeEntry

variable {v : List UInt8} {f : Fields}

theorem matchesTzRange_iff : matchesTzRange v = true ↔ v ≠ [] ∧ ∀ c ∈ v, isDigit c = true := by
  simp [matchesTzRange, List.isEmpty_iff]

/-- `importTimeRangeEntry` reads every `int64` Unix timestamp that `Itoa` writes: one from `0` up
as the time whose `Unix()` is that timestamp, and a negative one, which `^\\d+$` rejects and
`time.Parse` cannot read, as an unrecognized format. -/
theorem importTimeRangeEntry_decimal {n : Int} (h₁ : -9223372036854775808 ≤ n)
    (h₂ : n < 9223372036854775808) :
    importTimeRangeEntry (itoa n) =
        (if 0 ≤ n then (GoTime.ofUnix n, none) else (GoTime.zero, some .unrecognized)) ∧
      (0 ≤ n → (GoTime.ofUnix n).unix = n) := by
  by_cases hn : 0 ≤ n
  · have hm : matchesTzRange (decimal n.natAbs) = true :=
      matchesTzRange_iff.2 ⟨decimal_ne_nil _, isDigit_of_mem_decimal _⟩
    rw [itoa, if_neg (by omega), importTimeRangeEntry, if_pos hm, atoi_decimal (by omega),
      if_pos hn, Int.natAbs_of_nonneg hn]
    exact ⟨rfl, fun _ => unix_ofUnix (by unfold minDuration; omega) (by unfold maxDuration; omega)⟩
  · have hm : matchesTzRange (minus :: decimal n.natAbs) = false := Bool.eq_false_iff.2 fun h =>
      absurd ((matchesTzRange_iff.1 h).2 minus (List.mem_cons_self _ _)) (by decide)
    have hp : parse rfc3339Layout (minus :: decimal n.natAbs) = none := by
      simp [parse, parseLoop, rfc3339Layout, parseElem, isDigit, minus, UInt8.size]
    rw [itoa, if_pos (by omega), importTimeRangeEntry, hm, if_neg hn]
    simp only [convertDatetimeString, hp, Option.getD_none]
    exact ⟨rfl, fun h => absurd h hn⟩

theorem importTimeRangeEntry_decimal_sample :
    ((-9223372036854775808 ≤ (1600000000 : Int) ∧ (1600000000 : Int) < 9223372036854775808) ∧
      importTimeRangeEntry (itoa 1600000000) =
          (if 0 ≤ (1600000000 : Int) then (GoTime.ofUnix 1600000000, none)
          else (GoTime.zero, some .unrecognized)) ∧
        (0 ≤ (1600000000 : Int) → (GoTime.ofUnix 1600000000).unix = 1600000000)) ∧
    ((-9223372036854775808 ≤ (-1 : Int) ∧ (-1 : Int) < 9223372036854775808) ∧
      importTimeRangeEntry (itoa (-1)) =
          (if 0 ≤ (-1 : Int) then (GoTime.ofUnix (-1), none)
          else (GoTime.zero, some .unrecognized)) ∧
        (0 ≤ (-1 : Int) → (GoTime.ofUnix (-1)).unix = -1)) :=
  ⟨⟨⟨by decide, by decide⟩, importTimeRangeEntry_decimal (by decide) (by decide)⟩,
    ⟨⟨by decide, by decide⟩, importTimeRangeEntry_decimal (by decide) (by decide)⟩⟩

/-- A run of digits whose value leaves `int64` is an error of `importTimeRangeEntry`, which
quotes the run. -/
theorem importTimeRangeEntry_digits_range (printTables : Nat → Bool) (hne : v ≠ [])
    (hd : ∀ c ∈ v, isDigit c = true) (hv : 2 ^ 63 ≤ digitsValue v) :
    importTimeRangeEntry v = (GoTime.zero, some (.timestamp (rangeError "Atoi" v))) ∧
      (RangeEntryError.timestamp (rangeError "Atoi" v)).message printTables =
        ascii "failed to parse UNIX timestamp-like value: strconv.Atoi: parsing " ++ 34 :: v ++
          34 :: ascii ": value out of range" := by
  refine ⟨by rw [importTimeRangeEntry, if_pos (matchesTzRange_iff.2 ⟨hne, hd⟩),
    atoi_digits_range hne hd hv], ?_⟩
  simp only [RangeEntryError.message, NumError.message, rangeError, quote_digits printTables hd,
    NumErrorKind.message, List.append_assoc, List.cons_append]
  rfl

theorem importTimeRangeEntry_digits_range_sample :
    ascii "9223372036854775808" ≠ [] ∧ (∀ c ∈ ascii "9223372036854775808", isDigit c = true) ∧
      2 ^ 63 ≤ digitsValue (ascii "9223372036854775808") ∧
      importTimeRangeEntry (ascii "9223372036854775808") =
        (GoTime.zero, some (.timestamp (rangeError "Atoi" (ascii "9223372036854775808")))) ∧
      (RangeEntryError.timestamp (rangeError "Atoi" (ascii "9223372036854775808"))).message
        (fun _ => false) =
        ascii "failed to parse UNIX timestamp-like value: strconv.Atoi: parsing " ++
          34 :: ascii "9223372036854775808" ++ 34 :: ascii ": value out of range" :=
  have hne : ascii "9223372036854775808" ≠ [] := by decide
  have hd : ∀ c ∈ ascii "9223372036854775808", isDigit c = true := by decide
  have hv : 2 ^ 63 ≤ digitsValue (ascii "9223372036854775808") := by decide
  ⟨hne, hd, hv, importTimeRangeEntry_digits_range _ hne hd hv⟩

theorem minus_mem_format_rfc3339 : minus ∈ format f rfc3339Layout :=
  List.mem_flatMap.2 ⟨.lit [minus], by simp [rfc3339Layout]; exact .inl rfl, List.mem_singleton_self _⟩

/-- A valid time that `Format` writes with `2006-01-02T15:04:05-07:00` is read back by
`importTimeRangeEntry`, except the zero time, which it reports as an unrecognized format. -/
theorem importTimeRangeEntry_format (hf : f.Valid) :
    importTimeRangeEntry (format f rfc3339Layout) =
      if f.zonedTime.isZero then (f.zonedTime, some .unrecognized) else (f.zonedTime, none) := by
  have hm : matchesTzRange (format f rfc3339Layout) = false := by
    rw [Bool.eq_false_iff]
    intro h
    exact absurd ((matchesTzRange_iff.1 h).2 _ minus_mem_format_rfc3339) (by decide)
  simp only [importTimeRangeEntry, hm, convertDatetimeString, parse_format_rfc3339 hf,
    Option.getD_some]
  rfl

/-- `2023-05-17T10:30:00+02:00` is read back, and `0001-01-01T00:00:00+00:00`, a valid time
too, is rejected. -/
theorem importTimeRangeEntry_format_sample :
    ((⟨2023, 5, 17, 10, 30, 0, 120⟩ : Fields).Valid ∧
      importTimeRangeEntry (format ⟨2023, 5, 17, 10, 30, 0, 120⟩ rfc3339Layout) =
        if (Fields.zonedTime ⟨2023, 5, 17, 10, 30, 0, 120⟩).isZero then
          (Fields.zonedTime ⟨2023, 5, 17, 10, 30, 0, 120⟩, some .unrecognized)
        else (Fields.zonedTime ⟨2023, 5, 17, 10, 30, 0, 120⟩, none)) ∧
    ((⟨1, 1, 1, 0, 0, 0, 0⟩ : Fields).Valid ∧
      importTimeRangeEntry (format ⟨1, 1, 1, 0, 0, 0, 0⟩ rfc3339Layout) =
        if (Fields.zonedTime ⟨1, 1, 1, 0, 0, 0, 0⟩).isZero then
          (Fields.zonedTime ⟨1, 1, 1, 0, 0, 0, 0⟩, some .unrecognized)
        else (Fields.zonedTime ⟨1, 1, 1, 0, 0, 0, 0⟩, none)) :=
  ⟨⟨by decide, importTimeRangeEntry_format (by decide)⟩,
    ⟨by decide, importTimeRangeEntry_format (by decide)⟩⟩

example : (Fields.zonedTime ⟨2023, 5, 17, 10, 30, 0, 120⟩).isZero = false := by decide

example : (Fields.zonedTime ⟨1, 1, 1, 0, 0, 0, 0⟩).isZero = true := by decide

end RangeEntry

end Klogproc.Batch
