import Klogproc.Go.Time
import Klogproc.Go.Strconv
import Klogproc.Go.Strings

/-!
# `time.Parse` on the layouts of `klogproc`

The batch reader takes the time of a log file from its first line with
`time.Parse("2006-01-02 15:04:05", ...)`, `fetch`'s `LogRecord.GetTime` reads its record's date
with `2006-01-02T15:04:05`, `importTimeRangeEntry` reads a time range with
`ConvertDatetimeString` (layout `2006-01-02T15:04:05-07:00`), and
`ConvertAccessLogDatetimeString` reads access-log times (layout `02/Jan/2006:15:04:05 -0700`).
This module models `time.Parse` for the layout elements those layouts are made of.

* A layout is the list of chunks that Go's `nextStdChunk` cuts it into: literal text
  (`LayoutElem.lit`) and the elements `2006`, `Jan`, `01`, `02`, `15`, `04`, `05`, `-0700` and
  `-07:00`.  `parseElem` is one case of the `switch` of `Parse`, with Go's `getnum`, `lookup`,
  `skip` and `parseNanoseconds`, and `ParseState` holds `Parse`'s local variables.  `parse` adds
  the check for extra text, the validation of the day of the month and `Date`.  Every error of
  `Parse` is `none`: the callers in this repository only test `err != nil`.
* The calendar is Go's: `isLeap`, `daysBefore`, `daysIn`; `date` is `time.Date` in UTC on fields
  in range, as nanoseconds since `time.Time{}`, and `GoTime.unix` is `Time.Unix`.
* `format` writes a layout for a date and clock (`Fields`) and a zone offset in minutes, as
  `Time.Format` writes it (`appendInt`).  `parseLoop_format`: on a layout whose chunks are
  separated as Go separates them (`Layout.wf`), `Parse` reads back every element that `format`
  writes; `parse_format_dateClock` (the batch layout and `fetch`'s), `parse_format_rfc3339` and
  `parse_format_accessLog` are the round trips of the layouts.
-/

namespace Klogproc.Go

/-! ## The calendar -/

/-- `isLeap(year)`. -/
def isLeap (year : Int) : Bool := year % 4 == 0 && (year % 100 != 0 || year % 400 == 0)

/-- `daysBefore`: the days of a non-leap year before the first of each month, and 365. -/
def daysBefore : List Int := [0, 31, 59, 90, 120, 151, 181, 212, 243, 273, 304, 334, 365]

/-- `daysIn(m, year)` for a month `1 ≤ m ≤ 12`. -/
def daysIn (m year : Int) : Int :=
  if m = 2 ∧ isLeap year then 29 else daysBefore.getD m.toNat 0 - daysBefore.getD (m - 1).toNat 0

/-- The days from January 1 of year 1 to January 1 of `year` in the proleptic Gregorian
calendar, the count that `daysSinceEpoch` makes with its 400-, 100- and 4-year cycles. -/
def daysBeforeYear (year : Int) : Int :=
  let y := year - 1
  365 * y + y / 4 - y / 100 + y / 400

/-- `time.Date(year, month, day, hour, min, sec, nsec, time.UTC)` on fields in range (which is how
`Parse` calls it), as nanoseconds since `time.Time{}`. -/
def date (year month day hour min sec nsec : Int) : GoTime :=
  ⟨((daysBeforeYear year + daysBefore.getD (month - 1).toNat 0 +
      (if isLeap year ∧ 3 ≤ month then 1 else 0) + day - 1) * 86400 +
      hour * 3600 + min * 60 + sec) * second + nsec⟩

/-- `unixToInternal`: the seconds from `time.Time{}` to January 1, 1970 UTC. -/
def unixToInternal : Int := 62135596800

/-- `t.Unix()`: the seconds since January 1, 1970 UTC, rounded down, as `t.sec() +
internalToUnix` computes them in `int64`. -/
def GoTime.unix (t : GoTime) : Int := wrap64 (t.nanos / second - unixToInternal)

/-- `time.Unix(sec, 0)`: a time of `sec + unixToInternal` seconds, an `int64` sum. -/
def GoTime.ofUnix (sec : Int) : GoTime := ⟨wrap64 (sec + unixToInternal) * second⟩

/-- `t.IsZero()`. -/
def GoTime.isZero (t : GoTime) : Bool := t.nanos == 0

/-- `time.Unix(sec, 0).Unix()` is `sec` for every `int64`, the wrap of `time.Unix` included. -/
theorem unix_ofUnix {sec : Int} (h₁ : minDuration ≤ sec) (h₂ : sec ≤ maxDuration) :
    (GoTime.ofUnix sec).unix = sec := by
  rw [GoTime.unix, GoTime.ofUnix, Int.mul_ediv_cancel _ (by decide)]
  unfold wrap64 unixToInternal minDuration maxDuration at *
  omega

/-! ## `Parse` -/

/-- The chunks of a layout: the literal text between two elements, and the elements the layouts
of this repository use. -/
inductive LayoutElem where
  /-- Literal text, matched by `skip`. -/
  | lit (p : List UInt8)
  /-- `2006`, `stdLongYear`. -/
  | longYear
  /-- `Jan`, `stdMonth`. -/
  | month
  /-- `01`, `stdZeroMonth`. -/
  | zeroMonth
  /-- `02`, `stdZeroDay`. -/
  | zeroDay
  /-- `15`, `stdHour`. -/
  | hour
  /-- `04`, `stdZeroMinute`. -/
  | zeroMinute
  /-- `05`, `stdZeroSecond`. -/
  | zeroSecond
  /-- `-0700`, `stdNumTZ`. -/
  | numTZ
  /-- `-07:00`, `stdNumColonTZ`. -/
  | numColonTZ
  deriving DecidableEq, Repr

/-- The local variables of `Parse` that its loop sets, with their initial values in `init`:
`month`, `day` and `zoneOffset` start at `-1`, meaning "not in the layout". -/
structure ParseState where
  year : Int
  month : Int
  day : Int
  hour : Int
  min : Int
  sec : Int
  nsec : Int
  zoneOffset : Int
  deriving DecidableEq, Repr

/-- The state `Parse` starts from. -/
def ParseState.init : ParseState := ⟨0, -1, -1, 0, 0, 0, 0, -1⟩

/-- `cutspace(s)`: `s` without its leading spaces. -/
def cutspace (s : List UInt8) : List UInt8 := s.dropWhile (· == space)

/-- `skip(value, prefix)`, where a run of spaces in `prefix` matches a run of spaces in
`value`.  Go cuts the whole run from both at its first space; `cut` marks the rest of that run
in `prefix`, which is then passed over. -/
def skipAux : Bool → List UInt8 → List UInt8 → Option (List UInt8)
  | _, value, [] => some value
  | cut, value, p :: pre =>
    if p = space then
      if cut then skipAux true value pre
      else if value ≠ [] ∧ value.head? ≠ some space then none
      else skipAux true (cutspace value) pre
    else
      match value with
      | [] => none
      | v :: value => if v = p then skipAux false value pre else none

/-- `skip(value, prefix)`. -/
def skip (value pre : List UInt8) : Option (List UInt8) := skipAux false value pre

/-- `getnum(s, fixed)`: one or two digits, or exactly two when `fixed`. -/
def getnum (s : List UInt8) (fixed : Bool) : Option (Nat × List UInt8) :=
  match s with
  | c0 :: c1 :: rest =>
    if !isDigit c0 then none
    else if isDigit c1 then some (digitVal c0 * 10 + digitVal c1, rest)
    else if fixed then none else some (digitVal c0, c1 :: rest)
  | [c0] => if isDigit c0 && !fixed then some (digitVal c0, []) else none
  | [] => none

/-- `c | ('a' - 'A')`. -/
def lower (c : UInt8) : UInt8 := c ||| 32

/-- `match(s1, s2)`: equal up to the case of ASCII letters. -/
def matchFold : List UInt8 → List UInt8 → Bool
  | c1 :: s1, c2 :: s2 =>
    (c1 == c2 || lower c1 == lower c2 && 97 ≤ (lower c1).toNat && (lower c1).toNat ≤ 122) &&
      matchFold s1 s2
  | _, _ => true

/-- `lookup(tab, val)` from index `i`: the first entry of `tab` that `val` starts with, up to
case, and the rest of `val`. -/
def lookupFrom (i : Nat) : List (List UInt8) → List UInt8 → Option (Nat × List UInt8)
  | [], _ => none
  | v :: tab, val =>
    if v.length ≤ val.length ∧ matchFold (val.take v.length) v = true then some (i, val.drop v.length)
    else lookupFrom (i + 1) tab val

/-- `shortMonthNames`. -/
def shortMonthNames : List (List UInt8) :=
  ["Jan", "Feb", "Mar", "Apr", "May", "Jun", "Jul", "Aug", "Sep", "Oct", "Nov", "Dec"].map ascii

/-- `commaOrPeriod(c)`. -/
def commaOrPeriod (c : UInt8) : Bool := c == 46 || c == 44

/-- `parseNanoseconds(value, nbytes)` on a separator and `nbytes - 1` digits: the first nine
digits, scaled to nanoseconds. -/
def parseNanoseconds (value : List UInt8) (nbytes : Nat) : Nat :=
  let n := min nbytes 10
  digitsValue ((value.take n).drop 1) * 10 ^ (10 - n)

/-- The zone offset in seconds of a sign and two-digit hours and minutes: `(hr*60+mm)*60`,
negated after `-`; `none` when a part is not two digits, for hours over 24 or minutes over 60,
and for another sign. -/
def zoneOffsetOf (sign : UInt8) (hour min : List UInt8) : Option Int :=
  match getnum hour true, getnum min true with
  | some (hr, _), some (mm, _) =>
    if 24 < hr ∨ 60 < mm then none
    else if sign = plus then some ((hr * 60 + mm) * 60)
    else if sign = minus then some (-((hr * 60 + mm) * 60 : Int))
    else none
  | _, _ => none

/-- The byte `':'`. -/
def colon : UInt8 := 58

/-- One chunk of `Parse`: the case of its `switch` for an element, or `skip` for literal text.
After the seconds, a `.` or `,` and a digit start a fractional second that the layout does not
have; `Parse` reads it (the layouts here have no fractional-second element). -/
def parseElem : LayoutElem → List UInt8 → ParseState → Option (List UInt8 × ParseState)
  | .lit p, value, st => (skip value p).map fun v => (v, st)
  | .longYear, value, st =>
    if value.length < 4 ∨ value.head?.all (!isDigit ·) then none
    else if (value.take 4).all isDigit then
      some (value.drop 4, { st with year := digitsValue (value.take 4) })
    else none
  | .month, value, st =>
    (lookupFrom 0 shortMonthNames value).map fun (i, v) => (v, { st with month := i + 1 })
  | .zeroMonth, value, st =>
    match getnum value true with
    | some (m, v) => if m = 0 ∨ 12 < m then none else some (v, { st with month := m })
    | none => none
  | .zeroDay, value, st => (getnum value true).map fun (d, v) => (v, { st with day := d })
  | .hour, value, st =>
    match getnum value false with
    | some (h, v) => if 24 ≤ h then none else some (v, { st with hour := h })
    | none => none
  | .zeroMinute, value, st =>
    match getnum value true with
    | some (m, v) => if 60 ≤ m then none else some (v, { st with min := m })
    | none => none
  | .zeroSecond, value, st =>
    match getnum value true with
    | some (s, v) =>
      if 60 ≤ s then none
      else
        match v with
        | c :: d :: rest =>
          if commaOrPeriod c && isDigit d then
            let n := 2 + (rest.takeWhile isDigit).length
            some (v.drop n, { st with sec := s, nsec := parseNanoseconds v n })
          else some (v, { st with sec := s })
        | _ => some (v, { st with sec := s })
    | none => none
  | .numTZ, value, st =>
    match value with
    | s :: h1 :: h2 :: m1 :: m2 :: rest =>
      (zoneOffsetOf s [h1, h2] [m1, m2]).map fun z => (rest, { st with zoneOffset := z })
    | _ => none
  | .numColonTZ, value, st =>
    match value with
    | s :: h1 :: h2 :: c :: m1 :: m2 :: rest =>
      if c = colon then
        (zoneOffsetOf s [h1, h2] [m1, m2]).map fun z => (rest, { st with zoneOffset := z })
      else none
    | _ => none

/-- The loop of `Parse` over the chunks of the layout. -/
def parseLoop : List LayoutElem → List UInt8 → ParseState → Option (List UInt8 × ParseState)
  | [], value, st => some (value, st)
  | e :: layout, value, st =>
    match parseElem e value st with
    | some (value, st) => parseLoop layout value st
    | none => none

/-- What `Parse` does after its loop: the check for extra text, the defaults of month and day,
the validation of the day of the month, `Date`, and the shift by a parsed zone offset. -/
def parseEnd (rest : List UInt8) (st : ParseState) : Option GoTime :=
  if rest ≠ [] then none
  else
    let month := if st.month < 0 then 1 else st.month
    let day := if st.day < 0 then 1 else st.day
    if day < 1 ∨ daysIn month st.year < day then none
    else
      let t := date st.year month day st.hour st.min st.sec st.nsec
      if st.zoneOffset ≠ -1 then some (t.add (-st.zoneOffset * second)) else some t

/-- `time.Parse(layout, value)`, with `UTC` as the default location. -/
def parse (layout : List LayoutElem) (value : List UInt8) : Option GoTime :=
  (parseLoop layout value ParseState.init).bind fun p => parseEnd p.1 p.2

/-! ## The layouts of `klogproc` -/

/-- `"2006-01-02" + sep + "15:04:05"`: a date and a clock, with no zone. -/
def dateClockLayout (sep : List UInt8) : List LayoutElem :=
  [.longYear, .lit (ascii "-"), .zeroMonth, .lit (ascii "-"), .zeroDay, .lit sep, .hour,
    .lit (ascii ":"), .zeroMinute, .lit (ascii ":"), .zeroSecond]

/-- `"2006-01-02 15:04:05"`, the time at the start of a batch log line. -/
def batchLayout : List LayoutElem := dateClockLayout (ascii " ")

/-- `"2006-01-02T15:04:05"`, the layout of `LogRecord.GetTime` of package `fetch`. -/
def fetchLayout : List LayoutElem := dateClockLayout (ascii "T")

/-- `"2006-01-02T15:04:05-07:00"`, the layout of `ConvertDatetimeString`. -/
def rfc3339Layout : List LayoutElem :=
  [.longYear, .lit (ascii "-"), .zeroMonth, .lit (ascii "-"), .zeroDay, .lit (ascii "T"), .hour,
    .lit (ascii ":"), .zeroMinute, .lit (ascii ":"), .zeroSecond, .numColonTZ]

/-- `"02/Jan/2006:15:04:05 -0700"`, the layout of `ConvertAccessLogDatetimeString`. -/
def accessLogLayout : List LayoutElem :=
  [.zeroDay, .lit (ascii "/"), .month, .lit (ascii "/"), .longYear, .lit (ascii ":"), .hour,
    .lit (ascii ":"), .zeroMinute, .lit (ascii ":"), .zeroSecond, .lit (ascii " "), .numTZ]

/-! ## `Format` -/

/-- A date and a clock, and the offset of their zone in minutes east of UTC. -/
structure Fields where
  year : Nat
  month : Nat
  day : Nat
  hour : Nat
  min : Nat
  sec : Nat
  offset : Int
  deriving DecidableEq, Repr

/-- Fields that name a real time: a four-digit year, a day that the month has, a clock in range,
and an offset that `Parse` accepts (at most 24 hours). -/
structure Fields.Valid (f : Fields) : Prop where
  year_lt : f.year < 10000
  month_pos : 1 ≤ f.month
  month_le : f.month ≤ 12
  day_pos : 1 ≤ f.day
  day_le : (f.day : Int) ≤ daysIn f.month f.year
  hour_lt : f.hour < 24
  min_lt : f.min < 60
  sec_lt : f.sec < 60
  offset_lt : f.offset.natAbs < 25 * 60

theorem Fields.valid_iff (f : Fields) :
    f.Valid ↔ f.year < 10000 ∧ 1 ≤ f.month ∧ f.month ≤ 12 ∧ 1 ≤ f.day ∧
      (f.day : Int) ≤ daysIn f.month f.year ∧ f.hour < 24 ∧ f.min < 60 ∧ f.sec < 60 ∧
      f.offset.natAbs < 25 * 60 :=
  ⟨fun ⟨h₁, h₂, h₃, h₄, h₅, h₆, h₇, h₈, h₉⟩ => ⟨h₁, h₂, h₃, h₄, h₅, h₆, h₇, h₈, h₉⟩,
    fun ⟨h₁, h₂, h₃, h₄, h₅, h₆, h₇, h₈, h₉⟩ => ⟨h₁, h₂, h₃, h₄, h₅, h₆, h₇, h₈, h₉⟩⟩

instance (f : Fields) : Decidable f.Valid := decidable_of_iff _ f.valid_iff.symm

/-- The time of the fields in UTC. -/
def Fields.time (f : Fields) : GoTime := date f.year f.month f.day f.hour f.min f.sec 0

/-- The time of the fields in their zone. -/
def Fields.zonedTime (f : Fields) : GoTime := f.time.add (-(f.offset * 60) * second)

/-- `appendInt(b, x, width)` of package `time` for `x ≥ 0`: the two- and four-digit cases, and
otherwise the decimal digits padded with zeros to `width`. -/
def appendInt (x width : Nat) : List UInt8 :=
  if width = 2 ∧ x < 100 then [digitByte (x / 10), digitByte (x % 10)]
  else if width = 4 ∧ x < 10000 then
    [digitByte (x / 1000), digitByte (x / 100 % 10), digitByte (x / 10 % 10), digitByte (x % 10)]
  else List.replicate (width - (decimal x).length) 48 ++ decimal x

/-- The sign and the hours and minutes of a zone offset, as `Format` writes `-0700` (`sep = []`)
and `-07:00` (`sep = [':']`). -/
def formatOffset (offset : Int) (sep : List UInt8) : List UInt8 :=
  (if offset < 0 then minus else plus) ::
    (appendInt (offset.natAbs / 60) 2 ++ sep ++ appendInt (offset.natAbs % 60) 2)

/-- What `Format` writes for one chunk. -/
def formatElem (f : Fields) : LayoutElem → List UInt8
  | .lit p => p
  | .longYear => appendInt f.year 4
  | .month => shortMonthNames.getD (f.month - 1) []
  | .zeroMonth => appendInt f.month 2
  | .zeroDay => appendInt f.day 2
  | .hour => appendInt f.hour 2
  | .zeroMinute => appendInt f.min 2
  | .zeroSecond => appendInt f.sec 2
  | .numTZ => formatOffset f.offset []
  | .numColonTZ => formatOffset f.offset [colon]

/-- `t.Format(layout)` for a time whose date and clock in its zone are `f`. -/
def format (f : Fields) (layout : List LayoutElem) : List UInt8 := layout.flatMap (formatElem f)

/-! ## Well-separated layouts -/

/-- A literal chunk as Go's `nextStdChunk` cuts one: not empty, and either one space or text
without spaces. -/
def litOk (p : List UInt8) : Bool := decide (p ≠ [] ∧ (p = [space] ∨ space ∉ p))

/-- The condition on one chunk: literal text is `litOk`. -/
def elemOk : LayoutElem → Bool
  | .lit p => litOk p
  | _ => true

/-- Two chunks that `Parse` reads apart: no two literals in a row (Go makes them one), and no
`.` or `,` right after the seconds (`Parse` would read a fractional second). -/
def pairOk : LayoutElem → LayoutElem → Bool
  | .lit _, .lit _ => false
  | .zeroSecond, .lit (c :: _) => !commaOrPeriod c
  | _, _ => true

/-- A layout whose chunks are `elemOk` and whose neighbours are `pairOk`. -/
def Layout.wf : List LayoutElem → Bool
  | [] => true
  | [e] => elemOk e
  | e :: e' :: layout => elemOk e && pairOk e e' && Layout.wf (e' :: layout)

/-- The text after a chunk does not change how `Parse` reads it: after literal text ending in a
space it does not start with a space, and after the seconds it does not start with a `.` or `,`
and a digit. -/
def Follows : LayoutElem → List UInt8 → Bool
  | .lit p, next => !(p.getLast? == some space && next.head? == some space)
  | .zeroSecond, c :: d :: _ => !(commaOrPeriod c && isDigit d)
  | _, _ => true

/-- The state after `Parse` reads the chunk `e` of `Format`'s text for `f`. -/
def ParseState.setElem (st : ParseState) (f : Fields) : LayoutElem → ParseState
  | .lit _ => st
  | .longYear => { st with year := f.year }
  | .month | .zeroMonth => { st with month := f.month }
  | .zeroDay => { st with day := f.day }
  | .hour => { st with hour := f.hour }
  | .zeroMinute => { st with min := f.min }
  | .zeroSecond => { st with sec := f.sec }
  | .numTZ | .numColonTZ => { st with zoneOffset := f.offset * 60 }

/-! ## Reading back what `Format` writes -/

section RoundTrip

variable {f : Fields} {x : Nat} {rest : List UInt8} {st : ParseState}

/-- Text that starts with a byte that is neither a space nor a `.` or `,`. -/
def startsPlain : List UInt8 → Bool
  | c :: _ => c != space && !commaOrPeriod c
  | [] => false

theorem startsPlain_digitByte {d : Nat} (h : d < 10) (t : List UInt8) :
    startsPlain (digitByte d :: t) = true := by
  have hd := toNat_digitByte h
  have hne : ∀ c : UInt8, c.toNat < 48 → digitByte d ≠ c := fun c hc he => by
    rw [he] at hd
    omega
  simp only [startsPlain, space, commaOrPeriod, bne_iff_ne, ne_eq, Bool.and_eq_true,
    Bool.not_eq_true', Bool.or_eq_false_iff, beq_eq_false_iff_ne]
  exact ⟨hne _ (by decide), hne _ (by decide), hne _ (by decide)⟩

theorem appendInt_two (h : x < 100) : appendInt x 2 = [digitByte (x / 10), digitByte (x % 10)] :=
  if_pos ⟨rfl, h⟩

theorem appendInt_four (h : x < 10000) :
    appendInt x 4 =
      [digitByte (x / 1000), digitByte (x / 100 % 10), digitByte (x / 10 % 10), digitByte (x % 10)] :=
  by simp [appendInt, h]

/-- `appendInt` writes digits, at least one, whose value is `x`. -/
theorem appendInt_spec (x width : Nat) :
    appendInt x width ≠ [] ∧ (∀ c ∈ appendInt x width, isDigit c = true) ∧
      digitsValue (appendInt x width) = x := by
  unfold appendInt
  split
  next h =>
    have h1 : x / 10 < 10 := by omega
    have h2 : x % 10 < 10 := Nat.mod_lt _ (by omega)
    refine ⟨by simp, by simp [h1, h2], ?_⟩
    simp [digitsValue, h1, h2]
    omega
  next =>
    split
    next h =>
      have h1 : x / 1000 < 10 := by omega
      have h2 : x / 100 % 10 < 10 := Nat.mod_lt _ (by omega)
      have h3 : x / 10 % 10 < 10 := Nat.mod_lt _ (by omega)
      have h4 : x % 10 < 10 := Nat.mod_lt _ (by omega)
      refine ⟨by simp, by simp [h1, h2, h3, h4], ?_⟩
      simp [digitsValue, h1, h2, h3, h4]
      omega
    next =>
      refine ⟨by simp [decimal_ne_nil], ?_, by rw [digitsValue_zeros_append, digitsValue_decimal]⟩
      intro c hc
      rcases List.mem_append.1 hc with hc | hc
      · rw [List.eq_of_mem_replicate hc]
        rfl
      · exact isDigit_of_mem_decimal x c hc

theorem getnum_digitBytes {a b : Nat} (ha : a < 10) (hb : b < 10) (fixed : Bool) :
    getnum (digitByte a :: digitByte b :: rest) fixed = some (a * 10 + b, rest) := by
  simp [getnum, ha, hb]

theorem getnum_appendInt (h : x < 100) (fixed : Bool) :
    getnum (appendInt x 2 ++ rest) fixed = some (x, rest) := by
  rw [appendInt_two h, List.cons_append, List.cons_append, List.nil_append,
    getnum_digitBytes (by omega) (Nat.mod_lt _ (by omega))]
  congr 2
  omega

theorem startsPlain_appendInt (h : x < 100) : startsPlain (appendInt x 2 ++ rest) = true := by
  rw [appendInt_two h]
  exact startsPlain_digitByte (by omega) _

/-- `skip` passes over literal text without spaces. -/
theorem skipAux_of_not_mem : ∀ {p : List UInt8} (cut : Bool), space ∉ p →
    skipAux cut (p ++ rest) p = some rest
  | [], _, _ => rfl
  | c :: p, cut, h => by
    have hc : c ≠ space := fun e => h (e ▸ List.mem_cons_self c p)
    simp only [List.cons_append, skipAux, hc, if_false, if_true]
    exact skipAux_of_not_mem false fun hm => h (List.mem_cons_of_mem c hm)

/-- `skip` passes over one space when no other space follows it. -/
theorem skip_space (h : rest.head? ≠ some space) : skip (space :: rest) [space] = some rest := by
  have hcut : cutspace (space :: rest) = rest := by
    cases rest with
    | nil => rfl
    | cons c r =>
      have hc : (c == space) = false := beq_eq_false_iff_ne.2 fun e => h (by rw [e]; rfl)
      simp [cutspace, List.dropWhile, hc]
  simp [skip, skipAux, hcut]

theorem skip_lit {p : List UInt8} (hp : litOk p = true) (hnext : Follows (.lit p) rest = true) :
    skip (p ++ rest) p = some rest := by
  simp only [litOk, decide_eq_true_eq] at hp
  rcases hp.2 with rfl | hp
  · simp only [Follows, List.getLast?_singleton, beq_self_eq_true, Bool.true_and, Bool.not_eq_true',
      beq_eq_false_iff_ne, ne_eq] at hnext
    exact skip_space hnext
  · exact skipAux_of_not_mem false hp

/-- `lookup` of a three-byte name reads the name and leaves what follows it. -/
theorem lookupFrom_append {name : List UInt8} (hname : name.length = 3) :
    ∀ (i : Nat) (tab : List (List UInt8)), (∀ v ∈ tab, v.length = 3) →
      lookupFrom i tab (name ++ rest) = (lookupFrom i tab name).map fun p => (p.1, rest)
  | _, [], _ => rfl
  | i, v :: tab, h => by
    have hv := h v (List.mem_cons_self v tab)
    have htake : (name ++ rest).take 3 = name := by rw [← hname, List.take_left]
    have hdrop : (name ++ rest).drop 3 = rest := by rw [← hname, List.drop_left]
    have htake' : name.take 3 = name := by rw [← hname, List.take_length]
    have hdrop' : name.drop 3 = [] := by rw [← hname, List.drop_length]
    simp only [lookupFrom, hv, htake, hdrop, htake', hdrop', List.length_append, hname,
      Nat.le_add_right, le_refl, true_and]
    by_cases hm : matchFold name v = true
    · simp [hm]
    · simp only [hm, if_false]
      exact lookupFrom_append hname (i + 1) tab fun w hw => h w (List.mem_cons_of_mem v hw)

theorem lookup_shortMonthNames : ∀ m : Fin 12,
    lookupFrom 0 shortMonthNames (shortMonthNames.getD m []) = some ((m : Nat), []) := by decide

theorem startsPlain_append {l : List UInt8} (h : l ≠ []) :
    startsPlain (l ++ rest) = startsPlain l := by
  cases l with
  | nil => exact absurd rfl h
  | cons c l => rfl

theorem shortMonthNames_ne_nil : ∀ m : Fin 12, shortMonthNames.getD m [] ≠ [] := by decide

theorem startsPlain_shortMonthNames : ∀ m : Fin 12, startsPlain (shortMonthNames.getD m []) = true := by
  decide

theorem length_shortMonthNames : ∀ v ∈ shortMonthNames, v.length = 3 := by decide

theorem formatOffset_eq (h : x < 25 * 60) (sep : List UInt8) (o : Int) (ho : o.natAbs = x) :
    formatOffset o sep = (if o < 0 then minus else plus) ::
      ([digitByte (x / 60 / 10), digitByte (x / 60 % 10)] ++ sep ++
        [digitByte (x % 60 / 10), digitByte (x % 60 % 10)]) := by
  rw [formatOffset, ho, appendInt_two (by omega), appendInt_two (by omega)]

theorem zoneOffsetOf_format {o : Int} (h : o.natAbs < 25 * 60) :
    zoneOffsetOf (if o < 0 then minus else plus)
        [digitByte (o.natAbs / 60 / 10), digitByte (o.natAbs / 60 % 10)]
        [digitByte (o.natAbs % 60 / 10), digitByte (o.natAbs % 60 % 10)] = some (o * 60) := by
  have h1 : getnum [digitByte (o.natAbs / 60 / 10), digitByte (o.natAbs / 60 % 10)] true =
      some (o.natAbs / 60 / 10 * 10 + o.natAbs / 60 % 10, []) :=
    getnum_digitBytes (by omega) (by omega) true
  have h2 : getnum [digitByte (o.natAbs % 60 / 10), digitByte (o.natAbs % 60 % 10)] true =
      some (o.natAbs % 60 / 10 * 10 + o.natAbs % 60 % 10, []) :=
    getnum_digitBytes (by omega) (by omega) true
  simp only [zoneOffsetOf, h1, h2]
  rw [if_neg (by omega)]
  split
  next hneg =>
    simp only [show minus ≠ plus by decide, if_false, if_true]
    congr 1
    omega
  next hpos =>
    simp only [if_true]
    congr 1
    omega

theorem length_shortMonthNames_getD : ∀ m : Fin 12, (shortMonthNames.getD m []).length = 3 := by
  decide

theorem daysIn_le_31 {m y : Int} (h1 : 1 ≤ m) (h2 : m ≤ 12) : daysIn m y ≤ 31 := by
  have htab : ∀ i : Fin 12, daysBefore.getD (i + 1) 0 - daysBefore.getD i 0 ≤ 31 := by decide
  unfold daysIn
  split
  · omega
  · have := htab ⟨(m - 1).toNat, by omega⟩
    simp only at this
    rwa [show (m - 1).toNat + 1 = m.toNat by omega] at this

/-- `Parse` reads back the text that `Format` writes for one chunk, and leaves what follows. -/
theorem parseElem_format (hf : f.Valid) {e : LayoutElem} (he : elemOk e = true)
    (hnext : Follows e rest = true) (st : ParseState) :
    parseElem e (formatElem f e ++ rest) st = some (rest, st.setElem f e) := by
  have hday : f.day < 100 := by
    have := daysIn_le_31 (m := f.month) (y := f.year) (by exact_mod_cast hf.month_pos)
      (by exact_mod_cast hf.month_le)
    have := hf.day_le
    omega
  cases e with
  | lit p => simp [parseElem, formatElem, skip_lit he hnext, ParseState.setElem]
  | longYear =>
    have hy := hf.year_lt
    have h1 : f.year / 1000 < 10 := by omega
    have h2 : f.year / 100 % 10 < 10 := Nat.mod_lt _ (by omega)
    have h3 : f.year / 10 % 10 < 10 := Nat.mod_lt _ (by omega)
    have h4 : f.year % 10 < 10 := Nat.mod_lt _ (by omega)
    simp only [formatElem, appendInt_four hy, parseElem, ParseState.setElem]
    simp [h1, h2, h3, h4, digitsValue]
    omega
  | month =>
    have hm : f.month - 1 < 12 := by have := hf.month_le; omega
    have hlen := length_shortMonthNames_getD ⟨f.month - 1, hm⟩
    simp only at hlen
    simp only [formatElem, parseElem, lookupFrom_append hlen 0 _ length_shortMonthNames,
      lookup_shortMonthNames ⟨f.month - 1, hm⟩, ParseState.setElem, Option.map_some']
    have := hf.month_pos
    congr 3
    omega
  | zeroMonth =>
    have := hf.month_pos
    have := hf.month_le
    simp only [formatElem, parseElem, getnum_appendInt (show f.month < 100 by omega),
      ParseState.setElem]
    rw [if_neg (by omega)]
  | zeroDay => simp [formatElem, parseElem, getnum_appendInt hday, ParseState.setElem]
  | hour =>
    have := hf.hour_lt
    simp only [formatElem, parseElem, getnum_appendInt (show f.hour < 100 by omega),
      ParseState.setElem]
    rw [if_neg (by omega)]
  | zeroMinute =>
    have := hf.min_lt
    simp only [formatElem, parseElem, getnum_appendInt (show f.min < 100 by omega),
      ParseState.setElem]
    rw [if_neg (by omega)]
  | zeroSecond =>
    have := hf.sec_lt
    simp only [formatElem, parseElem, getnum_appendInt (show f.sec < 100 by omega),
      ParseState.setElem]
    rw [if_neg (by omega)]
    match rest, hnext with
    | c :: d :: r, hnext =>
      simp only [Follows, Bool.not_eq_true'] at hnext
      simp [hnext]
    | [], _ => rfl
    | [_], _ => rfl
  | numTZ =>
    have ho := hf.offset_lt
    rw [formatElem, formatOffset_eq ho [] f.offset rfl]
    simp only [List.cons_append, List.nil_append, List.append_nil, parseElem,
      zoneOffsetOf_format ho, Option.map_some', ParseState.setElem]
  | numColonTZ =>
    have ho := hf.offset_lt
    rw [formatElem, formatOffset_eq ho [colon] f.offset rfl]
    simp only [List.cons_append, List.singleton_append, List.nil_append, parseElem,
      zoneOffsetOf_format ho, Option.map_some', ParseState.setElem, if_true]

theorem startsPlain_formatOffset (o : Int) (sep t : List UInt8) :
    startsPlain (formatOffset o sep ++ t) = true := by
  unfold formatOffset
  split <;> rfl

/-- `Format`'s text for a chunk other than literal text starts with a digit, a letter or a
sign. -/
theorem startsPlain_formatElem (hf : f.Valid) {e : LayoutElem} (he : ∀ p, e ≠ .lit p)
    (t : List UInt8) : startsPlain (formatElem f e ++ t) = true := by
  have hday : f.day < 100 := by
    have := daysIn_le_31 (m := f.month) (y := f.year) (by exact_mod_cast hf.month_pos)
      (by exact_mod_cast hf.month_le)
    have := hf.day_le
    omega
  cases e with
  | lit p => exact absurd rfl (he p)
  | longYear =>
    rw [formatElem, appendInt_four hf.year_lt]
    exact startsPlain_digitByte (by have := hf.year_lt; omega) _
  | month =>
    have hm : f.month - 1 < 12 := by have := hf.month_le; omega
    rw [formatElem, startsPlain_append (shortMonthNames_ne_nil ⟨_, hm⟩)]
    exact startsPlain_shortMonthNames ⟨_, hm⟩
  | zeroMonth => exact startsPlain_appendInt (by have := hf.month_le; omega)
  | zeroDay => exact startsPlain_appendInt hday
  | hour => exact startsPlain_appendInt (by have := hf.hour_lt; omega)
  | zeroMinute => exact startsPlain_appendInt (by have := hf.min_lt; omega)
  | zeroSecond => exact startsPlain_appendInt (by have := hf.sec_lt; omega)
  | numTZ => exact startsPlain_formatOffset _ _ _
  | numColonTZ => exact startsPlain_formatOffset _ _ _

theorem follows_of_startsPlain (e : LayoutElem) {next : List UInt8}
    (h : startsPlain next = true) : Follows e next = true := by
  obtain ⟨c, t, rfl⟩ : ∃ c t, next = c :: t := by
    cases next with
    | nil => exact absurd h (by decide)
    | cons c t => exact ⟨c, t, rfl⟩
  simp only [startsPlain, bne_iff_ne, ne_eq, Bool.and_eq_true, Bool.not_eq_true'] at h
  cases e with
  | lit p => simp [Follows, h.1]
  | zeroSecond =>
    cases t with
    | nil => rfl
    | cons d t => simp [Follows, h.2]
  | _ => rfl

/-- On neighbours that `pairOk` allows, the text of the next chunk does not change how `Parse`
reads a chunk. -/
theorem follows_of_pairOk (hf : f.Valid) {e e' : LayoutElem} (hpair : pairOk e e' = true)
    (he' : elemOk e' = true) (t : List UInt8) : Follows e (formatElem f e' ++ t) = true := by
  by_cases hlit : ∀ p, e' ≠ .lit p
  · exact follows_of_startsPlain e (startsPlain_formatElem hf hlit t)
  · push_neg at hlit
    obtain ⟨p, rfl⟩ := hlit
    simp only [elemOk, litOk, decide_eq_true_eq] at he'
    obtain ⟨c, p, rfl⟩ := List.exists_cons_of_ne_nil he'.1
    cases e with
    | lit q => simp [pairOk] at hpair
    | zeroSecond =>
      simp only [pairOk, Bool.not_eq_true'] at hpair
      cases p with
      | nil => cases t with
        | nil => rfl
        | cons d t => simp [formatElem, Follows, hpair]
      | cons d p => simp [formatElem, Follows, hpair]
    | _ => rfl

theorem elemOk_of_wf {e : LayoutElem} {layout : List LayoutElem} (h : Layout.wf (e :: layout) = true) :
    elemOk e = true := by
  cases layout with
  | nil => exact h
  | cons e' layout =>
    simp only [Layout.wf, Bool.and_eq_true] at h
    exact h.1.1

/-- `Parse`'s loop reads back, chunk by chunk, what `Format` writes for a well-separated
layout. -/
theorem parseLoop_format (hf : f.Valid) : ∀ (layout : List LayoutElem) (rest : List UInt8)
    (st : ParseState), Layout.wf layout = true →
    (∀ e, layout.getLast? = some e → Follows e rest = true) →
    parseLoop layout (format f layout ++ rest) st =
      some (rest, layout.foldl (fun st e => st.setElem f e) st)
  | [], _, _, _, _ => rfl
  | [e], rest, st, hwf, hlast => by
    simp only [format, List.flatMap_cons, List.flatMap_nil, List.append_nil, parseLoop,
      parseElem_format hf hwf (hlast e rfl), List.foldl]
  | e :: e' :: layout, rest, st, hwf, hlast => by
    simp only [Layout.wf, Bool.and_eq_true] at hwf
    obtain ⟨⟨he, hpair⟩, hwf'⟩ := hwf
    have hnext := follows_of_pairOk hf hpair (elemOk_of_wf hwf') (format f layout ++ rest)
    have htext : format f (e :: e' :: layout) ++ rest =
        formatElem f e ++ (formatElem f e' ++ (format f layout ++ rest)) := by
      simp [format, List.append_assoc]
    rw [htext, parseLoop, parseElem_format hf he hnext]
    have := parseLoop_format hf (e' :: layout) rest (st.setElem f e) hwf' (by simpa using hlast)
    simpa [format, List.append_assoc] using this

theorem follows_nil (e : LayoutElem) : Follows e [] = true := by
  cases e <;> simp [Follows]

/-- After a loop that set every field, `Parse` returns `Date` of the fields, shifted by the zone
offset when the layout has one. -/
theorem parse_of_parseLoop {layout : List LayoutElem} {value : List UInt8} (hf : f.Valid) {z : Int}
    (h : parseLoop layout value ParseState.init =
      some ([], ⟨f.year, f.month, f.day, f.hour, f.min, f.sec, 0, z⟩)) :
    parse layout value = some (if z ≠ -1 then f.time.add (-z * second) else f.time) := by
  have := hf.day_le
  have hm : ¬(f.month : Int) < 0 := by omega
  have hd : ¬(f.day : Int) < 0 := by omega
  have hv : ¬((f.day : Int) < 1 ∨ daysIn f.month f.year < f.day) := by have := hf.day_pos; omega
  simp only [parse, h, Option.some_bind, parseEnd, ne_eq, not_true_eq_false, if_false, hm, hd, hv]
  split <;> rfl

/-- A date and a clock apart by one byte make a well-separated layout. -/
theorem wf_dateClockLayout (p : UInt8) : Layout.wf (dateClockLayout [p]) = true := by
  have hp : litOk [p] = true := by
    by_cases hsp : p = space
    · subst hsp; rfl
    · simp [litOk, hsp, Ne.symm hsp]
  have hd : litOk (ascii "-") = true := by decide
  have hc : litOk (ascii ":") = true := by decide
  simp [Layout.wf, dateClockLayout, elemOk, pairOk, hp, hd, hc]

/-- `Parse` reads back every valid date and clock that `Format` writes with a date, a one-byte
separator and a clock. -/
theorem parse_format_dateClock (p : UInt8) (hf : f.Valid) :
    parse (dateClockLayout [p]) (format f (dateClockLayout [p])) = some f.time := by
  have h := parseLoop_format hf (dateClockLayout [p]) [] ParseState.init (wf_dateClockLayout p)
    fun e _ => follows_nil e
  rw [List.append_nil] at h
  exact parse_of_parseLoop hf (z := -1) h

/-- `ConvertDatetimeString`'s layout reads back every valid time that `Format` writes with it,
zone offset included. -/
theorem parse_format_rfc3339 (hf : f.Valid) :
    parse rfc3339Layout (format f rfc3339Layout) = some f.zonedTime := by
  have h := parseLoop_format hf rfc3339Layout [] ParseState.init (by decide) fun e _ => follows_nil e
  rw [List.append_nil] at h
  rw [parse_of_parseLoop hf (z := f.offset * 60) h, if_pos (by omega)]
  rfl

/-- `ConvertAccessLogDatetimeString`'s layout reads back every valid time that `Format` writes
with it, zone offset included. -/
theorem parse_format_accessLog (hf : f.Valid) :
    parse accessLogLayout (format f accessLogLayout) = some f.zonedTime := by
  have h := parseLoop_format hf accessLogLayout [] ParseState.init (by decide)
    fun e _ => follows_nil e
  rw [List.append_nil] at h
  rw [parse_of_parseLoop hf (z := f.offset * 60) h, if_pos (by omega)]
  rfl

end RoundTrip

end Klogproc.Go
