import Klogproc.Kontext.Record
import Klogproc.Conversion.DatetimePattern

/-!
# The client and the time of a KonText record

`fetch.LogRecord` (`src/conversion/conversion.go`) tells the time of a request, the address of
its client and whether the client is a robot; `kontext018.InputRecord` (`src/unnamed/part_003`)
finds the client's address the same way.

* `LogRecord.getTime` is `GetTime`: the pattern `^(\d{4}-\d{2}-\d{2}T[012]\d:[0-5]\d:[0-5]\d)\.\d+`
  is the date-and-clock pattern of `Klogproc.Conversion.DatetimePattern`, and its group is read
  with `2006-01-02T15:04:05`.  `LogRecord.dateTime_eq_some_iff`: the dates it reads are exactly a
  valid time as `Format` writes it with that layout, a `.` and a digit; the fraction of a second
  is dropped, as the comment on `GetTime` says, and every other date gives `time.Time{}`.
* `clientIP` is the choice that both records' `GetClientIP` make, with `net.ParseIP` as a
  parameter; they differ in what they return for a record with no address.
* `LogRecord.agentIsBot`, `agentIsMonitor` and `agentIsLoggable` test the lower-cased user agent
  with `strings.Index`.  `strings.ToLower` is exact on ASCII text; on other text it applies
  Unicode's case tables, which are the parameter `lowerRunes`.
-/

namespace Klogproc.Kontext

open Klogproc.Go Klogproc.Conversion

/-! ## `GetTime` -/

/-- The time that the two `if`s of `LogRecord.GetTime` read: the group of
`^(\d{4}-\d{2}-\d{2}T[012]\d:[0-5]\d:[0-5]\d)\.\d+` parsed with `"2006-01-02T15:04:05"`. -/
def LogRecord.dateTime (rec : LogRecord) : Option GoTime :=
  (findDateClock (· == 84) (· == 46) rec.date).bind (parse fetchLayout)

/-- `LogRecord.GetTime()`: the time of the date, or `time.Time{}`. -/
def LogRecord.getTime (rec : LogRecord) : GoTime := rec.dateTime.getD GoTime.zero

/-- The dates that `GetTime` reads are exactly those that start with a valid date and clock as
`Format` writes them with `2006-01-02T15:04:05`, then a `.` and a digit; the time it reads is
theirs, truncated to the second. -/
theorem LogRecord.dateTime_eq_some_iff (rec : LogRecord) (t : GoTime) :
    rec.dateTime = some t ↔ ∃ (f : Fields) (d : UInt8) (rest : List UInt8), f.Valid ∧
      isDigit d = true ∧ rec.date = format f fetchLayout ++ 46 :: d :: rest ∧ t = f.time := by
  have hT : ascii "T" = [84] := rfl
  rw [LogRecord.dateTime, fetchLayout, hT, dateClockTime_eq_some_iff (p := 84) rfl]
  constructor
  · rintro ⟨f, c, d, rest, hf, hc, hd, hdate, rfl⟩
    rw [beq_iff_eq] at hc
    subst hc
    exact ⟨f, d, rest, hf, hd, hdate, rfl⟩
  · rintro ⟨f, d, rest, hf, hd, hdate, rfl⟩
    exact ⟨f, 46, d, rest, hf, rfl, hd, hdate, rfl⟩

/-! ## `GetClientIP` -/

/-- The address that `GetClientIP` returns: `net.ParseIP` (the parameter `parseIP`, `none` for
`nil`) of the first non-empty of `HTTP_X_FORWARDED_FOR`, `HTTP_REMOTE_ADDR` and `REMOTE_ADDR`,
and `fallback` when all three are empty. -/
def clientIP (parseIP : List UInt8 → Option (List UInt8)) (fallback : Option (List UInt8))
    (forwardedFor httpRemoteAddr remoteAddr : List UInt8) : Option (List UInt8) :=
  if forwardedFor ≠ [] then parseIP forwardedFor
  else if httpRemoteAddr ≠ [] then parseIP httpRemoteAddr
  else if remoteAddr ≠ [] then parseIP remoteAddr
  else fallback

/-- `LogRecord.GetClientIP()` of package `fetch`: `make([]byte, 0)` when no address is set. -/
def LogRecord.getClientIP (parseIP : List UInt8 → Option (List UInt8)) (rec : LogRecord) :
    Option (List UInt8) :=
  clientIP parseIP (some []) rec.request.httpForwardedFor rec.request.httpRemoteAddr
    rec.request.remoteAddr

/-- `InputRecord.GetClientIP()` of package `kontext018`: `nil` when no address is set. -/
def InputRecord.getClientIP (parseIP : List UInt8 → Option (List UInt8)) (rec : InputRecord) :
    Option (List UInt8) :=
  clientIP parseIP none rec.request.httpForwardedFor rec.request.httpRemoteAddr
    rec.request.remoteAddr

/-! ## `AgentIsBot`, `AgentIsMonitor` and `AgentIsLoggable` -/

/-- `unicode.ToLower` of an ASCII byte. -/
def lowerAscii (c : UInt8) : UInt8 := if 65 ≤ c ∧ c ≤ 90 then c + 32 else c

/-- `strings.ToLower(s)`: byte by byte on ASCII text, and `Map(unicode.ToLower, s)`, the
parameter `lowerRunes`, on any other text. -/
def toLower (lowerRunes : List UInt8 → List UInt8) (s : List UInt8) : List UInt8 :=
  if s.all (· < 128) then s.map lowerAscii else lowerRunes s

/-- `AgentIsBot()`. -/
def LogRecord.agentIsBot (lowerRunes : List UInt8 → List UInt8) (rec : LogRecord) : Bool :=
  let agentStr := toLower lowerRunes rec.request.httpUserAgent
  stringsIndex agentStr (ascii "googlebot") > -1 ||
    stringsIndex agentStr (ascii "ahrefsbot") > -1 ||
    stringsIndex agentStr (ascii "yandexbot") > -1 ||
    stringsIndex agentStr (ascii "yahoo") > -1 && stringsIndex agentStr (ascii "slurp") > -1 ||
    stringsIndex agentStr (ascii "baiduspider") > -1 ||
    stringsIndex agentStr (ascii "seznambot") > -1 ||
    stringsIndex agentStr (ascii "bingbot") > -1 ||
    stringsIndex agentStr (ascii "megaindex.ru") > -1 ||
    stringsIndex agentStr (ascii "duckduckbot") > -1 ||
    stringsIndex agentStr (ascii "ia_archiver") > -1

/-- `AgentIsMonitor()`. -/
def LogRecord.agentIsMonitor (lowerRunes : List UInt8 → List UInt8) (rec : LogRecord) : Bool :=
  let agentStr := toLower lowerRunes rec.request.httpUserAgent
  stringsIndex agentStr (ascii "python-urllib/2.7") > -1 ||
    stringsIndex agentStr (ascii "zabbix-test") > -1

/-- `AgentIsLoggable()`. -/
def LogRecord.agentIsLoggable (lowerRunes : List UInt8 → List UInt8) (rec : LogRecord) : Bool :=
  !rec.agentIsBot lowerRunes && !rec.agentIsMonitor lowerRunes

end Klogproc.Kontext
