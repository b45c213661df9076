import Klogproc.Go.Dynamic
import Klogproc.Go.Time

/-!
# The request arguments of KonText records

Two record types of this repository read KonText's JSON log lines: `kontext018.InputRecord`
(`src/unnamed/part_003`) and `fetch.LogRecord` (`src/conversion/conversion.go`), which
`ImportJSONLog` fills with `json.Unmarshal`.  Both keep the request's arguments as a
`map[string]interface{}` and read them with type switches.

* `stringOf` and `intOf` are the two type switches, `case string` and `case int`, on `m[name]`;
  `getStringParam`, `getIntParam` and `getIntArg` are those switches on each record's map.
* `getStringArg` is `GetStringArg(names...)`, a loop over a path of keys through nested maps.
* `getAlignedCorpora` is `GetAlignedCorpora` with `getSliceOfStrings`, which writes each
  element of the `corpora` array with `%v`.
* `getTime` is `GetTime` of a kontext 0.18 record: `getTime_eq_panic_iff`, it panics exactly on
  a processable record whose date is empty.
-/

namespace Klogproc.Kontext

open Klogproc.Go

/-! ## The two type switches -/

/-- `switch v := m[name].(type) { case string: return v }; return ""`. -/
def stringOf (m : List (List UInt8 × Any)) (name : List UInt8) : List UInt8 :=
  match mapIndex m name with
  | .string v => v
  | _ => []

/-- `switch v := m[name].(type) { case int: return v }; return -1`. -/
def intOf (m : List (List UInt8 × Any)) (name : List UInt8) : Int :=
  match mapIndex m name with
  | .int v => v
  | _ => -1

/-! ## `fetch.LogRecord` -/

/-- `Request` of a `fetch.LogRecord`. -/
structure FetchRequest where
  httpForwardedFor : List UInt8
  httpUserAgent : List UInt8
  httpRemoteAddr : List UInt8
  remoteAddr : List UInt8

/-- The fields of a `fetch.LogRecord` that its methods read. -/
structure LogRecord where
  date : List UInt8
  request : FetchRequest
  params : List (List UInt8 × Any)

/-- `GetStringParam(name)`. -/
def getStringParam (rec : LogRecord) (name : List UInt8) : List UInt8 := stringOf rec.params name

/-- `GetIntParam(name)`. -/
def getIntParam (rec : LogRecord) (name : List UInt8) : Int := intOf rec.params name

/-! ## `kontext018.InputRecord` -/

/-- `Request` of a kontext 0.18 record, without `HTTP_X_IS_WEB_APP`, which no method reads. -/
structure Request where
  httpForwardedFor : List UInt8
  httpUserAgent : List UInt8
  httpRemoteAddr : List UInt8
  remoteAddr : List UInt8

/-- The fields of a kontext 0.18 `InputRecord` that its methods read. -/
structure InputRecord where
  date : List UInt8
  action : List UInt8
  request : Request
  args : List (List UInt8 × Any)
  isProcessable : Bool

/-- `GetIntArg(name)`. -/
def getIntArg (rec : InputRecord) (name : List UInt8) : Int := intOf rec.args name

/-- `HasArg(name)`. -/
def hasArg (rec : InputRecord) (name : List UInt8) : Bool := mapHas rec.args name

/-- The loop of `GetStringArg` from the value `val` over the keys left, and its type switch. -/
def getStringArgLoop : Any → List (List UInt8) → List UInt8
  | .string v, [] => v
  | _, [] => []
  | .map valmap, name :: names => getStringArgLoop (mapIndex valmap name) names
  | _, _ :: _ => []

/-- `GetStringArg(names...)`. -/
def getStringArg (rec : InputRecord) (names : List (List UInt8)) : List UInt8 :=
  getStringArgLoop (.map rec.args) names

/-- `getSliceOfStrings(data, key)`: the elements of the array `data[key]` written with `%v`,
with `formatFloat` for a `float64`, and whether `data[key]` is an array. -/
def getSliceOfStrings (formatFloat : UInt64 → List UInt8) (data : Any) (key : List UInt8) :
    List (List UInt8) × Bool :=
  match data with
  | .map v =>
    match mapLookup v key with
    | some (.slice v3) => (formatList formatFloat v3, true)
    | _ => ([], false)
  | _ => ([], false)

/-- `GetAlignedCorpora()`: the corpora after the first. -/
def getAlignedCorpora (formatFloat : UInt64 → List UInt8) (rec : InputRecord) :
    List (List UInt8) :=
  let corpora := (getSliceOfStrings formatFloat (.map rec.args) (ascii "corpora")).1
  if corpora.length > 0 then corpora.drop 1 else []

/-- `ShouldBeAnalyzed()`. -/
def shouldBeAnalyzed (rec : InputRecord) : Bool :=
  rec.action = ascii "query_submit" || rec.action = ascii "create_view" ||
    rec.action = ascii "create_lazy_view" || rec.action = ascii "wordlist/submit"

/-- The two functions of package `servicelog` that `GetTime` calls, which are not in this
repository. -/
structure TimeLib where
  /-- `ConvertDatetimeStringWithMillisNoTZ`. -/
  convertWithMillisNoTZ : List UInt8 → GoTime
  /-- `ConvertDatetimeStringWithMillis`. -/
  convertWithMillis : List UInt8 → GoTime

/-- `GetTime()`: `rec.Date[len(rec.Date)-1]` panics on an empty date. -/
def getTime (lib : TimeLib) (rec : InputRecord) : Result Empty GoTime :=
  if rec.isProcessable then do
    let last ← index rec.date (rec.date.length - 1)
    if last = 90 then
      let d ← slice rec.date 0 (rec.date.length - 1)
      pure (lib.convertWithMillisNoTZ (d ++ ascii "000"))
    else pure (lib.convertWithMillis rec.date)
  else pure GoTime.zero

/-! ## What the records read -/

/-- `GetTime` panics exactly on a processable record whose date is empty. -/
theorem getTime_eq_panic_iff (lib : TimeLib) (rec : InputRecord) :
    getTime lib rec = .panic ↔ rec.isProcessable = true ∧ rec.date = [] := by
  unfold getTime
  by_cases hp : rec.isProcessable
  · by_cases hd : rec.date = []
    · simp [hp, hd, index, Result.panic_bind]
    · simp only [hp, if_true, index_last hd, Result.ok_bind, hd, and_false, iff_false]
      split <;> simp [slice_zero_last hd, Result.ok_bind, Result.pure_eq]
  · simp [hp, Result.pure_eq]

end Klogproc.Kontext
