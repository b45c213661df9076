import Klogproc.Conversion.Values

/-!
# The transformer of Treq's API log

`treqapi.Transformer` (`src/unnamed/part_002`) turns a record of Treq's API log into the record
written to the database.  The user ID of a log record is text: `-` for a user who was not logged
in, a decimal number otherwise.

* `transform` is `Transform` on a `*treqapi.InputRecord` (on any other record the type assertion
  panics).  It reads the user ID with `strconv.Atoi` (`Go.atoi`), keeps its text in the output,
  and fails with `failed to convert user ID '...': ` and the error of `Atoi` when `Atoi` rejects
  it.  `SetTime` and `GenerateDeterministicID` of package `treq`, which is not in this
  repository, are the parameters of `TreqLib`.
* `transform_eq_error_iff`: `Transform` fails exactly on a user ID other than `-` that `Atoi`
  rejects, and its message has the ID twice, once as it is and once as `strconv.Quote` writes it
  in `Atoi`'s error.
* `transform_itoa`: for every `int64` user ID that `strconv.Itoa` writes (`Go.atoi_itoa` reads it
  back), `Transform` succeeds, and the record is anonymous exactly when the ID is `-1` or one of
  `AnonymousUsers`.
* `preprocess` is `Preprocess`: it drops the records that `ExcludeIPList.Excludes` (a parameter)
  excludes, and passes every other record on alone.
-/

namespace Klogproc.Treq

open Klogproc.Go Klogproc.Conversion

/-- The fields of a `treqapi.InputRecord` that `Transform` reads (`isLemma` is `Lemma`, a word
that Lean keeps); `time` is what `GetTime()` returns. -/
structure InputRecord where
  userID : List UInt8
  fromLang : List UInt8
  toLang : List UInt8
  ip : List UInt8
  regex : Bool
  ci : Bool
  multiword : Bool
  isLemma : Bool
  time : GoTime
  deriving DecidableEq, Repr

/-- A `treq.OutputRecord`, with the time and the date text that `SetTime` stores. -/
structure OutputRecord where
  id : List UInt8
  type : List UInt8
  isAPI : Bool
  qLang : List UInt8
  secondLang : List UInt8
  ipAddress : List UInt8
  userID : List UInt8
  isAnonymous : Bool
  isRegexp : Bool
  isCaseInsen : Bool
  isMultiWord : Bool
  isLemma : Bool
  time : GoTime
  datetime : List UInt8
  deriving DecidableEq, Repr

/-- The two methods of `treq.OutputRecord` that `Transform` calls, which are not in this
repository. -/
structure TreqLib where
  /-- `SetTime(t, tzShiftMin)`: the time and the date text it stores. -/
  setTime : GoTime → Int → GoTime × List UInt8
  /-- `GenerateDeterministicID()`. -/
  generateDeterministicID : OutputRecord → List UInt8

/-- The fields of a `treqapi.Transformer`: `ExcludeIPList.Excludes` and `AnonymousUsers`. -/
structure Transformer where
  excludes : InputRecord → Bool
  anonymousUsers : List Int

/-- The error of `Transform`: `fmt.Errorf("failed to convert user ID '%s': %w", ...)`. -/
structure TransformError where
  userID : List UInt8
  err : NumError
  deriving DecidableEq, Repr

/-- The text of a `TransformError`; `%w` writes the wrapped error's text. -/
def TransformError.message (printTables : Nat → Bool) (e : TransformError) : List UInt8 :=
  ascii "failed to convert user ID '" ++ e.userID ++ ascii "': " ++ e.err.message printTables

/-- `Transform(logRecord, tzShiftMin)` on a `*treqapi.InputRecord`. -/
def transform (lib : TreqLib) (t : Transformer) (tLogRecord : InputRecord) (tzShiftMin : Int) :
    Except TransformError OutputRecord := do
  let userID ← if tLogRecord.userID ≠ ascii "-" then
      match atoi tLogRecord.userID with
      | .ok uid => pure uid
      | .error err => throw ⟨tLogRecord.userID, err⟩
    else pure (-1)
  let out : OutputRecord :=
    { id := [], type := ascii "treq", isAPI := true, qLang := tLogRecord.fromLang,
      secondLang := tLogRecord.toLang, ipAddress := tLogRecord.ip, userID := tLogRecord.userID,
      isAnonymous := userID == -1 || userBelongsToList userID t.anonymousUsers,
      isRegexp := tLogRecord.regex, isCaseInsen := tLogRecord.ci,
      isMultiWord := tLogRecord.multiword, isLemma := tLogRecord.isLemma, time := GoTime.zero,
      datetime := [] }
  let stamp := lib.setTime tLogRecord.time tzShiftMin
  let out := { out with time := stamp.1, datetime := stamp.2 }
  pure { out with id := lib.generateDeterministicID out }

/-- `Preprocess(rec, prevRecs)`: no record for an excluded address, the record itself
otherwise. -/
def preprocess (t : Transformer) (rec : InputRecord) : List InputRecord :=
  if t.excludes rec then [] else [rec]

/-- A `TreqLib` that stores the time as it is and no date text, with the empty ID. -/
def plainLib : TreqLib := ⟨fun t _ => (t, []), fun _ => []⟩

/-- A record of the user `-1`. -/
def minusOneRecord : InputRecord := ⟨ascii "-1", [], [], [], false, false, false, false, GoTime.zero⟩

/-- The user ID that `Transform` reads, or its error. -/
def readUserID (s : List UInt8) : Except TransformError Int :=
  if s ≠ ascii "-" then
    match atoi s with
    | .ok uid => .ok uid
    | .error err => .error ⟨s, err⟩
  else .ok (-1)

/-- `Transform` is the reading of the user ID followed by the making of the record. -/
theorem transform_eq_bind (lib : TreqLib) (t : Transformer) (rec : InputRecord) (tz : Int) :
    transform lib t rec tz = (readUserID rec.userID).map fun userID =>
      let out : OutputRecord :=
        { id := [], type := ascii "treq", isAPI := true, qLang := rec.fromLang,
          secondLang := rec.toLang, ipAddress := rec.ip, userID := rec.userID,
          isAnonymous := userID == -1 || userBelongsToList userID t.anonymousUsers,
          isRegexp := rec.regex, isCaseInsen := rec.ci, isMultiWord := rec.multiword,
          isLemma := rec.isLemma, time := (lib.setTime rec.time tz).1,
          datetime := (lib.setTime rec.time tz).2 }
      { out with id := lib.generateDeterministicID out } := by
  unfold transform readUserID
  split
  · split <;> rfl
  · rfl

/-- `Transform` fails exactly on a user ID other than `-` that `Atoi` rejects; the message quotes
the user ID and gives `Atoi`'s error, which quotes it again. -/
theorem transform_eq_error_iff (printTables : Nat → Bool) (lib : TreqLib) (t : Transformer)
    (rec : InputRecord) (tz : Int) (e : TransformError) :
    transform lib t rec tz = .error e ↔
      rec.userID ≠ ascii "-" ∧ atoi rec.userID = .error e.err ∧ e.userID = rec.userID ∧
        e.message printTables = ascii "failed to convert user ID '" ++ rec.userID ++
          ascii "': strconv.Atoi: parsing " ++ quote printTables rec.userID ++ ascii ": " ++
          e.err.err.message := by
  rw [transform_eq_bind, readUserID]
  by_cases hdash : rec.userID = ascii "-"
  · simp [hdash, Except.map]
  · simp only [ne_eq, hdash, not_false_eq_true, if_true, true_and]
    cases hatoi : atoi rec.userID with
    | ok uid => simp [Except.map]
    | error err =>
      obtain ⟨hfunc, hnum⟩ := atoi_error hatoi
      constructor
      · intro h
        cases h
        refine ⟨rfl, rfl, ?_⟩
        simp only [TransformError.message, NumError.message, hfunc, hnum, List.append_assoc]
        rfl
      · rintro ⟨herr, hid, -⟩
        obtain ⟨uid, err'⟩ := e
        cases herr
        cases hid
        rfl

theorem itoa_ne_dash (n : Int) : itoa n ≠ ascii "-" := by
  unfold itoa
  split
  · intro h
    exact decimal_ne_nil _ (List.cons_injective h)
  · intro h
    have hd := isDigit_of_mem_decimal n.natAbs minus (by rw [h]; exact List.mem_singleton_self _)
    exact absurd hd (by decide)

/-- For every `int64` user ID that `strconv.Itoa` writes, `Transform` succeeds, keeps the text,
and makes the record anonymous exactly when the ID is `-1` or one of the anonymous users. -/
theorem transform_itoa (lib : TreqLib) (t : Transformer) (rec : InputRecord) (tz : Int) {n : Int}
    (h₁ : -9223372036854775808 ≤ n) (h₂ : n < 9223372036854775808) :
    ∃ out, transform lib t { rec with userID := itoa n } tz = .ok out ∧ out.userID = itoa n ∧
      (out.isAnonymous = true ↔ n = -1 ∨ n ∈ t.anonymousUsers) := by
  rw [transform_eq_bind, readUserID, if_pos (itoa_ne_dash n), atoi_itoa h₁ h₂]
  exact ⟨_, rfl, rfl, by simp [userBelongsToList]⟩

theorem transform_itoa_sample :
    (-9223372036854775808 ≤ (7 : Int) ∧ (7 : Int) < 9223372036854775808) ∧
      ∃ out, transform plainLib ⟨fun _ => false, [7]⟩ { minusOneRecord with userID := itoa 7 } 0 =
          .ok out ∧ out.userID = itoa 7 ∧ (out.isAnonymous = true ↔ (7 : Int) = -1 ∨ (7 : Int) ∈ [7]) :=
  have h₁ : -9223372036854775808 ≤ (7 : Int) := by decide
  have h₂ : (7 : Int) < 9223372036854775808 := by decide
  ⟨⟨h₁, h₂⟩, transform_itoa plainLib ⟨fun _ => false, [7]⟩ minusOneRecord 0 h₁ h₂⟩

end Klogproc.Treq
