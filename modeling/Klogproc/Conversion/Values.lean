import Klogproc.Go.TimeParse

/-!
# The value conversions of package `conversion`

`conversion/conversion.go` gives the helpers that the transformers use to read configuration and
log values: `UserBelongsToList`, `TimezoneToInt`, `ImportBool`, `ConvertDatetimeString` and
`ConvertAccessLogDatetimeString`.

* `timezoneToInt` indexes and slices its argument as Go does, so a bad index is a panic of the
  model (`Go.Result`), and reads the two parts with `strconv.Atoi` (`Go.atoi`).  Its arithmetic
  is Go's `int` arithmetic, which wraps (`wrap64`).
* `timezoneToInt_formatOffset`: `TimezoneToInt` reads back every offset that `Time.Format`
  writes with `-07:00`, in minutes, for every offset that fits in an `int64`; and
  `timezoneToInt_eq_panic_iff`: the empty string is the only input on which it panics.
* `importBool` reads `""`, `yes` and `no` itself and passes any other value to
  `strconv.ParseBool`; its error names the key and the value.
* `convertDatetimeString` and `convertAccessLogDatetimeString` are `time.Parse` with their
  layouts (`Klogproc.Go.TimeParse`), and `time.Time{}` when it fails.
-/

namespace Klogproc.Conversion

open Klogproc.Go

/-- `UserBelongsToList`: whether `userID` is one of `anonymousUsers` (the loop returns `true` at
the first equal entry). -/
def userBelongsToList (userID : Int) (anonymousUsers : List Int) : Bool :=
  anonymousUsers.any (· == userID)

/-! ## `TimezoneToInt` -/

/-- The errors of `TimezoneToInt`: `Cannot parse tz as timezone value`, and the error of
`strconv.Atoi`, which it returns as it is. -/
inductive TimezoneError where
  | cannotParse (tz : List UInt8)
  | atoi (e : NumError)
  deriving DecidableEq, Repr

/-- The text of a `TimezoneError`. -/
def TimezoneError.message (printTables : Nat → Bool) : TimezoneError → List UInt8
  | .cannotParse tz => ascii "Cannot parse " ++ tz ++ ascii " as timezone value"
  | .atoi e => e.message printTables

/-- `strconv.Atoi(item)` inside `TimezoneToInt`. -/
def atoiItem (item : List UInt8) : Result TimezoneError Int :=
  match atoi item with
  | .ok v => .ok v
  | .error e => .err (.atoi e)

/-- The sign that `TimezoneToInt` reads from `c = tz[0]`: `-1` after `-`, `1` after `+`, and
an error after any other byte. -/
def timezoneSign (tz : List UInt8) (c : UInt8) : Result TimezoneError Int :=
  if c = minus then .ok (-1) else if c ≠ plus then .err (.cannotParse tz) else .ok 1

/-- `TimezoneToInt(tz)`: the sign `tz[0]`, the two parts of `tz[1:]` around `:`, and
`sgn * (60*v1 + v2)` in `int` arithmetic. -/
def timezoneToInt (tz : List UInt8) : Result TimezoneError Int := do
  let c ← index tz 0
  let sgn ← timezoneSign tz c
  let rest ← slice tz 1 tz.length
  let items := split rest colon
  if items.length ≠ 2 then .err (.cannotParse tz)
  else
    let v1 ← atoiItem (← index items 0)
    let v2 ← atoiItem (← index items 1)
    pure (wrap64 (sgn * wrap64 (wrap64 (60 * v1) + v2)))

section Timezone

theorem atoiItem_appendInt {x : Nat} (hx : x < 2 ^ 63) (width : Nat) :
    atoiItem (appendInt x width) = .ok x := by
  obtain ⟨hne, hdig, hval⟩ := appendInt_spec x width
  rw [atoiItem, atoi_digits hne hdig (by rw [hval]; exact hx), hval]

/-- `strings.Split(a + ":" + b, ":")` is `[a, b]` when neither part has a colon. -/
theorem split_colon {a b : List UInt8} (ha : colon ∉ a) (hb : colon ∉ b) :
    split (a ++ colon :: b) colon = [a, b] := by
  rw [split, show a ++ colon :: b = [colon].intercalate [a, b] by simp [List.intercalate]]
  exact List.splitOn_intercalate [a, b] colon (by simp [ha, hb]) (by simp)

theorem colon_not_mem_appendInt (x width : Nat) : colon ∉ appendInt x width := fun h =>
  absurd ((appendInt_spec x width).2.1 colon h) (by decide)

/-- `TimezoneToInt` on a sign and two parts around one colon: `Atoi` of each part, combined in
`int` arithmetic. -/
theorem timezoneToInt_sign_parts {c : UInt8} {sgn : Int}
    (hc : c = minus ∧ sgn = -1 ∨ c = plus ∧ sgn = 1) {a b : List UInt8} (ha : colon ∉ a)
    (hb : colon ∉ b) :
    timezoneToInt (c :: (a ++ colon :: b)) = (do
      let v1 ← atoiItem a
      let v2 ← atoiItem b
      pure (wrap64 (sgn * wrap64 (wrap64 (60 * v1) + v2)))) := by
  have hsl : (slice (c :: (a ++ colon :: b)) 1 (c :: (a ++ colon :: b)).length :
      Result TimezoneError _) = .ok (a ++ colon :: b) := by
    rw [slice_to_length (by omega) (by simp only [List.length_cons]; omega)]
    rfl
  have hsign : timezoneSign (c :: (a ++ colon :: b)) c = .ok sgn := by
    rcases hc with ⟨rfl, rfl⟩ | ⟨rfl, rfl⟩ <;> rfl
  simp only [timezoneToInt, index_zero (List.cons_ne_nil _ _), List.head_cons, Result.ok_bind,
    hsign]
  have h0 : (index [a, b] 0 : Result TimezoneError _) = .ok a := rfl
  have h1 : (index [a, b] 1 : Result TimezoneError _) = .ok b := rfl
  rw [hsl]
  simp only [Result.ok_bind, split_colon ha hb, List.length_cons, List.length_nil, Nat.reduceAdd,
    ne_eq, not_true_eq_false, if_false, h0, h1]

/-- `TimezoneToInt` reads back every offset, in minutes, that `Time.Format` writes with the
layout `-07:00`, for every offset whose size fits in an `int64`. -/
theorem timezoneToInt_formatOffset (o : Int) (h : o.natAbs < 2 ^ 63) :
    timezoneToInt (formatOffset o [colon]) = .ok o := by
  have hsgn : (if o < 0 then minus else plus) = minus ∧ (if o < 0 then -1 else 1 : Int) = -1 ∨
      (if o < 0 then minus else plus) = plus ∧ (if o < 0 then -1 else 1 : Int) = 1 := by
    by_cases ho : o < 0 <;> simp [ho]
  have hfmt : formatOffset o [colon] = (if o < 0 then minus else plus) ::
      (appendInt (o.natAbs / 60) 2 ++ colon :: appendInt (o.natAbs % 60) 2) := by
    simp [formatOffset]
  have hw : wrap64 (60 * ((o.natAbs / 60 : Nat) : Int)) = 60 * ((o.natAbs / 60 : Nat) : Int) :=
    wrap64_of_le (by unfold minDuration; omega) (by unfold maxDuration; omega)
  have hsum : 60 * ((o.natAbs / 60 : Nat) : Int) + ((o.natAbs % 60 : Nat) : Int) = o.natAbs := by
    omega
  have hlim : minDuration ≤ (o.natAbs : Int) ∧ (o.natAbs : Int) ≤ maxDuration := by
    unfold minDuration maxDuration
    omega
  rw [hfmt, timezoneToInt_sign_parts hsgn (colon_not_mem_appendInt _ _)
    (colon_not_mem_appendInt _ _), atoiItem_appendInt (by omega), atoiItem_appendInt (by omega)]
  have hsgnabs : (if o < 0 then -1 else 1 : Int) * o.natAbs = o := by split <;> omega
  simp only [Result.ok_bind, Result.pure_eq, hw, hsum, wrap64_of_le hlim.1 hlim.2, hsgnabs]
  rw [wrap64_of_le (by unfold minDuration; omega) (by unfold maxDuration; omega)]

theorem timezoneToInt_formatOffset_west : (-90 : Int).natAbs < 2 ^ 63 ∧
    timezoneToInt (formatOffset (-90) [colon]) = .ok (-90) :=
  ⟨by decide, timezoneToInt_formatOffset (-90) (by decide)⟩

theorem ensures_atoiItem (item : List UInt8) : Result.Ensures (fun _ => True) (atoiItem item) := by
  unfold atoiItem
  split
  · exact Result.ensures_ok trivial
  · exact Result.ensures_err _

theorem ensures_timezoneSign (tz : List UInt8) (c : UInt8) :
    Result.Ensures (fun _ => True) (timezoneSign tz c) := by
  unfold timezoneSign
  split
  · exact Result.ensures_ok trivial
  · split
    · exact Result.ensures_err _
    · exact Result.ensures_ok trivial

theorem ensures_index {α : Type} {s : List α} {i : Nat} (h : i < s.length) :
    Result.Ensures (fun _ => True) (index s i : Result TimezoneError α) := by
  rw [index_of_lt h]
  exact Result.ensures_ok trivial

/-- The empty string is the only input on which `TimezoneToInt` panics (at `tz[0]`): every other
input gives an offset or an error. -/
theorem timezoneToInt_eq_panic_iff (tz : List UInt8) : timezoneToInt tz = .panic ↔ tz = [] := by
  refine ⟨fun h => ?_, fun h => h ▸ rfl⟩
  by_contra hne
  obtain ⟨c, rest, rfl⟩ := List.exists_cons_of_ne_nil hne
  have hens : Result.Ensures (fun _ => True) (timezoneToInt (c :: rest)) := by
    unfold timezoneToInt
    rw [index_zero (List.cons_ne_nil _ _)]
    refine Result.ensures_bind (Result.ensures_ok (P := fun _ => True) trivial) fun c _ => ?_
    refine Result.ensures_bind (ensures_timezoneSign _ c) fun sgn _ => ?_
    rw [slice_to_length (by omega) (by simp only [List.length_cons]; omega)]
    refine Result.ensures_bind (Result.ensures_ok (P := fun _ => True) trivial) fun rest _ => ?_
    dsimp only
    split
    · exact Result.ensures_err _
    next hlen =>
      refine Result.ensures_bind (ensures_index (i := 0) (by omega)) fun _ _ => ?_
      refine Result.ensures_bind (ensures_atoiItem _) fun _ _ => ?_
      refine Result.ensures_bind (ensures_index (i := 1) (by omega)) fun _ _ => ?_
      exact Result.ensures_bind (ensures_atoiItem _) fun _ _ => Result.ensures_ok trivial
  exact hens.1 h

end Timezone

/-! ## `ImportBool` -/

/-- The error of `ImportBool`, `invalid data for keyName: v`. -/
structure ImportBoolError where
  keyName : List UInt8
  v : List UInt8
  deriving DecidableEq, Repr

/-- The text of an `ImportBoolError`. -/
def ImportBoolError.message (e : ImportBoolError) : List UInt8 :=
  ascii "invalid data for " ++ e.keyName ++ ascii ": " ++ e.v

/-- `ImportBool(v, keyName)`: `""` and `no` are `false`, `yes` is `true`, and anything else is
read by `strconv.ParseBool`. -/
def importBool (v keyName : List UInt8) : Except ImportBoolError Bool :=
  if v = [] then .ok false
  else if v = ascii "yes" then .ok true
  else if v = ascii "no" then .ok false
  else
    match parseBool v with
    | .ok ans => .ok ans
    | .error _ => .error ⟨keyName, v⟩

/-! ## Datetimes -/

/-- `ConvertDatetimeString`: `time.Parse("2006-01-02T15:04:05-07:00", datetime)`, or
`time.Time{}` when it fails. -/
def convertDatetimeString (datetime : List UInt8) : GoTime :=
  (parse rfc3339Layout datetime).getD GoTime.zero

/-- `ConvertAccessLogDatetimeString`: `time.Parse("02/Jan/2006:15:04:05 -0700", datetime)`, or
`time.Time{}` when it fails. -/
def convertAccessLogDatetimeString (datetime : List UInt8) : GoTime :=
  (parse accessLogLayout datetime).getD GoTime.zero

/-- `ConvertAccessLogDatetimeString` reads back every valid time that `Format` writes with the
access-log layout, zone offset included. -/
theorem convertAccessLogDatetimeString_format {f : Fields} (hf : f.Valid) :
    convertAccessLogDatetimeString (format f accessLogLayout) = f.zonedTime := by
  rw [convertAccessLogDatetimeString, parse_format_accessLog hf, Option.getD_some]

theorem convertAccessLogDatetimeString_format_sample :
    (⟨2019, 9, 16, 12, 1, 2, 120⟩ : Fields).Valid ∧
      convertAccessLogDatetimeString (format ⟨2019, 9, 16, 12, 1, 2, 120⟩ accessLogLayout) =
        Fields.zonedTime ⟨2019, 9, 16, 12, 1, 2, 120⟩ :=
  ⟨by decide, convertAccessLogDatetimeString_format (by decide)⟩

end Klogproc.Conversion
