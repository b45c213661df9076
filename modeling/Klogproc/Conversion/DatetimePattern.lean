import Klogproc.Go.TimeParse

/-!
# Anchored date-and-clock patterns

Two readers of this repository find a time at the start of a text with a regular expression of
one shape, `^(\d{4}-\d{2}-\d{2}S[012]\d:[0-5]\d:[0-5]\d)F\d+`, and parse its group with
`time.Parse` and the layout `2006-01-02`, a separator, `15:04:05`:

* `importTimeFromLine` of package `batch` (`src/unnamed/part_006`): `S` is `\s`, `F` is `[\.,]`
  and the separator of the layout a space;
* `LogRecord.GetTime` of package `fetch` (`src/conversion/conversion.go`): `S` and the separator
  are `T`, and `F` is `\.`.

`dateClockGroup S` is the group of the pattern, one byte class per byte: the pattern is anchored
and its group has a fixed width, so the group is the first 19 bytes.  Every class is ASCII, so
matching bytes is matching the runes Go's `regexp` reads.  `findDateClock S F` is
`FindStringSubmatch`'s group.

* `parse_dateClock_digits`: `time.Parse` on a group of digits and separators gives the date and
  clock its digits spell, when the separator is the layout's and every field is in range.
* `classesMatch_format`: what `Format` writes for a valid time matches the group.
* `dateClockTime_eq_some_iff`: the texts that such a reader reads are exactly those that start
  with a valid date and clock as `Format` writes them, then a byte of `F` and a digit; it reads
  that time, with no fraction of a second.
-/

namespace Klogproc.Conversion

open Klogproc.Go

/-! ## The pattern -/

/-- A digit of at most `n`: `[012]` is `digitUpTo 2`, `[0-5]` is `digitUpTo 5`. -/
def digitUpTo (n : Nat) (c : UInt8) : Bool := isDigit c && digitVal c ≤ n

/-- The byte classes of the group `\d{4}-\d{2}-\d{2}S[012]\d:[0-5]\d:[0-5]\d`, one per byte, with
the class `sepClass` for `S`. -/
def dateClockGroup (sepClass : UInt8 → Bool) : List (UInt8 → Bool) :=
  [isDigit, isDigit, isDigit, isDigit, (· == minus), isDigit, isDigit, (· == minus), isDigit,
    isDigit, sepClass, digitUpTo 2, isDigit, (· == colon), digitUpTo 5, isDigit, (· == colon),
    digitUpTo 5, isDigit]

/-- Bytes that match a list of byte classes, one each. -/
def classesMatch : List (UInt8 → Bool) → List UInt8 → Bool
  | [], [] => true
  | p :: ps, c :: cs => p c && classesMatch ps cs
  | _, _ => false

/-- The group of `FindStringSubmatch` with the pattern of classes `sepClass` for `S` and
`fracClass` for `F`, or `none` for no match.  After the group the pattern needs a byte of
`fracClass` and a digit. -/
def findDateClock (sepClass fracClass : UInt8 → Bool) (s : List UInt8) : Option (List UInt8) :=
  let g := s.take 19
  match s.drop 19 with
  | c :: d :: _ =>
    if classesMatch (dateClockGroup sepClass) g = true ∧ fracClass c = true ∧ isDigit d = true then
      some g
    else none
  | _ => none

/-! ## `time.Parse` on the group -/

section Group

variable {a b c d h sp : UInt8} {rest : List UInt8} {st : ParseState}

theorem parseLoop_cons_bind (e : LayoutElem) (layout : List LayoutElem) (v : List UInt8)
    (st : ParseState) :
    parseLoop (e :: layout) v st = (parseElem e v st).bind fun p => parseLoop layout p.1 p.2 := by
  simp only [parseLoop]
  split <;> simp_all

theorem parseLoop_nil (v : List UInt8) (st : ParseState) : parseLoop [] v st = some (v, st) := rfl

theorem ite_bind {α β : Type} (p : Prop) [Decidable p] (x y : Option α) (f : α → Option β) :
    (if p then x else y).bind f = if p then x.bind f else y.bind f := by
  split <;> rfl

theorem ite_none_bind {α β : Type} (p : Prop) [Decidable p] (x : α) (f : α → Option β) :
    (if p then none else some x).bind f = if p then none else f x := by
  split <;> rfl

theorem ite_some_bind {α β : Type} (p : Prop) [Decidable p] (x : α) (f : α → Option β) :
    (if p then some x else none).bind f = if p then f x else none := by
  split <;> rfl

theorem getnum_digits (ha : isDigit a = true) (hb : isDigit b = true) (fixed : Bool) :
    getnum (a :: b :: rest) fixed = some (digitVal a * 10 + digitVal b, rest) := by
  simp [getnum, ha, hb]

theorem parseElem_longYear_digits (ha : isDigit a = true) (hb : isDigit b = true)
    (hc : isDigit c = true) (hd : isDigit d = true) :
    parseElem .longYear (a :: b :: c :: d :: rest) st =
      some (rest, { st with year := digitsValue [a, b, c, d] }) := by
  simp [parseElem, ha, hb, hc, hd]

/-- A one-byte literal other than a space. -/
theorem parseElem_lit_byte {p : UInt8} (hp : p ≠ space) :
    parseElem (.lit [p]) (c :: rest) st = if c = p then some (rest, st) else none := by
  by_cases hc : c = p <;> simp [parseElem, skip, skipAux, hp, hc]

/-- The literal space, before a byte that is not a space. -/
theorem parseElem_lit_space (hrest : ∀ x ∈ rest.head?, x ≠ space) :
    parseElem (.lit [space]) (c :: rest) st = if c = space then some (rest, st) else none := by
  by_cases hc : c = space
  · subst hc
    have hcut : cutspace (space :: rest) = rest := by
      cases rest with
      | nil => rfl
      | cons x r =>
        have hx : (x == space) = false := beq_eq_false_iff_ne.2 (hrest x rfl)
        simp [cutspace, List.dropWhile, hx]
    simp [parseElem, skip, skipAux, hcut]
  · simp [parseElem, skip, skipAux, hc]

theorem ne_space_of_isDigit (h : isDigit a = true) : a ≠ space := by
  rintro rfl
  exact absurd h (by decide)

/-- Any one-byte literal, before a digit. -/
theorem parseElem_lit_before_digit {p : UInt8} (hh : isDigit h = true) :
    parseElem (.lit [p]) (c :: h :: rest) st = if c = p then some (h :: rest, st) else none := by
  by_cases hp : p = space
  · subst hp
    exact parseElem_lit_space (by simpa using ne_space_of_isDigit hh)
  · exact parseElem_lit_byte hp

section TwoDigits

variable (ha : isDigit a = true) (hb : isDigit b = true)
include ha hb

theorem parseElem_zeroMonth_digits :
    parseElem .zeroMonth (a :: b :: rest) st =
      if digitVal a * 10 + digitVal b = 0 ∨ 12 < digitVal a * 10 + digitVal b then none
      else some (rest, { st with month := ((digitVal a * 10 + digitVal b : Nat) : Int) }) := by
  simp only [parseElem, getnum_digits ha hb]

theorem parseElem_zeroDay_digits :
    parseElem .zeroDay (a :: b :: rest) st =
      some (rest, { st with day := ((digitVal a * 10 + digitVal b : Nat) : Int) }) := by
  simp only [parseElem, getnum_digits ha hb, Option.map_some']

theorem parseElem_hour_digits :
    parseElem .hour (a :: b :: rest) st =
      if 24 ≤ digitVal a * 10 + digitVal b then none
      else some (rest, { st with hour := ((digitVal a * 10 + digitVal b : Nat) : Int) }) := by
  simp only [parseElem, getnum_digits ha hb]

theorem parseElem_zeroMinute_digits :
    parseElem .zeroMinute (a :: b :: rest) st =
      if 60 ≤ digitVal a * 10 + digitVal b then none
      else some (rest, { st with min := ((digitVal a * 10 + digitVal b : Nat) : Int) }) := by
  simp only [parseElem, getnum_digits ha hb]

/-- The seconds at the end of the value. -/
theorem parseElem_zeroSecond_digits :
    parseElem .zeroSecond [a, b] st =
      if 60 ≤ digitVal a * 10 + digitVal b then none
      else some ([], { st with sec := ((digitVal a * 10 + digitVal b : Nat) : Int) }) := by
  simp only [parseElem, getnum_digits ha hb]

end TwoDigits

/-- The range checks of `Parse` on a date and a clock, in its order, are one test. -/
theorem parseChecks_eq {α : Type} (mo h mi s d : Nat) (dim : Int) (x : α) :
    (if mo = 0 ∨ 12 < mo then none else if 24 ≤ h then none else if 60 ≤ mi then none
      else if 60 ≤ s then none else if (d : Int) < 1 ∨ dim < d then none else some x) =
    if 1 ≤ mo ∧ mo ≤ 12 ∧ h < 24 ∧ mi < 60 ∧ s < 60 ∧ 1 ≤ d ∧ (d : Int) ≤ dim then some x
    else none := by
  split_ifs <;> first | rfl | omega

/-- `time.Parse` with a date-and-clock layout on a group of digits and separators: the date and
clock its digits spell, when the separator is the layout's and every field is in range. -/
theorem parse_dateClock_digits {p y1 y2 y3 y4 m1 m2 d1 d2 h1 h2 i1 i2 s1 s2 : UInt8}
    (hy1 : isDigit y1 = true) (hy2 : isDigit y2 = true) (hy3 : isDigit y3 = true)
    (hy4 : isDigit y4 = true) (hm1 : isDigit m1 = true) (hm2 : isDigit m2 = true)
    (hd1 : isDigit d1 = true) (hd2 : isDigit d2 = true) (hh1 : isDigit h1 = true)
    (hh2 : isDigit h2 = true) (hi1 : isDigit i1 = true) (hi2 : isDigit i2 = true)
    (hs1 : isDigit s1 = true) (hs2 : isDigit s2 = true) :
    let f : Fields := ⟨digitsValue [y1, y2, y3, y4], digitVal m1 * 10 + digitVal m2,
      digitVal d1 * 10 + digitVal d2, digitVal h1 * 10 + digitVal h2,
      digitVal i1 * 10 + digitVal i2, digitVal s1 * 10 + digitVal s2, 0⟩
    parse (dateClockLayout [p]) [y1, y2, y3, y4, minus, m1, m2, minus, d1, d2, sp, h1, h2, colon,
        i1, i2, colon, s1, s2] =
      if sp = p ∧ 1 ≤ f.month ∧ f.month ≤ 12 ∧ f.hour < 24 ∧ f.min < 60 ∧ f.sec < 60 ∧
          1 ≤ f.day ∧ (f.day : Int) ≤ daysIn f.month f.year then some f.time
      else none := by
  intro f
  have hdash : ascii "-" = [minus] := rfl
  have hcol : ascii ":" = [colon] := rfl
  simp only [parse, dateClockLayout, hdash, hcol, parseLoop_cons_bind,
    parseElem_longYear_digits hy1 hy2 hy3 hy4, Option.some_bind,
    parseElem_lit_byte (show minus ≠ space by decide), parseElem_lit_byte (show colon ≠ space by decide),
    if_true, parseElem_zeroMonth_digits hm1 hm2, ite_none_bind, parseElem_zeroDay_digits hd1 hd2,
    parseElem_lit_before_digit hh1, ite_some_bind,
    parseElem_hour_digits hh1 hh2, parseElem_zeroMinute_digits hi1 hi2,
    parseElem_zeroSecond_digits hs1 hs2, parseLoop_nil, ParseState.init]
  have hnn : ∀ n : Nat, ((n : Int) < 0) = False := fun n => by simp only [eq_iff_iff, iff_false]; omega
  simp only [ite_bind, Option.none_bind, Option.some_bind, parseEnd, ne_eq, not_true_eq_false,
    if_false, hnn, List.nil_eq, reduceCtorEq]
  by_cases hsp : sp = p
  · simp only [hsp, if_true, true_and, f, Fields.time]
    exact parseChecks_eq _ _ _ _ _ _ _
  · simp only [hsp, if_false, false_and, ite_self]

theorem digitByte_digitVal (h : isDigit a = true) : digitByte (digitVal a) = a := by
  simp only [isDigit, Bool.and_eq_true, decide_eq_true_eq] at h
  apply UInt8.toNat.inj
  rw [toNat_digitByte (by simp only [digitVal]; omega)]
  simp only [digitVal]
  omega

theorem digitByte_eq_of_digitVal {n : Nat} (ha : isDigit a = true) (h : n = digitVal a) :
    digitByte n = a :=
  h ▸ digitByte_digitVal ha

/-- `Format` writes back two digits that `getnum` read. -/
theorem appendInt_two_digits (ha : isDigit a = true) (hb : isDigit b = true) :
    appendInt (digitVal a * 10 + digitVal b) 2 = [a, b] := by
  have := digitVal_lt ha
  have := digitVal_lt hb
  rw [appendInt_two (by omega), digitByte_eq_of_digitVal ha (by omega),
    digitByte_eq_of_digitVal hb (by omega)]

section FourDigits

variable (ha : isDigit a = true) (hb : isDigit b = true) (hc : isDigit c = true)
  (hd : isDigit d = true)
include ha hb hc hd

theorem digitsValue_four_lt : digitsValue [a, b, c, d] < 10000 := by
  have := digitVal_lt ha
  have := digitVal_lt hb
  have := digitVal_lt hc
  have := digitVal_lt hd
  simp only [digitsValue, digitsFrom_cons, digitsFrom_nil]
  omega

/-- `Format` writes back the four digits of a year. -/
theorem appendInt_four_digits : appendInt (digitsValue [a, b, c, d]) 4 = [a, b, c, d] := by
  have := digitVal_lt ha
  have := digitVal_lt hb
  have := digitVal_lt hc
  have := digitVal_lt hd
  rw [appendInt_four (digitsValue_four_lt ha hb hc hd)]
  simp only [digitsValue, digitsFrom_cons, digitsFrom_nil]
  rw [ digitByte_eq_of_digitVal ha (by omega),
    digitByte_eq_of_digitVal hb (by omega), digitByte_eq_of_digitVal hc (by omega),
    digitByte_eq_of_digitVal hd (by omega)]

end FourDigits

/-- What `Format` writes with a date-and-clock layout, byte by byte. -/
theorem format_dateClock (p : UInt8) (f : Fields) (hy : f.year < 10000) (hm : f.month < 100)
    (hd : f.day < 100) (hh : f.hour < 100) (hi : f.min < 100) (hs : f.sec < 100) :
    format f (dateClockLayout [p]) =
      [digitByte (f.year / 1000), digitByte (f.year / 100 % 10), digitByte (f.year / 10 % 10),
        digitByte (f.year % 10), minus, digitByte (f.month / 10), digitByte (f.month % 10), minus,
        digitByte (f.day / 10), digitByte (f.day % 10), p, digitByte (f.hour / 10),
        digitByte (f.hour % 10), colon, digitByte (f.min / 10), digitByte (f.min % 10), colon,
        digitByte (f.sec / 10), digitByte (f.sec % 10)] := by
  simp only [format, dateClockLayout, List.flatMap_cons, List.flatMap_nil, formatElem,
    appendInt_four hy, appendInt_two hm, appendInt_two hd, appendInt_two hh, appendInt_two hi,
    appendInt_two hs]
  rfl

/-- `classesMatch` on a list of classes, one byte at a time. -/
theorem classesMatch_cons_iff {p : UInt8 → Bool} {ps : List (UInt8 → Bool)} {cs : List UInt8} :
    classesMatch (p :: ps) cs = true ↔ ∃ c cs', cs = c :: cs' ∧ p c = true ∧ classesMatch ps cs' = true := by
  cases cs with
  | nil => simp [classesMatch]
  | cons c cs =>
    simp only [classesMatch, Bool.and_eq_true, List.cons.injEq]
    exact ⟨fun h => ⟨c, cs, ⟨rfl, rfl⟩, h⟩, fun ⟨_, _, ⟨hc, hcs⟩, h⟩ => hc ▸ hcs ▸ h⟩

theorem classesMatch_nil_iff {cs : List UInt8} : classesMatch [] cs = true ↔ cs = [] := by
  cases cs <;> simp [classesMatch]

theorem length_of_classesMatch {ps : List (UInt8 → Bool)} {cs : List UInt8}
    (h : classesMatch ps cs = true) : cs.length = ps.length := by
  induction ps generalizing cs with
  | nil => simp [classesMatch_nil_iff.1 h]
  | cons p ps ih =>
    obtain ⟨c, cs, rfl, -, h⟩ := classesMatch_cons_iff.1 h
    simp [ih h]

/-- The group that `findDateClock` returns: the start of the text, before a byte of `fracClass`
and a digit. -/
theorem findDateClock_eq_some_iff {sepClass fracClass : UInt8 → Bool} {s g : List UInt8} :
    findDateClock sepClass fracClass s = some g ↔ ∃ (c d : UInt8) (rest : List UInt8),
      classesMatch (dateClockGroup sepClass) g = true ∧ fracClass c = true ∧ isDigit d = true ∧
        s = g ++ c :: d :: rest := by
  constructor
  · intro h
    unfold findDateClock at h
    split at h
    next c d rest hdrop =>
      dsimp only at h
      split_ifs at h with hcond
      cases h
      exact ⟨c, d, rest, hcond.1, hcond.2.1, hcond.2.2, by rw [← hdrop, List.take_append_drop]⟩
    · cases h
  · rintro ⟨c, d, rest, hg, hc, hd, rfl⟩
    have hlen : g.length = 19 := length_of_classesMatch hg
    simp [findDateClock, ← hlen, hg, hc, hd]

/-- A valid time written with a date-and-clock layout matches the group when its separator is in
the class `S`. -/
theorem classesMatch_format {sepClass : UInt8 → Bool} {p : UInt8} (hp : sepClass p = true)
    {f : Fields} (hf : f.Valid) :
    classesMatch (dateClockGroup sepClass) (format f (dateClockLayout [p])) = true := by
  have := hf.month_pos
  have := hf.month_le
  have := daysIn_le_31 (m := f.month) (y := f.year) (by omega) (by omega)
  have hy : f.year / 1000 < 10 := by have := hf.year_lt; omega
  have hm : f.month / 10 < 10 := by have := hf.month_le; omega
  have hd : f.day / 10 < 10 := by have := hf.day_le; omega
  have hh : f.hour / 10 < 10 := by have := hf.hour_lt; omega
  have hi : f.min / 10 < 10 := by have := hf.min_lt; omega
  have hs : f.sec / 10 < 10 := by have := hf.sec_lt; omega
  have hmod : ∀ n : Nat, n % 10 < 10 := fun n => Nat.mod_lt n (by decide)
  rw [format_dateClock p f (by omega) (by omega) (by omega) (by omega) (by omega) (by omega)]
  simp only [dateClockGroup, classesMatch, digitUpTo, Bool.and_eq_true, decide_eq_true_eq,
    isDigit_digitByte, digitVal_digitByte, hmod, beq_self_eq_true, hy, hm, hd, hh, hi, hs, hp,
    and_true, true_and]
  exact ⟨by have := hf.hour_lt; omega, by have := hf.min_lt; omega, by have := hf.sec_lt; omega⟩

end Group

/-! ## What such a reader reads -/

/-- The texts that `findDateClock` and `time.Parse` with a date-and-clock layout read are exactly
those that start with a valid date and clock as `Format` writes them with the layout, then a
byte of `fracClass` and a digit; the time read is theirs, with no fraction of a second. -/
theorem dateClockTime_eq_some_iff {sepClass fracClass : UInt8 → Bool} {p : UInt8}
    (hp : sepClass p = true) (s : List UInt8) (t : GoTime) :
    (findDateClock sepClass fracClass s).bind (parse (dateClockLayout [p])) = some t ↔
      ∃ (f : Fields) (c d : UInt8) (rest : List UInt8), f.Valid ∧ fracClass c = true ∧
        isDigit d = true ∧ s = format f (dateClockLayout [p]) ++ c :: d :: rest ∧ t = f.time := by
  constructor
  · intro h
    obtain ⟨g, hfind, hparse⟩ := Option.bind_eq_some.1 h
    obtain ⟨c, d, rest, hg, hc, hd, rfl⟩ := findDateClock_eq_some_iff.1 hfind
    match g, length_of_classesMatch hg, hg, hparse with
    | [y1, y2, y3, y4, _, m1, m2, _, d1, d2, sp, h1, h2, _, i1, i2, _, s1, s2], _, hg, hparse =>
      simp only [dateClockGroup, classesMatch, Bool.and_eq_true, beq_iff_eq] at hg
      obtain ⟨hy1, hy2, hy3, hy4, rfl, hm1, hm2, rfl, hd1, hd2, -, hh1, hh2, rfl, hi1, hi2, rfl, hs1,
        hs2, -⟩ := hg
      simp only [digitUpTo, Bool.and_eq_true] at hh1 hi1 hs1
      rw [parse_dateClock_digits hy1 hy2 hy3 hy4 hm1 hm2 hd1 hd2 hh1.1 hh2 hi1.1 hi2 hs1.1 hs2]
        at hparse
      split_ifs at hparse with hok
      cases hparse
      obtain ⟨rfl, hm0, hm12, hh24, hi60, hs60, hd0, hdays⟩ := hok
      refine ⟨_, c, d, rest, ⟨digitsValue_four_lt hy1 hy2 hy3 hy4, hm0, hm12, hd0, hdays, hh24, hi60,
        hs60, by simp⟩, hc, hd, ?_, rfl⟩
      simp only [format, dateClockLayout, List.flatMap_cons, List.flatMap_nil, formatElem,
        appendInt_four_digits hy1 hy2 hy3 hy4, appendInt_two_digits hm1 hm2,
        appendInt_two_digits hd1 hd2, appendInt_two_digits hh1.1 hh2, appendInt_two_digits hi1.1 hi2,
        appendInt_two_digits hs1.1 hs2]
      rfl
  · rintro ⟨f, c, d, rest, hf, hc, hd, rfl, rfl⟩
    rw [findDateClock_eq_some_iff.2 ⟨c, d, rest, classesMatch_format hp hf, hc, hd, rfl⟩,
      Option.some_bind, parse_format_dateClock p hf]

end Klogproc.Conversion
