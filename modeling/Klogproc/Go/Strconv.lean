import Mathlib.Data.List.Basic
import Mathlib.Algebra.Group.Nat.Basic

/-!
# `strconv` on decimal numerals

`TimezoneToInt`, `importTimeRangeEntry` and the treq transformer read numbers with
`strconv.Atoi`, and `ImportBool` reads flags with `strconv.ParseBool`.  Go strings are byte
sequences, here `List UInt8`, as in `Klogproc.Go.Strings`.

* `atoi` is `Atoi` as Go writes it: a fast path for strings of 1 to 18 bytes, with the digit
  loop `digitsLoop`, and otherwise `ParseInt(s, 10, 0)`, which strips the sign and calls
  `ParseUint` (`parseUintLoop`, with its overflow checks).  `atoi_eq_slow` shows that the fast
  path is an optimisation: `Atoi` always returns what `ParseInt` returns, with the error's
  function renamed.  Every later result about `Atoi` goes through the slow path.
* `atoi_digits` and `atoi_digits_range`: a nonempty run of digits is read as its value when it
  fits in an `int64` and is a range error otherwise; `atoi_decimal`: `Atoi` reads back what
  `FormatUint` (`decimal`) writes.
* `NumError.message` is the text of a `*NumError`, with `strconv.Quote` (`quote`): the loop
  `quoteFrom` decodes the argument's runes with `utf8.DecodeRuneInString` (`decodeRune`), keeps
  the printable ones, escapes the others with `\\a`…`\\v`, `\\x`, `\\u` or `\\U`, and writes `\\x`
  and the byte for a byte that starts no valid sequence.  `quote_digits`: a digit string is
  quoted as itself.
* `digitsFrom` is the value of a digit string, the fold `n = n*10 + d` of both loops.
-/

namespace Klogproc.Go

/-- The bytes of an ASCII string literal. -/
def ascii (s : String) : List UInt8 := s.toList.map fun c => c.toNat.toUInt8

/-- The byte `'-'`. -/
def minus : UInt8 := 45

/-- The byte `'+'`. -/
def plus : UInt8 := 43

/-- `'0' <= c && c <= '9'`. -/
def isDigit (c : UInt8) : Bool := 48 ≤ c.toNat && c.toNat ≤ 57

/-- `c - '0'`, the value of a digit byte. -/
def digitVal (c : UInt8) : Nat := c.toNat - 48

/-- `'0' + byte(d)`, the byte of a digit `d < 10`. -/
def digitByte (d : Nat) : UInt8 := (48 + d).toUInt8

/-- The fold `n = n*10 + d` over the digits `ds`, from `n`. -/
def digitsFrom (n : Nat) (ds : List UInt8) : Nat := ds.foldl (fun n c => n * 10 + digitVal c) n

/-- The value of a string of digits, most significant first. -/
def digitsValue (ds : List UInt8) : Nat := digitsFrom 0 ds

/-! ## Digits -/

section Digits

variable {n d : Nat} {c : UInt8} {ds : List UInt8}

@[simp] theorem digitsFrom_nil : digitsFrom n [] = n := rfl

@[simp] theorem digitsFrom_cons : digitsFrom n (c :: ds) = digitsFrom (n * 10 + digitVal c) ds :=
  rfl

theorem digitsFrom_append (ds es : List UInt8) :
    digitsFrom n (ds ++ es) = digitsFrom (digitsFrom n ds) es :=
  List.foldl_append _ _ _ _

theorem toNat_digitByte (h : d < 10) : (digitByte d).toNat = 48 + d := by
  show (48 + d) % 256 = 48 + d
  omega

@[simp] theorem digitVal_digitByte (h : d < 10) : digitVal (digitByte d) = d := by
  simp only [digitVal, toNat_digitByte h]
  omega

@[simp] theorem isDigit_digitByte (h : d < 10) : isDigit (digitByte d) = true := by
  simp only [isDigit, toNat_digitByte h, Bool.and_eq_true, decide_eq_true_eq]
  omega

theorem digitVal_lt (h : isDigit c = true) : digitVal c < 10 := by
  simp only [isDigit, Bool.and_eq_true, decide_eq_true_eq] at h
  simp only [digitVal]
  omega

theorem le_digitsFrom : n ≤ digitsFrom n ds := by
  induction ds generalizing n with
  | nil => exact le_rfl
  | cons c ds ih => exact Nat.le_trans (show n ≤ n * 10 + digitVal c by omega) ih

/-- A value read from `ds.length` digits after `n` is below `(n + 1) * 10 ^ ds.length`. -/
theorem digitsFrom_lt (h : ∀ c ∈ ds, isDigit c = true) :
    digitsFrom n ds < (n + 1) * 10 ^ ds.length := by
  induction ds generalizing n with
  | nil => simp
  | cons c ds ih =>
    have hc := digitVal_lt (h c (List.mem_cons_self c ds))
    have := ih (n := n * 10 + digitVal c) fun x hx => h x (List.mem_cons_of_mem c hx)
    calc digitsFrom n (c :: ds) < (n * 10 + digitVal c + 1) * 10 ^ ds.length := this
      _ ≤ (n + 1) * 10 * 10 ^ ds.length := Nat.mul_le_mul_right _ (by omega)
      _ = (n + 1) * 10 ^ (c :: ds).length := by
        rw [List.length_cons, Nat.pow_succ, Nat.mul_assoc, Nat.mul_comm 10]

/-- Leading zeros do not change the value. -/
theorem digitsValue_zeros_append (k : Nat) (ds : List UInt8) :
    digitsValue (List.replicate k 48 ++ ds) = digitsValue ds := by
  induction k with
  | zero => rfl
  | succ k ih => exact ih

end Digits

/-! ## `FormatUint(u, 10)` -/

/-- The digits of `u`, most significant first, with `fuel` bounding the recursion. -/
def decimalAux : Nat → Nat → List UInt8
  | 0, _ => []
  | fuel + 1, u => if u < 10 then [digitByte u] else decimalAux fuel (u / 10) ++ [digitByte (u % 10)]

/-- `strconv.FormatUint(u, 10)`: the decimal digits of `u`, most significant first. -/
def decimal (u : Nat) : List UInt8 := decimalAux (u + 1) u

/-- `strconv.Itoa(n)`. -/
def itoa (n : Int) : List UInt8 := if n < 0 then minus :: decimal n.natAbs else decimal n.natAbs

section Decimal

/-- What `decimalAux` writes when it has enough fuel: nonempty digits of value `u`, at most `k`
of them when `u < 10 ^ k`. -/
theorem decimalAux_spec : ∀ (fuel u : Nat), u < fuel →
    decimalAux fuel u ≠ [] ∧ (∀ c ∈ decimalAux fuel u, isDigit c = true) ∧
      digitsValue (decimalAux fuel u) = u ∧
      ∀ k, 0 < k → u < 10 ^ k → (decimalAux fuel u).length ≤ k
  | 0, _, h => absurd h (Nat.not_lt_zero _)
  | fuel + 1, u, h => by
    by_cases hu : u < 10
    · simp only [decimalAux, if_pos hu, ne_eq, List.cons_ne_self, not_false_eq_true,
        List.mem_singleton, forall_eq, isDigit_digitByte hu, true_and, List.length_singleton]
      exact ⟨by simp [digitsValue, digitVal_digitByte hu], fun k hk _ => hk⟩
    · obtain ⟨hne, hdig, hval, hlen⟩ := decimalAux_spec fuel (u / 10) (by omega)
      have hd : u % 10 < 10 := Nat.mod_lt _ (by omega)
      simp only [decimalAux, if_neg hu]
      refine ⟨by simp, ?_, ?_, ?_⟩
      · intro c hc
        rcases List.mem_append.1 hc with hc | hc
        · exact hdig c hc
        · rw [List.mem_singleton.1 hc]
          exact isDigit_digitByte hd
      · rw [digitsValue, digitsFrom_append, ← digitsValue, hval]
        simp only [digitsFrom_cons, digitsFrom_nil, digitVal_digitByte hd]
        omega
      · intro k hk hlt
        obtain ⟨k, rfl⟩ : ∃ j, k = j + 1 := ⟨k - 1, by omega⟩
        have hk' : 0 < k := by
          by_contra h0
          simp only [Nat.eq_zero_of_not_pos h0, Nat.zero_add, Nat.pow_one] at hlt
          exact hu hlt
        have := hlen k hk' (by rw [Nat.pow_succ] at hlt; omega)
        simp only [List.length_append, List.length_singleton]
        omega

variable (u : Nat)

theorem decimal_ne_nil : decimal u ≠ [] := (decimalAux_spec _ u (by omega)).1

theorem isDigit_of_mem_decimal : ∀ c ∈ decimal u, isDigit c = true :=
  (decimalAux_spec _ u (by omega)).2.1

@[simp] theorem digitsValue_decimal : digitsValue (decimal u) = u :=
  (decimalAux_spec _ u (by omega)).2.2.1

end Decimal

/-! ## `Atoi`, `ParseInt`, `ParseUint` -/

/-- The two errors of `strconv`'s number parsers: `ErrSyntax` and `ErrRange`. -/
inductive NumErrorKind where
  | errSyntax
  | errRange
  deriving DecidableEq, Repr

/-- `*strconv.NumError`: the function that failed, its input and the reason. -/
structure NumError where
  func : String
  num : List UInt8
  err : NumErrorKind
  deriving DecidableEq, Repr

/-- `syntaxError(fn, str)`. -/
def syntaxError (fn : String) (str : List UInt8) : NumError := ⟨fn, str, .errSyntax⟩

/-- `rangeError(fn, str)`. -/
def rangeError (fn : String) (str : List UInt8) : NumError := ⟨fn, str, .errRange⟩

/-- `lowerhex`. -/
def lowerhex : List UInt8 := ascii "0123456789abcdef"

/-- `utf8.RuneError`, `U+FFFD`. -/
def runeError : Nat := 0xFFFD

/-- What the tables `first` and `acceptRanges` of `unicode/utf8` say of a byte from `0x80` up:
the length of the sequence it starts and the range of its second byte, or `none` for a byte
that starts no sequence. -/
def leading (s0 : Nat) : Option (Nat × Nat × Nat) :=
  if s0 < 0xC2 then none
  else if s0 < 0xE0 then some (2, 0x80, 0xBF)
  else if s0 = 0xE0 then some (3, 0xA0, 0xBF)
  else if s0 = 0xED then some (3, 0x80, 0x9F)
  else if s0 < 0xF0 then some (3, 0x80, 0xBF)
  else if s0 = 0xF0 then some (4, 0x90, 0xBF)
  else if s0 < 0xF4 then some (4, 0x80, 0xBF)
  else if s0 = 0xF4 then some (4, 0x80, 0x8F)
  else none

/-- Whether a byte is between `locb` and `hicb`, as a byte after the second of a sequence must
be. -/
def isCont (b : Nat) : Bool := 0x80 ≤ b && b ≤ 0xBF

/-- `utf8.DecodeRuneInString(s)`: the first rune of `s` and its length in bytes, with
`(RuneError, 1)` for a byte that starts no valid sequence. -/
def decodeRune : List UInt8 → Nat × Nat
  | [] => (runeError, 0)
  | s0 :: rest =>
    if s0.toNat < 0x80 then (s0.toNat, 1)
    else
      match leading s0.toNat with
      | none => (runeError, 1)
      | some (sz, lo, hi) =>
        let s1 := (rest.getD 0 0).toNat
        let s2 := (rest.getD 1 0).toNat
        let s3 := (rest.getD 2 0).toNat
        if rest.length + 1 < sz then (runeError, 1)
        else if s1 < lo ∨ hi < s1 then (runeError, 1)
        else if sz ≤ 2 then ((s0.toNat % 0x20) * 0x40 + s1 % 0x40, 2)
        else if !isCont s2 then (runeError, 1)
        else if sz ≤ 3 then ((s0.toNat % 0x10) * 0x1000 + (s1 % 0x40) * 0x40 + s2 % 0x40, 3)
        else if !isCont s3 then (runeError, 1)
        else
          ((s0.toNat % 0x08) * 0x40000 + (s1 % 0x40) * 0x1000 + (s2 % 0x40) * 0x40 + s3 % 0x40, 4)

/-- `utf8.AppendRune`: the UTF-8 bytes of `r`, and those of `RuneError` for a surrogate or a
value above `MaxRune`. -/
def encodeRune (r : Nat) : List UInt8 :=
  if r < 0x80 then [r.toUInt8]
  else if r < 0x800 then [(0xC0 + r / 0x40).toUInt8, (0x80 + r % 0x40).toUInt8]
  else if (r < 0xD800 ∨ 0xDFFF < r) ∧ r < 0x10000 then
    [(0xE0 + r / 0x1000).toUInt8, (0x80 + r / 0x40 % 0x40).toUInt8, (0x80 + r % 0x40).toUInt8]
  else if 0x10000 ≤ r ∧ r ≤ 0x10FFFF then
    [(0xF0 + r / 0x40000).toUInt8, (0x80 + r / 0x1000 % 0x40).toUInt8,
      (0x80 + r / 0x40 % 0x40).toUInt8, (0x80 + r % 0x40).toUInt8]
  else [0xEF, 0xBF, 0xBD]

/-- `utf8.ValidRune`. -/
def validRune (r : Nat) : Bool := r < 0xD800 || 0xDFFF < r && r ≤ 0x10FFFF

/-- `strconv.IsPrint`.  Latin-1 is tested by ranges; a rune above `0xFF` is looked up in the
tables `isPrint16`, `isNotPrint16`, `isPrint32` and `isNotPrint32`, which are generated from
Unicode and are not in this repository: `printTables` is their answer. -/
def isPrint (printTables : Nat → Bool) (r : Nat) : Bool :=
  if r ≤ 0xFF then (0x20 ≤ r && r ≤ 0x7E) || (0xA1 ≤ r && r ≠ 0xAD)
  else printTables r

/-- The `n` lowest hex digits of `r`, the most significant first (`lowerhex[r>>s&0xF]`). -/
def hexDigits : Nat → Nat → List UInt8
  | 0, _ => []
  | n + 1, r => hexDigits n (r / 16) ++ [lowerhex.getD (r % 16) 0]

section Quote

variable (printTables : Nat → Bool)

/-- `appendEscapedRune(buf, r, '"', false, false)`: what `Quote` writes for the rune `r`. -/
def escapedRune (r : Nat) : List UInt8 :=
  if r = 34 ∨ r = 92 then 92 :: encodeRune r
  else if isPrint printTables r then encodeRune r
  else if r = 7 then ascii "\\a"
  else if r = 8 then ascii "\\b"
  else if r = 12 then ascii "\\f"
  else if r = 10 then ascii "\\n"
  else if r = 13 then ascii "\\r"
  else if r = 9 then ascii "\\t"
  else if r = 11 then ascii "\\v"
  else if r < 32 ∨ r = 0x7F then ascii "\\x" ++ hexDigits 2 r
  else if !validRune r then ascii "\\u" ++ hexDigits 4 runeError
  else if r < 0x10000 then ascii "\\u" ++ hexDigits 4 r
  else ascii "\\U" ++ hexDigits 8 r

/-- The loop of `appendQuotedWith` for `Quote`.  At a byte that starts a rune (`skip = 0`) it
decodes the rune from the byte on, and writes `\x` and the byte in hex when the byte starts
no valid sequence; `skip` counts the bytes of the rune just written that `s = s[width:]`
passes over. -/
def quoteFrom : Nat → List UInt8 → List UInt8
  | _, [] => []
  | skip + 1, _ :: s => quoteFrom skip s
  | 0, c :: s =>
    let (r, width) := if c.toNat < 0x80 then (c.toNat, 1) else decodeRune (c :: s)
    if width = 1 ∧ r = runeError then ascii "\\x" ++ hexDigits 2 c.toNat ++ quoteFrom 0 s
    else escapedRune printTables r ++ quoteFrom (width - 1) s

/-- `strconv.Quote(s)`. -/
def quote (s : List UInt8) : List UInt8 := 34 :: quoteFrom printTables 0 s ++ [34]

end Quote

/-- A printable rune outside Latin-1, a character that is not printable, a byte that starts no
valid sequence, and a Latin-1 letter. -/
example : quote (fun _ => false) ([0xE2, 0x80, 0xA8] ++ [7] ++ [0xFF] ++ [0xC3, 0xA9]) =
    ascii "\"\\u2028\\a\\xff" ++ [0xC3, 0xA9, 34] := by
  decide

/-- `ErrSyntax.Error()` and `ErrRange.Error()`. -/
def NumErrorKind.message : NumErrorKind → List UInt8
  | .errSyntax => ascii "invalid syntax"
  | .errRange => ascii "value out of range"

/-- `e.Error()`: `"strconv." + e.Func + ": " + "parsing " + Quote(e.Num) + ": " + e.Err.Error()`. -/
def NumError.message (printTables : Nat → Bool) (e : NumError) : List UInt8 :=
  ascii "strconv." ++ ascii e.func ++ ascii ": " ++ ascii "parsing " ++ quote printTables e.num ++
    ascii ": " ++ e.err.message

/-- `Quote` writes a digit string between quotes and nothing else. -/
theorem quote_digits (printTables : Nat → Bool) {ds : List UInt8}
    (hd : ∀ c ∈ ds, isDigit c = true) : quote printTables ds = 34 :: ds ++ [34] := by
  suffices h : quoteFrom printTables 0 ds = ds by rw [quote, h]
  induction ds with
  | nil => rfl
  | cons c ds ih =>
    have hc := hd c (List.mem_cons_self c ds)
    simp only [isDigit, Bool.and_eq_true, decide_eq_true_eq] at hc
    have h1 : c.toNat < 0x80 := by omega
    have h2 : c.toNat ≠ runeError := by unfold runeError; omega
    have h3 : escapedRune printTables c.toNat = [c] := by
      have hp : isPrint printTables c.toNat = true := by
        rw [isPrint, if_pos (by omega)]
        simp only [Bool.or_eq_true, Bool.and_eq_true, decide_eq_true_eq]
        omega
      rw [escapedRune, if_neg (show ¬(c.toNat = 34 ∨ c.toNat = 92) by omega), if_pos hp,
        encodeRune, if_pos h1]
      exact congrArg ([·]) (UInt8.toNat.inj (UInt8.toNat_ofNat_of_lt c.toNat_lt_size))
    simp only [quoteFrom, h1, if_true, h2, and_false, if_false, h3, Nat.sub_self,
      ih fun x hx => hd x (List.mem_cons_of_mem c hx), List.singleton_append]

/-- The loop of `Atoi`'s fast path: `ch -= '0'; if ch > 9 { return syntax error }; n = n*10 + ch`
(the byte subtraction wraps, so `ch > 9` is "not a digit"), with `none` for the error. -/
def digitsLoop : Nat → List UInt8 → Option Nat
  | n, [] => some n
  | n, c :: ds => if isDigit c then digitsLoop (n * 10 + digitVal c) ds else none

/-- The fast path of `Atoi` (`0 < len(s) < 19` on a 64-bit platform).  Its `n` is at most 18
digits, so it never overflows. -/
def atoiFast (s0 : List UInt8) : Except NumError Int :=
  match s0 with
  | [] => .error (syntaxError "Atoi" s0)
  | c :: rest =>
    let signed := c = minus ∨ c = plus
    let s := if signed then rest else s0
    if signed ∧ s.length < 1 then .error (syntaxError "Atoi" s0)
    else match digitsLoop 0 s with
      | none => .error (syntaxError "Atoi" s0)
      | some n => .ok (if c = minus then -(n : Int) else n)

/-- `1<<64 - 1`. -/
def maxUint64 : Nat := 18446744073709551615

/-- The loop of `ParseUint(s0, 10, 64)`: a syntax error at a byte that is not a digit, and a
range error once `n*10 + d` leaves `uint64` (the check `n >= cutoff` and the check `n1 < n ||
n1 > maxVal`, which in `Nat` is `n1 > maxVal`). -/
def parseUintLoop (s0 : List UInt8) : Nat → List UInt8 → Except NumError Nat
  | n, [] => .ok n
  | n, c :: s =>
    if isDigit c then
      if maxUint64 / 10 + 1 ≤ n then .error (rangeError "ParseUint" s0)
      else if maxUint64 < n * 10 + digitVal c then .error (rangeError "ParseUint" s0)
      else parseUintLoop s0 (n * 10 + digitVal c) s
    else .error (syntaxError "ParseUint" s0)

/-- `strconv.ParseUint(s, 10, 64)`. -/
def parseUint (s : List UInt8) : Except NumError Nat :=
  if s = [] then .error (syntaxError "ParseUint" s) else parseUintLoop s 0 s

/-- `strconv.ParseInt(s0, 10, 0)` on a 64-bit platform.  After a range error `ParseUint`
returns `maxVal`, which is past both cutoffs, so `ParseInt` returns its own range error. -/
def parseInt (s0 : List UInt8) : Except NumError Int :=
  match s0 with
  | [] => .error (syntaxError "ParseInt" s0)
  | c :: rest =>
    let neg := c = minus
    let s := if c = plus ∨ neg then rest else s0
    match parseUint s with
    | .error e =>
      if e.err = .errRange then .error (rangeError "ParseInt" s0)
      else .error { e with func := "ParseInt", num := s0 }
    | .ok un =>
      if ¬neg ∧ 2 ^ 63 ≤ un then .error (rangeError "ParseInt" s0)
      else if neg ∧ 2 ^ 63 < un then .error (rangeError "ParseInt" s0)
      else .ok (if neg then -(un : Int) else un)

/-- The slow path of `Atoi`: `ParseInt(s, 10, 0)` with the error's function set to `Atoi`. -/
def atoiSlow (s : List UInt8) : Except NumError Int :=
  match parseInt s with
  | .error e => .error { e with func := "Atoi" }
  | .ok i => .ok i

/-- `strconv.Atoi`. -/
def atoi (s : List UInt8) : Except NumError Int :=
  if 0 < s.length ∧ s.length < 19 then atoiFast s else atoiSlow s

/-- `strconv.ParseBool`. -/
def parseBool (str : List UInt8) : Except NumError Bool :=
  if str ∈ [ascii "1", ascii "t", ascii "T", ascii "true", ascii "TRUE", ascii "True"] then .ok true
  else if str ∈ [ascii "0", ascii "f", ascii "F", ascii "false", ascii "FALSE", ascii "False"] then
    .ok false
  else .error (syntaxError "ParseBool" str)

section Loops

variable {s0 : List UInt8}

/-- The digit loop reads every digit string and stops at any other byte. -/
theorem digitsLoop_eq (n : Nat) (ds : List UInt8) :
    digitsLoop n ds = if ds.all isDigit then some (digitsFrom n ds) else none := by
  induction ds generalizing n with
  | nil => rfl
  | cons c ds ih =>
    by_cases hc : isDigit c <;> simp [digitsLoop, hc, ih]

/-- `ParseUint`'s loop reads a digit string whose value fits in a `uint64`. -/
theorem parseUintLoop_digits (n : Nat) (ds : List UInt8) (hd : ∀ c ∈ ds, isDigit c = true)
    (hmax : digitsFrom n ds ≤ maxUint64) : parseUintLoop s0 n ds = .ok (digitsFrom n ds) := by
  induction ds generalizing n with
  | nil => rfl
  | cons c ds ih =>
    have hc := hd c (List.mem_cons_self c ds)
    have hle : n * 10 + digitVal c ≤ maxUint64 := le_digitsFrom.trans hmax
    simp only [parseUintLoop, hc, if_true]
    rw [if_neg (by unfold maxUint64 at hle ⊢; omega), if_neg (by omega)]
    exact ih _ (fun x hx => hd x (List.mem_cons_of_mem c hx)) hmax

/-- On a digit string whose value leaves `uint64`, `ParseUint`'s loop stops with a range
error. -/
theorem parseUintLoop_digits_range (n : Nat) (ds : List UInt8) (hd : ∀ c ∈ ds, isDigit c = true)
    (hn : n ≤ maxUint64) (hmax : maxUint64 < digitsFrom n ds) :
    parseUintLoop s0 n ds = .error (rangeError "ParseUint" s0) := by
  induction ds generalizing n with
  | nil => exact absurd hmax (Nat.not_lt.2 hn)
  | cons c ds ih =>
    have hc := hd c (List.mem_cons_self c ds)
    simp only [parseUintLoop, hc, if_true]
    split_ifs with hcut hover
    · rfl
    · rfl
    · exact ih _ (fun x hx => hd x (List.mem_cons_of_mem c hx)) (by omega) hmax

/-- On at most 18 bytes read from a small `n`, `ParseUint`'s loop never overflows, so it does
what the fast path's loop does. -/
theorem parseUintLoop_short (n : Nat) (ds : List UInt8) (hlen : ds.length ≤ 18)
    (hn : n < 10 ^ (18 - ds.length)) :
    parseUintLoop s0 n ds =
      match digitsLoop n ds with
      | some v => .ok v
      | none => .error (syntaxError "ParseUint" s0) := by
  induction ds generalizing n with
  | nil => rfl
  | cons c ds ih =>
    simp only [List.length_cons] at hlen hn
    have hpow : 10 ^ (18 - ds.length) = 10 ^ (18 - (ds.length + 1)) * 10 := by
      rw [← Nat.pow_succ]
      congr 1
      omega
    have hbound : 10 ^ (18 - (ds.length + 1)) ≤ 10 ^ 17 :=
      Nat.pow_le_pow_right (by omega) (by omega)
    by_cases hc : isDigit c
    · have hd := digitVal_lt hc
      simp only [parseUintLoop, digitsLoop, hc, if_true]
      rw [if_neg (by unfold maxUint64; omega), if_neg (by unfold maxUint64; omega)]
      exact ih _ (by omega) (by rw [hpow]; omega)
    · simp [parseUintLoop, digitsLoop, hc]

end Loops

/-! ## The fast path is an optimisation -/

/-- `ParseUint` on at most 18 bytes: the fast path's digit loop, with `ParseUint`'s errors. -/
theorem parseUint_short {s : List UInt8} (hlen : s.length ≤ 18) :
    parseUint s = if s = [] then .error (syntaxError "ParseUint" s) else
      match digitsLoop 0 s with
      | some v => .ok v
      | none => .error (syntaxError "ParseUint" s) := by
  rw [parseUint, parseUintLoop_short 0 s hlen (Nat.pos_pow_of_pos _ (by omega))]

/-- On the strings it handles, `Atoi`'s fast path returns what its slow path returns. -/
theorem atoiFast_eq_slow (s : List UInt8) (hlen : s.length < 19) : atoiFast s = atoiSlow s := by
  match s with
  | [] => rfl
  | c :: rest =>
    have hsign : (c = plus ∨ c = minus) ↔ (c = minus ∨ c = plus) := or_comm
    obtain ⟨body, hbody⟩ : ∃ body, body = if c = minus ∨ c = plus then rest else c :: rest :=
      ⟨_, rfl⟩
    have hblen : body.length ≤ 18 := by
      rw [hbody]; split <;> simp only [List.length_cons] at hlen ⊢ <;> omega
    simp only [atoiFast, atoiSlow, parseInt, hsign, ← hbody, parseUint_short hblen]
    by_cases hnil : body = []
    · have hs : c = minus ∨ c = plus := by
        by_contra hs
        rw [if_neg hs] at hbody
        exact List.cons_ne_nil _ _ (hbody ▸ hnil)
      simp [hnil, hs, syntaxError]
    · rw [if_neg fun h => hnil (List.length_eq_zero.1 (by omega)), if_neg hnil]
      cases hloop : digitsLoop 0 body with
      | none => rfl
      | some v =>
        rw [digitsLoop_eq] at hloop
        split at hloop
        next hall =>
          cases hloop
          have hv := digitsFrom_lt (n := 0) (List.all_eq_true.1 hall)
          have h18 : 10 ^ body.length ≤ 10 ^ 18 := Nat.pow_le_pow_right (by omega) hblen
          have hv : digitsFrom 0 body < 2 ^ 63 := by omega
          have hv' : digitsFrom 0 body < 9223372036854775808 := hv
          simp [Nat.not_le.2 hv, Nat.not_lt.2 hv.le, Nat.not_le.2 hv', Nat.not_lt.2 hv'.le]
        · cases hloop

/-- Every error of `ParseInt` quotes its whole input. -/
theorem parseInt_error_num {s : List UInt8} {e : NumError} (h : parseInt s = .error e) :
    e.num = s := by
  unfold parseInt at h
  split at h
  · cases h; rfl
  · dsimp only at h
    split at h
    · split at h <;> (cases h; rfl)
    · split at h
      · cases h; rfl
      · split at h
        · cases h; rfl
        · cases h

/-- `Atoi` returns what `ParseInt(s, 10, 0)` returns, with `Atoi` as the error's function. -/
theorem atoi_eq_slow (s : List UInt8) : atoi s = atoiSlow s := by
  unfold atoi
  split
  next h => exact atoiFast_eq_slow s h.2
  next => rfl

/-- Every error of `Atoi` names `Atoi` and quotes its whole input. -/
theorem atoi_error {s : List UInt8} {e : NumError} (h : atoi s = .error e) :
    e.func = "Atoi" ∧ e.num = s := by
  rw [atoi_eq_slow, atoiSlow] at h
  split at h
  · next e' he =>
    cases h
    exact ⟨rfl, parseInt_error_num (e := e') he⟩
  · cases h

/-! ## Numerals -/

section Numerals

variable {ds : List UInt8}

/-- `Atoi` reads a nonempty run of digits whose value fits in an `int64`. -/
theorem atoi_digits (hne : ds ≠ []) (hd : ∀ c ∈ ds, isDigit c = true)
    (hv : digitsValue ds < 2 ^ 63) : atoi ds = .ok (digitsValue ds) := by
  obtain ⟨c, rest, rfl⟩ := List.exists_cons_of_ne_nil hne
  have hc := hd c (List.mem_cons_self c rest)
  have hsign : ¬(c = plus ∨ c = minus) := by
    rintro (rfl | rfl) <;> exact absurd hc (by decide)
  have hloop : parseUintLoop (c :: rest) 0 (c :: rest) = .ok (digitsFrom 0 (c :: rest)) :=
    parseUintLoop_digits 0 (c :: rest) hd (by unfold maxUint64; unfold digitsValue at hv; omega)
  have hcm : c ≠ minus := fun h => hsign (.inr h)
  unfold digitsValue at hv ⊢
  rw [atoi_eq_slow, atoiSlow, parseInt]
  simp only [hsign, if_false, parseUint, reduceCtorEq, hloop]
  rw [if_neg fun h => Nat.not_le.2 hv h.2, if_neg fun h => hcm h.1, if_neg hcm]

/-- A nonempty run of digits whose value leaves `int64` is a range error of `Atoi`. -/
theorem atoi_digits_range (hne : ds ≠ []) (hd : ∀ c ∈ ds, isDigit c = true)
    (hv : 2 ^ 63 ≤ digitsValue ds) : atoi ds = .error (rangeError "Atoi" ds) := by
  obtain ⟨c, rest, rfl⟩ := List.exists_cons_of_ne_nil hne
  have hc := hd c (List.mem_cons_self c rest)
  have hsign : ¬(c = plus ∨ c = minus) := by
    rintro (rfl | rfl) <;> exact absurd hc (by decide)
  have hcm : c ≠ minus := fun h => hsign (.inr h)
  unfold digitsValue at hv
  rw [atoi_eq_slow, atoiSlow, parseInt]
  simp only [hsign, if_false, parseUint, reduceCtorEq]
  by_cases hmax : digitsFrom 0 (c :: rest) ≤ maxUint64
  · rw [parseUintLoop_digits 0 _ hd hmax]
    simp only [if_pos (And.intro hcm hv)]
    rfl
  · rw [parseUintLoop_digits_range 0 _ hd (by decide) (Nat.not_le.1 hmax)]
    rfl

/-- `Atoi` reads back what `FormatUint(u, 10)` writes, for every `u` that fits in an `int64`. -/
theorem atoi_decimal {u : Nat} (hu : u < 2 ^ 63) : atoi (decimal u) = .ok u := by
  rw [atoi_digits (decimal_ne_nil u) (isDigit_of_mem_decimal u) (by simpa using hu),
    digitsValue_decimal]

/-- `Atoi` reads back what `Itoa` writes, for every `int64` (from `-2^63` to `2^63 - 1`). -/
theorem atoi_itoa {n : Int} (h₁ : -9223372036854775808 ≤ n) (h₂ : n < 9223372036854775808) :
    atoi (itoa n) = .ok n := by
  by_cases hn : n < 0
  · have hu : n.natAbs ≤ 2 ^ 63 := by omega
    have hval : digitsFrom 0 (decimal n.natAbs) = n.natAbs := digitsValue_decimal n.natAbs
    have hloop : parseUintLoop (decimal n.natAbs) 0 (decimal n.natAbs) =
        .ok (digitsFrom 0 (decimal n.natAbs)) :=
      parseUintLoop_digits 0 _ (isDigit_of_mem_decimal n.natAbs) (by rw [hval]; unfold maxUint64; omega)
    rw [hval] at hloop
    have hneg : ¬(2 ^ 63 < n.natAbs) := by omega
    rw [itoa, if_pos hn, atoi_eq_slow, atoiSlow, parseInt]
    simp only [parseUint, decimal_ne_nil, if_false, hloop, true_and, not_true_eq_false,
      false_and, or_true, if_true, hneg]
    congr 1
    omega
  · rw [itoa, if_neg hn, atoi_decimal (by omega)]
    congr 1
    omega

end Numerals

end Klogproc.Go
