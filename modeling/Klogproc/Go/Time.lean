import Mathlib.Data.List.Basic

/-!
# Go times and durations

The mapka3 transformer reads a record's `time.Time`, shifts it by a `time.Duration` and compares
the `Duration` between two times with a configured interval.  This module gives those types
and the three operations it uses.

* `GoTime` is a `time.Time` with no monotonic clock reading, which is what a parsed log time
  is: the nanoseconds since Go's zero time `time.Time{}` (January 1 of year 1, UTC).
* A `time.Duration` is an `int64` count of nanoseconds, here an `Int`.  `wrap64` is the
  two's-complement wrap onto `int64`: `durationMul`, the product of two durations, wraps, and
  `GoTime.sub`, `Time.Sub`, saturates at `minDuration` and `maxDuration` instead.
* `lt_of_lt_sub` and `lt_sub_of_lt` say when a comparison with `Sub` is a comparison with the
  exact difference, and `wrap64_of_le` when a product does not wrap.
-/

namespace Klogproc.Go

/-- A `time.Time` without a monotonic reading, as the nanoseconds since `time.Time{}`. -/
structure GoTime where
  nanos : Int
  deriving DecidableEq, Repr

/-- `time.Time{}`, the zero time. -/
def GoTime.zero : GoTime := ⟨0⟩

/-- The smallest `time.Duration`, `-2^63` ns. -/
def minDuration : Int := -9223372036854775808

/-- The largest `time.Duration`, `2^63 - 1` ns. -/
def maxDuration : Int := 9223372036854775807

/-- The value of an `int64` whose two's-complement bits are those of `x`. -/
def wrap64 (x : Int) : Int := (x + 9223372036854775808) % 18446744073709551616 - 9223372036854775808

/-- `time.Second`. -/
def second : Int := 1000000000

/-- `time.Minute`. -/
def minute : Int := 60 * second

/-- `d * e` for two `time.Duration`s: an `int64` product, which wraps. -/
def durationMul (d e : Int) : Int := wrap64 (d * e)

/-- `t.Add(d)`. -/
def GoTime.add (t : GoTime) (d : Int) : GoTime := ⟨t.nanos + d⟩

/-- `t.Sub(u)`: the duration `t - u`, or `minDuration` or `maxDuration` when it does not fit in
an `int64`. -/
def GoTime.sub (t u : GoTime) : Int := max minDuration (min maxDuration (t.nanos - u.nanos))

section Lemmas

variable {x d : Int} {t u : GoTime}

theorem wrap64_of_le (h₁ : minDuration ≤ x) (h₂ : x ≤ maxDuration) : wrap64 x = x := by
  unfold wrap64
  unfold minDuration maxDuration at *
  omega

/-- A duration above `Sub` comes from an exact difference above it: saturation only lowers a
difference that is too large to fit. -/
theorem lt_of_lt_sub (hd : minDuration ≤ d) (h : d < t.sub u) : d < t.nanos - u.nanos := by
  unfold GoTime.sub at h
  unfold minDuration maxDuration at *
  omega

/-- An exact difference above a duration below `maxDuration` gives `Sub` above it. -/
theorem lt_sub_of_lt (hd : d < maxDuration) (h : d < t.nanos - u.nanos) : d < t.sub u := by
  unfold GoTime.sub
  unfold minDuration maxDuration at *
  omega

end Lemmas

end Klogproc.Go
