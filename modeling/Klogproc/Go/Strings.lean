import Mathlib.Data.List.Basic

/-!
# Go results and byte strings

The parsers of `klogproc` index and slice Go `string`s, which are byte sequences.  Go checks
each index and slice expression when it runs and panics when it is out of range.  This module
gives the result type of such code and the few `string` operations it uses.

* `Result ε α` is how a Go function ends: it returns a value (`ok`), it returns a non-`nil`
  `error` (`err`), or it panics (`panic`).  The `Monad` instance sequences statements; a panic
  or an error ends the function.
* `index`, `slice` and `setAt` are `s[i]`, `s[lo:hi]` and `xs[i] = v`.  Their bounds are `Int`, so
  that `len(s) - 1` on an empty string is `-1` and panics as it does in Go.  `index_of_lt`,
  `slice_of_le` and `setAt_of_lt` say when they do not panic.
* `split`, `join`, `trim` and `stringsIndex` are `strings.Split`, `strings.Join`,
  `strings.Trim` with a one-byte cut set, and `strings.Index`, over bytes.
-/

namespace Klogproc.Go

/-- How a Go function ends: a result, a returned `error`, or a run-time panic. -/
inductive Result (ε α : Type) where
  | ok (a : α)
  | err (e : ε)
  | panic
  deriving DecidableEq, Repr

namespace Result

variable {ε α β : Type}

/-- The next statement runs only when the previous one returned a result. -/
def bind (x : Result ε α) (f : α → Result ε β) : Result ε β :=
  match x with
  | ok a => f a
  | err e => err e
  | panic => panic

instance : Monad (Result ε) where
  pure := ok
  bind := bind

@[simp] theorem pure_eq (a : α) : (pure a : Result ε α) = ok a := rfl

@[simp] theorem ok_bind (a : α) (f : α → Result ε β) : (ok a >>= f) = f a := rfl

@[simp] theorem panic_bind (f : α → Result ε β) : ((panic : Result ε α) >>= f) = panic := rfl

/-- A run-time panic (`none`) or a value. -/
def ofOption : Option α → Result ε α
  | some a => ok a
  | none => panic

/-- `x` does not panic, and the result it returns, if any, satisfies `P`. -/
def Ensures (P : α → Prop) (x : Result ε α) : Prop :=
  x ≠ panic ∧ ∀ a, x = ok a → P a

theorem ensures_ok {P : α → Prop} {a : α} (h : P a) : Ensures P (ok a : Result ε α) :=
  ⟨Result.noConfusion, fun _ he => by cases he; exact h⟩

theorem ensures_err {P : α → Prop} (e : ε) : Ensures P (err e : Result ε α) :=
  ⟨Result.noConfusion, fun _ he => Result.noConfusion he⟩

theorem Ensures.mono {P Q : α → Prop} {x : Result ε α} (h : Ensures P x)
    (hPQ : ∀ a, P a → Q a) : Ensures Q x :=
  ⟨h.1, fun a ha => hPQ a (h.2 a ha)⟩

theorem ensures_bind {P : α → Prop} {Q : β → Prop} {x : Result ε α} {f : α → Result ε β}
    (hx : Ensures P x) (hf : ∀ a, P a → Ensures Q (f a)) : Ensures Q (x >>= f) := by
  cases x with
  | ok a => exact hf a (hx.2 a rfl)
  | err e => exact ensures_err e
  | panic => exact absurd rfl hx.1

theorem foldlM_append {step : α → β → Result ε α} (l l' : List β) (a : α) :
    (l ++ l').foldlM step a = l.foldlM step a >>= fun a' => l'.foldlM step a' := by
  induction l generalizing a with
  | nil => rfl
  | cons b l ih =>
    simp only [List.cons_append, List.foldlM_cons]
    cases step a b with
    | ok a' => exact ih a'
    | err e => rfl
    | panic => rfl

/-- A loop whose body keeps `I` and never panics keeps `I` and never panics. -/
theorem ensures_foldlM {I : α → Prop} {step : α → β → Result ε α}
    (hstep : ∀ a b, I a → Ensures I (step a b)) :
    ∀ (l : List β) (a : α), I a → Ensures I (l.foldlM step a)
  | [], _, ha => ensures_ok ha
  | b :: l, a, ha => ensures_bind (hstep a b ha) fun a' ha' => ensures_foldlM hstep l a' ha'

end Result

/-! ## Byte strings -/

/-- The space byte, `' '`. -/
def space : UInt8 := 32

/-- `s[i]`: the element at `i`, or a panic when `i` is out of range. -/
def index {ε α : Type} (s : List α) (i : Int) : Result ε α :=
  if 0 ≤ i then Result.ofOption s[i.toNat]? else Result.panic

/-- `s[lo:hi]`: the bytes from `lo` up to `hi`, or a panic unless `0 ≤ lo ≤ hi ≤ len(s)`. -/
def slice {ε : Type} (s : List UInt8) (lo hi : Int) : Result ε (List UInt8) :=
  if 0 ≤ lo ∧ lo ≤ hi ∧ hi ≤ s.length then .ok ((s.drop lo.toNat).take (hi - lo).toNat)
  else .panic

/-- `xs[i] = v` on a slice: the slice with `v` at `i`, or a panic when `i` is out of range. -/
def setAt {ε α : Type} (xs : List α) (i : Nat) (v : α) : Result ε (List α) :=
  if i < xs.length then .ok (xs.set i v) else .panic

section Bounds

variable {ε α : Type}

theorem index_of_lt {s : List α} {i : Nat} (h : i < s.length) :
    (index s i : Result ε α) = .ok s[i] := by
  rw [index, if_pos (by omega)]
  simp [List.getElem?_eq_getElem h, Result.ofOption]

@[simp] theorem index_zero {s : List α} (h : s ≠ []) :
    (index s 0 : Result ε α) = .ok (s.head h) := by
  cases s with
  | nil => exact absurd rfl h
  | cons a s => simp [index, Result.ofOption]

@[simp] theorem index_last {s : List α} (h : s ≠ []) :
    (index s (s.length - 1) : Result ε α) = .ok (s.getLast h) := by
  have hl : 0 < s.length := List.length_pos.2 h
  have hcast : ((s.length : Int) - 1) = ((s.length - 1 : Nat) : Int) := by omega
  rw [hcast, index_of_lt (by omega), List.getLast_eq_getElem]

/-- `s[lo:]`. -/
theorem slice_to_length {s : List UInt8} {lo : Int} (h0 : 0 ≤ lo) (h : lo ≤ s.length) :
    (slice s lo s.length : Result ε (List UInt8)) = .ok (s.drop lo.toNat) := by
  rw [slice, if_pos ⟨h0, h, by omega⟩]
  exact congrArg Result.ok (List.take_of_length_le (by simp; omega))

/-- `s[1:len(s)-1]`. -/
theorem slice_one_last {s : List UInt8} (h : 1 < s.length) :
    (slice s 1 (s.length - 1) : Result ε (List UInt8)) = .ok s.tail.dropLast := by
  rw [slice, if_pos ⟨by omega, by omega, by omega⟩]
  have hn : ((s.length : Int) - 1 - 1).toNat = s.length - 2 := by omega
  simp only [Int.toNat_one, hn, List.drop_one, List.dropLast_eq_take, List.length_tail]
  rfl

/-- `s[:len(s)-1]`. -/
theorem slice_zero_last {s : List UInt8} (h : s ≠ []) :
    (slice s 0 (s.length - 1) : Result ε (List UInt8)) = .ok s.dropLast := by
  have hl : 0 < s.length := List.length_pos.2 h
  rw [slice, if_pos ⟨by omega, by omega, by omega⟩]
  have hn : ((s.length : Int) - 1 - 0).toNat = s.length - 1 := by omega
  simp [hn, List.dropLast_eq_take]

theorem setAt_of_lt {xs : List α} {i : Nat} (v : α) (h : i < xs.length) :
    (setAt xs i v : Result ε (List α)) = .ok (xs.set i v) := by
  simp [setAt, h]

end Bounds

/-- `strings.Split(s, sep)` for a one-byte separator: the pieces between the separators, empty
ones included. -/
def split (s : List UInt8) (sep : UInt8) : List (List UInt8) :=
  s.splitOn sep

/-- `strings.Join(elems, sep)` for a one-byte separator. -/
def join (elems : List (List UInt8)) (sep : UInt8) : List UInt8 :=
  [sep].intercalate elems

@[simp] theorem join_nil (sep : UInt8) : join [] sep = [] := rfl

@[simp] theorem join_single (a : List UInt8) (sep : UInt8) : join [a] sep = a := by
  simp [join, List.intercalate]

theorem join_cons {rest : List (List UInt8)} (a : List UInt8) (hr : rest ≠ []) (sep : UInt8) :
    join (a :: rest) sep = a ++ sep :: join rest sep := by
  obtain ⟨b, rest, rfl⟩ := List.exists_cons_of_ne_nil hr
  simp [join, List.intercalate, List.intersperse_cons_cons]

/-- A byte in front of the first piece is in front of the joined pieces. -/
theorem join_cons_head (x : UInt8) (a : List UInt8) (l : List (List UInt8)) (sep : UInt8) :
    join ((x :: a) :: l) sep = x :: join (a :: l) sep := by
  cases l with
  | nil => simp
  | cons b l => simp [join_cons _ (List.cons_ne_nil b l)]

theorem join_append {l L : List (List UInt8)} (hl : l ≠ []) (hL : L ≠ []) (sep : UInt8) :
    join (l ++ L) sep = join l sep ++ sep :: join L sep := by
  induction l with
  | nil => exact absurd rfl hl
  | cons a l ih =>
    cases l with
    | nil => simp [join_cons _ hL]
    | cons b l =>
      rw [List.cons_append, join_cons _ (by simp), ih (List.cons_ne_nil b l),
        join_cons _ (List.cons_ne_nil b l)]
      simp

/-- Joining the pieces of several non-empty groups at once. -/
theorem join_map_join (L : List (List (List UInt8))) (hL : ∀ l ∈ L, l ≠ []) (sep : UInt8) :
    join (L.map (join · sep)) sep = join L.flatten sep := by
  induction L with
  | nil => rfl
  | cons l L ih =>
    have hl : l ≠ [] := hL l (List.mem_cons_self _ _)
    have ih' := ih fun l' h => hL l' (List.mem_cons_of_mem _ h)
    cases L with
    | nil => simp
    | cons l' L =>
      have hl' : l' ≠ [] := hL l' (List.mem_cons_of_mem _ (List.mem_cons_self _ _))
      rw [List.map_cons, join_cons _ (by simp), ih',
        show (l :: l' :: L).flatten = l ++ (l' :: L).flatten from rfl,
        join_append hl (by simp [hl']) sep]

/-- `strings.Trim(s, cutset)` for a one-byte cut set: the leading and trailing `c` removed. -/
def trim (s : List UInt8) (c : UInt8) : List UInt8 :=
  ((s.dropWhile (· == c)).reverse.dropWhile (· == c)).reverse

/-- `strings.Index(s, substr)`: the first position where `substr` starts, or `-1`. -/
def stringsIndex (s substr : List UInt8) : Int :=
  if substr.isPrefixOf s then 0
  else
    match s with
    | [] => -1
    | _ :: t => if stringsIndex t substr = -1 then -1 else stringsIndex t substr + 1

theorem neg_one_le_stringsIndex (s substr : List UInt8) : -1 ≤ stringsIndex s substr := by
  induction s with
  | nil => rw [stringsIndex]; split <;> simp
  | cons c t ih => rw [stringsIndex]; split <;> [simp; (split <;> omega)]

/-- `strings.Index` answers `0` exactly for a prefix. -/
theorem stringsIndex_eq_zero_iff (s substr : List UInt8) :
    stringsIndex s substr = 0 ↔ substr.isPrefixOf s = true := by
  cases s with
  | nil => rw [stringsIndex]; split <;> simp_all
  | cons c t =>
    have := neg_one_le_stringsIndex t substr
    rw [stringsIndex]; split <;> [simp_all; (split <;> simp_all; omega)]

end Klogproc.Go
