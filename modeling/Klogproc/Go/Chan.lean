import Mathlib.Data.List.Basic

/-!
# Goroutines, channels and wait groups

The goroutine code of `klogproc` is modelled as a program state and an atomic step for each
event, one event being one statement of one goroutine.  A run is a list of events: every
interleaving of the goroutines is a run.

* `Step σ`: a statement runs (`next`), blocks, or panics.  `run` executes a list of events and
  stops at the first that blocks or panics.
* `Chan α` is a channel with its buffer, its capacity and whether it is closed; `Chan.send`,
  `Chan.recv` and `Chan.close` are `ch <- v`, `v, ok := <-ch` and `close(ch)`, with Go's panics
  on a closed channel.  A send on an unbuffered channel meets a receive in one event of the
  program, so the systems write those events themselves.
* `WaitGroup` is `sync.WaitGroup`: `Add` panics below zero, `Wait` blocks unless the counter is
  zero.
* `run_inv` and `run_ne_panic` turn a fact about one step into a fact about every run.
-/

namespace Klogproc.Go

/-- What a statement does to the program state: it runs, it blocks, or it panics. -/
inductive Step (σ : Type) where
  | next (s : σ)
  | blocked
  | panic
  deriving DecidableEq, Repr

/-- A Go channel: the values in its buffer, its capacity (`0` for an unbuffered channel), and
whether it was closed. -/
structure Chan (α : Type) where
  buf : List α
  cap : Nat
  closed : Bool
  deriving DecidableEq, Repr

namespace Chan

variable {α : Type}

/-- `make(chan T, cap)`. -/
def make (cap : Nat) : Chan α := ⟨[], cap, false⟩

/-- `ch <- v` into the buffer: a panic on a closed channel, blocked on a full buffer. -/
def send (c : Chan α) (v : α) : Step (Chan α) :=
  if c.closed then .panic
  else if c.buf.length < c.cap then .next { c with buf := c.buf ++ [v] }
  else .blocked

/-- `v, ok := <-ch` from the buffer: the first buffered value, or `none` (the zero value and
`ok = false`) from a closed, empty channel.  An open, empty channel blocks. -/
def recv (c : Chan α) : Step (Option α × Chan α) :=
  match c.buf with
  | v :: rest => .next (some v, { c with buf := rest })
  | [] => if c.closed then .next (none, c) else .blocked

/-- `close(ch)`: a panic on a closed channel. -/
def close (c : Chan α) : Step (Chan α) :=
  if c.closed then .panic else .next { c with closed := true }

/-! ### What each operation can do -/

section Spec

variable {c c' : Chan α} {v : α}

theorem send_eq_next : c.send v = .next c' ↔
    c.closed = false ∧ c.buf.length < c.cap ∧ c' = { c with buf := c.buf ++ [v] } := by
  unfold send
  by_cases h1 : c.closed <;> by_cases h2 : c.buf.length < c.cap <;> simp [h1, h2, eq_comm]

theorem send_eq_panic : c.send v = .panic ↔ c.closed = true := by
  unfold send
  split_ifs <;> simp_all

theorem recv_ne_panic : c.recv ≠ .panic := by
  unfold recv
  split
  · exact Step.noConfusion
  · split <;> exact Step.noConfusion

theorem recv_eq_some : c.recv = .next (some v, c') ↔
    ∃ rest, c.buf = v :: rest ∧ c' = { c with buf := rest } := by
  unfold recv
  split
  · next w rest h => simp [h, eq_comm, and_assoc]
  · next h => split <;> simp [h]

theorem recv_eq_none : c.recv = .next (none, c') ↔ c.buf = [] ∧ c.closed = true ∧ c' = c := by
  unfold recv
  split
  · next h => simp [h]
  · next h => by_cases hc : c.closed <;> simp [h, hc, eq_comm]

theorem close_eq_next :
    c.close = .next c' ↔ c.closed = false ∧ c' = { c with closed := true } := by
  unfold close
  split_ifs with h <;> simp [h, eq_comm]

theorem close_eq_panic : c.close = .panic ↔ c.closed = true := by
  unfold close
  split_ifs <;> simp_all

end Spec

end Chan

/-- A `sync.WaitGroup`. -/
structure WaitGroup where
  counter : Int
  deriving DecidableEq, Repr

namespace WaitGroup

/-- `wg.Add(n)`: a panic when the counter would go below zero. -/
def add (wg : WaitGroup) (n : Int) : Step WaitGroup :=
  if wg.counter + n < 0 then .panic else .next ⟨wg.counter + n⟩

/-- `wg.Done()`. -/
def done (wg : WaitGroup) : Step WaitGroup := wg.add (-1)

/-- `wg.Wait()` returns when the counter is zero, and blocks otherwise. -/
def wait (wg : WaitGroup) : Step Unit :=
  if wg.counter = 0 then .next () else .blocked

theorem counter_of_add {wg w : WaitGroup} {n : Int} (h : wg.add n = .next w) :
    w.counter = wg.counter + n := by
  unfold add at h
  split at h <;> cases h
  rfl

theorem add_eq_panic {wg : WaitGroup} {n : Int} : wg.add n = .panic ↔ wg.counter + n < 0 := by
  unfold add
  split_ifs <;> simp_all

theorem counter_of_wait {wg : WaitGroup} {u : Unit} (h : wg.wait = .next u) : wg.counter = 0 := by
  unfold wait at h
  split at h <;> try cases h
  assumption

end WaitGroup

/-! ## Runs -/

section Runs

variable {σ ε : Type} (step : σ → ε → Step σ)

/-- The events `es` one after another from `s`, up to the first that blocks or panics. -/
def run : σ → List ε → Step σ
  | s, [] => .next s
  | s, e :: es =>
    match step s e with
    | .next s' => run s' es
    | .blocked => .blocked
    | .panic => .panic

theorem run_cons_of_next {s s' : σ} {e : ε} (h : step s e = .next s') (es : List ε) :
    run step s (e :: es) = run step s' es := by
  simp [run, h]

theorem run_append_of_next {s s' : σ} {es : List ε} (h : run step s es = .next s')
    (es' : List ε) : run step s (es ++ es') = run step s' es' := by
  induction es generalizing s with
  | nil => cases h; rfl
  | cons e es ih =>
    simp only [run] at h
    split at h <;> try cases h
    next s₁ h₁ => rw [List.cons_append, run_cons_of_next step h₁, ih h]

variable {step}

/-- The steps of `step` that end in a state of `P`.  A run of `guarded P step` is a run of `step`
all of whose states after the first are in `P` (`run_of_run_guarded`). -/
def guarded (P : σ → Prop) [DecidablePred P] (step : σ → ε → Step σ) (s : σ) (e : ε) :
    Step σ :=
  match step s e with
  | .next s' => if P s' then .next s' else .blocked
  | .blocked => .blocked
  | .panic => .panic

theorem guarded_eq_next {P : σ → Prop} [DecidablePred P] {s s' : σ} {e : ε}
    (h : guarded P step s e = .next s') : step s e = .next s' ∧ P s' := by
  unfold guarded at h
  split at h <;> try cases h
  split at h <;> try cases h
  exact ⟨‹_›, ‹_›⟩

theorem run_of_run_guarded {P : σ → Prop} [DecidablePred P] :
    ∀ (es : List ε) (s s' : σ),
      run (guarded P step) s es = .next s' → run step s es = .next s'
  | [], _, _, h => h
  | e :: es, s, s', h => by
    simp only [run] at h
    split at h <;> try cases h
    next s₁ h₁ =>
    rw [run_cons_of_next step (guarded_eq_next h₁).1]
    exact run_of_run_guarded es s₁ s' h

/-- What every step keeps, every run keeps. -/
theorem run_inv {I : σ → Prop} (hstep : ∀ s e s', I s → step s e = .next s' → I s') :
    ∀ (es : List ε) (s s' : σ), I s → run step s es = .next s' → I s'
  | [], s, s', hs, h => by cases h; exact hs
  | e :: es, s, s', hs, h => by
    simp only [run] at h
    split at h <;> try cases h
    next s₁ h₁ => exact run_inv hstep es s₁ s' (hstep s e s₁ hs h₁) h

/-- A run from a state of an invariant under which no step panics does not panic. -/
theorem run_ne_panic {I : σ → Prop} (hstep : ∀ s e s', I s → step s e = .next s' → I s')
    (hsafe : ∀ s e, I s → step s e ≠ .panic) :
    ∀ (es : List ε) (s : σ), I s → run step s es ≠ .panic
  | [], _, _ => Step.noConfusion
  | e :: es, s, hs => by
    simp only [run]
    split
    · next s₁ h₁ => exact run_ne_panic hstep hsafe es s₁ (hstep s e s₁ hs h₁)
    · exact Step.noConfusion
    · next h₁ => exact absurd h₁ (hsafe s e hs)

end Runs

end Klogproc.Go
