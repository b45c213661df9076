import Klogproc.Go.Chan

/-!
# The goroutines of `runBatchAction`

`runBatchAction` (package `main`) starts two sink consumers, one for the Elasticsearch channel
and one for the InfluxDB channel, and two goroutines that drain the consumers' confirmation
channels.  The main goroutine then runs `proc`, closes both data channels, calls `wg.Wait()`
and sends `finishEvent <- true`.  The draining goroutines call `wg.Add(1)` after their loop, where
the sibling code in `tailProcessor.OnCheckStart` calls `Done` on a group it set up with `Add(2)`.

* `ConsumerPc.recv` and `ConsumerPc.close` are the loop and the deferred close of
  `save.RunWriteConsumer`.  `BatchState` holds the five goroutines' positions, the channels and
  the wait group, and `batchStep` is one statement of one goroutine.  In dry-run mode the
  consumers never confirm; otherwise the writers may confirm at any time.
* `BatchInv`: the wait group's counter is the number of draining goroutines that have ended.
  `batchStep_inv` keeps it, and `reaches_inv` carries it over every run.
* So `wg.Wait()` returns only while neither draining goroutine has ended
  (`batchStep_wait_drains`, and over every run `runBatchAction_wait_before_drains`), and once
  one has ended before the main goroutine passes `wg.Wait()`, it never passes
  (`waiting_forever`).
* `runBatchAction_wait_early_or_never` gives both schedules for every batch: `finishEvent` is
  sent while both draining goroutines are in their loops, or both end first and `wg.Wait()`
  never returns.
-/

namespace Klogproc.Main

open Klogproc.Go

/-- The two data channels of the batch run. -/
inductive Dest where
  | es
  | influx
  deriving DecidableEq, Repr

/-- Where the main goroutine of `runBatchAction` is (lines 107–112). -/
inductive MainPc where
  | proc
  | closeES
  | closeInflux
  | wait
  | finish
  | done
  deriving DecidableEq, Repr

/-- Where a `RunWriteConsumer` goroutine is: in its `range` loop, or at the deferred
`close(confirmChan)`. -/
inductive ConsumerPc where
  | ranging
  | closing
  | exited
  deriving DecidableEq, Repr

namespace ConsumerPc

variable {α κ : Type}

/-- One iteration of the `range` loop of `save.RunWriteConsumer` over its data channel: a record
is received, or the closed, empty channel ends the loop. -/
def recv (pc : ConsumerPc) (data : Chan α) : Step (ConsumerPc × Chan α) :=
  if pc = .ranging then
    match data.recv with
    | .next (some _, c) => .next (.ranging, c)
    | .next (none, c) => .next (.closing, c)
    | _ => .blocked
  else .blocked

/-- The deferred `close(confirmChan)` of `save.RunWriteConsumer`. -/
def close (pc : ConsumerPc) (confirm : Chan κ) : Step (ConsumerPc × Chan κ) :=
  if pc = .closing then
    match confirm.close with
    | .next c => .next (.exited, c)
    | _ => .panic
  else .blocked

theorem recv_ne_panic (pc : ConsumerPc) (data : Chan α) : pc.recv data ≠ .panic := by
  unfold recv
  split
  · split <;> exact Step.noConfusion
  · exact Step.noConfusion

/-- The loop only receives: the channel stays as open or closed as it was. -/
theorem recv_eq_next {pc pc' : ConsumerPc} {data c : Chan α} (h : pc.recv data = .next (pc', c)) :
    pc = .ranging ∧ pc' ≠ .exited ∧ c.closed = data.closed := by
  unfold recv at h
  split at h <;> try cases h
  split at h <;> cases h
  · next hr => exact ⟨‹_›, nofun, by obtain ⟨_, -, rfl⟩ := Chan.recv_eq_some.1 hr; rfl⟩
  · next hr => exact ⟨‹_›, nofun, by rw [(Chan.recv_eq_none.1 hr).2.2]⟩

/-- What one iteration of the loop does: it takes the first record of the buffer, or it leaves
the loop on the closed, empty channel. -/
theorem recv_cases {pc pc' : ConsumerPc} {data c : Chan α} (h : pc.recv data = .next (pc', c)) :
    pc = .ranging ∧
      ((pc' = .ranging ∧ ∃ v, data.buf = v :: c.buf ∧ c = { data with buf := c.buf }) ∨
        (pc' = .closing ∧ data.buf = [] ∧ data.closed = true ∧ c = data)) := by
  unfold recv at h
  split at h <;> try cases h
  split at h <;> cases h
  · next hr =>
    obtain ⟨rest, hb, rfl⟩ := Chan.recv_eq_some.1 hr
    exact ⟨‹_›, .inl ⟨rfl, _, hb, rfl⟩⟩
  · next hr =>
    obtain ⟨hb, hcl, rfl⟩ := Chan.recv_eq_none.1 hr
    exact ⟨‹_›, .inr ⟨rfl, hb, hcl, rfl⟩⟩

theorem close_eq_next {pc pc' : ConsumerPc} {confirm c : Chan κ}
    (h : pc.close confirm = .next (pc', c)) :
    pc = .closing ∧ pc' = .exited ∧ confirm.closed = false ∧
      c = { confirm with closed := true } := by
  unfold close at h
  split at h <;> try cases h
  split at h <;> try cases h
  next hc => exact ⟨‹_›, rfl, Chan.close_eq_next.1 hc⟩

theorem close_eq_panic {pc : ConsumerPc} {confirm : Chan κ} :
    pc.close confirm = .panic ↔ pc = .closing ∧ confirm.closed = true := by
  unfold close
  by_cases hpc : pc = .closing
  · by_cases hc : confirm.closed <;> simp [hpc, hc, Chan.close]
  · simp [hpc]

end ConsumerPc

/-- Where a goroutine that drains a confirmation channel is: in its `range` loop, at
`wg.Add(1)`, or ended. -/
inductive DrainPc where
  | ranging
  | adding
  | exited
  deriving DecidableEq, Repr

/-- The state of `runBatchAction` with records of type `α` and confirmations of type `κ`. -/
structure BatchState (α κ : Type) where
  dryRun : Bool
  main : MainPc
  pending : List (Dest × α)
  data : Dest → Chan α
  consumer : Dest → ConsumerPc
  confirm : Dest → Chan κ
  drain : Dest → DrainPc
  wg : WaitGroup

/-- One statement of one goroutine of `runBatchAction`. -/
inductive BatchEvent (κ : Type) where
  | send
  | procDone
  | closeES
  | closeInflux
  | wait
  | finish
  | consRecv (d : Dest)
  | consClose (d : Dest)
  | confirm (d : Dest) (k : κ)
  | drainEnd (d : Dest)
  | drainAdd (d : Dest)
  deriving DecidableEq, Repr

variable {α κ : Type}

/-- The state after `runBatchAction` has started its goroutines (lines 56–82), with the records
that `proc` will send: the data channels are buffered by the configured push chunk sizes (taken
positive; a zero size makes an unbuffered channel, whose sends `Chan.send` does not join with
receives), and the confirmation channels are unbuffered. -/
def batchInit (dryRun : Bool) (pending : List (Dest × α)) (esChunkSize influxChunkSize : Nat) :
    BatchState α κ where
  dryRun := dryRun
  main := .proc
  pending := pending
  data := fun d => match d with
    | .es => Chan.make (esChunkSize * 2)
    | .influx => Chan.make influxChunkSize
  consumer := fun _ => .ranging
  confirm := fun _ => Chan.make 0
  drain := fun _ => .ranging
  wg := ⟨0⟩

/-- One statement of one goroutine; `blocked` when the goroutine is elsewhere or cannot run. -/
def batchStep (s : BatchState α κ) : BatchEvent κ → Step (BatchState α κ)
  | .send =>
    match s.main, s.pending with
    | .proc, (d, v) :: rest =>
      match (s.data d).send v with
      | .next c => .next { s with pending := rest, data := Function.update s.data d c }
      | .blocked => .blocked
      | .panic => .panic
    | _, _ => .blocked
  | .procDone =>
    match s.main, s.pending with
    | .proc, [] => .next { s with main := .closeES }
    | _, _ => .blocked
  | .closeES =>
    if s.main = .closeES then
      match (s.data .es).close with
      | .next c => .next { s with main := .closeInflux, data := Function.update s.data .es c }
      | .blocked => .blocked
      | .panic => .panic
    else .blocked
  | .closeInflux =>
    if s.main = .closeInflux then
      match (s.data .influx).close with
      | .next c => .next { s with main := .wait, data := Function.update s.data .influx c }
      | .blocked => .blocked
      | .panic => .panic
    else .blocked
  | .wait =>
    match s.main, s.wg.wait with
    | .wait, .next () => .next { s with main := .finish }
    | _, _ => .blocked
  | .finish => if s.main = .finish then .next { s with main := .done } else .blocked
  | .consRecv d =>
    match (s.consumer d).recv (s.data d) with
    | .next (pc, c) =>
      .next { s with consumer := Function.update s.consumer d pc,
                     data := Function.update s.data d c }
    | .blocked => .blocked
    | .panic => .panic
  | .consClose d =>
    match (s.consumer d).close (s.confirm d) with
    | .next (pc, c) =>
      .next { s with consumer := Function.update s.consumer d pc,
                     confirm := Function.update s.confirm d c }
    | .blocked => .blocked
    | .panic => .panic
  | .confirm d _ =>
    if s.dryRun = false ∧ s.consumer d = .ranging ∧ s.drain d = .ranging then
      if (s.confirm d).closed then .panic else .next s
    else .blocked
  | .drainEnd d =>
    if s.drain d = .ranging ∧ (s.confirm d).closed = true then
      .next { s with drain := Function.update s.drain d .adding }
    else .blocked
  | .drainAdd d =>
    if s.drain d = .adding then
      match s.wg.add 1 with
      | .next wg => .next { s with drain := Function.update s.drain d .exited, wg := wg }
      | .blocked => .blocked
      | .panic => .panic
    else .blocked

/-- Whether the main goroutine has returned from `wg.Wait()`. -/
def MainPc.passedWait : MainPc → Bool
  | .finish | .done => true
  | _ => false

/-! ## What one step does to the wait group -/

section Step

variable {s s' : BatchState α κ} {e : BatchEvent κ}

/-- Only a draining goroutine moves itself or the wait group: it leaves its loop, or it
adds one to the counter. -/
theorem batchStep_drain_wg (h : batchStep s e = .next s') :
    (s'.drain = s.drain ∧ s'.wg = s.wg) ∨
    (∃ d, s.drain d = .ranging ∧ s'.drain = Function.update s.drain d .adding ∧
      s'.wg = s.wg) ∨
    (∃ d, s.drain d = .adding ∧ s'.drain = Function.update s.drain d .exited ∧
      s'.wg.counter = s.wg.counter + 1) := by
  cases e with
  | drainEnd d =>
    simp only [batchStep] at h
    split at h <;> try cases h
    exact .inr (.inl ⟨d, ‹_ ∧ _›.1, rfl, rfl⟩)
  | drainAdd d =>
    simp only [batchStep] at h
    split at h <;> try cases h
    split at h <;> try cases h
    next w hw => exact .inr (.inr ⟨d, ‹_›, rfl, WaitGroup.counter_of_add hw⟩)
  | _ =>
    simp only [batchStep] at h
    repeat' split at h
    all_goals first | cases h; exact .inl ⟨rfl, rfl⟩ | cases h

/-- The main goroutine passes `wg.Wait()` only in a step that finds the counter at zero. -/
theorem batchStep_passedWait (h : batchStep s e = .next s') (hp : s'.main.passedWait = true) :
    s.main.passedWait = true ∨ (e = .wait ∧ s.wg.counter = 0) := by
  cases e with
  | wait =>
    simp only [batchStep] at h
    split at h <;> try cases h
    next hw => exact .inr ⟨rfl, WaitGroup.counter_of_wait hw⟩
  | _ =>
    simp only [batchStep] at h
    repeat' split at h
    all_goals cases h <;> simp_all [MainPc.passedWait]

/-- A step keeps the counter positive and the main goroutine before `wg.Wait()` returns. -/
theorem batchStep_waiting (h : batchStep s e = .next s')
    (hs : 0 < s.wg.counter ∧ s.main.passedWait = false) :
    0 < s'.wg.counter ∧ s'.main.passedWait = false := by
  refine ⟨?_, Bool.eq_false_iff.2 fun hp => ?_⟩
  · rcases batchStep_drain_wg h with ⟨-, hw⟩ | ⟨-, -, -, hw⟩ | ⟨-, -, -, hw⟩ <;>
      rw [hw] <;> omega
  · rcases batchStep_passedWait h hp with hm | ⟨-, hc⟩
    · exact absurd hm (by simp [hs.2])
    · omega

end Step

/-! ## The wait group counts the ended draining goroutines -/

/-- The number of draining goroutines that have called `wg.Add(1)`. -/
def drainsEnded (f : Dest → DrainPc) : Nat :=
  (if f .es = .exited then 1 else 0) + (if f .influx = .exited then 1 else 0)

theorem drainsEnded_update (f : Dest → DrainPc) (d : Dest) (x : DrainPc) :
    drainsEnded (Function.update f d x) + (if f d = .exited then 1 else 0) =
      drainsEnded f + (if x = .exited then 1 else 0) := by
  cases d <;> simp only [drainsEnded, Function.update_apply, reduceCtorEq, if_true, if_false] <;>
    omega

/-- The invariant of `runBatchAction`: the wait group's counter is the number of ended draining
goroutines. -/
def BatchInv (s : BatchState α κ) : Prop := s.wg.counter = drainsEnded s.drain

theorem batchInit_inv (dryRun : Bool) (pending : List (Dest × α))
    (esChunkSize influxChunkSize : Nat) :
    BatchInv (batchInit dryRun pending esChunkSize influxChunkSize : BatchState α κ) := rfl

theorem batchStep_inv {s s' : BatchState α κ} {e : BatchEvent κ} (hs : BatchInv s)
    (h : batchStep s e = .next s') : BatchInv s' := by
  unfold BatchInv at *
  rcases batchStep_drain_wg h with ⟨hd, hw⟩ | ⟨d, hd0, hd, hw⟩ | ⟨d, hd0, hd, hw⟩
  · rw [hd, hw, hs]
  · have := drainsEnded_update s.drain d .adding
    simp only [hd0, reduceCtorEq, if_false] at this
    rw [hd, hw, hs]
    omega
  · have := drainsEnded_update s.drain d .exited
    simp only [hd0, reduceCtorEq, if_true, if_false] at this
    rw [hd, hw, hs]
    omega

/-- Every state that a run of `runBatchAction` reaches keeps the invariant. -/
theorem reaches_inv {dryRun : Bool} {pending : List (Dest × α)}
    {esChunkSize influxChunkSize : Nat} {es : List (BatchEvent κ)} {s : BatchState α κ}
    (h : run batchStep (batchInit dryRun pending esChunkSize influxChunkSize) es = .next s) :
    BatchInv s :=
  run_inv (fun _ _ _ => batchStep_inv) es _ s (batchInit_inv dryRun pending _ _) h

/-- `wg.Wait()` returns only while neither draining goroutine has ended: the draining goroutines
add to the counter, and nothing takes from it. -/
theorem batchStep_wait_drains {s s' : BatchState α κ} (hs : BatchInv s)
    (h : batchStep s .wait = .next s') :
    s.drain .es ≠ .exited ∧ s.drain .influx ≠ .exited := by
  have h0 : s.wg.counter = 0 := by
    simp only [batchStep] at h
    split at h <;> try cases h
    exact WaitGroup.counter_of_wait ‹_›
  rw [BatchInv, h0, drainsEnded] at hs
  constructor <;> intro hd <;> simp only [hd, if_true] at hs <;> omega

/-- Once the counter is positive before the main goroutine returns from `wg.Wait()`, no run lets
it return. -/
theorem waiting_forever {s : BatchState α κ} (hc : 0 < s.wg.counter)
    (hm : s.main.passedWait = false) (es : List (BatchEvent κ)) {s' : BatchState α κ}
    (h : run batchStep s es = .next s') : s'.main.passedWait = false :=
  (run_inv (I := fun s => 0 < s.wg.counter ∧ s.main.passedWait = false)
    (fun _ _ _ hs h => batchStep_waiting h hs) es s s' ⟨hc, hm⟩ h).2

/-! ## Two schedules of every batch -/

section Schedules

variable {s : BatchState α κ}

/-- The main goroutine is in `proc`, both data channels are open and empty with room for a record,
and no consumer or draining goroutine has ended. -/
structure Fresh (s : BatchState α κ) : Prop where
  main : s.main = .proc
  buf : ∀ d, (s.data d).buf = []
  dataOpen : ∀ d, (s.data d).closed = false
  cap : ∀ d, 0 < (s.data d).cap
  consumer : ∀ d, s.consumer d = .ranging
  confirmOpen : ∀ d, (s.confirm d).closed = false
  drain : ∀ d, s.drain d = .ranging
  wg : s.wg.counter = 0

theorem batchInit_fresh {dryRun : Bool} {pending : List (Dest × α)}
    {esChunkSize influxChunkSize : Nat} (hES : 0 < esChunkSize) (hInflux : 0 < influxChunkSize) :
    Fresh (batchInit dryRun pending esChunkSize influxChunkSize : BatchState α κ) where
  main := rfl
  buf d := by cases d <;> rfl
  dataOpen d := by cases d <;> rfl
  cap d := by cases d <;> simp [batchInit, Chan.make, hES, hInflux]
  consumer _ := rfl
  confirmOpen _ := rfl
  drain _ := rfl
  wg := rfl

/-- The records sent one at a time, each received by its consumer before the next is sent. -/
def feed (pending : List (Dest × α)) : List (BatchEvent κ) :=
  pending.flatMap fun p => [.send, .consRecv p.1]

/-- The record sent to channel `d` and received from it again. -/
def afterSendRecv (s : BatchState α κ) (rest : List (Dest × α)) (d : Dest) : BatchState α κ :=
  { s with pending := rest, consumer := Function.update s.consumer d .ranging,
           data := Function.update s.data d { s.data d with buf := [] } }

theorem run_sendRecv {d : Dest} {v : α} {rest : List (Dest × α)} (hs : Fresh s)
    (hp : s.pending = (d, v) :: rest) :
    run batchStep s [.send, .consRecv d] = .next (afterSendRecv s rest d) := by
  simp [run, batchStep, afterSendRecv, hs.main, hp, Chan.send, Chan.recv, ConsumerPc.recv,
    hs.buf, hs.dataOpen, hs.cap, hs.consumer]

theorem fresh_afterSendRecv (hs : Fresh s) (rest : List (Dest × α)) (d : Dest) :
    Fresh (afterSendRecv s rest d) where
  main := hs.main
  buf d' := by by_cases h : d' = d <;> simp [afterSendRecv, h, hs.buf]
  dataOpen d' := by by_cases h : d' = d <;> simp [afterSendRecv, h, hs.dataOpen]
  cap d' := by by_cases h : d' = d <;> simp [afterSendRecv, h, hs.cap]
  consumer d' := by by_cases h : d' = d <;> simp [afterSendRecv, h, hs.consumer]
  confirmOpen := hs.confirmOpen
  drain := hs.drain
  wg := hs.wg

/-- Sending every record, each received at once, leaves the run as fresh as it was. -/
theorem run_feed :
    ∀ (ps : List (Dest × α)) (s : BatchState α κ), Fresh s → s.pending = ps →
      ∃ s', run batchStep s (feed ps) = .next s' ∧ Fresh s' ∧ s'.pending = []
  | [], s, hs, hp => ⟨s, rfl, hs, hp⟩
  | (d, v) :: rest, s, hs, hp => by
    obtain ⟨s', h, hs', hp'⟩ := run_feed rest _ (fresh_afterSendRecv hs rest d) rfl
    refine ⟨s', ?_, hs', hp'⟩
    rw [feed, List.flatMap_cons, run_append_of_next batchStep (run_sendRecv hs hp)]
    exact h

/-- The state after `proc` returns and lines 109–110 close both data channels. -/
def closedData (s : BatchState α κ) : BatchState α κ :=
  { s with main := .wait,
           data := Function.update (Function.update s.data .es { s.data .es with closed := true })
             .influx { s.data .influx with closed := true } }

theorem run_closeData (hs : Fresh s) (hp : s.pending = []) :
    run batchStep s [.procDone, .closeES, .closeInflux] = .next (closedData s) := by
  simp [run, batchStep, closedData, hs.main, hp, Chan.close, hs.dataOpen]

/-- `wg.Wait()` on a zero counter, then the rest of the main goroutine up to `finishEvent`. -/
theorem run_wait (hs : Fresh s) :
    run batchStep (closedData s) [.wait] = .next { closedData s with main := .finish } := by
  simp [run, batchStep, closedData, WaitGroup.wait, hs.wg]

/-- A consumer ends on its closed data channel, and the goroutine draining it adds to the
wait group. -/
def drainOne (d : Dest) : List (BatchEvent κ) :=
  [.consRecv d, .consClose d, .drainEnd d, .drainAdd d]

/-- The state after `drainOne d`. -/
def drained (s : BatchState α κ) (d : Dest) : BatchState α κ :=
  { s with consumer := Function.update s.consumer d .exited,
           confirm := Function.update s.confirm d { s.confirm d with closed := true },
           drain := Function.update s.drain d .exited, wg := ⟨s.wg.counter + 1⟩ }

theorem run_drainOne {d : Dest} (hc : s.consumer d = .ranging) (hb : (s.data d).buf = [])
    (hcl : (s.data d).closed = true) (hk : (s.confirm d).closed = false)
    (hd : s.drain d = .ranging) (hw : 0 ≤ s.wg.counter) :
    run batchStep s (drainOne d) = .next (drained s d) := by
  have hw' : ¬ s.wg.counter + 1 < 0 := by omega
  simp [run, batchStep, drainOne, drained, hc, ConsumerPc.recv, ConsumerPc.close, Chan.recv,
    Chan.close, hb, hcl, hk, hd, WaitGroup.add, hw']

/-- Whatever the batch, `finishEvent` can be sent while both draining goroutines are still in
their loops; and both can end before `wg.Wait()`, which then never returns. -/
theorem runBatchAction_wait_early_or_never (dryRun : Bool) (pending : List (Dest × α))
    (esChunkSize influxChunkSize : Nat) (hES : 0 < esChunkSize) (hInflux : 0 < influxChunkSize) :
    (∃ s, run batchStep (batchInit dryRun pending esChunkSize influxChunkSize : BatchState α κ)
        (feed pending ++ [.procDone, .closeES, .closeInflux] ++ [.wait]) = .next s ∧
      s.main = .finish ∧ s.drain .es = .ranging ∧ s.drain .influx = .ranging) ∧
    (∃ s, run batchStep (batchInit dryRun pending esChunkSize influxChunkSize : BatchState α κ)
        (feed pending ++ [.procDone, .closeES, .closeInflux] ++ drainOne .es ++ drainOne .influx) =
          .next s ∧
      s.main = .wait ∧ s.drain .es = .exited ∧ s.drain .influx = .exited ∧
      ∀ es s', run batchStep s es = .next s' → s'.main.passedWait = false) := by
  obtain ⟨s, hrun, hs, hp⟩ :=
    run_feed pending (batchInit dryRun pending esChunkSize influxChunkSize : BatchState α κ)
      (batchInit_fresh hES hInflux) rfl
  have hclosed : run batchStep (batchInit dryRun pending esChunkSize influxChunkSize)
      (feed pending ++ [.procDone, .closeES, .closeInflux]) = .next (closedData s) := by
    rw [run_append_of_next batchStep hrun, run_closeData hs hp]
  have hRunES : run batchStep (closedData s) (drainOne .es) = .next (drained (closedData s) .es) :=
    run_drainOne (hs.consumer .es) (by simp [closedData, hs.buf]) (by simp [closedData])
      (hs.confirmOpen .es) (hs.drain .es) (by simp [closedData, hs.wg])
  have hRunInflux : run batchStep (drained (closedData s) .es) (drainOne .influx) =
      .next (drained (drained (closedData s) .es) .influx) :=
    run_drainOne (by simp [drained, closedData, hs.consumer])
      (by simp [drained, closedData, hs.buf])
      (by simp [drained, closedData]) (by simp [drained, closedData, hs.confirmOpen])
      (by simp [drained, closedData, hs.drain]) (by simp [drained, closedData, hs.wg])
  refine ⟨⟨{ closedData s with main := .finish },
      by rw [run_append_of_next batchStep hclosed, run_wait hs], rfl, hs.drain .es,
      hs.drain .influx⟩,
    ⟨drained (drained (closedData s) .es) .influx, ?_, rfl, by simp [drained],
      by simp [drained], fun es s' h => ?_⟩⟩
  · rw [run_append_of_next batchStep (by rw [run_append_of_next batchStep hclosed, hRunES]),
      hRunInflux]
  · exact waiting_forever (s := drained (drained (closedData s) .es) .influx)
      (by simp [drained, closedData, hs.wg]) rfl es h

/-- The schedules on a batch of one record for each channel, in dry-run mode. -/
theorem runBatchAction_wait_early_or_never_dryRun :
    (∃ s, run batchStep (batchInit true [(.es, ()), (.influx, ())] 1 1 : BatchState Unit Unit)
        (feed [(.es, ()), (.influx, ())] ++ [.procDone, .closeES, .closeInflux] ++ [.wait]) =
          .next s ∧
      s.main = .finish ∧ s.drain .es = .ranging ∧ s.drain .influx = .ranging) ∧
    (∃ s, run batchStep (batchInit true [(.es, ()), (.influx, ())] 1 1 : BatchState Unit Unit)
        (feed [(.es, ()), (.influx, ())] ++ [.procDone, .closeES, .closeInflux] ++ drainOne .es ++
          drainOne .influx) = .next s ∧
      s.main = .wait ∧ s.drain .es = .exited ∧ s.drain .influx = .exited ∧
      ∀ es s', run batchStep s es = .next s' → s'.main.passedWait = false) :=
  runBatchAction_wait_early_or_never true _ 1 1 (by decide) (by decide)

/-- Over every run of `runBatchAction`, `wg.Wait()` returns only while neither draining goroutine
has ended: it never waits for them. -/
theorem runBatchAction_wait_before_drains (dryRun : Bool) (pending : List (Dest × α))
    (esChunkSize influxChunkSize : Nat) (es : List (BatchEvent κ)) (s s' : BatchState α κ)
    (h : run batchStep (batchInit dryRun pending esChunkSize influxChunkSize) es = .next s)
    (hw : batchStep s .wait = .next s') :
    s.drain .es ≠ .exited ∧ s.drain .influx ≠ .exited :=
  batchStep_wait_drains (reaches_inv h) hw

theorem runBatchAction_wait_before_drains_dryRun :
    ∃ s s', run batchStep (batchInit true [(.es, ()), (.influx, ())] 1 1 : BatchState Unit Unit)
        (feed [(.es, ()), (.influx, ())] ++ [.procDone, .closeES, .closeInflux]) = .next s ∧
      batchStep s .wait = .next s' ∧ s.drain .es ≠ .exited ∧ s.drain .influx ≠ .exited :=
  have ⟨s, hrun, hs, hp⟩ := run_feed [(.es, ()), (.influx, ())]
    (batchInit true _ 1 1 : BatchState Unit Unit) (batchInit_fresh (by decide) (by decide)) rfl
  have h1 : run batchStep (batchInit true [(.es, ()), (.influx, ())] 1 1 : BatchState Unit Unit)
      (feed [(.es, ()), (.influx, ())] ++ [.procDone, .closeES, .closeInflux]) =
        .next (closedData s) := by
    rw [run_append_of_next batchStep hrun, run_closeData hs hp]
  have h2 : batchStep (closedData s) .wait = .next { closedData s with main := .finish } := by
    simp [batchStep, closedData, WaitGroup.wait, hs.wg]
  ⟨_, _, h1, h2, runBatchAction_wait_before_drains true _ 1 1 _ _ _ h1 h2⟩

end Schedules

end Klogproc.Main
