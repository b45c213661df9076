import Klogproc.Main.TailProcessor

/-!
# Every check ends and delivers every message

The results of `Klogproc.Main.TailProcessor` hold of every run, and a run that stops early
satisfies them too.  This module shows that a check goes on to its end.

* `TailState.work` is what is left to run: two for each send on `dataWriter.Elastic` that
  `OnEntry` has still to make and three for each on `dataWriter.Ignored`, one for each record or
  message in a buffer, and the statements that each goroutine has still to run.  Every
  statement lowers it but a confirmation of the sink, which raises it by two
  (`tailStep_work`); so a run makes at most `work + 2 * c` other statements, where `c` is the
  number of its confirmations (`run_work`).
* `TailState.Finished`: `OnCheckStop` has closed both inputs after the last send, the sink and
  every goroutine of `OnCheckStart` have returned, `itemConfirm` is closed, and the tail
  watcher has read it to its end and received every message once.
* `TailInv.finished_of_stuck`: under the invariant, a state where no statement but a
  confirmation can run is finished.  The lemmas `TailInv.*_blocked` say what a statement that
  cannot run tells of the state.
* So a run that stops only where no such statement can run ends finished, after at most
  `work + 2 * c` statements, and such a run exists from every reachable state
  (`TailInv.exists_finish`).  `onCheckStart_forwards_exactly_once` is the result over every run.
-/

namespace Klogproc.Main

open Klogproc.Go

variable {ρ μ : Type}

/-- Whether the event is a confirmation of the sink. -/
def TailEvent.isEmit : TailEvent μ → Bool
  | .sinkEmit _ => true
  | _ => false

/-! ## What is left to run -/

/-- What a send of `OnEntry` still costs: its send and the sink's receive, or its send, the
forward and the watcher's receive. -/
def Out.work : Out ρ μ → Nat
  | .elastic _ => 2
  | .ignored _ => 3

/-- The closes that `OnCheckStop` has still to make. -/
def ProducerPc.work : ProducerPc → Nat
  | .entries => 2
  | .closingIgnored => 1
  | .stopped => 0

/-- The statements that the sink has still to run, but its receives and confirmations. -/
def ConsumerPc.work : ConsumerPc → Nat
  | .ranging => 2
  | .closing => 1
  | .exited => 0

/-- The statements that a forwarder has still to run, and the receive of the message it
holds. -/
def FwdPc.work : FwdPc μ → Nat
  | .receiving => 2
  | .forwarding _ => 4
  | .done => 1
  | .exited => 0

/-- The statements that the merging goroutine has still to run. -/
def MergerPc.work : MergerPc → Nat
  | .waiting => 2
  | .closing => 1
  | .exited => 0

/-- What is left to run in a check, but the sink's confirmations. -/
def TailState.work (s : TailState ρ μ) : Nat :=
  s.pending.foldr (fun o n => o.work + n) 0 + s.producer.work + s.elastic.buf.length +
    s.sink.work + fwdTotal FwdPc.work s.fwd + s.itemConfirm.buf.length + s.merger.work +
    if s.watching then 1 else 0

section Work

variable {s s' : TailState ρ μ} {e : TailEvent μ}

/-- A forwarder that moves changes the work by the difference of its weights. -/
theorem fwdTotal_work_update {f : Fwd → FwdPc μ} {i : Fwd} {x y : FwdPc μ} (hf : f i = y) :
    fwdTotal FwdPc.work (Function.update f i x) + y.work = fwdTotal FwdPc.work f + x.work :=
  hf ▸ fwdTotal_update f i x FwdPc.work

/-- Every statement lowers the work, but a confirmation of the sink, which raises it by two. -/
theorem tailStep_work (h : tailStep s e = .next s') :
    s'.work + 1 ≤ s.work + if e.isEmit then 3 else 0 := by
  cases e <;> simp only [tailStep] at h <;>
    simp only [TailEvent.isEmit, Bool.false_eq_true, if_true, if_false, Nat.add_zero]
  case sendElastic =>
    split at h <;> try cases h
    next hpe =>
    split at h
    · split at h <;> try cases h
      split at h <;> cases h
      simp only [TailState.work, hpe, List.foldr_cons, Out.work]
      omega
    · split at h <;> try cases h
      next c hc =>
      obtain ⟨-, -, rfl⟩ := Chan.send_eq_next.1 hc
      simp only [TailState.work, hpe, List.foldr_cons, Out.work, List.length_append,
        List.length_singleton]
      omega
  case sendIgnored =>
    split at h <;> try cases h
    next m _ _ hpe hf =>
    split at h <;> cases h
    have := fwdTotal_work_update (x := .forwarding m) hf
    simp only [TailState.work, hpe, List.foldr_cons, Out.work, FwdPc.work] at this ⊢
    omega
  case closeElastic =>
    split at h <;> try cases h
    next hp _ =>
    split at h <;> try cases h
    next c hc =>
    obtain ⟨-, rfl⟩ := Chan.close_eq_next.1 hc
    simp only [TailState.work, hp, ProducerPc.work]
    omega
  case closeIgnored =>
    split at h <;> try cases h
    next hp =>
    split at h <;> try cases h
    next c hc =>
    obtain ⟨-, rfl⟩ := Chan.close_eq_next.1 hc
    simp only [TailState.work, hp, ProducerPc.work]
    omega
  case sinkRecv =>
    split at h <;> try cases h
    next pc c hr =>
    obtain ⟨hpc, ⟨rfl, v, hb, -⟩ | ⟨rfl, -, -, rfl⟩⟩ := ConsumerPc.recv_cases hr
    · simp only [TailState.work, hb, hpc, List.length_cons]
      omega
    · simp only [TailState.work, hpc, ConsumerPc.work]
      omega
  case sinkEmit m =>
    split at h <;> try cases h
    next hf =>
    split at h <;> try cases h
    split at h <;> cases h
    have := fwdTotal_work_update (x := .forwarding m) hf
    simp only [TailState.work, FwdPc.work] at this ⊢
    omega
  case sinkClose =>
    split at h <;> try cases h
    next pc c hc =>
    obtain ⟨hpc, rfl, -, rfl⟩ := ConsumerPc.close_eq_next hc
    simp only [TailState.work, hpc, ConsumerPc.work]
    omega
  case fwdEnd i =>
    split at h <;> try cases h
    next hf =>
    split at h <;> cases h
    have := fwdTotal_work_update (x := .done) hf
    simp only [TailState.work, FwdPc.work] at this ⊢
    omega
  case fwdSend i =>
    split at h <;> try cases h
    next m hf =>
    split at h <;> try cases h
    next c hc =>
    obtain ⟨-, -, rfl⟩ := Chan.send_eq_next.1 hc
    have := fwdTotal_work_update (x := .receiving) hf
    simp only [TailState.work, FwdPc.work, List.length_append, List.length_singleton] at this ⊢
    omega
  case fwdDone i =>
    split at h <;> try cases h
    next hf =>
    split at h <;> try cases h
    have := fwdTotal_work_update (x := .exited) hf
    simp only [TailState.work, FwdPc.work] at this ⊢
    omega
  case mergeWait =>
    split at h <;> try cases h
    next hm _ =>
    simp only [TailState.work, hm, MergerPc.work]
    omega
  case mergeClose =>
    split at h <;> try cases h
    next hm =>
    split at h <;> try cases h
    next c hc =>
    obtain ⟨-, rfl⟩ := Chan.close_eq_next.1 hc
    simp only [TailState.work, hm, MergerPc.work]
    omega
  case watch =>
    split at h <;> try cases h
    next hwt =>
    split at h <;> try cases h
    · next m c hr =>
      obtain ⟨rest, hb, rfl⟩ := Chan.recv_eq_some.1 hr
      simp only [TailState.work, hb, List.length_cons]
      omega
    · simp only [TailState.work, hwt, if_true, Bool.false_eq_true, if_false]
      omega

/-- A run makes at most `work + 2 * c` statements that are not confirmations of the sink, where
`c` is the number of its confirmations. -/
theorem run_work : ∀ (es : List (TailEvent μ)) (s s' : TailState ρ μ),
    run tailStep s es = .next s' →
      es.countP (fun e => !e.isEmit) + s'.work ≤ s.work + 2 * es.countP TailEvent.isEmit
  | [], _, _, h => by cases h; simp
  | e :: es, s, s', h => by
    simp only [run] at h
    split at h <;> try cases h
    next s₁ h₁ =>
    have h1 := tailStep_work h₁
    have h2 := run_work es s₁ s' h
    cases he : e.isEmit <;> simp only [he, List.countP_cons, Bool.not_true, Bool.not_false,
      if_true, if_false, Bool.false_eq_true] at h1 ⊢ <;> omega

end Work

/-! ## Where no statement can run -/

/-- A check that has ended: `OnCheckStop` has closed both inputs after the last send of
`OnEntry`, the sink and every goroutine of `OnCheckStart` have returned, `itemConfirm` is
closed, and the tail watcher has read it to its end and received every message once. -/
structure TailState.Finished (s : TailState ρ μ) : Prop where
  stopped : s.producer = .stopped
  pending : s.pending = []
  sink : s.sink = .exited
  fwd : ∀ i, s.fwd i = .exited
  merger : s.merger = .exited
  closed : s.itemConfirm.closed = true
  watched : s.watching = false
  delivered : s.emitted.Perm s.delivered

theorem FwdPc.eq_exited {x : FwdPc μ} (h : x.isExited = true) : x = .exited := by
  cases x <;> first | rfl | cases h

section Stuck

variable {s : TailState ρ μ}

/-- Once the watcher has read `itemConfirm` to its end, the check has ended. -/
theorem TailInv.finished_of_not_watching (hs : TailInv s) (hw : s.watching = false) :
    s.Finished := by
  obtain ⟨hc, hb⟩ := hs.watched hw
  have hm := hs.itemClosed.1 hc
  have hx : ∀ i, (s.fwd i).isExited = true := hs.merged (by rw [hm]; exact nofun)
  have hp := hs.ignoredClosed.1 (hs.ended .ignored (FwdPc.isEnded_of_isExited (hx _)))
  refine ⟨hp, hs.sent (by rw [hp]; exact nofun),
    hs.sinkClosed.1 (hs.ended .sink (FwdPc.isEnded_of_isExited (hx _))),
    fun i => FwdPc.eq_exited (hx i), hm, hc, hw, ?_⟩
  simpa [hb, inFlight, FwdPc.held_of_isExited (hx _)] using hs.perm

theorem TailInv.watch_blocked (h : tailStep s .watch = .blocked) (hw : s.watching = true) :
    s.itemConfirm.buf = [] ∧ s.itemConfirm.closed = false := by
  simp only [tailStep, hw, if_true] at h
  cases hb : s.itemConfirm.buf with
  | cons v rest => simp [Chan.recv, hb] at h
  | nil =>
    cases hc : s.itemConfirm.closed
    · exact ⟨rfl, rfl⟩
    · simp [Chan.recv, hb, hc] at h

theorem TailInv.mergeClose_blocked (hs : TailInv s) (h : tailStep s .mergeClose = .blocked) :
    s.merger ≠ .closing := fun hm => by
  have hc : s.itemConfirm.closed = false := by simpa [hm] using mt hs.itemClosed.1
  simp [tailStep, hm, Chan.close, hc] at h

theorem TailInv.mergeWait_blocked (hs : TailInv s) (h : tailStep s .mergeWait = .blocked)
    (hm : s.merger = .waiting) : running s.fwd ≠ 0 := fun h0 => by
  simp [tailStep, hm, WaitGroup.wait, hs.counter, h0] at h

theorem TailInv.fwdDone_blocked (hs : TailInv s) {i : Fwd}
    (h : tailStep s (.fwdDone i) = .blocked) : s.fwd i ≠ .done := fun hf => by
  have := running_update_exited s.fwd i (by rw [hf]; rfl)
  have hpos : ¬((running s.fwd : Int) + -1 < 0) := by omega
  simp [tailStep, hf, WaitGroup.done, WaitGroup.add, hs.counter, hpos] at h

theorem TailInv.fwdSend_blocked (hs : TailInv s) {i : Fwd} {m : μ}
    (h : tailStep s (.fwdSend i) = .blocked) (hf : s.fwd i = .forwarding m)
    (hc : s.itemConfirm.closed = false) : 10 ≤ s.itemConfirm.buf.length := by
  by_contra hlt
  simp [tailStep, hf, Chan.send, hc, hs.itemCap, Nat.lt_of_not_le hlt] at h

theorem TailInv.fwdEnd_blocked {i : Fwd} (h : tailStep s (.fwdEnd i) = .blocked)
    (hf : s.fwd i = .receiving) : s.sourceClosed i = false := by
  simpa [tailStep, hf] using h

theorem TailInv.sinkClose_blocked (hs : TailInv s) (h : tailStep s .sinkClose = .blocked) :
    s.sink ≠ .closing := fun hpc => by
  have hc : s.sinkConfirm.closed = false := by simpa [hpc] using mt hs.sinkClosed.1
  simp [tailStep, ConsumerPc.close, hpc, Chan.close, hc] at h

theorem TailInv.sinkRecv_blocked (h : tailStep s .sinkRecv = .blocked)
    (hpc : s.sink = .ranging) : s.elastic.buf = [] ∧ s.elastic.closed = false := by
  cases hb : s.elastic.buf with
  | cons v rest => simp [tailStep, ConsumerPc.recv, hpc, Chan.recv, hb] at h
  | nil =>
    cases hc : s.elastic.closed
    · exact ⟨rfl, rfl⟩
    · simp [tailStep, ConsumerPc.recv, hpc, Chan.recv, hb, hc] at h

theorem TailInv.closeIgnored_blocked (hs : TailInv s) (h : tailStep s .closeIgnored = .blocked) :
    s.producer ≠ .closingIgnored := fun hp => by
  have hc : s.ignored.closed = false := by simpa [hp] using mt hs.ignoredClosed.1
  simp [tailStep, hp, Chan.close, hc] at h

theorem TailInv.closeElastic_blocked (hs : TailInv s) (h : tailStep s .closeElastic = .blocked)
    (hp : s.producer = .entries) : s.pending ≠ [] := fun hpe => by
  have hc : s.elastic.closed = false := by simpa [hp] using mt hs.elasticClosed.1
  simp [tailStep, hp, hpe, Chan.close, hc] at h

theorem TailInv.sendIgnored_blocked (hs : TailInv s) (h : tailStep s .sendIgnored = .blocked)
    (hp : s.producer = .entries) {m : μ} {rest : List (Out ρ μ)}
    (hpe : s.pending = .ignored m :: rest) : s.fwd .ignored ≠ .receiving := fun hf => by
  have hc : s.ignored.closed = false := by simpa [hp] using mt hs.ignoredClosed.1
  simp [tailStep, hp, hpe, hf, hc] at h

theorem TailInv.sendElastic_blocked (hs : TailInv s) (h : tailStep s .sendElastic = .blocked)
    (hp : s.producer = .entries) {r : ρ} {rest : List (Out ρ μ)}
    (hpe : s.pending = .elastic r :: rest) :
    (s.elastic.cap = 0 → s.sink ≠ .ranging) ∧
      (s.elastic.cap ≠ 0 → s.elastic.cap ≤ s.elastic.buf.length) := by
  have hc : s.elastic.closed = false := by simpa [hp] using mt hs.elasticClosed.1
  refine ⟨fun h0 hr => by simp [tailStep, hp, hpe, hc, h0, hr] at h, fun h0 => ?_⟩
  by_contra hlt
  simp [tailStep, hp, hpe, hc, h0, Chan.send, Nat.lt_of_not_le hlt] at h

/-- Under the invariant, a state where no statement but a confirmation of the sink can run is
finished: the watcher has read `itemConfirm` to its end. -/
theorem TailInv.finished_of_stuck (hs : TailInv s)
    (hb : ∀ e, e.isEmit = false → tailStep s e = .blocked) : s.Finished := by
  refine hs.finished_of_not_watching (Bool.eq_false_iff.2 fun hw => ?_)
  obtain ⟨hib, hic⟩ := TailInv.watch_blocked (hb .watch rfl) hw
  -- the merging goroutine waits, so some forwarder has not called `Done`
  have hm : s.merger = .waiting := by
    cases hm : s.merger
    · rfl
    · exact absurd hm (hs.mergeClose_blocked (hb .mergeClose rfl))
    · simp [hs.itemClosed.2 hm] at hic
  have hrun := hs.mergeWait_blocked (hb .mergeWait rfl) hm
  -- each forwarder that has not called `Done` waits in its loop on an open channel
  have hfwd : ∀ i, (s.fwd i).isExited = false →
      s.fwd i = .receiving ∧ s.sourceClosed i = false := by
    intro i hx
    cases hf : s.fwd i with
    | receiving => exact ⟨rfl, TailInv.fwdEnd_blocked (hb (.fwdEnd i) rfl) hf⟩
    | forwarding m =>
      have := hs.fwdSend_blocked (hb (.fwdSend i) rfl) hf hic
      simp [hib] at this
    | done => exact absurd hf (hs.fwdDone_blocked (hb (.fwdDone i) rfl))
    | exited => simp [hf, FwdPc.isExited] at hx
  -- with `dataWriter.Elastic` open, the sink ranges over it
  have hranging : s.producer = .entries → s.sink = .ranging := fun hp => by
    by_contra hr
    exact hs.elasticClosed.1 (hs.sinkLeft hr) hp
  -- `OnEntry` has a send left that can run
  have hentries : s.producer ≠ .entries := fun hp => by
    match hpe : s.pending with
    | [] => exact hs.closeElastic_blocked (hb .closeElastic rfl) hp hpe
    | .elastic r :: rest =>
      have ⟨h0, hcap⟩ := hs.sendElastic_blocked (hb .sendElastic rfl) hp hpe
      have hbuf := (TailInv.sinkRecv_blocked (hb .sinkRecv rfl) (hranging hp)).1
      by_cases hc0 : s.elastic.cap = 0
      · exact h0 hc0 (hranging hp)
      · exact hc0 (by simpa [hbuf] using hcap hc0)
    | .ignored m :: rest =>
      have hf := hs.sendIgnored_blocked (hb .sendIgnored rfl) hp hpe
      cases hx : (s.fwd .ignored).isExited
      · exact hf (hfwd .ignored hx).1
      · have := hs.ignoredClosed.1 (hs.ended .ignored (FwdPc.isEnded_of_isExited hx))
        rw [hp] at this
        cases this
  -- so `OnCheckStop` has closed both inputs, and no forwarder is left to run
  have hstop : s.producer = .stopped := by
    cases hp : s.producer
    · exact absurd hp hentries
    · exact absurd hp (hs.closeIgnored_blocked (hb .closeIgnored rfl))
    · rfl
  have hig : (s.fwd .ignored).isExited = true := by
    by_contra hx
    have := (hfwd .ignored (by simpa using hx)).2
    simp [TailState.sourceClosed, hs.ignoredClosed.2 hstop] at this
  have hsk : (s.fwd .sink).isExited = true := by
    by_contra hx
    have hsc := (hfwd .sink (by simpa using hx)).2
    simp only [TailState.sourceClosed] at hsc
    have hsink : s.sink = .ranging := by
      cases hk : s.sink
      · rfl
      · exact absurd hk (hs.sinkClose_blocked (hb .sinkClose rfl))
      · simp [hs.sinkClosed.2 hk] at hsc
    have := (TailInv.sinkRecv_blocked (hb .sinkRecv rfl) hsink).2
    simp [hs.elasticClosed.2 (by rw [hstop]; exact nofun)] at this
  exact hrun (by simp [running, fwdTotal, hig, hsk])

/-- From every state of the invariant, some run of statements that are not confirmations of the
sink finishes the check. -/
theorem TailInv.exists_finish (hs : TailInv s) :
    ∃ es s', es.all (fun e => !e.isEmit) ∧ run tailStep s es = .next s' ∧ s'.Finished := by
  generalize hn : s.work = n
  induction n using Nat.strong_induction_on generalizing s with
  | _ n ih =>
  by_cases hb : ∀ e, e.isEmit = false → tailStep s e = .blocked
  · exact ⟨[], s, rfl, rfl, hs.finished_of_stuck hb⟩
  · push_neg at hb
    obtain ⟨e, he, hne⟩ := hb
    cases h : tailStep s e with
    | next s₁ =>
      have hw := tailStep_work h
      simp only [he, Bool.false_eq_true, if_false] at hw
      obtain ⟨es, s', hall, hrun, hf⟩ := ih s₁.work (by omega) (tailStep_inv hs h) rfl
      exact ⟨e :: es, s', by simp [he, hall], by rw [run_cons_of_next _ h, hrun], hf⟩
    | blocked => exact absurd h hne
    | panic => exact absurd h (tailStep_ne_panic hs e)

end Stuck

/-! ## Every run of a check -/

/-- Over every run of a check: no statement panics; what the sink confirmed and what was sent
on `dataWriter.Ignored` is, as a multiset, what the tail watcher received, what waits in
`itemConfirm` and what the forwarders hold; once `itemConfirm` is closed, both inputs are
closed, the sink has ended, every message was delivered or waits in `itemConfirm`, and no later
statement emits one; once the watcher has read `itemConfirm` to its end, it has received every
message exactly once.  And the check goes on to its end: every continuation makes at most
`work + 2 * c` statements besides its `c` confirmations, a continuation that stops only where
nothing but a confirmation could run ends with both inputs closed, every goroutine returned,
`itemConfirm` closed and every message delivered exactly once, and such a continuation
exists. -/
theorem onCheckStart_forwards_exactly_once (dryRun : Bool) (pending : List (Out ρ μ))
    (elasticChunkSize : Nat) (es : List (TailEvent μ)) :
    run tailStep (tailInit dryRun pending elasticChunkSize) es ≠ .panic ∧
    ∀ s, run tailStep (tailInit dryRun pending elasticChunkSize) es = .next s →
      s.emitted.Perm (s.delivered ++ s.itemConfirm.buf ++ inFlight s.fwd) ∧
      (s.itemConfirm.closed = true →
        s.elastic.closed = true ∧ s.ignored.closed = true ∧ s.sink = .exited ∧
        s.emitted.Perm (s.delivered ++ s.itemConfirm.buf) ∧
        ∀ es' s', run tailStep s es' = .next s' → s'.emitted = s.emitted) ∧
      (s.watching = false → s.emitted.Perm s.delivered) ∧
      (∀ es' s', run tailStep s es' = .next s' →
        es'.countP (fun e => !e.isEmit) + s'.work ≤ s.work + 2 * es'.countP TailEvent.isEmit) ∧
      (∀ es' s', run tailStep s es' = .next s' →
        (∀ e, e.isEmit = false → tailStep s' e = .blocked) → s'.Finished) ∧
      ∃ es' s', es'.all (fun e => !e.isEmit) ∧ run tailStep s es' = .next s' ∧ s'.Finished := by
  refine ⟨run_ne_panic (fun _ _ _ => tailStep_inv) (fun _ e hs => tailStep_ne_panic hs e) es _
    (tailInit_inv dryRun pending elasticChunkSize), fun s h => ?_⟩
  have hs := tailReach_inv h
  have hx : s.itemConfirm.closed = true → ∀ i, (s.fwd i).isExited = true := fun hc =>
    hs.merged (by rw [hs.itemClosed.1 hc]; exact nofun)
  have hignored : s.itemConfirm.closed = true → s.ignored.closed = true := fun hc =>
    hs.ended .ignored (FwdPc.isEnded_of_isExited (hx hc _))
  have hreach : ∀ es' s', run tailStep s es' = .next s' → TailInv s' := fun es' s' =>
    run_inv (fun _ _ _ => tailStep_inv) es' s s' hs
  refine ⟨hs.perm, fun hc => ⟨?_, hignored hc, ?_, ?_, ?_⟩,
    fun hw => (hs.finished_of_not_watching hw).delivered, fun es' s' => run_work es' s s',
    fun es' s' h' => (hreach es' s' h').finished_of_stuck, hs.exists_finish⟩
  · exact hs.elasticClosed.2 (by rw [hs.ignoredClosed.1 (hignored hc)]; exact nofun)
  · exact hs.sinkClosed.1 (hs.ended .sink (FwdPc.isEnded_of_isExited (hx hc _)))
  · simpa [inFlight, FwdPc.held_of_isExited (hx hc _)] using hs.perm
  · intro es' s' h'
    exact (run_inv (I := fun t => (∀ i, (t.fwd i).isExited = true) ∧ t.emitted = s.emitted)
      (fun _ _ _ ht h => tailStep_frozen ht.1 ht.2 h) es' s s' ⟨hx hc, rfl⟩ h').2

end Klogproc.Main
