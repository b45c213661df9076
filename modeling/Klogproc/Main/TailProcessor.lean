import Klogproc.Main.RunBatchAction

/-!
# The confirmation merge of `tailProcessor`

`tailProcessor.OnCheckStart` makes `itemConfirm`, buffered for ten messages, and the two inputs
of a check: `dataWriter.Elastic`, buffered for twice the chunk size, and `dataWriter.Ignored`,
unbuffered.  A goroutine adds two to `waitMergeEnd` and starts the sink consumer on
`dataWriter.Elastic` and two forwarding goroutines: one copies the sink's confirmations to
`itemConfirm`, the other copies `dataWriter.Ignored` to it, and each calls `waitMergeEnd.Done()`
after its loop.  The goroutine then waits for both and closes `itemConfirm`.  `OnEntry` sends on
the two inputs, `OnCheckStop` closes them, and the tail watcher reads `itemConfirm` to its end.

* `TailState` holds every goroutine's position, the five channels and the wait group, and two
  lists that no code reads: `emitted`, every confirmation of the sink and every message sent on
  `dataWriter.Ignored`, in the order they were sent, and `delivered`, every message the tail
  watcher received from `itemConfirm`.  `tailStep` is one statement of one goroutine; a send on
  an unbuffered channel meets its receive in one event.
* In dry-run mode the sink is `save.RunWriteConsumer`, which never confirms.  Otherwise it is
  `elastic.RunWriteConsumer`, whose code this model does not have: it may confirm at any time
  until it closes its channel, which it does once its input is closed and empty.
* `TailInv` is the invariant: the counter counts the forwarding goroutines that have not called
  `Done`, each channel is closed exactly when its closer has passed `close`, the sink leaves its
  loop only on a closed input, and `emitted` is a permutation of `delivered`, the buffer of
  `itemConfirm` and the messages the forwarders hold.  `tailStep_inv` keeps it and
  `tailStep_ne_panic` shows that no statement panics under it.
* `Klogproc.Main.TailProgress` shows that every check goes on to its end.
-/

namespace Klogproc.Main

open Klogproc.Go

/-- A send of `OnEntry`: a record on `dataWriter.Elastic`, or a message on
`dataWriter.Ignored`. -/
inductive Out (ρ μ : Type) where
  | elastic (r : ρ)
  | ignored (m : μ)
  deriving DecidableEq, Repr

/-- Where the goroutine that calls `OnEntry` and then `OnCheckStop` is. -/
inductive ProducerPc where
  | entries
  | closingIgnored
  | stopped
  deriving DecidableEq, Repr

/-- The two forwarding goroutines of `OnCheckStart`: from the sink's confirmations
(lines 84–89, or 95–100) and from `dataWriter.Ignored` (lines 102–107). -/
inductive Fwd where
  | sink
  | ignored
  deriving DecidableEq, Repr

/-- Where a forwarding goroutine is: in its `range` loop, holding a message for
`itemConfirm <- item`, at `waitMergeEnd.Done()`, or ended. -/
inductive FwdPc (μ : Type) where
  | receiving
  | forwarding (m : μ)
  | done
  | exited
  deriving DecidableEq, Repr

/-- Where the goroutine that waits for the forwarders is (lines 108–109). -/
inductive MergerPc where
  | waiting
  | closing
  | exited
  deriving DecidableEq, Repr

namespace FwdPc

variable {μ : Type}

/-- The message the forwarder holds. -/
def held : FwdPc μ → List μ
  | .forwarding m => [m]
  | _ => []

/-- Whether the forwarder has called `Done`. -/
def isExited : FwdPc μ → Bool
  | .exited => true
  | _ => false

/-- Whether the forwarder has left its loop. -/
def isEnded : FwdPc μ → Bool
  | .done | .exited => true
  | _ => false

theorem isEnded_of_isExited {x : FwdPc μ} (h : x.isExited = true) : x.isEnded = true := by
  cases x <;> simp_all [isExited, isEnded]

theorem held_of_isExited {x : FwdPc μ} (h : x.isExited = true) : x.held = [] := by
  cases x <;> simp_all [isExited, held]

end FwdPc

/-- The state of a check with records of type `ρ` and confirmations of type `μ`. -/
structure TailState (ρ μ : Type) where
  dryRun : Bool
  producer : ProducerPc
  pending : List (Out ρ μ)
  elastic : Chan ρ
  ignored : Chan μ
  sink : ConsumerPc
  sinkConfirm : Chan μ
  fwd : Fwd → FwdPc μ
  waitMergeEnd : WaitGroup
  merger : MergerPc
  itemConfirm : Chan μ
  watching : Bool
  emitted : List μ
  delivered : List μ

variable {ρ μ : Type}

/-- The state once `OnCheckStart` has started its goroutines, with the sends that the `OnEntry`
calls of the check will make. -/
def tailInit (dryRun : Bool) (pending : List (Out ρ μ)) (elasticChunkSize : Nat) :
    TailState ρ μ where
  dryRun := dryRun
  producer := .entries
  pending := pending
  elastic := Chan.make (elasticChunkSize * 2)
  ignored := Chan.make 0
  sink := .ranging
  sinkConfirm := Chan.make 0
  fwd _ := .receiving
  waitMergeEnd := ⟨2⟩
  merger := .waiting
  itemConfirm := Chan.make 10
  watching := true
  emitted := []
  delivered := []

/-- Whether the channel that a forwarder reads is closed. -/
def TailState.sourceClosed (s : TailState ρ μ) : Fwd → Bool
  | .sink => s.sinkConfirm.closed
  | .ignored => s.ignored.closed

/-- One statement of one goroutine of a check. -/
inductive TailEvent (μ : Type) where
  | sendElastic
  | sendIgnored
  | closeElastic
  | closeIgnored
  | sinkRecv
  | sinkEmit (m : μ)
  | sinkClose
  | fwdEnd (i : Fwd)
  | fwdSend (i : Fwd)
  | fwdDone (i : Fwd)
  | mergeWait
  | mergeClose
  | watch
  deriving DecidableEq, Repr

/-- One statement of one goroutine; `blocked` when the goroutine is elsewhere or cannot run.  With
a chunk size of `0`, `dataWriter.Elastic` is unbuffered and a send on it meets the sink's
receive, which does nothing more in this model. -/
def tailStep (s : TailState ρ μ) : TailEvent μ → Step (TailState ρ μ)
  | .sendElastic =>
    match s.producer, s.pending with
    | .entries, .elastic r :: rest =>
      if s.elastic.cap = 0 then
        if s.elastic.closed then .panic
        else if s.sink = .ranging then .next { s with pending := rest } else .blocked
      else
        match s.elastic.send r with
        | .next c => .next { s with pending := rest, elastic := c }
        | .blocked => .blocked
        | .panic => .panic
    | _, _ => .blocked
  | .sendIgnored =>
    match s.producer, s.pending, s.fwd .ignored with
    | .entries, .ignored m :: rest, .receiving =>
      if s.ignored.closed then .panic
      else .next { s with pending := rest, fwd := Function.update s.fwd .ignored (.forwarding m),
                          emitted := s.emitted ++ [m] }
    | _, _, _ => .blocked
  | .closeElastic =>
    match s.producer, s.pending with
    | .entries, [] =>
      match s.elastic.close with
      | .next c => .next { s with producer := .closingIgnored, elastic := c }
      | .blocked => .blocked
      | .panic => .panic
    | _, _ => .blocked
  | .closeIgnored =>
    if s.producer = .closingIgnored then
      match s.ignored.close with
      | .next c => .next { s with producer := .stopped, ignored := c }
      | .blocked => .blocked
      | .panic => .panic
    else .blocked
  | .sinkRecv =>
    match s.sink.recv s.elastic with
    | .next (pc, c) => .next { s with sink := pc, elastic := c }
    | .blocked => .blocked
    | .panic => .panic
  | .sinkEmit m =>
    match s.fwd .sink with
    | .receiving =>
      if s.dryRun = false ∧ s.sink ≠ .exited then
        if s.sinkConfirm.closed then .panic
        else .next { s with fwd := Function.update s.fwd .sink (.forwarding m),
                            emitted := s.emitted ++ [m] }
      else .blocked
    | _ => .blocked
  | .sinkClose =>
    match s.sink.close s.sinkConfirm with
    | .next (pc, c) => .next { s with sink := pc, sinkConfirm := c }
    | .blocked => .blocked
    | .panic => .panic
  | .fwdEnd i =>
    match s.fwd i with
    | .receiving =>
      if s.sourceClosed i then .next { s with fwd := Function.update s.fwd i .done } else .blocked
    | _ => .blocked
  | .fwdSend i =>
    match s.fwd i with
    | .forwarding m =>
      match s.itemConfirm.send m with
      | .next c => .next { s with fwd := Function.update s.fwd i .receiving, itemConfirm := c }
      | .blocked => .blocked
      | .panic => .panic
    | _ => .blocked
  | .fwdDone i =>
    match s.fwd i with
    | .done =>
      match s.waitMergeEnd.done with
      | .next wg => .next { s with fwd := Function.update s.fwd i .exited, waitMergeEnd := wg }
      | .blocked => .blocked
      | .panic => .panic
    | _ => .blocked
  | .mergeWait =>
    match s.merger, s.waitMergeEnd.wait with
    | .waiting, .next () => .next { s with merger := .closing }
    | _, _ => .blocked
  | .mergeClose =>
    if s.merger = .closing then
      match s.itemConfirm.close with
      | .next c => .next { s with merger := .exited, itemConfirm := c }
      | .blocked => .blocked
      | .panic => .panic
    else .blocked
  | .watch =>
    if s.watching then
      match s.itemConfirm.recv with
      | .next (some m, c) => .next { s with itemConfirm := c, delivered := s.delivered ++ [m] }
      | .next (none, _) => .next { s with watching := false }
      | _ => .blocked
    else .blocked

/-! ## The forwarders' counter and messages -/

/-- The sum of a weight over the two forwarders. -/
def fwdTotal (w : FwdPc μ → Nat) (f : Fwd → FwdPc μ) : Nat := w (f .sink) + w (f .ignored)

/-- The number of forwarding goroutines that have not called `Done`. -/
def running (f : Fwd → FwdPc μ) : Nat := fwdTotal (fun x => if x.isExited then 0 else 1) f

/-- The messages that the forwarders hold. -/
def inFlight (f : Fwd → FwdPc μ) : List μ := (f .sink).held ++ (f .ignored).held

section Update

variable (f : Fwd → FwdPc μ) (i : Fwd) (x : FwdPc μ)

/-- Moving one forwarder changes a total by the difference of its weights. -/
theorem fwdTotal_update (w : FwdPc μ → Nat) :
    fwdTotal w (Function.update f i x) + w (f i) = fwdTotal w f + w x := by
  cases i <;> simp only [fwdTotal, Function.update_apply, reduceCtorEq, if_true, if_false] <;> omega

theorem running_update :
    running (Function.update f i x) + (if (f i).isExited then 0 else 1) =
      running f + (if x.isExited then 0 else 1) :=
  fwdTotal_update f i x _

theorem running_update_eq (h : (f i).isExited = x.isExited) :
    running (Function.update f i x) = running f := by
  have := running_update f i x
  rw [h] at this
  omega

/-- A forwarder that calls `Done` takes one from the running ones. -/
theorem running_update_exited (h : (f i).isExited = false) :
    running (Function.update f i .exited) + 1 = running f := by
  have := running_update f i .exited
  rw [h] at this
  simpa [FwdPc.isExited] using this

theorem isExited_of_running (h : running f = 0) : (f i).isExited = true := by
  unfold running fwdTotal at h
  cases i <;> cases hs : (f .sink).isExited <;> cases hi : (f .ignored).isExited <;> simp_all

theorem inFlight_update_perm :
    (inFlight (Function.update f i x) ++ (f i).held).Perm (inFlight f ++ x.held) := by
  classical
  refine List.perm_iff_count.2 fun a => ?_
  cases i <;> simp only [inFlight, Function.update_apply, reduceCtorEq, if_true, if_false,
    List.count_append] <;> omega

theorem isEnded_update {P : Fwd → Prop} (hf : ∀ j, (f j).isEnded = true → P j)
    (hx : x.isEnded = true → P i) : ∀ j, (Function.update f i x j).isEnded = true → P j := by
  intro j
  by_cases h : j = i
  · subst h
    simpa using hx
  · simpa [h] using hf j

end Update

/-! ## The invariant -/

/-- The invariant of a check. -/
structure TailInv (s : TailState ρ μ) : Prop where
  counter : s.waitMergeEnd.counter = running s.fwd
  merged : s.merger ≠ .waiting → ∀ i, (s.fwd i).isExited = true
  itemClosed : s.itemConfirm.closed = true ↔ s.merger = .exited
  elasticClosed : s.elastic.closed = true ↔ s.producer ≠ .entries
  ignoredClosed : s.ignored.closed = true ↔ s.producer = .stopped
  sinkClosed : s.sinkConfirm.closed = true ↔ s.sink = .exited
  ended : ∀ i, (s.fwd i).isEnded = true → s.sourceClosed i = true
  perm : s.emitted.Perm (s.delivered ++ s.itemConfirm.buf ++ inFlight s.fwd)
  watched : s.watching = false → s.itemConfirm.closed = true ∧ s.itemConfirm.buf = []
  itemCap : s.itemConfirm.cap = 10
  sinkLeft : s.sink ≠ .ranging → s.elastic.closed = true
  sent : s.producer ≠ .entries → s.pending = []

theorem tailInit_inv (dryRun : Bool) (pending : List (Out ρ μ)) (elasticChunkSize : Nat) :
    TailInv (tailInit dryRun pending elasticChunkSize) where
  counter := rfl
  merged h := absurd rfl h
  itemClosed := by simp [tailInit, Chan.make]
  elasticClosed := by simp [tailInit, Chan.make]
  ignoredClosed := by simp [tailInit, Chan.make]
  sinkClosed := by simp [tailInit, Chan.make]
  ended i := by cases i <;> simp [tailInit, FwdPc.isEnded]
  perm := by simp [tailInit, Chan.make, inFlight, FwdPc.held]
  watched := nofun
  itemCap := rfl
  sinkLeft h := absurd rfl h
  sent h := absurd rfl h

section Inv

variable {s s' : TailState ρ μ} {e : TailEvent μ}

/-- While a forwarder runs, the merging goroutine still waits. -/
theorem TailInv.merger_waiting (hs : TailInv s) {i : Fwd} (h : (s.fwd i).isExited = false) :
    s.merger = .waiting := by
  by_contra hm
  simpa [h] using hs.merged hm i

/-- A running forwarder that moves to another running position keeps the counter and the merge,
and the forwarders' ends, when it ends only on a closed source. -/
theorem TailInv.update_running (hs : TailInv s) {i : Fwd} {x : FwdPc μ}
    (hi : (s.fwd i).isExited = false) (hx : x.isExited = false)
    (hend : x.isEnded = true → s.sourceClosed i = true) :
    s.waitMergeEnd.counter = running (Function.update s.fwd i x) ∧
      (s.merger ≠ .waiting → ∀ j, (Function.update s.fwd i x j).isExited = true) ∧
      ∀ j, (Function.update s.fwd i x j).isEnded = true → s.sourceClosed j = true :=
  ⟨by rw [hs.counter, running_update_eq _ _ _ (hi.trans hx.symm)],
    fun hm => absurd (hs.merger_waiting hi) hm, isEnded_update _ _ _ hs.ended hend⟩

/-- A forwarder that takes a message adds it to the emitted ones and to the ones in flight. -/
theorem perm_take {E D B : List μ} {f : Fwd → FwdPc μ} {i : Fwd} (m : μ) (hf : (f i).held = [])
    (hp : E.Perm (D ++ B ++ inFlight f)) :
    (E ++ [m]).Perm (D ++ B ++ inFlight (Function.update f i (.forwarding m))) := by
  classical
  refine List.perm_iff_count.2 fun a => ?_
  have h1 := hp.count_eq a
  have h2 := (inFlight_update_perm f i (.forwarding m)).count_eq a
  rw [hf] at h2
  simp only [List.count_append, FwdPc.held, List.count_nil] at h1 h2 ⊢
  omega

/-- A forwarder that sends its message moves it into the buffer of `itemConfirm`. -/
theorem perm_send {E D B : List μ} {f : Fwd → FwdPc μ} {i : Fwd} {m : μ}
    (hf : f i = .forwarding m) (hp : E.Perm (D ++ B ++ inFlight f)) :
    E.Perm (D ++ (B ++ [m]) ++ inFlight (Function.update f i .receiving)) := by
  classical
  refine List.perm_iff_count.2 fun a => ?_
  have h1 := hp.count_eq a
  have h2 := (inFlight_update_perm f i .receiving).count_eq a
  rw [hf] at h2
  simp only [List.count_append, FwdPc.held, List.count_nil] at h1 h2 ⊢
  omega

/-- A forwarder that holds nothing and moves on keeps the messages in flight. -/
theorem inFlight_update_of_held {f : Fwd → FwdPc μ} {i : Fwd} {x : FwdPc μ}
    (hf : (f i).held = []) (hx : x.held = []) : inFlight (Function.update f i x) = inFlight f := by
  cases i <;> simp [inFlight, Function.update_apply, hf, hx]

/-- Every statement of a check keeps the invariant. -/
theorem tailStep_inv (hs : TailInv s) (h : tailStep s e = .next s') : TailInv s' := by
  cases e <;> simp only [tailStep] at h
  case sendElastic =>
    split at h <;> try cases h
    next hp _ =>
    split at h
    · split at h <;> try cases h
      split at h <;> cases h
      exact { hs with sent := fun h' => absurd hp h' }
    · split at h <;> try cases h
      next c hc =>
      obtain ⟨-, -, rfl⟩ := Chan.send_eq_next.1 hc
      exact { hs with sent := fun h' => absurd hp h' }
  case sendIgnored =>
    split at h <;> try cases h
    next m rest hp hpe hf =>
    split at h <;> try cases h
    obtain ⟨hc, hm, he⟩ := hs.update_running (x := .forwarding m) (by rw [hf]; rfl) rfl nofun
    exact { hs with counter := hc, merged := hm, ended := he,
                    perm := perm_take m (by rw [hf]; rfl) hs.perm, sent := fun h' => absurd hp h' }
  case closeElastic =>
    split at h <;> try cases h
    next hp hpe =>
    split at h <;> try cases h
    next c hc =>
    obtain ⟨-, rfl⟩ := Chan.close_eq_next.1 hc
    refine { hs with elasticClosed := by simp, ignoredClosed := ?_, sinkLeft := fun _ => rfl,
                     sent := fun _ => hpe }
    rw [hs.ignoredClosed, hp]
    simp
  case closeIgnored =>
    split at h <;> try cases h
    next hp =>
    split at h <;> try cases h
    next c hc =>
    obtain ⟨-, rfl⟩ := Chan.close_eq_next.1 hc
    refine { hs with elasticClosed := iff_of_true (hs.elasticClosed.2 (by simp [hp])) (by simp),
                     ignoredClosed := by simp, ended := fun i => ?_,
                     sent := fun _ => hs.sent (by simp [hp]) }
    cases i
    · exact hs.ended .sink
    · exact fun _ => rfl
  case sinkRecv =>
    split at h <;> try cases h
    next pc c hr =>
    obtain ⟨hpc, hpc', hcl⟩ := ConsumerPc.recv_eq_next hr
    refine { hs with elasticClosed := by rw [hcl]; exact hs.elasticClosed, sinkClosed := ?_,
                     sinkLeft := fun h' =>
                       hcl.trans ((ConsumerPc.recv_cases hr).2.resolve_left (h' ·.1)).2.2.1 }
    rw [hs.sinkClosed, hpc]
    simp [hpc']
  case sinkEmit m =>
    split at h <;> try cases h
    next hf =>
    split at h <;> try cases h
    split at h <;> try cases h
    obtain ⟨hc, hm, he⟩ := hs.update_running (x := .forwarding m) (by rw [hf]; rfl) rfl nofun
    exact { hs with counter := hc, merged := hm, ended := he,
                    perm := perm_take m (by rw [hf]; rfl) hs.perm }
  case sinkClose =>
    split at h <;> try cases h
    next pc c hc =>
    obtain ⟨hpc, rfl, -, rfl⟩ := ConsumerPc.close_eq_next hc
    refine { hs with sinkClosed := by simp, ended := fun i => ?_,
                     sinkLeft := fun _ => hs.sinkLeft (by rw [hpc]; exact nofun) }
    cases i
    · exact fun _ => rfl
    · exact hs.ended .ignored
  case fwdEnd i =>
    split at h <;> try cases h
    next hf =>
    split at h <;> try cases h
    next hcl =>
    obtain ⟨hc, hm, he⟩ := hs.update_running (x := .done) (by rw [hf]; rfl) rfl fun _ => hcl
    refine { hs with counter := hc, merged := hm, ended := he, perm := ?_ }
    rw [inFlight_update_of_held (x := .done) (by rw [hf]; rfl) rfl]
    exact hs.perm
  case fwdSend i =>
    split at h <;> try cases h
    next m hf =>
    split at h <;> try cases h
    next c hc =>
    obtain ⟨-, -, rfl⟩ := Chan.send_eq_next.1 hc
    have hi : (s.fwd i).isExited = false := by rw [hf]; rfl
    obtain ⟨hc, hm, he⟩ := hs.update_running (x := .receiving) hi rfl nofun
    refine { hs with counter := hc, merged := hm, ended := he, perm := perm_send hf hs.perm,
                     watched := fun hwf => ?_ }
    have := hs.itemClosed.1 (hs.watched hwf).1
    rw [hs.merger_waiting hi] at this
    cases this
  case fwdDone i =>
    split at h <;> try cases h
    next hf =>
    split at h <;> try cases h
    next wg hwg =>
    have hw := hs.merger_waiting (i := i) (by simp [hf, FwdPc.isExited])
    refine { hs with counter := ?_, merged := fun hm => absurd hw hm, ended := ?_, perm := ?_ }
    · have h2 := running_update_exited s.fwd i (by rw [hf]; rfl)
      show wg.counter = (running (Function.update s.fwd i .exited) : Int)
      rw [WaitGroup.counter_of_add hwg, hs.counter]
      omega
    · exact isEnded_update _ _ _ hs.ended fun _ => hs.ended i (by rw [hf]; rfl)
    · rw [inFlight_update_of_held (x := .exited) (by rw [hf]; rfl) rfl]
      exact hs.perm
  case mergeWait =>
    split at h <;> try cases h
    next hm hwt =>
    have h0 := WaitGroup.counter_of_wait hwt
    rw [hs.counter] at h0
    refine { hs with merged := fun _ i => isExited_of_running s.fwd i (by omega),
                     itemClosed := ?_ }
    rw [hs.itemClosed, hm]
    simp
  case mergeClose =>
    split at h <;> try cases h
    next hm =>
    split at h <;> try cases h
    next c hc =>
    obtain ⟨-, rfl⟩ := Chan.close_eq_next.1 hc
    exact { hs with merged := fun _ => hs.merged (by simp [hm]), itemClosed := by simp,
                    watched := fun hwf => ⟨rfl, (hs.watched hwf).2⟩ }
  case watch =>
    split at h <;> try cases h
    next hwt =>
    split at h <;> try cases h
    · next m c hr =>
      obtain ⟨rest, hb, rfl⟩ := Chan.recv_eq_some.1 hr
      refine { hs with perm := ?_, watched := fun hf => ?_ }
      · have := hs.perm
        rw [hb] at this
        simpa using this
      · rw [hwt] at hf
        cases hf
    · next c hr =>
      obtain ⟨hb, hcl, rfl⟩ := Chan.recv_eq_none.1 hr
      exact { hs with watched := fun _ => ⟨hcl, hb⟩ }

/-- No statement panics under the invariant: nothing is sent on a closed channel, nothing is
closed twice, and `Done` never takes the counter below zero. -/
theorem tailStep_ne_panic (hs : TailInv s) (e : TailEvent μ) : tailStep s e ≠ .panic := by
  intro h
  cases e <;> simp only [tailStep] at h
  case sendElastic =>
    split at h <;> try cases h
    next hp _ =>
    split at h
    · split at h
      · next hcl => exact hs.elasticClosed.1 hcl hp
      · split at h <;> cases h
    · split at h <;> try cases h
      next hc => exact hs.elasticClosed.1 (Chan.send_eq_panic.1 hc) hp
  case sendIgnored =>
    split at h <;> try cases h
    next hp _ _ =>
    split at h <;> try cases h
    next hcl => exact absurd (hs.ignoredClosed.1 hcl) (by simp [hp])
  case closeElastic =>
    split at h <;> try cases h
    next hp _ =>
    split at h <;> try cases h
    next hc => exact hs.elasticClosed.1 (Chan.close_eq_panic.1 hc) hp
  case closeIgnored =>
    split at h <;> try cases h
    next hp =>
    split at h <;> try cases h
    next hc => exact absurd (hs.ignoredClosed.1 (Chan.close_eq_panic.1 hc)) (by simp [hp])
  case sinkRecv =>
    split at h <;> try cases h
    next hr => exact ConsumerPc.recv_ne_panic _ _ hr
  case sinkEmit m =>
    split at h <;> try cases h
    split at h <;> try cases h
    next hc =>
    split at h <;> try cases h
    next hcl => exact hc.2 (hs.sinkClosed.1 hcl)
  case sinkClose =>
    split at h <;> try cases h
    next hc =>
    obtain ⟨hpc, hcl⟩ := ConsumerPc.close_eq_panic.1 hc
    exact absurd (hpc.symm.trans (hs.sinkClosed.1 hcl)) nofun
  case fwdEnd i => split at h <;> (try split at h) <;> cases h
  case fwdSend i =>
    split at h <;> try cases h
    next m hf =>
    split at h <;> try cases h
    next hc =>
    have hw := hs.merger_waiting (i := i) (by simp [hf, FwdPc.isExited])
    exact absurd (hw.symm.trans (hs.itemClosed.1 (Chan.send_eq_panic.1 hc))) nofun
  case fwdDone i =>
    split at h <;> try cases h
    next hf =>
    split at h <;> try cases h
    next hwg =>
    have h1 := WaitGroup.add_eq_panic.1 hwg
    have h2 := running_update_exited s.fwd i (by rw [hf]; rfl)
    rw [hs.counter] at h1
    omega
  case mergeWait => split at h <;> cases h
  case mergeClose =>
    split at h <;> try cases h
    next hm =>
    split at h <;> try cases h
    next hc => exact absurd (hm.symm.trans (hs.itemClosed.1 (Chan.close_eq_panic.1 hc))) nofun
  case watch => split at h <;> (try split at h) <;> cases h

/-- Once both forwarders have called `Done`, they stay ended and nothing more is emitted. -/
theorem tailStep_frozen {E : List μ} (hx : ∀ i, (s.fwd i).isExited = true) (he : s.emitted = E)
    (h : tailStep s e = .next s') : (∀ i, (s'.fwd i).isExited = true) ∧ s'.emitted = E := by
  have hne : ∀ {i} {x : FwdPc μ}, s.fwd i = x → x.isExited = true := fun hf => hf ▸ hx _
  cases e <;> simp only [tailStep] at h <;> repeat' split at h
  all_goals first
    | cases h; exact ⟨hx, he⟩
    | cases h; done
    | exact absurd (hne ‹s.fwd _ = _›) (by simp [FwdPc.isExited])

end Inv

/-! ## Every run of a check -/

/-- Every state that a check reaches keeps the invariant. -/
theorem tailReach_inv {dryRun : Bool} {pending : List (Out ρ μ)} {elasticChunkSize : Nat}
    {es : List (TailEvent μ)} {s : TailState ρ μ}
    (h : run tailStep (tailInit dryRun pending elasticChunkSize) es = .next s) : TailInv s :=
  run_inv (fun _ _ _ => tailStep_inv) es _ s (tailInit_inv dryRun pending elasticChunkSize) h

end Klogproc.Main
