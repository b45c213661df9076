import Klogproc.Tail.Reconcile
import Mathlib.Data.List.Sort

/-!
# Reports in any arrival order

The worklog's comment says that it "can handle incoming status updates even if they arrive out
of order".  This module follows `reconcileAll` over whole sequences of reports for one path.

* A chunk layout is a list of offsets `b₀ < b₁ < …`, and chunk `i` is `[bᵢ, bᵢ₊₁)`.
  `ChunkReport` names a chunk and whether the report is a confirmation.
* Confirmations of one identity (`reconcileAll_written_lastMax`): `reconcile` is then
  `laterMax`, so the entry stays confirmed, its end never moves back, and the entry is the last
  report of the greatest end.  For the chunks of a layout in any order, it is the last chunk.
* Open chunks.  Rule 2 of the source's comment lets a confirmation of an earlier chunk replace
  an unconfirmed entry, so an open chunk can be passed (`openChunk_passed`).  What holds is
  `reconcileAll_guardedOpen`: an open chunk is not passed while no confirmation of an earlier
  chunk arrives after its unconfirmed report.  `UnwrittenAt` is the invariant of that proof.
* Reports of another identity (`reconcileAll_after_stale`): a report of another identity is
  always taken, and so is the next report of the current identity after it.
-/

namespace Klogproc.Tail

/-! ## Chunk layouts -/

section Layout

variable {b : List Int} {i j : Nat}

theorem getD_lt_getD_of_lt (hb : b.Sorted (· < ·)) (hij : i < j) (hj : j < b.length) :
    b.getD i 0 < b.getD j 0 := by
  simpa [List.getElem?_eq_getElem (Nat.lt_trans hij hj), List.getElem?_eq_getElem hj]
    using List.pairwise_iff_getElem.1 hb i j (Nat.lt_trans hij hj) hj hij

/-- Offsets of a layout compare as their indices do. -/
theorem getD_lt_getD_iff (hb : b.Sorted (· < ·)) (hi : i < b.length) (hj : j < b.length) :
    b.getD i 0 < b.getD j 0 ↔ i < j := by
  refine ⟨fun h => ?_, fun h => getD_lt_getD_of_lt hb h hj⟩
  rcases Nat.lt_trichotomy i j with hlt | rfl | hgt
  · exact hlt
  · exact absurd h (lt_irrefl _)
  · exact absurd h (lt_asymm (getD_lt_getD_of_lt hb hgt hi))

theorem getD_le_getD_iff (hb : b.Sorted (· < ·)) (hi : i < b.length) (hj : j < b.length) :
    b.getD i 0 ≤ b.getD j 0 ↔ i ≤ j := by
  rw [← not_lt, getD_lt_getD_iff hb hj hi, not_lt]

end Layout

/-- A report about chunk `chunk` of a layout; a confirmation when `written`. -/
structure ChunkReport where
  chunk : Nat
  written : Bool
  deriving DecidableEq, Repr

/-- The range that a report for chunk `i` of the file `inode` carries: `[bᵢ, bᵢ₊₁)`. -/
def ChunkReport.range (inode : Int) (b : List Int) (r : ChunkReport) : LogRange :=
  ⟨inode, b.getD r.chunk 0, b.getD (r.chunk + 1) 0, r.written⟩

/-- Every chunk of a layout, each with the flag `written`, in file order. -/
def chunks (inode : Int) (written : Bool) (b : List Int) : List LogRange :=
  (List.range (b.length - 1)).map fun i => ChunkReport.range inode b ⟨i, written⟩

/-! ## Confirmations of one identity -/

/-- Among confirmed ranges of one identity, a step keeps the later range of the greatest end. -/
def laterMax (x r : LogRange) : LogRange :=
  if x.seekEnd ≤ r.seekEnd then r else x

/-- `x` is the last entry of `l` whose end is the greatest of `l`. -/
def IsLastMax (l : List LogRange) (x : LogRange) : Prop :=
  ∃ pre post, l = pre ++ x :: post ∧ (∀ y ∈ l, y.seekEnd ≤ x.seekEnd) ∧
    ∀ y ∈ post, y.seekEnd < x.seekEnd

theorem laterMax_eq_or (x r : LogRange) : laterMax x r = r ∨ laterMax x r = x := by
  unfold laterMax; split <;> simp

theorem le_laterMax (x r : LogRange) : x.seekEnd ≤ (laterMax x r).seekEnd := by
  unfold laterMax; split <;> omega

/-- Under confirmations of the entry's identity, `reconcile` is `laterMax`. -/
theorem reconcileAll_eq_foldl_laterMax {e : LogRange} {rs : List LogRange}
    (he : e.written = true) (hrs : ∀ r ∈ rs, r.written = true ∧ r.inode = e.inode) :
    reconcileAll e rs = rs.foldl laterMax e := by
  induction rs generalizing e with
  | nil => rfl
  | cons r rs ih =>
    obtain ⟨hrw, hri⟩ := hrs r (List.mem_cons_self _ _)
    have hstep : reconcile e r = laterMax e r := reconcile_written_written _ _ hri.symm he hrw
    have hnext : (laterMax e r).written = true ∧ (laterMax e r).inode = e.inode := by
      rcases laterMax_eq_or e r with h | h <;> rw [h] <;> simp [he, hrw, hri]
    rw [reconcileAll_cons, hstep, ih hnext.1]
    · rfl
    · intro x hx
      rw [hnext.2]
      exact hrs x (List.mem_cons_of_mem _ hx)

theorem foldl_laterMax_mem (e : LogRange) (rs : List LogRange) :
    rs.foldl laterMax e ∈ e :: rs := by
  induction rs generalizing e with
  | nil => simp
  | cons r rs ih =>
    rw [List.foldl_cons]
    rcases List.mem_cons.1 (ih (laterMax e r)) with h | h
    · rw [h]; rcases laterMax_eq_or e r with h' | h' <;> simp [h']
    · exact List.mem_cons_of_mem _ (List.mem_cons_of_mem _ h)

theorem IsLastMax.laterMax {l : List LogRange} {x : LogRange} (h : IsLastMax l x)
    (r : LogRange) : IsLastMax (l ++ [r]) (laterMax x r) := by
  obtain ⟨pre, post, rfl, hmax, hpost⟩ := h
  unfold Klogproc.Tail.laterMax
  split
  · next hle =>
    refine ⟨pre ++ x :: post, [], by simp, fun y hy => ?_, by simp⟩
    rcases List.mem_append.1 hy with hy | hy
    · exact le_trans (hmax y hy) hle
    · simp_all
  · next hlt =>
    refine ⟨pre, post ++ [r], by simp, fun y hy => ?_, fun y hy => ?_⟩
    · rcases List.mem_append.1 hy with hy | hy
      · exact hmax y hy
      · rw [List.mem_singleton] at hy; subst hy; omega
    · rcases List.mem_append.1 hy with hy | hy
      · exact hpost y hy
      · rw [List.mem_singleton] at hy; subst hy; omega

theorem foldl_laterMax_isLastMax (e : LogRange) (rs : List LogRange) :
    IsLastMax (e :: rs) (rs.foldl laterMax e) := by
  induction rs using List.reverseRecOn with
  | nil => exact ⟨[], [], rfl, by simp, by simp⟩
  | append_singleton rs r ih =>
    rw [List.foldl_append, List.foldl_cons, List.foldl_nil, ← List.cons_append]
    exact ih.laterMax r

/-- The last chunk of a layout ends past every other chunk. -/
theorem chunks_seekEnd_lt {b : List Int} (hb : b.Sorted (· < ·)) {inode : Int} {w : Bool}
    {y : LogRange} (hy : y ∈ chunks inode w b) :
    y = ChunkReport.range inode b ⟨b.length - 2, w⟩ ∨ y.seekEnd < b.getD (b.length - 1) 0 := by
  obtain ⟨k, hk, rfl⟩ := List.mem_map.1 hy
  rw [List.mem_range] at hk
  by_cases hlast : k = b.length - 2
  · exact Or.inl (by rw [hlast])
  · refine Or.inr ?_
    simp only [ChunkReport.range]
    exact getD_lt_getD_of_lt hb (by omega) (by omega)

/-- Confirmed reports of an entry's identity, processed in any order: the entry stays
confirmed, its end never moves back, and it is the last report of the greatest end, the entry
itself counted first.  For the chunks of a layout that ends at or past the entry, in any order,
the entry is the last chunk. -/
theorem reconcileAll_written_lastMax (e : LogRange) (rs : List LogRange)
    (he : e.written = true) (hrs : ∀ r ∈ rs, r.written = true ∧ r.inode = e.inode) :
    (∀ k, (reconcileAll e (rs.take k)).written = true ∧
      (reconcileAll e (rs.take k)).seekEnd ≤ (reconcileAll e (rs.take (k + 1))).seekEnd) ∧
    IsLastMax (e :: rs) (reconcileAll e rs) ∧
    ∀ b : List Int, b.Sorted (· < ·) → 2 ≤ b.length → rs.Perm (chunks e.inode true b) →
      e.seekEnd ≤ b.getD (b.length - 1) 0 →
      reconcileAll e rs = ChunkReport.range e.inode b ⟨b.length - 2, true⟩ := by
  have htake : ∀ k, ∀ r ∈ rs.take k, r.written = true ∧ r.inode = e.inode :=
    fun k r hr => hrs r (List.mem_of_mem_take hr)
  refine ⟨fun k => ⟨?_, ?_⟩, ?_, fun b hb hlen hperm hend => ?_⟩
  · rw [reconcileAll_eq_foldl_laterMax he (htake k)]
    rcases List.mem_cons.1 (foldl_laterMax_mem e (rs.take k)) with h | h
    · rw [h, he]
    · exact (htake k _ h).1
  · rw [reconcileAll_eq_foldl_laterMax he (htake k),
      reconcileAll_eq_foldl_laterMax he (htake (k + 1)), List.take_succ, List.foldl_append]
    cases rs[k]? with
    | none => exact le_refl _
    | some r => exact le_laterMax _ r
  · rw [reconcileAll_eq_foldl_laterMax he hrs]
    exact foldl_laterMax_isLastMax e rs
  · rw [reconcileAll_eq_foldl_laterMax he hrs]
    set c := ChunkReport.range e.inode b ⟨b.length - 2, true⟩
    obtain ⟨pre, post, hsplit, hmax, hpost⟩ := foldl_laterMax_isLastMax e rs
    set f := rs.foldl laterMax e
    have hc : c ∈ rs := hperm.mem_iff.2 (List.mem_map.2 ⟨b.length - 2, by simp; omega, rfl⟩)
    have hcend : c.seekEnd = b.getD (b.length - 1) 0 := by
      simp only [c, ChunkReport.range]; congr 1; omega
    have hcf : c.seekEnd ≤ f.seekEnd := hmax c (List.mem_cons_of_mem _ hc)
    have hfrs : f ∈ rs := by
      cases pre with
      | nil =>
        simp only [List.nil_append, List.cons.injEq] at hsplit
        have hce := hpost c (hsplit.2 ▸ hc)
        rw [← hsplit.1] at hce
        omega
      | cons p pre =>
        simp only [List.cons_append, List.cons.injEq] at hsplit
        exact hsplit.2 ▸ List.mem_append_right _ (List.mem_cons_self _ _)
    exact (chunks_seekEnd_lt hb (hperm.mem_iff.1 hfrs)).resolve_right fun h => by omega

/-- The entry `[0, 0)` confirmed, then the three chunks of `0 < 1 < 2 < 3` confirmed in the
order 3, 1, 2. -/
theorem reconcileAll_written_lastMax_three_chunks :
    let e : LogRange := ⟨7, 0, 0, true⟩
    let rs : List LogRange := [⟨7, 2, 3, true⟩, ⟨7, 0, 1, true⟩, ⟨7, 1, 2, true⟩]
    (e.written = true ∧ ∀ r ∈ rs, r.written = true ∧ r.inode = e.inode) ∧
      reconcileAll e rs = ⟨7, 2, 3, true⟩ :=
  ⟨⟨rfl, by decide⟩, (reconcileAll_written_lastMax ⟨7, 0, 0, true⟩
    [⟨7, 2, 3, true⟩, ⟨7, 0, 1, true⟩, ⟨7, 1, 2, true⟩] rfl (by decide)).2.2 [0, 1, 2, 3]
    (by decide) (by decide) (by decide) (by decide)⟩

/-! ## Open chunks -/

/-- Chunk `i` is open after the reports `ps`: an unconfirmed report for it was processed, and
no confirmation of it after that report. -/
def IsOpen (ps : List ChunkReport) (i : Nat) : Prop :=
  ∃ pre post, ps = pre ++ ⟨i, false⟩ :: post ∧ (⟨i, true⟩ : ChunkReport) ∉ post

/-- Chunk `i` is open after `ps`, and no confirmation of it or of an earlier chunk was
processed after its unconfirmed report. -/
def IsGuardedOpen (ps : List ChunkReport) (i : Nat) : Prop :=
  ∃ pre post, ps = pre ++ ⟨i, false⟩ :: post ∧ ∀ r ∈ post, r.written = true → i < r.chunk

/-- The entry `e` records no progress past the offset `x`: a confirmed entry ends at or before
`x`, an unconfirmed one starts at or before it. -/
def NoProgressPast (e : LogRange) (x : Int) : Prop :=
  if e.written then e.seekEnd ≤ x else e.seekStart ≤ x

instance (e : LogRange) (x : Int) : Decidable (NoProgressPast e x) :=
  inferInstanceAs (Decidable (if e.written then e.seekEnd ≤ x else e.seekStart ≤ x))

/-- The chunks of `0 < 1 < 2 < 3` of the file `1`, from a confirmed entry that ends at `0`:
chunk `1` unconfirmed, then chunks `0` and `2` confirmed.  Chunk `1` is still open, and the
entry is the confirmed range `[2, 3)`, past its start `1`. -/
theorem openChunk_passed :
    IsOpen [⟨1, false⟩, ⟨0, true⟩, ⟨2, true⟩] 1 ∧
      ¬ NoProgressPast (reconcileAll ⟨1, 0, 0, true⟩
          ([⟨1, false⟩, ⟨0, true⟩, ⟨2, true⟩].map (ChunkReport.range 1 [0, 1, 2, 3])))
        ([0, 1, 2, 3].getD 1 0) :=
  ⟨⟨[], [⟨0, true⟩, ⟨2, true⟩], rfl, by decide⟩, by decide⟩

section Guarded

variable {inode : Int} {b : List Int} {i : Nat}

/-- The entry is the starting entry or the range of a chunk. -/
def Aligned (inode : Int) (b : List Int) (start x : LogRange) : Prop :=
  x = start ∨ ∃ r : ChunkReport, r.chunk + 1 < b.length ∧ x = r.range inode b

/-- The entry is the unconfirmed range of a chunk at or before chunk `i`. -/
def UnwrittenAt (inode : Int) (b : List Int) (i : Nat) (x : LogRange) : Prop :=
  ∃ j ≤ i, j + 1 < b.length ∧ x = ChunkReport.range inode b ⟨j, false⟩

theorem reconcileAll_map_cons (x : LogRange) (r : ChunkReport) (q : List ChunkReport) :
    reconcileAll x ((r :: q).map (ChunkReport.range inode b)) =
      reconcileAll (reconcile x (r.range inode b)) (q.map (ChunkReport.range inode b)) := rfl

theorem aligned_reconcileAll {start x : LogRange} (hx : Aligned inode b start x)
    {q : List ChunkReport} (hq : ∀ r ∈ q, r.chunk + 1 < b.length) :
    Aligned inode b start (reconcileAll x (q.map (ChunkReport.range inode b))) := by
  induction q generalizing x with
  | nil => exact hx
  | cons r q ih =>
    rw [reconcileAll_map_cons]
    refine ih ?_ fun r' hr' => hq r' (List.mem_cons_of_mem _ hr')
    rcases reconcile_eq_or x (r.range inode b) with h | h <;> rw [h]
    · exact Or.inr ⟨r, hq r (List.mem_cons_self _ _), rfl⟩
    · exact hx

/-- An unconfirmed report for chunk `i` leaves the unconfirmed range of a chunk at or before
`i`, from the starting entry or the range of any chunk. -/
theorem unwrittenAt_of_open (hb : b.Sorted (· < ·)) {start x : LogRange}
    (hs : start.written = true ∧ start.inode = inode) (hx : Aligned inode b start x)
    (hi : i + 1 < b.length) :
    UnwrittenAt inode b i (reconcile x (ChunkReport.range inode b ⟨i, false⟩)) := by
  rcases hx with rfl | ⟨⟨j, w⟩, hj, rfl⟩
  · rw [reconcile_written_unwritten _ _ hs.2 hs.1 rfl]
    exact ⟨i, le_refl i, hi, rfl⟩
  · cases w
    · rw [reconcile_unwritten_unwritten (ChunkReport.range inode b ⟨j, false⟩)
        (ChunkReport.range inode b ⟨i, false⟩) rfl rfl rfl]
      simp only at hj
      simp only [ChunkReport.range, getD_le_getD_iff hb (by omega : i < b.length)
        (by omega : j < b.length), getD_lt_getD_iff hb hi hj]
      split_ifs with h
      · exact ⟨i, le_refl i, hi, rfl⟩
      · exact ⟨j, by omega, hj, rfl⟩
    · rw [reconcile_written_unwritten (ChunkReport.range inode b ⟨j, true⟩)
        (ChunkReport.range inode b ⟨i, false⟩) rfl rfl rfl]
      exact ⟨i, le_refl i, hi, rfl⟩

/-- A report that is not a confirmation of chunk `i` or of an earlier chunk keeps the entry an
unconfirmed chunk at or before `i`. -/
theorem unwrittenAt_reconcile (hb : b.Sorted (· < ·)) {x : LogRange}
    (hx : UnwrittenAt inode b i x) {r : ChunkReport} (hr : r.chunk + 1 < b.length)
    (hg : r.written = true → i < r.chunk) :
    UnwrittenAt inode b i (reconcile x (r.range inode b)) := by
  obtain ⟨j, hji, hj, rfl⟩ := hx
  obtain ⟨c, w⟩ := r
  simp only at hr hg
  cases w
  · rw [reconcile_unwritten_unwritten (ChunkReport.range inode b ⟨j, false⟩)
      (ChunkReport.range inode b ⟨c, false⟩) rfl rfl rfl]
    simp only [ChunkReport.range, getD_le_getD_iff hb (by omega : c < b.length)
      (by omega : j < b.length), getD_lt_getD_iff hb hr hj]
    split_ifs with h
    · exact ⟨c, by omega, hr, rfl⟩
    · exact ⟨j, hji, hj, rfl⟩
  · rw [reconcile_unwritten_written (ChunkReport.range inode b ⟨j, false⟩)
      (ChunkReport.range inode b ⟨c, true⟩) rfl rfl rfl]
    simp only [ChunkReport.range, getD_le_getD_iff hb (by omega : c < b.length)
      (by omega : j < b.length)]
    rw [if_neg (by have := hg rfl; omega)]
    exact ⟨j, hji, hj, rfl⟩

theorem unwrittenAt_reconcileAll (hb : b.Sorted (· < ·)) {x : LogRange}
    (hx : UnwrittenAt inode b i x) {q : List ChunkReport}
    (hq : ∀ r ∈ q, r.chunk + 1 < b.length ∧ (r.written = true → i < r.chunk)) :
    UnwrittenAt inode b i (reconcileAll x (q.map (ChunkReport.range inode b))) := by
  induction q generalizing x with
  | nil => exact hx
  | cons r q ih =>
    obtain ⟨hr, hg⟩ := hq r (List.mem_cons_self _ _)
    exact ih (unwrittenAt_reconcile hb hx hr hg) fun r' hr' => hq r' (List.mem_cons_of_mem _ hr')

theorem noProgressPast_of_unwrittenAt (hb : b.Sorted (· < ·)) {x : LogRange}
    (hx : UnwrittenAt inode b i x) (hi : i < b.length) : NoProgressPast x (b.getD i 0) := by
  obtain ⟨j, hji, hj, rfl⟩ := hx
  simp only [NoProgressPast, ChunkReport.range, Bool.false_eq_true, if_false]
  exact (getD_le_getD_iff hb (by omega) hi).2 hji

end Guarded

/-- Reports of the chunks of a layout, in any order, from a confirmed entry that ends where the
layout starts: after every prefix, a chunk that is open and has seen no confirmation of itself
or of an earlier chunk since its unconfirmed report is not passed. -/
theorem reconcileAll_guardedOpen (inode : Int) (b : List Int) (hb : b.Sorted (· < ·))
    (start : LogRange)
    (hs : start.written = true ∧ start.inode = inode ∧ start.seekEnd = b.getD 0 0)
    (ps : List ChunkReport) (hps : ∀ r ∈ ps, r.chunk + 1 < b.length) (m i : Nat)
    (hopen : IsGuardedOpen (ps.take m) i) :
    NoProgressPast (reconcileAll start ((ps.take m).map (ChunkReport.range inode b)))
      (b.getD i 0) := by
  obtain ⟨pre, post, hsplit, hpost⟩ := hopen
  have hmem : ∀ r, r ∈ pre ++ ⟨i, false⟩ :: post → r.chunk + 1 < b.length :=
    fun r hr => hps r (List.mem_of_mem_take (hsplit ▸ hr))
  have hi : i + 1 < b.length := hmem ⟨i, false⟩ (by simp)
  rw [hsplit, List.map_append, reconcileAll_append, reconcileAll_map_cons]
  have hpre := aligned_reconcileAll (Or.inl rfl : Aligned inode b start start)
    fun r hr => hmem r (List.mem_append_left (⟨i, false⟩ :: post) hr)
  refine noProgressPast_of_unwrittenAt hb (unwrittenAt_reconcileAll hb
    (unwrittenAt_of_open hb ⟨hs.1, hs.2.1⟩ hpre hi) fun r hr => ⟨?_, hpost r hr⟩) (by omega)
  exact hmem r (by simp [hr])

/-- Chunk `1` of `0 < 1 < 2 < 3` unconfirmed, then chunk `2` confirmed: chunk `1` is not
passed. -/
theorem reconcileAll_guardedOpen_later_confirmed :
    ([0, 1, 2, 3] : List Int).Sorted (· < ·) ∧
      IsGuardedOpen (([⟨1, false⟩, ⟨2, true⟩] : List ChunkReport).take 2) 1 ∧
      NoProgressPast (reconcileAll ⟨1, 0, 0, true⟩
          ((([⟨1, false⟩, ⟨2, true⟩] : List ChunkReport).take 2).map
            (ChunkReport.range 1 [0, 1, 2, 3])))
        ([0, 1, 2, 3].getD 1 0) :=
  have hopen : IsGuardedOpen (([⟨1, false⟩, ⟨2, true⟩] : List ChunkReport).take 2) 1 :=
    ⟨[], [⟨2, true⟩], rfl, by decide⟩
  ⟨by decide, hopen, reconcileAll_guardedOpen 1 [0, 1, 2, 3] (by decide) ⟨1, 0, 0, true⟩
    ⟨rfl, rfl, rfl⟩ [⟨1, false⟩, ⟨2, true⟩] (by decide) 2 1 hopen⟩

/-! ## Reports of another identity -/

/-- A report `t` of another identity than the next report `r`: whatever came before, `r` is
then taken, and the reports after it are reconciled from `r`. -/
theorem reconcileAll_after_stale (e t r : LogRange) (pre rest : List LogRange)
    (ht : t.inode ≠ r.inode) :
    reconcileAll e (pre ++ t :: r :: rest) = reconcileAll r rest := by
  rw [reconcileAll_append, reconcileAll_cons, reconcileAll_cons,
    reconcile_of_inode_ne _ _ (by rw [reconcile_inode]; exact ht)]

/-- A late report of the file `2` between two reports of the file `1`: the second report of
`1` is the entry, whatever the first one left. -/
theorem reconcileAll_after_stale_rotated :
    (⟨2, 0, 0, true⟩ : LogRange).inode ≠ (⟨1, 0, 5, true⟩ : LogRange).inode ∧
      reconcileAll ⟨1, 0, 10, true⟩
          ([⟨1, 0, 20, false⟩] ++ ⟨2, 0, 0, true⟩ :: ⟨1, 0, 5, true⟩ :: []) =
        reconcileAll ⟨1, 0, 5, true⟩ [] :=
  ⟨by decide, reconcileAll_after_stale _ _ _ _ _ (by decide)⟩

/-- The entry `[0, 10)` of the file `1` confirmed, and one late report of the file `2` before
the report `[0, 5)` of the file `1`: the entry becomes `[0, 5)`, where the report of `1` alone
leaves `[0, 10)`. -/
theorem stale_report_changes_entry :
    ([⟨2, 0, 0, true⟩, ⟨1, 0, 5, true⟩] : List LogRange).filter (fun x => x.inode = 1) =
        [⟨1, 0, 5, true⟩] ∧
      ([⟨2, 0, 0, true⟩, ⟨1, 0, 5, true⟩] : List LogRange).filter (fun x => x.inode ≠ 1) =
        [⟨2, 0, 0, true⟩] ∧
      reconcileAll ⟨1, 0, 10, true⟩ [⟨2, 0, 0, true⟩, ⟨1, 0, 5, true⟩] ≠
        reconcileAll ⟨1, 0, 10, true⟩ [⟨1, 0, 5, true⟩] := by
  decide

end Klogproc.Tail
