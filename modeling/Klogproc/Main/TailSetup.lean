import Klogproc.Go.Strconv
import Mathlib.Data.List.Basic
import Mathlib.Data.List.Indexes

/-!
# The log buffers of the tail processors

`runTailAction` (`src/unnamed/part_004`) makes one tail processor per watched file with
`newTailProcessor`, in the order of the configuration, and passes every call the same map
`logBuffers`.  A file whose buffer configuration has a non-empty `ID` shares the buffer storage
of the first file with that `ID`; any other file gets a storage of its own.

* `Storage` is a buffer storage made by `NewStorage` or `NewDummyStorage`, named by the index of
  the call of `newTailProcessor` that made it, with the buffer configuration and the path it was
  made with.  `bufferStorage` is the part of `newTailProcessor` that picks the storage, and
  `tailStorages` is the loop of `runTailAction` over the files.
* `tailStorages_eq_mapIdx`: the storage of file `j` is the one made for the first file with its
  buffer `ID` (`sharedId`), or its own.  The run lemma keeps the invariant that `logBuffers` maps
  each `ID` seen to the storage of its first file (`lookup_tailStorages`).
* `tailStorages_shared_iff`: two files share a storage exactly when they have the same non-empty
  buffer `ID`, and the storage they share has the buffer configuration and the path of the first
  of them; the configuration of every later file with that `ID` is not used.
* `tailProcessors_eq`: the slice `tailProcessors` has one entry per configured file, and the
  loop fills it from `FullFiles()`: slot `i` gets the processor of the `i`-th full file, the
  slots after the last full file stay `nil`, and more full files than configured ones make the
  index run out of range.
* `stateFactory`: for a file without a buffer configuration, the state factory given to
  `NewDummyStorage` reads `tailConf.Buffer.BotDetection` through the `nil` `Buffer`, so it
  panics whenever the storage calls it.
-/

namespace Klogproc.Main

/-- The `BotDetection` part of a buffer configuration. -/
structure BotDetectionConf where
  prevNumReqsSampleSize : Int
  deriving DecidableEq, Repr

/-- The fields of a `load.BufferConf` that `newTailProcessor` reads. -/
structure BufferConf where
  id : List UInt8
  botDetection : Option BotDetectionConf
  deriving DecidableEq, Repr

/-- The fields of a `tail.FileConf` that the choice of the storage reads. -/
structure FileConf where
  path : List UInt8
  buffer : Option BufferConf
  deriving DecidableEq, Repr

/-- The state that a storage's state factory makes: `BotAnalysisState` with its sample size, or
`SimpleAnalysisState`. -/
inductive AnalysisState where
  | bot (prevNumReqsSampleSize : Int)
  | simple
  deriving DecidableEq, Repr

/-- The state factory of `newTailProcessor`, called with the configuration it reads: a panic
(`none`) for the factory of `NewDummyStorage`, which dereferences the `nil` `Buffer`. -/
def stateFactory (tailConf : FileConf) : Option AnalysisState :=
  match tailConf.buffer with
  | some b =>
    match b.botDetection with
    | some bd => some (.bot bd.prevNumReqsSampleSize)
    | none => some .simple
  | none => none

/-- A buffer storage: the index of the file whose `newTailProcessor` call made it, and the buffer
configuration and path it was made with (`none` and `""` for `NewDummyStorage`). -/
structure Storage where
  creator : Nat
  buffer : Option BufferConf
  path : List UInt8
  deriving DecidableEq, Repr

/-- The storage that the call for file `i` makes for its own configuration. -/
def made (i : Nat) (c : FileConf) : Storage :=
  match c.buffer with
  | some b => ⟨i, some b, c.path⟩
  | none => ⟨i, none, []⟩

/-- `logBuffers[id]`, with `ok`. -/
def bufferLookup : List (List UInt8 × Storage) → List UInt8 → Option Storage
  | [], _ => none
  | (k, s) :: m, id => if k = id then some s else bufferLookup m id

/-- The part of `newTailProcessor` for file `i` that picks its `buffStorage`, with the map
`logBuffers` before and after the call. -/
def bufferStorage (logBuffers : List (List UInt8 × Storage)) (i : Nat) (tailConf : FileConf) :
    Storage × List (List UInt8 × Storage) :=
  match tailConf.buffer with
  | some b =>
    if b.id ≠ [] then
      match bufferLookup logBuffers b.id with
      | some curr => (curr, logBuffers)
      | none => (made i tailConf, logBuffers ++ [(b.id, made i tailConf)])
    else (made i tailConf, logBuffers)
  | none => (made i tailConf, logBuffers)

/-- One pass of `for i, f := range fullFiles` in `runTailAction`: the storages so far and
`logBuffers`. -/
def storageStep (acc : List Storage × List (List UInt8 × Storage)) (f : FileConf) :
    List Storage × List (List UInt8 × Storage) :=
  let r := bufferStorage acc.2 acc.1.length f
  (acc.1 ++ [r.1], r.2)

/-- The storages of the tail processors that `runTailAction` makes, and `logBuffers` after. -/
def tailStorages (confs : List FileConf) : List Storage × List (List UInt8 × Storage) :=
  confs.foldl storageStep ([], [])

/-- The buffer `ID` under which a file's storage is shared, if it has a non-empty one. -/
def sharedId (c : FileConf) : Option (List UInt8) :=
  match c.buffer with
  | some b => if b.id = [] then none else some b.id
  | none => none

/-- The index of the first file with the buffer `ID` `id`, or the number of files. -/
def firstWith (confs : List FileConf) (id : List UInt8) : Nat :=
  confs.findIdx fun c => sharedId c == some id

/-- The storage made for the first file with the buffer `ID` `id`, if there is one. -/
def firstStorage (confs : List FileConf) (id : List UInt8) : Option Storage :=
  confs[firstWith confs id]?.map (made (firstWith confs id))

/-- The storage that file `j` is meant to get: that of the first file with its buffer `ID`, or
its own. -/
def storageSpec (confs : List FileConf) (j : Nat) (c : FileConf) : Storage :=
  match sharedId c with
  | some id => (firstStorage confs id).getD (made j c)
  | none => made j c

/-- Two watched files with the buffer `ID` `x`. -/
def sampleConfs : List FileConf :=
  [⟨Go.ascii "a.log", some ⟨Go.ascii "x", none⟩⟩, ⟨Go.ascii "b.log", some ⟨Go.ascii "x", none⟩⟩]

@[simp]
theorem made_creator (i : Nat) (c : FileConf) : (made i c).creator = i := by
  unfold made; split <;> rfl

/-! ## The first file with an `ID` -/

section First

variable {confs : List FileConf} {id : List UInt8} {j : Nat}

theorem firstWith_le (hj : j < confs.length) (h : sharedId confs[j] = some id) :
    firstWith confs id ≤ j :=
  Nat.le_of_not_lt fun hlt => by
    simpa [h] using List.not_of_lt_findIdx (p := fun c => sharedId c == some id) hlt

/-- The file that made an `ID`'s storage has that `ID`. -/
theorem sharedId_of_firstStorage {s : Storage} (h : firstStorage confs id = some s) :
    ∃ hk : s.creator < confs.length, sharedId confs[s.creator] = some id := by
  unfold firstStorage at h
  obtain ⟨c, hc, rfl⟩ := Option.map_eq_some'.1 h
  obtain ⟨hk, rfl⟩ := List.getElem?_eq_some_iff.1 hc
  simp only [made_creator]
  exact ⟨hk, by simpa using List.findIdx_getElem (w := hk)⟩

/-- A file with a shared `ID` gets the storage of the first file with it. -/
theorem storageSpec_of_shared (hj : j < confs.length) (h : sharedId confs[j] = some id) :
    firstStorage confs id = some (storageSpec confs j confs[j]) := by
  have hlt : firstWith confs id < confs.length := Nat.lt_of_le_of_lt (firstWith_le hj h) hj
  have hs : firstStorage confs id = some (made (firstWith confs id) confs[firstWith confs id]) := by
    simp only [firstStorage, List.getElem?_eq_getElem hlt, Option.map_some']
  simp only [storageSpec, h, hs, Option.getD_some]

/-- The file that made a storage has the shared `ID` of every file that gets it. -/
theorem sharedId_creator (hj : j < confs.length) :
    confs[(storageSpec confs j confs[j]).creator]?.map sharedId = some (sharedId confs[j]) := by
  cases hs : sharedId confs[j] with
  | none =>
    simp only [storageSpec, hs, made_creator, List.getElem?_eq_getElem hj, Option.map_some']
  | some id =>
    obtain ⟨hk, hk'⟩ := sharedId_of_firstStorage (storageSpec_of_shared hj hs)
    rw [List.getElem?_eq_getElem hk, Option.map_some', hk']

theorem firstStorage_concat (c : FileConf) :
    firstStorage (confs ++ [c]) id =
      (firstStorage confs id).or (if sharedId c = some id then some (made confs.length c) else none) := by
  unfold firstStorage firstWith
  rw [List.findIdx_append]
  split
  · rename_i hlt
    rw [List.getElem?_append_left hlt, List.getElem?_eq_getElem hlt]
    rfl
  · rename_i hge
    have hlen := Nat.le_antisymm (List.findIdx_le_length _) (Nat.le_of_not_lt hge)
    rw [hlen, List.getElem?_eq_none (Nat.le_refl _), Option.map_none', Option.none_or]
    by_cases hc : sharedId c = some id
    · simp [hc, List.findIdx_cons]
    · have hb : (sharedId c == some id) = false := by simpa using hc
      have hone : [c].findIdx (fun c => sharedId c == some id) = 1 := by simp [List.findIdx_cons, hb]
      rw [hone, List.getElem?_eq_none (by simp only [List.length_append, List.length_singleton]; omega),
        if_neg hc]
      rfl

end First

/-! ## The loop of `runTailAction` -/

theorem bufferLookup_append (m : List (List UInt8 × Storage)) (k id : List UInt8) (s : Storage) :
    bufferLookup (m ++ [(k, s)]) id = (bufferLookup m id).or (if k = id then some s else none) := by
  induction m with
  | nil => simp [bufferLookup]
  | cons e m ih =>
    obtain ⟨k', s'⟩ := e
    by_cases hk : k' = id <;> simp [bufferLookup, hk, ih]

/-- One call of `newTailProcessor` adds its `ID` to `logBuffers` if the `ID` is new. -/
theorem bufferLookup_bufferStorage (m : List (List UInt8 × Storage)) (i : Nat) (c : FileConf)
    (id : List UInt8) :
    bufferLookup (bufferStorage m i c).2 id =
      (bufferLookup m id).or (if sharedId c = some id then some (made i c) else none) := by
  unfold bufferStorage sharedId
  rcases c.buffer with _ | b
  · simp
  · by_cases hb : b.id = []
    · simp [hb]
    · simp only [ne_eq, hb, not_false_eq_true, if_true, if_false, Option.some.injEq]
      split
      · rename_i curr hcurr
        by_cases hid : b.id = id
        · subst hid; simp [hcurr]
        · simp [hid]
      · exact bufferLookup_append _ _ _ _

/-- The storage that one call of `newTailProcessor` picks. -/
theorem bufferStorage_fst (m : List (List UInt8 × Storage)) (i : Nat) (c : FileConf) :
    (bufferStorage m i c).1 =
      match sharedId c with
      | some id => (bufferLookup m id).getD (made i c)
      | none => made i c := by
  unfold bufferStorage sharedId
  rcases c.buffer with _ | b
  · rfl
  · by_cases hb : b.id = []
    · simp [hb]
    · simp only [ne_eq, hb, not_false_eq_true, if_true, if_false]
      split <;> simp_all

theorem tailStorages_append (pre : List FileConf) (c : FileConf) :
    tailStorages (pre ++ [c]) = storageStep (tailStorages pre) c := by
  simp [tailStorages, List.foldl_append]

theorem length_tailStorages (pre : List FileConf) : (tailStorages pre).1.length = pre.length := by
  induction pre using List.reverseRecOn with
  | nil => rfl
  | append_singleton pre c ih => simp [tailStorages_append, storageStep, ih]

/-- The invariant of the loop: `logBuffers` maps each `ID` to the storage of its first file. -/
theorem lookup_tailStorages (pre : List FileConf) (id : List UInt8) :
    bufferLookup (tailStorages pre).2 id = firstStorage pre id := by
  induction pre using List.reverseRecOn with
  | nil => rfl
  | append_singleton pre c ih =>
    rw [tailStorages_append, storageStep, firstStorage_concat, length_tailStorages,
      bufferLookup_bufferStorage, ih]

/-- The storages of all tail processors: file `j` gets the storage of the first file with its
buffer `ID`, or its own. -/
theorem tailStorages_eq_mapIdx (confs : List FileConf) :
    (tailStorages confs).1 = confs.mapIdx (storageSpec confs) := by
  induction confs using List.reverseRecOn with
  | nil => rfl
  | append_singleton pre c ih =>
    have hpre : pre.mapIdx (storageSpec (pre ++ [c])) = pre.mapIdx (storageSpec pre) := by
      refine List.ext_getElem (by simp) fun j h1 h2 => ?_
      simp only [List.getElem_mapIdx]
      have hj : j < pre.length := by simpa using h1
      cases hs : sharedId pre[j] with
      | none => simp [storageSpec, hs]
      | some id =>
        have h := storageSpec_of_shared hj hs
        simp only [storageSpec, hs]
        rw [firstStorage_concat, h, Option.or_some]
    rw [tailStorages_append, storageStep, List.mapIdx_concat, hpre, length_tailStorages, ih,
      bufferStorage_fst]
    simp only [storageSpec]
    split
    · rw [lookup_tailStorages, firstStorage_concat]
      cases firstStorage pre _ <;> simp_all
    · rfl

/-- Both files of `sampleConfs` write to the storage made for the first. -/
example : (tailStorages sampleConfs).1 =
    [⟨0, some ⟨Go.ascii "x", none⟩, Go.ascii "a.log"⟩, ⟨0, some ⟨Go.ascii "x", none⟩, Go.ascii "a.log"⟩] := by
  decide

/-- Two tail processors share a buffer storage exactly when their files have the same non-empty
buffer `ID`. -/
theorem tailStorages_shared_iff (confs : List FileConf) (i j : Nat) (hi : i < confs.length)
    (hj : j < confs.length) :
    (tailStorages confs).1[i]? = (tailStorages confs).1[j]? ↔
      i = j ∨ ∃ id, sharedId confs[i] = some id ∧ sharedId confs[j] = some id := by
  have hget : ∀ k (hk : k < confs.length),
      (tailStorages confs).1[k]? = some (storageSpec confs k confs[k]) := by
    intro k hk
    rw [tailStorages_eq_mapIdx, List.getElem?_mapIdx, List.getElem?_eq_getElem hk]
    rfl
  rw [hget i hi, hget j hj, Option.some_inj]
  constructor
  · intro heq
    have hsame : sharedId confs[i] = sharedId confs[j] := by
      have hsi := sharedId_creator hi
      rw [heq, sharedId_creator hj] at hsi
      exact (Option.some_inj.1 hsi).symm
    cases hs : sharedId confs[i] with
    | none =>
      have hcr := congrArg Storage.creator heq
      simp only [storageSpec, hs, ← hsame, made_creator] at hcr
      exact .inl hcr
    | some id => exact .inr ⟨id, rfl, hsame ▸ hs⟩
  · rintro (rfl | ⟨id, hsi, hsj⟩)
    · rfl
    · exact Option.some_inj.1 ((storageSpec_of_shared hi hsi).symm.trans (storageSpec_of_shared hj hsj))

theorem tailStorages_shared_iff_sample :
    0 < sampleConfs.length ∧ 1 < sampleConfs.length ∧
      ((tailStorages sampleConfs).1[0]? = (tailStorages sampleConfs).1[1]? ↔
        0 = 1 ∨ ∃ id, sharedId sampleConfs[0] = some id ∧ sharedId sampleConfs[1] = some id) :=
  have h0 : 0 < sampleConfs.length := by decide
  have h1 : 1 < sampleConfs.length := by decide
  ⟨h0, h1, tailStorages_shared_iff sampleConfs 0 1 h0 h1⟩

/-! ## The slice of tail processors -/

/-- A tail processor, by the configuration of its file and the storage it was given. -/
abbrev TailProc := FileConf × Storage

/-- `for i, f := range fullFiles { tailProcessors[i] = newTailProcessor(&f, ...) }` from index
`i` on: the slice `tailProcessors` and `logBuffers` after the loop, or `none` for the panic of
an index past the end of the slice. -/
def processorsLoop (tailProcessors : List (Option TailProc))
    (logBuffers : List (List UInt8 × Storage)) (i : Nat) :
    List FileConf → Option (List (Option TailProc) × List (List UInt8 × Storage))
  | [] => some (tailProcessors, logBuffers)
  | f :: fs =>
    if i < tailProcessors.length then
      let r := bufferStorage logBuffers i f
      processorsLoop (tailProcessors.set i (some (f, r.1))) r.2 (i + 1) fs
    else none

/-- The tail processors of `runTailAction`: the slice is made with one `nil` entry per file of
`conf.LogTail.Files` (`numFiles` of them), and filled from `FullFiles()`. -/
def tailProcessors (numFiles : Nat) (fullFiles : List FileConf) : Option (List (Option TailProc)) :=
  (processorsLoop (List.replicate numFiles none) [] 0 fullFiles).map Prod.fst

theorem set_append_replicate {α : Type} (done : List α) (x v : α) (k : Nat) :
    (done ++ List.replicate (k + 1) x).set done.length v = done ++ v :: List.replicate k x := by
  rw [List.set_append_right _ _ (Nat.le_refl _), Nat.sub_self, List.replicate_succ,
    List.set_cons_zero]

/-- The slots that the loop has filled, after the files `pre`. -/
def filledSlots (n : Nat) (pre : List FileConf) : List (Option TailProc) :=
  (pre.zip (tailStorages pre).1).map some ++ List.replicate (n - pre.length) none

/-- The run lemma of the loop: after the files `pre`, the loop over `fs` fills the slots of `fs`
in turn, and panics if they run past the end of the slice. -/
theorem processorsLoop_spec (n : Nat) (fs pre : List FileConf) (hpre : pre.length ≤ n) :
    processorsLoop (filledSlots n pre) (tailStorages pre).2 pre.length fs =
      if pre.length + fs.length ≤ n then
        some (filledSlots n (pre ++ fs), (tailStorages (pre ++ fs)).2)
      else none := by
  induction fs generalizing pre with
  | nil => simp [processorsLoop, hpre]
  | cons f fs ih =>
    have hA : ((pre.zip (tailStorages pre).1).map some : List (Option TailProc)).length =
        pre.length := by
      simp [length_tailStorages]
    have hlen : (filledSlots n pre).length = n := by
      rw [filledSlots, List.length_append, hA, List.length_replicate]
      omega
    by_cases hroom : pre.length < n
    · have hstep := tailStorages_append pre f
      simp only [storageStep, length_tailStorages] at hstep
      have hslots : (filledSlots n pre).set pre.length
          (some (f, (bufferStorage (tailStorages pre).2 pre.length f).1)) =
          filledSlots n (pre ++ [f]) := by
        obtain ⟨k, hk⟩ : ∃ k, n - pre.length = k + 1 := ⟨n - pre.length - 1, by omega⟩
        have hk' : n - (pre ++ [f]).length = k := by
          rw [List.length_append, List.length_singleton]
          omega
        rw [filledSlots, filledSlots, hk, hk', hstep,
          List.zip_append (length_tailStorages pre).symm]
        conv_lhs => rw [← hA]
        rw [set_append_replicate]
        simp [length_tailStorages]
      have hsnd : (bufferStorage (tailStorages pre).2 pre.length f).2 =
          (tailStorages (pre ++ [f])).2 := by
        rw [hstep]
      have h := ih (pre ++ [f]) (by rw [List.length_append, List.length_singleton]; omega)
      rw [List.append_assoc, List.singleton_append, List.length_append,
        List.length_singleton] at h
      rw [processorsLoop, if_pos (by omega)]
      dsimp only
      rw [hslots, hsnd, h, List.length_cons, show pre.length + (fs.length + 1) =
        pre.length + 1 + fs.length by omega]
    · rw [processorsLoop, if_neg (by omega), if_neg (by rw [List.length_cons]; omega)]

/-- `runTailAction` gives the processor of `fullFiles[i]`, with the storage `tailStorages` gives
it, to slot `i`, and leaves the slots after the last file `nil`; it panics on an index out of
range exactly when `FullFiles()` returns more files than `conf.LogTail.Files` holds. -/
theorem tailProcessors_eq (n : Nat) (fullFiles : List FileConf) :
    tailProcessors n fullFiles =
      if fullFiles.length ≤ n then
        some ((fullFiles.zip (tailStorages fullFiles).1).map some ++
          List.replicate (n - fullFiles.length) none)
      else none := by
  have h0 : filledSlots n [] = List.replicate n none := by simp [filledSlots]
  have h : processorsLoop (List.replicate n none) [] 0 fullFiles = _ :=
    h0 ▸ processorsLoop_spec n fullFiles [] (Nat.zero_le n)
  rw [tailProcessors, h, List.length_nil, Nat.zero_add, List.nil_append]
  split <;> rfl

/-- Two full files for one configured file: the second index is out of range. -/
example : tailProcessors 1 sampleConfs = none := by decide

end Klogproc.Main
