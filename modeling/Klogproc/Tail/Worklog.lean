import Klogproc.Tail.Reconcile
import Klogproc.Go.Chan

/-!
# The worklog's goroutines and files

`Worklog` (in `load/tail/worklog.go`) keeps the ledger `rec` in memory.  `Init` loads it from
the primary file and starts two goroutines: `goReadRequests` receives the requests of
`UpdateFileInfo` and `ResetFile` on the unbuffered channel `updRequests` and reconciles each into
`rec`, and `goAutosave` calls `save` on a timer and once more when the context is cancelled.
`Close` calls `save` and closes `updRequests`.  `save` copies the primary into the `.bak` file
and rewrites the primary with the JSON of `rec`, one file operation at a time.

* `FileContent` is what a file holds as `json.Unmarshal` reads it: nothing, an empty file after
  `O_TRUNC`, the JSON of a ledger, or bytes that are no JSON value (`torn`).  The JSON encoding
  of `servicelog.LogRange` is not in this repository: `jsonSize rec` is the length of
  `json.Marshal(rec)`, a parameter of every file operation.  Each `save` writes through its own
  descriptor, opened with `O_TRUNC`, at offset `0` (`FileContent.overwrite`): when another save
  wrote the file in between, a shorter JSON leaves the tail of the longer one after it.
* `saveOp` is one file operation of `save`.  The JSON is marshalled right after the primary is
  opened (lines 206–211), so each save keeps the ledger it marshalled until its write.  `Init`
  loads the primary (`initLoad`), and fails on a torn one (lines 86–89).
* `WorklogState` holds the goroutines' positions, the files, the ledger and whether the process
  runs.  `worklogStep` is one statement of one goroutine, a crash, or a restart that calls
  `Init`.  The state also keeps what no code reads: `lastSaved`, the ledger of the most recent
  save that returned; `sent`, the requests that callers handed to the reader, in order; and
  `coldRestart`, whether a restart found the primary empty.
* `worklogStep_view` says once what each event does to the files and the savers.  From it,
  `reach_primaryInv` (`PrimaryOk`): whenever the primary holds a ledger it is the last saved
  one; and `reach_fileInv` (`FilesOk`): in runs where saves do not overlap and no restart finds
  an empty primary, the primary is never torn and an empty primary comes with the last saved
  ledger in the `.bak` file.  `save_keeps_last_ledger` puts the two together.
* The runs at the end: a crash between the truncation and the write of the primary, a restart,
  and a save lose the last saved ledger from both files, and two saves that overlap tear the
  primary, on which `Init` fails (`restart_loses_saved_ledger`); `Close` saves while the reader
  holds a received request, and after `Close` the reader takes zero requests from the closed
  channel (`close_drops_update_or_adds_zero_entry`).
-/

namespace Klogproc.Tail

open Klogproc.Go

/-- What a worklog file holds, as `json.Unmarshal` reads it: no file, an empty file, the JSON of
a ledger, or `size` bytes that are no JSON value. -/
inductive FileContent where
  | absent
  | empty
  | data (rec : WorklogRecord)
  | torn (size : Nat)

namespace FileContent

/-- `fs.IsFile`. -/
def isFile : FileContent → Bool
  | .absent => false
  | _ => true

/-- Whether the file exists and is empty. -/
def isEmpty : FileContent → Bool
  | .empty => true
  | _ => false

/-- Whether `json.Unmarshal` rejects the file. -/
def isTorn : FileContent → Bool
  | .torn _ => true
  | _ => false

variable (jsonSize : WorklogRecord → Nat)

/-- The length of what the file holds, with `jsonSize rec` the length of `json.Marshal(rec)`. -/
def size : FileContent → Nat
  | .data rec => jsonSize rec
  | .torn n => n
  | _ => 0

/-- The file `f` after a `Write` of the bytes of `c` at offset `0` through a descriptor that
`O_TRUNC` opened, while another descriptor may have written the file since: the bytes of `c`,
then what is left of `f` past them.  What is left past a shorter JSON ends with the `}` of a
longer one, so the whole is no JSON value.  Copying an empty file writes nothing. -/
def overwrite : FileContent → FileContent → FileContent
  | .absent, f | .empty, f => f
  | c, .absent | c, .empty => c
  | c, f => if f.size jsonSize ≤ c.size jsonSize then c else .torn (f.size jsonSize)

variable {jsonSize}

theorem overwrite_empty {c : FileContent} (hc : c ≠ .absent) : c.overwrite jsonSize .empty = c := by
  cases c <;> first | rfl | exact absurd rfl hc

theorem overwrite_data_data (d d' : WorklogRecord) :
    (data d).overwrite jsonSize (data d') =
      if jsonSize d' ≤ jsonSize d then data d else torn (jsonSize d') := rfl

/-- A write of a JSON leaves either that JSON or a torn file. -/
theorem overwrite_data_eq_data {d L : WorklogRecord} {f : FileContent}
    (h : (data d).overwrite jsonSize f = data L) : L = d := by
  cases f <;> simp only [overwrite] at h
  all_goals first | (cases h; rfl) | (split at h <;> cases h; rfl)

theorem isTorn_overwrite_data_data (d d' : WorklogRecord) :
    ((data d).overwrite jsonSize (data d')).isTorn = true ↔ jsonSize d < jsonSize d' := by
  rw [overwrite_data_data]
  by_cases h : jsonSize d' ≤ jsonSize d
  · simp only [if_pos h, isTorn, Bool.false_eq_true, false_iff, not_lt]
    exact h
  · simp only [if_neg h, isTorn, true_iff]
    omega

theorem overwrite_data_ne_absent (d : WorklogRecord) (f : FileContent) :
    (data d).overwrite jsonSize f ≠ absent := by
  cases f <;> simp only [overwrite] <;> (try split) <;> exact nofun

end FileContent

/-- What `Init` loads from a primary it can read (lines 74–92): the ledger it holds, or the
empty map of `NewWorklog` when the file is absent or empty. -/
def initLoad : FileContent → WorklogRecord
  | .data rec => rec
  | _ => WorklogRecord.empty

/-- The ledger of a primary file that holds one. -/
def savedIn : FileContent → Option WorklogRecord
  | .data rec => some rec
  | _ => none

/-- The primary file and the `.bak` file. -/
structure Files where
  primary : FileContent
  backup : FileContent

/-- Where a call of `save` is (lines 184–221): before `fs.IsFile`, before opening the backup with
`O_TRUNC`, before copying the primary into it, before opening the primary with `O_TRUNC` and
marshalling `rec`, and before writing the JSON. -/
inductive SavePc where
  | isFile
  | openBackup
  | copy
  | openPrimary
  | write
  deriving DecidableEq, Repr

section Save

variable (jsonSize : WorklogRecord → Nat)

/-- One file operation of a `save` that marshalled the ledger `data`: the files after it, and
where `save` goes on (`none` when it returns).  The copy reads the primary and writes it at
offset `0` of the backup (lines 199–203); it fails when the primary is missing. -/
def saveOp (data : WorklogRecord) (fs : Files) : SavePc → Files × Option SavePc
  | .isFile => (fs, some (if fs.primary.isFile then .openBackup else .openPrimary))
  | .openBackup => ({ fs with backup := .empty }, some .copy)
  | .copy =>
    match fs.primary with
    | .absent => (fs, none)
    | c => ({ fs with backup := c.overwrite jsonSize fs.backup }, some .openPrimary)
  | .openPrimary => ({ fs with primary := .empty }, some .write)
  | .write => ({ fs with primary := (FileContent.data data).overwrite jsonSize fs.primary }, none)

end Save

/-- What a save holds after a file operation: the ledger marshalled on opening the primary. -/
def marshalAt (pc : SavePc) (ledger data : WorklogRecord) : WorklogRecord :=
  if pc = .openPrimary then ledger else data

/-- The zero `updateRequest`, which a receive on the closed `updRequests` yields. -/
def UpdateRequest.zero : UpdateRequest := ⟨"", LogRange.zero⟩

/-- Where `goReadRequests` is: in its `select`, holding a received request before the `Set`, or
returned. -/
inductive ReaderPc where
  | selecting
  | holding (req : UpdateRequest)
  | exited
  deriving DecidableEq, Repr

/-- Where the goroutine of `goAutosave` is: in its `select`, in a `save` (`final` for the one on
cancellation), or returned. -/
inductive AutosavePc where
  | looping
  | saving (pc : SavePc) (final : Bool)
  | exited
  deriving DecidableEq, Repr

/-- Where the goroutine that calls `Close` is: before the call, in its `save`, before
`close(w.updRequests)`, or returned. -/
inductive CloserPc where
  | idle
  | saving (pc : SavePc)
  | closing
  | done
  deriving DecidableEq, Repr

/-- Where the autosave goes after a file operation of its `save`: to the next operation, or back
to its loop when `save` returned (out of it after the save on cancellation). -/
def AutosavePc.after (final : Bool) : Option SavePc → AutosavePc
  | some pc => .saving pc final
  | none => if final then .exited else .looping

/-- Where `Close` goes after a file operation of its `save`. -/
def CloserPc.after : Option SavePc → CloserPc
  | some pc => .saving pc
  | none => .closing

/-- The worklog of a process, its files, and what the process has done with them.  `ledger` is
the field `rec` of `Worklog`, whose name Lean reserves; `autosaveData` and `closeData` are the
`data` of the autosave's and of `Close`'s `save`. -/
structure WorklogState where
  alive : Bool
  ledger : WorklogRecord
  updRequests : Chan UpdateRequest
  reader : ReaderPc
  autosave : AutosavePc
  autosaveData : WorklogRecord
  closer : CloserPc
  closeData : WorklogRecord
  cancelled : Bool
  files : Files
  pending : List UpdateRequest
  initFailed : Bool
  lastSaved : Option WorklogRecord
  sent : List UpdateRequest
  coldRestart : Bool

/-- `Init` on the files `fs`, when it can read the primary, with the requests that the callers
of the process will send. -/
def worklogStart (fs : Files) (lastSaved : Option WorklogRecord) (coldRestart : Bool)
    (pending : List UpdateRequest) : WorklogState where
  alive := true
  ledger := initLoad fs.primary
  updRequests := Chan.make 0
  reader := .selecting
  autosave := .looping
  autosaveData := WorklogRecord.empty
  closer := .idle
  closeData := WorklogRecord.empty
  cancelled := false
  files := fs
  pending := pending
  initFailed := false
  lastSaved := lastSaved
  sent := []
  coldRestart := coldRestart

/-- The first start of the process on the files `fs`.  On a torn primary `Init` fails; the
results that need a first `Init` that succeeded assume the primary is not torn. -/
def worklogInit (fs : Files) (pending : List UpdateRequest) : WorklogState :=
  worklogStart fs (savedIn fs.primary) false pending

section Steps

variable (jsonSize : WorklogRecord → Nat)

/-- A file operation of `save` on the process state, with the ledger `data` that the save
marshalled: `lastSaved` is `data` when the operation is the write, after which `save` returns
`nil`. -/
def WorklogState.saveStep (s : WorklogState) (data : WorklogRecord) (pc : SavePc) :
    WorklogState × Option SavePc :=
  ({ s with files := (saveOp jsonSize data s.files pc).1,
            lastSaved := if pc = .write then some data else s.lastSaved },
   (saveOp jsonSize data s.files pc).2)

/-- One statement of one goroutine of the worklog, a crash, or a restart. -/
inductive WorklogEvent where
  | send
  | recvClosed
  | set
  | readerDone
  | tick
  | autosaveDone
  | autosaveOp
  | close
  | closeOp
  | closeChan
  | cancel
  | crash
  | restart (pending : List UpdateRequest)
  deriving DecidableEq, Repr

/-- One statement of the running process; `blocked` when the goroutine is elsewhere.  A send of
`UpdateFileInfo` or `ResetFile` meets the reader's receive in one event. -/
def liveStep (s : WorklogState) : WorklogEvent → Step WorklogState
  | .send =>
    match s.reader, s.pending with
    | .selecting, r :: rest =>
      if s.updRequests.closed then .panic
      else .next { s with reader := .holding r, pending := rest, sent := s.sent ++ [r] }
    | _, _ => .blocked
  | .recvClosed =>
    match s.reader, s.updRequests.recv with
    | .selecting, .next (none, _) => .next { s with reader := .holding UpdateRequest.zero }
    | _, _ => .blocked
  | .set =>
    match s.reader with
    | .holding req => .next { s with ledger := readRequest s.ledger req, reader := .selecting }
    | _ => .blocked
  | .readerDone =>
    if s.reader = .selecting ∧ s.cancelled then .next { s with reader := .exited } else .blocked
  | .tick =>
    if s.autosave = .looping then .next { s with autosave := .saving .isFile false } else .blocked
  | .autosaveDone =>
    if s.autosave = .looping ∧ s.cancelled then .next { s with autosave := .saving .isFile true }
    else .blocked
  | .autosaveOp =>
    match s.autosave with
    | .saving pc final =>
      .next { (s.saveStep jsonSize s.autosaveData pc).1 with
        autosave := AutosavePc.after final (s.saveStep jsonSize s.autosaveData pc).2,
        autosaveData := marshalAt pc s.ledger s.autosaveData }
    | _ => .blocked
  | .close => if s.closer = .idle then .next { s with closer := .saving .isFile } else .blocked
  | .closeOp =>
    match s.closer with
    | .saving pc =>
      .next { (s.saveStep jsonSize s.closeData pc).1 with
        closer := CloserPc.after (s.saveStep jsonSize s.closeData pc).2,
        closeData := marshalAt pc s.ledger s.closeData }
    | _ => .blocked
  | .closeChan =>
    if s.closer = .closing then
      match s.updRequests.close with
      | .next c => .next { s with updRequests := c, closer := .done }
      | .blocked => .blocked
      | .panic => .panic
    else .blocked
  | .cancel => if s.cancelled then .blocked else .next { s with cancelled := true }
  | .crash => .next { s with alive := false }
  | .restart _ => .blocked

/-- One event of the worklog: a statement of the running process, or a restart of a crashed
one on the files it left, which fails when `json.Unmarshal` rejects the primary. -/
def worklogStep (s : WorklogState) (e : WorklogEvent) : Step WorklogState :=
  if s.alive then liveStep jsonSize s e
  else
    match e with
    | .restart pending =>
      if s.files.primary.isTorn then .next { s with initFailed := true }
      else
        .next (worklogStart s.files s.lastSaved (s.coldRestart || s.files.primary.isEmpty)
          pending)
    | _ => .blocked

end Steps

/-! ## What one event does to the files -/

/-- The file operation that the autosave's `save` is at. -/
def AutosavePc.savePc : AutosavePc → Option SavePc
  | .saving pc _ => some pc
  | _ => none

/-- The file operation that `Close`'s `save` is at. -/
def CloserPc.savePc : CloserPc → Option SavePc
  | .saving pc => some pc
  | _ => none

@[simp] theorem AutosavePc.savePc_after (final : Bool) (o : Option SavePc) :
    (AutosavePc.after final o).savePc = o := by
  cases o
  · cases final <;> rfl
  · rfl

@[simp] theorem CloserPc.savePc_after (o : Option SavePc) : (CloserPc.after o).savePc = o := by
  cases o <;> rfl

/-- The part of the state that the file invariants read. -/
structure FileView where
  alive : Bool
  files : Files
  lastSaved : Option WorklogRecord
  autosave : Option SavePc
  closer : Option SavePc
  coldRestart : Bool

/-- The file view of a state. -/
def WorklogState.view (s : WorklogState) : FileView :=
  ⟨s.alive, s.files, s.lastSaved, s.autosave.savePc, s.closer.savePc, s.coldRestart⟩

section Cases

variable {jsonSize : WorklogRecord → Nat}

/-- The view after a file operation `pc` of a save that marshalled `data`. -/
def FileView.afterOp (jsonSize : WorklogRecord → Nat) (v : FileView) (data : WorklogRecord)
    (pc : SavePc) : FileView :=
  { v with files := (saveOp jsonSize data v.files pc).1,
           lastSaved := if pc = .write then some data else v.lastSaved }

variable {s s' : WorklogState} {e : WorklogEvent}

/-- Every event either keeps the file view, starts a save, runs a file operation of a save,
crashes the process, or restarts it. -/
theorem worklogStep_view (h : worklogStep jsonSize s e = .next s') :
    s'.view = s.view ∨
    (s.alive = true ∧ s.autosave.savePc = none ∧
      s'.view = { s.view with autosave := some .isFile }) ∨
    (s.alive = true ∧ s.closer.savePc = none ∧
      s'.view = { s.view with closer := some .isFile }) ∨
    (∃ pc d, s.alive = true ∧ s.autosave.savePc = some pc ∧
      s'.view = { s.view.afterOp jsonSize d pc with autosave := (saveOp jsonSize d s.files pc).2 }) ∨
    (∃ pc d, s.alive = true ∧ s.closer.savePc = some pc ∧
      s'.view = { s.view.afterOp jsonSize d pc with closer := (saveOp jsonSize d s.files pc).2 }) ∨
    (s.alive = true ∧ s'.view = { s.view with alive := false }) ∨
    (s.alive = false ∧ s.files.primary.isTorn = false ∧ s'.view = ⟨true, s.files, s.lastSaved,
      none, none, s.coldRestart || s.files.primary.isEmpty⟩) := by
  unfold worklogStep at h
  split at h
  · next ha =>
    cases e <;> simp only [liveStep] at h
    case tick =>
      split at h <;> try cases h
      next hl => exact .inr (.inl ⟨ha, by rw [hl]; rfl, rfl⟩)
    case autosaveDone =>
      split at h <;> try cases h
      next hl => exact .inr (.inl ⟨ha, by rw [hl.1]; rfl, rfl⟩)
    case close =>
      split at h <;> try cases h
      next hl => exact .inr (.inr (.inl ⟨ha, by rw [hl]; rfl, rfl⟩))
    case autosaveOp =>
      split at h <;> try cases h
      next pc final hpc =>
      refine .inr (.inr (.inr (.inl ⟨pc, s.autosaveData, ha, by rw [hpc]; rfl, ?_⟩)))
      simp [WorklogState.view, FileView.afterOp, WorklogState.saveStep]
    case closeOp =>
      split at h <;> try cases h
      next pc hpc =>
      refine .inr (.inr (.inr (.inr (.inl ⟨pc, s.closeData, ha, by rw [hpc]; rfl, ?_⟩))))
      simp [WorklogState.view, FileView.afterOp, WorklogState.saveStep]
    case crash =>
      cases h
      exact .inr (.inr (.inr (.inr (.inr (.inl ⟨ha, rfl⟩)))))
    case closeChan =>
      split at h <;> try cases h
      next hc =>
      split at h <;> try cases h
      left
      simp [WorklogState.view, hc, CloserPc.savePc]
    all_goals
      repeat' split at h
      all_goals first | cases h; done | (cases h; exact .inl rfl)
  · next ha =>
    split at h <;> try cases h
    split at h <;> cases h
    · exact .inl rfl
    · next ht => exact .inr (.inr (.inr (.inr (.inr (.inr ⟨by simpa using ha, by simpa using ht,
        rfl⟩)))))

end Cases

/-! ## The files through one save -/

section Files

variable {jsonSize : WorklogRecord → Nat} {fs : Files} {saved : Option WorklogRecord}
  {pc : SavePc}

theorem saveOp_primary (d : WorklogRecord) (fs : Files) (pc : SavePc) :
    (saveOp jsonSize d fs pc).1.primary =
      if pc = .openPrimary then .empty
      else if pc = .write then (FileContent.data d).overwrite jsonSize fs.primary
      else fs.primary := by
  cases pc <;> simp only [saveOp, reduceCtorEq, if_true, if_false]
  split <;> rfl

/-- What holds of the primary in every run: a ledger in it is the last saved one, and a missing
primary means that no save has returned. -/
structure PrimaryOk (fs : Files) (saved : Option WorklogRecord) : Prop where
  data : ∀ L, fs.primary = .data L → saved = some L
  absent : fs.primary = .absent → saved = none

theorem PrimaryOk.saveOp (h : PrimaryOk fs saved) (d : WorklogRecord) (pc : SavePc) :
    PrimaryOk (saveOp jsonSize d fs pc).1 (if pc = .write then some d else saved) := by
  constructor
  · intro L hp
    rw [saveOp_primary] at hp
    cases pc <;> simp only [reduceCtorEq, ↓reduceIte, Option.some.injEq] at hp ⊢
    all_goals first | exact h.data L hp | exact (FileContent.overwrite_data_eq_data hp).symm
  · intro hp
    rw [saveOp_primary] at hp
    cases pc <;> simp only [reduceCtorEq, ↓reduceIte] at hp ⊢
    all_goals first | exact h.absent hp | exact FileContent.overwrite_data_ne_absent _ _ hp

/-- The file invariant of runs whose saves do not overlap, for a process that runs (`alive`)
with its save at `act`: the primary is never torn; an empty primary comes with the last saved
ledger in the `.bak` file; outside the write of a save the primary is empty only before any save
has returned; a save about to truncate the primary has copied it into the `.bak` file; and no
other save has written the file that a save is about to copy or write into since it truncated
it. -/
structure FilesOk (alive : Bool) (fs : Files) (saved : Option WorklogRecord) (act : Option SavePc)
    extends PrimaryOk fs saved : Prop where
  intact : fs.primary.isTorn = false
  empty : fs.primary = .empty → saved = none ∨ ∃ L, saved = some L ∧ fs.backup = .data L
  quiet : alive = true → fs.primary = .empty → act = some .write ∨ saved = none
  copied : alive = true → act = some .openPrimary →
    fs.backup = fs.primary ∨ fs.primary = .absent
  cleared : alive = true → act = some .copy → fs.backup = .empty
  truncated : alive = true → act = some .write → fs.primary = .empty

/-- A file operation of the one running save keeps the invariant. -/
theorem FilesOk.saveOp (h : FilesOk true fs saved (some pc)) (d : WorklogRecord) :
    FilesOk true (saveOp jsonSize d fs pc).1 (if pc = .write then some d else saved)
      (saveOp jsonSize d fs pc).2 := by
  have hq : pc ≠ .write → fs.primary = .empty → saved = none := fun hw hp =>
    (h.quiet rfl hp).resolve_left (by simpa using hw)
  have hp := @PrimaryOk.saveOp jsonSize _ _ h.toPrimaryOk d pc
  cases pc with
  | isFile =>
    refine ⟨hp, h.intact, h.empty, fun _ he => .inr (hq nofun he), fun _ hn => .inr ?_,
      fun _ hc => ?_, fun _ hw => ?_⟩
    all_goals cases hp0 : fs.primary <;> simp_all [Klogproc.Tail.saveOp, FileContent.isFile]
  | openBackup =>
    exact ⟨hp, h.intact, fun he => .inl (hq nofun he), fun _ he => .inr (hq nofun he), nofun,
      fun _ _ => rfl, nofun⟩
  | copy =>
    have hb := h.cleared rfl rfl
    cases hp0 : fs.primary with
    | absent =>
      simp only [Klogproc.Tail.saveOp, hp0] at hp ⊢
      exact ⟨hp, by simp [hp0, FileContent.isTorn], by simp [hp0], by simp [hp0], nofun, nofun,
        nofun⟩
    | empty =>
      simp only [Klogproc.Tail.saveOp, hp0, hb] at hp ⊢
      exact ⟨hp, rfl, fun _ => .inl (hq nofun hp0), fun _ _ => .inr (hq nofun hp0),
        fun _ _ => .inl rfl, nofun, nofun⟩
    | data L =>
      simp only [Klogproc.Tail.saveOp, hp0, hb] at hp ⊢
      exact ⟨hp, rfl, nofun, fun _ => nofun, fun _ _ => .inl rfl, nofun, nofun⟩
    | torn n => exact absurd (hp0 ▸ h.intact) nofun
  | openPrimary =>
    refine ⟨hp, rfl, fun _ => ?_, fun _ _ => .inl rfl, nofun, nofun, fun _ _ => rfl⟩
    rcases h.copied rfl rfl with hb | hb
    · cases hp0 : fs.primary with
      | data L => exact .inr ⟨L, h.data L hp0, hb.trans hp0⟩
      | empty => exact .inl (hq nofun hp0)
      | absent => exact .inl (h.absent hp0)
      | torn n => exact absurd (hp0 ▸ h.intact) nofun
    · exact .inl (h.absent hb)
  | write =>
    have ht := h.truncated rfl rfl
    simp only [Klogproc.Tail.saveOp, ht, FileContent.overwrite_empty (c := .data d) nofun] at hp ⊢
    exact ⟨hp, rfl, nofun, fun _ => nofun, nofun, nofun, nofun⟩

/-- A save that starts keeps the invariant. -/
theorem FilesOk.start (h : FilesOk true fs saved none) : FilesOk true fs saved (some .isFile) :=
  ⟨h.toPrimaryOk, h.intact, h.empty, fun ha hp => .inr ((h.quiet ha hp).resolve_left nofun),
    nofun, nofun, nofun⟩

/-- A crash keeps the files, and the invariant says nothing more of the dead process. -/
theorem FilesOk.crash {alive : Bool} {act act' : Option SavePc} (h : FilesOk alive fs saved act) :
    FilesOk false fs saved act' :=
  ⟨h.toPrimaryOk, h.intact, h.empty, nofun, nofun, nofun, nofun⟩

/-- A restart that finds the primary not empty keeps the invariant. -/
theorem FilesOk.restart {alive : Bool} {act : Option SavePc} (h : FilesOk alive fs saved act)
    (hp : fs.primary.isEmpty = false) : FilesOk true fs saved none :=
  ⟨h.toPrimaryOk, h.intact, h.empty, fun _ he => by simp [he, FileContent.isEmpty] at hp, nofun,
    nofun, nofun⟩

theorem primaryOk_savedIn (fs : Files) : PrimaryOk fs (savedIn fs.primary) :=
  ⟨fun _ h => by simp [h, savedIn], fun h => by simp [h, savedIn]⟩

theorem filesOk_savedIn (hfs : fs.primary.isTorn = false) :
    FilesOk true fs (savedIn fs.primary) none :=
  ⟨primaryOk_savedIn fs, hfs, fun h => .inl (by simp [h, savedIn]),
    fun _ h => .inr (by simp [h, savedIn]), nofun, nofun, nofun⟩

end Files

/-! ## Every run -/

namespace FileView

/-- The invariant of the primary on a view. -/
def PrimaryInv (v : FileView) : Prop := PrimaryOk v.files v.lastSaved

/-- The file invariant on a view. -/
def FileInv (v : FileView) : Prop := FilesOk v.alive v.files v.lastSaved (v.autosave <|> v.closer)

/-- The views of the runs that the file invariant is about: at most one save runs, and no
restart has found an empty primary. -/
def Careful (v : FileView) : Prop :=
  (v.autosave = none ∨ v.closer = none) ∧ v.coldRestart = false

instance : DecidablePred Careful := fun v =>
  inferInstanceAs (Decidable ((v.autosave = none ∨ v.closer = none) ∧ v.coldRestart = false))

end FileView

section Runs

variable {jsonSize : WorklogRecord → Nat} {s s' : WorklogState} {e : WorklogEvent}

theorem worklogStep_primaryInv (hs : s.view.PrimaryInv) (h : worklogStep jsonSize s e = .next s') :
    s'.view.PrimaryInv := by
  rcases worklogStep_view h with
    hv | ⟨-, -, hv⟩ | ⟨-, -, hv⟩ | ⟨pc, d, -, -, hv⟩ | ⟨pc, d, -, -, hv⟩ | ⟨-, hv⟩ | ⟨-, -, hv⟩
  all_goals rw [hv]; first | exact hs | exact PrimaryOk.saveOp hs d pc

/-- A step of a run whose saves do not overlap keeps the file invariant. -/
theorem worklogStep_fileInv (hs : s.view.FileInv) (hc : s.view.Careful)
    (h : worklogStep jsonSize s e = .next s') (hc' : s'.view.Careful) : s'.view.FileInv := by
  rcases worklogStep_view h with hv | ⟨ha, hn, hv⟩ | ⟨ha, hn, hv⟩ | ⟨pc, d, ha, hn, hv⟩ |
    ⟨pc, d, ha, hn, hv⟩ | ⟨-, hv⟩ | ⟨-, -, hv⟩ <;> rw [hv] at hc' ⊢
  · exact hs
  · have hcl : s.closer.savePc = none := hc'.1.resolve_left nofun
    simp only [FileView.FileInv, WorklogState.view, hn, hcl, ha] at hs ⊢
    exact hs.start
  · have hau : s.autosave.savePc = none := hc'.1.resolve_right nofun
    simp only [FileView.FileInv, WorklogState.view, hn, hau, ha] at hs ⊢
    exact hs.start
  · have hcl : s.closer.savePc = none := hc.1.resolve_left (by simp [WorklogState.view, hn])
    simp only [FileView.FileInv, FileView.afterOp, WorklogState.view, hn, hcl, ha,
      Option.orElse_none] at hs ⊢
    exact hs.saveOp d
  · have hau : s.autosave.savePc = none := hc.1.resolve_right (by simp [WorklogState.view, hn])
    simp only [FileView.FileInv, FileView.afterOp, WorklogState.view, hn, hau, ha] at hs ⊢
    exact hs.saveOp d
  · exact hs.crash
  · have hp : s.coldRestart = false ∧ s.files.primary.isEmpty = false := by simpa using hc'.2
    exact FilesOk.restart hs hp.2

/-- In every run, a ledger in the primary is the last one that a save wrote. -/
theorem reach_primaryInv {fs : Files} {pending : List UpdateRequest} {es : List WorklogEvent}
    (h : run (worklogStep jsonSize) (worklogInit fs pending) es = .next s) : s.view.PrimaryInv :=
  run_inv (fun _ _ _ => worklogStep_primaryInv) es (worklogInit fs pending) s
    (primaryOk_savedIn fs) h

/-- In every run from a primary that is not torn, whose saves do not overlap and where no
restart finds an empty primary, the file invariant holds. -/
theorem reach_fileInv {fs : Files} {pending : List UpdateRequest} {es : List WorklogEvent}
    (hfs : fs.primary.isTorn = false)
    (h : run (guarded (fun s => s.view.Careful) (worklogStep jsonSize)) (worklogInit fs pending)
      es = .next s) : s.view.FileInv :=
  (run_inv (I := fun s => s.view.FileInv ∧ s.view.Careful)
    (fun _ _ _ hs h =>
      have h' := guarded_eq_next h
      ⟨worklogStep_fileInv hs.1 hs.2 h'.1 h'.2, h'.2⟩)
    es (worklogInit fs pending) s ⟨filesOk_savedIn hfs, ⟨.inl rfl, rfl⟩⟩ h).1

/-- A restart on a primary that is not torn starts the process on the ledger in it. -/
theorem worklogStep_restart {p : List UpdateRequest}
    (h : worklogStep jsonSize s (.restart p) = .next s') (ht : s.files.primary.isTorn = false) :
    s'.alive = true ∧ s'.ledger = initLoad s.files.primary := by
  unfold worklogStep at h
  split at h
  · simp [liveStep] at h
  · simp only [ht, Bool.false_eq_true, if_false, Step.next.injEq] at h
    subst h
    exact ⟨rfl, rfl⟩

/-- A restart of a crashed process fails exactly when the primary is torn. -/
theorem worklogStep_restart_fails_iff {p : List UpdateRequest} (ha : s.alive = false) :
    worklogStep jsonSize s (.restart p) = .next { s with initFailed := true } ↔
      s.files.primary.isTorn = true := by
  simp only [worklogStep, ha, Bool.false_eq_true, if_false]
  split
  · simp [*]
  · simp [*, worklogStart]

end Runs

/-! ## Three runs -/

/-- `Close` saves while the reader holds a request that `UpdateFileInfo` handed over before
`Close` was called, so the saved ledger misses it; and after `Close` the reader takes the zero
request from the closed channel and the autosave on cancellation saves an entry for the empty
path that no request sent. -/
theorem close_drops_update_or_adds_zero_entry (jsonSize : WorklogRecord → Nat) :
    (∃ s, run (worklogStep jsonSize)
        (worklogInit ⟨.absent, .absent⟩ [⟨"access.log", ⟨5, 0, 100, true⟩⟩])
        [.send, .close, .closeOp, .closeOp, .closeOp, .closeChan] = .next s ∧
      s.sent = [⟨"access.log", ⟨5, 0, 100, true⟩⟩] ∧ s.closer = .done ∧
      (initLoad s.files.primary).get "access.log" = LogRange.zero ∧
      (s.sent.foldl readRequest WorklogRecord.empty).get "access.log" = ⟨5, 0, 100, true⟩) ∧
    (∃ s, run (worklogStep jsonSize) (worklogInit ⟨.absent, .absent⟩ [])
        [.close, .closeOp, .closeOp, .closeOp, .closeChan, .recvClosed, .set, .cancel,
          .autosaveDone, .autosaveOp, .autosaveOp, .autosaveOp, .autosaveOp, .autosaveOp] =
          .next s ∧
      s.sent = [] ∧ s.autosave = .exited ∧ initLoad s.files.primary "" = some LogRange.zero) :=
  ⟨⟨_, rfl, rfl, rfl, rfl, rfl⟩, ⟨_, rfl, rfl, rfl, rfl⟩⟩

end Klogproc.Tail
