import Klogproc.Batch.LineTime
import Mathlib.Data.List.Basic

/-!
# The log files that a batch run reads

A batch run of `klogproc` reads either one file or the log files of a directory
(`src/unnamed/part_006`).  `getFilesInDir` lists the directory and keeps the regular files that
`LogFileMatches` accepts: those whose first record is not older than `minTimestamp`, or, when
`strictMatch` is off, whose modification time is not older.  `CreateLogFileProcFunc` parses the
files one after another and stops after the file during which its context was cancelled.

* `FileSystem` holds what the package reads from the file system through `os` and `fsop`, which
  is not in this repository; every result holds for every file system.  `FsState` records the
  files that are open: `LogFileMatches` opens the file it tests and never closes it.
* `filesLoop` is the `for` loop of `getFilesInDir` as Go runs it: `ans` is made with `len(tmp)`
  entries, `ans[i] = logPath` writes at `i`, and the result is `ans[:i]`.  `none` is the panic of
  an index out of range.
* `filesLoop_spec` is the run lemma: from a state whose `ans` has room for the entries left, the
  loop appends the selected paths to `ans[:i]` (`Selected`, the choice the loop is meant to make)
  and the opened ones to the open files.  `getFilesInDir_eq_filter`: `getFilesInDir` never
  panics, returns the selected paths of the directory in directory order and leaves every file
  it opened open.
* `getFilesInDir_strict_sublist` and `getFilesInDir_antitone`: the strict choice is a sublist of
  the lax one, and a later `minTimestamp` selects a sublist.  `mem_getFilesInDir_strict`: in
  strict mode with `minTimestamp ≥ 0`, every listed file starts with a record time that
  `importTimeFromLine` reads (`lineTime`), shifted to no earlier than `minTimestamp`.
* `logFileProcFunc` is the function that `CreateLogFileProcFunc` returns, as the events it
  causes, with `ctxDone` for the `select` on `ctx.Done()` after each file.
  `logFileProcFunc_events`: a run parses `batchFiles` in order up to the first file after which
  the context is done; the list it then logs as not processed starts with that file, which it
  has parsed; every channel is closed once, last, on both paths.
-/

namespace Klogproc.Batch

open Klogproc.Go Klogproc.Conversion

/-! ## The file system -/

/-- `*os.PathError`: the operation and the path; the system error is the file system's. -/
structure PathError where
  op : String
  path : List UInt8
  deriving DecidableEq, Repr

/-- What package `batch` reads from the file system. -/
structure FileSystem where
  /-- `os.ReadDir(dirPath)`: the names of the entries, or `none` for an error. -/
  readDir : List UInt8 → Option (List (List UInt8))
  /-- `path.Join(dirPath, name)`. -/
  pathJoin : List UInt8 → List UInt8 → List UInt8
  /-- `fsop.IsFile(path)`. -/
  isFile : List UInt8 → Bool
  /-- `fsop.IsDir(path)`. -/
  isDir : List UInt8 → Bool
  /-- `os.Open(path)` and then `Text()` after the first `Scan()` of a `bufio.Scanner` on it. -/
  firstLine : List UInt8 → Except PathError (List UInt8)
  /-- `fsop.GetFileMtime(path)`, in Unix seconds. -/
  mtime : List UInt8 → Int

/-- The files that the process has opened and not closed. -/
structure FsState where
  openFiles : List (List UInt8)
  deriving DecidableEq, Repr

/-! ## `LogFileMatches` -/

/-- The errors of `LogFileMatches`: that of `os.Open`, and that of `importTimeFromLine`. -/
inductive MatchError where
  | pathError (err : PathError)
  | importTime (err : String)
  deriving DecidableEq, Repr

/-- `LogFileMatches(filePath, minTimestamp, strictMatch, tzShiftMin)`: whether the file's first
record, or in lax mode its modification time, is not older than `minTimestamp`, and the error.
The file it opens stays open. -/
def logFileMatches (fs : FileSystem) (st : FsState) (filePath : List UInt8) (minTimestamp : Int)
    (strictMatch : Bool) (tzShiftMin : Int) : (Bool × Option MatchError) × FsState :=
  match fs.firstLine filePath with
  | .error err => ((false, some (.pathError err)), st)
  | .ok line =>
    let st := { st with openFiles := st.openFiles ++ [filePath] }
    match importTimeFromLine line tzShiftMin with
    | (_, some err) => ((false, some (.importTime err)), st)
    | (startTime, none) =>
      let startTime := if startTime < minTimestamp ∧ !strictMatch then fs.mtime filePath else startTime
      ((decide (startTime ≥ minTimestamp), none), st)

/-- Whether a file whose first line is `line` is recent enough: its first record, or in lax mode
its modification time, is not older than `minTimestamp`. -/
def recentEnough (fs : FileSystem) (minTimestamp : Int) (strictMatch : Bool) (tzShiftMin : Int)
    (p line : List UInt8) : Bool :=
  decide ((importTimeFromLine line tzShiftMin).1 ≥ minTimestamp) ||
    (!strictMatch && decide (fs.mtime p ≥ minTimestamp))

/-- The files `getFilesInDir` is meant to list: the regular files that open and are recent
enough. -/
def Selected (fs : FileSystem) (minTimestamp : Int) (strictMatch : Bool) (tzShiftMin : Int)
    (p : List UInt8) : Bool :=
  fs.isFile p && match fs.firstLine p with
    | .error _ => false
    | .ok line => recentEnough fs minTimestamp strictMatch tzShiftMin p line

/-- Whether `os.Open` opens the file. -/
def opens (fs : FileSystem) (p : List UInt8) : Bool :=
  match fs.firstLine p with
  | .error _ => false
  | .ok _ => true

/-! ## `getFilesInDir` -/

/-- The variables of the loop of `getFilesInDir`: `ans`, made with `len(tmp)` entries, and `i`. -/
structure FilesLoop where
  ans : List (List UInt8)
  i : Nat
  deriving DecidableEq, Repr

section Loop

variable (fs : FileSystem) (dirPath : List UInt8) (minTimestamp : Int) (strictMatch : Bool)
  (tzShiftMin : Int)

/-- `for _, item := range tmp` in `getFilesInDir`, over the entries left: `continue` on a path
that is not a regular file, the error of `LogFileMatches` logged, and `ans[i] = logPath; i++` on
a match.  `none` is the panic of `ans[i]` out of range. -/
def filesLoop : List (List UInt8) → FilesLoop → FsState → Option (FilesLoop × FsState)
  | [], l, st => some (l, st)
  | item :: items, l, st =>
    let logPath := fs.pathJoin dirPath item
    if !fs.isFile logPath then filesLoop items l st
    else
      match logFileMatches fs st logPath minTimestamp strictMatch tzShiftMin with
      | ((_, some _), st) => filesLoop items l st
      | ((doesMatch, none), st) =>
        if doesMatch then
          if l.i < l.ans.length then filesLoop items ⟨l.ans.set l.i logPath, l.i + 1⟩ st
          else none
        else filesLoop items l st

/-- `getFilesInDir(dirPath, minTimestamp, strictMatch, tzShiftMin)`: `ans[:i]` after the loop,
or no file when `os.ReadDir` fails; `none` for a panic. -/
def getFilesInDir (st : FsState) : Option (List (List UInt8) × FsState) :=
  match fs.readDir dirPath with
  | some tmp =>
    (filesLoop fs dirPath minTimestamp strictMatch tzShiftMin tmp ⟨List.replicate tmp.length [], 0⟩ st).map
      fun (l, st) => (l.ans.take l.i, st)
  | none => some ([], st)

end Loop

/-! ## One call of `LogFileMatches` -/

section Matches

variable {fs : FileSystem} {st : FsState} {minTimestamp tzShiftMin : Int} {strictMatch : Bool}

@[simp] theorem importTimeFromLine_err (line : List UInt8) (tzShiftMin : Int) :
    (importTimeFromLine line tzShiftMin).2 = none := by
  unfold importTimeFromLine
  split <;> rfl

/-- `LogFileMatches` fails exactly when `os.Open` fails; otherwise it says whether the file is
recent enough, and the file stays open. -/
theorem logFileMatches_eq (p : List UInt8) :
    logFileMatches fs st p minTimestamp strictMatch tzShiftMin =
      match fs.firstLine p with
      | .error err => ((false, some (.pathError err)), st)
      | .ok line => ((recentEnough fs minTimestamp strictMatch tzShiftMin p line, none),
          ⟨st.openFiles ++ [p]⟩) := by
  unfold logFileMatches
  split
  · rfl
  · next line _ =>
    rcases h : importTimeFromLine line tzShiftMin with ⟨startTime, err⟩
    have herr : err = none := by simpa [h] using importTimeFromLine_err line tzShiftMin
    subst herr
    simp only [recentEnough, h]
    by_cases hlt : startTime < minTimestamp <;> cases strictMatch <;> simp [hlt]
    all_goals omega

end Matches

/-! ## The loop of `getFilesInDir` -/

/-- `ans[i] = v` on `ans[:i]`: writing at `i` appends to the first `i` entries. -/
theorem take_succ_set {α : Type} {xs : List α} {i : Nat} (h : i < xs.length) (v : α) :
    (xs.set i v).take (i + 1) = xs.take i ++ [v] := by
  rw [List.take_succ, List.set_take, List.set_eq_of_length_le (by simp only [List.length_take]; omega),
    List.getElem?_set_self h]
  rfl

section Loop

variable {fs : FileSystem} {dirPath : List UInt8} {minTimestamp tzShiftMin : Int}
  {strictMatch : Bool}

/-- The paths of the entries left that `getFilesInDir` should list. -/
def selectedPaths (fs : FileSystem) (dirPath : List UInt8) (minTimestamp : Int) (strictMatch : Bool)
    (tzShiftMin : Int) (items : List (List UInt8)) : List (List UInt8) :=
  (items.map (fs.pathJoin dirPath)).filter (Selected fs minTimestamp strictMatch tzShiftMin)

/-- The paths of the entries left that `LogFileMatches` opens: the regular files that open. -/
def openedPaths (fs : FileSystem) (dirPath : List UInt8) (items : List (List UInt8)) :
    List (List UInt8) :=
  (items.map (fs.pathJoin dirPath)).filter fun p => fs.isFile p && opens fs p

/-- The run lemma of the loop: when `ans` has room for one write per entry left, the loop never
panics, appends the selected paths to `ans[:i]`, keeps the length of `ans`, and leaves open every
file it opened. -/
theorem filesLoop_spec (items : List (List UInt8)) (l : FilesLoop) (st : FsState)
    (hroom : l.i + items.length ≤ l.ans.length) :
    ∃ l', filesLoop fs dirPath minTimestamp strictMatch tzShiftMin items l st =
        some (l', ⟨st.openFiles ++ openedPaths fs dirPath items⟩) ∧
      l'.ans.take l'.i = l.ans.take l.i ++ selectedPaths fs dirPath minTimestamp strictMatch tzShiftMin items ∧
      l'.ans.length = l.ans.length := by
  induction items generalizing l st with
  | nil => exact ⟨l, by simp [filesLoop, openedPaths], by simp [selectedPaths], rfl⟩
  | cons item items ih =>
    simp only [List.length_cons] at hroom
    have hrest : l.i + items.length ≤ l.ans.length := by omega
    simp only [selectedPaths, openedPaths, List.map_cons, List.filter_cons, Selected, opens] at ih ⊢
    by_cases hfile : fs.isFile (fs.pathJoin dirPath item)
    · simp only [filesLoop, hfile, Bool.not_true, Bool.true_and, logFileMatches_eq]
      cases hline : fs.firstLine (fs.pathJoin dirPath item) with
      | error err => simpa using ih l st hrest
      | ok line =>
        by_cases hrecent : recentEnough fs minTimestamp strictMatch tzShiftMin (fs.pathJoin dirPath item) line
        · obtain ⟨l', hrun, htake, hlen⟩ := ih ⟨l.ans.set l.i (fs.pathJoin dirPath item), l.i + 1⟩
            ⟨st.openFiles ++ [fs.pathJoin dirPath item]⟩ (by simp only [List.length_set]; omega)
          refine ⟨l', ?_, ?_, ?_⟩
          · simpa [hrecent, show l.i < l.ans.length by omega] using hrun
          · simp [htake, take_succ_set (show l.i < l.ans.length by omega), hrecent]
          · rw [hlen, List.length_set]
        · simpa [hrecent] using ih l ⟨st.openFiles ++ [fs.pathJoin dirPath item]⟩ hrest
    · simpa [filesLoop, hfile] using ih l st hrest

/-- `getFilesInDir` never panics.  It returns the paths of the directory's entries that are
regular files, open, and are recent enough, in the order `os.ReadDir` gives, and every regular
file that it opened stays open. -/
theorem getFilesInDir_eq_filter (st : FsState) :
    getFilesInDir fs dirPath minTimestamp strictMatch tzShiftMin st =
      match fs.readDir dirPath with
      | some tmp => some (selectedPaths fs dirPath minTimestamp strictMatch tzShiftMin tmp,
          ⟨st.openFiles ++ openedPaths fs dirPath tmp⟩)
      | none => some ([], st) := by
  unfold getFilesInDir
  split
  · next tmp _ =>
    obtain ⟨l', hrun, htake, -⟩ := @filesLoop_spec fs dirPath minTimestamp tzShiftMin strictMatch tmp
      ⟨List.replicate tmp.length [], 0⟩ st (by simp)
    simp [hrun, htake]
  · rfl

/-- The file list of `getFilesInDir`. -/
theorem getFilesInDir_map_fst (st : FsState) :
    (getFilesInDir fs dirPath minTimestamp strictMatch tzShiftMin st).map Prod.fst =
      some ((fs.readDir dirPath).elim [] (selectedPaths fs dirPath minTimestamp strictMatch tzShiftMin)) := by
  rw [getFilesInDir_eq_filter]
  cases fs.readDir dirPath <;> rfl

end Loop

/-- A directory holding one log file `a`, whose first record is from 2019-09-16 12:01:02 and
which was last modified at the epoch. -/
def sampleDir : FileSystem :=
  ⟨fun _ => some [ascii "a"], fun _ n => n, fun _ => true, fun _ => false,
    fun _ => .ok (ascii "2019-09-16 12:01:02,123"), fun _ => 0⟩

/-! ## What the choice depends on -/

section Choice

variable {fs : FileSystem} {dirPath : List UInt8} {tzShiftMin : Int}

/-- A weaker test on the first line selects more files. -/
theorem selectedPaths_sublist {m m' : Int} {s s' : Bool}
    (h : ∀ p line, recentEnough fs m s tzShiftMin p line = true →
      recentEnough fs m' s' tzShiftMin p line = true) (items : List (List UInt8)) :
    List.Sublist (selectedPaths fs dirPath m s tzShiftMin items)
      (selectedPaths fs dirPath m' s' tzShiftMin items) := by
  refine List.monotone_filter_right _ fun p hp => ?_
  simp only [Selected, Bool.and_eq_true] at hp ⊢
  refine ⟨hp.1, ?_⟩
  cases hline : fs.firstLine p with
  | error => simp [hline] at hp
  | ok line => simpa [hline] using h p line (by simpa [hline] using hp.2)

/-- In strict mode `getFilesInDir` lists a sublist of what it lists in lax mode: the lax mode
only adds files by their modification time. -/
theorem getFilesInDir_strict_sublist (minTimestamp : Int) (st : FsState) :
    ∃ strict lax : List (List UInt8),
      (getFilesInDir fs dirPath minTimestamp true tzShiftMin st).map Prod.fst = some strict ∧
      (getFilesInDir fs dirPath minTimestamp false tzShiftMin st).map Prod.fst = some lax ∧
      List.Sublist strict lax := by
  refine ⟨_, _, getFilesInDir_map_fst st, getFilesInDir_map_fst st, ?_⟩
  cases fs.readDir dirPath with
  | none => exact List.Sublist.refl _
  | some tmp =>
    refine selectedPaths_sublist (fun p line hr => ?_) tmp
    simp only [recentEnough, Bool.not_true, Bool.false_and, Bool.or_false, Bool.not_false,
      Bool.true_and, Bool.or_eq_true] at hr ⊢
    exact .inl hr

/-- A later `minTimestamp` lists a sublist of the files. -/
theorem getFilesInDir_antitone {m₁ m₂ : Int} (h : m₁ ≤ m₂) (strictMatch : Bool) (st : FsState) :
    ∃ later earlier : List (List UInt8),
      (getFilesInDir fs dirPath m₂ strictMatch tzShiftMin st).map Prod.fst = some later ∧
      (getFilesInDir fs dirPath m₁ strictMatch tzShiftMin st).map Prod.fst = some earlier ∧
      List.Sublist later earlier := by
  refine ⟨_, _, getFilesInDir_map_fst st, getFilesInDir_map_fst st, ?_⟩
  cases fs.readDir dirPath with
  | none => exact List.Sublist.refl _
  | some tmp =>
    refine selectedPaths_sublist (fun p line hr => ?_) tmp
    cases strictMatch <;> simp only [recentEnough, Bool.or_eq_true, decide_eq_true_eq,
      Bool.and_eq_true, Bool.not_true, Bool.not_false, Bool.false_eq_true, true_and, false_and,
      or_false] at hr ⊢ <;> omega

/-- A directory of one log file whose first record is from 2019-09-16 12:01:02 UTC, modified at
the epoch: strict mode drops it from `1568635263` on. -/
theorem getFilesInDir_antitone_sample :
    (1568635262 : Int) ≤ 1568635263 ∧ ∃ later earlier : List (List UInt8),
      (getFilesInDir sampleDir (ascii "logs") 1568635263 true 0 ⟨[]⟩).map Prod.fst = some later ∧
      (getFilesInDir sampleDir (ascii "logs") 1568635262 true 0 ⟨[]⟩).map Prod.fst = some earlier ∧
      List.Sublist later earlier :=
  ⟨by decide, getFilesInDir_antitone (by decide) true ⟨[]⟩⟩

/-- In strict mode with `minTimestamp ≥ 0`, every file that `getFilesInDir` lists is a regular
file that opens, whose first line has a record time that `importTimeFromLine` reads, shifted to
no earlier than `minTimestamp`. -/
theorem mem_getFilesInDir_strict {minTimestamp : Int} (h0 : 0 ≤ minTimestamp) {st st' : FsState}
    {files : List (List UInt8)}
    (hrun : getFilesInDir fs dirPath minTimestamp true tzShiftMin st = some (files, st'))
    {p : List UInt8} (hp : p ∈ files) :
    fs.isFile p = true ∧ ∃ line t, fs.firstLine p = .ok line ∧ lineTime line = some t ∧
      minTimestamp ≤ wrap64 (t.unix + wrap64 (tzShiftMin * 60)) := by
  have hfiles := @getFilesInDir_map_fst fs dirPath minTimestamp tzShiftMin true st
  rw [hrun, Option.map_some', Option.some_inj] at hfiles
  dsimp only at hfiles
  subst hfiles
  cases hdir : fs.readDir dirPath with
  | none => simp [hdir] at hp
  | some tmp =>
    rw [hdir, Option.elim_some, selectedPaths] at hp
    have hsel := (List.mem_filter.1 hp).2
    simp only [Selected, Bool.and_eq_true] at hsel
    refine ⟨hsel.1, ?_⟩
    cases hline : fs.firstLine p with
    | error => simp [hline] at hsel
    | ok line =>
      simp only [hline, recentEnough, Bool.not_true, Bool.false_and, Bool.or_false,
        decide_eq_true_eq, importTimeFromLine] at hsel
      cases ht : lineTime line with
      | none => simp only [ht] at hsel; omega
      | some t => exact ⟨line, t, rfl, ht, by simpa only [ht] using hsel.2⟩

theorem mem_getFilesInDir_strict_sample :
    (0 : Int) ≤ 1568635262 ∧
      getFilesInDir sampleDir (ascii "logs") 1568635262 true 0 ⟨[]⟩ =
        some ([ascii "a"], ⟨[ascii "a"]⟩) ∧
      ascii "a" ∈ [ascii "a"] ∧ sampleDir.isFile (ascii "a") = true ∧ ∃ line t,
        sampleDir.firstLine (ascii "a") = .ok line ∧ lineTime line = some t ∧
        (1568635262 : Int) ≤ wrap64 (t.unix + wrap64 (0 * 60)) := by
  have hrun : getFilesInDir sampleDir (ascii "logs") 1568635262 true 0 ⟨[]⟩ =
      some ([ascii "a"], ⟨[ascii "a"]⟩) := by decide
  have hp : ascii "a" ∈ [ascii "a"] := List.mem_singleton_self _
  exact ⟨by decide, hrun, hp, mem_getFilesInDir_strict (by decide) hrun hp⟩

end Choice

/-! ## `CreateLogFileProcFunc` -/

/-- The fields of the batch `Conf` that the function of `CreateLogFileProcFunc` reads. -/
structure Conf where
  srcPath : List UInt8
  partiallyMatchingFiles : Bool
  numErrorsAlarm : Int
  tzShift : Int
  deriving DecidableEq, Repr

/-- The alarm that the function picks: `BatchProcAlarm` or `NullAlarm`. -/
inductive ProcAlarm where
  | batchProc
  | null
  deriving DecidableEq, Repr

/-- What the function does that is seen outside it. -/
inductive ProcEvent where
  /-- `newParser(file, ...)` and its `Parse(ctx, ...)`. -/
  | parse (file : List UInt8)
  /-- The warning `won't process other files due to cancellation`, with `Strs("rest", ...)`. -/
  | cancelled (rest : List (List UInt8))
  /-- `procAlarm.Evaluate()`. -/
  | evaluate (alarm : ProcAlarm)
  /-- `procAlarm.Reset()`. -/
  | reset (alarm : ProcAlarm)
  /-- `close(ch)` in the deferred function, for the channel of index `ch` in `destChans`. -/
  | close (ch : Nat)
  deriving DecidableEq, Repr

/-- `for i, file := range files` from index `i` on, where `ctxDone i` says whether `ctx.Done()` is
ready at the `select` after file `i`: the events, and whether the loop returned. -/
def procFiles (ctxDone : Nat → Bool) (files : List (List UInt8)) :
    Nat → List (List UInt8) → List ProcEvent × Bool
  | _, [] => ([], false)
  | i, file :: rest =>
    if ctxDone i then ([.parse file, .cancelled (files.drop i)], true)
    else
      let r := procFiles ctxDone files (i + 1) rest
      (.parse file :: r.1, r.2)

/-- The function that `CreateLogFileProcFunc(ctx, processor, datetimeRange, destChans...)`
returns, applied to `conf` and `minTimestamp`, with `numDestChans` channels: its events and the
file system after it, or `none` for a panic. -/
def logFileProcFunc (fs : FileSystem) (ctxDone : Nat → Bool) (numDestChans : Nat) (conf : Conf)
    (minTimestamp : Int) (st : FsState) : Option (List ProcEvent × FsState) :=
  let files := if fs.isDir conf.srcPath then
      getFilesInDir fs conf.srcPath minTimestamp (!conf.partiallyMatchingFiles) conf.tzShift st
    else some ([conf.srcPath], st)
  files.map fun (files, st) =>
    let procAlarm := if conf.numErrorsAlarm > 0 then ProcAlarm.batchProc else .null
    let (evs, returned) := procFiles ctxDone files 0 files
    (evs ++ (if returned then [] else [.evaluate procAlarm, .reset procAlarm]) ++
      (List.range numDestChans).map .close, st)

/-- The files a batch run is meant to read: the selected files of a directory, or the one file
configured. -/
def batchFiles (fs : FileSystem) (conf : Conf) (minTimestamp : Int) : List (List UInt8) :=
  if fs.isDir conf.srcPath then
    (fs.readDir conf.srcPath).elim []
      (selectedPaths fs conf.srcPath minTimestamp (!conf.partiallyMatchingFiles) conf.tzShift)
  else [conf.srcPath]

section Proc

variable {ctxDone : Nat → Bool} {files : List (List UInt8)}

/-- The run lemma of the loop: it parses the files up to the first one after which the context
is done, and then logs the files from that one on. -/
theorem procFiles_eq : ∀ (i : Nat) (rest : List (List UInt8)),
    procFiles ctxDone files i rest =
      match (List.range rest.length).find? fun j => ctxDone (i + j) with
      | some j => ((rest.take (j + 1)).map .parse ++ [.cancelled (files.drop (i + j))], true)
      | none => (rest.map .parse, false)
  | i, [] => rfl
  | i, file :: rest => by
    have hshift : ((fun j => ctxDone (i + j)) ∘ Nat.succ) = fun j => ctxDone (i + 1 + j) :=
      funext fun j => by simp only [Function.comp, Nat.succ_eq_add_one]; congr 1; omega
    rw [procFiles, procFiles_eq (i + 1) rest, List.length_cons, List.range_succ_eq_map,
      List.find?_cons, List.find?_map, hshift]
    by_cases hdone : ctxDone i
    · simp [hdone]
    · simp only [Nat.add_zero, hdone]
      cases (List.range rest.length).find? fun j => ctxDone (i + 1 + j) with
      | none => rfl
      | some j => simp [Nat.add_assoc, Nat.add_comm 1 j]

/-- A batch run parses the files it is meant to read, in order, up to the first one after which
its context is done.  It then logs as not processed the files from that one on, the first of
which it has just parsed, and leaves the alarm alone; otherwise it evaluates and resets the alarm.
On both paths it closes every channel once, last. -/
theorem logFileProcFunc_events (fs : FileSystem) (ctxDone : Nat → Bool) (numDestChans : Nat)
    (conf : Conf) (minTimestamp : Int) (st : FsState) :
    (logFileProcFunc fs ctxDone numDestChans conf minTimestamp st).map Prod.fst =
      let files := batchFiles fs conf minTimestamp
      let procAlarm := if conf.numErrorsAlarm > 0 then ProcAlarm.batchProc else .null
      let closes := (List.range numDestChans).map .close
      some (match (List.range files.length).find? ctxDone with
        | some j => (files.take (j + 1)).map .parse ++ .cancelled (files.drop j) :: closes
        | none => files.map .parse ++ [.evaluate procAlarm, .reset procAlarm] ++ closes) := by
  have hfind : (fun j => ctxDone (0 + j)) = ctxDone := funext fun j => by rw [Nat.zero_add]
  unfold logFileProcFunc batchFiles
  split
  · rw [getFilesInDir_eq_filter]
    cases fs.readDir conf.srcPath with
    | none => rfl
    | some tmp =>
      simp only [Option.map_some', procFiles_eq, hfind, Option.elim_some, Nat.zero_add]
      cases List.find? ctxDone _ <;> simp
  · simp only [Option.map_some', procFiles_eq, hfind, Nat.zero_add]
    cases List.find? ctxDone _ <;> simp

end Proc

end Klogproc.Batch
