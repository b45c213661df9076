import Klogproc.Main.TailProcessor
import Klogproc.Tail.Reconcile

/-!
# What `OnEntry` sends for a line

`tailProcessor.OnEntry` parses a line of a watched file and preprocesses the record.  For each
record that `Preprocess` returns, it adds the record to the log buffer, transforms it and sends
it on `dataWriter.Elastic`, bound to the file and the line's range.  A line it cannot parse, a
record that is not processable, a `Preprocess` error and a `Transform` error are each reported
by one `IgnoredItemMsg` on `dataWriter.Ignored`, after which `OnEntry` returns.  A `Transform`
error therefore ends the loop over the records.

* `EntryProcessor` holds the parts of a `tailProcessor` that `OnEntry` calls: the file path,
  the line parser, the transformer's `Preprocess` and `Transform`, the log buffer's `AddRecord`,
  and `applyLocation`.  They are parameters, so every result holds for every parser, transformer
  and buffer.  The logging and the health checker's `Ping` are left out: nothing here reads
  them.
* `onEntry` returns the sends in order, as the `Out` values that `TailState.pending` holds, with
  the log buffer after the call.  `recordMessage` is the message of one record: the record on
  `dataWriter.Elastic` when it transforms, an `IgnoredItemMsg` when it does not.
* `onEntryLoop_sends`: the loop sends the messages of the records up to and including the first
  that fails to transform, and nothing for the records after it.
* `onEntry_bound`: every message of every call is bound to the file and the line's range.
* `onEntry_one_message_per_record_iff`: the records of a line get one message each exactly when
  no record before the last fails to transform.
-/

namespace Klogproc.Main

open Klogproc.Tail

/-- `servicelog.BoundOutputRecord`: an output record (`Rec`) with the file and the range it came
from. -/
structure BoundOutputRecord (ω : Type) where
  filePath : String
  record : ω
  filePos : LogRange
  deriving DecidableEq, Repr

/-- `save.IgnoredItemMsg`, as `save.NewIgnoredItemMsg(filePath, logPosition)` builds it. -/
structure IgnoredItemMsg where
  filePath : String
  filePos : LogRange
  deriving DecidableEq, Repr

/-- The parts of a `tailProcessor` that `OnEntry` calls, for parsed records of type `ρ`, output
records of type `ω`, a log buffer of type `β` and errors of type `ε`. -/
structure EntryProcessor (ρ ω β ε : Type) where
  filePath : String
  /-- `lineParser.ParseLine(item, -1)`. -/
  parseLine : String → Except ε ρ
  /-- `IsProcessable()` of a parsed record. -/
  isProcessable : ρ → Bool
  /-- `logTransformer.Preprocess(parsed, logBuffer)`, with the buffer after it. -/
  preprocess : ρ → β → Except ε (List ρ) × β
  /-- `logBuffer.AddRecord(precord)`. -/
  addRecord : β → ρ → β
  /-- `logTransformer.Transform(precord)`. -/
  transform : ρ → Except ε ω
  /-- `applyLocation(precord, geoDB, outRec)`: the output record with its location. -/
  applyLocation : ρ → ω → ω

variable {ρ ω β ε : Type} (tp : EntryProcessor ρ ω β ε) (logPosition : LogRange)

/-- `save.NewIgnoredItemMsg(tp.filePath, logPosition)` on `dataWriter.Ignored`. -/
def ignoredMsg : Out (BoundOutputRecord ω) IgnoredItemMsg := .ignored ⟨tp.filePath, logPosition⟩

/-- The `for _, precord := range prepInp` loop of `OnEntry`: the sends and the buffer after. -/
def onEntryLoop : List ρ → β → List (Out (BoundOutputRecord ω) IgnoredItemMsg) × β
  | [], buf => ([], buf)
  | precord :: rest, buf =>
    let buf := tp.addRecord buf precord
    match tp.transform precord with
    | .error _ => ([ignoredMsg tp logPosition], buf)
    | .ok outRec =>
      let (sends, buf) := onEntryLoop rest buf
      (.elastic ⟨tp.filePath, tp.applyLocation precord outRec, logPosition⟩ :: sends, buf)

/-- `tailProcessor.OnEntry` for the line `item` at `logPosition`: what it sends, in order, and
the log buffer after it. -/
def onEntry (item : String) (buf : β) : List (Out (BoundOutputRecord ω) IgnoredItemMsg) × β :=
  match tp.parseLine item with
  | .error _ => ([ignoredMsg tp logPosition], buf)
  | .ok parsed =>
    if tp.isProcessable parsed then
      match tp.preprocess parsed buf with
      | (.error _, buf) => ([ignoredMsg tp logPosition], buf)
      | (.ok prepInp, buf) => onEntryLoop tp logPosition prepInp buf
    else ([ignoredMsg tp logPosition], buf)

/-- The `OnEntry` calls of a check, one for each line read with its range, in order: all that
they send, which is the `pending` of the check's `TailState`, and the log buffer after them. -/
def onEntries : List (String × LogRange) → β → List (Out (BoundOutputRecord ω) IgnoredItemMsg) × β
  | [], buf => ([], buf)
  | (item, pos) :: lines, buf =>
    let e := onEntry tp pos item buf
    let rest := onEntries lines e.2
    (e.1 ++ rest.1, rest.2)

/-- The message of one record: the record on `dataWriter.Elastic` when it transforms, an
`IgnoredItemMsg` when it does not. -/
def recordMessage (precord : ρ) : Out (BoundOutputRecord ω) IgnoredItemMsg :=
  match tp.transform precord with
  | .error _ => ignoredMsg tp logPosition
  | .ok outRec => .elastic ⟨tp.filePath, tp.applyLocation precord outRec, logPosition⟩

/-- The file and the range that a message is bound to. -/
def boundTo : Out (BoundOutputRecord ω) IgnoredItemMsg → String × LogRange
  | .elastic r => (r.filePath, r.filePos)
  | .ignored m => (m.filePath, m.filePos)

/-! ## The loop over the records -/

section Loop

variable {r : ρ} {rs : List ρ} {buf : β}

theorem boundTo_recordMessage (precord : ρ) :
    boundTo (recordMessage tp logPosition precord) = (tp.filePath, logPosition) := by
  unfold recordMessage
  split <;> rfl

/-- A record that fails to transform gets its message and ends the loop. -/
theorem onEntryLoop_cons_error {e : ε} (h : tp.transform r = .error e) :
    (onEntryLoop tp logPosition (r :: rs) buf).1 = [recordMessage tp logPosition r] := by
  simp [onEntryLoop, recordMessage, h]

/-- A record that transforms gets its message and the loop goes on. -/
theorem onEntryLoop_cons_ok {o : ω} (h : tp.transform r = .ok o) :
    (onEntryLoop tp logPosition (r :: rs) buf).1 =
      recordMessage tp logPosition r :: (onEntryLoop tp logPosition rs (tp.addRecord buf r)).1 := by
  simp [onEntryLoop, recordMessage, h]

/-- The loop sends the message of each record up to the first that fails to transform, that
one's message, and nothing for the rest. -/
theorem onEntryLoop_sends (rs : List ρ) (buf : β) :
    (onEntryLoop tp logPosition rs buf).1 =
      (rs.takeWhile fun r => (tp.transform r).isOk).map (recordMessage tp logPosition) ++
        ((rs.dropWhile fun r => (tp.transform r).isOk).take 1).map
          (recordMessage tp logPosition) := by
  induction rs generalizing buf with
  | nil => rfl
  | cons r rs ih =>
    cases h : tp.transform r with
    | error e => simp [onEntryLoop_cons_error tp logPosition h, h, Except.isOk, Except.toBool]
    | ok o => simp [onEntryLoop_cons_ok tp logPosition h, h, ih, Except.isOk, Except.toBool]

/-- The loop sends one message for each record exactly when no record before the last fails to
transform. -/
theorem onEntryLoop_eq_map_iff (rs : List ρ) (buf : β) :
    (onEntryLoop tp logPosition rs buf).1 = rs.map (recordMessage tp logPosition) ↔
      ∀ r ∈ rs.dropLast, (tp.transform r).isOk = true := by
  induction rs generalizing buf with
  | nil => simp [onEntryLoop]
  | cons r rs ih =>
    cases h : tp.transform r with
    | error e =>
      rw [onEntryLoop_cons_error tp logPosition h]
      cases rs with
      | nil => simp
      | cons r' rs => simp [h, Except.isOk, Except.toBool]
    | ok o =>
      rw [onEntryLoop_cons_ok tp logPosition h, List.map_cons, List.cons.injEq]
      cases rs with
      | nil => simp [onEntryLoop]
      | cons r' rs => rw [ih]; simp [h, Except.isOk, Except.toBool]

/-- Every message of the loop is the message of one of its records. -/
theorem mem_onEntryLoop {m : Out (BoundOutputRecord ω) IgnoredItemMsg} (rs : List ρ) (buf : β)
    (hm : m ∈ (onEntryLoop tp logPosition rs buf).1) : ∃ r ∈ rs, m = recordMessage tp logPosition r := by
  rw [onEntryLoop_sends, List.mem_append, List.mem_map, List.mem_map] at hm
  rcases hm with ⟨r, hr, rfl⟩ | ⟨r, hr, rfl⟩
  · exact ⟨r, List.takeWhile_subset _ hr, rfl⟩
  · exact ⟨r, (List.dropWhile_suffix _).subset (List.mem_of_mem_take hr), rfl⟩

/-- When every record transforms, the loop sends each record's message and adds every record
to the buffer, in order. -/
theorem onEntryLoop_of_ok (rs : List ρ) (buf : β) (h : ∀ r ∈ rs, (tp.transform r).isOk = true) :
    onEntryLoop tp logPosition rs buf = (rs.map (recordMessage tp logPosition), rs.foldl tp.addRecord buf) := by
  induction rs generalizing buf with
  | nil => rfl
  | cons r rs ih =>
    simp only [List.mem_cons, forall_eq_or_imp] at h
    cases hr : tp.transform r with
    | error e => simp [hr, Except.isOk, Except.toBool] at h
    | ok o => simp [onEntryLoop, recordMessage, hr, ih _ h.2]

end Loop

/-! ## `OnEntry` -/

/-- A processable line whose record `Preprocess` accepts runs the loop over its records. -/
theorem onEntry_of_preprocess {item : String} {buf buf' : β} {parsed : ρ} {prepInp : List ρ}
    (hparse : tp.parseLine item = .ok parsed) (hproc : tp.isProcessable parsed = true)
    (hpre : tp.preprocess parsed buf = (.ok prepInp, buf')) :
    onEntry tp logPosition item buf = onEntryLoop tp logPosition prepInp buf' := by
  simp [onEntry, hparse, hproc, hpre]

/-- Every message that `OnEntry` sends is bound to the file and the line's range. -/
theorem onEntry_bound (item : String) (buf : β) :
    ∀ m ∈ (onEntry tp logPosition item buf).1, boundTo m = (tp.filePath, logPosition) := by
  intro m hm
  unfold onEntry at hm
  split at hm
  · simp_all [ignoredMsg, boundTo]
  · split at hm
    · split at hm
      · simp_all [ignoredMsg, boundTo]
      · obtain ⟨r, -, rfl⟩ := mem_onEntryLoop tp logPosition _ _ hm
        exact boundTo_recordMessage tp logPosition r
    · simp_all [ignoredMsg, boundTo]

/-- For a processable line whose record `Preprocess` turns into `prepInp`, whatever the
`Transform` of each record gives: every message is bound to the file and the line's range, and
`OnEntry` sends one message per record, on `dataWriter.Elastic` for a record that transforms and
on `dataWriter.Ignored` for one that does not, exactly when no record before the last fails. -/
theorem onEntry_one_message_per_record_iff (item : String) (buf buf' : β) (parsed : ρ)
    (prepInp : List ρ) (hparse : tp.parseLine item = .ok parsed)
    (hproc : tp.isProcessable parsed = true) (hpre : tp.preprocess parsed buf = (.ok prepInp, buf')) :
    (∀ m ∈ (onEntry tp logPosition item buf).1, boundTo m = (tp.filePath, logPosition)) ∧
      ((onEntry tp logPosition item buf).1 = prepInp.map (recordMessage tp logPosition) ↔
        ∀ r ∈ prepInp.dropLast, (tp.transform r).isOk = true) := by
  refine ⟨onEntry_bound tp logPosition item buf, ?_⟩
  rw [onEntry_of_preprocess tp logPosition hparse hproc hpre]
  exact onEntryLoop_eq_map_iff tp logPosition prepInp buf'

/-- A processor whose `Preprocess` turns every line into the records `1` and `2`, and whose
`Transform` fails on `1`. -/
def failFirst : EntryProcessor Nat Nat Unit String :=
  ⟨"access.log", fun _ => .ok 0, fun _ => true, fun _ b => (.ok [1, 2], b), fun b _ => b,
    fun n => if n = 1 then .error "transform" else .ok n, fun _ o => o⟩

/-- With `failFirst`, the record `2` gets no message. -/
theorem onEntry_drops_after_failure :
    (failFirst.parseLine "" = .ok 0 ∧ failFirst.isProcessable 0 = true ∧
      failFirst.preprocess 0 () = (.ok [1, 2], ())) ∧
    (∀ m ∈ (onEntry failFirst LogRange.zero "" ()).1,
        boundTo m = (failFirst.filePath, LogRange.zero)) ∧
      ((onEntry failFirst LogRange.zero "" ()).1 = [1, 2].map (recordMessage failFirst LogRange.zero) ↔
        ∀ r ∈ [1, 2].dropLast, (failFirst.transform r).isOk = true) :=
  ⟨⟨rfl, rfl, rfl⟩, onEntry_one_message_per_record_iff failFirst LogRange.zero "" () () 0 [1, 2]
    rfl rfl rfl⟩

example : (onEntry failFirst LogRange.zero "" ()).1 = [.ignored ⟨"access.log", LogRange.zero⟩] := by
  decide

end Klogproc.Main
