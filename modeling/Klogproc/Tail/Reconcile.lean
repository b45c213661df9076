import Mathlib.Data.List.Basic

/-!
# The reconciliation step of the worklog

`Worklog.goReadRequests` in `load/tail/worklog.go` receives update requests, one at a time,
and decides for each whether the requested range replaces the range stored for its file.  The
requests come from the confirmations of the sinks and from `ResetFile`, in whatever order the
sinks finish.  This module is the model of that decision.

* `LogRange` is `servicelog.LogRange`, and `WorklogRecord` the map from file paths to ranges.
  `WorklogRecord.get` answers the zero range for a path without an entry, as the map's `Get`
  does.  The `int64` fields are `Int`: the step only compares them.
* `shouldUpdate` is the four-way disjunction of lines 158–161, `reconcile` the range kept for
  the path after one request, and `readRequest` the loop body on the whole map.
* `reconcile_of_inode_ne` and the four `reconcile_*_*` lemmas split `reconcile` once, by the
  identities and the two `written` flags.  Later modules use these lemmas, not the definition.
* `resetRequest` is the request `ResetFile` sends.  `readRequest_resetRequest` says what it does
  to every prior entry: a confirmed entry of the same identity that ends past `0` stays in place.
-/

namespace Klogproc.Tail

/-- `servicelog.LogRange`: the bytes `[seekStart, seekEnd)` of the file with identity `inode`
were read, and `written` says that the sink confirmed them. -/
structure LogRange where
  inode : Int
  seekStart : Int
  seekEnd : Int
  written : Bool
  deriving DecidableEq, Repr

/-- Go's zero `LogRange`. -/
def LogRange.zero : LogRange := ⟨0, 0, 0, false⟩

/-- `WorklogRecord`, the reading position of every watched file by its path. -/
def WorklogRecord := String → Option LogRange

namespace WorklogRecord

/-- The map of `NewWorklog`, with no entry. -/
def empty : WorklogRecord := fun _ => none

/-- `ConcurrentMap.Get`: the stored range, or the zero range when the path has none. -/
def get (rec : WorklogRecord) (path : String) : LogRange := (rec path).getD LogRange.zero

/-- `ConcurrentMap.Set`. -/
def set (rec : WorklogRecord) (path : String) (v : LogRange) : WorklogRecord :=
  fun p => if p = path then some v else rec p

@[simp] theorem get_set (rec : WorklogRecord) (path p : String) (v : LogRange) :
    (rec.set path v).get p = if p = path then v else rec.get p := by
  by_cases h : p = path <;> simp [get, set, h]

end WorklogRecord

/-- `updateRequest`: a new range for the file at `filePath`. -/
structure UpdateRequest where
  filePath : String
  value : LogRange
  deriving DecidableEq, Repr

/-- The test of `goReadRequests` (lines 158–161) for replacing the current range `curr` by the
requested range `new`.  The source's comment lists the intended rules; the code is this
disjunction. -/
def shouldUpdate (curr new : LogRange) : Bool :=
  curr.inode != new.inode ||
    !curr.written && decide (curr.seekStart ≥ new.seekStart) ||
    curr.written && decide (new.seekEnd ≥ curr.seekEnd) ||
    !new.written && (curr.written || decide (new.seekEnd < curr.seekEnd))

/-- The range kept for a path whose range is `curr` after a request for `new`. -/
def reconcile (curr new : LogRange) : LogRange :=
  if shouldUpdate curr new then new else curr

/-- The body of the `goReadRequests` loop for one received request. -/
def readRequest (rec : WorklogRecord) (req : UpdateRequest) : WorklogRecord :=
  if shouldUpdate (rec.get req.filePath) req.value then rec.set req.filePath req.value else rec

/-- The range kept after a sequence of requests for one path, in arrival order. -/
def reconcileAll (e : LogRange) (rs : List LogRange) : LogRange :=
  rs.foldl reconcile e

@[simp] theorem reconcileAll_cons (e r : LogRange) (rs : List LogRange) :
    reconcileAll e (r :: rs) = reconcileAll (reconcile e r) rs := rfl

@[simp] theorem reconcileAll_append (e : LogRange) (rs qs : List LogRange) :
    reconcileAll e (rs ++ qs) = reconcileAll (reconcileAll e rs) qs :=
  List.foldl_append _ _ _ _

/-! ## The cases of one step -/

section Cases

variable (curr new : LogRange)

/-- Rule 1: a range of another identity is always taken. -/
theorem reconcile_of_inode_ne (h : curr.inode ≠ new.inode) : reconcile curr new = new := by
  simp [reconcile, shouldUpdate, h]

/-- Both written: the later range is taken when it ends at or after the current one. -/
theorem reconcile_written_written (hi : curr.inode = new.inode) (hc : curr.written = true)
    (hn : new.written = true) :
    reconcile curr new = if curr.seekEnd ≤ new.seekEnd then new else curr := by
  simp [reconcile, shouldUpdate, hi, hc, hn]

/-- An unwritten range always replaces a written one of its identity. -/
theorem reconcile_written_unwritten (hi : curr.inode = new.inode) (hc : curr.written = true)
    (hn : new.written = false) : reconcile curr new = new := by
  simp [reconcile, shouldUpdate, hi, hc, hn]

/-- A written range replaces an unwritten one when it starts at or before it. -/
theorem reconcile_unwritten_written (hi : curr.inode = new.inode) (hc : curr.written = false)
    (hn : new.written = true) :
    reconcile curr new = if new.seekStart ≤ curr.seekStart then new else curr := by
  simp [reconcile, shouldUpdate, hi, hc, hn]

/-- Both unwritten: the new range is taken when it starts at or before the current one, or
ends before it. -/
theorem reconcile_unwritten_unwritten (hi : curr.inode = new.inode) (hc : curr.written = false)
    (hn : new.written = false) :
    reconcile curr new =
      if new.seekStart ≤ curr.seekStart ∨ new.seekEnd < curr.seekEnd then new else curr := by
  simp [reconcile, shouldUpdate, hi, hc, hn]

/-- The step keeps one of its two arguments. -/
theorem reconcile_eq_or :
    reconcile curr new = new ∨ reconcile curr new = curr := by
  unfold reconcile; split <;> simp

/-- After a request, the entry carries the request's identity. -/
theorem reconcile_inode : (reconcile curr new).inode = new.inode := by
  by_cases h : curr.inode = new.inode
  · rcases reconcile_eq_or curr new with h' | h' <;> rw [h'] ; exact h
  · rw [reconcile_of_inode_ne _ _ h]

end Cases

/-- The loop body changes the entry of the request's path only, and there it is `reconcile`. -/
@[simp] theorem readRequest_get (rec : WorklogRecord) (req : UpdateRequest) (p : String) :
    (readRequest rec req).get p =
      if p = req.filePath then reconcile (rec.get p) req.value else rec.get p := by
  unfold readRequest reconcile
  by_cases hp : p = req.filePath <;> split <;> simp_all

/-! ## `ResetFile` -/

/-- The request that `ResetFile` sends for the file at `filePath` whose identity
`fsop.GetFileProps` reported as `inode` (lines 239–247). -/
def resetRequest (filePath : String) (inode : Int) : UpdateRequest :=
  ⟨filePath, ⟨inode, 0, 0, true⟩⟩

/-- What the reset request leaves for its path, for every prior entry whose start is not
negative: the zero range of the new identity, except when the prior entry is a confirmed range
of the same identity that ends past `0`, which stays. -/
theorem readRequest_resetRequest (rec : WorklogRecord) (p : String) (inode : Int)
    (hofs : 0 ≤ (rec.get p).seekStart) :
    (readRequest rec (resetRequest p inode)).get p =
      if (rec.get p).inode = inode ∧ (rec.get p).written = true ∧ 0 < (rec.get p).seekEnd then
        rec.get p
      else ⟨inode, 0, 0, true⟩ := by
  simp only [readRequest_get, resetRequest, if_true]
  set c := rec.get p
  by_cases hi : c.inode = inode
  · cases hw : c.written
    · simp [reconcile_unwritten_written c ⟨inode, 0, 0, true⟩ hi hw rfl, hofs, hw]
    · rw [reconcile_written_written c ⟨inode, 0, 0, true⟩ hi hw rfl]
      by_cases he : 0 < c.seekEnd
      · simp only [hi, hw, he, and_self, if_true, if_neg (Int.not_le.2 he)]
      · simp only [hi, hw, he, and_false, if_false, if_pos (Int.not_lt.1 he)]
  · simp [reconcile_of_inode_ne c ⟨inode, 0, 0, true⟩ hi, hi]

/-- `ResetFile` on a path whose entry is the confirmed range `[0, 100)` of the identity `5`
that the file still has: the entry stays `[0, 100)` instead of becoming the zero range. -/
theorem resetFile_keeps_confirmed_range :
    (readRequest (WorklogRecord.empty.set "access.log" ⟨5, 0, 100, true⟩)
      (resetRequest "access.log" 5)).get "access.log" = ⟨5, 0, 100, true⟩ := by
  rw [readRequest_resetRequest _ _ _ (by decide), if_pos (by decide)]
  rfl

end Klogproc.Tail
