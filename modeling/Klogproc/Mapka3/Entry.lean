import Klogproc.Main.OnEntry
import Klogproc.Mapka3.Preprocess

/-!
# `OnEntry` with the mapka3 transformer

The tail processor of the map application calls the mapka3 transformer from `OnEntry`: its
`Preprocess` with the log buffer, then `AddRecord` and `Transform` for each record that
`Preprocess` returns.  This file puts the models of `Klogproc.Main.OnEntry`,
`Klogproc.Mapka3.Transform` and `Klogproc.Mapka3.Preprocess` together, and shows that the runs of
buffer calls that `Klogproc.Mapka3.Preprocess` is about are the calls a tail makes.

* `mapka3Processor` is the `EntryProcessor` of a mapka3 tail.  The log buffer of `OnEntry` is a
  `BufferState`, so that the analyses it runs are kept.  The adapter between the transformer
  and the `Preprocess` and `Transform` that `OnEntry` calls is not in this repository: it passes
  the record type, the time zone shift and the anonymous users of the configuration, and
  `Preprocess` returns no error.
* `onEntry_mapka3`: for a processable line, `OnEntry` sends every record that `Preprocess`
  returns on `dataWriter.Elastic`, since `Transform` never fails, and its calls on the buffer
  are the events `preprocess` and `addRecord` of `bufferRun`.
* `onEntries_mapka3_events`: while the analysis finds nothing, the calls of a check's lines are
  `entryEvents` of their records, which is the run of `preprocess_reanalyses_every_record`.
-/

namespace Klogproc.Mapka3

open Klogproc.Main Klogproc.Tail

variable {ε : Type} (filePath : String) (parseLine : String → Except ε InputRecord)
  (isProcessable : InputRecord → Bool) (applyLocation : InputRecord → OutputRecord → OutputRecord)
  (conf : BufferConf) (analyze : Int → Float → List InputRecord → List InputRecord) (lib : Library)
  (recType : String) (tzShiftMin : Int) (anonymousUsers : List Int)

/-- The parts of a mapka3 `tailProcessor` that `OnEntry` calls, with the buffer and its analyses
as the log buffer. -/
def mapka3Processor : EntryProcessor InputRecord OutputRecord BufferState ε where
  filePath := filePath
  parseLine := parseLine
  isProcessable := isProcessable
  preprocess rec s :=
    (.ok (preprocess conf analyze rec s.buffer).records, bufferStep conf analyze s (.preprocess rec))
  addRecord s rec := bufferStep conf analyze s (.addRecord rec)
  transform rec := .ok (transform lib rec recType tzShiftMin anonymousUsers)
  applyLocation := applyLocation

/-- For a processable line, `OnEntry` sends every record that `Preprocess` returns on
`dataWriter.Elastic`, and calls `Preprocess` and then `AddRecord` for each of them. -/
theorem onEntry_mapka3 {item : String} {rec : InputRecord} (logPosition : LogRange)
    (s : BufferState) (hparse : parseLine item = .ok rec) (hproc : isProcessable rec = true) :
    let out := (preprocess conf analyze rec s.buffer).records
    onEntry (mapka3Processor filePath parseLine isProcessable applyLocation conf analyze lib recType
        tzShiftMin anonymousUsers) logPosition item s =
      (out.map fun r => .elastic ⟨filePath, applyLocation r
          (transform lib r recType tzShiftMin anonymousUsers), logPosition⟩,
        bufferRun conf analyze s (.preprocess rec :: out.map .addRecord)) := by
  intro out
  rw [onEntry_of_preprocess _ logPosition hparse hproc rfl, onEntryLoop_of_ok]
  · simp [recordMessage, mapka3Processor, bufferRun, List.foldl_map]
  · exact fun _ _ => rfl

/-- An analysis that never finds clusters leaves every record in place. -/
theorem preprocess_records_of_no_clusters (rec : InputRecord) (b : LogBuffer)
    (hnone : ∀ items, analyze conf.minDensity conf.epsilon items = []) :
    (preprocess conf analyze rec b).records = [rec] := by
  unfold preprocess
  dsimp only
  split_ifs <;> simp_all

/-- While the analysis finds nothing, the buffer calls of the `OnEntry` calls of a check whose
lines hold processable records are `entryEvents` of the records. -/
theorem onEntries_mapka3_events (hnone : ∀ items, analyze conf.minDensity conf.epsilon items = []) :
    ∀ (lines : List (String × LogRange)) (rs : List InputRecord) (s : BufferState),
      lines.map (fun l => parseLine l.1) = rs.map .ok → (∀ r ∈ rs, isProcessable r = true) →
      (onEntries (mapka3Processor filePath parseLine isProcessable applyLocation conf analyze lib
        recType tzShiftMin anonymousUsers) lines s).2 = bufferRun conf analyze s (rs.flatMap entryEvents)
  | [], [], _, _, _ => rfl
  | (item, pos) :: lines, r :: rs, s, hparse, hproc => by
    simp only [List.map_cons, List.cons.injEq] at hparse
    simp only [List.mem_cons, forall_eq_or_imp] at hproc
    have hentry := onEntry_mapka3 filePath parseLine isProcessable applyLocation conf analyze lib
      recType tzShiftMin anonymousUsers pos s hparse.1 hproc.1
    rw [preprocess_records_of_no_clusters conf analyze r s.buffer hnone] at hentry
    simp only [onEntries, hentry, List.flatMap_cons, bufferRun_append]
    exact onEntries_mapka3_events hnone lines rs _ hparse.2 hproc.2
  | [], _ :: _, _, h, _ => by simp at h
  | _ :: _, [], _, h, _ => by simp at h

/-- The record of the map application that a line of the witness holds, at as many seconds as
the line has bytes. -/
def sampleRecord (line : String) : InputRecord :=
  ⟨⟨line.length * 1000000000⟩, "", "", "", 0, "k"⟩

/-- Three lines of a check. -/
def sampleLines : List (String × LogRange) := [("a", ⟨1, 0, 1, true⟩), ("bb", ⟨1, 1, 3, true⟩),
  ("ccc", ⟨1, 3, 6, true⟩)]

/-- Three lines of a check, with an analysis that finds nothing. -/
theorem onEntries_mapka3_events_three_lines :
    (onEntries (mapka3Processor (ε := Unit) "map.log" (fun l => .ok (sampleRecord l))
        (fun _ => true) (fun _ o => o) ⟨60, 1, 0.5⟩ (fun _ _ _ => [])
        ⟨fun _ => [], fun _ => "", fun _ _ => false⟩ "mapka3" 0 []) sampleLines
        ⟨LogBuffer.empty 100, []⟩).2 =
      bufferRun ⟨60, 1, 0.5⟩ (fun _ _ _ => []) ⟨LogBuffer.empty 100, []⟩
        ((sampleLines.map fun l => sampleRecord l.1).flatMap entryEvents) :=
  onEntries_mapka3_events "map.log" (fun l => .ok (sampleRecord l)) (fun _ => true) (fun _ o => o)
    ⟨60, 1, 0.5⟩ (fun _ _ _ => []) ⟨fun _ => [], fun _ => "", fun _ _ => false⟩ "mapka3" 0 []
    (fun _ => rfl) sampleLines _ _ rfl (by simp)

end Klogproc.Mapka3
