import Klogproc.Mapka3.Transform

/-!
# When the mapka3 transformer analyses a client's records

`mapka3.Transformer.Preprocess` runs the cluster analysis of the records buffered for a
record's clustering key when more than `AnalysisIntervalSecs` have passed since the buffer's
last check of the key and the buffer holds records of the key.  If the analysis finds clusters,
it evicts the analysed records, stamps the key as checked at the record's time and returns the
clusters in place of the record; otherwise it returns the record, and stamps nothing.

* `LogBuffer` is the sliding log buffer, whose code is not in this repository, as its contract
  describes it: the records of each key, oldest first and at most `capacity` of them, and the
  time of the last `ConfirmRecordCheck` of each key, the zero time if there was none.
* `preprocess` is `Preprocess` with `clustering.Analyze` as the parameter `analyze`, so that
  every result holds for whatever the analysis finds.  It also returns the analysis it ran, if
  any, as its `log.Debug` line reports it (`AnalysisRun`); `preprocess_view` says what a call can
  do.
* `BufferEvent` is a call of `Preprocess` or of `AddRecord`, in any order, and `bufferRun` runs
  them, keeping the analyses in order.
* `analyses_spaced_after_clusters`: over every run whose records have non-decreasing times, no
  analysis follows one that found clusters within the interval.
* `preprocess_reanalyses_every_record`: while the analysis finds nothing, nothing is stamped,
  and every record after the first runs the analysis again.  Its hypothesis that each record is
  due holds of every real log time: `due_of_unchecked`, since `Sub` from the zero time saturates.
  `analysisInterval_eq` says that `ci` is the configured seconds when they fit in a duration.
-/

namespace Klogproc.Mapka3

open Klogproc.Go Function

/-! ## The sliding log buffer -/

/-- Modelled from the spec: a `servicelog.ServiceLogBuffer`, the records of each clustering key,
oldest first and at most `capacity` of them, and when each key was last checked. -/
structure LogBuffer where
  capacity : Nat
  records : String → List InputRecord
  lastCheck : String → GoTime

namespace LogBuffer

/-- Modelled from the spec: a buffer with no records, in which no key was checked. -/
def empty (capacity : Nat) : LogBuffer := ⟨capacity, fun _ => [], fun _ => GoTime.zero⟩

/-- Modelled from the spec: `GetLastCheck(key)`, the zero time if the key was never checked. -/
def getLastCheck (b : LogBuffer) (key : String) : GoTime := b.lastCheck key

/-- Modelled from the spec: the records that `ForEach(key, fn)` visits, oldest first. -/
def forEach (b : LogBuffer) (key : String) : List InputRecord := b.records key

/-- Modelled from the spec: `AddRecord(rec)`, the record goes after its key's records, and the
oldest go beyond the capacity. -/
def addRecord (b : LogBuffer) (rec : InputRecord) : LogBuffer :=
  let rs := b.records rec.clusteringID ++ [rec]
  { b with records := update b.records rec.clusteringID (rs.drop (rs.length - b.capacity)) }

/-- Modelled from the spec: `RemoveAnalyzedRecords(key, upTo)` evicts the key's records at or
before `upTo`. -/
def removeAnalyzedRecords (b : LogBuffer) (key : String) (upTo : GoTime) : LogBuffer :=
  { b with records := update b.records key ((b.records key).filter fun r => upTo.nanos < r.time.nanos) }

/-- Modelled from the spec: `ConfirmRecordCheck(rec)` stamps the record's key as checked at the
record's time. -/
def confirmRecordCheck (b : LogBuffer) (rec : InputRecord) : LogBuffer :=
  { b with lastCheck := update b.lastCheck rec.clusteringID rec.time }

/-- A buffer with room keeps the record it was given. -/
theorem addRecord_records_ne_nil (b : LogBuffer) (rec : InputRecord) (hcap : 0 < b.capacity) :
    (b.addRecord rec).records rec.clusteringID ≠ [] := by
  simp only [addRecord, update_same, ne_eq, List.drop_eq_nil_iff, List.length_append,
    List.length_singleton]
  omega

end LogBuffer

/-! ## `Preprocess` -/

/-- The fields of `load.BufferConf` that `Preprocess` reads. -/
structure BufferConf where
  analysisIntervalSecs : Int
  minDensity : Int
  epsilon : Float

/-- `ci`, that is `time.Duration(AnalysisIntervalSecs) * time.Second`. -/
def analysisInterval (conf : BufferConf) : Int :=
  durationMul (wrap64 conf.analysisIntervalSecs) second

/-- An analysis that `Preprocess` ran: the time of the record preprocessed, and the
`numAnalyzedRecords` and `foundClusters` of its `log.Debug` line. -/
structure AnalysisRun where
  time : GoTime
  numAnalyzedRecords : Nat
  foundClusters : Nat
  deriving DecidableEq, Repr

/-- What `Preprocess` returns, the buffer after it, and the analysis it ran, if any. -/
structure Preprocessed where
  records : List InputRecord
  buffer : LogBuffer
  analysis : Option AnalysisRun

/-- `Transformer.Preprocess`, with `clustering.Analyze` as `analyze`. -/
def preprocess (conf : BufferConf) (analyze : Int → Float → List InputRecord → List InputRecord)
    (rec : InputRecord) (prevRecs : LogBuffer) : Preprocessed :=
  let clusteringID := rec.clusteringID
  let lastCheck := prevRecs.getLastCheck clusteringID
  if analysisInterval conf < rec.time.sub lastCheck then
    let items := prevRecs.forEach clusteringID
    if 0 < items.length then
      let clustered := analyze conf.minDensity conf.epsilon items
      let run : AnalysisRun := ⟨rec.time, items.length, clustered.length⟩
      if 0 < clustered.length then
        ⟨clustered, (prevRecs.removeAnalyzedRecords clusteringID rec.time).confirmRecordCheck rec,
          some run⟩
      else ⟨[rec], prevRecs, some run⟩
    else ⟨[rec], prevRecs, none⟩
  else ⟨[rec], prevRecs, none⟩

section Preprocess

variable (conf : BufferConf) (analyze : Int → Float → List InputRecord → List InputRecord)
  (rec : InputRecord) (b : LogBuffer)

/-- What a call of `Preprocess` can do: nothing to the checks, with no analysis, or an analysis
at the record's time, more than the interval after the key's last check, which stamps the key
when it finds clusters. -/
theorem preprocess_view :
    let p := preprocess conf analyze rec b
    (p.analysis = none ∧ p.buffer.lastCheck = b.lastCheck) ∨
    ∃ run, p.analysis = some run ∧ run.time = rec.time ∧
      analysisInterval conf < rec.time.sub (b.lastCheck rec.clusteringID) ∧
      p.buffer.lastCheck =
        if 0 < run.foundClusters then update b.lastCheck rec.clusteringID rec.time
        else b.lastCheck := by
  unfold preprocess
  dsimp only
  split_ifs <;>
    simp_all [LogBuffer.getLastCheck, LogBuffer.confirmRecordCheck, LogBuffer.removeAnalyzedRecords]

/-- A key with no records is not analysed. -/
theorem preprocess_of_nil (h : b.records rec.clusteringID = []) :
    preprocess conf analyze rec b = ⟨[rec], b, none⟩ := by
  unfold preprocess
  dsimp only
  split_ifs <;> simp_all [LogBuffer.forEach]

/-- A key with records, due for a check, is analysed; an analysis that finds nothing changes
nothing and returns the record. -/
theorem preprocess_of_no_clusters
    (hdue : analysisInterval conf < rec.time.sub (b.lastCheck rec.clusteringID))
    (hrecs : b.records rec.clusteringID ≠ [])
    (hnone : analyze conf.minDensity conf.epsilon (b.records rec.clusteringID) = []) :
    preprocess conf analyze rec b =
      ⟨[rec], b, some ⟨rec.time, (b.records rec.clusteringID).length, 0⟩⟩ := by
  have hlen : 0 < (b.records rec.clusteringID).length := List.length_pos.2 hrecs
  simp [preprocess, LogBuffer.getLastCheck, LogBuffer.forEach, hdue, hlen, hnone]

end Preprocess

/-! ## Runs -/

/-- A call of `Preprocess` or of `AddRecord` on the buffer. -/
inductive BufferEvent where
  | preprocess (rec : InputRecord)
  | addRecord (rec : InputRecord)
  deriving DecidableEq, Repr

/-- The buffer, and every analysis run so far, in order. -/
structure BufferState where
  buffer : LogBuffer
  analyses : List AnalysisRun

/-- One call. -/
def bufferStep (conf : BufferConf) (analyze : Int → Float → List InputRecord → List InputRecord)
    (s : BufferState) : BufferEvent → BufferState
  | .preprocess rec =>
    let p := preprocess conf analyze rec s.buffer
    ⟨p.buffer, s.analyses ++ p.analysis.toList⟩
  | .addRecord rec => { s with buffer := s.buffer.addRecord rec }

/-- The calls `es`, one after another. -/
def bufferRun (conf : BufferConf) (analyze : Int → Float → List InputRecord → List InputRecord)
    (s : BufferState) (es : List BufferEvent) : BufferState :=
  es.foldl (bufferStep conf analyze) s

/-- The records a run preprocesses, in order. -/
def preprocessed : List BufferEvent → List InputRecord
  | [] => []
  | .preprocess rec :: es => rec :: preprocessed es
  | .addRecord _ :: es => preprocessed es

/-- What `OnEntry` does with a record that `Preprocess` returns unchanged: the call, then
`AddRecord` of the record. -/
def entryEvents (rec : InputRecord) : List BufferEvent := [.preprocess rec, .addRecord rec]

/-! ## Analyses over a run -/

section Run

variable {conf : BufferConf} {analyze : Int → Float → List InputRecord → List InputRecord}
  {key : String}

theorem minDuration_le_analysisInterval (conf : BufferConf) :
    minDuration ≤ analysisInterval conf := by
  unfold analysisInterval durationMul wrap64 minDuration
  omega

/-- When `AnalysisIntervalSecs` seconds fit in a `time.Duration`, `ci` is that many seconds. -/
theorem analysisInterval_eq (h₁ : minDuration ≤ conf.analysisIntervalSecs * second)
    (h₂ : conf.analysisIntervalSecs * second ≤ maxDuration) :
    analysisInterval conf = conf.analysisIntervalSecs * second := by
  have hs : wrap64 conf.analysisIntervalSecs = conf.analysisIntervalSecs := by
    unfold minDuration maxDuration second at *
    apply wrap64_of_le <;> simp only [minDuration, maxDuration] <;> omega
  rw [analysisInterval, durationMul, hs, wrap64_of_le h₁ h₂]

/-- A key never checked is due at every record later than `maxDuration` after the zero time (the
year 293), for every `ci` below `maxDuration`: `Sub` saturates. -/
theorem due_of_unchecked {t : GoTime} (hci : analysisInterval conf < maxDuration)
    (ht : maxDuration ≤ t.nanos) : analysisInterval conf < t.sub GoTime.zero :=
  lt_sub_of_lt hci (by simp only [GoTime.zero]; omega)

theorem bufferRun_append (s : BufferState) (es es' : List BufferEvent) :
    bufferRun conf analyze s (es ++ es') = bufferRun conf analyze (bufferRun conf analyze s es) es' :=
  List.foldl_append _ _ _ _

/-- An analysis of a call of `Preprocess` was there before or is at the record's time. -/
theorem mem_analyses_preprocess {s : BufferState} {rec : InputRecord} {a : AnalysisRun}
    (ha : a ∈ (bufferStep conf analyze s (.preprocess rec)).analyses) :
    a ∈ s.analyses ∨ a.time = rec.time := by
  simp only [bufferStep, List.mem_append] at ha
  rcases preprocess_view conf analyze rec s.buffer with ⟨hnone, -⟩ | ⟨run, hrun, htime, -⟩
  · exact .inl (by simpa [hnone] using ha)
  · rw [hrun, Option.toList_some, List.mem_singleton] at ha
    exact ha.imp_right fun h => by rw [h, htime]

/-- What a run keeps for a key: every analysis that found clusters is followed by none within
`ci`, and is no later than the key's last check. -/
structure Spaced (conf : BufferConf) (key : String) (s : BufferState) : Prop where
  spaced : s.analyses.Pairwise fun a a' =>
    0 < a.foundClusters → analysisInterval conf < a'.time.nanos - a.time.nanos
  stamped : ∀ a ∈ s.analyses, 0 < a.foundClusters → a.time.nanos ≤ (s.buffer.lastCheck key).nanos

/-- A call of `Preprocess` for the key, no earlier than the analyses before it, keeps `Spaced`. -/
theorem Spaced.preprocess {s : BufferState} {rec : InputRecord} (hs : Spaced conf key s)
    (hkey : rec.clusteringID = key) (hlate : ∀ a ∈ s.analyses, a.time.nanos ≤ rec.time.nanos) :
    Spaced conf key (bufferStep conf analyze s (.preprocess rec)) := by
  subst hkey
  rcases preprocess_view conf analyze rec s.buffer with ⟨hnone, hlc⟩ |
    ⟨run, hrun, htime, hdue, hlc⟩
  · refine ⟨?_, fun a ha hf => ?_⟩
    · simpa [bufferStep, hnone] using hs.spaced
    · simp only [bufferStep, hnone, Option.toList_none, List.append_nil, hlc] at ha ⊢
      exact hs.stamped a ha hf
  · have hgap := lt_of_lt_sub (minDuration_le_analysisInterval conf) hdue
    refine ⟨?_, fun a ha hf => ?_⟩
    · simp only [bufferStep, hrun, Option.toList_some, List.pairwise_append,
        List.pairwise_singleton, List.mem_singleton, true_and]
      refine ⟨hs.spaced, fun a ha a' ha' hf => ?_⟩
      have := hs.stamped a ha hf
      rw [ha', htime]
      omega
    · simp only [bufferStep, hrun, Option.toList_some, List.mem_append, List.mem_singleton,
        hlc] at ha ⊢
      rcases ha with ha | rfl
      · split_ifs
        · rw [update_same]
          exact hlate a ha
        · exact hs.stamped a ha hf
      · simp [hf, htime]

/-- Over a run whose records are of the key and in time order, from a state whose analyses are
no later than any of them, `Spaced` is kept. -/
theorem Spaced.run : ∀ (es : List BufferEvent) (s : BufferState), Spaced conf key s →
    (∀ r ∈ preprocessed es, r.clusteringID = key) →
    (∀ a ∈ s.analyses, ∀ r ∈ preprocessed es, a.time.nanos ≤ r.time.nanos) →
    (preprocessed es).Pairwise (fun r r' => r.time.nanos ≤ r'.time.nanos) →
    Spaced conf key (bufferRun conf analyze s es)
  | [], _, hs, _, _, _ => hs
  | .preprocess rec :: es, s, hs, hkey, hlate, hsorted => by
    simp only [preprocessed, List.mem_cons, forall_eq_or_imp, List.pairwise_cons] at *
    refine Spaced.run es _ (hs.preprocess hkey.1 fun a ha => (hlate a ha).1) hkey.2 ?_ hsorted.2
    intro a ha r hr
    rcases mem_analyses_preprocess ha with ha | ha
    · exact (hlate a ha).2 r hr
    · rw [ha]
      exact hsorted.1 r hr
  | .addRecord _ :: es, _, hs, hkey, hlate, hsorted =>
    Spaced.run es _ ⟨hs.spaced, hs.stamped⟩ hkey hlate hsorted

/-- Over every run in which the records preprocessed are of one key and have non-decreasing
times, each analysis that found clusters is followed by no analysis within `ci`. -/
theorem analyses_spaced_after_clusters (conf : BufferConf)
    (analyze : Int → Float → List InputRecord → List InputRecord) (key : String) (b : LogBuffer)
    (es : List BufferEvent) (hkey : ∀ r ∈ preprocessed es, r.clusteringID = key)
    (hsorted : (preprocessed es).Pairwise fun r r' => r.time.nanos ≤ r'.time.nanos) :
    (bufferRun conf analyze ⟨b, []⟩ es).analyses.Pairwise fun a a' =>
      0 < a.foundClusters → analysisInterval conf < a'.time.nanos - a.time.nanos :=
  (Spaced.run es ⟨b, []⟩ ⟨List.Pairwise.nil, by simp⟩ hkey (by simp) hsorted).spaced

/-- January 1, 2024, 00:00:00 UTC. -/
def newYear2024 : GoTime := ⟨63839664000 * second⟩

/-- A record of the client `c` at `t`. -/
def clientRecord (t : GoTime) : InputRecord := ⟨t, "10.0.0.1", "", "", 0, "c"⟩

/-- The client's records at 100 s, 200 s, 210 s and 300 s after the start of 2024, each
preprocessed and then added to the buffer. -/
def clusteringRun : List BufferEvent :=
  [100, 200, 210, 300].flatMap fun i => entryEvents (clientRecord (newYear2024.add (i * second)))

/-- With an interval of a minute and an analysis that takes every record for a cluster, the
analyses at 200 s and at 300 s find clusters, and the record at 210 s, inside the interval of the
first, runs none. -/
theorem analyses_spaced_after_clusters_one_client :
    (∀ r ∈ preprocessed clusteringRun, r.clusteringID = "c") ∧
      (preprocessed clusteringRun).Pairwise (fun r r' => r.time.nanos ≤ r'.time.nanos) ∧
      (bufferRun ⟨60, 1, 0.5⟩ (fun _ _ items => items) ⟨LogBuffer.empty 100, []⟩
          clusteringRun).analyses.Pairwise (fun a a' =>
        0 < a.foundClusters → analysisInterval ⟨60, 1, 0.5⟩ < a'.time.nanos - a.time.nanos) ∧
      (bufferRun ⟨60, 1, 0.5⟩ (fun _ _ items => items) ⟨LogBuffer.empty 100, []⟩
          clusteringRun).analyses.map (fun a => (a.time, a.foundClusters)) =
        [(newYear2024.add (200 * second), 1), (newYear2024.add (300 * second), 2)] :=
  have hkey : ∀ r ∈ preprocessed clusteringRun, r.clusteringID = "c" := by decide
  have hsorted : (preprocessed clusteringRun).Pairwise fun r r' => r.time.nanos ≤ r'.time.nanos := by
    decide
  ⟨hkey, hsorted, analyses_spaced_after_clusters _ _ _ _ _ hkey hsorted, by decide⟩

/-- While the analysis finds nothing, `OnEntry`'s calls for records of a key that has buffered
records, each due for a check, each run the analysis and leave the check where it was. -/
theorem run_entries_no_clusters (hnone : ∀ items, analyze conf.minDensity conf.epsilon items = []) :
    ∀ (rs : List InputRecord) (s : BufferState), 0 < s.buffer.capacity →
      s.buffer.records key ≠ [] → (∀ r ∈ rs, r.clusteringID = key) →
      (∀ r ∈ rs, analysisInterval conf < r.time.sub (s.buffer.lastCheck key)) →
      (bufferRun conf analyze s (rs.flatMap entryEvents)).analyses.map AnalysisRun.time =
        s.analyses.map AnalysisRun.time ++ rs.map InputRecord.time
  | [], _, _, _, _, _ => by simp [bufferRun]
  | r :: rs, s, hcap, hrecs, hkey, hdue => by
    simp only [List.mem_cons, forall_eq_or_imp] at hkey hdue
    have hpre := preprocess_of_no_clusters conf analyze r s.buffer (hkey.1 ▸ hdue.1)
      (hkey.1 ▸ hrecs) (hnone _)
    rw [List.flatMap_cons, bufferRun_append]
    have ih := run_entries_no_clusters hnone rs
      ⟨s.buffer.addRecord r, s.analyses ++ [⟨r.time, (s.buffer.records key).length, 0⟩]⟩ hcap
      (hkey.1 ▸ s.buffer.addRecord_records_ne_nil r hcap) hkey.2 hdue.2
    simpa [bufferRun, entryEvents, bufferStep, hpre, hkey.1] using ih

/-- From a buffer with no records and no checks, while the analysis finds nothing, every record
of a key after the first that is due for a check runs the analysis: once per record. -/
theorem preprocess_reanalyses_every_record (conf : BufferConf)
    (analyze : Int → Float → List InputRecord → List InputRecord) (capacity : Nat) (key : String)
    (rs : List InputRecord) (hcap : 0 < capacity)
    (hnone : ∀ items, analyze conf.minDensity conf.epsilon items = [])
    (hkey : ∀ r ∈ rs, r.clusteringID = key)
    (hdue : ∀ r ∈ rs, analysisInterval conf < r.time.sub GoTime.zero) :
    (bufferRun conf analyze ⟨LogBuffer.empty capacity, []⟩ (rs.flatMap entryEvents)).analyses.map
      AnalysisRun.time = (rs.drop 1).map InputRecord.time := by
  cases rs with
  | nil => rfl
  | cons r rs =>
    simp only [List.mem_cons, forall_eq_or_imp] at hkey hdue
    have hpre := preprocess_of_nil conf analyze r (LogBuffer.empty capacity) rfl
    rw [List.flatMap_cons, bufferRun_append]
    have h := run_entries_no_clusters hnone rs ⟨(LogBuffer.empty capacity).addRecord r, []⟩ hcap
      (hkey.1 ▸ (LogBuffer.empty capacity).addRecord_records_ne_nil r hcap) hkey.2 hdue.2
    simpa [bufferRun, entryEvents, bufferStep, hpre] using h

/-- Three records of one client a second apart, an interval of a minute, and an analysis that
finds nothing: the analysis runs at the second record and again one second later. -/
theorem preprocess_reanalyses_each_second :
    let conf : BufferConf := ⟨60, 5, 0.5⟩
    let analyze : Int → Float → List InputRecord → List InputRecord := fun _ _ _ => []
    let rs := [0, 1, 2].map fun i => clientRecord (newYear2024.add (i * second))
    (0 < 10 ∧ (∀ items, analyze conf.minDensity conf.epsilon items = []) ∧
      (∀ r ∈ rs, r.clusteringID = "c") ∧
      (∀ r ∈ rs, analysisInterval conf < r.time.sub GoTime.zero)) ∧
    (bufferRun conf analyze ⟨LogBuffer.empty 10, []⟩ (rs.flatMap entryEvents)).analyses.map
      AnalysisRun.time = [newYear2024.add second, newYear2024.add (2 * second)] :=
  have hdue : ∀ r ∈ [0, 1, 2].map fun i => clientRecord (newYear2024.add (i * second)),
      analysisInterval ⟨60, 5, 0.5⟩ < r.time.sub GoTime.zero := by
    have hci : analysisInterval ⟨60, 5, 0.5⟩ < maxDuration := by
      rw [analysisInterval_eq (by decide) (by decide)]
      decide
    intro r hr
    obtain ⟨i, hi, rfl⟩ := List.mem_map.1 hr
    refine due_of_unchecked hci ?_
    simp only [List.mem_cons, List.mem_singleton, List.not_mem_nil, or_false] at hi
    rcases hi with rfl | rfl | rfl <;> decide
  ⟨⟨by decide, fun _ => rfl, by decide, hdue⟩,
    preprocess_reanalyses_every_record _ _ 10 "c" _ (by decide) (fun _ => rfl) (by decide) hdue⟩

end Run

end Klogproc.Mapka3
