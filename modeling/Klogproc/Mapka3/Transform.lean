import Klogproc.Go.Time

/-!
# The document ID of a mapka3 record

`mapka3.Transformer.Transform` builds an `OutputRecord` from a log record of the map application
and sets its `ID` with `createID`: the SHA-1 sum, in hex, of
`Type + Path + Datetime + IPAddress + UserID`.  The ID is the record's Elasticsearch document
ID, which `conversion.OutputRecord.GetID` documents as "an idempotent unique identifier of the
record".

* The mapka3 `InputRecord` and `OutputRecord` types are not in this repository.  `InputRecord`
  holds what the getters that the transformer calls return, and `OutputRecord` the fields that
  `Transform` sets.
* `Library` holds the functions of Go's library that `Transform` calls: `sha1.Sum` of a
  string's bytes, `Time.Format(time.RFC3339)` and `servicelog.UserBelongsToList`.  Every result
  here is about every choice of them.  `hexEncode` is `hex.EncodeToString`.
* The fields are joined with no separator, so where one ends and the next starts is not in the
  string: `transform_ids_collide` gives two records from different addresses and users with one
  ID.
-/

namespace Klogproc.Mapka3

open Klogproc.Go

/-! ## `hex.EncodeToString` -/

/-- `hextable` of package `encoding/hex`. -/
def hextable : List Char := "0123456789abcdef".toList

/-- The two digits of a byte: `hextable[v>>4]` and `hextable[v&0x0f]`. -/
def hexPair (v : UInt8) : List Char :=
  [hextable.getD (v.toNat >>> 4) '0', hextable.getD (v.toNat &&& 0x0f) '0']

/-- `hex.EncodeToString`. -/
def hexEncode (src : List UInt8) : String := ⟨src.flatMap hexPair⟩

/-! ## Records and `Transform` -/

/-- What the getters of a mapka3 log record return: `GetTime()`, `GetClientIP().String()`,
`GetUserAgent()`, `Extra.UserID`, the cluster size the analysis set, and
`ClusteringClientID()`. -/
structure InputRecord where
  time : GoTime
  clientIP : String
  userAgent : String
  extraUserID : String
  clusterSize : Int
  clusteringID : String
  deriving DecidableEq, Repr

/-- The fields of a mapka3 `OutputRecord` that `Transform` and `createID` read or set. -/
structure OutputRecord where
  id : String
  type : String
  path : String
  time : GoTime
  datetime : String
  ipAddress : String
  userAgent : String
  isAnonymous : Bool
  isQuery : Bool
  action : String
  userID : String
  clusterSize : Int
  deriving DecidableEq, Repr

/-- The functions of Go's library that `Transform` calls. -/
structure Library where
  /-- `sha1.Sum([]byte(s))`. -/
  sha1Sum : String → List UInt8
  /-- `t.Format(time.RFC3339)`. -/
  formatRFC3339 : GoTime → String
  /-- `servicelog.UserBelongsToList`. -/
  userBelongsToList : String → List Int → Bool

/-- The string `str` that `createID` hashes. -/
def idString (rec : OutputRecord) : String :=
  rec.type ++ rec.path ++ rec.datetime ++ rec.ipAddress ++ rec.userID

/-- `createID`. -/
def createID (lib : Library) (rec : OutputRecord) : String :=
  hexEncode (lib.sha1Sum (idString rec))

/-- `Transformer.Transform`, whose `error` is always `nil`.  `Path` is not set, so it keeps its
zero value `""`. -/
def transform (lib : Library) (logRecord : InputRecord) (recType : String) (tzShiftMin : Int)
    (anonymousUsers : List Int) : OutputRecord :=
  let r : OutputRecord :=
    { id := ""
      type := recType
      path := ""
      time := logRecord.time
      datetime := lib.formatRFC3339 (logRecord.time.add (durationMul minute (wrap64 tzShiftMin)))
      ipAddress := logRecord.clientIP
      userAgent := logRecord.userAgent
      isAnonymous := logRecord.extraUserID == "" ||
        lib.userBelongsToList logRecord.extraUserID anonymousUsers
      isQuery := false
      action := "interaction"
      userID := logRecord.extraUserID
      clusterSize := logRecord.clusterSize }
  let r := if 0 < r.clusterSize then { r with isQuery := true } else r
  { r with id := createID lib r }

/-- What `Transform` puts in the fields that `createID` hashes, and that the ID is theirs. -/
theorem transform_spec (lib : Library) (logRecord : InputRecord) (recType : String)
    (tzShiftMin : Int) (anonymousUsers : List Int) :
    let o := transform lib logRecord recType tzShiftMin anonymousUsers
    o.id = createID lib o ∧ o.type = recType ∧ o.path = "" ∧
      o.datetime = lib.formatRFC3339 (logRecord.time.add (durationMul minute (wrap64 tzShiftMin))) ∧
      o.ipAddress = logRecord.clientIP ∧ o.userID = logRecord.extraUserID := by
  unfold transform
  dsimp only
  split <;> exact ⟨rfl, rfl, rfl, rfl, rfl, rfl⟩

/-- Two records of one time, type and agent, from `10.0.0.1` by user `23` and from `10.0.0.12` by
user `3`, get one ID, whatever the hash, the time format and the other arguments. -/
theorem transform_ids_collide (lib : Library) (recType : String) (tzShiftMin : Int)
    (anonymousUsers : List Int) (time : GoTime) (userAgent clusteringID : String)
    (clusterSize : Int) :
    let o₁ := transform lib ⟨time, "10.0.0.1", userAgent, "23", clusterSize, clusteringID⟩
      recType tzShiftMin anonymousUsers
    let o₂ := transform lib ⟨time, "10.0.0.12", userAgent, "3", clusterSize, clusteringID⟩
      recType tzShiftMin anonymousUsers
    o₁.id = o₂.id ∧ o₁.ipAddress ≠ o₂.ipAddress ∧ o₁.userID ≠ o₂.userID := by
  obtain ⟨hid₁, ht₁, hp₁, hd₁, hip₁, hu₁⟩ := transform_spec lib
    ⟨time, "10.0.0.1", userAgent, "23", clusterSize, clusteringID⟩ recType tzShiftMin anonymousUsers
  obtain ⟨hid₂, ht₂, hp₂, hd₂, hip₂, hu₂⟩ := transform_spec lib
    ⟨time, "10.0.0.12", userAgent, "3", clusterSize, clusteringID⟩ recType tzShiftMin anonymousUsers
  have hjoin : ("10.0.0.1" ++ "23" : String) = "10.0.0.12" ++ "3" := rfl
  refine ⟨?_, by simp [hip₁, hip₂], by simp [hu₁, hu₂]⟩
  rw [hid₁, hid₂, createID, createID, idString, idString, ht₁, ht₂, hp₁, hp₂, hd₁, hd₂, hip₁, hip₂,
    hu₁, hu₂, String.append_assoc _ "10.0.0.1", String.append_assoc _ "10.0.0.12", hjoin]

end Klogproc.Mapka3
