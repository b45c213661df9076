import Klogproc.Go.Strconv

/-!
# The command line and the configuration checks

`klogproc.go` and the later `main` package in `src/conversion/conversion.go` read the operation
and the path of a JSON configuration from the command line, load the configuration, check it
with `validateConf` and run the operation; `newProcAlarm` (`src/unnamed/part_004`) picks the
error alarm of a tail processor.

* `validateConf` is a sequence of `if ... { panic(...) }` checks; `runChecks` runs such a
  sequence and returns the message of the first check that fails.  `validateConf` of
  `klogproc.go` has two checks, `validateConfFull` of the later version four.
* `main` is the dispatch of `main()`.  `loadConfig` ignores the error of `json.Unmarshal`, so a
  configuration it cannot decode is checked as far as `Unmarshal` filled it (`unmarshal` is a
  parameter).
* `newProcAlarm` returns the counting alarm only when both limits are positive and there is a
  notifier.
-/

namespace Klogproc.Main

open Klogproc.Go

/-! ## `validateConf` -/

/-- The fields of `main.Conf` that `validateConf` reads (the `Conf` of `klogproc.go` has no
`ElasticPushChunkSize`; its `validateConf` does not read it). -/
structure Conf where
  appType : List UInt8
  elasticSearchChunkSize : Int
  elasticScrollTTL : List UInt8
  elasticPushChunkSize : Int
  deriving DecidableEq, Repr

/-- The zero `Conf`, which `loadConfig` fills. -/
def Conf.zero : Conf := ⟨[], 0, [], 0⟩

/-- One `if fails(conf) { panic(message) }` of `validateConf`. -/
structure Check where
  fails : Conf → Bool
  message : List UInt8

/-- The checks of a `validateConf`, in order: the message of the first that fails, or `none` when
`validateConf` returns. -/
def runChecks (checks : List Check) (conf : Conf) : Option (List UInt8) :=
  (checks.find? fun c => c.fails conf).map Check.message

/-- `if conf.ElasticSearchChunkSize < 1`. -/
def chunkSizeCheck : Check :=
  ⟨fun conf => conf.elasticSearchChunkSize < 1, ascii "elasticSearchChunkSize must be >= 1"⟩

/-- `if conf.AppType == ""`. -/
def appTypeCheck : Check := ⟨fun conf => conf.appType = [], ascii "Application type not set"⟩

/-- `if conf.ElasticScrollTTL == ""`. -/
def scrollTTLCheck : Check :=
  ⟨fun conf => conf.elasticScrollTTL = [],
    ascii "elasticScrollTtl must be a valid ElasticSearch scroll arg value (e.g. '2m', '30s')"⟩

/-- `if conf.ElasticPushChunkSize == 0`. -/
def pushChunkSizeCheck : Check :=
  ⟨fun conf => conf.elasticPushChunkSize = 0, ascii "elasticPushChunkSize is missing"⟩

/-- `validateConf` of `klogproc.go`. -/
def validateConf (conf : Conf) : Option (List UInt8) :=
  runChecks [chunkSizeCheck, scrollTTLCheck] conf

/-- `validateConf` of the `main` package in `conversion/conversion.go`. -/
def validateConfFull (conf : Conf) : Option (List UInt8) :=
  runChecks [chunkSizeCheck, appTypeCheck, scrollTTLCheck, pushChunkSizeCheck] conf

/-! ## `main` -/

/-- What `main()` does. -/
inductive Outcome where
  /-- `showHelp()`. -/
  | help
  /-- `updateIsAPIStatus(conf)`. -/
  | updateIsAPIStatus (conf : Conf)
  /-- `ProcessLogs(conf)`. -/
  | processLogs (conf : Conf)
  /-- The `switch` matched no operation: `main` returns. -/
  | nothing
  /-- `panic` with the message. -/
  | panic (message : List UInt8)
  deriving DecidableEq, Repr

/-- `loadConfig(path)`: `ioutil.ReadFile` (the parameter `readFile`, with the error's text),
then `json.Unmarshal` into the zero `Conf`, whose error is ignored (`unmarshal` gives what it
leaves in the `Conf`); a read error is a panic. -/
def loadConfig (readFile : List UInt8 → Except (List UInt8) (List UInt8))
    (unmarshal : List UInt8 → Conf) (path : List UInt8) : Except (List UInt8) Conf :=
  match readFile path with
  | .error err => .error err
  | .ok rawData => .ok (unmarshal rawData)

/-- `main()` with the arguments `flag.Args()` and the `validateConf` of its file. -/
def main (validate : Conf → Option (List UInt8))
    (readFile : List UInt8 → Except (List UInt8) (List UInt8)) (unmarshal : List UInt8 → Conf)
    (args : List (List UInt8)) : Outcome :=
  match args with
  | [op] =>
    if op = ascii "help" then .help
    else .panic (ascii "Invalid arguments. Expected format: klogproc OPERATION CONF")
  | [op, path] =>
    match loadConfig readFile unmarshal path with
    | .error err => .panic err
    | .ok conf =>
      match validate conf with
      | some msg => .panic msg
      | none =>
        if op = ascii "setapiflag" then .updateIsAPIStatus conf
        else if op = ascii "proclogs" then .processLogs conf
        else .nothing
  | _ => .panic (ascii "Invalid arguments. Expected format: klogproc OPERATION CONF")

/-! ## `newProcAlarm` -/

/-- The alarm of a tail processor: `alarm.NewTailProcAlarm` with its two limits, or
`alarm.NullAlarm`. -/
inductive TailAlarm where
  | tailProc (numErrorsAlarm errCountTimeRangeSecs : Int)
  | null
  deriving DecidableEq, Repr

/-- `newProcAlarm(tailConf, conf, notifier)`, with `hasNotifier` for `notifier != nil`; its
error is always `nil`. -/
def newProcAlarm (numErrorsAlarm errCountTimeRangeSecs : Int) (hasNotifier : Bool) : TailAlarm :=
  if numErrorsAlarm > 0 ∧ errCountTimeRangeSecs > 0 ∧ hasNotifier then
    .tailProc numErrorsAlarm errCountTimeRangeSecs
  else .null

end Klogproc.Main
