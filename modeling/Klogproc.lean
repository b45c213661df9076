import Klogproc.Go.Strings
import Klogproc.Go.Chan
import Klogproc.Go.Time
import Klogproc.Go.Strconv
import Klogproc.Go.TimeParse
import Klogproc.Go.Dynamic
import Klogproc.Tail.Reconcile
import Klogproc.Tail.Arrival
import Klogproc.Tail.Worklog
import Klogproc.Accesslog.Parser
import Klogproc.Accesslog.Fields
import Klogproc.Main.RunBatchAction
import Klogproc.Main.TailProcessor
import Klogproc.Main.TailProgress
import Klogproc.Main.OnEntry
import Klogproc.Mapka3.Transform
import Klogproc.Mapka3.Preprocess
import Klogproc.Mapka3.Entry
import Klogproc.Conversion.Values
import Klogproc.Conversion.DatetimePattern
import Klogproc.Batch.LineTime
import Klogproc.Batch.FileSelect
import Klogproc.Kontext.Record
import Klogproc.Main.TailSetup
import Klogproc.Kontext.Fetch
import Klogproc.Treq.Transform
import Klogproc.Main.Config
