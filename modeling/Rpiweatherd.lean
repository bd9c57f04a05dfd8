import Rpiweatherd.Core
import Rpiweatherd.Rounding
import Rpiweatherd.L1Libc.CString
import Rpiweatherd.L1Libc.Numeral
import Rpiweatherd.L1Libc.Decimal
import Rpiweatherd.L1Libc.Printf
import Rpiweatherd.L1Libc.Buffer
import Rpiweatherd.L1Libc.Fixed
import Rpiweatherd.L2Http.Request
import Rpiweatherd.L2Http.Bounds
import Rpiweatherd.L2Http.Params
import Rpiweatherd.L2Http.Reader
import Rpiweatherd.L2Http.RoundTrip
import Rpiweatherd.L2Http.Separators
import Rpiweatherd.L2Http.Verdict
import Rpiweatherd.L2Http.Response
import Rpiweatherd.L2Util.Dates
import Rpiweatherd.L2Util.Millis
import Rpiweatherd.L2Util.Intervals
import Rpiweatherd.L2Util.Strptime
import Rpiweatherd.L3Listener.Message
import Rpiweatherd.L3Device.Dht11
import Rpiweatherd.L3Device.Dht11Frame
import Rpiweatherd.L3Listener.Callbacks
import Rpiweatherd.L3Listener.NullSafety
import Rpiweatherd.L3Listener.DbThread
import Rpiweatherd.L3Listener.Worker
import Rpiweatherd.L3Listener.FetchErrno
import Rpiweatherd.L3Listener.FetchErrors
import Rpiweatherd.L3Listener.Select
import Rpiweatherd.L3Listener.Memory
import Rpiweatherd.Calendar
import Rpiweatherd.L3Database.Datetime
import Rpiweatherd.L3Database.Tables
import Rpiweatherd.L3Database.Fetch
import Rpiweatherd.L3Database.Failures
import Rpiweatherd.L3Listener.Statistics
import Rpiweatherd.L3Database.Windows
import Rpiweatherd.L3Database.Day
import Rpiweatherd.Ledger
import Rpiweatherd.Loops
import Rpiweatherd.L4System.Machine
import Rpiweatherd.L4System.Routing
import Rpiweatherd.L4System.Connections
import Rpiweatherd.L4System.Deadlock
import Rpiweatherd.L3Trigger.Parse
import Rpiweatherd.L3Trigger.Load
import Rpiweatherd.L3Trigger.History
import Rpiweatherd.L4System.TriggerSync
import Rpiweatherd.L3Trigger.Eval
import Rpiweatherd.L3Trigger.Interference
import Rpiweatherd.L3Trigger.Grammar
import Rpiweatherd.L3Trigger.Executable
import Rpiweatherd.L3Trigger.Capacity
import Rpiweatherd.L3Trigger.Args
import Rpiweatherd.L3Listener.Units
import Rpiweatherd.L1Json.Parson
import Rpiweatherd.TwoPass
import Rpiweatherd.L1Json.Json
import Rpiweatherd.L1Json.Serializer
import Rpiweatherd.L1Json.Parser
import Rpiweatherd.L1Json.Tokens
import Rpiweatherd.L1Json.RoundTrip
import Rpiweatherd.L1Json.Building
import Rpiweatherd.L3Listener.Serialize
import Rpiweatherd.L3Listener.Documents
import Rpiweatherd.L3Listener.ReplyText
import Rpiweatherd.L3Listener.CleanRounds
import Rpiweatherd.L1Ini.Inih
import Rpiweatherd.L1Ini.Lines
import Rpiweatherd.L3Config.Config
import Rpiweatherd.L3Config.Integers
import Rpiweatherd.L3Config.Reload
import Rpiweatherd.L3Config.Startup
import Rpiweatherd.L3Config.SavedConfig
import Rpiweatherd.L3Config.BlankConfig
import Rpiweatherd.L4System.QueryLoop
import Rpiweatherd.L4System.Client
import Rpiweatherd.L4System.Shutdown
import Rpiweatherd.FifoServer
import Rpiweatherd.L4System.Steps
import Rpiweatherd.L4System.Wire
import Rpiweatherd.L4System.Store
import Rpiweatherd.L4System.FetchReplies
import Rpiweatherd.L4System.EndToEnd
import Rpiweatherd.L4System.Lifecycle
import Rpiweatherd.L4System.Quit
import Rpiweatherd.L4System.PidFile
