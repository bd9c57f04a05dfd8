import Rpiweatherd.L2Http.Request
import Rpiweatherd.L2Util.Dates

/-!
# Messages, their payload and the replies (`include/mqmsg.h`,
`include/datastructures.h`)

One `rpiwd_mqmsg` follows a connection from `accept` to `close`. The fields
`rpiwd_mqmsg_init` does not set (`mtype`, `retcode`, `data`) hold whatever
the listener's stack held.
-/
namespace Rpiweatherd

/-- `DB_MSGTYPE_*`; `unset` is any other value of the `int`. -/
inductive MType where
  | unset
  | writeEntry
  | fetch
  | current
  | stats
  | config
  deriving DecidableEq, Repr

inductive QueueId where
  | worker
  | db
  deriving DecidableEq, Repr

/-- A formatted query: the format of `dbhandler.h` with its arguments. -/
inductive Sql where
  | countByDate (op : Char) (t : Int)
  | readByDate (op : Char) (t : Int)
  | countByDateRange (a b : Int)
  | readByDateRange (a b : Int)
  | countSelectN (n : Int)
  | selectN (n : Int)
  | countInitialStats
  | selectStats
  deriving DecidableEq, Repr

structure Entry where
  id : Int
  recordDate : Option Bytes
  temperature : ℚ
  humidity : ℚ
  location : Option Bytes
  deviceName : Option Bytes
  deriving DecidableEq

/-- `length` is the number of pairs. -/
structure KeyValueList where
  capacity : Nat
  pairs : List (Option Bytes × Option Bytes)
  deriving DecidableEq, Repr

def keyValueListAlloc (maxItems : Nat) : KeyValueList := ⟨maxItems, []⟩

/-- A full list is left as it is. mirrors src/datastructures.c:127-137 -/
def keyValueListEmplace (l : KeyValueList) (key value : Option Bytes) : KeyValueList :=
  if l.pairs.length + 1 > l.capacity then l
  else { l with pairs := l.pairs ++ [(key, value)] }

/-- What `void *data` points at. -/
inductive Data where
  | entries (l : List Entry)
  | entry (e : Entry)
  | keyValues (l : KeyValueList)
  deriving DecidableEq

def RPIWD_TEMPERATURE_CELSIUS : UInt8 := 99
def RPIWD_TEMPERATURE_FARENHEIT : UInt8 := 102
def RPIWD_DEFAULT_HUMID_UNIT : UInt8 := 37
def RPIWD_MEASURE_TEMPERATURE : Nat := 0
def RPIWD_MEASURE_HUMIDITY : Nat := 1
def RPIWD_MAX_MEASUREMENTS : Nat := 8
def RPIWD_DEVRETCODE_SUCCESS : Int := 0

/-- `float results[RPIWD_MAX_MEASUREMENTS]`. -/
abbrev Measurements := Fin RPIWD_MAX_MEASUREMENTS → ℚ

def temperatureAt : Fin RPIWD_MAX_MEASUREMENTS := ⟨RPIWD_MEASURE_TEMPERATURE, by decide⟩
def humidityAt : Fin RPIWD_MAX_MEASUREMENTS := ⟨RPIWD_MEASURE_HUMIDITY, by decide⟩

/-- The unit string set up by `init_current_config`. -/
def unitString : Bytes :=
  [RPIWD_TEMPERATURE_FARENHEIT, RPIWD_DEFAULT_HUMID_UNIT, 0, 0, 0, 0, 0, 0]

def DB_MSG_NO_SOCKFD : Int := -100

structure RpiwdMqmsg where
  mtype : MType
  isCompleted : Bool
  sockfd : Int
  retcode : Int
  receiverMq : QueueId
  fcountq : Option Sql
  fselectq : Option Sql
  unitstr : Bytes
  data : Option Data
  deriving DecidableEq

instance : Inhabited RpiwdMqmsg := ⟨.unset, false, 0, 0, .worker, none, none, [], none⟩

/-- mirrors src/mqmsg.c:19-23 -/
def rpiwdMqmsgInit (ret : RpiwdMqmsg) : RpiwdMqmsg :=
  { ret with fcountq := none, fselectq := none, isCompleted := false, unitstr := unitString }

/-- The message `main_listener_loop` builds for a connection; `stack` is what
its buffer held before. mirrors src/listener.c:149-152 -/
def newMessage (stack : RpiwdMqmsg) (clientsock : Int) : RpiwdMqmsg :=
  { rpiwdMqmsgInit stack with sockfd := clientsock, receiverMq := .worker }

/-- The message of `request_write_entry`; the other fields stay as the stack
had them. mirrors src/dbhandler.c:162-177 -/
def writeEntryMessage (stack : RpiwdMqmsg) (e : Entry) : RpiwdMqmsg :=
  { stack with mtype := .writeEntry, sockfd := DB_MSG_NO_SOCKFD, data := some (.entry e) }

/-- The body of a response: none, the error object, or the document made
from a message's data; `append_units` adds the temperature unit to lists of
entries and single entries. -/
inductive Body where
  | empty
  | error (errcode : Int) (errmsg : String)
  | document (data : Data) (tempunit : Option UInt8)
  deriving DecidableEq

structure Reply where
  code : Int
  body : Body
  deriving DecidableEq

def errorReply (httpcode errcode : Int) (err : String) : Reply := ⟨httpcode, .error errcode err⟩

end Rpiweatherd
