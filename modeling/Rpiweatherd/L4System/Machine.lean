import Rpiweatherd.Core
import Rpiweatherd.Ledger
import Rpiweatherd.L3Listener.Memory

/-!
# The daemon's threads and queues

The listener, `W` workers, the database thread and the sensor writer (the
query loop of `src/rpiweatherd.c`), joined by two bounded POSIX queues.
`mq_send` is enabled while the queue has room and `mq_receive` while it has
a message; a thread at a disabled operation is blocked. `accept` returns any
descriptor that is not open. A `Fault` has no step: nothing is said about
the daemon after undefined behaviour.

`fds` maps each open descriptor to the number of the connection it belongs
to, and `hist` is the history of every connection: both are ghosts, which no
thread reads.
-/
namespace Rpiweatherd

def LISTENER_MQUEUE_MAX_MESSAGES : Nat := 512
def MQ_MAXMESSAGES : Nat := 20

/-- What happens on a connection: it is accepted with a message, read in a
round of a worker in some environment, worked on by the database thread,
written and closed. -/
inductive ConnEv where
  | accepted (m : RpiwdMqmsg)
  | read (env : Env) (inc : Incoming)
  | processed (db : Db)
  | wrote (r : Reply)
  | closed

/-- Where a worker is: at `mq_receive`, behind it, at the `write` or the
`close` of its answer, or at an `mq_send`. -/
inductive WorkerPc where
  | receiving
  | got (m : RpiwdMqmsg)
  | replying (m : RpiwdMqmsg) (r : Reply)
  | closing (m : RpiwdMqmsg)
  | sending (q : QueueId) (m : RpiwdMqmsg)

structure Worker where
  pc : WorkerPc
  locals : Locals

inductive ListenerPc where
  | accepting
  | sending (m : RpiwdMqmsg)

inductive DbPc where
  | receiving
  | got (m : RpiwdMqmsg)
  | sending (m : RpiwdMqmsg)

inductive SensorPc where
  | measuring
  | sending (m : RpiwdMqmsg)

structure Sys where
  workerQ : List RpiwdMqmsg
  dbQ : List RpiwdMqmsg
  listener : ListenerPc
  workers : List Worker
  db : DbPc
  sensor : SensorPc
  fds : List (Int × Nat)
  nextConn : Nat
  hist : Nat → List ConnEv

def Sys.start (W : Nat) : Sys where
  workerQ := []
  dbQ := []
  listener := .accepting
  workers := List.replicate W ⟨.receiving, .start⟩
  db := .receiving
  sensor := .measuring
  fds := []
  nextConn := 0
  hist := fun _ => []

inductive Label where
  | accept (fd : Nat) (stack : RpiwdMqmsg)
  | listenerSend
  | workerReceive (i : Nat)
  | workerRound (i : Nat) (env : Env) (rd : ReadResult)
  | workerWrite (i : Nat)
  | workerClose (i : Nat)
  | workerSend (i : Nat)
  | dbReceive
  | dbRound (db : Db)
  | dbSend
  | measure (stack : RpiwdMqmsg) (e : Entry)
  | sensorSend

/-- What a read shows of itself on the connection. -/
def ReadResult.incoming : ReadResult → Incoming
  | .error _ => .error
  | .eof => .eof
  | .data b => .data b.received b.received_ne b.received_length_le

theorem ReadResult.incoming_gives (rd : ReadResult) : rd.incoming.Gives rd := by
  cases rd <;> simp [ReadResult.incoming, Incoming.Gives]

/-! ## Steps -/

def Sys.full (s : Sys) : QueueId → Prop
  | .worker => LISTENER_MQUEUE_MAX_MESSAGES ≤ s.workerQ.length
  | .db => MQ_MAXMESSAGES ≤ s.dbQ.length

instance (s : Sys) : (q : QueueId) → Decidable (s.full q)
  | .worker => inferInstanceAs (Decidable (_ ≤ _))
  | .db => inferInstanceAs (Decidable (_ ≤ _))

/-- `mq_send`: none while the queue is full. -/
def Sys.push (s : Sys) (q : QueueId) (m : RpiwdMqmsg) : Option Sys :=
  if s.full q then none
  else some (match q with
    | .worker => { s with workerQ := s.workerQ ++ [m] }
    | .db => { s with dbQ := s.dbQ ++ [m] })

def Sys.record (s : Sys) (fd : Int) (e : ConnEv) : Sys :=
  { s with hist := Ledger.record s.fds s.hist fd e }

def Sys.setWorker (s : Sys) (i : Nat) (w : Worker) : Sys :=
  { s with workers := s.workers.set i w }

/-- mirrors src/listener.c:138-152 -/
def Sys.accept (s : Sys) (fd : Nat) (stack : RpiwdMqmsg) : Option Sys :=
  match s.listener with
  | .accepting =>
    if (fd : Int) ∈ s.fds.map Prod.fst then none
    else some { s with
      listener := .sending (newMessage stack fd)
      fds := ((fd : Int), s.nextConn) :: s.fds
      nextConn := s.nextConn + 1
      hist := Function.update s.hist s.nextConn [.accepted (newMessage stack fd)] }
  | .sending _ => none

/-- mirrors src/listener.c:155 -/
def Sys.listenerSend (s : Sys) : Option Sys :=
  match s.listener with
  | .sending m => Sys.push { s with listener := .accepting } .worker m
  | .accepting => none

/-- Where a worker goes from an outcome. -/
def pcOf (m : RpiwdMqmsg) : Outcome → WorkerPc
  | .reply r => .replying m r
  | .silent => .closing m
  | .toDb m' => .sending .db m'
  | .toWorker m' => .sending .worker m'

/-- The socket of a new message is read in the round. -/
def Sys.recordRead (s : Sys) (m : RpiwdMqmsg) (env : Env) (rd : ReadResult) : Sys :=
  if m.isCompleted then s else s.record m.sockfd (.read env rd.incoming)

/-- One operation of worker `i`, which is `w`. mirrors src/listener.c:192-314 -/
def Sys.stepWorker (s : Sys) (i : Nat) (w : Worker) : Label → Option Sys
  | .workerReceive _ =>
    match w.pc, s.workerQ with
    | .receiving, m :: q => some (Sys.setWorker { s with workerQ := q } i { w with pc := .got m })
    | _, _ => none
  | .workerRound _ env rd =>
    match w.pc with
    | .got m =>
      match workerRound env w.locals m rd with
      | .ok (out, l) => some ((s.setWorker i ⟨pcOf m out, l⟩).recordRead m env rd)
      | .error _ => none
    | _ => none
  | .workerWrite _ =>
    match w.pc with
    | .replying m r =>
      some ((s.setWorker i { w with pc := .closing m }).record m.sockfd (.wrote r))
    | _ => none
  | .workerClose _ =>
    match w.pc with
    | .closing m =>
      let s := (s.setWorker i { w with pc := .receiving }).record m.sockfd .closed
      some { s with fds := Ledger.drop s.fds m.sockfd }
    | _ => none
  | .workerSend _ =>
    match w.pc with
    | .sending q m => (s.setWorker i { w with pc := .receiving }).push q m
    | _ => none
  | _ => none

/-- mirrors src/dbhandler.c:97 -/
def Sys.dbReceive (s : Sys) : Option Sys :=
  match s.db, s.dbQ with
  | .receiving, m :: q => some { s with db := .got m, dbQ := q }
  | _, _ => none

/-- mirrors src/dbhandler.c:98-145 -/
def Sys.dbRound (s : Sys) (db : Db) : Option Sys :=
  match s.db with
  | .got m =>
    match dbProcess db m with
    | .ok (some m') => some (Sys.record { s with db := .sending m' } m.sockfd (.processed db))
    | .ok none => some { s with db := .receiving }
    | .error _ => none
  | _ => none

/-- The queue is the one the message names. mirrors src/dbhandler.c:146-147 -/
def Sys.dbSend (s : Sys) : Option Sys :=
  match s.db with
  | .sending m => Sys.push { s with db := .receiving } m.receiverMq m
  | _ => none

/-- mirrors src/rpiweatherd.c:129-136, src/dbhandler.c:162-173 -/
def Sys.measure (s : Sys) (stack : RpiwdMqmsg) (e : Entry) : Option Sys :=
  match s.sensor with
  | .measuring => some { s with sensor := .sending (writeEntryMessage stack e) }
  | .sending _ => none

/-- mirrors src/dbhandler.c:175-176 -/
def Sys.sensorSend (s : Sys) : Option Sys :=
  match s.sensor with
  | .sending m => Sys.push { s with sensor := .measuring } .db m
  | .measuring => none

/-- The worker a label is about. -/
def Label.worker : Label → Option Nat
  | .workerReceive i | .workerRound i _ _ | .workerWrite i | .workerClose i | .workerSend i =>
    some i
  | _ => none

def Sys.step (s : Sys) (lab : Label) : Option Sys :=
  match lab.worker with
  | some i => s.workers[i]?.bind fun w => s.stepWorker i w lab
  | none =>
    match lab with
    | .accept fd stack => s.accept fd stack
    | .listenerSend => s.listenerSend
    | .dbReceive => s.dbReceive
    | .dbRound db => s.dbRound db
    | .dbSend => s.dbSend
    | .measure stack e => s.measure stack e
    | .sensorSend => s.sensorSend
    | _ => none

/-- The daemon with `W` workers. -/
def daemon (W : Nat) : LTS Sys Label := LTS.ofFn (· = Sys.start W) Sys.step

/-- A run of the daemon by evaluation. -/
def Sys.run (s : Sys) (ls : List Label) : Option Sys := LTS.runFn Sys.step s ls

theorem Sys.run_append (s : Sys) (ls ls' : List Label) :
    s.run (ls ++ ls') = (s.run ls).bind fun t => t.run ls' := LTS.runFn_append s ls ls'

end Rpiweatherd
