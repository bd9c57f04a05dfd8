import Rpiweatherd.Core

/-!
# The listener and its workers through reloads (`src/listener.c:41-183`)

`init_listener_loop` creates the listener thread and only then stores the
number of workers in `__num_workers`; the listener reads it to allocate
`__workers`, again before each worker it creates, and once more for each one
that its cleanup routine cancels and joins. `quit_listener_loop` cancels the
listener, waits for it and frees the array.

A label is one thread's next action. Cancellation is deferred: the listener
acts on it at `accept` and `mq_send`, where its cleanup routine is registered,
or at a cancellation point inside `get_bound_socket`, where it is not yet. A
worker acts on it anywhere but in two places: while it waits for the lock of
the device, and between the delay of the sensor's query and the release of the
lock. In the delay it does, and nobody releases the lock then.

* `only_race_faults`: whatever the order, the only misuse of the array or of a
  thread is an access behind the end of the array, in a round whose array was
  allocated before the number of workers was stored.
* `orderly_rounds`: while the number is stored first and the workers and the
  socket come about, nothing is misused, no more than `MAX_WORKER_THREADS`
  workers are there at a time, and a round that is over has left no thread, no
  queue, no socket and no block.
-/
namespace Rpiweatherd

def MAX_WORKER_THREADS : Int := 4

namespace Lifecycle

/-! ## The threads -/

/-- A worker: running, with a cancellation pending, at its end, or joined. -/
inductive WorkerAt where
  | running
  | cancelled
  | ended
  | joined
  deriving DecidableEq

/-- The listener: before `malloc`, before `mq_open`, at worker `i` of the loop
that creates them, before `get_bound_socket`, in its main loop, and in its
cleanup routine before `pthread_cancel` or `pthread_join` of worker `i`. -/
inductive ListenerAt where
  | absent
  | starting
  | opening
  | creating (i : Nat)
  | binding
  | listening
  | cancelling (i : Nat)
  | joining (i : Nat)
  | ended
  deriving DecidableEq

/-- The main thread: without a listener, behind `pthread_create`, in its query
loop, at `pthread_join`, and before `free`. -/
inductive MainAt where
  | stopped
  | created (n : Int)
  | running
  | joining
  | freeing
  | exited
  deriving DecidableEq

/-- `__workers`; a cell holds the number of a thread. -/
inductive Table where
  | null
  | block (cells : List (Option Nat))
  | freed
  deriving DecidableEq

/-- `__mtx_device_lock`: free, or held by a worker, before or behind the delay
in the query of the sensor. -/
inductive DeviceLock where
  | free
  | held (t : Nat) (delayed : Bool)
  deriving DecidableEq

inductive Misuse where
  | nullTable
  | freedTable
  | outside
  | unset
  | joinedThread
  | doubleFree
  deriving DecidableEq

structure State where
  main : MainAt
  listener : ListenerAt
  /-- `__num_workers` -/
  numWorkers : Int
  table : Table
  /-- all workers that were ever created -/
  threads : List WorkerAt
  /-- open descriptors of the worker queue -/
  mqueues : Nat
  /-- open listening sockets -/
  sockets : Nat
  lock : DeviceLock
  /-- the workers in `pthread_mutex_lock` -/
  waiting : List Nat
  /-- a ghost: the array was allocated before the number was stored -/
  early : Bool
  deriving DecidableEq

def start : State := ⟨.stopped, .absent, 0, .null, [], 0, 0, .free, [], false⟩

/-- Not between `pthread_create` and the store of the number. -/
def MainAt.stored : MainAt → Bool
  | .created _ => false
  | _ => true

/-- What `get_bound_socket` returns: a socket, or -1 with a socket left open or
without. -/
inductive Bound where
  | socket
  | failed (leaked : Bool)
  deriving DecidableEq

inductive Label where
  | initListenerLoop (n : Int) (ok : Bool)
  | setNumWorkers
  | allocWorkers (ok : Bool)
  | openQueue (ok : Bool)
  | createWorker (ok : Bool)
  | bindSocket (result : Bound)
  | quitListenerLoop
  | cancelled
  | cancelWorker
  | joinWorker
  | workerAsks (t : Nat)
  | workerLocks (t : Nat)
  | workerDelays (t : Nat)
  | workerUnlocks (t : Nat)
  | workerReturns (t : Nat)
  | workerCancelled (t : Nat)
  | joinListener
  | freeWorkers
  deriving DecidableEq

namespace State
variable (s : State)

/-- The address `&__workers[i]`. -/
def cell (i : Nat) : Except Misuse (Option Nat) :=
  match s.table with
  | .null => .error .nullTable
  | .freed => .error .freedTable
  | .block cells =>
    match cells[i]? with
    | none => .error .outside
    | some c => .ok c

/-- The value `__workers[i]`. -/
def worker (i : Nat) : Except Misuse Nat :=
  (s.cell i).bind fun c =>
    match c with
    | none => .error .unset
    | some t => .ok t

/-- `__workers[i] = t` -/
def setCell (i t : Nat) : Table :=
  match s.table with
  | .block cells => .block (cells.set i (some t))
  | p => p

/-- `pthread_create`; the process exits if there is none.
mirrors src/listener.c:41-49 -/
def initListenerLoop (n : Int) (ok : Bool) : Option State :=
  match s.main with
  | .stopped =>
    if ok then some { s with main := .created n, listener := .starting }
    else some { s with main := .exited }
  | _ => none

/-- mirrors src/listener.c:51-58 -/
def setNumWorkers : Option State :=
  match s.main with
  | .created n =>
    some { s with
      main := .running, numWorkers := if n > MAX_WORKER_THREADS then MAX_WORKER_THREADS else n }
  | _ => none

/-- For a negative number the size is larger than any block.
mirrors src/listener.c:91-96 -/
def allocWorkers (ok : Bool) : Option State :=
  match s.listener with
  | .starting =>
    if ok ∧ 0 ≤ s.numWorkers then
      some { s with
        table := .block (List.replicate s.numWorkers.toNat none)
        listener := .opening
        early := !s.main.stored }
    else some { s with table := .null, listener := .ended }
  | _ => none

/-- mirrors src/listener.c:98-106 -/
def openQueue (ok : Bool) : Option State :=
  match s.listener with
  | .opening =>
    if ok then some { s with mqueues := s.mqueues + 1, listener := .creating 0 }
    else some { s with listener := .ended }
  | _ => none

/-- One turn of the loop. mirrors src/listener.c:109-115 -/
def createWorker (ok : Bool) : Option (Except Misuse State) :=
  match s.listener with
  | .creating i =>
    if (i : Int) < s.numWorkers then
      some ((s.cell i).map fun _ =>
        if ok then
          { s with
            table := s.setCell i s.threads.length
            threads := s.threads ++ [.running]
            listener := .creating (i + 1) }
        else { s with listener := .ended })
    else some (.ok { s with listener := .binding })
  | _ => none

/-- mirrors src/listener.c:122-126,319-363 -/
def bindSocket (result : Bound) : Option State :=
  match s.listener, result with
  | .binding, .socket => some { s with sockets := s.sockets + 1, listener := .listening }
  | .binding, .failed leaked =>
    some { s with sockets := s.sockets + leaked.toNat, listener := .ended }
  | _, _ => none

/-- `pthread_cancel`, and on to `pthread_join`. mirrors src/listener.c:61-66 -/
def quitListenerLoop : Option State :=
  match s.main with
  | .running => some { s with main := .joining }
  | _ => none

/-- The listener acts on the cancellation. -/
def cancelled : Option State :=
  match s.main, s.listener with
  | .joining, .listening => some { s with listener := .cancelling 0 }
  | .joining, .binding => some { s with listener := .ended }
  | _, _ => none

/-- The test of the cleanup loop and `pthread_cancel`; behind the loop the
socket and the queue are closed. mirrors src/listener.c:162-183 -/
def cancelWorker : Option (Except Misuse State) :=
  match s.listener with
  | .cancelling i =>
    if (i : Int) < s.numWorkers then
      some ((s.worker i).bind fun t =>
        match s.threads[t]? with
        | some .running =>
          .ok { s with threads := s.threads.set t .cancelled, listener := .joining i }
        | some .cancelled | some .ended => .ok { s with listener := .joining i }
        | _ => .error .joinedThread)
    else
      some (.ok { s with sockets := s.sockets - 1, mqueues := s.mqueues - 1, listener := .ended })
  | _ => none

/-- `pthread_join` waits for the end of the thread. mirrors src/listener.c:169 -/
def joinWorker : Option (Except Misuse State) :=
  match s.listener with
  | .joining i =>
    match s.worker i with
    | .error e => some (.error e)
    | .ok t =>
      match s.threads[t]? with
      | some .ended =>
        some (.ok { s with threads := s.threads.set t .joined, listener := .cancelling (i + 1) })
      | some .running | some .cancelled => none
      | _ => some (.error .joinedThread)
  | _ => none

/-- The worker has not ended. -/
def Alive (t : Nat) : Prop := s.threads[t]? = some .running ∨ s.threads[t]? = some .cancelled

instance decidableAlive (t : Nat) : Decidable (s.Alive t) := inferInstanceAs (Decidable (_ ∨ _))

/-- The worker is neither in `pthread_mutex_lock` nor behind it. -/
def Idle (t : Nat) : Prop := t ∉ s.waiting ∧ s.lock ≠ .held t false ∧ s.lock ≠ .held t true

instance decidableIdle (t : Nat) : Decidable (s.Idle t) := inferInstanceAs (Decidable (_ ∧ _))

/-- A worker that handles `current` calls `pthread_mutex_lock`.
mirrors src/device.c:70, src/listener.c:557 -/
def workerAsks (t : Nat) : Option State :=
  if s.Alive t ∧ s.Idle t then some { s with waiting := t :: s.waiting } else none

/-- `pthread_mutex_lock` returns. -/
def workerLocks (t : Nat) : Option State :=
  if t ∈ s.waiting ∧ s.lock = .free then
    some { s with lock := .held t false, waiting := s.waiting.erase t }
  else none

/-- The delay is a cancellation point: only a worker without a cancellation
gets behind it. mirrors devices/dht11.c:28 -/
def workerDelays (t : Nat) : Option State :=
  if s.lock = .held t false ∧ s.threads[t]? = some .running then
    some { s with lock := .held t true }
  else none

/-- mirrors src/device.c:73 -/
def workerUnlocks (t : Nat) : Option State :=
  if s.lock = .held t true then some { s with lock := .free } else none

/-- A failed `mq_receive` ends a worker. mirrors src/listener.c:192-193,316 -/
def workerReturns (t : Nat) : Option State :=
  if s.Alive t ∧ s.Idle t then some { s with threads := s.threads.set t .ended } else none

/-- A worker acts on its cancellation; the lock stays as it is. -/
def workerCancelled (t : Nat) : Option State :=
  if s.threads[t]? = some .cancelled ∧ t ∉ s.waiting ∧ s.lock ≠ .held t true then
    some { s with threads := s.threads.set t .ended }
  else none

/-- mirrors src/listener.c:67 -/
def joinListener : Option State :=
  match s.main, s.listener with
  | .joining, .ended => some { s with main := .freeing, listener := .absent }
  | _, _ => none

/-- mirrors src/listener.c:74 -/
def freeWorkers : Option (Except Misuse State) :=
  match s.main, s.table with
  | .freeing, .freed => some (.error .doubleFree)
  | .freeing, .null => some (.ok { s with main := .stopped })
  | .freeing, .block _ => some (.ok { s with main := .stopped, table := .freed })
  | _, _ => none

def step : Label → Option (Except Misuse State)
  | .initListenerLoop n ok => (s.initListenerLoop n ok).map .ok
  | .setNumWorkers => s.setNumWorkers.map .ok
  | .allocWorkers ok => (s.allocWorkers ok).map .ok
  | .openQueue ok => (s.openQueue ok).map .ok
  | .createWorker ok => s.createWorker ok
  | .bindSocket result => (s.bindSocket result).map .ok
  | .quitListenerLoop => s.quitListenerLoop.map .ok
  | .cancelled => s.cancelled.map .ok
  | .cancelWorker => s.cancelWorker
  | .joinWorker => s.joinWorker
  | .workerAsks t => (s.workerAsks t).map .ok
  | .workerLocks t => (s.workerLocks t).map .ok
  | .workerDelays t => (s.workerDelays t).map .ok
  | .workerUnlocks t => (s.workerUnlocks t).map .ok
  | .workerReturns t => (s.workerReturns t).map .ok
  | .workerCancelled t => (s.workerCancelled t).map .ok
  | .joinListener => s.joinListener.map .ok
  | .freeWorkers => s.freeWorkers

end State

/-- A step that misuses something is not taken. -/
def State.next (s : State) (l : Label) : Option State := (s.step l).bind Except.toOption

def rounds : LTS State Label := .ofFn (· = start) State.next

/-! ## What a step can do -/

/-- The steps, by thread. -/
inductive State.Takes (s : State) : Label → State → Prop
  | init {n : Int} (hm : s.main = .stopped) :
      Takes s (.initListenerLoop n true) { s with main := .created n, listener := .starting }
  | exit {n : Int} (hm : s.main = .stopped) :
      Takes s (.initListenerLoop n false) { s with main := .exited }
  | store {n : Int} (hm : s.main = .created n) :
      Takes s .setNumWorkers
        { s with main := .running, numWorkers := min n MAX_WORKER_THREADS }
  | alloc {ok : Bool} (hl : s.listener = .starting) (hn : 0 ≤ s.numWorkers) :
      Takes s (.allocWorkers ok) { s with
        table := .block (List.replicate s.numWorkers.toNat none)
        listener := .opening
        early := !s.main.stored }
  | noMemory {ok : Bool} (hl : s.listener = .starting) :
      Takes s (.allocWorkers ok) { s with table := .null, listener := .ended }
  | opened (hl : s.listener = .opening) :
      Takes s (.openQueue true) { s with mqueues := s.mqueues + 1, listener := .creating 0 }
  | notOpened (hl : s.listener = .opening) : Takes s (.openQueue false) { s with listener := .ended }
  | worker {i : Nat} {cells : List (Option Nat)} (hl : s.listener = .creating i)
      (hi : (i : Int) < s.numWorkers) (ht : s.table = .block cells) (hc : i < cells.length) :
      Takes s (.createWorker true) { s with
        table := .block (cells.set i (some s.threads.length))
        threads := s.threads ++ [.running], listener := .creating (i + 1) }
  | noWorker {i : Nat} (hl : s.listener = .creating i) :
      Takes s (.createWorker false) { s with listener := .ended }
  | created {ok : Bool} {i : Nat} (hl : s.listener = .creating i) (hi : s.numWorkers ≤ i) :
      Takes s (.createWorker ok) { s with listener := .binding }
  | bound (hl : s.listener = .binding) :
      Takes s (.bindSocket .socket) { s with sockets := s.sockets + 1, listener := .listening }
  | notBound {leaked : Bool} (hl : s.listener = .binding) :
      Takes s (.bindSocket (.failed leaked))
        { s with sockets := s.sockets + leaked.toNat, listener := .ended }
  | quit (hm : s.main = .running) : Takes s .quitListenerLoop { s with main := .joining }
  | cleanup (hm : s.main = .joining) (hl : s.listener = .listening) :
      Takes s .cancelled { s with listener := .cancelling 0 }
  | noCleanup (hm : s.main = .joining) (hl : s.listener = .binding) :
      Takes s .cancelled { s with listener := .ended }
  | cancel {i t : Nat} (hl : s.listener = .cancelling i) (hi : (i : Int) < s.numWorkers)
      (hw : s.worker i = .ok t) (hrunning : s.threads[t]? = some .running) :
      Takes s .cancelWorker
        { s with threads := s.threads.set t .cancelled, listener := .joining i }
  | cancelAgain {i t : Nat} (hl : s.listener = .cancelling i) (hi : (i : Int) < s.numWorkers)
      (hw : s.worker i = .ok t) (hend : s.threads[t]? = some .cancelled ∨ s.threads[t]? = some .ended) :
      Takes s .cancelWorker { s with listener := .joining i }
  | close {i : Nat} (hl : s.listener = .cancelling i) (hi : s.numWorkers ≤ i) :
      Takes s .cancelWorker
        { s with sockets := s.sockets - 1, mqueues := s.mqueues - 1, listener := .ended }
  | join {i t : Nat} (hl : s.listener = .joining i) (hw : s.worker i = .ok t)
      (hend : s.threads[t]? = some .ended) :
      Takes s .joinWorker
        { s with threads := s.threads.set t .joined, listener := .cancelling (i + 1) }
  | asks {t : Nat} (hw : s.Alive t) (hidle : s.Idle t) :
      Takes s (.workerAsks t) { s with waiting := t :: s.waiting }
  | locks {t : Nat} (hwaits : t ∈ s.waiting) (hfree : s.lock = .free) :
      Takes s (.workerLocks t) { s with lock := .held t false, waiting := s.waiting.erase t }
  | delays {t : Nat} (hlock : s.lock = .held t false) (hrunning : s.threads[t]? = some .running) :
      Takes s (.workerDelays t) { s with lock := .held t true }
  | unlocks {t : Nat} (hlock : s.lock = .held t true) :
      Takes s (.workerUnlocks t) { s with lock := .free }
  | returns {t : Nat} (hw : s.Alive t) (hidle : s.Idle t) :
      Takes s (.workerReturns t) { s with threads := s.threads.set t .ended }
  | acts {t : Nat} (hw : s.threads[t]? = some .cancelled) (hwaits : t ∉ s.waiting)
      (hlock : s.lock ≠ .held t true) :
      Takes s (.workerCancelled t) { s with threads := s.threads.set t .ended }
  | joinListener (hm : s.main = .joining) (hl : s.listener = .ended) :
      Takes s .joinListener { s with main := .freeing, listener := .absent }
  | freeNull (hm : s.main = .freeing) (ht : s.table = .null) :
      Takes s .freeWorkers { s with main := .stopped }
  | freeBlock {cells : List (Option Nat)} (hm : s.main = .freeing) (ht : s.table = .block cells) :
      Takes s .freeWorkers { s with main := .stopped, table := .freed }

theorem map_ok_some {x : Option State} {r : Except Misuse State} (h : x.map Except.ok = some r) :
    ∃ t, x = some t ∧ r = .ok t := by
  obtain ⟨t, hx, rfl⟩ := Option.map_eq_some_iff.mp h
  exact ⟨t, hx, rfl⟩

theorem clamp_eq (n : Int) :
    (if n > MAX_WORKER_THREADS then MAX_WORKER_THREADS else n) = min n MAX_WORKER_THREADS := by
  split <;> omega

theorem cell_ok {s : State} {i : Nat} {c : Option Nat} (h : s.cell i = .ok c) :
    ∃ cells, s.table = .block cells ∧ cells[i]? = some c := by
  unfold State.cell at h
  split at h
  · cases h
  · cases h
  · rename_i cells ht
    split at h
    · cases h
    · rename_i c' hc
      cases h
      exact ⟨cells, ht, hc⟩

section Takes
variable {s t : State}

theorem takes_initListenerLoop {n : Int} {ok : Bool} (h : s.initListenerLoop n ok = some t) :
    s.Takes (.initListenerLoop n ok) t := by
  unfold State.initListenerLoop at h
  split at h
  · rename_i hm
    cases ok with
    | true =>
      cases h
      exact .init hm
    | false =>
      cases h
      exact .exit hm
  · cases h

theorem takes_setNumWorkers (h : s.setNumWorkers = some t) : s.Takes .setNumWorkers t := by
  unfold State.setNumWorkers at h
  split at h
  · rename_i n hm
    cases h
    rw [clamp_eq]
    exact .store hm
  · cases h

theorem takes_allocWorkers {ok : Bool} (h : s.allocWorkers ok = some t) :
    s.Takes (.allocWorkers ok) t := by
  unfold State.allocWorkers at h
  split at h
  · rename_i hl
    split at h
    · rename_i hn
      cases h
      exact .alloc hl hn.2
    · cases h
      exact .noMemory hl
  · cases h

theorem takes_openQueue {ok : Bool} (h : s.openQueue ok = some t) : s.Takes (.openQueue ok) t := by
  unfold State.openQueue at h
  split at h
  · rename_i hl
    cases ok with
    | true =>
      cases h
      exact .opened hl
    | false =>
      cases h
      exact .notOpened hl
  · cases h

theorem takes_createWorker {ok : Bool} (h : s.createWorker ok = some (.ok t)) :
    s.Takes (.createWorker ok) t := by
  unfold State.createWorker at h
  split at h
  · rename_i i hl
    split at h
    · rename_i hi
      cases hcell : s.cell i with
      | error e =>
        rw [hcell] at h
        cases h
      | ok c =>
        rw [hcell] at h
        obtain ⟨cells, ht, hc⟩ := cell_ok hcell
        cases ok with
        | true =>
          cases h
          rw [State.setCell, ht]
          exact .worker hl hi ht (List.getElem?_eq_some_iff.mp hc).1
        | false =>
          cases h
          exact .noWorker hl
    · rename_i hi
      cases h
      exact .created hl (by omega)
  · cases h

theorem takes_bindSocket {result : Bound} (h : s.bindSocket result = some t) :
    s.Takes (.bindSocket result) t := by
  unfold State.bindSocket at h
  split at h
  · rename_i hl
    cases h
    exact .bound hl
  · rename_i hl
    cases h
    exact .notBound hl
  · cases h

theorem takes_quitListenerLoop (h : s.quitListenerLoop = some t) : s.Takes .quitListenerLoop t := by
  unfold State.quitListenerLoop at h
  split at h
  · rename_i hm
    cases h
    exact .quit hm
  · cases h

theorem takes_cancelled (h : s.cancelled = some t) : s.Takes .cancelled t := by
  unfold State.cancelled at h
  split at h
  · rename_i hm hl
    cases h
    exact .cleanup hm hl
  · rename_i hm hl
    cases h
    exact .noCleanup hm hl
  · cases h

theorem takes_cancelWorker (h : s.cancelWorker = some (.ok t)) : s.Takes .cancelWorker t := by
  unfold State.cancelWorker at h
  split at h
  · rename_i i hl
    split at h
    · rename_i hi
      cases hw : s.worker i with
      | error e =>
        rw [hw] at h
        cases h
      | ok t =>
        rw [hw] at h
        replace h := Option.some.inj h
        dsimp only [Except.bind] at h
        split at h
        · rename_i hrunning
          cases h
          exact .cancel hl hi hw hrunning
        · rename_i hend
          cases h
          exact .cancelAgain hl hi hw (.inl hend)
        · rename_i hend
          cases h
          exact .cancelAgain hl hi hw (.inr hend)
        · cases h
    · rename_i hi
      cases h
      exact .close hl (by omega)
  · cases h

theorem takes_joinWorker (h : s.joinWorker = some (.ok t)) : s.Takes .joinWorker t := by
  unfold State.joinWorker at h
  split at h
  · rename_i i hl
    split at h
    · cases h
    · rename_i t hw
      split at h
      · rename_i hend
        cases h
        exact .join hl hw hend
      · cases h
      · cases h
      · cases h
  · cases h

theorem takes_workerAsks {w : Nat} (h : s.workerAsks w = some t) : s.Takes (.workerAsks w) t := by
  unfold State.workerAsks at h
  split at h
  · rename_i hw
    cases h
    exact .asks hw.1 hw.2
  · cases h

theorem takes_workerLocks {w : Nat} (h : s.workerLocks w = some t) :
    s.Takes (.workerLocks w) t := by
  unfold State.workerLocks at h
  split at h
  · rename_i hw
    cases h
    exact .locks hw.1 hw.2
  · cases h

theorem takes_workerDelays {w : Nat} (h : s.workerDelays w = some t) :
    s.Takes (.workerDelays w) t := by
  unfold State.workerDelays at h
  split at h
  · rename_i hw
    cases h
    exact .delays hw.1 hw.2
  · cases h

theorem takes_workerUnlocks {w : Nat} (h : s.workerUnlocks w = some t) :
    s.Takes (.workerUnlocks w) t := by
  unfold State.workerUnlocks at h
  split at h
  · rename_i hw
    cases h
    exact .unlocks hw
  · cases h

theorem takes_workerReturns {w : Nat} (h : s.workerReturns w = some t) :
    s.Takes (.workerReturns w) t := by
  unfold State.workerReturns at h
  split at h
  · rename_i hw
    cases h
    exact .returns hw.1 hw.2
  · cases h

theorem takes_workerCancelled {w : Nat} (h : s.workerCancelled w = some t) :
    s.Takes (.workerCancelled w) t := by
  unfold State.workerCancelled at h
  split at h
  · rename_i hw
    cases h
    exact .acts hw.1 hw.2.1 hw.2.2
  · cases h

theorem takes_joinListener (h : s.joinListener = some t) : s.Takes .joinListener t := by
  unfold State.joinListener at h
  split at h
  · rename_i hm hl
    cases h
    exact .joinListener hm hl
  · cases h

theorem takes_freeWorkers (h : s.freeWorkers = some (.ok t)) : s.Takes .freeWorkers t := by
  unfold State.freeWorkers at h
  split at h
  · cases h
  · rename_i hm ht
    cases h
    exact .freeNull hm ht
  · rename_i cells hm ht
    cases h
    exact .freeBlock hm ht
  · cases h

theorem takes_of_step {l : Label} (h : s.step l = some (.ok t)) : s.Takes l t := by
  cases l with
  | initListenerLoop n ok =>
    obtain ⟨t, h, ⟨⟩⟩ := map_ok_some h
    exact takes_initListenerLoop h
  | setNumWorkers =>
    obtain ⟨t, h, ⟨⟩⟩ := map_ok_some h
    exact takes_setNumWorkers h
  | allocWorkers ok =>
    obtain ⟨t, h, ⟨⟩⟩ := map_ok_some h
    exact takes_allocWorkers h
  | openQueue ok =>
    obtain ⟨t, h, ⟨⟩⟩ := map_ok_some h
    exact takes_openQueue h
  | createWorker ok => exact takes_createWorker h
  | bindSocket result =>
    obtain ⟨t, h, ⟨⟩⟩ := map_ok_some h
    exact takes_bindSocket h
  | quitListenerLoop =>
    obtain ⟨t, h, ⟨⟩⟩ := map_ok_some h
    exact takes_quitListenerLoop h
  | cancelled =>
    obtain ⟨t, h, ⟨⟩⟩ := map_ok_some h
    exact takes_cancelled h
  | cancelWorker => exact takes_cancelWorker h
  | joinWorker => exact takes_joinWorker h
  | workerAsks t =>
    obtain ⟨t, h, ⟨⟩⟩ := map_ok_some h
    exact takes_workerAsks h
  | workerLocks t =>
    obtain ⟨t, h, ⟨⟩⟩ := map_ok_some h
    exact takes_workerLocks h
  | workerDelays t =>
    obtain ⟨t, h, ⟨⟩⟩ := map_ok_some h
    exact takes_workerDelays h
  | workerUnlocks t =>
    obtain ⟨t, h, ⟨⟩⟩ := map_ok_some h
    exact takes_workerUnlocks h
  | workerReturns t =>
    obtain ⟨t, h, ⟨⟩⟩ := map_ok_some h
    exact takes_workerReturns h
  | workerCancelled t =>
    obtain ⟨t, h, ⟨⟩⟩ := map_ok_some h
    exact takes_workerCancelled h
  | joinListener =>
    obtain ⟨t, h, ⟨⟩⟩ := map_ok_some h
    exact takes_joinListener h
  | freeWorkers => exact takes_freeWorkers h

end Takes

/-! ## The array -/

/-- `k` threads from `b` on, and `r` cells without one. -/
def workerCells (b k r : Nat) : List (Option Nat) :=
  (List.range' b k).map some ++ List.replicate r none

section Cells
variable {b k r i : Nat}

@[simp] theorem workerCells_length : (workerCells b k r).length = k + r := by
  simp [workerCells]

theorem workerCells_lt (h : i < k) : (workerCells b k r)[i]? = some (some (b + i)) := by
  have hi : i < ((List.range' b k).map some).length := by simpa using h
  rw [workerCells, List.getElem?_append_left hi]
  simp [h]

theorem workerCells_set : (workerCells b k (r + 1)).set k (some (b + k)) = workerCells b (k + 1) r := by
  have hlen : ((List.range' b k).map some).length ≤ k := by simp
  rw [workerCells, List.set_append_right _ _ hlen]
  simp [workerCells, List.range'_concat, List.replicate_succ]

end Cells

/-! ## The phases of a round -/

theorem MainAt.stored_iff {m : MainAt} : m.stored = true ↔ ∀ n, m ≠ .created n := by
  cases m <;> simp [stored]

/-- While the listener is there. -/
def MainAt.Active (m : MainAt) : Prop := (∃ n, m = .created n) ∨ m = .running ∨ m = .joining

/-- The array of the round, with the workers from `b` on; the first `i` of them
are joined. It has one cell for each worker unless the number was stored after
it was allocated. If the round is orderly (`o`), the number was stored before,
and all workers of earlier rounds are joined. -/
structure Held (o : Prop) (s : State) (i b k r : Nat) : Prop where
  table : s.table = .block (workerCells b k r)
  threads : s.threads.length = b + k
  fresh : ∀ t, b + i ≤ t → s.threads[t]? ≠ some .joined
  size : (s.early = false ∨ ∃ n, s.main = .created n) → ((k + r : Nat) : Int) = s.numWorkers
  stored : s.early = false → ∀ n, s.main ≠ .created n
  orderly : o → s.early = false
  before : o → ∀ t, t < b + i → s.threads[t]? = some .joined

/-- Behind the loop that creates the workers: the array is full, or the number
is final and there are as many. -/
def Settled (s : State) (k r : Nat) : Prop :=
  r = 0 ∨ s.numWorkers ≤ k ∧ ∀ n, s.main ≠ .created n

def Opened (o : Prop) (s : State) (q c : Nat) : Prop := o → s.mqueues = q ∧ s.sockets = c

/-- Nothing is left of a round. -/
def Gone (o : Prop) (s : State) : Prop :=
  o → (∀ w ∈ s.threads, w = .joined) ∧ s.mqueues = 0 ∧ s.sockets = 0

def Phase (o : Prop) (s : State) : ListenerAt → Prop
  | .absent => Gone o s ∧
      ((s.main = .stopped ∨ s.main = .exited) ∧ (∀ cells, s.table ≠ .block cells) ∨
        s.main = .freeing ∧ s.table ≠ .freed)
  | .starting => Gone o s ∧ s.main.Active ∧ ∀ cells, s.table ≠ .block cells
  | .opening => s.main.Active ∧ (∃ b r, Held o s 0 b 0 r) ∧ Opened o s 0 0
  | .creating i => s.main.Active ∧ (∃ b r, Held o s 0 b i r) ∧ Opened o s 1 0
  | .binding => s.main.Active ∧ (∃ b k r, Held o s 0 b k r ∧ Settled s k r) ∧ Opened o s 1 0
  | .listening => s.main.Active ∧ (∃ b k r, Held o s 0 b k r ∧ Settled s k r) ∧ Opened o s 1 1
  | .cancelling i =>
    s.main = .joining ∧ (∃ b k r, Held o s i b k r ∧ Settled s k r) ∧ Opened o s 1 1
  | .joining i => s.main = .joining ∧ (i : Int) < s.numWorkers ∧
      (∃ b k r, Held o s i b k r ∧ Settled s k r ∧ i < k ∧
        (s.threads[b + i]? = some .cancelled ∨ s.threads[b + i]? = some .ended)) ∧ Opened o s 1 1
  | .ended => Gone o s ∧ s.main.Active ∧ s.table ≠ .freed

structure Inv (o : Prop) (s : State) : Prop where
  number : s.numWorkers ≤ MAX_WORKER_THREADS
  phase : Phase o s s.listener

section Held
variable {o : Prop} {s : State} {i b k r t : Nat}

/-- The main thread goes on; the number changes only if the array was early. -/
theorem Held.move (h : Held o s i b k r) {m : MainAt} (hm : ∀ n, m ≠ .created n) {n : Int}
    (hn : s.early = false → n = s.numWorkers) :
    Held o { s with main := m, numWorkers := n } i b k r where
  table := h.table
  threads := h.threads
  fresh := h.fresh
  size hsize := by
    rcases hsize with he | ⟨n, hcreated⟩
    · rw [h.size (.inl he), hn he]
    · exact absurd hcreated (hm n)
  stored _ := hm
  orderly := h.orderly
  before := h.before

/-- A worker that is not joined goes on. -/
theorem Held.setThread (h : Held o s i b k r) (ht : s.threads[t]? ≠ some .joined) {w : WorkerAt}
    (hw : w ≠ .joined) : Held o { s with threads := s.threads.set t w } i b k r where
  table := h.table
  threads := by rw [List.length_set, h.threads]
  fresh t' ht' := by
    rw [List.getElem?_set]
    split
    · split
      · exact fun he => hw (Option.some.inj he)
      · exact fun he => by cases he
    · exact h.fresh t' ht'
  size := h.size
  stored := h.stored
  orderly := h.orderly
  before ho t' ht' := by
    have hjoined := h.before ho t' ht'
    have hne : t ≠ t' := fun he => ht (he ▸ hjoined)
    rw [List.getElem?_set_ne hne]
    exact hjoined

/-- The next worker is joined. -/
theorem Held.joinThread (h : Held o s i b k r) (hi : i < k) :
    Held o { s with threads := s.threads.set (b + i) .joined } (i + 1) b k r where
  table := h.table
  threads := by rw [List.length_set, h.threads]
  fresh t ht := by
    rw [List.getElem?_set_ne (by omega)]
    exact h.fresh t (by omega)
  size := h.size
  stored := h.stored
  orderly := h.orderly
  before ho t ht := by
    have hlen := h.threads
    rcases Nat.lt_or_ge t (b + i) with hlt | hge
    · rw [List.getElem?_set_ne (by omega)]
      exact h.before ho t hlt
    · have hlast : b + i = t := by omega
      rw [hlast, List.getElem?_set_self (by omega)]

theorem Held.worker_lt (h : Held o s i b k r) {j : Nat} (hj : j < k) : s.worker j = .ok (b + j) := by
  unfold State.worker State.cell
  rw [h.table]
  simp only [workerCells_lt hj]
  rfl

/-- A number that the test of a loop lets through is that of a worker, or it is
behind the array. -/
theorem Held.worker_cases (h : Held o s i b k r) (hs : Settled s k r) {j : Nat}
    (hj : (j : Int) < s.numWorkers) :
    j < k ∨ s.worker j = .error .outside ∧ ((workerCells b k r).length : Int) < s.numWorkers := by
  rcases Nat.lt_or_ge j k with hlt | hge
  · exact .inl hlt
  · rcases hs with rfl | ⟨hnum, -⟩
    · right
      have hnone : (workerCells b k 0)[j]? = none := by
        rw [List.getElem?_eq_none_iff, workerCells_length]
        omega
      constructor
      · unfold State.worker State.cell
        rw [h.table]
        simp only [hnone]
        rfl
      · rw [workerCells_length]
        omega
    · omega

theorem Held.worker_ok (h : Held o s i b k r) (hs : Settled s k r) {j : Nat}
    (hj : (j : Int) < s.numWorkers) (hw : s.worker j = .ok t) : j < k ∧ t = b + j := by
  rcases h.worker_cases hs hj with hlt | ⟨herror, -⟩
  · rw [h.worker_lt hlt] at hw
    cases hw
    exact ⟨hlt, rfl⟩
  · rw [herror] at hw
    cases hw

end Held

/-- A step of a worker, seen from the listener: the threads of the array stay
what they are to it. -/
theorem Phase.lift {o : Prop} {s : State} {p : ListenerAt} (h : Phase o s p)
    {threads : List WorkerAt} {lock : DeviceLock} {waiting : List Nat}
    (hgone : Gone o s → Gone o { s with threads := threads, lock := lock, waiting := waiting })
    (hheld : ∀ {i b k r}, Held o s i b k r →
      Held o { s with threads := threads, lock := lock, waiting := waiting } i b k r)
    (hend : ∀ t : Nat, s.threads[t]? = some .cancelled ∨ s.threads[t]? = some .ended →
      threads[t]? = some .cancelled ∨ threads[t]? = some .ended) :
    Phase o { s with threads := threads, lock := lock, waiting := waiting } p := by
  cases p with
  | absent => exact ⟨hgone h.1, h.2⟩
  | starting => exact ⟨hgone h.1, h.2⟩
  | opening =>
    obtain ⟨hm, ⟨b, r, hh⟩, hopen⟩ := h
    exact ⟨hm, ⟨b, r, hheld hh⟩, hopen⟩
  | creating i =>
    obtain ⟨hm, ⟨b, r, hh⟩, hopen⟩ := h
    exact ⟨hm, ⟨b, r, hheld hh⟩, hopen⟩
  | binding =>
    obtain ⟨hm, ⟨b, k, r, hh, hs⟩, hopen⟩ := h
    exact ⟨hm, ⟨b, k, r, hheld hh, hs⟩, hopen⟩
  | listening =>
    obtain ⟨hm, ⟨b, k, r, hh, hs⟩, hopen⟩ := h
    exact ⟨hm, ⟨b, k, r, hheld hh, hs⟩, hopen⟩
  | cancelling i =>
    obtain ⟨hm, ⟨b, k, r, hh, hs⟩, hopen⟩ := h
    exact ⟨hm, ⟨b, k, r, hheld hh, hs⟩, hopen⟩
  | joining i =>
    obtain ⟨hm, hi, ⟨b, k, r, hh, hs, hk, hw⟩, hopen⟩ := h
    exact ⟨hm, hi, ⟨b, k, r, hheld hh, hs, hk, hend _ hw⟩, hopen⟩
  | ended => exact ⟨hgone h.1, h.2⟩

theorem State.Alive.lt {s : State} {t : Nat} (h : s.Alive t) : t < s.threads.length := by
  rcases h with h | h
  all_goals exact (List.getElem?_eq_some_iff.mp h).1

theorem Phase.setThread {o : Prop} {s : State} {p : ListenerAt} (h : Phase o s p) {t : Nat}
    (ht : s.Alive t) : Phase o { s with threads := s.threads.set t .ended } p := by
  have hne : s.threads[t]? ≠ some .joined := by
    rcases ht with ht | ht <;> rw [ht] <;> decide
  refine h.lift (fun hgone ho => ?_) (fun hheld => hheld.setThread hne (by decide)) fun t' ht' => ?_
  · rcases ht with ht | ht
    all_goals cases (hgone ho).1 _ (List.mem_of_getElem? ht)
  · by_cases he : t = t'
    · subst he
      exact .inr (List.getElem?_set_self ht.lt)
    · rw [List.getElem?_set_ne he]
      exact ht'

/-- The lock of the device plays no part in the phases. -/
theorem Phase.setLock {o : Prop} {s : State} {p : ListenerAt} (h : Phase o s p) (lock : DeviceLock)
    (waiting : List Nat) : Phase o { s with lock := lock, waiting := waiting } p :=
  h.lift id (fun hheld => { hheld with }) fun _ ht => ht

/-- The main thread goes on while the listener is there. -/
theorem Phase.move {o : Prop} {s : State} {p : ListenerAt} (h : Phase o s p)
    (hactive : s.main.Active) {m : MainAt} (hm : m = .running ∨ m = .joining)
    (hjoining : s.main ≠ .joining) {n : Int}
    (hn : (∀ n, s.main ≠ .created n) → n = s.numWorkers) :
    Phase o { s with main := m, numWorkers := n } p := by
  have hnew : ∀ n, m ≠ .created n := by
    intro n he
    rcases hm with hm | hm <;> rw [hm] at he <;> cases he
  have hactive' : m.Active := .inr hm
  have hheld : ∀ {i b k r}, Held o s i b k r →
      Held o { s with main := m, numWorkers := n } i b k r :=
    fun hheld => hheld.move hnew fun he => hn (hheld.stored he)
  have hsettled : ∀ {k r}, Settled s k r →
      Settled { s with main := m, numWorkers := n } k r := by
    rintro k r (hr | ⟨hk, hmain⟩)
    · exact .inl hr
    · exact .inr ⟨(hn hmain).trans_le hk, hnew⟩
  cases p with
  | absent =>
    exfalso
    rcases h.2 with ⟨hm' | hm', -⟩ | ⟨hm', -⟩
    all_goals
      rw [hm'] at hactive
      rcases hactive with ⟨n, he⟩ | he | he <;> cases he
  | starting => exact ⟨h.1, hactive', h.2.2⟩
  | opening =>
    obtain ⟨-, ⟨b, r, hh⟩, hopen⟩ := h
    exact ⟨hactive', ⟨b, r, hheld hh⟩, hopen⟩
  | creating i =>
    obtain ⟨-, ⟨b, r, hh⟩, hopen⟩ := h
    exact ⟨hactive', ⟨b, r, hheld hh⟩, hopen⟩
  | binding =>
    obtain ⟨-, ⟨b, k, r, hh, hs⟩, hopen⟩ := h
    exact ⟨hactive', ⟨b, k, r, hheld hh, hsettled hs⟩, hopen⟩
  | listening =>
    obtain ⟨-, ⟨b, k, r, hh, hs⟩, hopen⟩ := h
    exact ⟨hactive', ⟨b, k, r, hheld hh, hsettled hs⟩, hopen⟩
  | cancelling i => exact absurd h.1 hjoining
  | joining i => exact absurd h.1 hjoining
  | ended => exact ⟨h.1, hactive', h.2.2⟩

/-- What has to come about for a round to be orderly: the number is stored
before it is read, and the listener gets its workers and its socket before it
is cancelled. -/
def State.orderly (s : State) : Label → Bool
  | .allocWorkers _ => s.main.stored
  | .createWorker ok => ok
  | .bindSocket result => result = .socket
  | .cancelled => s.listener ≠ .binding
  | _ => true

def Orderly (s : State) (l : Label) : Prop := s.orderly l = true

instance decidableOrderly (s : State) (l : Label) : Decidable (Orderly s l) :=
  inferInstanceAs (Decidable (_ = _))

section Steps
variable {o : Prop} {s t : State} {l : Label}

theorem not_active {m : MainAt} (hm : m = .stopped ∨ m = .exited ∨ m = .freeing) : ¬ m.Active := by
  intro hactive
  rcases hm with rfl | rfl | rfl
  all_goals rcases hactive with ⟨n, he⟩ | he | he <;> cases he

/-- Without an active main thread there is no listener. -/
theorem Phase.absent {p : ListenerAt} (h : Phase o s p) (hm : ¬ s.main.Active) : p = .absent := by
  cases p with
  | absent => rfl
  | starting => exact absurd h.2.1 hm
  | opening => exact absurd h.1 hm
  | creating i => exact absurd h.1 hm
  | binding => exact absurd h.1 hm
  | listening => exact absurd h.1 hm
  | cancelling i => exact absurd (.inr (.inr h.1)) hm
  | joining i => exact absurd (.inr (.inr h.1)) hm
  | ended => exact absurd h.2.1 hm

/-- All workers of the array are joined. -/
theorem Held.all_joined {i b k r : Nat} (h : Held o s i b k r) (ho : o) (hi : k ≤ i) :
    ∀ w ∈ s.threads, w = .joined := by
  intro w hw
  obtain ⟨t, ht, hget⟩ := List.mem_iff_getElem.mp hw
  have hlen := h.threads
  have hjoined := h.before ho t (by omega)
  rw [List.getElem?_eq_getElem ht, hget] at hjoined
  exact Option.some.inj hjoined

/-- A new array. -/
theorem Gone.alloc (h : Gone o s) (hn : 0 ≤ s.numWorkers) (ho : o → ∀ n, s.main ≠ .created n) :
    Held o { s with
      table := .block (List.replicate s.numWorkers.toNat none)
      listener := .opening
      early := !s.main.stored } 0 s.threads.length 0 s.numWorkers.toNat where
  table := rfl
  threads := rfl
  fresh t ht := by
    rw [List.getElem?_eq_none_iff.mpr ht]
    decide
  size _ := by
    show ((0 + s.numWorkers.toNat : Nat) : Int) = s.numWorkers
    omega
  stored he := MainAt.stored_iff.mp (by simpa using he)
  orderly hord := by
    show (!s.main.stored) = false
    rw [MainAt.stored_iff.mpr (ho hord)]
    rfl
  before hord t ht := by
    have hlt : t < s.threads.length := ht
    rw [List.getElem?_eq_getElem hlt, (h hord).1 _ (List.getElem_mem hlt)]

/-- One more worker. -/
theorem Held.create {i b r : Nat} (h : Held o s 0 b i (r + 1)) :
    Held o { s with
      table := .block ((workerCells b i (r + 1)).set i (some s.threads.length))
      threads := s.threads ++ [.running], listener := .creating (i + 1) } 0 b (i + 1) r where
  table := by rw [h.threads, workerCells_set]
  threads := by
    rw [List.length_append, h.threads]
    rfl
  fresh t ht := by
    rw [List.getElem?_append]
    split
    · exact h.fresh t ht
    · intro he
      cases List.mem_singleton.mp (List.mem_of_getElem? he)
  size hsize := by
    have hold := h.size hsize
    show ((i + 1 + r : Nat) : Int) = s.numWorkers
    omega
  stored := h.stored
  orderly := h.orderly
  before ho t ht := by
    have hlen := h.threads
    rw [List.getElem?_append_left (by omega)]
    exact h.before ho t ht

/-- Behind the last worker. -/
theorem Held.settled {i b r : Nat} (h : Held o s 0 b i r) (hi : s.numWorkers ≤ i) : Settled s i r := by
  by_cases hm : ∃ n, s.main = .created n
  · have hsize := h.size (.inr hm)
    exact .inl (by omega)
  · exact .inr ⟨hi, fun n he => hm ⟨n, he⟩⟩

theorem Held.table_ne_freed {i b k r : Nat} (h : Held o s i b k r) : s.table ≠ .freed := by
  rw [h.table]
  exact fun he => by cases he

theorem Inv.step (h : Inv o s) (ht : s.Takes l t) (ho : o → Orderly s l) : Inv o t := by
  have hp := h.phase
  have hnum := h.number
  cases ht with
  | init hm =>
    rw [hp.absent (not_active (.inl hm))] at hp
    obtain ⟨hgone, ⟨-, htable⟩ | ⟨hfreeing, -⟩⟩ := hp
    · exact ⟨hnum, hgone, .inl ⟨_, rfl⟩, htable⟩
    · rw [hm] at hfreeing
      cases hfreeing
  | exit hm =>
    have hl := hp.absent (not_active (.inl hm))
    rw [hl] at hp
    obtain ⟨hgone, ⟨-, htable⟩ | ⟨hfreeing, -⟩⟩ := hp
    · refine ⟨hnum, ?_⟩
      show Phase o { s with main := .exited } s.listener
      rw [hl]
      exact ⟨hgone, .inl ⟨.inr rfl, htable⟩⟩
    · rw [hm] at hfreeing
      cases hfreeing
  | store hm =>
    refine ⟨min_le_right _ _, hp.move (.inl ⟨_, hm⟩) (.inl rfl) ?_ fun hno => absurd hm (hno _)⟩
    rw [hm]
    exact fun he => by cases he
  | alloc hl hn =>
    rw [hl] at hp
    obtain ⟨hgone, hactive, -⟩ := hp
    have hstored : o → ∀ n, s.main ≠ .created n := fun hord => MainAt.stored_iff.mp (ho hord)
    exact ⟨hnum, hactive, ⟨_, _, hgone.alloc hn hstored⟩, fun hord => (hgone hord).2⟩
  | noMemory hl =>
    rw [hl] at hp
    exact ⟨hnum, hp.1, hp.2.1, fun he => by cases he⟩
  | opened hl =>
    rw [hl] at hp
    obtain ⟨hactive, ⟨b, r, hheld⟩, hopen⟩ := hp
    refine ⟨hnum, hactive, ⟨b, r, { hheld with }⟩, fun hord => ⟨?_, (hopen hord).2⟩⟩
    show s.mqueues + 1 = 1
    rw [(hopen hord).1]
  | notOpened hl =>
    rw [hl] at hp
    obtain ⟨hactive, ⟨b, r, hheld⟩, hopen⟩ := hp
    exact ⟨hnum, fun hord => ⟨hheld.all_joined hord (Nat.le_refl 0), hopen hord⟩, hactive,
      hheld.table_ne_freed⟩
  | @worker i cells hl hi htable hc =>
    rw [hl] at hp
    obtain ⟨hactive, ⟨b, r, hheld⟩, hopen⟩ := hp
    rw [hheld.table] at htable
    cases htable
    rw [workerCells_length] at hc
    obtain ⟨r, rfl⟩ : ∃ r', r = r' + 1 := ⟨r - 1, by omega⟩
    exact ⟨hnum, hactive, ⟨b, r, hheld.create⟩, hopen⟩
  | noWorker hl =>
    rw [hl] at hp
    obtain ⟨hactive, ⟨b, r, hheld⟩, -⟩ := hp
    exact ⟨hnum, fun hord => absurd (ho hord) Bool.false_ne_true, hactive, hheld.table_ne_freed⟩
  | created hl hi =>
    rw [hl] at hp
    obtain ⟨hactive, ⟨b, r, hheld⟩, hopen⟩ := hp
    exact ⟨hnum, hactive, ⟨b, _, r, { hheld with }, hheld.settled hi⟩, hopen⟩
  | bound hl =>
    rw [hl] at hp
    obtain ⟨hactive, ⟨b, k, r, hheld, hs⟩, hopen⟩ := hp
    refine ⟨hnum, hactive, ⟨b, k, r, { hheld with }, hs⟩, fun hord => ⟨(hopen hord).1, ?_⟩⟩
    show s.sockets + 1 = 1
    rw [(hopen hord).2]
  | @notBound leaked hl =>
    rw [hl] at hp
    obtain ⟨hactive, ⟨b, k, r, hheld, -⟩, -⟩ := hp
    refine ⟨hnum, fun hord => ?_, hactive, hheld.table_ne_freed⟩
    have hsocket : decide (Bound.failed leaked = .socket) = true := ho hord
    cases of_decide_eq_true hsocket
  | quit hm =>
    refine ⟨hnum, hp.move (.inr (.inl hm)) (.inr rfl) ?_ fun _ => rfl⟩
    rw [hm]
    exact fun he => by cases he
  | cleanup hm hl =>
    rw [hl] at hp
    obtain ⟨-, ⟨b, k, r, hheld, hs⟩, hopen⟩ := hp
    exact ⟨hnum, hm, ⟨b, k, r, { hheld with }, hs⟩, hopen⟩
  | noCleanup hm hl =>
    rw [hl] at hp
    obtain ⟨hactive, ⟨b, k, r, hheld, -⟩, -⟩ := hp
    exact ⟨hnum, fun hord => absurd hl (of_decide_eq_true (ho hord)), hactive, hheld.table_ne_freed⟩
  | @cancel i t hl hi hw hrunning =>
    rw [hl] at hp
    obtain ⟨hm, ⟨b, k, r, hheld, hs⟩, hopen⟩ := hp
    obtain ⟨hk, rfl⟩ := hheld.worker_ok hs hi hw
    have hne : s.threads[b + i]? ≠ some .joined := by
      rw [hrunning]
      decide
    have hlen := hheld.threads
    refine ⟨hnum, hm, hi, ⟨b, k, r, { hheld.setThread hne (w := .cancelled) (by decide) with }, hs,
      hk, .inl ?_⟩, hopen⟩
    exact List.getElem?_set_self (by omega)
  | cancelAgain hl hi hw hend =>
    rw [hl] at hp
    obtain ⟨hm, ⟨b, k, r, hheld, hs⟩, hopen⟩ := hp
    obtain ⟨hk, rfl⟩ := hheld.worker_ok hs hi hw
    exact ⟨hnum, hm, hi, ⟨b, k, r, { hheld with }, hs, hk, hend⟩, hopen⟩
  | close hl hi =>
    rw [hl] at hp
    obtain ⟨hm, ⟨b, k, r, hheld, hs⟩, hopen⟩ := hp
    refine ⟨hnum, fun hord => ?_, .inr (.inr hm), hheld.table_ne_freed⟩
    have hsize := hheld.size (.inl (hheld.orderly hord))
    refine ⟨hheld.all_joined hord (by omega), ?_, ?_⟩
    · show s.mqueues - 1 = 0
      rw [(hopen hord).1]
    · show s.sockets - 1 = 0
      rw [(hopen hord).2]
  | join hl hw hend =>
    rw [hl] at hp
    obtain ⟨hm, hi, ⟨b, k, r, hheld, hs, hk, -⟩, hopen⟩ := hp
    obtain ⟨-, rfl⟩ := hheld.worker_ok hs hi hw
    exact ⟨hnum, hm, ⟨b, k, r, { hheld.joinThread hk with }, hs⟩, hopen⟩
  | asks hw hidle => exact ⟨hnum, hp.setLock _ _⟩
  | locks hwaits hfree => exact ⟨hnum, hp.setLock _ _⟩
  | delays hlock hrunning => exact ⟨hnum, hp.setLock _ _⟩
  | unlocks hlock => exact ⟨hnum, hp.setLock _ _⟩
  | returns hw hidle => exact ⟨hnum, hp.setThread hw⟩
  | acts hw hwaits hlock => exact ⟨hnum, hp.setThread (.inr hw)⟩
  | joinListener hm hl =>
    rw [hl] at hp
    exact ⟨hnum, hp.1, .inr ⟨rfl, hp.2.2⟩⟩
  | freeNull hm htable =>
    have hl := hp.absent (not_active (.inr (.inr hm)))
    rw [hl] at hp
    refine ⟨hnum, ?_⟩
    show Phase o { s with main := .stopped } s.listener
    rw [hl]
    refine ⟨hp.1, .inl ⟨.inl rfl, fun cells he => ?_⟩⟩
    rw [htable] at he
    cases he
  | freeBlock hm htable =>
    have hl := hp.absent (not_active (.inr (.inr hm)))
    rw [hl] at hp
    refine ⟨hnum, ?_⟩
    show Phase o { s with main := .stopped, table := .freed } s.listener
    rw [hl]
    exact ⟨hp.1, .inl ⟨.inl rfl, fun cells he => by cases he⟩⟩

end Steps

theorem inv_start (o : Prop) : Inv o start := by
  refine ⟨by decide, fun _ => ⟨fun w hw => (by cases hw), rfl, rfl⟩, .inl ⟨.inl rfl, ?_⟩⟩
  exact fun cells he => by cases he

theorem takes_of_next {s t : State} {l : Label} (h : s.next l = some t) : s.Takes l t := by
  obtain ⟨r, hstep, hr⟩ := Option.bind_eq_some_iff.mp h
  cases r with
  | error e => cases hr
  | ok t' =>
    cases hr
    exact takes_of_step hstep

theorem inv_reachable {s : State} (h : rounds.Reachable s) : Inv False s := by
  have hind : rounds.Inductive (Inv False) :=
    ⟨fun s hs => hs ▸ inv_start False, fun s l t hs ht => hs.step (takes_of_next ht) False.elim⟩
  exact hind.reachable h

theorem orderly_inductive : (rounds.guard Orderly).Inductive (Inv True) where
  init _ hs := hs ▸ inv_start True
  step _ _ _ hs ht := hs.step (takes_of_next ht.1) fun _ => ht.2

/-! ## What goes wrong -/

theorem cell_error {s : State} {o : Prop} {i b k r j : Nat} (h : Held o s i b k r) {f : Misuse}
    (hf : s.cell j = .error f) : f = .outside ∧ (workerCells b k r).length ≤ j := by
  unfold State.cell at hf
  rw [h.table] at hf
  split at hf
  · rename_i he
    cases he
  · rename_i he
    cases he
  · rename_i cells he
    cases he
    split at hf
    · rename_i hnone
      cases hf
      exact ⟨rfl, List.getElem?_eq_none_iff.mp hnone⟩
    · cases hf

/-- A thread in the array can be cancelled and joined. -/
theorem Held.thread_some {o : Prop} {s : State} {i b k r : Nat} (h : Held o s i b k r) (hi : i < k) :
    ∃ w, s.threads[b + i]? = some w ∧ w ≠ .joined := by
  have hlen := h.threads
  have hlt : b + i < s.threads.length := by omega
  refine ⟨s.threads[b + i], List.getElem?_eq_getElem hlt, fun he => ?_⟩
  apply h.fresh (b + i) (Nat.le_refl _)
  rw [List.getElem?_eq_getElem hlt, he]

section Faults
variable {o : Prop} {s : State} {f : Misuse}

/-- The array was early, and is shorter than the number of workers is now; not
in an orderly round. -/
def Short (o : Prop) (s : State) : Prop :=
  ¬ o ∧ s.early = true ∧ ∃ cells, s.table = .block cells ∧ (cells.length : Int) < s.numWorkers

theorem Held.short {i b k r : Nat} (h : Held o s i b k r)
    (hlt : ((workerCells b k r).length : Int) < s.numWorkers) : Short o s := by
  have hearly : s.early ≠ false := by
    intro he
    rw [workerCells_length, h.size (.inl he)] at hlt
    omega
  exact ⟨fun ho => hearly (h.orderly ho), Bool.eq_true_of_not_eq_false hearly, _, h.table, hlt⟩

theorem Inv.createWorker_fault (h : Inv o s) {ok : Bool}
    (hf : s.createWorker ok = some (.error f)) : f = .outside ∧ Short o s := by
  have hp := h.phase
  unfold State.createWorker at hf
  split at hf
  · rename_i i hl
    rw [hl] at hp
    obtain ⟨-, ⟨b, r, hheld⟩, -⟩ := hp
    split at hf
    · rename_i hi
      cases hcell : s.cell i with
      | error e =>
        rw [hcell] at hf
        cases hf
        obtain ⟨rfl, hlen⟩ := cell_error hheld hcell
        exact ⟨rfl, hheld.short (by omega)⟩
      | ok c =>
        rw [hcell] at hf
        cases hf
    · cases hf
  · cases hf

theorem Inv.cancelWorker_fault (h : Inv o s) (hf : s.cancelWorker = some (.error f)) :
    f = .outside ∧ Short o s := by
  have hp := h.phase
  unfold State.cancelWorker at hf
  split at hf
  · rename_i i hl
    rw [hl] at hp
    obtain ⟨-, ⟨b, k, r, hheld, hs⟩, -⟩ := hp
    split at hf
    · rename_i hi
      rcases hheld.worker_cases hs hi with hk | ⟨herror, hlen⟩
      · obtain ⟨w, hw, hne⟩ := hheld.thread_some hk
        rw [hheld.worker_lt hk] at hf
        simp only [Except.bind, hw] at hf
        cases w with
        | joined => exact absurd rfl hne
        | _ => cases hf
      · rw [herror] at hf
        cases hf
        exact ⟨rfl, hheld.short hlen⟩
    · cases hf
  · cases hf

/-- The thread that is joined was cancelled just before. -/
theorem Inv.joinWorker_ok (h : Inv o s) : s.joinWorker ≠ some (.error f) := by
  intro hf
  have hp := h.phase
  unfold State.joinWorker at hf
  split at hf
  · rename_i i hl
    rw [hl] at hp
    obtain ⟨-, -, ⟨b, k, r, hheld, -, hk, hw⟩, -⟩ := hp
    rw [hheld.worker_lt hk] at hf
    rcases hw with hw | hw
    all_goals
      simp only [hw] at hf
      cases hf
  · cases hf

/-- The array that is freed is the one of this round. -/
theorem Inv.freeWorkers_ok (h : Inv o s) : s.freeWorkers ≠ some (.error f) := by
  intro hf
  have hp := h.phase
  unfold State.freeWorkers at hf
  split at hf
  · rename_i hm htable
    rw [hp.absent (not_active (.inr (.inr hm)))] at hp
    rcases hp.2 with ⟨hm', -⟩ | ⟨-, hne⟩
    · simp [hm] at hm'
    · exact absurd htable hne
  · cases hf
  · cases hf
  · cases hf

theorem Inv.fault (h : Inv o s) {l : Label} (hf : s.step l = some (.error f)) :
    f = .outside ∧ Short o s := by
  cases l with
  | createWorker ok => exact h.createWorker_fault hf
  | cancelWorker => exact h.cancelWorker_fault hf
  | joinWorker => exact absurd hf h.joinWorker_ok
  | freeWorkers => exact absurd hf h.freeWorkers_ok
  | _ =>
    obtain ⟨t, -, he⟩ := map_ok_some hf
    cases he

end Faults

/-- **Only the race goes wrong.** In no order of the threads' steps is an array
freed twice or used when it is not there, an empty cell read or a thread joined
twice; what can happen is an access behind an array that was allocated before
the number of workers was stored and is shorter than this number. -/
theorem only_race_faults {s : State} (h : rounds.Reachable s) {l : Label} {f : Misuse}
    (hf : s.step l = some (.error f)) :
    f = .outside ∧ s.early = true ∧
      ∃ cells, s.table = .block cells ∧ (cells.length : Int) < s.numWorkers := by
  obtain ⟨hout, -, hshort⟩ := (inv_reachable h).fault hf
  exact ⟨hout, hshort⟩

/-- The listener reads the number before it is stored. -/
def hasty : List Label :=
  [.initListenerLoop 2 true, .allocWorkers true, .openQueue true, .setNumWorkers]

/-- Then its first worker is written behind the array. -/
theorem hasty_faults : ∃ s f, rounds.Reachable s ∧ s.step (.createWorker true) = some (.error f) ∧
    f = .outside ∧ s.early = true ∧
      ∃ cells, s.table = .block cells ∧ (cells.length : Int) < s.numWorkers := by
  have hrun : LTS.runFn State.next start hasty =
      some ⟨.running, .creating 0, 2, .block [], [], 1, 0, .free, [], true⟩ := by decide
  have hreach : rounds.Reachable ⟨.running, .creating 0, 2, .block [], [], 1, 0, .free, [], true⟩ :=
    LTS.runFn_reachable rfl hrun
  have hfault : State.step ⟨.running, .creating 0, 2, .block [], [], 1, 0, .free, [], true⟩
      (.createWorker true) = some (.error .outside) := rfl
  exact ⟨_, .outside, hreach, hfault, only_race_faults hreach hfault⟩

/-! ## Orderly rounds -/

/-- The workers that are not joined. -/
theorem Held.count {s : State} {i b k r : Nat} (h : Held True s i b k r) :
    s.threads.countP (· ≠ .joined) = k - i := by
  have hlen := h.threads
  rw [← List.take_append_drop (b + i) s.threads, List.countP_append]
  have hold : (s.threads.take (b + i)).countP (· ≠ .joined) = 0 := by
    rw [List.countP_eq_zero]
    intro w hw
    obtain ⟨t, ht, hget⟩ := List.mem_take_iff_getElem.mp hw
    have hjoined := h.before trivial t (by omega)
    rw [List.getElem?_eq_getElem (by omega), hget] at hjoined
    simp [Option.some.inj hjoined]
  have hnew : (s.threads.drop (b + i)).countP (· ≠ .joined) = (s.threads.drop (b + i)).length := by
    rw [List.countP_eq_length]
    intro w hw
    obtain ⟨t, ht, hget⟩ := List.mem_drop_iff_getElem.mp hw
    have hfresh := h.fresh (b + i + t) (Nat.le_add_right _ _)
    rw [List.getElem?_eq_getElem (by omega), hget] at hfresh
    simpa using fun he : w = .joined => hfresh (congrArg some he)
  rw [hold, hnew, List.length_drop]
  omega

theorem Gone.count {s : State} (h : Gone True s) : s.threads.countP (· ≠ .joined) = 0 := by
  rw [List.countP_eq_zero]
  intro w hw
  simp [(h trivial).1 w hw]

/-- There is an array, or nothing of the round is there any more or yet. -/
theorem Phase.gone_or_held {o : Prop} {s : State} {p : ListenerAt} (h : Phase o s p) :
    Gone o s ∨ ∃ i b k r, Held o s i b k r := by
  cases p with
  | absent => exact .inl h.1
  | starting => exact .inl h.1
  | opening =>
    obtain ⟨-, ⟨b, r, hheld⟩, -⟩ := h
    exact .inr ⟨0, b, 0, r, hheld⟩
  | creating i =>
    obtain ⟨-, ⟨b, r, hheld⟩, -⟩ := h
    exact .inr ⟨0, b, i, r, hheld⟩
  | binding =>
    obtain ⟨-, ⟨b, k, r, hheld, -⟩, -⟩ := h
    exact .inr ⟨0, b, k, r, hheld⟩
  | listening =>
    obtain ⟨-, ⟨b, k, r, hheld, -⟩, -⟩ := h
    exact .inr ⟨0, b, k, r, hheld⟩
  | cancelling i =>
    obtain ⟨-, ⟨b, k, r, hheld, -⟩, -⟩ := h
    exact .inr ⟨i, b, k, r, hheld⟩
  | joining i =>
    obtain ⟨-, -, ⟨b, k, r, hheld, -⟩, -⟩ := h
    exact .inr ⟨i, b, k, r, hheld⟩
  | ended => exact .inl h.1

/-- Never more workers than the number says. -/
theorem Inv.count_le {s : State} (h : Inv True s) :
    s.threads.countP (· ≠ .joined) ≤ MAX_WORKER_THREADS.toNat := by
  have hnum := h.number
  rcases h.phase.gone_or_held with hgone | ⟨i, b, k, r, hheld⟩
  · rw [hgone.count]
    exact Nat.zero_le _
  · have hsize := hheld.size (.inl (hheld.orderly trivial))
    rw [hheld.count]
    omega

/-- **Orderly rounds.** Nothing is misused; at most `MAX_WORKER_THREADS`
workers are there at a time, and while the listener listens as many as the
number says; and when `quit_listener_loop` has returned, every worker ever
created is joined, and no queue, socket or array is left. -/
theorem orderly_rounds {s : State} (h : (rounds.guard Orderly).Reachable s) :
    (∀ l f, s.step l ≠ some (.error f)) ∧
      s.threads.countP (· ≠ .joined) ≤ MAX_WORKER_THREADS.toNat ∧
      (s.listener = .listening → (s.threads.countP (· ≠ .joined) : Int) = s.numWorkers) ∧
      (s.main = .stopped → (∀ w ∈ s.threads, w = .joined) ∧ s.mqueues = 0 ∧ s.sockets = 0 ∧
        ∀ cells, s.table ≠ .block cells) := by
  have hinv := orderly_inductive.reachable h
  have hp := hinv.phase
  refine ⟨fun l f hf => (hinv.fault hf).2.1 trivial, hinv.count_le, fun hl => ?_, fun hm => ?_⟩
  · rw [hl] at hp
    obtain ⟨-, ⟨b, k, r, hheld, hs⟩, -⟩ := hp
    have hsize := hheld.size (.inl (hheld.orderly trivial))
    rw [hheld.count]
    rcases hs with rfl | ⟨hk, -⟩
    · omega
    · omega
  · rw [hp.absent (not_active (.inl hm))] at hp
    obtain ⟨hgone, ⟨-, htable⟩ | ⟨hfreeing, -⟩⟩ := hp
    · obtain ⟨hjoined, hqueues, hsockets⟩ := hgone trivial
      exact ⟨hjoined, hqueues, hsockets, htable⟩
    · rw [hm] at hfreeing
      cases hfreeing

/-- One round with one worker. -/
def oneRound : List Label :=
  [.initListenerLoop 1 true, .setNumWorkers, .allocWorkers true, .openQueue true,
    .createWorker true, .createWorker true, .bindSocket .socket, .quitListenerLoop, .cancelled,
    .cancelWorker, .workerCancelled 0, .joinWorker, .cancelWorker, .joinListener, .freeWorkers]

theorem oneRound_orderly : (rounds.guard Orderly).Run start oneRound
    ⟨.stopped, .absent, 1, .freed, [.joined], 0, 0, .free, [], false⟩ := by
  apply LTS.runFn_checked
  decide

theorem one_round_clean : ∃ s, (rounds.guard Orderly).Reachable s ∧ s.main = .stopped ∧
    s.threads = [.joined] ∧
    (∀ l f, s.step l ≠ some (.error f)) ∧
      s.threads.countP (· ≠ .joined) ≤ MAX_WORKER_THREADS.toNat ∧
      (s.listener = .listening → (s.threads.countP (· ≠ .joined) : Int) = s.numWorkers) ∧
      (s.main = .stopped → (∀ w ∈ s.threads, w = .joined) ∧ s.mqueues = 0 ∧ s.sockets = 0 ∧
        ∀ cells, s.table ≠ .block cells) := by
  have hreach : (rounds.guard Orderly).Reachable
      ⟨.stopped, .absent, 1, .freed, [.joined], 0, 0, .free, [], false⟩ :=
    ⟨start, oneRound, rfl, oneRound_orderly⟩
  exact ⟨_, hreach, rfl, rfl, orderly_rounds hreach⟩

end Lifecycle
end Rpiweatherd
