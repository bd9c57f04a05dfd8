import Rpiweatherd.L4System.Routing

/-!
# What one step of the daemon does

`Sys.Takes` lists the operations of the threads with what each needs and what
it changes, one constructor for each; `Sys.step_takes` says that every step is
one of them. An invariant of the daemon is then a case analysis over `Takes`,
and never unfolds the step function.

A database thread that has an answer sends it to the workers: `Inv` says that
the message names no other queue.
-/
namespace Rpiweatherd

/-- One operation of one thread. -/
inductive Sys.Takes (s : Sys) : Label → Sys → Prop
  | accept (fd : Nat) (stack : RpiwdMqmsg) (hl : s.listener = .accepting)
      (hfree : (fd : Int) ∉ s.fds.map Prod.fst) :
      Takes s (.accept fd stack) { s with
        listener := .sending (newMessage stack fd)
        fds := ((fd : Int), s.nextConn) :: s.fds
        nextConn := s.nextConn + 1
        hist := Function.update s.hist s.nextConn [.accepted (newMessage stack fd)] }
  | listenerSend {m : RpiwdMqmsg} (hl : s.listener = .sending m) :
      Takes s .listenerSend { s with listener := .accepting, workerQ := s.workerQ ++ [m] }
  | workerReceive {i : Nat} {w : Worker} {m : RpiwdMqmsg} {q : List RpiwdMqmsg}
      (hw : s.workers[i]? = some w) (hpc : w.pc = .receiving) (hq : s.workerQ = m :: q) :
      Takes s (.workerReceive i) (Sys.setWorker { s with workerQ := q } i { w with pc := .got m })
  | workerRound {i : Nat} {env : Env} {rd : ReadResult} {w : Worker} {m : RpiwdMqmsg}
      {out : Outcome} {l : Locals} (hw : s.workers[i]? = some w) (hpc : w.pc = .got m)
      (hround : Rpiweatherd.workerRound env w.locals m rd = .ok (out, l)) :
      Takes s (.workerRound i env rd) ((s.setWorker i ⟨pcOf m out, l⟩).recordRead m env rd)
  | workerWrite {i : Nat} {w : Worker} {m : RpiwdMqmsg} {r : Reply}
      (hw : s.workers[i]? = some w) (hpc : w.pc = .replying m r) :
      Takes s (.workerWrite i)
        ((s.setWorker i { w with pc := .closing m }).record m.sockfd (.wrote r))
  | workerClose {i : Nat} {w : Worker} {m : RpiwdMqmsg} (hw : s.workers[i]? = some w)
      (hpc : w.pc = .closing m) :
      Takes s (.workerClose i)
        { (s.setWorker i { w with pc := .receiving }).record m.sockfd .closed with
          fds := Ledger.drop s.fds m.sockfd }
  | sendToWorker {i : Nat} {w : Worker} {m : RpiwdMqmsg} (hw : s.workers[i]? = some w)
      (hpc : w.pc = .sending .worker m) :
      Takes s (.workerSend i)
        { s.setWorker i { w with pc := .receiving } with workerQ := s.workerQ ++ [m] }
  | sendToDb {i : Nat} {w : Worker} {m : RpiwdMqmsg} (hw : s.workers[i]? = some w)
      (hpc : w.pc = .sending .db m) (hroom : s.dbQ.length < MQ_MAXMESSAGES) :
      Takes s (.workerSend i)
        { s.setWorker i { w with pc := .receiving } with dbQ := s.dbQ ++ [m] }
  | dbReceive {m : RpiwdMqmsg} {q : List RpiwdMqmsg} (hdb : s.db = .receiving)
      (hq : s.dbQ = m :: q) : Takes s .dbReceive { s with db := .got m, dbQ := q }
  | dbAnswer {db : Db} {m m' : RpiwdMqmsg} (hdb : s.db = .got m)
      (hround : dbProcess db m = .ok (some m')) :
      Takes s (.dbRound db) (Sys.record { s with db := .sending m' } m.sockfd (.processed db))
  | dbStore {db : Db} {m : RpiwdMqmsg} (hdb : s.db = .got m)
      (hround : dbProcess db m = .ok none) : Takes s (.dbRound db) { s with db := .receiving }
  | dbSend {m : RpiwdMqmsg} (hdb : s.db = .sending m) :
      Takes s .dbSend { s with db := .receiving, workerQ := s.workerQ ++ [m] }
  | measure (stack : RpiwdMqmsg) (e : Entry) (hsensor : s.sensor = .measuring) :
      Takes s (.measure stack e) { s with sensor := .sending (writeEntryMessage stack e) }
  | sensorSend {m : RpiwdMqmsg} (hsensor : s.sensor = .sending m)
      (hroom : s.dbQ.length < MQ_MAXMESSAGES) :
      Takes s .sensorSend { s with sensor := .measuring, dbQ := s.dbQ ++ [m] }

namespace Sys
variable {s s' : Sys} {lab : Label}

theorem push_worker {m : RpiwdMqmsg} (h : s.push .worker m = some s') :
    s' = { s with workerQ := s.workerQ ++ [m] } := by
  unfold push at h
  split at h
  · cases h
  · exact (Option.some.inj h).symm

theorem push_db {m : RpiwdMqmsg} (h : s.push .db m = some s') :
    s.dbQ.length < MQ_MAXMESSAGES ∧ s' = { s with dbQ := s.dbQ ++ [m] } := by
  unfold push at h
  split at h
  · cases h
  · rename_i hroom
    exact ⟨Nat.lt_of_not_le hroom, (Option.some.inj h).symm⟩

theorem takes_worker {i : Nat} {w : Worker} (hw : s.workers[i]? = some w)
    (hlab : lab.worker = some i) (h : s.stepWorker i w lab = some s') : s.Takes lab s' := by
  cases lab with
  | workerReceive j =>
    cases hlab
    simp only [stepWorker] at h
    split at h
    · rename_i m q hpc hq
      cases h
      exact .workerReceive hw hpc hq
    · cases h
  | workerRound j env rd =>
    cases hlab
    simp only [stepWorker] at h
    split at h
    · rename_i m hpc
      split at h
      · rename_i out l hround
        cases h
        exact .workerRound hw hpc hround
      · cases h
    · cases h
  | workerWrite j =>
    cases hlab
    simp only [stepWorker] at h
    split at h
    · rename_i m r hpc
      cases h
      exact .workerWrite hw hpc
    · cases h
  | workerClose j =>
    cases hlab
    simp only [stepWorker] at h
    split at h
    · rename_i m hpc
      cases h
      exact .workerClose hw hpc
    · cases h
  | workerSend j =>
    cases hlab
    simp only [stepWorker] at h
    split at h
    · rename_i q m hpc
      cases q with
      | worker =>
        obtain rfl := push_worker h
        exact .sendToWorker hw hpc
      | db =>
        obtain ⟨hroom, rfl⟩ := push_db h
        exact .sendToDb hw hpc hroom
    · cases h
  | _ => cases hlab

/-- The answer of the database thread goes to the workers. -/
theorem receiverMq_of_sending {g : Prop} {m : RpiwdMqmsg} (hinv : Inv g s)
    (hdb : s.db = .sending m) : m.receiverMq = .worker := by
  have hmem : (⟨.done, m⟩ : Token) ∈ s.tokens := by simp [tokens, hdb, DbPc.tokens]
  obtain ⟨-, hq, -⟩ := hinv.fits hmem
  exact hq

/-- **One step.** Whatever the daemon does from a state it can reach is one of
the operations. -/
theorem step_takes {g : Prop} (hinv : Inv g s) (h : s.step lab = some s') : s.Takes lab s' := by
  unfold step at h
  split at h
  · rename_i i hi
    obtain ⟨w, hw, h⟩ := Option.bind_eq_some_iff.mp h
    exact takes_worker hw hi h
  · cases lab with
    | accept fd stack =>
      simp only [Sys.accept] at h
      split at h
      · rename_i hl
        split at h
        · cases h
        · rename_i hfree
          cases h
          exact .accept fd stack hl hfree
      · cases h
    | listenerSend =>
      simp only [Sys.listenerSend] at h
      split at h
      · rename_i m hl
        obtain rfl := push_worker h
        exact .listenerSend hl
      · cases h
    | dbReceive =>
      simp only [Sys.dbReceive] at h
      split at h
      · rename_i m q hdb hq
        cases h
        exact .dbReceive hdb hq
      · cases h
    | dbRound db =>
      simp only [Sys.dbRound] at h
      split at h
      · rename_i m hdb
        split at h
        · rename_i m' hround
          cases h
          exact .dbAnswer hdb hround
        · rename_i hround
          cases h
          exact .dbStore hdb hround
        · cases h
      · cases h
    | dbSend =>
      simp only [Sys.dbSend] at h
      split at h
      · rename_i m hdb
        rw [receiverMq_of_sending hinv hdb] at h
        obtain rfl := push_worker h
        exact .dbSend hdb
      · cases h
    | measure stack e =>
      simp only [Sys.measure] at h
      split at h
      · rename_i hsensor
        cases h
        exact .measure stack e hsensor
      · cases h
    | sensorSend =>
      simp only [Sys.sensorSend] at h
      split at h
      · rename_i m hsensor
        obtain ⟨hroom, rfl⟩ := push_db h
        exact .sensorSend hsensor hroom
      · cases h
    | _ => cases h

/-- What the recording of a read leaves alone. -/
theorem recordRead_eq (s : Sys) (m : RpiwdMqmsg) (env : Env) (rd : ReadResult) :
    s.recordRead m env rd = { s with hist := (s.recordRead m env rd).hist } := by
  unfold recordRead
  split <;> rfl

end Sys
end Rpiweatherd
