import Rpiweatherd.FifoServer
import Rpiweatherd.L3Database.Tables
import Rpiweatherd.L4System.Steps

/-!
# The database behind its queue

In `Machine.lean` every query meets some database. Here the database is the
one the daemon writes: a round of the database thread answers from the tables
and then changes them, and what SQLite makes of the statements of the round is
its `DbFate`. The sensor and all the workers send to the same queue.

`queued`, `owners`, `rounds`, `answers` and `measured` are ghosts: all the
messages ever put into the queue and the connections they belonged to, the
rounds on them, the answers, and the entries the sensor loop has made.

* `storeInv_reachable`: the tables and all the answers are those of a database
  that is used by one client, which makes its calls in the order of the queue,
  whatever the threads do in between.
* `measurements_stored`: while inserts go through, the table holds all the
  entries ever measured, once each and in order, but for the last few.
-/
namespace Rpiweatherd

/-! ## One round -/

/-- What SQLite makes of the statements of one round, and when. -/
structure DbFate where
  queryOk : Bool
  insertOk : Bool
  updateOk : Bool
  now : Int
  utcoff : Int
  deriving DecidableEq, Repr

/-- A database that refuses to prepare a statement. -/
def Db.refusing : Db := ⟨fun _ => 0, fun _ => none, fun _ => none⟩

/-- What the queries of the round see. -/
def DbFate.db (dt : SqliteDatetime) (f : DbFate) (t : Tables) : Db :=
  if f.queryOk then t.db dt f.utcoff else .refusing

def DbFate.step (f : DbFate) (m : RpiwdMqmsg) : DbStep := ⟨m, f.insertOk, f.updateOk, f.now⟩

/-- The answer of a database thread with these tables to one message. -/
def answerFrom (dt : SqliteDatetime) (t : Tables) (m : RpiwdMqmsg) (f : DbFate) :
    Option RpiwdMqmsg :=
  match dbProcess (f.db dt t) m with
  | .ok o => o
  | .error _ => none

/-- The database as one client would use it. -/
def tablesObject (dt : SqliteDatetime) : Object RpiwdMqmsg DbFate Tables RpiwdMqmsg where
  apply t m f := dbTables dt t (f.step m)
  answer t m f := answerFrom dt t m f

/-! ## The daemon with its tables -/

structure Store where
  sys : Sys
  tables : Tables
  queued : List RpiwdMqmsg
  owners : List (Option Nat)
  rounds : List (RpiwdMqmsg × DbFate)
  answers : List (Nat × RpiwdMqmsg)
  measured : List Entry

inductive StoreLabel where
  | thread (lab : Label)
  | dbRound (f : DbFate)

/-- The entry of the sensor loop that a step makes. -/
def Label.measured : Label → List Entry
  | .measure _ e => [e]
  | _ => []

/-- What the database thread has worked out. -/
def DbPc.answer : DbPc → Option RpiwdMqmsg
  | .sending m => some m
  | _ => none

def DbPc.held : DbPc → Option RpiwdMqmsg
  | .got m => some m
  | _ => none

/-- The connection a message belongs to. -/
def Sys.owner (s : Sys) (m : RpiwdMqmsg) : Option Nat := s.fds.lookup m.sockfd

/-- Behind a step of a thread, with what it put into the queue. -/
def Store.moved (t : Store) (measured : List Entry) (s : Sys) : Store :=
  { t with
    sys := s
    queued := t.queued ++ s.dbQ.drop t.sys.dbQ.length
    owners := t.owners ++ (s.dbQ.drop t.sys.dbQ.length).map t.sys.owner
    measured := t.measured ++ measured }

/-- Behind a round of the database on `m`. -/
def Store.served (dt : SqliteDatetime) (t : Store) (m : RpiwdMqmsg) (f : DbFate) (s : Sys) :
    Store :=
  { t with
    sys := s
    tables := dbTables dt t.tables (f.step m)
    rounds := t.rounds ++ [(m, f)]
    answers := t.answers ++ s.db.answer.toList.map fun a => (t.rounds.length, a) }

def Store.step (dt : SqliteDatetime) (t : Store) : StoreLabel → Option Store
  | .thread (.dbRound _) => none
  | .thread lab => (t.sys.step lab).map (t.moved lab.measured)
  | .dbRound f => t.sys.db.held.bind fun m =>
      (t.sys.step (.dbRound (f.db dt t.tables))).map (t.served dt m f)

def Store.start (W : Nat) (init : Tables) : Store := ⟨Sys.start W, init, [], [], [], [], []⟩

/-- The daemon with `W` workers on a database file with these tables. -/
def storeDaemon (dt : SqliteDatetime) (W : Nat) (init : Tables) : LTS Store StoreLabel :=
  LTS.ofFn (· = Store.start W init) (Store.step dt)

/-- The tables behind the first `i` rounds. -/
def Store.tablesAt (dt : SqliteDatetime) (init : Tables) (t : Store) (i : Nat) : Tables :=
  (tablesObject dt).after init (t.rounds.take i)

theorem Store.step_thread {dt : SqliteDatetime} {t t' : Store} {lab : Label}
    (hs : t.step dt (.thread lab) = some t') :
    (∀ db, lab ≠ .dbRound db) ∧ ∃ s, t.sys.step lab = some s ∧ t' = t.moved lab.measured s := by
  have hnot : ∀ db, lab ≠ .dbRound db := by
    rintro db rfl
    cases hs
  have hstep : (t.sys.step lab).map (t.moved lab.measured) = some t' := by
    cases lab with
    | dbRound db => exact absurd rfl (hnot db)
    | _ => exact hs
  obtain ⟨s, hsys, rfl⟩ := Option.map_eq_some_iff.mp hstep
  exact ⟨hnot, s, hsys, rfl⟩

theorem Store.step_dbRound {dt : SqliteDatetime} {t t' : Store} {f : DbFate}
    (hs : t.step dt (.dbRound f) = some t') :
    ∃ m s, t.sys.db.held = some m ∧ t.sys.step (.dbRound (f.db dt t.tables)) = some s ∧
      t' = t.served dt m f s := by
  obtain ⟨m, hm, hs⟩ := Option.bind_eq_some_iff.mp hs
  obtain ⟨s, hsys, rfl⟩ := Option.map_eq_some_iff.mp hs
  exact ⟨m, s, hm, hsys, rfl⟩

/-- The database thread and its queue. -/
def Store.server (t : Store) : Server RpiwdMqmsg DbFate Tables RpiwdMqmsg :=
  ⟨t.queued, t.rounds, t.sys.db.held, t.sys.dbQ, t.tables, t.answers⟩

/-! ## Entries -/

/-- The entry a message writes. -/
def writtenEntry (m : RpiwdMqmsg) : Option Entry :=
  match m.mtype, m.data with
  | .writeEntry, some (.entry e) => some e
  | _, _ => none

theorem writtenEntry_client {m : RpiwdMqmsg} (h : ForDb m) : writtenEntry m = none := by
  unfold writtenEntry
  rcases h with h | h <;> rw [h]

def SensorPc.pending : SensorPc → List Entry
  | .measuring => []
  | .sending m => (writtenEntry m).toList

/-! ## The invariant -/

structure StoreInv (dt : SqliteDatetime) (init : Tables) (t : Store) : Prop where
  inv : Inv False t.sys
  serial : Serial (tablesObject dt) init t.server
  measured : t.measured = t.queued.filterMap writtenEntry ++ t.sys.sensor.pending
  room : t.sys.dbQ.length ≤ MQ_MAXMESSAGES

theorem storeInv_start (dt : SqliteDatetime) (W : Nat) (init : Tables) :
    StoreInv dt init (Store.start W init) :=
  ⟨Inv.start False W, Serial.start _ init, rfl, Nat.zero_le _⟩

/-- A worker sends the database what is for it. -/
theorem forDb_of_sending {g : Prop} {s : Sys} (hinv : Inv g s) {i : Nat} {w : Worker}
    {m : RpiwdMqmsg} (hw : s.workers[i]? = some w) (hpc : w.pc = .sending .db m) : ForDb m := by
  obtain ⟨rest, hperm, -⟩ := tokens_worker hw
  rw [hpc] at hperm
  have hmem : (⟨.atDb, m⟩ : Token) ∈ s.tokens := hperm.symm.subset (List.mem_cons_self ..)
  obtain ⟨-, -, m₀, env, inc, -, hfor, -⟩ := hinv.fits hmem
  exact hfor

section Steps
variable {dt : SqliteDatetime} {init : Tables} {t : Store}

/-- A step that leaves the database thread and its queue alone. -/
theorem StoreInv.elsewhere (h : StoreInv dt init t) {s : Sys} (hinv : Inv False s)
    (hdb : s.db.held = t.sys.db.held) (hq : s.dbQ = t.sys.dbQ) {es : List Entry}
    (hes : t.sys.sensor.pending ++ es = s.sensor.pending) : StoreInv dt init (t.moved es s) := by
  have hdrop : s.dbQ.drop t.sys.dbQ.length = [] := by rw [hq, List.drop_length]
  refine ⟨hinv, ?_, ?_, hq ▸ h.room⟩
  · have hserial := h.serial
    simp only [Store.server, Store.moved] at hserial ⊢
    rw [hdrop, List.append_nil, hdb, hq]
    exact hserial
  · simp only [Store.moved]
    rw [hdrop, List.append_nil, h.measured, List.append_assoc, hes]

/-- A message is put into the queue. -/
theorem StoreInv.enqueue (h : StoreInv dt init t) {s : Sys} (hinv : Inv False s)
    (hdb : s.db.held = t.sys.db.held) {m : RpiwdMqmsg} (hq : s.dbQ = t.sys.dbQ ++ [m])
    (hroom : t.sys.dbQ.length < MQ_MAXMESSAGES)
    (hm : t.sys.sensor.pending = (writtenEntry m).toList ++ s.sensor.pending) :
    StoreInv dt init (t.moved [] s) := by
  have hdrop : s.dbQ.drop t.sys.dbQ.length = [m] := by rw [hq, List.drop_left]
  refine ⟨hinv, ?_, ?_, ?_⟩
  · have hserial := h.serial.enqueue m
    simp only [Store.server, Store.moved] at hserial ⊢
    rw [hdrop, hdb, hq]
    exact hserial
  · simp only [Store.moved]
    rw [hdrop, List.append_nil, h.measured, hm, List.filterMap_append, List.append_assoc]
    cases hw : writtenEntry m <;> simp [hw]
  · show s.dbQ.length ≤ MQ_MAXMESSAGES
    rw [hq, List.length_append, List.length_singleton]
    exact hroom

/-- The threads besides the rounds of the database. -/
theorem StoreInv.thread (h : StoreInv dt init t) {lab : Label} {s : Sys}
    (hlab : ∀ db, lab ≠ .dbRound db) (hs : t.sys.step lab = some s) :
    StoreInv dt init (t.moved lab.measured s) := by
  have hinv := inv_step h.inv False.elim hs
  cases Sys.step_takes h.inv hs with
  | accept fd stack hl hfree => exact h.elsewhere hinv rfl rfl (List.append_nil _)
  | listenerSend hl => exact h.elsewhere hinv rfl rfl (List.append_nil _)
  | workerReceive hw hpc hq => exact h.elsewhere hinv rfl rfl (List.append_nil _)
  | @workerRound i env rd w m out l hw hpc hround =>
    rw [Sys.recordRead_eq] at hinv ⊢
    exact h.elsewhere hinv rfl rfl (List.append_nil _)
  | workerWrite hw hpc => exact h.elsewhere hinv rfl rfl (List.append_nil _)
  | workerClose hw hpc => exact h.elsewhere hinv rfl rfl (List.append_nil _)
  | sendToWorker hw hpc => exact h.elsewhere hinv rfl rfl (List.append_nil _)
  | @sendToDb i w m hw hpc hroom =>
    refine h.enqueue hinv rfl rfl hroom ?_
    rw [writtenEntry_client (forDb_of_sending h.inv hw hpc)]
    rfl
  | @dbReceive m q hdb hq =>
    have hdrop : q.drop t.sys.dbQ.length = [] := by
      rw [hq]
      exact List.drop_eq_nil_of_le (Nat.le_succ _)
    have hserial := h.serial.receive (by simp [Store.server, hdb, DbPc.held]) hq
    have hroom := h.room
    rw [hq, List.length_cons] at hroom
    refine ⟨hinv, ?_, ?_, Nat.le_of_succ_le hroom⟩
    · simp only [Store.server, Store.moved, hdrop, List.append_nil] at hserial ⊢
      exact hserial
    · simp only [Store.moved, hdrop, List.append_nil, Label.measured]
      exact h.measured
  | dbAnswer hdb hround => exact absurd rfl (hlab _)
  | dbStore hdb hround => exact absurd rfl (hlab _)
  | @dbSend m hdb => exact h.elsewhere hinv (by rw [hdb]; rfl) rfl (List.append_nil _)
  | measure stack e hsensor =>
    refine h.elsewhere hinv rfl rfl ?_
    rw [hsensor]
    rfl
  | @sensorSend m hsensor hroom =>
    refine h.enqueue hinv rfl rfl hroom ?_
    rw [hsensor]
    exact (List.append_nil _).symm

/-- A round of the database thread is one call of the object. -/
theorem StoreInv.round (h : StoreInv dt init t) {m : RpiwdMqmsg} (hm : t.sys.db.held = some m)
    {f : DbFate} {s : Sys} (hs : t.sys.step (.dbRound (f.db dt t.tables)) = some s) :
    StoreInv dt init (t.served dt m f s) := by
  have hinv := inv_step h.inv False.elim hs
  have hserial := h.serial.serve hm f
  cases Sys.step_takes h.inv hs with
  | @dbAnswer db m₁ m' hdb hround =>
    rw [hdb] at hm
    cases hm
    have hanswer : (tablesObject dt).answer t.tables m f = some m' := by
      simp only [tablesObject, answerFrom, hround]
    simp only [Store.server, hanswer] at hserial
    exact ⟨hinv, hserial, h.measured, h.room⟩
  | @dbStore db m₁ hdb hround =>
    rw [hdb] at hm
    cases hm
    have hanswer : (tablesObject dt).answer t.tables m f = none := by
      simp only [tablesObject, answerFrom, hround]
    simp only [Store.server, hanswer] at hserial
    exact ⟨hinv, hserial, h.measured, h.room⟩

theorem storeInv_step {t' : Store} (h : StoreInv dt init t) {lab : StoreLabel}
    (hs : t.step dt lab = some t') : StoreInv dt init t' := by
  cases lab with
  | thread l =>
    obtain ⟨hl, s, hsys, rfl⟩ := Store.step_thread hs
    exact h.thread hl hsys
  | dbRound f =>
    obtain ⟨m, s, hm, hsys, rfl⟩ := Store.step_dbRound hs
    exact h.round hm hsys

end Steps

theorem storeInv_reachable {dt : SqliteDatetime} {W : Nat} {init : Tables} {t : Store}
    (h : (storeDaemon dt W init).Reachable t) : StoreInv dt init t := by
  have hind : (storeDaemon dt W init).Inductive (StoreInv dt init) := by
    constructor
    · rintro t rfl
      exact storeInv_start dt W init
    · intro t lab t' ht hs
      exact storeInv_step ht hs
  exact hind.reachable h

/-! ## What the table holds -/

/-- The row of an entry; the id and the date are SQLite's. -/
def RowOf (e : Entry) (r : Row) : Prop :=
  r.temperature = e.temperature ∧ r.humidity = e.humidity ∧ e.location = some r.location ∧
    e.deviceName = some r.deviceName

/-- `t'` has the rows of `t`, and behind them those of the entries, with the
next ids. -/
def RowsAdded (t t' : Tables) (es : List Entry) : Prop :=
  ∃ rows, t'.data = t.data ++ rows ∧ List.Forall₂ RowOf es rows ∧
    t'.lastId = t.lastId + rows.length ∧
    rows.map (·.id) = (List.range rows.length).map fun k : Nat => t.lastId + 1 + k

theorem stored_nil {t t' : Tables} (hdata : t'.data = t.data) (hid : t'.lastId = t.lastId) :
    RowsAdded t t' [] := ⟨[], by simp [hdata], .nil, by simp [hid], rfl⟩

/-- One more row. -/
theorem RowsAdded.snoc {t t' t'' : Tables} {es : List Entry} (h : RowsAdded t t' es) {e : Entry} {r : Row}
    (hdata : t''.data = t'.data ++ [r]) (hlast : t''.lastId = t'.lastId + 1)
    (hid : r.id = t'.lastId + 1) (hr : RowOf e r) : RowsAdded t t'' (es ++ [e]) := by
  obtain ⟨rows, hrows, hforall, hcount, hids⟩ := h
  refine ⟨rows ++ [r], ?_, ?_, ?_, ?_⟩
  · rw [hdata, hrows, List.append_assoc]
  · exact List.rel_append hforall (.cons hr .nil)
  · rw [hlast, hcount, List.length_append, List.length_singleton]
    push_cast
    ring
  · rw [List.map_append, hids, List.length_append, List.length_singleton, List.range_succ,
      List.map_append, List.map_singleton, List.map_singleton, hid, hcount]
    congr 2
    ring

theorem RowsAdded.same {t t' t'' : Tables} {es : List Entry} (h : RowsAdded t t' es)
    (hdata : t''.data = t'.data) (hlast : t''.lastId = t'.lastId) : RowsAdded t t'' es := by
  obtain ⟨rows, hrows, hforall, hcount, hids⟩ := h
  exact ⟨rows, hdata.trans hrows, hforall, hlast.trans hcount, hids⟩

/-- The entry whose insert takes effect in a round. -/
def storedEntry (r : RpiwdMqmsg × DbFate) : Option Entry :=
  (writtenEntry r.1).filter fun e => (r.2.step r.1).inserts e

theorem increaseStat_lastId (ok : Bool) (st : Stat) (t : Tables) :
    (increaseStat ok st t).lastId = t.lastId := by
  cases ok <;> cases st <;> rfl

/-- One round stores its entry, if it has one and the insert takes effect. -/
theorem RowsAdded.round {dt : SqliteDatetime} {t t' : Tables} {es : List Entry} (h : RowsAdded t t' es)
    (m : RpiwdMqmsg) (f : DbFate) :
    RowsAdded t (dbTables dt t' (f.step m)) (es ++ (storedEntry (m, f)).toList) := by
  unfold dbTables
  split
  · rename_i e hm hd
    have hwritten : writtenEntry m = some e := by
      simp only [DbFate.step] at hm hd
      simp only [writtenEntry, hm, hd]
    simp only [storedEntry, hwritten, Option.filter_some]
    by_cases hins : (f.step m).inserts e = true
    · rw [if_pos hins]
      simp only [DbStep.inserts, Bool.and_eq_true, Option.isSome_iff_exists] at hins
      obtain ⟨⟨hok, location, hl⟩, device, hdev⟩ := hins
      have hwrite : (writeRawEntry dt (f.step m).insertOk (f.step m).now e t').1 =
          { t' with
            data := t'.data ++
              [⟨t'.lastId + 1, dt.now (f.step m).now, e.temperature, e.humidity, location, device⟩]
            lastId := t'.lastId + 1 } := by
        simp only [writeRawEntry, hok, hl, hdev]
      refine h.snoc (r := ⟨t'.lastId + 1, dt.now (f.step m).now, e.temperature, e.humidity,
        location, device⟩) ?_ ?_ rfl ⟨rfl, rfl, hl, hdev⟩
      · rw [increaseStat_data, hwrite]
      · rw [increaseStat_lastId, hwrite]
    · rw [if_neg hins, Option.toList_none, List.append_nil]
      have hwrite : (writeRawEntry dt (f.step m).insertOk (f.step m).now e t').1 = t' := by
        unfold writeRawEntry
        split
        · rename_i location device hok hl hdev
          exact absurd (by simp [DbStep.inserts, hok, hl, hdev]) hins
        · rfl
      exact h.same (by rw [increaseStat_data, hwrite]) (by rw [increaseStat_lastId, hwrite])
  · rename_i hm
    have hnone : storedEntry (m, f) = none := by
      have hw : writtenEntry m = none := writtenEntry_client (.inl hm)
      simp [storedEntry, hw]
    rw [hnone, Option.toList_none, List.append_nil]
    exact h.same (increaseStat_data ..) (increaseStat_lastId ..)
  · rename_i hm
    have hnone : storedEntry (m, f) = none := by
      have hw : writtenEntry m = none := writtenEntry_client (.inr hm)
      simp [storedEntry, hw]
    rw [hnone, Option.toList_none, List.append_nil]
    exact h.same (increaseStat_data ..) (increaseStat_lastId ..)
  · rename_i hno
    have hnone : storedEntry (m, f) = none := by
      have hw : writtenEntry m = none := by
        unfold writtenEntry
        split
        · rename_i e hm hd
          exact absurd hd (hno e hm)
        · rfl
      simp [storedEntry, hw]
    rw [hnone, Option.toList_none, List.append_nil]
    exact h.same rfl rfl

/-- All the rounds. -/
theorem stored_after (dt : SqliteDatetime) (init : Tables) (rounds : List (RpiwdMqmsg × DbFate)) :
    RowsAdded init ((tablesObject dt).after init rounds) (rounds.filterMap storedEntry) := by
  induction rounds using List.reverseRecOn with
  | nil => exact stored_nil rfl rfl
  | append_singleton rounds r ih =>
    rw [Object.after_append, List.filterMap_append]
    have hone : [r].filterMap storedEntry = (storedEntry r).toList := by
      cases hr : storedEntry r <;> simp [hr]
    rw [hone]
    exact ih.round r.1 r.2

/-- **No measurement is lost, doubled or reordered.** While inserts go through,
the table holds, behind the rows it started with, one row for each entry the
sensor loop has made, in that order and with consecutive ids; what is missing
are at most the entries in the queue, one on either side of it. -/
theorem measurements_stored {dt : SqliteDatetime} {W : Nat} {init : Tables} {t : Store}
    (h : (storeDaemon dt W init).Reachable t) (hok : ∀ r ∈ t.rounds, r.2.insertOk = true)
    (htexts : ∀ e ∈ t.measured, e.location.isSome = true ∧ e.deviceName.isSome = true) :
    ∃ stored waiting, t.measured = stored ++ waiting ∧ waiting.length ≤ MQ_MAXMESSAGES + 2 ∧
      RowsAdded init t.tables stored := by
  have hinv := storeInv_reachable h
  have horder : t.queued = t.rounds.map Prod.fst ++ (t.sys.db.held.toList ++ t.sys.dbQ) :=
    hinv.serial.order
  have hmeasured := hinv.measured
  rw [horder, List.filterMap_append, List.append_assoc] at hmeasured
  refine ⟨_, _, hmeasured, ?_, ?_⟩
  · have hroom := hinv.room
    have hheld : t.sys.db.held.toList.length ≤ 1 := Option.length_toList_le
    have hqueue := List.length_filterMap_le writtenEntry (t.sys.db.held.toList ++ t.sys.dbQ)
    have hsensor : t.sys.sensor.pending.length ≤ 1 := by
      cases t.sys.sensor with
      | measuring => exact Nat.zero_le 1
      | sending m => exact Option.length_toList_le
    rw [List.length_append] at hqueue ⊢
    omega
  · have hall : ∀ r ∈ t.rounds, storedEntry r = writtenEntry r.1 := by
      intro r hr
      cases hw : writtenEntry r.1 with
      | none => simp [storedEntry, hw]
      | some e =>
        have hmem : e ∈ t.measured := by
          rw [hmeasured]
          refine List.mem_append_left _ (List.mem_filterMap.mpr ⟨r.1, List.mem_map_of_mem hr, hw⟩)
        obtain ⟨hl, hd⟩ := htexts e hmem
        have hins : (r.2.step r.1).inserts e = true := by
          simp [DbStep.inserts, DbFate.step, hok r hr, hl, hd]
        simp [storedEntry, hw, hins]
    have hstate : t.tables = (tablesObject dt).after init t.rounds := hinv.serial.state
    have hsame : t.rounds.filterMap storedEntry = (t.rounds.map Prod.fst).filterMap writtenEntry := by
      rw [List.filterMap_map]
      exact List.filterMap_congr hall
    rw [hstate, ← hsame]
    exact stored_after dt init t.rounds

def emptyTables : Tables := ⟨[], 0, 0, 0⟩

def cellarEntry : Entry := ⟨0, none, 21, 40, some (ascii "cellar"), some (ascii "dht11")⟩

/-- Every statement of the round goes through, at the epoch. -/
def luckyFate : DbFate := ⟨true, true, true, 0, 0⟩

/-- One measurement, up to its row. -/
def storeOne : List StoreLabel :=
  [.thread (.measure default cellarEntry), .thread .sensorSend, .thread .dbReceive,
    .dbRound luckyFate]

/-- The first measurement is stored. -/
theorem cellar_stored : ∃ t, (storeDaemon gregorian 1 emptyTables).Reachable t ∧
    t.measured = [cellarEntry] ∧ ∃ stored waiting, [cellarEntry] = stored ++ waiting ∧
      waiting.length ≤ MQ_MAXMESSAGES + 2 ∧ RowsAdded emptyTables t.tables stored := by
  have hrun : (LTS.runFn (Store.step gregorian) (Store.start 1 emptyTables) storeOne).map
      (fun t => (t.measured, t.rounds.map Prod.snd)) = some ([cellarEntry], [luckyFate]) := rfl
  obtain ⟨t, ht, heq⟩ := Option.map_eq_some_iff.mp hrun
  obtain ⟨hmeasured, hrounds⟩ := Prod.mk.inj heq
  have hreach : (storeDaemon gregorian 1 emptyTables).Reachable t := LTS.runFn_reachable rfl ht
  have hok : ∀ r ∈ t.rounds, r.2.insertOk = true := by
    intro r hr
    have hmem : r.2 ∈ t.rounds.map Prod.snd := List.mem_map_of_mem hr
    rw [hrounds, List.mem_singleton] at hmem
    rw [hmem]
    rfl
  have htexts : ∀ e ∈ t.measured, e.location.isSome = true ∧ e.deviceName.isSome = true := by
    rw [hmeasured]
    exact List.forall_mem_singleton.mpr ⟨rfl, rfl⟩
  refine ⟨t, hreach, hmeasured, ?_⟩
  have hstored := measurements_stored hreach hok htexts
  rw [hmeasured] at hstored
  exact hstored

end Rpiweatherd
