import Rpiweatherd.L3Database.Tables
import Rpiweatherd.L4System.Machine

/-!
# The database thread through reloads and shutdown

On SIGHUP and SIGTERM the main thread calls `quit_dbhandler`: it cancels the
database thread and waits for it. Cancellation is deferred, and the thread
acts on it at its next `mq_receive`, where its cleanup routine closes and
unlinks the queue with everything in it. A reload then opens a new queue and
starts a new thread.

A message gets a ticket when the queue accepts it; `accepted` and `written`
note which entries came in and which rows were inserted for them. The three
are ghosts. `init_dbhandler` and `mq_receive` are taken to succeed.
-/
namespace Rpiweatherd

/-- A message of the queue. -/
structure Ticketed where
  ticket : Nat
  msg : RpiwdMqmsg

/-- The entry a write message carries. -/
def Ticketed.write (m : Ticketed) : Option Entry :=
  match m.msg.mtype, m.msg.data with
  | .writeEntry, some (.entry e) => some e
  | _, _ => none

theorem Ticketed.write_eq_some {m : Ticketed} {e : Entry} :
    m.write = some e ↔ m.msg.mtype = .writeEntry ∧ m.msg.data = some (.entry e) := by
  unfold Ticketed.write
  split
  · rename_i e' hm hd
    simp [hm, hd]
  · rename_i hno
    exact iff_of_false (by simp) fun h => hno e h.1 h.2

/-- Where the database thread is: at `mq_receive`, behind it, or cancelled. -/
inductive DbAt where
  | receiving
  | got (m : Ticketed)
  | gone

/-- Where the main thread is: in its loop, at `pthread_join`, or behind it;
`term` says that the signal was SIGTERM. -/
inductive MainAt where
  | looping
  | joining (term : Bool)
  | joined (term : Bool)
  deriving DecidableEq

structure DbHandler where
  /-- `none` once the queue is closed and unlinked -/
  queue : Option (List Ticketed)
  db : DbAt
  main : MainAt
  tables : Tables
  next : Nat
  accepted : List (Nat × Entry)
  written : List (Nat × Row)

/-- After the `init_dbhandler` of `main`. -/
def DbHandler.start (t : Tables) : DbHandler := ⟨some [], .receiving, .looping, t, 0, [], []⟩

inductive DbLabel where
  | requestWrite (stack : RpiwdMqmsg) (e : Entry)
  | workerSend (m : RpiwdMqmsg)
  | dbReceive
  | dbRound (insertOk updateOk : Bool) (now : Int)
  | quitDbhandler (term : Bool)
  | cancelled
  | initDbhandler

namespace DbHandler

/-- `mq_send`: none while the queue is full; without a queue it fails, which
nobody looks at. -/
def send (s : DbHandler) (m : RpiwdMqmsg) : Option DbHandler :=
  match s.queue with
  | none => some s
  | some q =>
    if q.length < MQ_MAXMESSAGES then
      let m : Ticketed := ⟨s.next, m⟩
      some { s with
        queue := some (q ++ [m])
        next := s.next + 1
        accepted := s.accepted ++ m.write.toList.map fun e => (m.ticket, e) }
    else none

/-- mirrors src/dbhandler.c:162-177 -/
def requestWriteEntry (s : DbHandler) (stack : RpiwdMqmsg) (e : Entry) : Option DbHandler :=
  match s.main with
  | .looping => s.send (writeEntryMessage stack e)
  | _ => none

/-- A worker puts no other messages into this queue.
mirrors src/listener.c:241-243 -/
def workerSend (s : DbHandler) (m : RpiwdMqmsg) : Option DbHandler :=
  if m.mtype = .fetch ∨ m.mtype = .stats then s.send m else none

/-- A pending cancellation comes first. mirrors src/dbhandler.c:97 -/
def dbReceive (s : DbHandler) : Option DbHandler :=
  match s.db, s.main, s.queue with
  | .receiving, .looping, some (m :: q) => some { s with queue := some q, db := .got m }
  | _, _, _ => none

/-- The tables are those of `dbTables`; a reply is sent on the way back to
`mq_receive`. mirrors src/dbhandler.c:98-147 -/
def dbRound (dt : SqliteDatetime) (s : DbHandler) (insertOk updateOk : Bool) (now : Int) :
    Option DbHandler :=
  match s.db with
  | .got m =>
    let t := dbTables dt s.tables ⟨m.msg, insertOk, updateOk, now⟩
    some { s with
      db := .receiving
      tables := t
      written := s.written ++ (t.data.drop s.tables.data.length).map fun r => (m.ticket, r) }
  | _ => none

/-- `pthread_cancel`, and on to `pthread_join`. mirrors src/dbhandler.c:72-76 -/
def quitDbhandler (s : DbHandler) (term : Bool) : Option DbHandler :=
  match s.main with
  | .looping => some { s with main := .joining term }
  | _ => none

/-- The cancellation acts. mirrors src/dbhandler.c:78-82,154-160 -/
def cancelled (s : DbHandler) : Option DbHandler :=
  match s.main, s.db with
  | .joining term, .receiving => some { s with queue := none, db := .gone, main := .joined term }
  | _, _ => none

/-- Only a reload goes on. mirrors src/rpiweatherd.c:175-187 -/
def initDbhandler (s : DbHandler) : Option DbHandler :=
  match s.main, s.db with
  | .joined false, .gone => some { s with queue := some [], db := .receiving, main := .looping }
  | _, _ => none

def step (dt : SqliteDatetime) (s : DbHandler) : DbLabel → Option DbHandler
  | .requestWrite stack e => s.requestWriteEntry stack e
  | .workerSend m => s.workerSend m
  | .dbReceive => s.dbReceive
  | .dbRound insertOk updateOk now => s.dbRound dt insertOk updateOk now
  | .quitDbhandler term => s.quitDbhandler term
  | .cancelled => s.cancelled
  | .initDbhandler => s.initDbhandler

end DbHandler

def dbHandler (dt : SqliteDatetime) (t : Tables) : LTS DbHandler DbLabel :=
  LTS.ofFn (· = .start t) (DbHandler.step dt)

/-! ## Where an entry can be -/

/-- The row has the entry's values. -/
def Row.Records (r : Row) (e : Entry) : Prop :=
  r.temperature = e.temperature ∧ r.humidity = e.humidity ∧ some r.location = e.location ∧
    some r.deviceName = e.deviceName

namespace DbHandler

/-- A row of `tblData` was inserted for it. -/
def Stored (s : DbHandler) (p : Nat × Entry) : Prop :=
  ∃ r ∈ s.tables.data, (p.1, r) ∈ s.written ∧ r.Records p.2

/-- It is in the queue, and nobody has cancelled the thread that reads it. -/
def Queued (s : DbHandler) (p : Nat × Entry) : Prop :=
  s.main = .looping ∧ ∃ q, s.queue = some q ∧ ∃ m ∈ q, m.ticket = p.1 ∧ m.write = some p.2

/-- The thread has it, and is past the point where it can be cancelled. -/
def InHand (s : DbHandler) (p : Nat × Entry) : Prop :=
  ∃ m, s.db = .got m ∧ m.ticket = p.1 ∧ m.write = some p.2

/-- No accepted entry is lost. -/
def Kept (s : DbHandler) : Prop := ∀ p ∈ s.accepted, s.Stored p ∨ s.Queued p ∨ s.InHand p

/-- The insert of an entry goes through, and no entry is in the queue when
the thread is cancelled. -/
def Calm (s : DbHandler) : DbLabel → Prop
  | .dbRound insertOk updateOk now => ∀ m e, s.db = .got m → m.write = some e →
      (⟨m.msg, insertOk, updateOk, now⟩ : DbStep).inserts e = true
  | .quitDbhandler _ => ∀ q, s.queue = some q → ∀ m ∈ q, m.write = none
  | _ => True

variable {dt : SqliteDatetime} {s t : DbHandler}

theorem send_kept {m : RpiwdMqmsg} (hk : s.Kept)
    (hm : s.main = .looping ∨ ∀ ticket, (⟨ticket, m⟩ : Ticketed).write = none)
    (h : s.send m = some t) : t.Kept := by
  unfold send at h
  split at h
  · cases h
    exact hk
  · rename_i q hq
    split at h
    · cases h
      intro p hp
      rcases List.mem_append.mp hp with hp | hp
      · rcases hk p hp with hst | ⟨hl, q', hq', m', hm', hw⟩ | hin
        · exact .inl hst
        · rw [hq] at hq'
          cases hq'
          exact .inr (.inl ⟨hl, _, rfl, m', List.mem_append_left _ hm', hw⟩)
        · exact .inr (.inr hin)
      · obtain ⟨e, he, rfl⟩ := List.mem_map.mp hp
        have hwrite : (⟨s.next, m⟩ : Ticketed).write = some e := Option.mem_toList.mp he
        rcases hm with hl | hnone
        · exact .inr (.inl ⟨hl, _, rfl, _, List.mem_append_right _ (List.mem_singleton.mpr rfl),
            rfl, hwrite⟩)
        · rw [hnone] at hwrite
          cases hwrite
    · cases h

theorem requestWriteEntry_kept {stack : RpiwdMqmsg} {e : Entry} (hk : s.Kept)
    (h : s.requestWriteEntry stack e = some t) : t.Kept := by
  unfold requestWriteEntry at h
  split at h
  · rename_i hmain
    exact send_kept hk (.inl hmain) h
  · cases h

theorem workerSend_kept {m : RpiwdMqmsg} (hk : s.Kept) (h : s.workerSend m = some t) : t.Kept := by
  unfold workerSend at h
  split at h
  · rename_i hm
    refine send_kept hk (.inr fun ticket => Option.eq_none_iff_forall_ne_some.mpr ?_) h
    intro e he
    have htype : m.mtype = .writeEntry := (Ticketed.write_eq_some.mp he).1
    rcases hm with hm | hm <;> exact nomatch htype.symm.trans hm
  · cases h

/-- What a round does to the rows: they stay, and a write message whose
insert goes through adds the entry's. -/
theorem dbTables_rows (dt : SqliteDatetime) (t : Tables) (m : Ticketed) (insertOk updateOk : Bool)
    (now : Int) :
    ∃ new, (dbTables dt t ⟨m.msg, insertOk, updateOk, now⟩).data = t.data ++ new ∧
      ∀ e, m.write = some e → (⟨m.msg, insertOk, updateOk, now⟩ : DbStep).inserts e = true →
        ∃ r ∈ new, r.Records e := by
  rcases dbTables_data dt t ⟨m.msg, insertOk, updateOk, now⟩ with
    ⟨e₀, location, device, hm, hd, hl, hdev, hdata⟩ | ⟨hdata, hno⟩
  · refine ⟨_, hdata, fun e hwrite _ => ?_⟩
    obtain rfl : e₀ = e :=
      Option.some.inj ((Ticketed.write_eq_some.mpr ⟨hm, hd⟩).symm.trans hwrite)
    exact ⟨_, List.mem_singleton.mpr rfl, rfl, rfl, hl.symm, hdev.symm⟩
  · refine ⟨[], by rw [hdata, List.append_nil], fun e hwrite hins => ?_⟩
    obtain ⟨hm, hd⟩ := Ticketed.write_eq_some.mp hwrite
    rw [hno e hm hd] at hins
    cases hins

theorem dbRound_kept {insertOk updateOk : Bool} {now : Int} (hk : s.Kept)
    (hcalm : s.Calm (.dbRound insertOk updateOk now))
    (h : s.dbRound dt insertOk updateOk now = some t) : t.Kept := by
  unfold dbRound at h
  split at h
  · rename_i m hdb
    obtain ⟨new, hdata, hnew⟩ := dbTables_rows dt s.tables m insertOk updateOk now
    cases h
    intro p hp
    rcases hk p hp with ⟨r, hr, hw, hrec⟩ | hq | ⟨m', hm', htick, hwrite⟩
    · refine .inl ⟨r, ?_, List.mem_append_left _ hw, hrec⟩
      rw [hdata]
      exact List.mem_append_left _ hr
    · exact .inr (.inl hq)
    · rw [hdb] at hm'
      cases hm'
      obtain ⟨r, hr, hrec⟩ := hnew p.2 hwrite (hcalm m p.2 hdb hwrite)
      refine .inl ⟨r, ?_, List.mem_append_right _ ?_, hrec⟩
      · rw [hdata]
        exact List.mem_append_right _ hr
      · rw [hdata, List.drop_left]
        exact List.mem_map.mpr ⟨r, hr, by rw [htick]⟩
  · cases h

theorem dbReceive_kept (hk : s.Kept) (h : s.dbReceive = some t) : t.Kept := by
  unfold dbReceive at h
  split at h
  · rename_i m q hdb hmain hq
    cases h
    intro p hp
    rcases hk p hp with hst | ⟨hl, q', hq', m', hm', hw⟩ | ⟨m', hm', -⟩
    · exact .inl hst
    · rw [hq] at hq'
      cases hq'
      rcases List.mem_cons.mp hm' with rfl | hm'
      · exact .inr (.inr ⟨_, rfl, hw⟩)
      · exact .inr (.inl ⟨hl, q, rfl, m', hm', hw⟩)
    · rw [hdb] at hm'
      cases hm'
  · cases h

/-- Nothing is queued, so what is not stored yet is in the thread's hands. -/
theorem quitDbhandler_kept {term : Bool} (hk : s.Kept) (hcalm : s.Calm (.quitDbhandler term))
    (h : s.quitDbhandler term = some t) : t.Kept := by
  unfold quitDbhandler at h
  split at h
  · cases h
    intro p hp
    rcases hk p hp with hst | ⟨-, q, hq, m, hm, -, hw⟩ | hin
    · exact .inl hst
    · rw [hcalm q hq m hm] at hw
      cases hw
    · exact .inr (.inr hin)
  · cases h

/-- Behind a cancellation, with nothing in hand, everything is stored. -/
theorem Kept.stored (hk : s.Kept) (hmain : s.main ≠ .looping) (hdb : ∀ m, s.db ≠ .got m) :
    ∀ p ∈ s.accepted, s.Stored p := by
  intro p hp
  rcases hk p hp with hst | ⟨hl, -⟩ | ⟨m, hm, -⟩
  · exact hst
  · exact absurd hl hmain
  · exact absurd hm (hdb m)

theorem cancelled_kept (hk : s.Kept) (h : s.cancelled = some t) : t.Kept := by
  unfold cancelled at h
  split at h
  · rename_i term hmain hdb
    cases h
    exact fun p hp => .inl (hk.stored (by simp [hmain]) (by simp [hdb]) p hp)
  · cases h

theorem initDbhandler_kept (hk : s.Kept) (h : s.initDbhandler = some t) : t.Kept := by
  unfold initDbhandler at h
  split at h
  · rename_i hmain hdb
    cases h
    exact fun p hp => .inl (hk.stored (by simp [hmain]) (by simp [hdb]) p hp)
  · cases h

theorem kept_inductive (dt : SqliteDatetime) (t₀ : Tables) :
    ((dbHandler dt t₀).guard Calm).Inductive Kept := by
  refine ⟨fun s hs => ?_, fun s l t hk ⟨hstep, hcalm⟩ => ?_⟩
  · rw [show s = .start t₀ from hs]
    exact fun p hp => absurd hp List.not_mem_nil
  · have hstep : s.step dt l = some t := hstep
    cases l with
    | requestWrite stack e => exact requestWriteEntry_kept hk hstep
    | workerSend m => exact workerSend_kept hk hstep
    | dbReceive => exact dbReceive_kept hk hstep
    | dbRound insertOk updateOk now => exact dbRound_kept hk hcalm hstep
    | quitDbhandler term => exact quitDbhandler_kept hk hcalm hstep
    | cancelled => exact cancelled_kept hk hstep
    | initDbhandler => exact initDbhandler_kept hk hstep

end DbHandler

/-- **No measurement is lost by a reload or a shutdown.** In every run in
which inserts go through and no entry is queued when the database thread is
cancelled, every accepted entry is a row of `tblData`, in a queue that will
be read, or in the thread's hands. -/
theorem measurements_kept (dt : SqliteDatetime) (t₀ : Tables) (s : DbHandler)
    (h : ((dbHandler dt t₀).guard DbHandler.Calm).Reachable s) : s.Kept :=
  (DbHandler.kept_inductive dt t₀).reachable h

def atticEntry : Entry := ⟨0, none, 21, 40, some (ascii "attic"), some (ascii "dht11")⟩

/-- A measurement that the thread has taken up survives the reload. -/
theorem measurement_survives :
    ∃ s, ((dbHandler gregorian ⟨[], 0, 0, 0⟩).guard DbHandler.Calm).Reachable s ∧
      s.accepted = [(0, atticEntry)] ∧ s.main = .looping ∧ s.Kept := by
  let m : Ticketed := ⟨0, writeEntryMessage default atticEntry⟩
  let r : Row := ⟨1, gregorian.now 0, 21, 40, ascii "attic", ascii "dht11"⟩
  let s : DbHandler :=
    ⟨some [], .receiving, .looping, ⟨[r], 1, 0, 1⟩, 1, [(0, atticEntry)], [(0, r)]⟩
  have hinserts : ∀ m' e, DbAt.got m = .got m' → m'.write = some e →
      (⟨m'.msg, true, true, 0⟩ : DbStep).inserts e = true := by
    rintro m' e hm hw
    cases hm
    cases hw
    rfl
  have hempty : ∀ q : List Ticketed, some [] = some q → ∀ m ∈ q, m.write = none := by
    rintro q hq m hm
    cases hq
    exact absurd hm List.not_mem_nil
  have hreach : ((dbHandler gregorian ⟨[], 0, 0, 0⟩).guard DbHandler.Calm).Reachable s :=
    ⟨.start ⟨[], 0, 0, 0⟩,
      [.requestWrite default atticEntry, .dbReceive, .dbRound true true 0, .quitDbhandler false,
        .cancelled, .initDbhandler], rfl,
      .cons ⟨rfl, trivial⟩ (.cons ⟨rfl, trivial⟩ (.cons ⟨rfl, hinserts⟩ (.cons ⟨rfl, hempty⟩
        (.cons ⟨rfl, trivial⟩ (.cons ⟨rfl, trivial⟩ (.nil s))))))⟩
  exact ⟨s, hreach, rfl, rfl, measurements_kept gregorian ⟨[], 0, 0, 0⟩ s hreach⟩

/-- A SIGHUP right behind the measurement destroys it with the queue. -/
theorem measurement_lost : ∃ s, LTS.runFn (DbHandler.step gregorian) (.start ⟨[], 0, 0, 0⟩)
    [.requestWrite default atticEntry, .quitDbhandler false, .cancelled, .initDbhandler] = some s ∧
      ¬ s.Kept := by
  refine ⟨_, rfl, fun hk => ?_⟩
  have hplace := hk (0, atticEntry) (List.mem_singleton.mpr rfl)
  rcases hplace with ⟨r, hr, -⟩ | ⟨-, q, hq, m, hm, -⟩ | ⟨m, hm, -⟩
  · exact absurd hr List.not_mem_nil
  · cases hq
    exact absurd hm List.not_mem_nil
  · cases hm

end Rpiweatherd
