import Rpiweatherd.L4System.Machine

/-!
# One message per connection, one answer per message

Every open client descriptor is named by exactly one message, wherever that
message is; the message's station and the connection's history fit together
(`Fits`); and a connection without a message has been read once, written at
most once and closed once (`Gone`). This is `Ledger.Ok` of the daemon's
messages, and every step is one of the ledger's rules.

`Fits` and `Gone` carry one more fact under the flag `g`: what is written is
the reply to the connection served alone, in the environment it was read in
and with the database as it was asked (`servedAlone`). With `g = False` the
invariant holds in every run; with `g = True` in the runs whose reads meet
clean worker variables (`ReadsClean`).
-/
namespace Rpiweatherd

/-- The message's station. -/
inductive Stage where
  | incoming
  | atDb
  | done
  | replying (r : Reply)
  | closing
  deriving DecidableEq

structure Token where
  stage : Stage
  msg : RpiwdMqmsg
  deriving DecidableEq

def Token.fd (t : Token) : Int := t.msg.sockfd

/-! ## The messages of a state -/

/-- A message in the worker queue, or just taken from it. -/
def carried (m : RpiwdMqmsg) : Token := ⟨if m.isCompleted then .done else .incoming, m⟩

/-- A message in the database queue: sensor entries belong to no client. -/
def dbCarried (m : RpiwdMqmsg) : List Token :=
  if m.mtype = .writeEntry then [] else [⟨.atDb, m⟩]

def WorkerPc.tokens : WorkerPc → List Token
  | .receiving => []
  | .got m => [carried m]
  | .replying m r => [⟨.replying r, m⟩]
  | .closing m => [⟨.closing, m⟩]
  | .sending .db m => [⟨.atDb, m⟩]
  | .sending .worker m => [⟨.done, m⟩]

def ListenerPc.tokens : ListenerPc → List Token
  | .accepting => []
  | .sending m => [⟨.incoming, m⟩]

def DbPc.tokens : DbPc → List Token
  | .receiving => []
  | .got m => dbCarried m
  | .sending m => [⟨.done, m⟩]

def Sys.tokens (s : Sys) : List Token :=
  s.listener.tokens ++ s.workerQ.map carried ++ s.workers.flatMap (fun w => w.pc.tokens) ++
    s.dbQ.flatMap dbCarried ++ s.db.tokens

def Sys.ledger (s : Sys) : Ledger Token Int ConnEv := ⟨s.tokens, s.fds, s.nextConn, s.hist⟩

/-! ## Answers -/

/-- The reply to a completed message; it depends on no thread's variables. -/
def completedOutcome (m : RpiwdMqmsg) : Except Fault Outcome :=
  (handleCompleted default .start m).map Prod.fst

/-- One connection from its message to its reply, with no other around: the
round that reads it, the database if it is asked, and the round that completes
the message. -/
def servedAlone (m : RpiwdMqmsg) (env : Env) (inc : Incoming) (db : Option Db) :
    Except Fault Outcome :=
  (ownOutcome env m inc).bind fun
    | .toWorker m' => completedOutcome m'
    | .toDb m' =>
      match db with
      | none => .ok (.toDb m')
      | some db => (dbProcess db m').bind fun
        | none => .ok .silent
        | some m'' => completedOutcome m''
    | out => .ok out

theorem servedAlone_reply {m : RpiwdMqmsg} {env : Env} {inc : Incoming} {r : Reply}
    (h : ownOutcome env m inc = .ok (.reply r)) (db : Option Db) :
    servedAlone m env inc db = .ok (.reply r) := by
  rw [servedAlone, h]
  rfl

theorem servedAlone_worker {m m' : RpiwdMqmsg} {env : Env} {inc : Incoming}
    (h : ownOutcome env m inc = .ok (.toWorker m')) (db : Option Db) :
    servedAlone m env inc db = completedOutcome m' := by
  rw [servedAlone, h]
  rfl

theorem servedAlone_db {m m' m'' : RpiwdMqmsg} {env : Env} {inc : Incoming} {db : Db}
    (h : ownOutcome env m inc = .ok (.toDb m')) (hdb : dbProcess db m' = .ok (some m'')) :
    servedAlone m env inc (some db) = completedOutcome m'' := by
  rw [servedAlone, h]
  simp only [Except.bind, hdb]

/-- The events of a connection before it is written. -/
def trail (m : RpiwdMqmsg) (env : Env) (inc : Incoming) (db : Option Db) : List ConnEv :=
  .accepted m :: .read env inc :: db.toList.map .processed

/-! ## The invariant -/

/-- The history of a connection whose message is at this station. -/
def Fits (g : Prop) (t : Token) (h : List ConnEv) : Prop :=
  t.msg.receiverMq = .worker ∧
  match t.stage with
  | .incoming => h = [.accepted t.msg] ∧ t.msg.isCompleted = false
  | .atDb => ∃ m env inc, h = trail m env inc none ∧ ForDb t.msg ∧
      (g → ownOutcome env m inc = .ok (.toDb t.msg))
  | .done => ∃ m env inc db, h = trail m env inc db ∧ Answerable t.msg ∧
      (g → servedAlone m env inc db = completedOutcome t.msg)
  | .replying r => ∃ m env inc db, h = trail m env inc db ∧
      (g → servedAlone m env inc db = .ok (.reply r))
  | .closing => ∃ m env inc db, h = trail m env inc db ∨
      ∃ r, h = trail m env inc db ++ [.wrote r] ∧ (g → servedAlone m env inc db = .ok (.reply r))

/-- The history of a connection that is over. -/
def Gone (g : Prop) (h : List ConnEv) : Prop :=
  ∃ m env inc db, h = trail m env inc db ++ [.closed] ∨
    ∃ r, h = trail m env inc db ++ [.wrote r, .closed] ∧
      (g → servedAlone m env inc db = .ok (.reply r))

/-- Sensor entries name no descriptor, and descriptors are not negative. -/
structure Entries (s : Sys) : Prop where
  queued : ∀ m ∈ s.dbQ, m.mtype = .writeEntry → m.sockfd = DB_MSG_NO_SOCKFD
  held : ∀ m, s.db = .got m → m.mtype = .writeEntry → m.sockfd = DB_MSG_NO_SOCKFD
  sensor : ∀ m, s.sensor = .sending m → m.mtype = .writeEntry ∧ m.sockfd = DB_MSG_NO_SOCKFD
  fds : ∀ p ∈ s.fds, 0 ≤ p.1

structure Inv (g : Prop) (s : Sys) : Prop where
  ledger : Ledger.Ok Token.fd (Fits g) (Gone g) s.ledger
  entries : Entries s

/-! ## Lists of threads -/

/-- Replacing one thread replaces its tokens and leaves the others. -/
theorem flatMap_set {α β : Type} (f : α → List β) :
    ∀ {l : List α} {i : Nat} {a : α}, l[i]? = some a →
      ∃ rest, (l.flatMap f).Perm (f a ++ rest) ∧ ∀ b, ((l.set i b).flatMap f).Perm (f b ++ rest)
  | x :: l, 0, a, h => by
    obtain rfl : x = a := by simpa using h
    exact ⟨l.flatMap f, by simp, fun b => by simp⟩
  | x :: l, i + 1, a, h => by
    obtain ⟨rest, h1, h2⟩ := flatMap_set f (l := l) (i := i) (a := a) (by simpa using h)
    have hswap : ∀ b : α, (f x ++ (f b ++ rest)).Perm (f b ++ (f x ++ rest)) := fun b => by
      rw [← List.append_assoc, ← List.append_assoc]
      exact List.Perm.append_right _ List.perm_append_comm
    refine ⟨f x ++ rest, ?_, fun b => ?_⟩
    · rw [List.flatMap_cons]
      exact (h1.append_left _).trans (hswap a)
    · rw [List.set_cons_succ, List.flatMap_cons]
      exact ((h2 b).append_left _).trans (hswap b)

/-- The tokens besides those of worker `i`, for any queues and other
threads. -/
theorem tokens_worker {s : Sys} {i : Nat} {w : Worker} (hw : s.workers[i]? = some w) :
    ∃ rest, s.tokens.Perm (w.pc.tokens ++ rest) ∧
      ∀ w', (s.setWorker i w').tokens.Perm (w'.pc.tokens ++ rest) := by
  obtain ⟨rest, h1, h2⟩ := flatMap_set (fun w : Worker => w.pc.tokens) hw
  refine ⟨s.listener.tokens ++ s.workerQ.map carried ++ rest ++ s.dbQ.flatMap dbCarried ++
    s.db.tokens, ?_, fun w' => ?_⟩
  · rw [List.perm_iff_count] at h1 ⊢
    intro t
    have := h1 t
    simp only [Sys.tokens, List.count_append] at this ⊢
    omega
  · have h3 := h2 w'
    rw [List.perm_iff_count] at h3 ⊢
    intro t
    have := h3 t
    simp only [Sys.tokens, Sys.setWorker, List.count_append] at this ⊢
    omega

theorem tokens_push {s s' : Sys} {q : QueueId} {m : RpiwdMqmsg} (h : s.push q m = some s') :
    s'.tokens.Perm ((match q with | .worker => [carried m] | .db => dbCarried m) ++ s.tokens) := by
  unfold Sys.push at h
  split at h
  · cases h
  · cases q <;>
    · cases h
      rw [List.perm_iff_count]
      intro t
      simp only [Sys.tokens, List.map_append, List.map_cons, List.map_nil, List.flatMap_append,
        List.flatMap_cons, List.flatMap_nil, List.count_append, List.append_nil]
      omega

/-- A push changes one queue. -/
theorem push_frame {s s' : Sys} {q : QueueId} {m : RpiwdMqmsg} (h : s.push q m = some s') :
    s'.fds = s.fds ∧ s'.nextConn = s.nextConn ∧ s'.hist = s.hist ∧ s'.db = s.db ∧
      s'.sensor = s.sensor ∧ s'.listener = s.listener ∧ s'.workers = s.workers ∧
      (∀ x ∈ s'.dbQ, x ∈ s.dbQ ∨ (q = .db ∧ x = m)) := by
  unfold Sys.push at h
  split at h
  · cases h
  · cases q with
    | worker => cases h; exact ⟨rfl, rfl, rfl, rfl, rfl, rfl, rfl, fun x hx => .inl hx⟩
    | db =>
      cases h
      refine ⟨rfl, rfl, rfl, rfl, rfl, rfl, rfl, fun x hx => ?_⟩
      rcases List.mem_append.mp hx with hx | hx
      · exact .inl hx
      · exact .inr ⟨rfl, List.mem_singleton.mp hx⟩

theorem Entries.push {s s' : Sys} {q : QueueId} {m : RpiwdMqmsg} (he : Entries s)
    (h : s.push q m = some s')
    (hm : q = .db → m.mtype = .writeEntry → m.sockfd = DB_MSG_NO_SOCKFD) : Entries s' := by
  obtain ⟨hf, -, -, hdb, hsn, -, -, hq⟩ := push_frame h
  refine ⟨fun x hx ht => ?_, fun x hx => he.held x (hdb ▸ hx), fun x hx => he.sensor x (hsn ▸ hx),
    fun p hp => he.fds p (hf ▸ hp)⟩
  rcases hq x hx with hx | ⟨hdbq, rfl⟩
  · exact he.queued x hx ht
  · exact hm hdbq ht

/-! ## The steps -/

section Steps
variable {g : Prop} {s s' : Sys}

theorem Inv.start (g : Prop) (W : Nat) : Inv g (Sys.start W) := by
  have ht : (Sys.start W).tokens = [] := by
    simp [Sys.tokens, Sys.start, ListenerPc.tokens, DbPc.tokens, WorkerPc.tokens,
      List.flatMap_replicate]
  refine ⟨?_, ⟨fun m hm => ?_, fun m hm => ?_, fun m hm => ?_, fun p hp => ?_⟩⟩
  · have he : (Sys.start W).ledger = ⟨[], [], 0, fun _ => []⟩ := by
      simp only [Sys.ledger, ht]; rfl
    rw [he]
    exact Ledger.Ok.empty
  · cases hm
  · cases hm
  · cases hm
  · cases hp

/-- A message changes places. -/
theorem Inv.move (h : Inv g s) (hp : s'.tokens.Perm s.tokens) (hf : s'.fds = s.fds)
    (hn : s'.nextConn = s.nextConn) (hh : s'.hist = s.hist) (he : Entries s') : Inv g s' := by
  refine ⟨?_, he⟩
  have hl : s'.ledger = { s.ledger with tokens := s'.tokens } := by
    simp only [Sys.ledger, hf, hn, hh]
  rw [hl]
  exact h.ledger.perm hp

/-- A message's station changes, and its connection sees nothing. -/
theorem Inv.replace (h : Inv g s) {t t' : Token} {rest : List Token}
    (hp : s.tokens.Perm (t :: rest)) (hp' : s'.tokens.Perm (t' :: rest)) (hk : t'.fd = t.fd)
    (hstep : ∀ es, Fits g t es → Fits g t' es) (hf : s'.fds = s.fds)
    (hn : s'.nextConn = s.nextConn) (hh : s'.hist = s.hist) (he : Entries s') : Inv g s' := by
  refine ⟨?_, he⟩
  have hl : s'.ledger = { { s.ledger with tokens := t' :: rest } with tokens := s'.tokens } := by
    simp only [Sys.ledger, hf, hn, hh]
  rw [hl]
  exact (h.ledger.replace hp hk hstep).perm hp'

/-- A message's station changes with an event on its connection. -/
theorem Inv.advance (h : Inv g s) {t t' : Token} {rest : List Token} {e : ConnEv}
    (hp : s.tokens.Perm (t :: rest)) (hp' : s'.tokens.Perm (t' :: rest)) (hk : t'.fd = t.fd)
    (hstep : ∀ es, Fits g t es → Fits g t' (es ++ [e])) (hf : s'.fds = s.fds)
    (hn : s'.nextConn = s.nextConn) (hh : s'.hist = Ledger.record s.fds s.hist t.fd e)
    (he : Entries s') : Inv g s' := by
  refine ⟨?_, he⟩
  have ha := (h.ledger.advance hp hk hstep).perm hp'
  have hl : s'.ledger = ⟨s'.tokens, s.fds, s.nextConn, Ledger.record s.fds s.hist t.fd e⟩ := by
    simp only [Sys.ledger, hf, hn, hh]
  rw [hl]
  exact ha

/-- The token of a message fits some history. -/
theorem Inv.fits (h : Inv g s) {t : Token} (ht : t ∈ s.tokens) : ∃ es, Fits g t es := by
  obtain ⟨c, -, hf⟩ := h.ledger.fits t ht
  exact ⟨_, hf⟩

theorem carried_incoming {m : RpiwdMqmsg} (h : m.isCompleted = false) :
    carried m = ⟨.incoming, m⟩ := by
  simp [carried, h]

theorem carried_done {m : RpiwdMqmsg} (h : m.isCompleted = true) : carried m = ⟨.done, m⟩ := by
  simp [carried, h]

theorem ForDb.not_entry {m : RpiwdMqmsg} (h : ForDb m) : m.mtype ≠ .writeEntry := by
  rcases h with h | h <;> rw [h] <;> decide

theorem inv_accept (h : Inv g s) {fd : Nat} {stack : RpiwdMqmsg}
    (hs : s.accept fd stack = some s') : Inv g s' := by
  unfold Sys.accept at hs
  split at hs
  · rename_i hl
    split at hs
    · cases hs
    · rename_i hfree
      cases hs
      have hf : Fits g ⟨.incoming, newMessage stack fd⟩ [.accepted (newMessage stack fd)] :=
        ⟨rfl, rfl, rfl⟩
      have ha := h.ledger.acquire (t := ⟨.incoming, newMessage stack fd⟩) hfree hf
      refine ⟨?_, ⟨h.entries.queued, h.entries.held, h.entries.sensor, fun p hp => ?_⟩⟩
      · simp only [Sys.ledger, Sys.tokens, hl, ListenerPc.tokens, List.nil_append] at ha ⊢
        exact ha
      · rcases List.mem_cons.mp hp with rfl | hp
        · exact Int.natCast_nonneg fd
        · exact h.entries.fds p hp
  · cases hs

theorem inv_listenerSend (h : Inv g s) (hs : s.listenerSend = some s') : Inv g s' := by
  unfold Sys.listenerSend at hs
  split at hs
  · rename_i m hl
    have hmem : (⟨.incoming, m⟩ : Token) ∈ s.tokens := by simp [Sys.tokens, hl, ListenerPc.tokens]
    obtain ⟨es, -, -, hnc⟩ := h.fits hmem
    obtain ⟨hf, hn, hh, -⟩ := push_frame hs
    have hp := tokens_push hs
    rw [carried_incoming hnc] at hp
    have he : Entries { s with listener := .accepting } :=
      ⟨h.entries.queued, h.entries.held, h.entries.sensor, h.entries.fds⟩
    refine h.move (hp.trans ?_) hf hn hh (he.push hs fun e => nomatch e)
    simp only [Sys.tokens, hl, ListenerPc.tokens, List.nil_append, List.cons_append]
    exact .refl _
  · cases hs

/-! ### The database thread and the sensor -/

theorem inv_dbReceive (h : Inv g s) (hs : s.dbReceive = some s') : Inv g s' := by
  unfold Sys.dbReceive at hs
  split at hs
  · rename_i m q hdb hq
    cases hs
    refine h.move ?_ rfl rfl rfl ⟨fun x hx => ?_, fun x hx => ?_, h.entries.sensor, h.entries.fds⟩
    · rw [List.perm_iff_count]
      intro t
      simp only [Sys.tokens, hdb, hq, DbPc.tokens, List.flatMap_cons, List.count_append,
        List.count_nil]
      omega
    · exact h.entries.queued x (by rw [hq]; exact List.mem_cons_of_mem _ hx)
    · cases hx
      exact h.entries.queued m (by rw [hq]; exact List.mem_cons_self ..)
  · cases hs

theorem inv_dbRound (h : Inv g s) {db : Db} (hs : s.dbRound db = some s') : Inv g s' := by
  unfold Sys.dbRound at hs
  split at hs
  · rename_i m hdb
    split at hs
    · rename_i m' hr
      cases hs
      obtain ⟨-, hc⟩ | ⟨hne, d, r, he⟩ := dbProcess_cases hr
      · cases hc
      -- a client's message comes back complete
      have hm' := Option.some.inj he
      have hp : s.tokens.Perm (⟨.atDb, m⟩ :: (s.listener.tokens ++ s.workerQ.map carried ++
          s.workers.flatMap (fun w => w.pc.tokens) ++ s.dbQ.flatMap dbCarried)) := by
        simp only [Sys.tokens, hdb, DbPc.tokens, dbCarried, if_neg hne]
        exact List.perm_append_singleton _ _
      have hp' : (Sys.tokens { s with db := .sending m' }).Perm (⟨.done, m'⟩ :: (s.listener.tokens ++
          s.workerQ.map carried ++ s.workers.flatMap (fun w => w.pc.tokens) ++
          s.dbQ.flatMap dbCarried)) := by
        simp only [Sys.tokens, DbPc.tokens]
        exact List.perm_append_singleton _ _
      refine h.advance (e := .processed db) hp hp' (by rw [hm']; rfl) (fun es hf => ?_) rfl rfl rfl
        ⟨h.entries.queued, (fun _ hx => nomatch hx), h.entries.sensor, h.entries.fds⟩
      · obtain ⟨hq, m₀, env, inc, rfl, hfor, hask⟩ := hf
        refine ⟨by rw [hm']; exact hq, m₀, env, inc, some db, rfl, ?_,
          fun hg => servedAlone_db (hask hg) hr⟩
        rw [hm']
        refine ⟨rfl, ?_⟩
        rcases hfor with e | e <;> simp only at e <;> simp only [e] <;> rfl
    · rename_i hr
      cases hs
      obtain ⟨hw, -⟩ | ⟨-, d, r, he⟩ := dbProcess_cases hr
      · refine h.move ?_ rfl rfl rfl
          ⟨h.entries.queued, (fun _ hx => nomatch hx), h.entries.sensor, h.entries.fds⟩
        simp only [Sys.tokens, hdb, DbPc.tokens, dbCarried, if_pos hw]
        exact .refl _
      · cases he
    · cases hs
  · cases hs

theorem inv_dbSend (h : Inv g s) (hs : s.dbSend = some s') : Inv g s' := by
  unfold Sys.dbSend at hs
  split at hs
  · rename_i m hdb
    have hmem : (⟨.done, m⟩ : Token) ∈ s.tokens := by simp [Sys.tokens, hdb, DbPc.tokens]
    obtain ⟨es, hq, m₀, env, inc, db, -, ⟨hc, -⟩, -⟩ := h.fits hmem
    simp only at hq hc
    rw [hq] at hs
    obtain ⟨hf, hn, hh, -⟩ := push_frame hs
    have hp := tokens_push hs
    simp only [carried_done hc] at hp
    have he : Entries { s with db := .receiving } :=
      ⟨h.entries.queued, (fun _ hx => nomatch hx), h.entries.sensor, h.entries.fds⟩
    refine h.move (hp.trans ?_) hf hn hh (he.push hs fun e => nomatch e)
    simp only [Sys.tokens, hdb, DbPc.tokens, List.append_nil]
    exact (List.perm_append_singleton _ _).symm
  · cases hs

theorem inv_measure (h : Inv g s) {stack : RpiwdMqmsg} {e : Entry}
    (hs : s.measure stack e = some s') : Inv g s' := by
  unfold Sys.measure at hs
  split at hs
  · cases hs
    refine h.move (.refl _) rfl rfl rfl
      ⟨h.entries.queued, h.entries.held, fun m hm => ?_, h.entries.fds⟩
    cases hm
    exact ⟨rfl, rfl⟩
  · cases hs

theorem inv_sensorSend (h : Inv g s) (hs : s.sensorSend = some s') : Inv g s' := by
  unfold Sys.sensorSend at hs
  split at hs
  · rename_i m hsn
    obtain ⟨hw, hfd⟩ := h.entries.sensor m hsn
    obtain ⟨hf, hn, hh, -⟩ := push_frame hs
    have hp := tokens_push hs
    simp only [dbCarried, if_pos hw, List.nil_append] at hp
    have he : Entries { s with sensor := .measuring } :=
      ⟨h.entries.queued, h.entries.held, (fun _ hx => nomatch hx), h.entries.fds⟩
    exact h.move hp hf hn hh (he.push hs fun _ _ => hfd)
  · cases hs

/-! ### The workers -/

/-- The side condition of a step: a socket is read by a worker whose
variables are clean for what arrives. -/
def ReadsClean (s : Sys) : Label → Prop
  | .workerRound i env rd => ∀ w m, s.workers[i]? = some w → w.pc = .got m →
      m.isCompleted = false → Clean env w.locals m rd.incoming
  | _ => True

variable {i : Nat} {w : Worker}

theorem inv_workerReceive (h : Inv g s) (hw : s.workers[i]? = some w)
    (hs : s.stepWorker i w (.workerReceive i) = some s') : Inv g s' := by
  simp only [Sys.stepWorker] at hs
  split at hs
  · rename_i m q hpc hq
    cases hs
    obtain ⟨rest, h1, h2⟩ := tokens_worker (s := { s with workerQ := q }) hw
    refine h.move ?_ rfl rfl rfl ⟨h.entries.queued, h.entries.held, h.entries.sensor, h.entries.fds⟩
    have h3 := h2 { w with pc := .got m }
    rw [List.perm_iff_count] at h1 h3 ⊢
    intro t
    have e1 := h1 t
    have e3 := h3 t
    simp only [hpc, WorkerPc.tokens, List.nil_append, List.count_append] at e1 e3
    rw [e3, ← e1]
    simp only [Sys.tokens, hq, List.map_cons, List.count_append, List.count_cons, List.count_nil]
    omega
  · cases hs

/-- The message of a round, before and after it. -/
def roundToken (m : RpiwdMqmsg) : Outcome → Token
  | .reply r => ⟨.replying r, m⟩
  | .silent => ⟨.closing, m⟩
  | .toDb m' => ⟨.atDb, m'⟩
  | .toWorker m' => ⟨.done, m'⟩

theorem pcOf_tokens (m : RpiwdMqmsg) (out : Outcome) :
    (pcOf m out).tokens = [roundToken m out] := by
  cases out <;> rfl

/-- A round on a new message: the connection has been read, and under `g`
the outcome is the one its bytes deserve. -/
theorem fits_round_new {env : Env} {m : RpiwdMqmsg} {inc : Incoming} {out : Outcome}
    (hpass : out.Passes m) (hown : g → ownOutcome env m inc = .ok out) {es : List ConnEv}
    (hf : Fits g ⟨.incoming, m⟩ es) : Fits g (roundToken m out) (es ++ [.read env inc]) := by
  obtain ⟨hq, rfl, -⟩ := hf
  cases out with
  | reply r => exact ⟨hq, m, env, inc, none, rfl, fun hg => servedAlone_reply (hown hg) none⟩
  | silent => exact ⟨hq, m, env, inc, none, .inl rfl⟩
  | toDb m' =>
    obtain ⟨⟨-, hq'⟩, hfor⟩ := hpass
    exact ⟨hq'.trans hq, m, env, inc, rfl, hfor, hown⟩
  | toWorker m' =>
    obtain ⟨⟨-, hq'⟩, hans⟩ := hpass
    exact ⟨hq'.trans hq, m, env, inc, none, rfl, hans,
      fun hg => servedAlone_worker (hown hg) none⟩

theorem roundToken_fd {m : RpiwdMqmsg} {out : Outcome} (h : out.Passes m) :
    (roundToken m out).fd = m.sockfd := by
  cases out with
  | reply r => rfl
  | silent => rfl
  | toDb m' => exact h.1.1
  | toWorker m' => exact h.1.1

theorem inv_workerRound (h : Inv g s) (hw : s.workers[i]? = some w) {env : Env} {rd : ReadResult}
    (hg : g → ReadsClean s (.workerRound i env rd))
    (hs : s.stepWorker i w (.workerRound i env rd) = some s') : Inv g s' := by
  simp only [Sys.stepWorker] at hs
  split at hs
  · rename_i m hpc
    split at hs
    · rename_i out l hr
      cases hs
      obtain ⟨rest, h1, h2⟩ := tokens_worker hw
      have h3 := h2 ⟨pcOf m out, l⟩
      rw [hpc] at h1
      rw [pcOf_tokens] at h3
      have he : Entries (s.setWorker i ⟨pcOf m out, l⟩) :=
        ⟨h.entries.queued, h.entries.held, h.entries.sensor, h.entries.fds⟩
      cases hc : m.isCompleted with
      | false =>
        simp only [workerRound, hc, Bool.false_eq_true, if_false] at hr
        simp only [WorkerPc.tokens, carried_incoming hc] at h1
        have hpass := handleNew_passes hr
        have hown : g → ownOutcome env m rd.incoming = .ok out := fun hgg => by
          have hclean := hg hgg w m hw hpc hc
          rw [← (handleNew_own_iff env w.locals m rd.incoming).mpr hclean rd rd.incoming_gives, hr]
          rfl
        simp only [Sys.recordRead, hc, Bool.false_eq_true, if_false]
        exact h.advance (e := .read env rd.incoming) h1 h3 (roundToken_fd hpass)
          (fun es hf => fits_round_new hpass hown hf) rfl rfl rfl
          ⟨he.queued, he.held, he.sensor, he.fds⟩
      | true =>
        simp only [workerRound, hc, if_true] at hr
        simp only [WorkerPc.tokens, carried_done hc] at h1
        obtain ⟨r, rfl⟩ := handleCompleted_reply hr
        simp only [Sys.recordRead, hc, if_true]
        refine h.replace h1 h3 rfl (fun es hf => ?_) rfl rfl rfl he
        obtain ⟨hq, m₀, env₀, inc, db, hes, hans, hcomp⟩ := hf
        refine ⟨hq, m₀, env₀, inc, db, hes, fun hgg => ?_⟩
        rw [hcomp hgg, completedOutcome,
          handleCompleted_outcome default env .start w.locals hans.2, hr]
        rfl
    · cases hs
  · cases hs

theorem inv_workerWrite (h : Inv g s) (hw : s.workers[i]? = some w)
    (hs : s.stepWorker i w (.workerWrite i) = some s') : Inv g s' := by
  simp only [Sys.stepWorker] at hs
  split at hs
  · rename_i m r hpc
    cases hs
    obtain ⟨rest, h1, h2⟩ := tokens_worker hw
    rw [hpc] at h1
    refine h.advance h1 (h2 { w with pc := .closing m }) rfl (fun es hf => ?_) rfl rfl rfl
      ⟨h.entries.queued, h.entries.held, h.entries.sensor, h.entries.fds⟩
    obtain ⟨hq, m₀, env, inc, db, rfl, hans⟩ := hf
    exact ⟨hq, m₀, env, inc, db, .inr ⟨r, rfl, hans⟩⟩
  · cases hs

theorem inv_workerClose (h : Inv g s) (hw : s.workers[i]? = some w)
    (hs : s.stepWorker i w (.workerClose i) = some s') : Inv g s' := by
  simp only [Sys.stepWorker] at hs
  split at hs
  · rename_i m hpc
    cases hs
    obtain ⟨rest, h1, h2⟩ := tokens_worker hw
    rw [hpc] at h1
    have h3 := h2 { w with pc := .receiving }
    have hend : ∀ es, Fits g ⟨.closing, m⟩ es → Gone g (es ++ [.closed]) := by
      rintro es ⟨-, m₀, env, inc, db, rfl | ⟨r, rfl, hans⟩⟩
      · exact ⟨m₀, env, inc, db, .inl rfl⟩
      · exact ⟨m₀, env, inc, db, .inr ⟨r, List.append_assoc .., hans⟩⟩
    refine ⟨(h.ledger.release h1 hend).perm h3, ⟨h.entries.queued, h.entries.held,
      h.entries.sensor, fun p hp => h.entries.fds p (List.mem_of_mem_filter hp)⟩⟩
  · cases hs

theorem inv_workerSend (h : Inv g s) (hw : s.workers[i]? = some w)
    (hs : s.stepWorker i w (.workerSend i) = some s') : Inv g s' := by
  simp only [Sys.stepWorker] at hs
  split at hs
  · rename_i q m hpc
    obtain ⟨rest, h1, h2⟩ := tokens_worker hw
    rw [hpc] at h1
    have h3 := h2 { w with pc := .receiving }
    obtain ⟨hf, hn, hh, -⟩ := push_frame hs
    have hp := tokens_push hs
    have he : Entries (s.setWorker i { w with pc := .receiving }) :=
      ⟨h.entries.queued, h.entries.held, h.entries.sensor, h.entries.fds⟩
    simp only [WorkerPc.tokens, List.nil_append] at h3
    cases q with
    | worker =>
      have hmem : (⟨.done, m⟩ : Token) ∈ s.tokens := h1.symm.subset (List.mem_cons_self ..)
      obtain ⟨es, -, m₀, env, inc, db, -, ⟨hc, -⟩, -⟩ := h.fits hmem
      simp only [carried_done hc] at hp
      refine h.move (hp.trans ?_) hf hn hh (he.push hs fun e => nomatch e)
      exact (h3.append_left _).trans h1.symm
    | db =>
      have hmem : (⟨.atDb, m⟩ : Token) ∈ s.tokens := h1.symm.subset (List.mem_cons_self ..)
      obtain ⟨es, -, m₀, env, inc, -, hfor, -⟩ := h.fits hmem
      have hne : m.mtype ≠ .writeEntry := hfor.not_entry
      simp only [dbCarried, if_neg hne] at hp
      refine h.move (hp.trans ?_) hf hn hh (he.push hs fun _ e => absurd e hne)
      exact (h3.append_left _).trans h1.symm
  · cases hs

/-- **One step.** Every step keeps the invariant; under `g`, if it meets the
side condition. -/
theorem inv_step {lab : Label} (h : Inv g s) (hg : g → ReadsClean s lab)
    (hs : s.step lab = some s') : Inv g s' := by
  unfold Sys.step at hs
  split at hs
  · rename_i j hj
    obtain ⟨w, hw, hs⟩ := Option.bind_eq_some_iff.mp hs
    cases lab with
    | workerReceive i => cases hj; exact inv_workerReceive h hw hs
    | workerRound i env rd => cases hj; exact inv_workerRound h hw hg hs
    | workerWrite i => cases hj; exact inv_workerWrite h hw hs
    | workerClose i => cases hj; exact inv_workerClose h hw hs
    | workerSend i => cases hj; exact inv_workerSend h hw hs
    | _ => cases hj
  · cases lab with
    | accept fd stack => exact inv_accept h hs
    | listenerSend => exact inv_listenerSend h hs
    | dbReceive => exact inv_dbReceive h hs
    | dbRound db => exact inv_dbRound h hs
    | dbSend => exact inv_dbSend h hs
    | measure stack e => exact inv_measure h hs
    | sensorSend => exact inv_sensorSend h hs
    | _ => cases hs

end Steps

theorem inv_reachable {W : Nat} {s : Sys} (h : (daemon W).Reachable s) : Inv False s := by
  have hind : (daemon W).Inductive (Inv False) :=
    ⟨fun s hs => hs ▸ Inv.start False W, fun _ _ _ hi hs => inv_step hi False.elim hs⟩
  exact hind.reachable h

theorem inv_reachable_clean {W : Nat} {s : Sys} (h : ((daemon W).guard ReadsClean).Reachable s) :
    Inv True s := by
  have hind : ((daemon W).guard ReadsClean).Inductive (Inv True) :=
    ⟨fun s hs => hs ▸ Inv.start True W, fun _ _ _ hi hs => inv_step hi (fun _ => hs.2) hs.1⟩
  exact hind.reachable h

end Rpiweatherd
