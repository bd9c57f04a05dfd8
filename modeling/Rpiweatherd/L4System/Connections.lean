import Rpiweatherd.L4System.Routing

/-!
# What a client sees

The routing invariant, read as statements about descriptors and connections:

* `OneMessage`: each open client descriptor is named by exactly one message
  of the whole daemon, and no client message names a closed one;
* `OncePerConnection`: a connection is written at most once, closed exactly
  once (when its message leaves the daemon), and nothing follows the close;
* `OwnAnswers`: what is written on a connection is what it is written when it
  is served alone.

The first two hold in every run. The third needs `ReadsClean`: a worker's
left-over variables otherwise put the answer to an earlier connection on a
later one (`stale_answer`), also through a reused descriptor.
-/
namespace Rpiweatherd

/-! ## The messages -/

def WorkerPc.messages : WorkerPc → List RpiwdMqmsg
  | .receiving => []
  | .got m | .replying m _ | .closing m | .sending _ m => [m]

def ListenerPc.messages : ListenerPc → List RpiwdMqmsg
  | .accepting => []
  | .sending m => [m]

def DbPc.messages : DbPc → List RpiwdMqmsg
  | .receiving => []
  | .got m | .sending m => [m]

def SensorPc.messages : SensorPc → List RpiwdMqmsg
  | .measuring => []
  | .sending m => [m]

/-- Every message, queued or held by a thread. -/
def Sys.messages (s : Sys) : List RpiwdMqmsg :=
  s.listener.messages ++ s.workerQ ++ s.workers.flatMap (fun w => w.pc.messages) ++ s.dbQ ++
    s.db.messages ++ s.sensor.messages

/-- How many messages name the descriptor. -/
def naming (fd : Int) (ms : List RpiwdMqmsg) : Nat := (ms.map (·.sockfd)).count fd

theorem naming_append (fd : Int) (a b : List RpiwdMqmsg) :
    naming fd (a ++ b) = naming fd a + naming fd b := by
  simp [naming]

/-- How many tokens do. -/
def tokensNaming (fd : Int) (ts : List Token) : Nat := (ts.map Token.fd).count fd

theorem tokensNaming_append (fd : Int) (a b : List Token) :
    tokensNaming fd (a ++ b) = tokensNaming fd a + tokensNaming fd b := by
  simp [tokensNaming]

theorem tokensNaming_workerQ (fd : Int) (q : List RpiwdMqmsg) :
    tokensNaming fd (q.map carried) = naming fd q := by
  simp [tokensNaming, naming, Function.comp_def, carried, Token.fd]

theorem tokensNaming_workers (fd : Int) :
    ∀ ws : List Worker, tokensNaming fd (ws.flatMap fun w => w.pc.tokens) =
      naming fd (ws.flatMap fun w => w.pc.messages)
  | [] => rfl
  | w :: ws => by
    have hw : tokensNaming fd w.pc.tokens = naming fd w.pc.messages := by
      cases w.pc with
      | receiving => rfl
      | got m => rfl
      | replying m r => rfl
      | closing m => rfl
      | sending q m => cases q <;> rfl
    rw [List.flatMap_cons, List.flatMap_cons, tokensNaming_append, naming_append, hw,
      tokensNaming_workers fd ws]

theorem tokensNaming_dbCarried {fd : Int} (h : 0 ≤ fd) {m : RpiwdMqmsg}
    (hm : m.mtype = .writeEntry → m.sockfd = DB_MSG_NO_SOCKFD) :
    tokensNaming fd (dbCarried m) = naming fd [m] := by
  unfold dbCarried
  split
  · rename_i hw
    have hne : DB_MSG_NO_SOCKFD ≠ fd := by simp only [DB_MSG_NO_SOCKFD]; omega
    simp [tokensNaming, naming, hm hw, hne]
  · rfl

theorem tokensNaming_dbQ {fd : Int} (h : 0 ≤ fd) :
    ∀ q : List RpiwdMqmsg, (∀ m ∈ q, m.mtype = .writeEntry → m.sockfd = DB_MSG_NO_SOCKFD) →
      tokensNaming fd (q.flatMap dbCarried) = naming fd q
  | [], _ => rfl
  | m :: q, hq => by
    have ih := tokensNaming_dbQ h q fun x hx => hq x (List.mem_cons_of_mem _ hx)
    rw [List.flatMap_cons, tokensNaming_append, ih,
      tokensNaming_dbCarried h (hq m (List.mem_cons_self ..)), ← naming_append]
    rfl

/-- A client descriptor is named by as many messages as tokens. -/
theorem naming_messages {s : Sys} (he : Entries s) {fd : Int} (h : 0 ≤ fd) :
    naming fd s.messages = tokensNaming fd s.tokens := by
  have hlis : tokensNaming fd s.listener.tokens = naming fd s.listener.messages := by
    cases s.listener <;> rfl
  have hdb : tokensNaming fd s.db.tokens = naming fd s.db.messages := by
    cases hd : s.db with
    | receiving => rfl
    | got m => exact tokensNaming_dbCarried h (he.held m hd)
    | sending m => rfl
  have hsen : naming fd s.sensor.messages = 0 := by
    cases hs : s.sensor with
    | measuring => rfl
    | sending m =>
      have hne : DB_MSG_NO_SOCKFD ≠ fd := by simp only [DB_MSG_NO_SOCKFD]; omega
      simp [naming, SensorPc.messages, (he.sensor m hs).2, hne]
  simp only [Sys.messages, Sys.tokens, naming_append, tokensNaming_append, hlis, hdb, hsen,
    tokensNaming_workerQ, tokensNaming_workers, tokensNaming_dbQ h s.dbQ he.queued, Nat.add_zero]

/-! ## The statements -/

/-- Each open descriptor is named by exactly one message; a descriptor that
is not open is named by none. -/
def OneMessage (s : Sys) : Prop :=
  (∀ p ∈ s.fds, naming p.1 s.messages = 1) ∧
    ∀ m ∈ s.messages, 0 ≤ m.sockfd → m.sockfd ∈ s.fds.map Prod.fst

def ConnEv.isWrote : ConnEv → Bool
  | .wrote _ => true
  | _ => false

def ConnEv.isClosed : ConnEv → Bool
  | .closed => true
  | _ => false

/-- Every accepted connection is written at most once, is closed once it is
no longer open and not before, and sees nothing after the close. -/
def OncePerConnection (s : Sys) : Prop :=
  ∀ c < s.nextConn,
    (s.hist c).countP ConnEv.isWrote ≤ 1 ∧
    (s.hist c).countP ConnEv.isClosed = (if c ∈ s.fds.map Prod.snd then 0 else 1) ∧
    ∀ pre post, s.hist c = pre ++ .closed :: post → post = []

/-- What is written on a connection is the reply to what was read on it: the
same as when this connection is served alone, in the environment of its own
round and with what the database thread found for it. -/
def OwnAnswers (s : Sys) : Prop :=
  ∀ c r, .wrote r ∈ s.hist c → ∃ m env inc db, trail m env inc db <+: s.hist c ∧
    servedAlone m env inc db = .ok (.reply r)

theorem Inv.oneMessage {g : Prop} {s : Sys} (h : Inv g s) : OneMessage s := by
  have hcount : ∀ fd : Int, 0 ≤ fd → naming fd s.messages = (s.fds.map Prod.fst).count fd :=
    fun fd hfd => by
      rw [naming_messages h.entries hfd]
      exact h.ledger.keys.count_eq fd
  refine ⟨fun p hp => ?_, fun m hm hfd => ?_⟩
  · rw [hcount p.1 (h.entries.fds p hp)]
    exact List.count_eq_one_of_mem h.ledger.nodup (List.mem_map.mpr ⟨p, hp, rfl⟩)
  · rw [← List.count_pos_iff, ← hcount m.sockfd hfd]
    exact List.count_pos_iff.mpr (List.mem_map.mpr ⟨m, hm, rfl⟩)

/-- The close is the last event of a finished history. -/
theorem closed_last {h pre post : List ConnEv} {e : ConnEv} (hh : h ++ [e] = pre ++ .closed :: post)
    (hn : h.countP ConnEv.isClosed = 0) : post = [] := by
  rcases List.eq_nil_or_concat post with rfl | ⟨q, x, rfl⟩
  · rfl
  · exfalso
    have hsplit : h = pre ++ .closed :: q := by
      have : h ++ [e] = (pre ++ .closed :: q) ++ [x] := by simpa using hh
      exact (List.append_inj' this rfl).1
    rw [hsplit, List.countP_append, List.countP_cons] at hn
    simp [ConnEv.isClosed] at hn

/-- A history without a close. -/
theorem open_once {h : List ConnEv} (hw : h.countP ConnEv.isWrote ≤ 1)
    (hc : h.countP ConnEv.isClosed = 0) :
    h.countP ConnEv.isWrote ≤ 1 ∧ h.countP ConnEv.isClosed = 0 ∧
      ∀ pre post, h = pre ++ .closed :: post → post = [] := by
  refine ⟨hw, hc, fun pre post he => ?_⟩
  rw [he, List.countP_append, List.countP_cons] at hc
  simp [ConnEv.isClosed] at hc

/-- Before the write nothing is written or closed. -/
theorem trail_counts (m : RpiwdMqmsg) (env : Env) (inc : Incoming) (db : Option Db) :
    (trail m env inc db).countP ConnEv.isWrote = 0 ∧
      (trail m env inc db).countP ConnEv.isClosed = 0 := by
  cases db with
  | none => exact ⟨rfl, rfl⟩
  | some db => exact ⟨rfl, rfl⟩

theorem trail_once (m : RpiwdMqmsg) (env : Env) (inc : Incoming) (db : Option Db) :
    (trail m env inc db).countP ConnEv.isWrote ≤ 1 ∧
      (trail m env inc db).countP ConnEv.isClosed = 0 ∧
      ∀ pre post, trail m env inc db = pre ++ .closed :: post → post = [] := by
  obtain ⟨hw, hc⟩ := trail_counts m env inc db
  exact open_once (by omega) hc

theorem Fits.once {g : Prop} {t : Token} {h : List ConnEv} (hf : Fits g t h) :
    h.countP ConnEv.isWrote ≤ 1 ∧ h.countP ConnEv.isClosed = 0 ∧
      ∀ pre post, h = pre ++ .closed :: post → post = [] := by
  obtain ⟨stage, msg⟩ := t
  obtain ⟨-, hf⟩ := hf
  cases stage with
  | incoming =>
    obtain ⟨rfl, -⟩ := hf
    exact open_once (Nat.zero_le _) rfl
  | atDb =>
    obtain ⟨m, env, inc, rfl, -⟩ := hf
    exact trail_once m env inc none
  | done =>
    obtain ⟨m, env, inc, db, rfl, -⟩ := hf
    exact trail_once m env inc db
  | replying r =>
    obtain ⟨m, env, inc, db, rfl, -⟩ := hf
    exact trail_once m env inc db
  | closing =>
    obtain ⟨m, env, inc, db, rfl | ⟨r, rfl, -⟩⟩ := hf
    · exact trail_once m env inc db
    · obtain ⟨hw, hc⟩ := trail_counts m env inc db
      apply open_once
      · rw [List.countP_append, hw]
        exact Nat.le_refl 1
      · rw [List.countP_append, hc]
        rfl

theorem Gone.once {g : Prop} {h : List ConnEv} (hg : Gone g h) :
    h.countP ConnEv.isWrote ≤ 1 ∧ h.countP ConnEv.isClosed = 1 ∧
      ∀ pre post, h = pre ++ .closed :: post → post = [] := by
  obtain ⟨m, env, inc, db, hg⟩ := hg
  obtain ⟨hw, hc⟩ := trail_counts m env inc db
  rcases hg with rfl | ⟨r, rfl, -⟩
  · rw [List.countP_append, List.countP_append, hw, hc]
    exact ⟨Nat.zero_le _, rfl, fun pre post he => closed_last he hc⟩
  · rw [List.countP_append, List.countP_append, hw, hc]
    refine ⟨Nat.le_refl _, rfl, fun pre post he => ?_⟩
    have hopen : (trail m env inc db ++ [ConnEv.wrote r]).countP ConnEv.isClosed = 0 := by
      rw [List.countP_append, hc]
      rfl
    exact closed_last (h := trail m env inc db ++ [ConnEv.wrote r]) (by simpa using he) hopen

theorem Inv.oncePerConnection {g : Prop} {s : Sys} (h : Inv g s) : OncePerConnection s := by
  intro c hc
  rcases h.ledger.hist_cases hc with ⟨t, -, hmem, hf⟩ | ⟨hnm, hgone⟩
  · have hin : c ∈ s.fds.map Prod.snd := List.mem_map.mpr ⟨_, hmem, rfl⟩
    rw [if_pos hin]
    exact hf.once
  · have hout : c ∉ s.fds.map Prod.snd := hnm
    rw [if_neg hout]
    exact hgone.once

theorem wrote_notMem_trail (m : RpiwdMqmsg) (env : Env) (inc : Incoming) (db : Option Db)
    (r : Reply) : ConnEv.wrote r ∉ trail m env inc db := by
  cases db <;> simp [trail]

/-- Under `g`, a written reply stands behind the events it answers. -/
theorem Fits.answers {t : Token} {h : List ConnEv} (hf : Fits True t h) {r : Reply}
    (hr : .wrote r ∈ h) :
    ∃ m env inc db, trail m env inc db <+: h ∧ servedAlone m env inc db = .ok (.reply r) := by
  obtain ⟨stage, msg⟩ := t
  obtain ⟨-, hf⟩ := hf
  cases stage with
  | incoming =>
    obtain ⟨rfl, -⟩ := hf
    simp at hr
  | atDb =>
    obtain ⟨m, env, inc, rfl, -⟩ := hf
    exact absurd hr (wrote_notMem_trail m env inc none r)
  | done =>
    obtain ⟨m, env, inc, db, rfl, -⟩ := hf
    exact absurd hr (wrote_notMem_trail m env inc db r)
  | replying r' =>
    obtain ⟨m, env, inc, db, rfl, -⟩ := hf
    exact absurd hr (wrote_notMem_trail m env inc db r)
  | closing =>
    obtain ⟨m, env, inc, db, rfl | ⟨r', rfl, hans⟩⟩ := hf
    · exact absurd hr (wrote_notMem_trail m env inc db r)
    · obtain rfl : r = r' := by simpa [wrote_notMem_trail m env inc db r] using hr
      exact ⟨m, env, inc, db, List.prefix_append _ _, hans trivial⟩

theorem Gone.answers {h : List ConnEv} (hg : Gone True h) {r : Reply} (hr : .wrote r ∈ h) :
    ∃ m env inc db, trail m env inc db <+: h ∧ servedAlone m env inc db = .ok (.reply r) := by
  obtain ⟨m, env, inc, db, rfl | ⟨r', rfl, hans⟩⟩ := hg
  · simp [wrote_notMem_trail m env inc db r] at hr
  · obtain rfl : r = r' := by simpa [wrote_notMem_trail m env inc db r] using hr
    exact ⟨m, env, inc, db, List.prefix_append _ _, hans trivial⟩

theorem Inv.ownAnswers {s : Sys} (h : Inv True s) : OwnAnswers s := by
  intro c r hr
  by_cases hc : c < s.nextConn
  · rcases h.ledger.hist_cases hc with ⟨t, -, -, hf⟩ | ⟨-, hgone⟩
    · exact hf.answers hr
    · exact hgone.answers hr
  · have he : s.hist c = [] := h.ledger.fresh c (Nat.not_lt.mp hc)
    rw [he] at hr
    cases hr

/-- **Connections.** In every interleaving of any number of connections, each
open descriptor has one message and each connection at most one answer and
one close; and if every read meets clean variables, the answer written on a
connection is the one to the bytes read on it. -/
theorem connections (W : Nat) :
    (∀ s, (daemon W).Reachable s → OneMessage s ∧ OncePerConnection s) ∧
      ∀ s, ((daemon W).guard ReadsClean).Reachable s → OwnAnswers s :=
  ⟨fun _ h => ⟨(inv_reachable h).oneMessage, (inv_reachable h).oncePerConnection⟩,
    fun _ h => (inv_reachable_clean h).ownAnswers⟩

/-! ## A stale answer -/

/-- One connection on descriptor `fd`, served by worker 0 up to the write. -/
def serveOne (fd : Nat) (rd : ReadResult) : List Label :=
  [.accept fd default, .listenerSend, .workerReceive 0, .workerRound 0 default rd, .workerWrite 0]

/-- A request for a protocol the server does not speak. -/
def wrongProtocol : ReadBuffer :=
  bufferOf (ascii "GET /current a=b HTTP/9\r\n") 0 (by decide) (by decide)

/-- A request that starts with an empty line: no request line is found. -/
def emptyLine : ReadBuffer := bufferOf CRLF 0 (by decide) (by decide)

def wrongProtocolReply : Reply :=
  errorReply 400 400 "rpiweatherd only supports HTTP/1.0 or HTTP/1.1"

/-- The answer to an empty line is the same in every world. -/
theorem emptyLine_answer (m : RpiwdMqmsg) (env : Env) (db : Option Db) :
    servedAlone m env (ReadResult.data emptyLine).incoming db =
      .ok (.reply (errorReply 400 400 "HTTP request is malformed.")) :=
  servedAlone_reply rfl db

/-- Two connections after each other on the same descriptor: the second, an
empty line, is written the answer to the first. -/
theorem stale_answer : ∃ s, (daemon 1).Reachable s ∧
    s.hist 1 = [.accepted (newMessage default 5),
      .read default (ReadResult.data emptyLine).incoming, .wrote wrongProtocolReply] ∧
    ¬ OwnAnswers s := by
  have hrun : ((Sys.start 1).run (serveOne 5 (.data wrongProtocol) ++ [.workerClose 0] ++
      serveOne 5 (.data emptyLine))).map (fun s => s.hist 1) =
      some [.accepted (newMessage default 5),
        .read default (ReadResult.data emptyLine).incoming, .wrote wrongProtocolReply] := rfl
  obtain ⟨s, hs, hh⟩ := Option.map_eq_some_iff.mp hrun
  refine ⟨s, LTS.runFn_reachable rfl hs, hh, fun h => ?_⟩
  obtain ⟨m, env, inc, db, ⟨behind, htrail⟩, hans⟩ := h 1 wrongProtocolReply (by rw [hh]; simp)
  obtain rfl : inc = (ReadResult.data emptyLine).incoming := by
    rw [hh] at htrail
    exact (ConnEv.read.inj (List.cons.inj (List.cons.inj htrail).2).1).2
  rw [emptyLine_answer] at hans
  have hne := Outcome.reply.inj (Except.ok.inj hans)
  revert hne
  decide

/-- The first of the two connections alone meets the side condition, and is
answered. -/
theorem connections_first : ∃ s, ((daemon 1).guard ReadsClean).Reachable s ∧
    .wrote wrongProtocolReply ∈ s.hist 0 ∧ OwnAnswers s := by
  have hrun : ((Sys.start 1).run (serveOne 5 (.data wrongProtocol))).map (fun s => s.hist 0) =
      some [.accepted (newMessage default 5),
        .read default (ReadResult.data wrongProtocol).incoming, .wrote wrongProtocolReply] := rfl
  obtain ⟨s, hs, hh⟩ := Option.map_eq_some_iff.mp hrun
  have hclean : ∀ m, Clean default .start m (ReadResult.data wrongProtocol).incoming := by
    intro m
    have hline : requestLine (ascii "GET /current a=b HTTP/9\r\n") =
        some (ascii "GET /current a=b HTTP/9") := by decide
    refine ⟨by decide, ?_⟩
    show CleanLine default .start m (requestLine (ascii "GET /current a=b HTTP/9\r\n"))
    rw [hline]
    intro _
    rw [if_neg (by decide)]
    rfl
  have hguard : ((daemon 1).guard ReadsClean).Reachable s := by
    refine ⟨Sys.start 1, _, rfl, LTS.runFn_guard hs fun pre lab post t hl ht => ?_⟩
    -- the only label with a condition is the fourth
    rcases pre with _ | ⟨a, _ | ⟨b, _ | ⟨c, _ | ⟨d, _ | ⟨e, pre⟩⟩⟩⟩⟩ <;>
      simp only [serveOne, List.nil_append, List.cons_append, List.cons.injEq, reduceCtorEq,
        and_false, List.nil_eq, List.append_eq_nil_iff] at hl
    · obtain ⟨rfl, -⟩ := hl; trivial
    · obtain ⟨-, rfl, -⟩ := hl; trivial
    · obtain ⟨-, -, rfl, -⟩ := hl; trivial
    · obtain ⟨rfl, rfl, rfl, rfl, -⟩ := hl
      cases ht
      intro w m hw hpc _
      cases hw
      exact hclean m
    · obtain ⟨-, -, -, -, rfl, -⟩ := hl; trivial
  exact ⟨s, hguard, by rw [hh]; simp, (connections 1).2 s hguard⟩

end Rpiweatherd
