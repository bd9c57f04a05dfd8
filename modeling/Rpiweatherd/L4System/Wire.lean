import Rpiweatherd.L3Listener.CleanRounds
import Rpiweatherd.L4System.Steps

/-!
# What is ever written to a client

`Wired` follows the contents of the messages through the daemon, in any
interleaving: what is on its way to the database was asked properly, what
comes back is complete, and what is written is clean. It does not look at the
fields that a message has from the listener's stack, nor at the variables that
a worker keeps from one message to the next.

**Result.** `replies_readable`: when the sensor, SQLite and the configuration
hand out C strings and `float`s, every reply on every connection is one that
its client can read: a response with the right status, and a body that a JSON
parser turns into the document, whose `errcode` is 0 exactly if the status is
200.
-/
namespace Rpiweatherd

/-- The world hands out C strings and finite numbers. -/
def CleanLabel (_ : Sys) : Label → Prop
  | .workerRound _ env _ => CleanEnv env
  | .dbRound db => CleanDb db
  | _ => True

/-- What a worker has in hand. -/
def WorkerPc.Clean : WorkerPc → Prop
  | .got m => m.isCompleted = true → DoneClean m
  | .replying _ r => CleanReply r
  | .sending .worker m => DoneClean m
  | .sending .db m => AskedClean m
  | _ => True

def DbPc.Clean : DbPc → Prop
  | .receiving => True
  | .got m => AskedClean m
  | .sending m => DoneClean m

structure Wired (s : Sys) : Prop where
  listener : ∀ m, s.listener = .sending m → m.isCompleted = false
  workerQ : ∀ m ∈ s.workerQ, m.isCompleted = true → DoneClean m
  workers : ∀ w ∈ s.workers, w.pc.Clean
  dbQ : ∀ m ∈ s.dbQ, AskedClean m
  db : s.db.Clean
  sensor : ∀ m, s.sensor = .sending m → AskedClean m
  written : ∀ c r, .wrote r ∈ s.hist c → CleanReply r

theorem wired_start (W : Nat) : Wired (Sys.start W) where
  listener m h := nomatch h
  workerQ m h := nomatch h
  workers w h := by
    rw [List.eq_of_mem_replicate h]
    trivial
  dbQ m h := nomatch h
  db := trivial
  sensor m h := nomatch h
  written c r h := nomatch h

/-! ## Histories and threads -/

theorem mem_record {fds : List (Int × Nat)} {hist : Nat → List ConnEv} {fd : Int} {e x : ConnEv}
    {c : Nat} (h : x ∈ Ledger.record fds hist fd e c) :
    x ∈ hist c ∨ (fds.lookup fd = some c ∧ x = e) := by
  cases hl : fds.lookup fd with
  | none =>
    simp only [Ledger.record, hl] at h
    exact .inl h
  | some c' =>
    simp only [Ledger.record, hl] at h
    by_cases hc : c = c'
    · subst hc
      rw [Function.update_self] at h
      exact (List.mem_append.mp h).imp_right fun hx => ⟨rfl, List.mem_singleton.mp hx⟩
    · rw [Function.update_of_ne hc] at h
      exact .inl h

section Written
variable {P : Nat → Reply → Prop} {hist : Nat → List ConnEv}

/-- An event that is no write adds no reply. -/
theorem written_record (h : ∀ c r, .wrote r ∈ hist c → P c r) {fds : List (Int × Nat)} {fd : Int}
    {e : ConnEv} (he : ∀ c r, fds.lookup fd = some c → e = .wrote r → P c r) :
    ∀ c r, .wrote r ∈ Ledger.record fds hist fd e c → P c r := by
  intro c r hr
  rcases mem_record hr with hr | ⟨hc, rfl⟩
  · exact h c r hr
  · exact he c r hc rfl

/-- A new connection has no reply. -/
theorem written_accept (h : ∀ c r, .wrote r ∈ hist c → P c r) (n : Nat) (m : RpiwdMqmsg) :
    ∀ c r, .wrote r ∈ Function.update hist n [.accepted m] c → P c r := by
  intro c r hr
  by_cases hc : c = n
  · subst hc
    rw [Function.update_self] at hr
    cases List.mem_singleton.mp hr
  · rw [Function.update_of_ne hc] at hr
    exact h c r hr

end Written

theorem workers_set {P : Worker → Prop} {ws : List Worker} (h : ∀ w ∈ ws, P w) (i : Nat)
    {w : Worker} (hw : P w) : ∀ w' ∈ ws.set i w, P w' := by
  intro w' hw'
  rcases List.mem_or_eq_of_mem_set hw' with hw' | rfl
  · exact h w' hw'
  · exact hw

theorem mem_workers {s : Sys} {i : Nat} {w : Worker} (h : s.workers[i]? = some w) :
    w ∈ s.workers := List.mem_of_getElem? h

/-- Where an outcome takes a worker. -/
theorem pcOf_clean {m : RpiwdMqmsg} {out : Outcome} (h : out.Clean) : (pcOf m out).Clean := by
  cases out with
  | reply r => exact h
  | silent => trivial
  | toDb m' => exact h
  | toWorker m' => exact h

theorem forall_mem_snoc {α : Type} {P : α → Prop} {l : List α} (h : ∀ a ∈ l, P a) {b : α}
    (hb : P b) : ∀ a ∈ l ++ [b], P a :=
  List.forall_mem_append.mpr ⟨h, List.forall_mem_singleton.mpr hb⟩

/-- **One step** keeps what the messages and replies contain. -/
theorem wired_step {s s' : Sys} {lab : Label} (h : Wired s) (hlab : CleanLabel s lab)
    (hs : s.Takes lab s') : Wired s' := by
  cases hs with
  | accept fd stack hl hfree =>
    refine { h with listener := ?_, written := written_accept h.written s.nextConn _ }
    rintro m ⟨⟩
    rfl
  | @listenerSend m hl =>
    refine { h with listener := fun m hm => (nomatch hm), workerQ := ?_ }
    refine forall_mem_snoc h.workerQ fun hdone => ?_
    rw [h.listener m hl] at hdone
    cases hdone
  | @workerReceive i w m q hw hpc hq =>
    have hmem : ∀ x ∈ m :: q, x.isCompleted = true → DoneClean x := hq ▸ h.workerQ
    obtain ⟨hm, hrest⟩ := List.forall_mem_cons.mp hmem
    exact { h with workerQ := hrest, workers := workers_set h.workers i hm }
  | @workerRound i env rd w m out l hw hpc hround =>
    have hm : w.pc.Clean := h.workers w (mem_workers hw)
    rw [hpc] at hm
    have hout := workerRound_clean hlab hm hround
    rw [Sys.recordRead_eq]
    refine { h with workers := workers_set h.workers i (pcOf_clean hout), written := ?_ }
    unfold Sys.recordRead
    split
    · exact h.written
    · exact written_record h.written fun c r _ he => nomatch he
  | @workerWrite i w m r hw hpc =>
    have hr : w.pc.Clean := h.workers w (mem_workers hw)
    rw [hpc] at hr
    refine { h with workers := workers_set h.workers i trivial, written := ?_ }
    refine written_record h.written ?_
    rintro c r' - ⟨⟩
    exact hr
  | @workerClose i w m hw hpc =>
    exact { h with
      workers := workers_set h.workers i trivial
      written := written_record h.written fun c r _ he => nomatch he }
  | @sendToWorker i w m hw hpc =>
    have hm : w.pc.Clean := h.workers w (mem_workers hw)
    rw [hpc] at hm
    exact { h with
      workers := workers_set h.workers i trivial
      workerQ := forall_mem_snoc h.workerQ fun _ => hm }
  | @sendToDb i w m hw hpc hroom =>
    have hm : w.pc.Clean := h.workers w (mem_workers hw)
    rw [hpc] at hm
    exact { h with
      workers := workers_set h.workers i trivial
      dbQ := forall_mem_snoc h.dbQ hm }
  | @dbReceive m q hdb hq =>
    have hmem : ∀ x ∈ m :: q, AskedClean x := hq ▸ h.dbQ
    obtain ⟨hm, hrest⟩ := List.forall_mem_cons.mp hmem
    exact { h with db := hm, dbQ := hrest }
  | @dbAnswer db m m' hdb hround =>
    have hm := h.db
    rw [hdb] at hm
    exact { h with
      db := dbProcess_clean hlab hm hround
      written := written_record h.written fun c r _ he => nomatch he }
  | dbStore hdb hround => exact { h with db := trivial }
  | @dbSend m hdb =>
    have hm := h.db
    rw [hdb] at hm
    exact { h with db := trivial, workerQ := forall_mem_snoc h.workerQ fun _ => hm }
  | measure stack e hsensor =>
    refine { h with sensor := ?_ }
    rintro m ⟨⟩
    trivial
  | @sensorSend m hsensor hroom =>
    exact { h with
      sensor := fun m hm => (nomatch hm)
      dbQ := forall_mem_snoc h.dbQ (h.sensor m hsensor) }

theorem wired_reachable {W : Nat} {s : Sys} (h : ((daemon W).guard CleanLabel).Reachable s) :
    Wired s := by
  have hind : ((daemon W).guard CleanLabel).Inductive fun s => Inv False s ∧ Wired s := by
    constructor
    · rintro s rfl
      exact ⟨Inv.start False W, wired_start W⟩
    · rintro s lab s' ⟨hinv, hw⟩ ⟨hs, hlab⟩
      exact ⟨inv_step hinv False.elim hs, wired_step hw hlab (Sys.step_takes hinv hs)⟩
  exact (hind.reachable h).2

/-! ## What the client reads -/

theorem CleanReply.body {r : Reply} (h : CleanReply r) : r.body.Clean := by
  cases h with
  | noContent => trivial
  | error h => exact h
  | document h => exact h

/-- The status line of a reply. -/
def Reply.statusLine (r : Reply) : Bytes := ascii "HTTP/1.1 " ++ (httpCodeStr r.code).getD []

theorem CleanReply.status {r : Reply} (h : CleanReply r) :
    httpCodeStr r.code = some ((httpCodeStr r.code).getD []) := by
  cases h <;> rfl

theorem CleanReply.code_document {r : Reply} (h : CleanReply r) {data : Data}
    {tempunit : Option UInt8} (hbody : r.body = .document data tempunit) : r.code = HTTP_CODE_OK := by
  cases h with
  | noContent => cases hbody
  | error _ => cases hbody
  | document _ => rfl

/-- The error code is that of a success exactly for a 200. -/
theorem CleanReply.errcode_iff {r : Reply} (h : CleanReply r) (hne : r.body ≠ .empty) :
    r.body.errcode = 0 ↔ r.code = HTTP_CODE_OK := by
  have h400 : HTTP_CODE_REQUEST_BAD_REQUEST ≠ HTTP_CODE_OK := by decide
  cases h with
  | noContent => exact absurd rfl hne
  | error h => exact ⟨fun h0 => absurd h0 h.2.1, fun hcode => absurd hcode h400⟩
  | document h => exact ⟨fun _ => rfl, fun _ => rfl⟩

/-- What a client that is sent `r` reads: the status, nothing else for a 204,
and otherwise the document of the reply, with an error code that agrees with
the status. -/
def ReadsReply (env : ReplyEnv) (r : Reply) : Prop :=
  ∃ root response, r.body.root = .ok root ∧ sendReply env r = .ok (some response) ∧
    clientReads response = some (r.statusLine, root.map fun o => o.toValue.toJson.reread) ∧
    (root = none ↔ r.code = HTTP_CODE_NO_CONTENT) ∧
    ∀ o ∈ root, ∃ errcode : Int,
      o.toValue.toJson.reread.getValue (ascii "errcode") = some (.number (.num errcode)) ∧
      (errcode = 0 ↔ r.code = HTTP_CODE_OK)

theorem CleanReply.reads {r : Reply} (h : CleanReply r) {env : ReplyEnv} (hready : env.Ready)
    (hfits : ∀ o, r.body.root = .ok (some o) → TextFits o) : ReadsReply env r := by
  obtain ⟨root, hroot, hempty, herrcode, hsend⟩ :=
    clientReads_sendReply hready h.body h.status
  obtain ⟨response, hresponse, hreads⟩ := hsend fun o ho => hfits o (by rw [hroot, ho])
  refine ⟨root, response, hroot, hresponse, hreads, ?_, fun o ho => ?_⟩
  · have h400 : HTTP_CODE_REQUEST_BAD_REQUEST ≠ HTTP_CODE_NO_CONTENT := by decide
    have h200 : HTTP_CODE_OK ≠ HTTP_CODE_NO_CONTENT := by decide
    rw [hempty]
    cases h with
    | noContent => exact ⟨fun _ => rfl, fun _ => rfl⟩
    | error _ => exact ⟨fun he => (nomatch he), fun he => absurd he h400⟩
    | document _ => exact ⟨fun he => (nomatch he), fun he => absurd he h200⟩
  · refine ⟨r.body.errcode, herrcode o ho, h.errcode_iff fun he => ?_⟩
    rw [hempty.mpr he] at ho
    cases ho

/-- **Every reply can be read.** In every run in which the sensor, SQLite and
the configuration hand out C strings and finite numbers, whatever was written
on any connection is a response its client reads as the status and the
document; its error code is 0 exactly for a 200. -/
theorem replies_readable {W : Nat} {s : Sys} (h : ((daemon W).guard CleanLabel).Reachable s)
    {c : Nat} {r : Reply} (hr : .wrote r ∈ s.hist c) {env : ReplyEnv} (hready : env.Ready)
    (hfits : ∀ o, r.body.root = .ok (some o) → TextFits o) : ReadsReply env r :=
  ((wired_reachable h).written c r hr).reads hready hfits

def ConnEv.reply : ConnEv → Option Reply
  | .wrote r => some r
  | _ => none

theorem wrote_of_reply {h : List ConnEv} {r : Reply} (hr : r ∈ h.filterMap ConnEv.reply) :
    .wrote r ∈ h := by
  obtain ⟨e, he, heq⟩ := List.mem_filterMap.mp hr
  cases e with
  | wrote r' =>
    cases heq
    exact he
  | _ => cases heq

def unknownCommand : ReadBuffer :=
  bufferOf (ascii "GET /weather HTTP/1.1\r\n") 0 (by decide) (by decide)

/-- One connection, up to the reply. -/
def knock : List Label :=
  [.accept 5 default, .listenerSend, .workerReceive 0,
    .workerRound 0 default (.data unknownCommand), .workerWrite 0]

def unknownReply : Reply :=
  errorReply HTTP_CODE_REQUEST_BAD_REQUEST CALLBACK_RETCODE_UNKNOWN_COMMAND
    (commandCallbackStrerror CALLBACK_RETCODE_UNKNOWN_COMMAND)

theorem cleanEnv_default : CleanEnv default where
  device k := ⟨by show |(0 : ℚ)| < 2 ^ 128; norm_num, by show |(0 : ℚ)| < 2 ^ 128; norm_num⟩
  measureLocation := by rintro t ⟨⟩; decide
  deviceName := by rintro t ⟨⟩; decide
  queryInterval := by rintro t ⟨⟩; decide
  figures := by decide

/-- The client of an unknown command reads its error. -/
theorem unknown_command_read : ∃ s, ((daemon 1).guard CleanLabel).Reachable s ∧
    .wrote unknownReply ∈ s.hist 0 ∧ ReadsReply plainEnv unknownReply := by
  have hrun : ((Sys.start 1).run knock).map (fun s => (s.hist 0).filterMap ConnEv.reply) =
      some [unknownReply] := by decide +kernel
  obtain ⟨s, hs, hh⟩ := Option.map_eq_some_iff.mp hrun
  have hclean : ∀ lab ∈ knock, ∀ s, CleanLabel s lab := by
    simp only [knock, List.forall_mem_cons]
    exact ⟨fun _ => trivial, fun _ => trivial, fun _ => trivial, fun _ => cleanEnv_default,
      fun _ => trivial, fun _ h => (nomatch h)⟩
  have hreach : ((daemon 1).guard CleanLabel).Reachable s := by
    refine ⟨Sys.start 1, _, rfl, LTS.runFn_guard hs fun pre lab post t hl _ => ?_⟩
    refine hclean lab ?_ t
    rw [hl]
    exact List.mem_append_right _ (List.mem_cons_self ..)
  have hwrote : .wrote unknownReply ∈ s.hist 0 :=
    wrote_of_reply (by rw [hh]; exact List.mem_singleton.mpr rfl)
  refine ⟨s, hreach, hwrote, replies_readable hreach hwrote plainEnv_ready fun o ho => ?_⟩
  have hlength : ((errorDocument CALLBACK_RETCODE_UNKNOWN_COMMAND
      (some (ascii (commandCallbackStrerror CALLBACK_RETCODE_UNKNOWN_COMMAND)))).toValue.toJson.text
      false 0).length < INT_MAX.toNat := by decide +kernel
  cases ho
  exact hlength

end Rpiweatherd
