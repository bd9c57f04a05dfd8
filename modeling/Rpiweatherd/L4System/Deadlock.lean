import Rpiweatherd.L4System.Routing

/-!
# Cyclic waiting through the worker queue

Workers are the only readers of the worker queue and also write to it
(`current` and `config`), and the database thread answers through it. When
it is full and every worker and the database thread are at an `mq_send`,
nobody ever reads again.

That takes a connection for each message in the queue, each worker and the
database thread: `LISTENER_MQUEUE_MAX_MESSAGES + W + 1` open at once. With
at most one fewer there is no such state (`no_deadlock`), and with exactly
that many there is one (`deadlock_reachable`).
-/
namespace Rpiweatherd

/-- The queue the thread is sending to, if it is at an `mq_send`. -/
def WorkerPc.sendTarget : WorkerPc → Option QueueId
  | .sending q _ => some q
  | _ => none

def DbPc.sendTarget : DbPc → Option QueueId
  | .sending m => some m.receiverMq
  | _ => none

/-- At an `mq_send` to a full queue. -/
def Sys.Blocked (s : Sys) (target : Option QueueId) : Prop := ∃ q, target = some q ∧ s.full q

/-- Messages are waiting, and every worker and the database thread are
blocked in `mq_send`. -/
def Deadlocked (s : Sys) : Prop :=
  (s.workerQ ≠ [] ∨ s.dbQ ≠ []) ∧
    (∀ w ∈ s.workers, s.Blocked w.pc.sendTarget) ∧ s.Blocked s.db.sendTarget

/-! ## Counting -/

/-- A worker at an `mq_send` holds a message. -/
theorem sendTarget_tokens {pc : WorkerPc} {q : QueueId} (h : pc.sendTarget = some q) :
    pc.tokens.length = 1 := by
  cases pc with
  | sending q' m => cases q' <;> rfl
  | _ => cases h

theorem workers_tokens_length :
    ∀ {ws : List Worker}, (∀ w ∈ ws, ∃ q, w.pc.sendTarget = some q) →
      (ws.flatMap fun w => w.pc.tokens).length = ws.length
  | [], _ => rfl
  | w :: ws, h => by
    obtain ⟨q, hq⟩ := h w (List.mem_cons_self ..)
    have ih := workers_tokens_length fun x hx => h x (List.mem_cons_of_mem _ hx)
    rw [List.flatMap_cons, List.length_append, sendTarget_tokens hq, ih, List.length_cons]
    omega

/-- A deadlock needs a connection for every message in the worker queue, for
every worker and for the database thread. -/
theorem Inv.deadlocked_fds {g : Prop} {s : Sys} (h : Inv g s) (hd : Deadlocked s) :
    LISTENER_MQUEUE_MAX_MESSAGES + s.workers.length + 1 ≤ s.fds.length := by
  obtain ⟨-, hws, q, hq, hfull⟩ := hd
  cases hdb : s.db with
  | receiving => rw [hdb] at hq; cases hq
  | got m => rw [hdb] at hq; cases hq
  | sending m =>
    have hmem : (⟨.done, m⟩ : Token) ∈ s.tokens := by simp [Sys.tokens, hdb, DbPc.tokens]
    obtain ⟨es, hrecv, -⟩ := h.fits hmem
    -- the database thread answers to the worker queue
    rw [hdb] at hq
    obtain rfl : QueueId.worker = q := hrecv.symm.trans (Option.some.inj hq)
    have hlen : s.tokens.length = s.fds.length := h.ledger.length
    have hsend : ∀ w ∈ s.workers, ∃ q, w.pc.sendTarget = some q := fun w hw =>
      (hws w hw).imp fun _ hb => hb.1
    have hw := workers_tokens_length hsend
    simp only [Sys.full] at hfull
    simp only [Sys.tokens, hdb, DbPc.tokens, List.length_append, List.length_map, hw,
      List.length_cons, List.length_nil] at hlen
    omega

/-! ## The number of open connections -/

/-- A step keeps the number of workers, and only `accept` opens a
descriptor. -/
theorem step_counts {s s' : Sys} {lab : Label} (hs : s.step lab = some s') :
    s'.workers.length = s.workers.length ∧
      (s'.fds.length ≤ s.fds.length ∨
        ((∃ fd stack, lab = .accept fd stack) ∧ s'.fds.length = s.fds.length + 1)) := by
  have hpush : ∀ {t t' : Sys} {q m}, t.push q m = some t' →
      t'.workers.length = t.workers.length ∧ t'.fds.length ≤ t.fds.length := fun h => by
    obtain ⟨hf, -, -, -, -, -, hw, -⟩ := push_frame h
    rw [hf, hw]
    exact ⟨rfl, Nat.le_refl _⟩
  unfold Sys.step at hs
  split at hs
  · obtain ⟨w, -, hs⟩ := Option.bind_eq_some_iff.mp hs
    unfold Sys.stepWorker at hs
    split at hs
    · split at hs <;> cases hs
      exact ⟨List.length_set .., .inl (Nat.le_refl _)⟩
    · split at hs
      · split at hs <;> cases hs
        unfold Sys.recordRead
        split <;> exact ⟨List.length_set .., .inl (Nat.le_refl _)⟩
      · cases hs
    · split at hs <;> cases hs
      exact ⟨List.length_set .., .inl (Nat.le_refl _)⟩
    · split at hs <;> cases hs
      exact ⟨List.length_set .., .inl (List.length_filter_le ..)⟩
    · split at hs
      · obtain ⟨h1, h2⟩ := hpush hs
        exact ⟨h1.trans (List.length_set ..), .inl h2⟩
      · cases hs
    · cases hs
  · split at hs
    · unfold Sys.accept at hs
      split at hs
      · split at hs <;> cases hs
        exact ⟨rfl, .inr ⟨⟨_, _, rfl⟩, rfl⟩⟩
      · cases hs
    · unfold Sys.listenerSend at hs
      split at hs
      · exact (hpush hs).imp id .inl
      · cases hs
    · unfold Sys.dbReceive at hs
      split at hs <;> cases hs
      exact ⟨rfl, .inl (Nat.le_refl _)⟩
    · unfold Sys.dbRound at hs
      split at hs
      · split at hs <;> cases hs <;> exact ⟨rfl, .inl (Nat.le_refl _)⟩
      · cases hs
    · unfold Sys.dbSend at hs
      split at hs
      · exact (hpush hs).imp id .inl
      · cases hs
    · unfold Sys.measure at hs
      split at hs <;> cases hs
      exact ⟨rfl, .inl (Nat.le_refl _)⟩
    · unfold Sys.sensorSend at hs
      split at hs
      · exact (hpush hs).imp id .inl
      · cases hs
    · cases hs

/-- A connection is accepted only while fewer than the worker queue's size
plus the number of workers are open. -/
def Roomy (s : Sys) : Label → Prop
  | .accept _ _ => s.fds.length < LISTENER_MQUEUE_MAX_MESSAGES + s.workers.length
  | _ => True

theorem roomy_inductive (W : Nat) :
    ((daemon W).guard Roomy).Inductive fun s =>
      Inv False s ∧ s.fds.length ≤ LISTENER_MQUEUE_MAX_MESSAGES + s.workers.length := by
  refine ⟨fun s hs => ?_, fun s lab s' ⟨hi, hle⟩ hs => ?_⟩
  · obtain rfl : s = Sys.start W := hs
    exact ⟨Inv.start False W, Nat.zero_le _⟩
  · refine ⟨inv_step hi False.elim hs.1, ?_⟩
    obtain ⟨hw, hf | ⟨⟨fd, stack, rfl⟩, hf⟩⟩ := step_counts hs.1
    · omega
    · have hroom : s.fds.length < LISTENER_MQUEUE_MAX_MESSAGES + s.workers.length := hs.2
      omega

/-- **No deadlock.** For every number of workers, every arrival order and
every interleaving, as long as connections are accepted with room. -/
theorem no_deadlock (W : Nat) (s : Sys) (h : ((daemon W).guard Roomy).Reachable s) :
    ¬ Deadlocked s := by
  intro hd
  obtain ⟨hi, hle⟩ := (roomy_inductive W).reachable h
  have := hi.deadlocked_fds hd
  omega

/-- A connection waiting in the queue of four workers. -/
theorem no_deadlock_waiting : ∃ s, ((daemon 4).guard Roomy).Reachable s ∧ s.workerQ ≠ [] ∧
    ¬ Deadlocked s := by
  have hrun : ((Sys.start 4).run [.accept 5 default, .listenerSend]).map
      (fun s => s.workerQ.length) = some 1 := rfl
  obtain ⟨s, hs, hq⟩ := Option.map_eq_some_iff.mp hrun
  have hr : ((daemon 4).guard Roomy).Reachable s := by
    refine ⟨Sys.start 4, _, rfl, LTS.runFn_guard hs fun pre lab post t hl ht => ?_⟩
    rcases pre with _ | ⟨a, _ | ⟨b, pre⟩⟩ <;>
      simp only [List.nil_append, List.cons_append, List.cons.injEq, reduceCtorEq, and_false,
        List.nil_eq, List.append_eq_nil_iff] at hl
    · obtain ⟨rfl, -⟩ := hl
      cases ht
      show 0 < 512 + 4
      omega
    · obtain ⟨-, rfl, -⟩ := hl; trivial
  refine ⟨s, hr, fun he => ?_, no_deadlock 4 s hr⟩
  rw [he] at hq
  cases hq

/-! ## The deadlock -/

/-- What the listener needs to go on accepting: descriptors are numbered
like connections. -/
structure Filling (s : Sys) : Prop where
  listener : s.listener = .accepting
  fds : ∀ p ∈ s.fds, p.1 < s.nextConn

/-- The listener can fill the worker queue while all others wait. -/
theorem fill_queue : ∀ (k : Nat) {s : Sys}, Filling s →
    s.workerQ.length + k ≤ LISTENER_MQUEUE_MAX_MESSAGES →
    ∃ ls s', s.run ls = some s' ∧ s'.workerQ.length = s.workerQ.length + k ∧
      s'.workers = s.workers ∧ s'.db = s.db
  | 0, s, _, _ => ⟨[], s, rfl, rfl, rfl, rfl⟩
  | k + 1, s, hf, hk => by
    have hfree : ((s.nextConn : Nat) : Int) ∉ s.fds.map Prod.fst := by
      intro hm
      obtain ⟨p, hp, he⟩ := List.mem_map.mp hm
      have := hf.fds p hp
      omega
    have hroom : ¬ LISTENER_MQUEUE_MAX_MESSAGES ≤ s.workerQ.length := by omega
    -- one connection: accepted, then put into the queue
    have hacc : s.step (.accept s.nextConn default) = some { s with
        listener := .sending (newMessage default s.nextConn)
        fds := ((s.nextConn : Int), s.nextConn) :: s.fds
        nextConn := s.nextConn + 1
        hist := Function.update s.hist s.nextConn [.accepted (newMessage default s.nextConn)] } := by
      show s.accept s.nextConn default = _
      unfold Sys.accept
      rw [hf.listener]
      exact if_neg hfree
    obtain ⟨t, ht, hlis, hfds, hnext, hq, hw, hdb⟩ : ∃ t,
        s.run [.accept s.nextConn default, .listenerSend] = some t ∧ t.listener = .accepting ∧
          t.fds = ((s.nextConn : Int), s.nextConn) :: s.fds ∧ t.nextConn = s.nextConn + 1 ∧
          t.workerQ.length = s.workerQ.length + 1 ∧ t.workers = s.workers ∧ t.db = s.db := by
      refine ⟨{ s with
        workerQ := s.workerQ ++ [newMessage default s.nextConn]
        listener := .accepting
        fds := ((s.nextConn : Int), s.nextConn) :: s.fds
        nextConn := s.nextConn + 1
        hist := Function.update s.hist s.nextConn [.accepted (newMessage default s.nextConn)] },
        ?_, rfl, rfl, rfl, by simp, rfl, rfl⟩
      simp only [Sys.run, LTS.runFn, hacc, Option.bind_some]
      exact congrArg (Option.bind · some) (if_neg hroom)
    have hft : Filling t := by
      refine ⟨hlis, fun p hp => ?_⟩
      rw [hfds] at hp
      rw [hnext]
      rcases List.mem_cons.mp hp with rfl | hp
      · simp only; omega
      · have := hf.fds p hp
        omega
    obtain ⟨ls, s', hs', hq', hw', hdb'⟩ := fill_queue k hft (by omega)
    refine ⟨[.accept s.nextConn default, .listenerSend] ++ ls, s', ?_, by omega, hw'.trans hw,
      hdb'.trans hdb⟩
    rw [Sys.run_append, ht]
    exact hs'

/-- The request bytes, followed by NULs. -/
def statisticsRead : ReadResult :=
  .data (bufferOf (ascii "GET /statistics HTTP/1.1\r\n") 0 (by decide) (by decide))

def configRead : ReadResult :=
  .data (bufferOf (ascii "GET /config HTTP/1.1\r\n") 0 (by decide) (by decide))

/-- A database whose statistics table is empty. -/
def emptyDb : Db := ⟨fun _ => 0, fun _ => some [], fun _ => some []⟩

/-- A `statistics` request is answered by the database thread, and a `config`
request by the worker; neither answer is in the queue yet. -/
def beforeFill : List Label :=
  [.accept 0 default, .listenerSend, .workerReceive 0, .workerRound 0 default statisticsRead,
    .workerSend 0, .dbReceive, .dbRound emptyDb, .accept 1 default, .listenerSend,
    .workerReceive 0, .workerRound 0 default configRead]

/-- **Deadlock.** With one worker: the listener fills the worker queue while
the database thread and the worker hold their answers. -/
theorem deadlock_reachable : ∃ s, (daemon 1).Reachable s ∧ Deadlocked s := by
  have hrun : ((Sys.start 1).run beforeFill).map (fun s =>
      (s.workers.map fun w => w.pc.sendTarget, s.db.sendTarget, s.workerQ.length,
        s.fds, s.nextConn, s.listener)) =
      some ([some .worker], some .worker, 0, [(1, 1), (0, 0)], 2, .accepting) := rfl
  obtain ⟨s, hs, hprobe⟩ := Option.map_eq_some_iff.mp hrun
  simp only [Prod.mk.injEq] at hprobe
  obtain ⟨hw, hdb, hq, hfds, hnext, hlis⟩ := hprobe
  have hf : Filling s := by
    refine ⟨hlis, fun p hp => ?_⟩
    rw [hfds] at hp
    rw [hnext]
    revert p
    decide
  obtain ⟨ls, t, ht, hqt, hwt, hdbt⟩ := fill_queue 512 hf (by rw [hq]; decide)
  have hfull : t.full .worker := by
    show 512 ≤ t.workerQ.length
    omega
  have hfill : (Sys.start 1).run (beforeFill ++ ls) = some t := by
    rw [Sys.run_append, hs]
    exact ht
  refine ⟨t, LTS.runFn_reachable rfl hfill, .inl ?_, fun w hwm => ?_, ?_⟩
  · rintro he
    rw [he, hq] at hqt
    cases hqt
  · have hmem : w.pc.sendTarget ∈ s.workers.map fun w => w.pc.sendTarget :=
      List.mem_map.mpr ⟨w, hwt ▸ hwm, rfl⟩
    rw [hw, List.mem_singleton] at hmem
    exact ⟨.worker, hmem, hfull⟩
  · exact ⟨.worker, hdbt ▸ hdb, hfull⟩

end Rpiweatherd
