import Rpiweatherd.L4System.Store
import Rpiweatherd.L4System.Wire

/-!
# What a fetch returns

`Store.lean` says what the database thread answers; here the answer is
followed through the queue of the workers to the socket. The list of entries
that a client gets is the one its query selects from the table as it was after
exactly the messages that were queued before the request: entries of the
sensor that came before and were stored are in it, those that came later are
not, and no other connection has any influence.
-/
namespace Rpiweatherd

/-! ## Who a message belongs to -/

/-- Opening and closing other descriptors does not change what one stands
for. -/
theorem Sys.Takes.lookup_eq {s s' : Sys} {lab : Label} (hs : s.Takes lab s') {fd : Int}
    (hold : fd ∈ s.fds.map Prod.fst) (hnew : fd ∈ s'.fds.map Prod.fst) :
    s'.fds.lookup fd = s.fds.lookup fd := by
  cases hs with
  | accept n stack hl hfree =>
    have hne : (fd == (n : Int)) = false := by
      rw [beq_eq_false_iff_ne]
      rintro rfl
      exact hfree hold
    show List.lookup fd (((n : Int), s.nextConn) :: s.fds) = _
    rw [List.lookup_cons, hne]
  | @workerClose i w m hw hpc => exact Ledger.lookup_drop (Ledger.ne_of_mem_drop hnew) _
  | @workerRound i env rd w m out l hw hpc hround => rw [Sys.recordRead_eq]; rfl
  | _ => rfl

/-- A message that a worker has read keeps its connection. -/
theorem Sys.Takes.owner_eq {s s' : Sys} {lab : Label} (hs : s.Takes lab s') (hinv : Inv False s)
    (hinv' : Inv False s') {tok : Token} (htok : tok ∈ s'.tokens) (hstage : tok.stage ≠ .incoming) :
    s'.owner tok.msg = s.owner tok.msg := by
  have hkey : ∀ {s : Sys}, Inv False s → tok ∈ s.tokens → tok.fd ∈ s.fds.map Prod.fst :=
    fun hinv htok => hinv.ledger.keys.subset (List.mem_map_of_mem htok)
  have hnew := hkey hinv' htok
  by_cases hold : tok.fd ∈ s.fds.map Prod.fst
  · exact hs.lookup_eq hold hnew
  · -- only a new connection has a descriptor of its own, and its message is unread
    exfalso
    cases hs with
    | accept n stack hl hfree =>
      rcases List.mem_cons.mp (show tok ∈ ⟨.incoming, newMessage stack n⟩ :: _ from htok)
        with rfl | htok
      · exact hstage rfl
      · refine hold (hkey hinv ?_)
        simpa [Sys.tokens, hl, ListenerPc.tokens] using htok
    | @workerClose i w m hw hpc =>
      exact hold ((List.filter_sublist.map Prod.fst).subset hnew)
    | @workerRound i env rd w m out l hw hpc hround =>
      rw [Sys.recordRead_eq] at hnew
      exact hold hnew
    | _ => exact hold hnew

/-! ### Messages and their tokens -/

theorem mem_tokens_workerQ {s : Sys} {m : RpiwdMqmsg} (h : m ∈ s.workerQ) :
    carried m ∈ s.tokens := by
  have hmem := List.mem_map_of_mem (f := carried) h
  simp only [Sys.tokens, List.mem_append]
  exact .inl (.inl (.inl (.inr hmem)))

theorem mem_tokens_worker {s : Sys} {w : Worker} (h : w ∈ s.workers) :
    ∀ tok ∈ w.pc.tokens, tok ∈ s.tokens := by
  intro tok htok
  have hmem : tok ∈ s.workers.flatMap fun w => w.pc.tokens := List.mem_flatMap.mpr ⟨w, h, htok⟩
  simp only [Sys.tokens, List.mem_append]
  exact .inl (.inl (.inr hmem))

/-- A client's request that the database has not answered. -/
theorem mem_tokens_waiting {s : Sys} {m : RpiwdMqmsg} (h : m ∈ s.db.held.toList ++ s.dbQ)
    (hfor : ForDb m) : (⟨.atDb, m⟩ : Token) ∈ s.tokens := by
  have hcarried : (⟨.atDb, m⟩ : Token) ∈ dbCarried m := by
    rw [dbCarried, if_neg hfor.not_entry]
    exact List.mem_singleton.mpr rfl
  simp only [Sys.tokens, List.mem_append]
  rcases List.mem_append.mp h with h | h
  · right
    cases hdb : s.db with
    | got m' =>
      rw [hdb] at h
      cases List.mem_singleton.mp h
      exact hcarried
    | receiving => rw [hdb] at h; cases h
    | sending m' => rw [hdb] at h; cases h
  · exact .inl (.inr (List.mem_flatMap.mpr ⟨m, h, hcarried⟩))

/-! ## Where answers are -/

/-- The answers so far, and whose requests were queued. -/
structure Ghosts where
  answers : List (Nat × RpiwdMqmsg)
  owners : List (Option Nat)

def Store.ghosts (t : Store) : Ghosts := ⟨t.answers, t.owners⟩

/-- `m` is the answer to a request of the connection. -/
def Ghosts.Answered (g : Ghosts) (own : Option Nat) (m : RpiwdMqmsg) : Prop :=
  ∃ i, (i, m) ∈ g.answers ∧ g.owners[i]? = some own

/-- A completed message of the database's types is one of its answers. -/
def Known (g : Ghosts) (own : Option Nat) (m : RpiwdMqmsg) : Prop := ForDb m → g.Answered own m

/-- A list of entries in a reply is that of an answer. -/
def FromAnswer (g : Ghosts) (own : Option Nat) (r : Reply) : Prop :=
  ∀ es tempunit, r.body = .document (.entries es) tempunit →
    ∃ m, g.Answered own m ∧ m.mtype = .fetch ∧ m.data = some (.entries es)

def WorkerPc.From (g : Ghosts) (own : RpiwdMqmsg → Option Nat) : WorkerPc → Prop
  | .got m => m.isCompleted = true → Known g (own m) m
  | .replying m r => FromAnswer g (own m) r
  | .sending .worker m => ¬ ForDb m
  | _ => True

/-- Answers go where the requests came from; `own` says whom messages belong
to. -/
structure Delivered (own : RpiwdMqmsg → Option Nat) (t : Store) : Prop where
  count : t.owners.length = t.queued.length
  queue : ∀ i m, t.rounds.length ≤ i → t.queued[i]? = some m → ForDb m →
    t.owners[i]? = some (own m)
  listener : ∀ m, t.sys.listener = .sending m → m.isCompleted = false
  workerQ : ∀ m ∈ t.sys.workerQ, m.isCompleted = true → Known t.ghosts (own m) m
  workers : ∀ w ∈ t.sys.workers, w.pc.From t.ghosts own
  db : ∀ m, t.sys.db = .sending m → Known t.ghosts (own m) m
  written : ∀ c r, .wrote r ∈ t.sys.hist c → FromAnswer t.ghosts (some c) r

/-! ## More answers -/

def Ghosts.Extends (g g' : Ghosts) : Prop := g.answers ⊆ g'.answers ∧ g.owners <+: g'.owners

section Mono
variable {g g' : Ghosts} (hext : g.Extends g') {own : Option Nat}
include hext

theorem Ghosts.Answered.mono {m : RpiwdMqmsg} (h : g.Answered own m) : g'.Answered own m := by
  obtain ⟨i, hi, hown⟩ := h
  obtain ⟨more, hmore⟩ := hext.2
  refine ⟨i, hext.1 hi, ?_⟩
  rw [← hmore, List.getElem?_append_left (List.getElem?_eq_some_iff.mp hown).1]
  exact hown

theorem Known.mono {m : RpiwdMqmsg} (h : Known g own m) : Known g' own m :=
  fun hfor => (h hfor).mono hext

theorem FromAnswer.mono {r : Reply} (h : FromAnswer g own r) : FromAnswer g' own r := by
  intro es tempunit hbody
  obtain ⟨m, hm, hdata⟩ := h es tempunit hbody
  exact ⟨m, hm.mono hext, hdata⟩

theorem WorkerPc.From.mono {owner : RpiwdMqmsg → Option Nat} {pc : WorkerPc}
    (h : pc.From g owner) : pc.From g' owner := by
  cases pc with
  | receiving => trivial
  | got m => exact fun hdone => (h hdone).mono hext
  | replying m r => exact FromAnswer.mono hext h
  | closing m => trivial
  | sending q m =>
    cases q with
    | worker => exact h
    | db => trivial

end Mono

/-! ## A round of a worker -/

/-- A list of entries is only shown for a fetch that has one. -/
theorem handleCompleted_entries {env : Env} {l l' : Locals} {m : RpiwdMqmsg} {r : Reply}
    (h : handleCompleted env l m = .ok (.reply r, l')) {es : List Entry} {tempunit : Option UInt8}
    (hbody : r.body = .document (.entries es) tempunit) :
    m.mtype = .fetch ∧ m.data = some (.entries es) := by
  obtain ⟨o, ho, he⟩ := map_ok h
  cases o with
  | none =>
    cases he
    cases hbody
  | some body =>
    cases he
    obtain rfl : body = .document (.entries es) tempunit := hbody
    unfold jsonValue at ho
    split at ho
    · rename_i ht
      split at ho
      · cases ho
      · rename_i l hd
        cases ho
        exact ⟨ht, hd⟩
      · cases ho
    · split at ho
      · cases ho
      · cases ho
      · cases ho
    · obtain ⟨kv, -, hkv⟩ := map_ok ho
      cases hkv
    · obtain ⟨kv, -, hkv⟩ := map_ok ho
      cases hkv
    · split at ho
      · cases ho
      · cases ho

/-- A round on a new message shows no entries, and keeps what it completes
from the database. -/
theorem handleNew_from {env : Env} {l l' : Locals} {m : RpiwdMqmsg} {rd : ReadResult}
    {out : Outcome} (h : handleNew env l m rd = .ok (out, l')) (g : Ghosts)
    (own : RpiwdMqmsg → Option Nat) : (pcOf m out).From g own := by
  have herror : ∀ code errcode err, FromAnswer g (own m) (errorReply code errcode err) := by
    intro code errcode err es tempunit hbody
    cases hbody
  rcases handleNew_outcome h with ⟨response, isEof, rfl⟩ | rfl | ⟨errno, cmd, r, hr, rfl⟩
  · unfold refuse
    split
    · trivial
    · exact herror _ _ _
  · intro es tempunit hbody
    cases hbody
  · unfold routeResult
    split
    · exact herror _ _ _
    · split
      · trivial
      · rename_i hdb
        exact hdb

theorem workerRound_from {env : Env} {l l' : Locals} {m : RpiwdMqmsg} {rd : ReadResult}
    {out : Outcome} {g : Ghosts} {own : RpiwdMqmsg → Option Nat}
    (hm : m.isCompleted = true → Known g (own m) m)
    (h : workerRound env l m rd = .ok (out, l')) : (pcOf m out).From g own := by
  unfold workerRound at h
  split at h
  · rename_i hdone
    obtain ⟨r, rfl⟩ := handleCompleted_reply h
    intro es tempunit hbody
    obtain ⟨ht, hd⟩ := handleCompleted_entries h hbody
    exact ⟨m, hm hdone (.inl ht), ht, hd⟩
  · exact handleNew_from h g own

/-! ## Every step -/

theorem delivered_start (W : Nat) (init : Tables) :
    Delivered (Store.start W init).sys.owner (Store.start W init) where
  count := rfl
  queue i m _ h := nomatch h
  listener m h := nomatch h
  workerQ m h := nomatch h
  workers w h := by
    rw [List.eq_of_mem_replicate h]
    trivial
  db m h := nomatch h
  written c r h := nomatch h

section Steps
variable {t : Store}

theorem extends_moved (t : Store) (es : List Entry) (s : Sys) :
    t.ghosts.Extends (t.moved es s).ghosts := ⟨List.Subset.refl _, List.prefix_append ..⟩

/-- What is put into the queue is marked with its owner. -/
theorem Delivered.queue_moved (h : Delivered t.sys.owner t) (es : List Entry) (s : Sys) :
    ∀ i m, t.rounds.length ≤ i → (t.moved es s).queued[i]? = some m → ForDb m →
      (t.moved es s).owners[i]? = some (t.sys.owner m) := by
  intro i m hi hm hfor
  simp only [Store.moved] at hm ⊢
  by_cases hlt : i < t.queued.length
  · rw [List.getElem?_append_left hlt] at hm
    rw [List.getElem?_append_left (h.count ▸ hlt)]
    exact h.queue i m hi hm hfor
  · have hle : t.queued.length ≤ i := Nat.le_of_not_lt hlt
    rw [List.getElem?_append_right hle] at hm
    rw [List.getElem?_append_right (h.count ▸ hle), h.count, List.getElem?_map, hm]
    rfl

/-- A step of a thread, with the owners as they were before it. -/
theorem Delivered.thread (h : Delivered t.sys.owner t) {lab : Label} {s : Sys}
    (hs : t.sys.Takes lab s) (hlab : ∀ db, lab ≠ .dbRound db) (es : List Entry) :
    Delivered t.sys.owner (t.moved es s) := by
  have hext := extends_moved t es s
  have hcount : (t.moved es s).owners.length = (t.moved es s).queued.length := by
    simp only [Store.moved, List.length_append, List.length_map, h.count]
  have hqueue := h.queue_moved es s
  have hworkerQ : ∀ m ∈ t.sys.workerQ, m.isCompleted = true →
      Known (t.moved es s).ghosts (t.sys.owner m) m :=
    fun m hm hdone => (h.workerQ m hm hdone).mono hext
  have hworkers : ∀ w ∈ t.sys.workers, w.pc.From (t.moved es s).ghosts t.sys.owner :=
    fun w hw => (h.workers w hw).mono hext
  have hsent : ∀ m, t.sys.db = .sending m → Known (t.moved es s).ghosts (t.sys.owner m) m :=
    fun m hm => (h.db m hm).mono hext
  have hwritten : ∀ c r, .wrote r ∈ t.sys.hist c → FromAnswer (t.moved es s).ghosts (some c) r :=
    fun c r hr => (h.written c r hr).mono hext
  have hold : Delivered t.sys.owner { t.moved es s with sys := t.sys } :=
    ⟨hcount, hqueue, h.listener, hworkerQ, hworkers, hsent, hwritten⟩
  cases hs with
  | accept fd stack hl hfree =>
    refine { hold with listener := ?_, written := written_accept hwritten t.sys.nextConn _ }
    rintro m ⟨⟩
    rfl
  | @listenerSend m hl =>
    refine { hold with listener := fun m hm => (by cases hm), workerQ := ?_ }
    refine forall_mem_snoc hworkerQ fun hdone => ?_
    rw [h.listener m hl] at hdone
    cases hdone
  | @workerReceive i w m q hw hpc hq =>
    rw [hq] at hworkerQ
    obtain ⟨hm, hrest⟩ := List.forall_mem_cons.mp hworkerQ
    exact { hold with workerQ := hrest, workers := workers_set hworkers i hm }
  | @workerRound i env rd w m out l hw hpc hround =>
    have hm := hworkers w (mem_workers hw)
    rw [hpc] at hm
    rw [Sys.recordRead_eq] at hold hwritten hworkers hm ⊢
    refine { hold with workers := workers_set hworkers i (workerRound_from hm hround), written := ?_ }
    unfold Sys.recordRead
    split
    · exact hwritten
    · exact written_record hwritten fun c r _ he => by cases he
  | @workerWrite i w m r hw hpc =>
    have hr := hworkers w (mem_workers hw)
    rw [hpc] at hr
    refine { hold with workers := workers_set hworkers i trivial, written := ?_ }
    refine written_record hwritten ?_
    rintro c r' hc ⟨⟩
    rw [← hc]
    exact hr
  | @workerClose i w m hw hpc =>
    exact { hold with
      workers := workers_set hworkers i trivial
      written := written_record hwritten fun c r _ he => by cases he }
  | @sendToWorker i w m hw hpc =>
    have hm := hworkers w (mem_workers hw)
    rw [hpc] at hm
    exact { hold with
      workers := workers_set hworkers i trivial
      workerQ := forall_mem_snoc hworkerQ fun _ hfor => absurd hfor hm }
  | @sendToDb i w m hw hpc hroom => exact { hold with workers := workers_set hworkers i trivial }
  | @dbReceive m q hdb hq => exact { hold with db := fun m hm => by cases hm }
  | dbAnswer hdb hround => exact absurd rfl (hlab _)
  | dbStore hdb hround => exact absurd rfl (hlab _)
  | @dbSend m hdb =>
    exact { hold with
      db := fun m hm => by cases hm
      workerQ := forall_mem_snoc hworkerQ fun _ => hsent m hdb }
  | measure stack e hsensor => exact { hold with }
  | @sensorSend m hsensor hroom => exact { hold with }

/-- The answer of a round is recorded, for the owner of the request. -/
theorem Delivered.round {dt : SqliteDatetime} {init : Tables} (hinv : StoreInv dt init t)
    (h : Delivered t.sys.owner t) {m : RpiwdMqmsg} (hm : t.sys.db.held = some m) {f : DbFate}
    {s : Sys} (hs : t.sys.Takes (.dbRound (f.db dt t.tables)) s) :
    Delivered t.sys.owner (t.served dt m f s) := by
  have hext : t.ghosts.Extends (t.served dt m f s).ghosts :=
    ⟨List.subset_append_left _ _, List.prefix_refl _⟩
  have hplace : t.queued[t.rounds.length]? = some m := by
    have horder := hinv.serial.order
    simp only [Store.server, hm, Option.toList_some] at horder
    rw [horder, List.getElem?_append_right (by rw [List.length_map]), List.length_map, Nat.sub_self]
    rfl
  have hnext : ∀ i m', (t.served dt m f s).rounds.length ≤ i → t.queued[i]? = some m' →
      ForDb m' → t.owners[i]? = some (t.sys.owner m') := by
    intro i m' hi
    refine h.queue i m' (Nat.le_trans ?_ hi)
    simp only [Store.served, List.length_append]
    exact Nat.le_add_right _ _
  have hframe : s = { t.sys with db := s.db, hist := s.hist } := by cases hs <;> rfl
  have hsent : ∀ m', s.db = .sending m' →
      Known (t.served dt m f s).ghosts (t.sys.owner m') m' := by
    intro m' hm' hfor
    refine ⟨t.rounds.length, List.mem_append_right _ ?_, ?_⟩
    · rw [hm']
      exact List.mem_singleton.mpr rfl
    · cases hs with
      | @dbStore db m₁ hdb hround => cases hm'
      | @dbAnswer db m₁ m₂ hdb hround =>
        cases hm'
        rw [hdb] at hm
        cases hm
        rcases dbProcess_cases hround with ⟨-, hnone⟩ | ⟨-, d, r, he⟩
        · cases hnone
        · cases Option.some.inj he
          exact h.queue _ m (Nat.le_refl _) hplace hfor
  refine ⟨h.count, hnext, ?_, ?_, ?_, hsent, ?_⟩
  · intro m hm
    exact h.listener m (by rw [← hm, Store.served, hframe])
  · intro m' hm' hdone
    rw [Store.served, hframe] at hm'
    exact (h.workerQ m' hm' hdone).mono hext
  · intro w hw
    rw [Store.served, hframe] at hw
    exact (h.workers w hw).mono hext
  · have hwritten : ∀ c r, .wrote r ∈ t.sys.hist c →
        FromAnswer (t.served dt m f s).ghosts (some c) r :=
      fun c r hr => (h.written c r hr).mono hext
    cases hs with
    | dbStore hdb hround => exact hwritten
    | dbAnswer hdb hround => exact written_record hwritten fun c r _ he => by cases he

/-- The owners may be read off the next state. -/
theorem Delivered.transfer {dt : SqliteDatetime} {init : Tables} (hinv : StoreInv dt init t)
    {own own' : RpiwdMqmsg → Option Nat} (h : Delivered own t)
    (heq : ∀ tok ∈ t.sys.tokens, tok.stage ≠ .incoming → own' tok.msg = own tok.msg) :
    Delivered own' t := by
  have hdone : ∀ m, m.isCompleted = true → carried m ∈ t.sys.tokens → own' m = own m := by
    intro m hc hmem
    rw [carried_done hc] at hmem
    exact heq _ hmem (by simp)
  refine { h with queue := ?_, workerQ := ?_, workers := ?_, db := ?_ }
  · intro i m hi hm hfor
    have hwait : m ∈ t.sys.db.held.toList ++ t.sys.dbQ := by
      have horder := hinv.serial.order
      simp only [Store.server] at horder
      rw [horder, List.getElem?_append_right (by rwa [List.length_map])] at hm
      exact List.mem_of_getElem? hm
    have htok : (⟨.atDb, m⟩ : Token) ∈ t.sys.tokens := mem_tokens_waiting hwait hfor
    rw [heq _ htok (by simp)]
    exact h.queue i m hi hm hfor
  · intro m hm hc
    rw [hdone m hc (mem_tokens_workerQ hm)]
    exact h.workerQ m hm hc
  · intro w hw
    have htok := mem_tokens_worker hw
    have hfrom := h.workers w hw
    cases hpc : w.pc with
    | receiving => trivial
    | closing m => trivial
    | got m =>
      rw [hpc] at htok hfrom
      intro hc
      rw [hdone m hc (htok _ (List.mem_singleton.mpr rfl))]
      exact hfrom hc
    | replying m r =>
      rw [hpc] at htok hfrom
      show FromAnswer t.ghosts (own' m) r
      rw [heq _ (htok _ (List.mem_singleton.mpr rfl)) (by simp)]
      exact hfrom
    | sending q m =>
      rw [hpc] at hfrom
      cases q with
      | worker => exact hfrom
      | db => trivial
  · intro m hm
    have htok : (⟨.done, m⟩ : Token) ∈ t.sys.tokens := by
      simp [Sys.tokens, hm, DbPc.tokens]
    rw [heq _ htok (by simp)]
    exact h.db m hm

end Steps

theorem delivered_reachable {dt : SqliteDatetime} {W : Nat} {init : Tables} {t : Store}
    (h : (storeDaemon dt W init).Reachable t) : Delivered t.sys.owner t := by
  have hind : (storeDaemon dt W init).Inductive fun t =>
      StoreInv dt init t ∧ Delivered t.sys.owner t := by
    constructor
    · rintro t rfl
      exact ⟨storeInv_start dt W init, delivered_start W init⟩
    · rintro t lab t' ⟨hinv, hd⟩ hs
      have hinv' := storeInv_step hinv hs
      refine ⟨hinv', ?_⟩
      cases lab with
      | thread l =>
        obtain ⟨hl, s, hsys, rfl⟩ := Store.step_thread hs
        have htakes := Sys.step_takes hinv.inv hsys
        exact (hd.thread htakes hl _).transfer hinv' fun tok htok hstage =>
          htakes.owner_eq hinv.inv hinv'.inv htok hstage
      | dbRound f =>
        obtain ⟨m, s, hm, hsys, rfl⟩ := Store.step_dbRound hs
        have htakes := Sys.step_takes hinv.inv hsys
        exact (Delivered.round hinv hd hm htakes).transfer hinv' fun tok htok hstage =>
          htakes.owner_eq hinv.inv hinv'.inv htok hstage
  exact (hind.reachable h).2

/-! ## The entries of a fetch -/

/-- A fetch with a list has a query, and its list is what the query selects. -/
theorem answerFrom_entries {dt : SqliteDatetime} {t : Tables} {m m' : RpiwdMqmsg} {f : DbFate}
    (h : answerFrom dt t m f = some m') (ht : m'.mtype = .fetch) {es : List Entry}
    (hd : m'.data = some (.entries es)) :
    ∃ q, m.fselectq = some q ∧
      es = (q.rows dt f.utcoff t.data).map (entryOfRow (keepNativeUnit m.unitstr)) := by
  have hround : dbProcess (f.db dt t) m = .ok (some m') := by
    unfold answerFrom at h
    split at h
    · rename_i o ho
      rw [ho, h]
    · cases h
  have hfetch : m.mtype = .fetch := by
    rcases dbProcess_cases hround with ⟨-, hnone⟩ | ⟨-, d, r, he⟩
    · cases hnone
    · rw [Option.some.inj he] at ht
      exact ht
  simp only [dbProcess, hfetch] at hround
  obtain ⟨⟨list, retcode⟩, hq, he⟩ := map_ok hround
  cases he
  obtain ⟨l, rfl, hl⟩ := Option.map_eq_some_iff.mp hd
  cases hl
  unfold execFetchQuery at hq
  dsimp only at hq
  split at hq
  · cases hq
  · split at hq
    · cases hq
    · rename_i rows hrows
      split at hq
      · cases hq
      · cases hq
        unfold DbFate.db at hrows
        split at hrows
        · obtain ⟨q, hsel, hsome⟩ := Option.map_eq_some_iff.mp hrows
          exact ⟨q, hsel, by rw [hsome]⟩
        · cases hrows

/-- The fetch at place `i` of the queue: a request of the connection `c`, and
the round that served it behind all those queued before it. -/
structure FetchAt (t : Store) (c i : Nat) (m : RpiwdMqmsg) (f : DbFate) (q : Sql) : Prop where
  queued : t.queued[i]? = some m
  owner : t.owners[i]? = some (some c)
  query : m.fselectq = some q
  served : t.rounds[i]? = some (m, f)
  behind : (t.rounds.take i).map Prod.fst = t.queued.take i

/-- The request that a list of entries answers, and the list it is answered. -/
theorem fetch_reply_at {dt : SqliteDatetime} {W : Nat} {init : Tables} {t : Store}
    (h : (storeDaemon dt W init).Reachable t) {c : Nat} {r : Reply}
    (hr : .wrote r ∈ t.sys.hist c) {es : List Entry} {tempunit : Option UInt8}
    (hbody : r.body = .document (.entries es) tempunit) :
    ∃ i m f q, FetchAt t c i m f q ∧
      es = (q.rows dt f.utcoff (t.tablesAt dt init i).data).map
        (entryOfRow (keepNativeUnit m.unitstr)) := by
  obtain ⟨m', ⟨i, hi, hown⟩, ht, hd⟩ := (delivered_reachable h).written c r hr es tempunit hbody
  obtain ⟨m, f, hm, hserved, hbehind, hanswer⟩ := (storeInv_reachable h).serial.answer_at hi
  obtain ⟨q, hq, hes⟩ := answerFrom_entries hanswer ht hd
  exact ⟨i, m, f, q, ⟨hm, hown, hq, hserved, hbehind⟩, hes⟩

/-- The entry that a fetch makes of a row. The number that a temperature
becomes in Fahrenheit is left open. -/
structure EntryOf (native : Bool) (r : Row) (e : Entry) : Prop where
  id : e.id = r.id
  recordDate : e.recordDate = some r.recordDate
  temperature : native = true → e.temperature = r.temperature
  humidity : e.humidity = r.humidity
  location : e.location = some r.location
  deviceName : e.deviceName = some r.deviceName

theorem entryOf_entryOfRow (native : Bool) (r : Row) : EntryOf native r (entryOfRow native r) where
  id := rfl
  recordDate := rfl
  temperature := by
    intro hnative
    rw [entryOfRow, hnative]
    rfl
  humidity := rfl
  location := rfl
  deviceName := rfl

/-- **What a fetch returns.** The list of entries in any reply written to a
connection is the one selected by the query of a request of that connection,
the one at place `i` of the queue, from the tables behind the rounds on exactly
the `i` messages queued before it. They hold the rows of the start, and behind
them those of the entries that these rounds stored. -/
theorem fetch_replies_serial {dt : SqliteDatetime} {W : Nat} {init : Tables} {t : Store}
    (h : (storeDaemon dt W init).Reachable t) {c : Nat} {r : Reply}
    (hr : .wrote r ∈ t.sys.hist c) {es : List Entry} {tempunit : Option UInt8}
    (hbody : r.body = .document (.entries es) tempunit) :
    ∃ (i : Nat) (m : RpiwdMqmsg) (f : DbFate) (q : Sql), FetchAt t c i m f q ∧
      RowsAdded init (t.tablesAt dt init i) ((t.rounds.take i).filterMap storedEntry) ∧
      List.Forall₂ (EntryOf (keepNativeUnit m.unitstr))
        (q.rows dt f.utcoff (t.tablesAt dt init i).data) es := by
  obtain ⟨i, m, f, q, hat, rfl⟩ := fetch_reply_at h hr hbody
  refine ⟨i, m, f, q, hat, stored_after dt init _, ?_⟩
  rw [List.forall₂_map_right_iff, List.forall₂_same]
  exact fun row _ => entryOf_entryOfRow _ row

def fetchRequest : ReadBuffer :=
  bufferOf (ascii "GET /fetch?select=1&tempunit=c HTTP/1.1\r\n") 0 (by decide) (by decide)

/-- One fetch, from the connection to the reply. -/
def fetchOne : List StoreLabel :=
  [.thread (.accept 5 default), .thread .listenerSend, .thread (.workerReceive 0),
    .thread (.workerRound 0 default (.data fetchRequest)), .thread (.workerSend 0),
    .thread .dbReceive, .dbRound luckyFate, .thread .dbSend, .thread (.workerReceive 0),
    .thread (.workerRound 0 default .eof), .thread (.workerWrite 0)]

/-- The row of the first measurement. -/
def cellarRow : Row := ⟨1, gregorian.now 0, 21, 40, ascii "cellar", ascii "dht11"⟩

def cellarReply : Reply := ⟨HTTP_CODE_OK, .document (.entries [entryOfRow true cellarRow]) (some 99)⟩

/-- A measurement is stored and then fetched. -/
theorem cellarReply_written :
    (LTS.runFn (Store.step gregorian) (Store.start 1 emptyTables) (storeOne ++ fetchOne)).map
      (fun t => (t.sys.hist 0).filterMap ConnEv.reply) = some [cellarReply] := by
  decide +kernel

theorem cellar_fetched : ∃ t, (storeDaemon gregorian 1 emptyTables).Reachable t ∧
    .wrote cellarReply ∈ t.sys.hist 0 ∧
    ∃ (i : Nat) (m : RpiwdMqmsg) (f : DbFate) (q : Sql), FetchAt t 0 i m f q ∧
      RowsAdded emptyTables (t.tablesAt gregorian emptyTables i)
        ((t.rounds.take i).filterMap storedEntry) ∧
      List.Forall₂ (EntryOf (keepNativeUnit m.unitstr))
        (q.rows gregorian f.utcoff (t.tablesAt gregorian emptyTables i).data)
        [entryOfRow true cellarRow] := by
  obtain ⟨t, ht, hh⟩ := Option.map_eq_some_iff.mp cellarReply_written
  have hreach : (storeDaemon gregorian 1 emptyTables).Reachable t := LTS.runFn_reachable rfl ht
  have hwrote : .wrote cellarReply ∈ t.sys.hist 0 :=
    wrote_of_reply (by rw [hh]; exact List.mem_singleton.mpr rfl)
  exact ⟨t, hreach, hwrote, fetch_replies_serial hreach hwrote rfl⟩

end Rpiweatherd
