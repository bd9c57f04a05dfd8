import Rpiweatherd.L3Config.Startup
import Rpiweatherd.L3Listener.ReplyText
import Rpiweatherd.L3Listener.Units
import Rpiweatherd.L3Listener.Worker

/-!
# What the rounds of the threads put into messages and replies

SQLite, the sensor, the configuration and the system hand the daemon C strings
and `float`s (`CleanDb`, `CleanEnv`). Everything a round makes of them is clean
again: a message for the database (`AskedClean`), one that is completed
(`DoneClean`), and a reply (`CleanReply`), which moreover has the error code 0
exactly if it is a 200.

The fields a message inherits from the stack of the listener are never
clean, and no round shows them: every type that is answered has its data set.

* `dbProcess_clean`: one round of the database thread.
* `workerRound_clean`: one round of a worker.
-/
namespace Rpiweatherd

/-! ## The world -/

/-- How large a finite `float` can be. -/
def IsFloat (q : ℚ) : Prop := |q| < 2 ^ 128

structure CleanRow (r : Row) : Prop where
  id : InInt r.id
  recordDate : 0 ∉ r.recordDate
  temperature : IsFloat r.temperature
  humidity : IsFloat r.humidity
  location : 0 ∉ r.location
  deviceName : 0 ∉ r.deviceName

structure CleanDb (db : Db) : Prop where
  rows : ∀ q rows, db.rows q = some rows → ∀ r ∈ rows, CleanRow r
  pairs : ∀ q ps, db.pairs q = some ps → ∀ p ∈ ps, CleanPair p

structure CleanEnv (env : Env) : Prop where
  device : ∀ k, IsFloat (env.device k).2.1 ∧ IsFloat (env.device k).2.2
  measureLocation : CleanText env.config.measureLocation
  deviceName : CleanText env.config.deviceName
  queryInterval : CleanText env.config.queryInterval
  figures : ∀ s ∈ [env.hostname, env.version, env.uptime, env.freeram, env.freedisk], 0 ∉ s

/-! ## Messages and replies -/

/-- A message the database thread is to work on. -/
def AskedClean (m : RpiwdMqmsg) : Prop :=
  match m.mtype with
  | .fetch | .writeEntry => True
  | .stats => ∃ l, m.data = some (.keyValues l) ∧ l.pairs.length ≤ STATS_EXTRA_STATS_COUNT ∧
      ∀ p ∈ l.pairs, CleanPair p
  | _ => False

/-- A message that is completed: its data, or for a fetch an error code. -/
def DoneClean (m : RpiwdMqmsg) : Prop :=
  match m.mtype with
  | .fetch => (∃ es, m.data = some (.entries es) ∧ (Data.entries es).Clean) ∨
      m.data = none ∧ InInt m.retcode ∧ m.retcode ≠ 0
  | .current => ∃ e, m.data = some (.entry e) ∧ CleanEntry e
  | .stats | .config => ∃ l, m.data = some (.keyValues l) ∧ (Data.keyValues l).Clean
  | _ => False

inductive CleanReply : Reply → Prop
  | noContent : CleanReply ⟨HTTP_CODE_NO_CONTENT, .empty⟩
  | error {errcode : Int} {err : String} (h : (Body.error errcode err).Clean) :
      CleanReply (errorReply HTTP_CODE_REQUEST_BAD_REQUEST errcode err)
  | document {data : Data} {tempunit : Option UInt8} (h : data.Clean) :
      CleanReply ⟨HTTP_CODE_OK, .document data tempunit⟩

def Outcome.Clean : Outcome → Prop
  | .reply r => CleanReply r
  | .silent => True
  | .toDb m => AskedClean m
  | .toWorker m => DoneClean m

/-! ## Error texts -/

/-- A text without a terminator in it that parson takes. -/
def IsErrorText (err : String) : Prop := 0 ∉ ascii err ∧ isValidUtf8 (ascii err) = true

instance decidableIsErrorText (err : String) : Decidable (IsErrorText err) :=
  inferInstanceAs (Decidable (_ ∧ _))

theorem isErrorText_ite {c : Prop} [Decidable c] {a b : String} (ha : IsErrorText a)
    (hb : IsErrorText b) : IsErrorText (if c then a else b) := by
  split
  · exact ha
  · exact hb

theorem httpParserStrerror_text (errcode : Int) : IsErrorText (httpParserStrerror errcode) := by
  unfold httpParserStrerror
  iterate 7 refine isErrorText_ite (by decide +kernel) ?_
  decide +kernel

theorem commandCallbackStrerror_text (errcode : Int) :
    IsErrorText (commandCallbackStrerror errcode) := by
  unfold commandCallbackStrerror
  iterate 7 refine isErrorText_ite (by decide +kernel) ?_
  decide +kernel

theorem dbhandlerStrerror_text (errcode : Int) : IsErrorText (dbhandlerStrerror errcode) := by
  unfold dbhandlerStrerror
  iterate 4 refine isErrorText_ite (by decide +kernel) ?_
  decide +kernel

/-! ## Numbers -/

theorem abs_lt_of_isFloat {t : ℚ} (h : IsFloat t) : |t| < FLT_LIMIT :=
  h.trans (by norm_num [FLT_LIMIT])

/-- The conversion keeps its distance from the limit. -/
theorem abs_convert_lt {t : ℚ} (h : IsFloat t) (native : Bool) :
    |if native then t else celsiusToFarenheit t| < FLT_LIMIT := by
  cases native with
  | true => exact abs_lt_of_isFloat h
  | false =>
    have hbounds := abs_lt.mp h
    norm_num at hbounds
    simp only [Bool.false_eq_true, if_false, celsiusToFarenheit, FLT_LIMIT]
    rw [abs_lt]
    norm_num
    constructor <;> linarith [hbounds.1, hbounds.2]

/-! ## The database thread -/

theorem deref_ok {α : Type} {o : Option α} {a : α} (h : deref o = .ok a) : o = some a := by
  cases o with
  | none => cases h
  | some b =>
    cases h
    rfl

theorem cleanText_some {s : Bytes} (h : 0 ∉ s) : CleanText (some s) := by
  rintro t ⟨⟩
  exact h

theorem entryOfRow_clean {r : Row} (h : CleanRow r) (native : Bool) :
    CleanEntry (entryOfRow native r) where
  id := h.id
  recordDate := cleanText_some h.recordDate
  temperature := abs_convert_lt h.temperature native
  humidity := abs_lt_of_isFloat h.humidity
  location := cleanText_some h.location
  deviceName := cleanText_some h.deviceName

/-- A list of clean entries, or one of the two errors. -/
theorem execFetchQuery_clean {db : Db} (hdb : CleanDb db) {fcountq fselectq : Option Sql}
    {native : Bool} {list : Option (List Entry)} {retcode : Int}
    (h : execFetchQuery db fcountq fselectq native = .ok (list, retcode)) :
    (∃ es, list = some es ∧ (Data.entries es).Clean) ∨
      list = none ∧ InInt retcode ∧ retcode ≠ 0 := by
  unfold execFetchQuery at h
  dsimp only at h
  split at h
  · cases h
    exact .inr ⟨rfl, by decide, by decide⟩
  · rename_i hcount
    split at h
    · cases h
      exact .inr ⟨rfl, by decide, by decide⟩
    · rename_i rows hrows
      split at h
      · cases h
      · rename_i hlen
        cases h
        refine .inl ⟨_, rfl, ?_, ?_⟩
        · rw [List.length_map]
          unfold DBHANDLER_MAX_FETCHED_ENTRIES at hcount
          omega
        · exact List.forall_mem_map.mpr fun r hr => entryOfRow_clean (hdb.rows _ rows hrows r hr) _

/-- The pairs of a query are within the limit of the rows. -/
theorem execKeyValueQuery_clean {db : Db} (hdb : CleanDb db) {fcountq fselectq : Option Sql}
    {errcode : Int} {l : KeyValueList}
    (h : (execKeyValueQuery db fcountq fselectq errcode).1 = some l) :
    l.pairs.length ≤ DBHANDLER_MAX_FETCHED_ENTRIES ∧ ∀ p ∈ l.pairs, CleanPair p := by
  unfold execKeyValueQuery at h
  dsimp only at h
  split at h
  · cases h
  · rename_i hcount
    cases h
    have hpairs := emplaceAll_pairs ((db.pairs fselectq).getD []) (keyValueListAlloc (db.count fcountq))
    rw [hpairs]
    constructor
    · simp only [keyValueListAlloc, List.nil_append, List.length_nil, List.length_take]
      omega
    · intro p hp
      simp only [keyValueListAlloc, List.nil_append] at hp
      have hmem := List.mem_of_mem_take hp
      cases hq : db.pairs fselectq with
      | none =>
        rw [hq] at hmem
        cases hmem
      | some ps =>
        rw [hq] at hmem
        exact hdb.pairs fselectq ps hq p hmem

/-- More pairs than the list takes are left out. -/
theorem emplaceAll_clean {l : KeyValueList} (hl : ∀ p ∈ l.pairs, CleanPair p)
    {ps : List (Option Bytes × Option Bytes)} (hps : ∀ p ∈ ps, CleanPair p) :
    (∀ p ∈ (emplaceAll l ps).pairs, CleanPair p) ∧
      (emplaceAll l ps).pairs.length ≤ l.pairs.length + ps.length := by
  rw [emplaceAll_pairs]
  constructor
  · intro p hp
    rcases List.mem_append.mp hp with hp | hp
    · exact hl p hp
    · exact hps p (List.mem_of_mem_take hp)
  · rw [List.length_append, List.length_take]
    omega

/-- **A round of the database thread** completes a message with clean data. -/
theorem dbProcess_clean {db : Db} (hdb : CleanDb db) {m m' : RpiwdMqmsg} (hm : AskedClean m)
    (h : dbProcess db m = .ok (some m')) : DoneClean m' := by
  unfold dbProcess at h
  unfold AskedClean at hm
  split at h
  · split at h <;> cases h
  · rename_i ht
    obtain ⟨⟨list, retcode⟩, hq, he⟩ := map_ok h
    cases he
    simp only [DoneClean, ht]
    rcases execFetchQuery_clean hdb hq with ⟨es, rfl, hes⟩ | ⟨rfl, hcode⟩
    · exact .inl ⟨es, rfl, hes⟩
    · exact .inr ⟨rfl, hcode⟩
  · rename_i ht
    simp only [ht] at hm
    obtain ⟨d, hd, hlen, hpairs⟩ := hm
    obtain ⟨l, hl, h⟩ := bind_ok h
    obtain ⟨hrows, hclean⟩ := execKeyValueQuery_clean hdb (deref_ok hl)
    obtain ⟨hall, hsum⟩ := emplaceAll_clean hpairs hclean
    have hsizes : STATS_EXTRA_STATS_COUNT + DBHANDLER_MAX_FETCHED_ENTRIES < 2 ^ 31 := by decide
    split at h
    · cases h
      simp only [DoneClean, ht]
      exact ⟨d, hd, by omega, hpairs⟩
    · rw [hd] at h
      cases h
      simp only [DoneClean, ht]
      exact ⟨_, rfl, by omega, hall⟩
  · rename_i hw hf hs
    revert hm
    cases ht : m.mtype <;> simp_all

/-! ## The callbacks -/

/-- What a callback leaves: an error code, or a message for the next station. -/
def ResultClean (r : CallbackResult) : Prop :=
  InInt r.code ∧ (r.code = CALLBACK_RETCODE_SUCCESS →
    (ForDb r.msg → AskedClean r.msg) ∧ (¬ ForDb r.msg → DoneClean r.msg))

theorem ResultClean.refused {c : Int} (hc : InInt c) (hne : c ≠ CALLBACK_RETCODE_SUCCESS)
    (msg : RpiwdMqmsg) (errno : Errno) : ResultClean ⟨c, msg, errno⟩ :=
  ⟨hc, fun h => absurd h hne⟩

theorem currentMeasure_clean {env : Env} (henv : CleanEnv env) {errno : Errno} {msg : RpiwdMqmsg}
    {r : CallbackResult} (h : currentMeasure env errno msg = .ok r) : ResultClean r := by
  unfold currentMeasure at h
  split at h
  · cases h
    exact .refused (by decide) (by decide) msg errno
  · rename_i t hu hq
    obtain ⟨j, -, hj⟩ := queryDevice_some hq
    obtain ⟨ht, hhu⟩ := henv.device j
    rw [hj] at ht hhu
    obtain ⟨location, hl, h⟩ := bind_ok h
    obtain ⟨deviceName, hd, h⟩ := bind_ok h
    cases h
    have hnot : ¬ ForDb { msg with
        data := some (.entry ⟨-1, none,
          if keepNativeUnit msg.unitstr then t else celsiusToFarenheit t, hu, some location,
          some deviceName⟩)
        mtype := .current
        isCompleted := true } := by
      rintro (e | e) <;> cases e
    refine ⟨(by decide : InInt CALLBACK_RETCODE_SUCCESS),
      fun _ => ⟨fun hf => absurd hf hnot, fun _ => ⟨_, rfl, ?_⟩⟩⟩
    exact
      { id := (by decide : InInt (-1))
        recordDate := fun t ht => nomatch ht
        temperature := abs_convert_lt ht _
        humidity := abs_lt_of_isFloat hhu
        location := deref_ok hl ▸ henv.measureLocation
        deviceName := deref_ok hd ▸ henv.deviceName }

theorem currentCommandCallback_clean {env : Env} (henv : CleanEnv env) {errno : Errno}
    {cmd : HttpCmd} {msg : RpiwdMqmsg} {r : CallbackResult}
    (h : currentCommandCallback env errno cmd msg = .ok r) : ResultClean r := by
  unfold currentCommandCallback at h
  split at h
  · exact currentMeasure_clean henv h
  · split at h
    · cases h
    · obtain ⟨name, -, h⟩ := bind_ok h
      split at h
      · split at h
        · exact currentMeasure_clean henv h
        · cases h
          exact .refused (by decide) (by decide) msg errno
      · cases h
        exact .refused (by decide) (by decide) msg errno
    · cases h
      exact .refused (by decide) (by decide) msg errno
  · cases h
    exact .refused (by decide) (by decide) msg errno

/-- A `break` carries one of two codes. -/
theorem fetchLoop_brk_code {pf : Platform} {ps : List HttpCmdParam} {v v' : FetchVars} {c : Int}
    (h : fetchLoop pf ps v = .ok (.brk c v')) :
    c = CALLBACK_RETCODE_PARAM_ERROR ∨ c = CALLBACK_RETCODE_UNKNOWN_PARAM := by
  induction ps generalizing v with
  | nil => cases h
  | cons p ps ih =>
    unfold fetchLoop at h
    split at h
    · cases h
    · exact ih h
    · rename_i s hs hp
      cases h
      cases fetchParam_round hp with
      | refused => exact .inl rfl
      | unknown => exact .inr rfl

theorem fetchFinish_clean (msg : RpiwdMqmsg) {retflag : Int} (hcode : InInt retflag)
    (v : FetchVars) : ResultClean (fetchFinish msg retflag v) := by
  unfold fetchFinish
  dsimp only
  split
  · rename_i hpos
    exact .refused hcode (fun h0 => absurd hpos (by rw [h0]; decide)) _ _
  · split
    · exact ⟨hcode, fun _ => ⟨fun _ => trivial, fun hno => absurd (.inl rfl) hno⟩⟩
    · exact .refused (by decide) (by decide) _ _

theorem fetchCommandCallback_clean {env : Env} {errno : Errno} {cmd : HttpCmd} {msg : RpiwdMqmsg}
    {r : CallbackResult} (h : fetchCommandCallback env errno cmd msg = .ok r) : ResultClean r := by
  unfold fetchCommandCallback at h
  split at h
  · cases h
    exact .refused (by decide) (by decide) msg errno
  · obtain ⟨s, hs, rfl⟩ := map_ok h
    cases s with
    | next v => exact fetchFinish_clean msg (by decide) v
    | brk c v =>
      refine fetchFinish_clean msg ?_ v
      rcases fetchLoop_brk_code hs with rfl | rfl <;> unfold InInt <;> decide
    | ret c v =>
      obtain rfl := fetchLoop_ret hs
      exact .refused (by decide) (by decide) _ _

theorem cleanPair_known {key : Bytes} (hkey : PairKey key ∧ 0 ∉ key) {value : Option Bytes}
    (hvalue : CleanText value) : CleanPair (some key, value) :=
  ⟨⟨key, rfl, hkey⟩, hvalue⟩

theorem statisticsCommandCallback_clean {env : Env} (henv : CleanEnv env) {errno : Errno}
    {cmd : HttpCmd} {msg : RpiwdMqmsg} {r : CallbackResult}
    (h : statisticsCommandCallback env errno cmd msg = .ok r) : ResultClean r := by
  unfold statisticsCommandCallback at h
  split at h
  · cases h
    exact .refused (by decide) (by decide) msg errno
  · cases h
    have hfigure : ∀ s ∈ [env.hostname, env.version, env.uptime, env.freeram, env.freedisk],
        CleanText (some s) := fun s hs => cleanText_some (henv.figures s hs)
    simp only [List.forall_mem_cons] at hfigure
    obtain ⟨hhost, hversion, huptime, hram, hdisk, -⟩ := hfigure
    have hclean : ∀ p ∈ [(some (ascii "hostname"), some env.hostname),
        (some (ascii "version"), some env.version), (some (ascii "uptime"), some env.uptime),
        (some (ascii "freeram"), some env.freeram), (some (ascii "freedisk"), some env.freedisk)],
        CleanPair p := by
      simp only [List.forall_mem_cons]
      exact ⟨cleanPair_known (by decide) hhost, cleanPair_known (by decide) hversion,
        cleanPair_known (by decide) huptime, cleanPair_known (by decide) hram,
        cleanPair_known (by decide) hdisk, List.forall_mem_nil _⟩
    obtain ⟨hpairs, hlen⟩ := emplaceAll_clean
      (l := keyValueListAlloc (env.statsCount + STATS_EXTRA_STATS_COUNT))
      (List.forall_mem_nil _) hclean
    exact ⟨(by decide : InInt CALLBACK_RETCODE_SUCCESS),
      fun _ => ⟨fun _ => ⟨_, rfl, hlen, hpairs⟩, fun hno => absurd (.inr rfl) hno⟩⟩

theorem configSettings_clean {env : Env} (henv : CleanEnv env) :
    ∀ p ∈ configSettings env.config, CleanPair p := by
  have hint : ∀ n : Int, CleanText (some (printInt n)) := fun n =>
    cleanText_some (nul_notMem_printInt n)
  simp only [configSettings, List.forall_mem_cons]
  exact ⟨cleanPair_known (by decide) henv.measureLocation,
    cleanPair_known (by decide) henv.queryInterval, cleanPair_known (by decide) henv.deviceName,
    cleanPair_known (by decide) (hint _), cleanPair_known (by decide) (hint _),
    cleanPair_known (by decide) (hint _), List.forall_mem_nil _⟩

theorem configCommandCallback_clean {env : Env} (henv : CleanEnv env) {errno : Errno}
    {cmd : HttpCmd} {msg : RpiwdMqmsg} {r : CallbackResult}
    (h : configCommandCallback env errno cmd msg = .ok r) : ResultClean r := by
  obtain ⟨hpairs, hlen⟩ := emplaceAll_clean (l := keyValueListAlloc env.config.configCount)
    (List.forall_mem_nil _) (configSettings_clean henv)
  rw [configCommandCallback_eq] at h
  generalize emplaceAll (keyValueListAlloc env.config.configCount) (configSettings env.config) =
    list at h hpairs hlen
  cases h
  have hsix : list.pairs.length ≤ 6 := hlen
  refine ⟨(by decide : InInt CALLBACK_RETCODE_SUCCESS),
    fun _ => ⟨?_, fun _ => ⟨list, rfl, by omega, hpairs⟩⟩⟩
  rintro (e | e) <;> cases e

theorem dispatchCommand_clean {env : Env} (henv : CleanEnv env) {errno : Errno} {cmd : HttpCmd}
    {msg : RpiwdMqmsg} {r : CallbackResult} (h : dispatchCommand env errno cmd msg = .ok r) :
    ResultClean r := by
  unfold dispatchCommand at h
  split at h
  · rename_i c hc
    cases c with
    | fetch => exact fetchCommandCallback_clean h
    | current => exact currentCommandCallback_clean henv h
    | statistics => exact statisticsCommandCallback_clean henv h
    | config =>
      exact configCommandCallback_clean henv
        (show configCommandCallback env errno cmd msg = .ok r from h)
  · cases h
    exact .refused (by decide) (by decide) msg errno

/-! ## The worker -/

theorem routeResult_clean {r : CallbackResult} (h : ResultClean r) : (routeResult r).Clean := by
  unfold routeResult
  split
  · rename_i hcode
    exact .error ⟨h.1, hcode, commandCallbackStrerror_text r.code⟩
  · rename_i hcode
    obtain ⟨hasked, hdone⟩ := h.2 (not_not.mp hcode)
    split
    · rename_i hdb
      exact hasked hdb
    · rename_i hdb
      exact hdone hdb

theorem handleNew_clean {env : Env} (henv : CleanEnv env) {l l' : Locals} {msg : RpiwdMqmsg}
    {rd : ReadResult} {out : Outcome} (h : handleNew env l msg rd = .ok (out, l')) :
    out.Clean := by
  rcases handleNew_outcome h with ⟨response, isEof, rfl⟩ | rfl | ⟨errno, cmd, r, hr, rfl⟩
  · unfold refuse
    split
    · trivial
    · exact .error ⟨by decide, by decide, httpParserStrerror_text response⟩
  · exact .noContent
  · exact routeResult_clean (dispatchCommand_clean henv hr)

/-- A completed message has its document, or is the error of a fetch. -/
theorem jsonValue_clean {m : RpiwdMqmsg} (hm : DoneClean m) (jval : JsonPtr) :
    (∃ data tempunit, jsonValue jval m = .ok (some (.document data tempunit)) ∧ data.Clean) ∨
      jsonValue jval m = .ok none ∧ InInt m.retcode ∧ m.retcode ≠ 0 := by
  unfold DoneClean at hm
  unfold jsonValue
  cases ht : m.mtype with
  | fetch =>
    rw [ht] at hm
    rcases hm with ⟨es, hd, hes⟩ | ⟨hd, hcode⟩
    · rw [hd]
      exact .inl ⟨_, _, rfl, hes⟩
    · rw [hd]
      exact .inr ⟨rfl, hcode⟩
  | current =>
    rw [ht] at hm
    obtain ⟨e, hd, he⟩ := hm
    rw [hd]
    exact .inl ⟨_, _, rfl, he⟩
  | stats =>
    rw [ht] at hm
    obtain ⟨l, hd, hl⟩ := hm
    rw [hd]
    exact .inl ⟨_, _, rfl, hl⟩
  | config =>
    rw [ht] at hm
    obtain ⟨l, hd, hl⟩ := hm
    rw [hd]
    exact .inl ⟨_, _, rfl, hl⟩
  | _ =>
    rw [ht] at hm
    cases hm

theorem handleCompleted_clean {env : Env} {l l' : Locals} {m : RpiwdMqmsg} (hm : DoneClean m)
    {out : Outcome} (h : handleCompleted env l m = .ok (out, l')) : out.Clean := by
  unfold handleCompleted at h
  rcases jsonValue_clean hm l.jval with ⟨data, tempunit, hv, hdata⟩ | ⟨hv, hcode, hne⟩
  · rw [hv] at h
    cases h
    exact .document hdata
  · rw [hv] at h
    cases h
    exact .error ⟨hcode, hne, dbhandlerStrerror_text m.retcode⟩

/-- **A round of a worker** on a message that is new, or completed and clean. -/
theorem workerRound_clean {env : Env} (henv : CleanEnv env) {l l' : Locals} {m : RpiwdMqmsg}
    (hm : m.isCompleted = true → DoneClean m) {rd : ReadResult} {out : Outcome}
    (h : workerRound env l m rd = .ok (out, l')) : out.Clean := by
  unfold workerRound at h
  split at h
  · rename_i hdone
    exact handleCompleted_clean (hm hdone) h
  · exact handleNew_clean henv h

end Rpiweatherd
