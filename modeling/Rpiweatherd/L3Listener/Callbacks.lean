import Rpiweatherd.L1Libc.Decimal
import Rpiweatherd.L3Listener.Message

/-!
# The command callbacks (`src/listener.c:365-671`)

A callback gets the parsed command and the message, and returns a code, the
changed message and the thread's `errno`. What it asks from outside (clock
and zone, sensor, configuration, system figures, the number of statistics
rows) is the `Env` of the call.
-/
namespace Rpiweatherd

def CALLBACK_RETCODE_SUCCESS : Int := 0
def CALLBACK_RETCODE_UNKNOWN_PARAM : Int := -1001
def CALLBACK_RETCODE_PARAM_ERROR : Int := -1002
def CALLBACK_RETCODE_UNKNOWN_COMMAND : Int := -1003
def CALLBACK_RETCODE_PARAMS_MISSING : Int := -1004
def CALLBACK_RETCODE_TOO_MANY_PARAMS : Int := -1005
def CALLBACK_RETCODE_NO_PARAMS_NEEDED : Int := -1006
def CALLBACK_RETCODE_DEVICE_ERROR : Int := -1008

def CONFIG_MAX_QUERY_ATTEMPTS : Nat := 64
def STATS_EXTRA_STATS_COUNT : Nat := 5

structure RpiwdConfig where
  configCount : Nat
  measureLocation : Option Bytes
  deviceName : Option Bytes
  deviceConfig : Int
  queryInterval : Option Bytes
  commPort : Int
  numWorkerThreads : Int

/-- Everything a callback reads from outside. `device k` is the `k`-th
`device_query_current` of the call (code, temperature, humidity);
`errnoAfter` is what the calls whose result nobody looks at (`write`,
`close`, `mq_send`) make of `errno`. The configuration in force has its
strings set: `main` does not start the
listener otherwise. -/
structure Env where
  platform : Platform
  device : Nat → Int × ℚ × ℚ
  config : RpiwdConfig
  configSet : config.measureLocation.isSome = true ∧ config.deviceName.isSome = true
  statsCount : Nat
  hostname : Bytes
  version : Bytes
  uptime : Bytes
  freeram : Bytes
  freedisk : Bytes
  errnoAfter : Errno → Errno

/-- A machine with a silent sensor, at the epoch. -/
instance : Inhabited Env where
  default :=
    { platform := ⟨0, fun _ _ tm => (tm, none), fun _ => 0, fun _ => 0, 0⟩
      device := fun _ => (-1, 0, 0)
      config := ⟨6, some [], some (ascii "dht11"), 0, some (ascii "1h"), 6005, 1⟩
      configSet := ⟨rfl, rfl⟩
      statsCount := 2
      hostname := []
      version := []
      uptime := []
      freeram := []
      freedisk := []
      errnoAfter := id }

structure CallbackResult where
  code : Int
  msg : RpiwdMqmsg
  errno : Errno

/-! ## fetch -/

def dayStart (t : Int) : Int := t - t.tmod 86400
def dayEnd (t : Int) : Int := t + 86399 - t.tmod 86400

/-- The loop variables of `fetch_command_callback`. -/
structure FetchVars where
  fromDate : Int
  toDate : Int
  on : Int
  select : Int
  unitstr : Bytes
  errno : Errno
  deriving DecidableEq

/-- How one round of the parameter loop ends: go on, `break` with a code in
`retflag`, or `return`. -/
inductive FetchStep where
  | next (v : FetchVars)
  | brk (retflag : Int) (v : FetchVars)
  | ret (code : Int) (v : FetchVars)

/-- mirrors src/listener.c:425-443 -/
def fetchTempunit (v : FetchVars) (value : Bytes) : FetchStep :=
  match value with
  | [b] =>
    let c := tolower b
    if c = RPIWD_TEMPERATURE_CELSIUS then
      .next { v with unitstr := v.unitstr.set RPIWD_MEASURE_TEMPERATURE RPIWD_TEMPERATURE_CELSIUS }
    else if c ≠ RPIWD_TEMPERATURE_FARENHEIT then .brk CALLBACK_RETCODE_PARAM_ERROR v
    else .next v
  | _ => .brk CALLBACK_RETCODE_PARAM_ERROR v

/-- mirrors src/listener.c:444-460 -/
def fetchDate (pf : Platform) (v : FetchVars) (name value : Bytes) : FetchStep :=
  let (temp, rdtnPerformed, errno) := normalizeDate pf v.errno value
  let v := { v with errno := errno }
  if temp = 0 ∨ temp = -1 then .brk CALLBACK_RETCODE_PARAM_ERROR v
  else if name = ascii "from" then
    .next { v with fromDate := if rdtnPerformed then dayStart temp else temp }
  else if name = ascii "to" then
    .next { v with toDate := if rdtnPerformed then dayEnd temp else temp }
  else .next { v with on := temp }

/-- mirrors src/listener.c:461-465 -/
def fetchSelect (v : FetchVars) (value : Bytes) : FetchStep :=
  let (n, range) := strtol value
  let v := { v with select := toInt32 n, errno := setErange range v.errno }
  if v.errno = ERANGE ∨ v.select < 0 then .ret CALLBACK_RETCODE_PARAM_ERROR v else .next v

/-- One round of the loop. mirrors src/listener.c:416-470 -/
def fetchParam (pf : Platform) (v : FetchVars) (p : HttpCmdParam) : Except Fault FetchStep :=
  match p.value with
  | none => .ok (.brk CALLBACK_RETCODE_PARAM_ERROR v)
  | some value =>
    (deref p.name).map fun name =>
      if name = ascii "tempunit" then fetchTempunit v value
      else if name = ascii "from" ∨ name = ascii "to" ∨ name = ascii "on" then
        fetchDate pf v name value
      else if name = ascii "select" then fetchSelect v value
      else .brk CALLBACK_RETCODE_UNKNOWN_PARAM v

/-! ### Each parameter has its own branch -/

theorem fetchParam_tempunit (pf : Platform) (v : FetchVars) (value : Bytes) :
    fetchParam pf v ⟨some (ascii "tempunit"), some value⟩ = .ok (fetchTempunit v value) := by
  simp only [fetchParam, deref, Except.map, if_true]

theorem fetchParam_date (pf : Platform) (v : FetchVars) {name : Bytes} (value : Bytes)
    (hname : name = ascii "from" ∨ name = ascii "to" ∨ name = ascii "on") :
    fetchParam pf v ⟨some name, some value⟩ = .ok (fetchDate pf v name value) := by
  have hne : name ≠ ascii "tempunit" := by
    rcases hname with rfl | rfl | rfl <;> decide
  simp only [fetchParam, deref, Except.map, if_neg hne, if_pos hname]

theorem fetchParam_select (pf : Platform) (v : FetchVars) (value : Bytes) :
    fetchParam pf v ⟨some (ascii "select"), some value⟩ = .ok (fetchSelect v value) := by
  have hunit : ascii "select" ≠ ascii "tempunit" := by decide
  have hdate : ¬ (ascii "select" = ascii "from" ∨ ascii "select" = ascii "to" ∨
      ascii "select" = ascii "on") := by decide
  simp only [fetchParam, deref, Except.map, if_neg hunit, if_neg hdate, if_true]

/-- What one round can end in. -/
inductive FetchRound (pf : Platform) (v : FetchVars) (p : HttpCmdParam) : FetchStep → Prop
  | refused (v' : FetchVars) : FetchRound pf v p (.brk CALLBACK_RETCODE_PARAM_ERROR v')
  | unknown : FetchRound pf v p (.brk CALLBACK_RETCODE_UNKNOWN_PARAM v)
  | badSelect (v' : FetchVars) : FetchRound pf v p (.ret CALLBACK_RETCODE_PARAM_ERROR v')
  | celsius (b : UInt8) (hn : p.name = some (ascii "tempunit")) (hv : p.value = some [b])
      (hb : tolower b = RPIWD_TEMPERATURE_CELSIUS) :
      FetchRound pf v p (.next
        { v with unitstr := v.unitstr.set RPIWD_MEASURE_TEMPERATURE RPIWD_TEMPERATURE_CELSIUS })
  | farenheit (b : UInt8) (hn : p.name = some (ascii "tempunit")) (hv : p.value = some [b])
      (hb : tolower b = RPIWD_TEMPERATURE_FARENHEIT) : FetchRound pf v p (.next v)
  | date (name value : Bytes) (v' : FetchVars) (hn : p.name = some name)
      (hname : name = ascii "from" ∨ name = ascii "to" ∨ name = ascii "on")
      (hv : p.value = some value) (hnext : fetchDate pf v name value = .next v') :
      FetchRound pf v p (.next v')
  | select (value : Bytes) (hn : p.name = some (ascii "select")) (hv : p.value = some value)
      (hrange : (strtol value).2 = false) :
      FetchRound pf v p (.next { v with select := toInt32 (strtol value).1 })

theorem fetchSelect_cases (v : FetchVars) (value : Bytes) :
    (∃ v', fetchSelect v value = .ret CALLBACK_RETCODE_PARAM_ERROR v') ∨
      (strtol value).2 = false ∧
        fetchSelect v value = .next { v with select := toInt32 (strtol value).1 } := by
  unfold fetchSelect
  dsimp only
  split
  · exact .inl ⟨_, rfl⟩
  · rename_i hne
    cases hr : (strtol value).2 with
    | true =>
      rw [hr] at hne
      exact absurd (.inl rfl) hne
    | false => exact .inr ⟨rfl, rfl⟩

/-- After an `ERANGE` that nobody cleared, any number is refused. -/
theorem fetchSelect_stale {v : FetchVars} (he : v.errno = ERANGE) (value : Bytes) :
    ∃ v', fetchSelect v value = .ret CALLBACK_RETCODE_PARAM_ERROR v' := by
  simp only [fetchSelect, he, setErange_erange, true_or, if_true]
  exact ⟨_, rfl⟩

theorem fetchDate_cases (pf : Platform) (v : FetchVars) (name value : Bytes) :
    (∃ v', fetchDate pf v name value = .brk CALLBACK_RETCODE_PARAM_ERROR v') ∨
      ∃ v', fetchDate pf v name value = .next v' ∧ v'.unitstr = v.unitstr ∧
        v'.errno = (normalizeDate pf v.errno value).2.2 ∧
        (normalizeDate pf v.errno value).1 ≠ 0 := by
  unfold fetchDate
  dsimp only
  split
  · exact .inl ⟨_, rfl⟩
  · rename_i hne
    have h0 : (normalizeDate pf v.errno value).1 ≠ 0 := fun h => hne (.inl h)
    split
    · exact .inr ⟨_, rfl, rfl, rfl, h0⟩
    · split <;> exact .inr ⟨_, rfl, rfl, rfl, h0⟩

theorem fetchParam_round {pf : Platform} {v : FetchVars} {p : HttpCmdParam} {s : FetchStep}
    (h : fetchParam pf v p = .ok s) : FetchRound pf v p s := by
  unfold fetchParam at h
  cases hv : p.value with
  | none =>
    rw [hv] at h
    cases h
    exact .refused v
  | some value =>
    cases hn : p.name with
    | none =>
      rw [hv, hn] at h
      cases h
    | some name =>
      simp only [hv, hn, deref, Except.map, Except.ok.injEq] at h
      subst h
      split
      · rename_i ht
        subst ht
        unfold fetchTempunit
        split
        · rename_i b
          dsimp only
          split
          · rename_i hc
            exact .celsius b hn hv hc
          · split
            · exact .refused v
            · rename_i hf
              exact .farenheit b hn hv (not_not.mp hf)
        · exact .refused v
      · split
        · rename_i hname
          rcases fetchDate_cases pf v name value with ⟨v', hd⟩ | ⟨v', hd, -⟩
          · rw [hd]
            exact .refused v'
          · rw [hd]
            exact .date name value v' hn hname hv hd
        · split
          · rename_i hs
            subst hs
            rcases fetchSelect_cases v value with ⟨v', hd⟩ | ⟨hrange, hd⟩
            · rw [hd]
              exact .badSelect v'
            · rw [hd]
              exact .select value hn hv hrange
          · exact .unknown

/-- The loop; `.next` at the end means it ran through with `retflag` zero. -/
def fetchLoop (pf : Platform) : List HttpCmdParam → FetchVars → Except Fault FetchStep
  | [], v => .ok (.next v)
  | p :: ps, v =>
    match fetchParam pf v p with
    | .error e => .error e
    | .ok (.next v') => fetchLoop pf ps v'
    | .ok s => .ok s

/-- The queries for a combination of bounds, or none when it is not
supported. mirrors src/listener.c:479-512 -/
def fetchQueries (v : FetchVars) : Option (Sql × Sql) :=
  if v.fromDate ≠ 0 ∧ v.toDate = 0 ∧ v.on = 0 ∧ v.select = 0 then
    some (.countByDate '>' v.fromDate, .readByDate '>' v.fromDate)
  else if v.fromDate ≠ 0 ∧ v.toDate ≠ 0 ∧ v.select = 0 ∧ v.on = 0 then
    some (.countByDateRange v.fromDate v.toDate, .readByDateRange v.fromDate v.toDate)
  else if v.fromDate = 0 ∧ v.toDate ≠ 0 ∧ v.select = 0 ∧ v.on = 0 then
    some (.countByDate '<' v.toDate, .readByDate '<' v.toDate)
  else if v.fromDate = 0 ∧ v.toDate = 0 ∧ v.select = 0 ∧ v.on ≠ 0 then
    some (.countByDateRange (dayStart v.on) (dayEnd v.on),
      .readByDateRange (dayStart v.on) (dayEnd v.on))
  else if v.fromDate = 0 ∧ v.toDate = 0 ∧ v.on = 0 ∧ 0 < v.select then
    some (.countSelectN v.select, .selectN v.select)
  else none

/-- Behind the loop: `retflag` is only returned early when positive, and no
code is; so the queries are built for a rejected list too.
mirrors src/listener.c:472-514 -/
def fetchFinish (msg : RpiwdMqmsg) (retflag : Int) (v : FetchVars) : CallbackResult :=
  let msg := { msg with unitstr := v.unitstr }
  if retflag > 0 then ⟨retflag, msg, v.errno⟩
  else
    let msg := { msg with mtype := .fetch }
    match fetchQueries v with
    | some (c, s) => ⟨retflag, { msg with fcountq := some c, fselectq := some s }, v.errno⟩
    | none => ⟨CALLBACK_RETCODE_PARAM_ERROR, msg, v.errno⟩

/-- mirrors src/listener.c:402-515 -/
def fetchCommandCallback (env : Env) (errno : Errno) (params : HttpCmd) (msg : RpiwdMqmsg) :
    Except Fault CallbackResult :=
  match params.params with
  | none => .ok ⟨CALLBACK_RETCODE_PARAMS_MISSING, msg, errno⟩
  | some ps =>
    (fetchLoop env.platform ps ⟨0, 0, 0, 0, msg.unitstr, errno⟩).map fun
      | .next v => fetchFinish msg 0 v
      | .brk retflag v => fetchFinish msg retflag v
      | .ret code v => ⟨code, { msg with unitstr := v.unitstr }, v.errno⟩

/-! ## current -/

/-- The query loop: at most `n` more attempts, the next one being the
`k`-th. mirrors src/listener.c:556-565 -/
def queryDevice (device : Nat → Int × ℚ × ℚ) : Nat → Nat → Option (ℚ × ℚ)
  | 0, _ => none
  | n + 1, k =>
    if (device k).1 = RPIWD_DEVRETCODE_SUCCESS then some (device k).2
    else queryDevice device n (k + 1)

/-- `RPIWD_CELSIUS_TO_FARENHEIT` -/
def celsiusToFarenheit (t : ℚ) : ℚ := t * 9 / 5 + 32

def keepNativeUnit (unitstr : Bytes) : Bool :=
  unitstr.getD RPIWD_MEASURE_TEMPERATURE 0 = RPIWD_TEMPERATURE_CELSIUS

/-- Behind the parameter check. mirrors src/listener.c:555-590 -/
def currentMeasure (env : Env) (errno : Errno) (msg : RpiwdMqmsg) : Except Fault CallbackResult :=
  match queryDevice env.device CONFIG_MAX_QUERY_ATTEMPTS 0 with
  | none => .ok ⟨CALLBACK_RETCODE_DEVICE_ERROR, msg, errno⟩
  | some (t, h) => do
    let t := if keepNativeUnit msg.unitstr then t else celsiusToFarenheit t
    let location ← deref env.config.measureLocation
    let deviceName ← deref env.config.deviceName
    let e : Entry := ⟨-1, none, t, h, some location, some deviceName⟩
    return ⟨CALLBACK_RETCODE_SUCCESS,
      { msg with data := some (.entry e), mtype := .current, isCompleted := true }, errno⟩

/-- mirrors src/listener.c:520-591 -/
def currentCommandCallback (env : Env) (errno : Errno) (params : HttpCmd) (msg : RpiwdMqmsg) :
    Except Fault CallbackResult :=
  match params.params.getD [] with
  | [] => currentMeasure env errno msg
  | [p] =>
    match deref p.value with
    | .error e => .error e
    | .ok [b] =>
      (deref p.name).bind fun name =>
        if name = ascii "tempunit" then
          if tolower b = RPIWD_TEMPERATURE_FARENHEIT ∨ tolower b = RPIWD_TEMPERATURE_CELSIUS then
            currentMeasure env errno
              { msg with unitstr := msg.unitstr.set RPIWD_MEASURE_TEMPERATURE (tolower b) }
          else .ok ⟨CALLBACK_RETCODE_PARAM_ERROR, msg, errno⟩
        else .ok ⟨CALLBACK_RETCODE_UNKNOWN_PARAM, msg, errno⟩
    | .ok _ => .ok ⟨CALLBACK_RETCODE_PARAM_ERROR, msg, errno⟩
  | _ => .ok ⟨CALLBACK_RETCODE_TOO_MANY_PARAMS, msg, errno⟩

/-- What a `current` that returns has done: measure, for a list without
parameters or with an only unit, or refuse with the message untouched. -/
theorem currentCommandCallback_cases {env : Env} {errno : Errno} {params : HttpCmd}
    {msg : RpiwdMqmsg} {r : CallbackResult}
    (h : currentCommandCallback env errno params msg = .ok r) :
    (params.params.getD [] = [] ∧ currentMeasure env errno msg = .ok r) ∨
    (∃ b, params.params.getD [] = [⟨some (ascii "tempunit"), some [b]⟩] ∧
      (tolower b = RPIWD_TEMPERATURE_FARENHEIT ∨ tolower b = RPIWD_TEMPERATURE_CELSIUS) ∧
      currentMeasure env errno
        { msg with unitstr := msg.unitstr.set RPIWD_MEASURE_TEMPERATURE (tolower b) } = .ok r) ∨
    ∃ c, c ≠ CALLBACK_RETCODE_SUCCESS ∧ r = ⟨c, msg, errno⟩ := by
  unfold currentCommandCallback at h
  cases hps : params.params.getD [] with
  | nil =>
    rw [hps] at h
    exact .inl ⟨rfl, h⟩
  | cons p ps =>
    rw [hps] at h
    right
    cases ps with
    | cons q qs =>
      cases h
      exact .inr ⟨_, by decide, rfl⟩
    | nil =>
      obtain ⟨name, value⟩ := p
      rcases value with _ | _ | ⟨b, _ | ⟨b', bs⟩⟩
      · cases h
      · cases h
        exact .inr ⟨_, by decide, rfl⟩
      · cases name with
        | none => cases h
        | some name =>
          simp only [deref, Except.bind] at h
          split at h
          · rename_i hn
            split at h
            · rename_i hb
              exact .inl ⟨b, by rw [hn], hb, h⟩
            · cases h
              exact .inr ⟨_, by decide, rfl⟩
          · cases h
            exact .inr ⟨_, by decide, rfl⟩
      · cases h
        exact .inr ⟨_, by decide, rfl⟩

/-! ## statistics and config -/

/-- mirrors src/listener.c:593-639 -/
def statisticsCommandCallback (env : Env) (errno : Errno) (params : HttpCmd) (msg : RpiwdMqmsg) :
    Except Fault CallbackResult :=
  if params.length > 0 then .ok ⟨CALLBACK_RETCODE_NO_PARAMS_NEEDED, msg, errno⟩
  else
    let l := keyValueListAlloc (env.statsCount + STATS_EXTRA_STATS_COUNT)
    let l := keyValueListEmplace l (some (ascii "hostname")) (some env.hostname)
    let l := keyValueListEmplace l (some (ascii "version")) (some env.version)
    let l := keyValueListEmplace l (some (ascii "uptime")) (some env.uptime)
    let l := keyValueListEmplace l (some (ascii "freeram")) (some env.freeram)
    let l := keyValueListEmplace l (some (ascii "freedisk")) (some env.freedisk)
    .ok ⟨CALLBACK_RETCODE_SUCCESS,
      { msg with
        data := some (.keyValues l)
        mtype := .stats
        fselectq := some .selectStats
        fcountq := some .countInitialStats }, errno⟩

/-- mirrors src/listener.c:641-671 -/
def configCommandCallback (env : Env) (errno : Errno) (_params : HttpCmd) (msg : RpiwdMqmsg) :
    Except Fault CallbackResult :=
  let c := env.config
  let l := keyValueListAlloc c.configCount
  let l := keyValueListEmplace l (some (ascii "measure_location")) c.measureLocation
  let l := keyValueListEmplace l (some (ascii "query_interval")) c.queryInterval
  let l := keyValueListEmplace l (some (ascii "device_name")) c.deviceName
  let l := keyValueListEmplace l (some (ascii "device_config")) (some (printInt c.deviceConfig))
  let l := keyValueListEmplace l (some (ascii "comm_port")) (some (printInt c.commPort))
  let l := keyValueListEmplace l (some (ascii "num_worker_threads"))
    (some (printInt c.numWorkerThreads))
  .ok ⟨CALLBACK_RETCODE_SUCCESS,
    { msg with data := some (.keyValues l), mtype := .config, isCompleted := true }, errno⟩

/-! ## Dispatch -/

inductive Command where
  | fetch
  | current
  | statistics
  | config
  deriving DecidableEq, Repr

/-- `CMD_CALLBACK_TABLE` -/
def commandTable : List (Bytes × Command) :=
  [(ascii "fetch", .fetch), (ascii "current", .current), (ascii "statistics", .statistics),
    (ascii "config", .config)]

def Command.callback : Command → Env → Errno → HttpCmd → RpiwdMqmsg → Except Fault CallbackResult
  | .fetch => fetchCommandCallback
  | .current => currentCommandCallback
  | .statistics => statisticsCommandCallback
  | .config => configCommandCallback

/-- mirrors src/listener.c:388-400 -/
def dispatchCommand (env : Env) (errno : Errno) (params : HttpCmd) (msg : RpiwdMqmsg) :
    Except Fault CallbackResult :=
  match commandTable.lookup params.cmdname with
  | some c => c.callback env errno params msg
  | none => .ok ⟨CALLBACK_RETCODE_UNKNOWN_COMMAND, msg, errno⟩

/-- mirrors src/listener.c:366-386 -/
def commandCallbackStrerror (errcode : Int) : String :=
  if errcode = CALLBACK_RETCODE_SUCCESS then "Success"
  else if errcode = CALLBACK_RETCODE_UNKNOWN_PARAM then
    "Query contains unknown parameters; please refer to documentation."
  else if errcode = CALLBACK_RETCODE_PARAM_ERROR then "Query parameter has incorrect value."
  else if errcode = CALLBACK_RETCODE_UNKNOWN_COMMAND then "Unrecognized command."
  else if errcode = CALLBACK_RETCODE_PARAMS_MISSING then "Command requires parameters."
  else if errcode = CALLBACK_RETCODE_TOO_MANY_PARAMS then "Too many parameters."
  else if errcode = CALLBACK_RETCODE_NO_PARAMS_NEEDED then
    "Parameters provided to command but the command does not accept any arguments."
  else "Unknown command callback error."

end Rpiweatherd
