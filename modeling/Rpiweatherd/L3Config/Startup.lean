import Rpiweatherd.L2Util.Intervals
import Rpiweatherd.L3Config.Reload
import Rpiweatherd.L3Listener.DbThread

/-!
# The check at startup (`src/confighandler.c:139-189`)

`config_has_errors` compares the location and the interval with NULL, looks
the device name up without doing so, and bounds the number of threads. What
the interval says is left to `rpiwd_units_to_milliseconds`, in the query loop
and with no way to refuse it: `startup_check_iff` names the files for which
the check reads no NULL pointer and lets no interval through that is zero.

`config_reports_iff` is about the same files once they are accepted: the
`config` command has room for as many settings as lines were counted.
-/
namespace Rpiweatherd

/-! ## What the check lets through -/

/-- The configuration after the first load. -/
def firstConfig (file : Option Bytes) (errno : Errno) : ConfStrct :=
  (initCurrentConfig file (.zero errno)).1.current

/-- The check reads no NULL pointer; and if it finds no error, the interval is
one to sleep for the `errno` of the query loop. -/
structure CheckSound (pf : Platform) (file : Option Bytes) (errno loopErrno : Errno) : Prop where
  total : ∃ n, configHasErrors (firstConfig file errno) = .ok n
  sufficient : configHasErrors (firstConfig file errno) = .ok 0 →
    ∃ interval, (firstConfig file errno).queryInterval = .live interval ∧
      (rpiwdUnitsToMilliseconds pf loopErrno interval).1 ≠ 0

/-- What `config_has_errors` asks of a file. -/
structure PassesCheck (file : Option Bytes) : Prop where
  location : (lastValue CONFIG_LOCATION (fileCalls file)).isSome = true
  device : ∃ d ∈ SUPPORTED_DEVICES, lastValue CONFIG_DEVICE_NAME (fileCalls file) = some d
  interval : (lastValue CONFIG_QUERY_INTERVAL (fileCalls file)).isSome = true
  threads : 1 ≤ threadsOf (fileCalls file) ∧
    threadsOf (fileCalls file) ≤ CONFIG_NUM_WORKER_THREADS_MAX

theorem ofLast_isLive (v : Option Bytes) : (ofLast v).isLive = v.isSome := by
  cases v <;> rfl

theorem ofLast_eq_live (v : Option Bytes) (s : Bytes) : ofLast v = .live s ↔ v = some s := by
  cases v <;> simp [ofLast]

theorem configHasErrors_firstConfig_iff (file : Option Bytes) (errno : Errno) :
    configHasErrors (firstConfig file errno) = .ok 0 ↔ PassesCheck file := by
  have hvalid : configHasErrors (firstConfig file errno) = .ok 0 ↔ (firstConfig file errno).Valid :=
    ⟨fun h => ⟨h, firstLoad_noDangling file errno⟩, fun h => h.1⟩
  rw [hvalid, ConfStrct.valid_iff, firstConfig, firstLoad_current]
  simp only [ofLast_isLive, ofLast_eq_live]
  constructor
  · rintro ⟨hl, hd, hq, ht⟩
    exact ⟨hl, hd, hq, ht⟩
  · exact fun h => ⟨h.location, h.device, h.interval, h.threads⟩

/-- The device name is read without a look at the pointer. -/
theorem configHasErrors_ok_iff (c : ConfStrct) :
    (∃ n, configHasErrors c = .ok n) ↔ ∃ d, c.deviceName = .live d := by
  cases hd : c.deviceName with
  | null => simp [configHasErrors, findDevice, SUPPORTED_DEVICES, hd, StrPtr.read, Except.bind,
      Except.map]
  | freed => simp [configHasErrors, findDevice, SUPPORTED_DEVICES, hd, StrPtr.read, Except.bind,
      Except.map]
  | live d =>
    have hfind : ∃ b, findDevice (.live d) SUPPORTED_DEVICES = .ok b := by
      by_cases h : d = ascii "dht11" <;>
        simp [findDevice, SUPPORTED_DEVICES, StrPtr.read, Except.bind, h]
    obtain ⟨b, hb⟩ := hfind
    simp [configHasErrors, hd, hb, Except.map]

/-- The file names a device; and if it passes the check, its interval is one to
sleep and the query loop starts without `ERANGE`. -/
structure SoundFile (pf : Platform) (file : Option Bytes) (loopErrno : Errno) : Prop where
  device : (lastValue CONFIG_DEVICE_NAME (fileCalls file)).isSome = true
  interval : PassesCheck file → loopErrno ≠ ERANGE ∧
    ∀ interval, lastValue CONFIG_QUERY_INTERVAL (fileCalls file) = some interval →
      Sleeps pf interval

/-- **Startup validation** is total and sufficient exactly for the files that
name a device and, if nothing else is wrong with them, an interval of a
millisecond or more. -/
theorem startup_check_iff (pf : Platform) (file : Option Bytes) (errno loopErrno : Errno) :
    CheckSound pf file errno loopErrno ↔ SoundFile pf file loopErrno := by
  have hdevice : (firstConfig file errno).deviceName =
      ofLast (lastValue CONFIG_DEVICE_NAME (fileCalls file)) := by
    rw [firstConfig, firstLoad_current]
  have hinterval : (firstConfig file errno).queryInterval =
      ofLast (lastValue CONFIG_QUERY_INTERVAL (fileCalls file)) := by
    rw [firstConfig, firstLoad_current]
  have htotal := configHasErrors_ok_iff (firstConfig file errno)
  simp only [hdevice, ofLast_eq_live, ← Option.isSome_iff_exists] at htotal
  constructor
  · rintro ⟨ht, hs⟩
    refine ⟨htotal.mp ht, fun hpass => ?_⟩
    obtain ⟨s, hlive, hne⟩ := hs ((configHasErrors_firstConfig_iff file errno).mpr hpass)
    rw [hinterval, ofLast_eq_live] at hlive
    obtain ⟨herr, hsleep⟩ := (rpiwdUnitsToMilliseconds_ne_zero_iff pf loopErrno s).mp hne
    refine ⟨herr, fun s' hs' => ?_⟩
    rw [hlive] at hs'
    cases hs'
    exact hsleep
  · rintro ⟨hd, hi⟩
    refine ⟨htotal.mpr hd, fun hzero => ?_⟩
    have hpass := (configHasErrors_firstConfig_iff file errno).mp hzero
    obtain ⟨herr, hsleep⟩ := hi hpass
    obtain ⟨s, hs⟩ := Option.isSome_iff_exists.mp hpass.interval
    refine ⟨s, by rw [hinterval, ofLast_eq_live]; exact hs, ?_⟩
    exact (rpiwdUnitsToMilliseconds_ne_zero_iff pf loopErrno s).mpr ⟨herr, hsleep s hs⟩

/-- A file whose interval is no interval. -/
def soonText : Bytes :=
  ascii "measure_location=attic\nquery_interval=soon\ndevice_name=dht11\nnum_worker_threads=2\n"

/-- An interval that is no number passes, and the loop does not sleep; without
a device name the check compares a NULL pointer. -/
theorem startup_check_passes_zero :
    ((initCurrentConfig (some soonText) (.zero 0)).2 = 0 ∧
      configHasErrors (firstConfig (some soonText) 0) = .ok 0 ∧
      (firstConfig (some soonText) 0).queryInterval = .live (ascii "soon") ∧
      ∀ pf, (rpiwdUnitsToMilliseconds pf 0 (ascii "soon")).1 = 0) ∧
    ((initCurrentConfig (some (ascii "measure_location=attic\n")) (.zero 0)).2 = 0 ∧
      configHasErrors (firstConfig (some (ascii "measure_location=attic\n")) 0) =
        .error .nullDeref) := by
  have hparsed : Ini.NoBadLine soonText ∧ Ini.calls known soonText =
      [⟨[], CONFIG_LOCATION, ascii "attic"⟩, ⟨[], CONFIG_QUERY_INTERVAL, ascii "soon"⟩,
        ⟨[], CONFIG_DEVICE_NAME, ascii "dht11"⟩, ⟨[], CONFIG_NUM_WORKER_THREADS, ascii "2"⟩] := by
    decide +kernel
  have hclean : CleanFile (some soonText) := cleanFile_of_calls hparsed (by decide +kernel)
  have hsoon : firstConfig (some soonText) 0 =
      ⟨4, .live (ascii "attic"), .live (ascii "dht11"), 0, .live (ascii "soon"), 0, 2⟩ := by
    rw [firstConfig, firstLoad_current, show fileCalls (some soonText) = _ from hparsed.2]
    decide +kernel
  have hattic : firstConfig (some (ascii "measure_location=attic\n")) 0 =
      ⟨1, .live (ascii "attic"), .null, 0, .null, 0, 0⟩ := by
    rw [firstConfig, firstLoad_current]
    decide +kernel
  rw [hsoon, hattic]
  refine ⟨⟨(initCurrentConfig_flag _ _).mpr hclean, rfl, rfl, fun pf => ?_⟩, by decide +kernel, rfl⟩
  have hunit : hasUnit (ascii "soon") = false := by decide +kernel
  rw [rpiwdUnitsToMilliseconds_no_unit hunit]

/-! ## The config command -/

/-- The six settings of a configuration. -/
def configSettings (c : RpiwdConfig) : List (Option Bytes × Option Bytes) :=
  [(some CONFIG_LOCATION, c.measureLocation), (some CONFIG_QUERY_INTERVAL, c.queryInterval),
    (some CONFIG_DEVICE_NAME, c.deviceName),
    (some CONFIG_DEVICE_CONFIG, some (printInt c.deviceConfig)),
    (some CONFIG_COMM_PORT, some (printInt c.commPort)),
    (some CONFIG_NUM_WORKER_THREADS, some (printInt c.numWorkerThreads))]

theorem configSettings_nodup (c : RpiwdConfig) : (configSettings c).Nodup := by
  have hkeys : [some CONFIG_LOCATION, some CONFIG_QUERY_INTERVAL, some CONFIG_DEVICE_NAME,
      some CONFIG_DEVICE_CONFIG, some CONFIG_COMM_PORT,
      some CONFIG_NUM_WORKER_THREADS].Nodup := by
    decide +kernel
  exact List.Nodup.of_map Prod.fst hkeys

/-- Room for all of them is needed. -/
theorem forall_mem_take_iff {α : Type} {l : List α} (h : l.Nodup) (n : Nat) :
    (∀ p ∈ l, p ∈ l.take n) ↔ l.length ≤ n := by
  constructor
  · intro hall
    have hlen := (h.subperm hall).length_le
    rw [List.length_take] at hlen
    omega
  · intro hn p hp
    rwa [List.take_of_length_le hn]

/-- The list of the `config` command. -/
theorem configCommandCallback_eq (env : Env) (errno : Errno) (params : HttpCmd)
    (msg : RpiwdMqmsg) :
    configCommandCallback env errno params msg = .ok ⟨CALLBACK_RETCODE_SUCCESS,
      { msg with
        data := some (.keyValues (emplaceAll (keyValueListAlloc env.config.configCount)
          (configSettings env.config)))
        mtype := .config
        isCompleted := true }, errno⟩ := by
  simp only [configCommandCallback, emplaceAll, configSettings, List.foldl_cons, List.foldl_nil,
    CONFIG_LOCATION, CONFIG_QUERY_INTERVAL, CONFIG_DEVICE_NAME, CONFIG_DEVICE_CONFIG,
    CONFIG_COMM_PORT, CONFIG_NUM_WORKER_THREADS]

/-- The lines of a file that were counted by the first load. -/
def countedLines (file : Option Bytes) (errno : Errno) : Nat :=
  textLines (fileCalls file) + (if errno = ERANGE then 0 else clearNumbers (fileCalls file))

theorem firstConfig_configCount (file : Option Bytes) (errno : Errno) :
    (firstConfig file errno).configCount = countedLines file errno := by
  rw [firstConfig, firstLoad_current]
  cases file with
  | none =>
    have hnone : clearNumbers (fileCalls none) = 0 := rfl
    simp [countedLines, hnone]
  | some text => rfl

theorem ConfStrct.view_configCount {c : ConfStrct} {v : RpiwdConfig} (h : c.view = .ok v) :
    v.configCount = c.configCount := by
  obtain ⟨l, -, h⟩ := bind_ok h
  obtain ⟨d, -, h⟩ := bind_ok h
  obtain ⟨q, -, rfl⟩ := map_ok h
  rfl

theorem startConfig_current {file : Option Bytes} {errno : Errno} {s : ConfigState}
    (h : startConfig file errno = .ok (some s)) : s.current = firstConfig file errno := by
  obtain ⟨-, -, rfl⟩ := startConfig_eq_some_iff.mp h
  rfl

/-- **The config command** of an accepted file reports the six settings
exactly if six lines were counted. -/
theorem config_reports_iff (file : Option Bytes) (errno : Errno) (s : ConfigState)
    (hstart : startConfig file errno = .ok (some s)) (env : Env)
    (henv : s.current.view = .ok env.config) (e : Errno) (params : HttpCmd) (msg : RpiwdMqmsg) :
    (∃ r l, configCommandCallback env e params msg = .ok r ∧
      r.msg.data = some (.keyValues l) ∧ ∀ p ∈ configSettings env.config, p ∈ l.pairs) ↔
      6 ≤ countedLines file errno := by
  have hcount : env.config.configCount = countedLines file errno := by
    rw [ConfStrct.view_configCount henv, startConfig_current hstart, firstConfig_configCount]
  have hpairs : (emplaceAll (keyValueListAlloc env.config.configCount)
      (configSettings env.config)).pairs =
      (configSettings env.config).take env.config.configCount :=
    emplaceAll_pairs _ _
  have htake := forall_mem_take_iff (configSettings_nodup env.config) env.config.configCount
  rw [configCommandCallback_eq, ← hcount]
  generalize emplaceAll (keyValueListAlloc env.config.configCount) (configSettings env.config) =
    list at hpairs ⊢
  constructor
  · rintro ⟨r, l, hr, hdata, hall⟩
    cases hr
    cases hdata
    rw [hpairs] at hall
    exact htake.mp hall
  · intro hsix
    refine ⟨_, _, rfl, rfl, ?_⟩
    rw [hpairs]
    exact htake.mpr hsix

/-- A file with all six keys. -/
def fullText : Bytes :=
  ascii "measure_location=attic\nquery_interval=1h\ndevice_name=dht11\ndevice_config=4\n" ++
    ascii "comm_port=6005\nnum_worker_threads=2\n"

def fullCalls : List Ini.Call :=
  [⟨[], CONFIG_LOCATION, ascii "attic"⟩, ⟨[], CONFIG_QUERY_INTERVAL, ascii "1h"⟩,
    ⟨[], CONFIG_DEVICE_NAME, ascii "dht11"⟩, ⟨[], CONFIG_DEVICE_CONFIG, ascii "4"⟩,
    ⟨[], CONFIG_COMM_PORT, ascii "6005"⟩, ⟨[], CONFIG_NUM_WORKER_THREADS, ascii "2"⟩]

theorem fullText_parsed : Ini.NoBadLine fullText ∧ Ini.calls known fullText = fullCalls := by
  decide +kernel

theorem fileCalls_fullText : fileCalls (some fullText) = fullCalls := fullText_parsed.2

def fullState : ConfigState := (initCurrentConfig (some fullText) (.zero 0)).1

theorem fullState_current : fullState.current =
    ⟨6, .live (ascii "attic"), .live (ascii "dht11"), 4, .live (ascii "1h"), 6005, 2⟩ := by
  rw [fullState, firstLoad_current, fileCalls_fullText]
  decide +kernel

theorem startConfig_fullText : startConfig (some fullText) 0 = .ok (some fullState) := by
  have hclean : CleanFile (some fullText) := cleanFile_of_calls fullText_parsed (by decide +kernel)
  refine startConfig_eq_some_iff.mpr ⟨(initCurrentConfig_flag _ _).mpr hclean, ?_, rfl⟩
  rw [fullState_current]
  rfl

/-- The machine with the configuration in the attic: `count` counted lines,
the device configuration and the port. -/
def atticEnv (count : Nat) (deviceConfig commPort : Int) : Env :=
  { (default : Env) with
    config := ⟨count, some (ascii "attic"), some (ascii "dht11"), deviceConfig,
      some (ascii "1h"), commPort, 2⟩
    configSet := ⟨rfl, rfl⟩ }

theorem fullState_view : fullState.current.view = .ok (atticEnv 6 4 6005).config := by
  rw [fullState_current]
  rfl

/-- All six are reported for this file. -/
theorem config_reports_full :
    ∃ r l, configCommandCallback (atticEnv 6 4 6005) 0 ⟨ascii "config", none⟩ default =
        .ok r ∧
      r.msg.data = some (.keyValues l) ∧
      ∀ p ∈ configSettings (atticEnv 6 4 6005).config, p ∈ l.pairs := by
  have hsix : 6 ≤ countedLines (some fullText) 0 := by
    rw [countedLines, fileCalls_fullText]
    decide +kernel
  exact (config_reports_iff (some fullText) 0 fullState startConfig_fullText (atticEnv 6 4 6005)
    fullState_view 0 ⟨ascii "config", none⟩ default).mpr hsix

/-- A file without the two optional keys is accepted; the port and the number
of threads are missing from the list. -/
theorem config_reports_four :
    startConfig (some (confText "2")) 0 = .ok (some (confState "2")) ∧
      (confState "2").current.view = .ok (atticEnv 4 0 0).config ∧
      ∃ r l, configCommandCallback (atticEnv 4 0 0) 0 ⟨ascii "config", none⟩ default =
          .ok r ∧
        r.msg.data = some (.keyValues l) ∧
        l.pairs.map Prod.fst = [some CONFIG_LOCATION, some CONFIG_QUERY_INTERVAL,
          some CONFIG_DEVICE_NAME, some CONFIG_DEVICE_CONFIG] := by
  refine ⟨startConfig_confText, ?_, _, _, rfl, rfl, rfl⟩
  rw [confState_current]
  rfl

end Rpiweatherd
