import Rpiweatherd.L3Config.Config
import Rpiweatherd.L3Listener.Callbacks

/-!
# Reloading the configuration (`src/rpiweatherd.c:174-186`)

On SIGHUP the main thread calls `free_current_config` and
`init_current_config` and looks at no result. Two things survive the pair:
the freed pointers of the keys that the new file does not set, and the old
`num_worker_threads`; and `errno` decides whether the numeric lines count.
`reload_forgets_iff` names the pairs of files for which nothing survives.

At startup the result of the load and `config_has_errors` are checked; a
reload checks nothing, so that `reload_valid_iff` puts the whole check into
the condition on the files.
-/
namespace Rpiweatherd

/-! ## free_config in closed form -/

/-- No string refers to a block that was freed. -/
def ConfStrct.NoDangling (c : ConfStrct) : Prop :=
  c.measureLocation ≠ .freed ∧ c.deviceName ≠ .freed ∧ c.queryInterval ≠ .freed

instance decidableNoDangling (c : ConfStrct) : Decidable c.NoDangling :=
  inferInstanceAs (Decidable (_ ∧ _))

/-- The structure after `free_config`. -/
def ConfStrct.released (c : ConfStrct) : ConfStrct :=
  { c with
    measureLocation := c.measureLocation.released
    deviceName := c.deviceName.released
    queryInterval := c.queryInterval.released
    commPort := 0
    deviceConfig := 0 }

theorem freeConfig_eq (c : ConfStrct) :
    freeConfig c = if c.NoDangling then .ok c.released else .error .doubleFree := by
  unfold freeConfig ConfStrct.NoDangling
  rw [freeField_eq, freeField_eq, freeField_eq]
  by_cases hl : c.measureLocation = .freed
  · simp [hl, Except.bind]
  · by_cases hd : c.deviceName = .freed
    · simp [hl, hd, Except.bind]
    · by_cases hq : c.queryInterval = .freed
      · simp [hl, hd, hq, Except.bind, Except.map]
      · simp [hl, hd, hq, Except.bind, Except.map, ConfStrct.released]

/-- The two calls of a reload. mirrors src/rpiweatherd.c:182-183 -/
def reloadConfig (file : Option Bytes) (s : ConfigState) : Except Fault ConfigState :=
  (freeCurrentConfig s).map fun s => (initCurrentConfig file s).1

/-- Without a dangling string, the file is loaded over the released one. -/
theorem reloadConfig_ok {s : ConfigState} (h : s.current.NoDangling) (file : Option Bytes) :
    reloadConfig file s =
      .ok (initCurrentConfig file { s with current := s.current.released }).1 := by
  simp only [reloadConfig, freeCurrentConfig, freeConfig_eq, if_pos h, Except.map]

/-! ## The old configuration forgotten -/

/-- A string as the first load leaves it. -/
def ofLast (v : Option Bytes) : StrPtr := (v.map .live).getD .null

theorem ofLast_ne_freed (v : Option Bytes) : ofLast v ≠ .freed := by
  cases v <;> simp [ofLast]

/-- A string survives its release as a dangling pointer unless it is set
again. -/
theorem reloaded_string_iff (old new : Option Bytes) :
    (new.map StrPtr.live).getD (ofLast old).released = ofLast new ↔
      new.isSome = true ∨ old = none := by
  cases new <;> cases old <;> simp [ofLast, StrPtr.released]

theorem reloaded_number_iff (old : Int) (new : Option Bytes) :
    (new.map configInt).getD old = (new.map configInt).getD 0 ↔ new.isSome = true ∨ old = 0 := by
  cases new <;> simp

/-- The strings of the structure. -/
def STRING_KEYS : List Bytes := [CONFIG_LOCATION, CONFIG_DEVICE_NAME, CONFIG_QUERY_INTERVAL]

/-- What the last value of the key makes of the number of worker threads. -/
def threadsOf (cs : List Ini.Call) : Int :=
  ((lastValue CONFIG_NUM_WORKER_THREADS cs).map configInt).getD 0

/-- `errno` after a load. -/
def loadErrno (file : Option Bytes) (errno : Errno) : Errno :=
  setErange (anyOverflow (fileCalls file)) (openErrno file errno)

/-- The second file sets again what the first one set, and its lines are
counted as they would be without it. -/
structure Covers (a b : Option Bytes) (errno : Errno) : Prop where
  strings : ∀ key ∈ STRING_KEYS,
    (lastValue key (fileCalls b)).isSome = true ∨ lastValue key (fileCalls a) = none
  threads : (lastValue CONFIG_NUM_WORKER_THREADS (fileCalls b)).isSome = true ∨
    threadsOf (fileCalls a) = 0
  count : (loadErrno a errno = ERANGE ↔ errno = ERANGE) ∨ clearNumbers (fileCalls b) = 0

/-- The structure a first load leaves. -/
theorem firstLoad_current (file : Option Bytes) (errno : Errno) :
    (initCurrentConfig file (.zero errno)).1.current =
      { configCount := textLines (fileCalls file) +
          (if openErrno file errno = ERANGE then 0 else clearNumbers (fileCalls file))
        measureLocation := ofLast (lastValue CONFIG_LOCATION (fileCalls file))
        deviceName := ofLast (lastValue CONFIG_DEVICE_NAME (fileCalls file))
        deviceConfig := ((lastValue CONFIG_DEVICE_CONFIG (fileCalls file)).map configInt).getD 0
        queryInterval := ofLast (lastValue CONFIG_QUERY_INTERVAL (fileCalls file))
        commPort := ((lastValue CONFIG_COMM_PORT (fileCalls file)).map configInt).getD 0
        numWorkerThreads := threadsOf (fileCalls file) } := by
  rw [initCurrentConfig_eq]
  simp only [configAfter, ConfigState.zero, Nat.zero_add]
  rfl

theorem firstLoad_errno (file : Option Bytes) (errno : Errno) :
    (initCurrentConfig file (.zero errno)).1.errno = loadErrno file errno := by
  rw [initCurrentConfig_eq]
  rfl

theorem firstLoad_noDangling (file : Option Bytes) (errno : Errno) :
    (initCurrentConfig file (.zero errno)).1.current.NoDangling := by
  rw [firstLoad_current]
  exact ⟨ofLast_ne_freed _, ofLast_ne_freed _, ofLast_ne_freed _⟩

/-- The count is the same exactly if `errno` treats the numbers alike, or
there are none to count. -/
theorem count_eq_iff (b : Option Bytes) (e e' : Errno) (n : Nat) :
    (n + (if openErrno b e = ERANGE then 0 else clearNumbers (fileCalls b)) =
      n + (if openErrno b e' = ERANGE then 0 else clearNumbers (fileCalls b))) ↔
      ((e = ERANGE ↔ e' = ERANGE) ∨ clearNumbers (fileCalls b) = 0) := by
  cases b with
  | none =>
    have hnone : clearNumbers (fileCalls none) = 0 := rfl
    simp [hnone]
  | some text =>
    simp only [openErrno, Option.isNone_some, Bool.false_eq_true, if_false]
    by_cases h : e = ERANGE <;> by_cases h' : e' = ERANGE <;> simp [h, h', eq_comm]

/-- **A reload forgets the old configuration** exactly if the new file covers
what the old one left. -/
theorem reload_forgets_iff (a b : Option Bytes) (errno : Errno) :
    (∃ s, reloadConfig b (initCurrentConfig a (.zero errno)).1 = .ok s ∧
      s.current = (initCurrentConfig b (.zero errno)).1.current ∧ s.current.NoDangling) ↔
      Covers a b errno := by
  have hreload := reloadConfig_ok (firstLoad_noDangling a errno) b
  have hdang := firstLoad_noDangling b errno
  rw [hreload]
  have hiff : ((initCurrentConfig b { (initCurrentConfig a (.zero errno)).1 with
        current := (initCurrentConfig a (.zero errno)).1.current.released }).1.current =
      (initCurrentConfig b (.zero errno)).1.current) ↔ Covers a b errno := by
    rw [firstLoad_current b, initCurrentConfig_eq]
    simp only [configAfter, firstLoad_current a, firstLoad_errno a, ConfStrct.released,
      Nat.zero_add, ConfStrct.mk.injEq, reloaded_string_iff, count_eq_iff, threadsOf,
      reloaded_number_iff]
    constructor
    · rintro ⟨hc, hl, hd, -, hq, -, ht⟩
      refine ⟨?_, ht, hc⟩
      simp only [STRING_KEYS, List.forall_mem_cons]
      exact ⟨hl, hd, hq, fun _ h => absurd h List.not_mem_nil⟩
    · rintro ⟨hs, ht, hc⟩
      simp only [STRING_KEYS, List.forall_mem_cons] at hs
      exact ⟨hc, hs.1, hs.2.1, trivial, hs.2.2.1, trivial, ht⟩
  constructor
  · rintro ⟨s, hs, heq, -⟩
    cases hs
    exact hiff.mp heq
  · intro h
    exact ⟨_, rfl, hiff.mpr h, by rw [hiff.mpr h]; exact hdang⟩

/-- A file that sets the location and the number of threads, then one that
sets neither: a freed pointer and the old number stay. -/
theorem reload_keeps_old :
    ∃ s, reloadConfig (some (ascii "query_interval=1h\n"))
        (initCurrentConfig (some (ascii "measure_location=attic\nnum_worker_threads=3\n"))
          (.zero 0)).1 = .ok s ∧
      s.current.measureLocation = .freed ∧ s.current.numWorkerThreads = 3 ∧
      (initCurrentConfig (some (ascii "query_interval=1h\n")) (.zero 0)).1.current =
        ⟨1, .null, .null, 0, .live (ascii "1h"), 0, 0⟩ := by
  refine ⟨_, reloadConfig_ok (firstLoad_noDangling _ _) _, ?_⟩
  decide +kernel

/-! ## The configuration in force -/

/-- `config_has_errors` finds nothing, and no string is dangling. -/
def ConfStrct.Valid (c : ConfStrct) : Prop := configHasErrors c = .ok 0 ∧ c.NoDangling

def StrPtr.isLive : StrPtr → Bool
  | .live _ => true
  | _ => false

theorem StrPtr.isLive_iff (p : StrPtr) : p.isLive = true ↔ p ≠ .null ∧ p ≠ .freed := by
  cases p <;> simp [isLive]

/-- The name is read, so it has to be there. -/
theorem findDevice_iff (p : StrPtr) :
    findDevice p SUPPORTED_DEVICES = .ok true ↔ ∃ d ∈ SUPPORTED_DEVICES, p = .live d := by
  cases p with
  | null => simp [findDevice, SUPPORTED_DEVICES, StrPtr.read, Except.bind]
  | freed => simp [findDevice, SUPPORTED_DEVICES, StrPtr.read, Except.bind]
  | live s =>
    by_cases h : s = ascii "dht11" <;>
      simp [findDevice, SUPPORTED_DEVICES, StrPtr.read, Except.bind, h]

theorem threadErrors_eq_zero_iff (n : Int) :
    threadErrors n = 0 ↔ 1 ≤ n ∧ n ≤ CONFIG_NUM_WORKER_THREADS_MAX := by
  unfold threadErrors
  split
  · omega
  · split <;> omega

/-- Location and interval are there, the device is supported, and the number
of threads is in its bounds. -/
theorem ConfStrct.valid_iff (c : ConfStrct) :
    c.Valid ↔ c.measureLocation.isLive = true ∧
      (∃ d ∈ SUPPORTED_DEVICES, c.deviceName = .live d) ∧ c.queryInterval.isLive = true ∧
      1 ≤ c.numWorkerThreads ∧ c.numWorkerThreads ≤ CONFIG_NUM_WORKER_THREADS_MAX := by
  rw [← findDevice_iff, StrPtr.isLive_iff, StrPtr.isLive_iff, ← threadErrors_eq_zero_iff]
  unfold Valid NoDangling configHasErrors
  constructor
  · rintro ⟨herr, hl, -, hq⟩
    obtain ⟨nameflag, hname, hsum⟩ := map_ok herr
    cases nameflag with
    | false => simp at hsum
    | true =>
      simp only [if_true, Nat.add_eq_zero_iff, ite_eq_right_iff, one_ne_zero, imp_false] at hsum
      exact ⟨⟨hsum.1.1.1, hl⟩, hname, ⟨hsum.1.2, hq⟩, hsum.2⟩
  · rintro ⟨⟨hl, hl'⟩, hname, ⟨hq, hq'⟩, ht⟩
    obtain ⟨d, -, hd⟩ := (findDevice_iff _).mp hname
    refine ⟨?_, hl', by rw [hd]; simp, hq'⟩
    simp only [hname, Except.map, if_neg hl, if_neg hq, ht, if_true]

/-- A string field as the callbacks of the listener see it. -/
def StrPtr.view : StrPtr → Except Fault (Option Bytes)
  | .null => .ok none
  | .live s => .ok (some s)
  | .freed => .error .useAfterFree

/-- The structure as the callbacks of the listener see it. -/
def ConfStrct.view (c : ConfStrct) : Except Fault RpiwdConfig :=
  c.measureLocation.view.bind fun measureLocation =>
    c.deviceName.view.bind fun deviceName =>
      c.queryInterval.view.map fun queryInterval =>
        ⟨c.configCount, measureLocation, deviceName, c.deviceConfig, queryInterval, c.commPort,
          c.numWorkerThreads⟩

/-- What `main` requires of the first load. mirrors src/rpiweatherd.c:278-288 -/
def startConfig (file : Option Bytes) (errno : Errno) : Except Fault (Option ConfigState) :=
  let (s, flag) := initCurrentConfig file (.zero errno)
  if flag ≠ 0 then .ok none
  else (configHasErrors s.current).map fun errors => if errors > 0 then none else some s

theorem startConfig_eq_some_iff {file : Option Bytes} {errno : Errno} {s : ConfigState} :
    startConfig file errno = .ok (some s) ↔
      (initCurrentConfig file (.zero errno)).2 = 0 ∧ configHasErrors s.current = .ok 0 ∧
        s = (initCurrentConfig file (.zero errno)).1 := by
  unfold startConfig
  dsimp only
  constructor
  · intro h
    split at h
    · cases h
    · rename_i hflag
      obtain ⟨errors, herr, hs⟩ := map_ok h
      split at hs
      · cases hs
      · rename_i hzero
        cases hs
        rw [herr, Nat.eq_zero_of_not_pos hzero]
        exact ⟨not_not.mp hflag, rfl, rfl⟩
  · rintro ⟨hflag, herr, rfl⟩
    simp only [hflag, herr]
    rfl

theorem startConfig_valid {file : Option Bytes} {errno : Errno} {s : ConfigState}
    (h : startConfig file errno = .ok (some s)) : s.current.Valid := by
  obtain ⟨-, herr, rfl⟩ := startConfig_eq_some_iff.mp h
  exact ⟨herr, firstLoad_noDangling file errno⟩

/-- A SIGHUP: the file as it is then, and the `errno` left by whatever the
main thread did before. -/
structure Hup where
  file : Option Bytes
  errno : Errno

/-- `none` is a run that is undefined from there on. -/
def hupStep (s : ConfigState) (l : Hup) : Option ConfigState :=
  (reloadConfig l.file { s with errno := l.errno }).toOption

theorem hupStep_eq {s : ConfigState} (h : s.current.NoDangling) (l : Hup) :
    hupStep s l = some (initCurrentConfig l.file
      { s with current := s.current.released, errno := l.errno }).1 := by
  have hok := reloadConfig_ok (s := { s with errno := l.errno }) h l.file
  simp only [hupStep, hok]
  rfl

/-- The file sets everything that `config_has_errors` asks for; the number of
threads may be left out. -/
structure Supplies (file : Option Bytes) : Prop where
  location : (lastValue CONFIG_LOCATION (fileCalls file)).isSome = true
  device : ∃ d ∈ SUPPORTED_DEVICES, lastValue CONFIG_DEVICE_NAME (fileCalls file) = some d
  interval : (lastValue CONFIG_QUERY_INTERVAL (fileCalls file)).isSome = true
  threads : ∀ v, lastValue CONFIG_NUM_WORKER_THREADS (fileCalls file) = some v →
    1 ≤ configInt v ∧ configInt v ≤ CONFIG_NUM_WORKER_THREADS_MAX

/-- After a release only a value given anew is live. -/
theorem reloaded_isLive (p : StrPtr) (v : Option Bytes) :
    ((v.map StrPtr.live).getD p.released).isLive = v.isSome := by
  cases v <;> cases p <;> rfl

theorem reloaded_eq_live (p : StrPtr) (v : Option Bytes) (d : Bytes) :
    (v.map StrPtr.live).getD p.released = .live d ↔ v = some d := by
  cases v <;> cases p <;> simp [StrPtr.released]

/-- One reload of a valid configuration. -/
theorem hupStep_valid_iff (s : ConfigState) (l : Hup) (h : s.current.Valid) :
    Supplies l.file ↔ ∃ t, hupStep s l = some t ∧ t.current.Valid := by
  have hold := s.current.valid_iff.mp h
  simp only [hupStep_eq h.2, Option.some.injEq, exists_eq_left']
  rw [ConfStrct.valid_iff, initCurrentConfig_eq]
  simp only [configAfter, ConfStrct.released, reloaded_isLive, reloaded_eq_live]
  -- without the key the old number stays, which is in its bounds
  have hthreads : (∀ v, lastValue CONFIG_NUM_WORKER_THREADS (fileCalls l.file) = some v →
      1 ≤ configInt v ∧ configInt v ≤ CONFIG_NUM_WORKER_THREADS_MAX) ↔
      1 ≤ ((lastValue CONFIG_NUM_WORKER_THREADS (fileCalls l.file)).map configInt).getD
          s.current.numWorkerThreads ∧
        ((lastValue CONFIG_NUM_WORKER_THREADS (fileCalls l.file)).map configInt).getD
          s.current.numWorkerThreads ≤ CONFIG_NUM_WORKER_THREADS_MAX := by
    cases lastValue CONFIG_NUM_WORKER_THREADS (fileCalls l.file) with
    | none => simpa using hold.2.2.2
    | some v => simp
  rw [← hthreads]
  constructor
  · exact fun h => ⟨h.location, h.device, h.interval, h.threads⟩
  · rintro ⟨hl, hd, hq, ht⟩
    exact ⟨hl, hd, hq, ht⟩

/-- **The running configuration is valid** after every reload of a run from a
successful start exactly if every file that was loaded supplies what the
check at startup asks for. -/
theorem reload_valid_iff (start : Option Bytes) (errno : Errno) (s : ConfigState)
    (hstart : startConfig start errno = .ok (some s)) (hups : List Hup) :
    (∀ pre, pre <+: hups → ∃ t, LTS.runFn hupStep s pre = some t ∧ t.current.Valid) ↔
      ∀ l ∈ hups, Supplies l.file :=
  LTS.runFn_forall_iff (I := fun s : ConfigState => s.current.Valid) hupStep_valid_iff
    (startConfig_valid hstart)

/-- A file with `n` worker threads that leaves out what is not checked. -/
def confText (n : String) : Bytes :=
  ascii "measure_location=attic\nquery_interval=1h\ndevice_name=dht11\nnum_worker_threads=" ++ ascii n

def confCalls (n : String) : List Ini.Call :=
  [⟨[], CONFIG_LOCATION, ascii "attic"⟩, ⟨[], CONFIG_QUERY_INTERVAL, ascii "1h"⟩,
    ⟨[], CONFIG_DEVICE_NAME, ascii "dht11"⟩, ⟨[], CONFIG_NUM_WORKER_THREADS, ascii n⟩]

theorem confText_parsed :
    ∀ n ∈ ["2", "9"], Ini.NoBadLine (confText n) ∧ Ini.calls known (confText n) = confCalls n := by
  decide +kernel

theorem fileCalls_confText (n : String) (h : n ∈ ["2", "9"]) :
    fileCalls (some (confText n)) = confCalls n := (confText_parsed n h).2

def confState (n : String) : ConfigState := (initCurrentConfig (some (confText n)) (.zero 0)).1

theorem confState_current : (confState "2").current =
    ⟨4, .live (ascii "attic"), .live (ascii "dht11"), 0, .live (ascii "1h"), 0, 2⟩ := by
  rw [confState, firstLoad_current, fileCalls_confText "2" (by decide)]
  decide +kernel

theorem startConfig_confText :
    startConfig (some (confText "2")) 0 = .ok (some (confState "2")) := by
  have hclean : CleanFile (some (confText "2")) :=
    cleanFile_of_calls (confText_parsed "2" (by decide)) (by decide +kernel)
  refine startConfig_eq_some_iff.mpr ⟨(initCurrentConfig_flag _ _).mpr hclean, ?_, rfl⟩
  rw [confState_current]
  rfl

/-- The same file again is fine. -/
theorem reload_same_valid :
    ∃ t, LTS.runFn hupStep (confState "2") [⟨some (confText "2"), 0⟩] = some t ∧
      t.current.Valid := by
  have hcalls := fileCalls_confText "2" (by decide)
  have hthreads : lastValue CONFIG_NUM_WORKER_THREADS (confCalls "2") = some (ascii "2") := by
    decide +kernel
  have hsupplies : Supplies (some (confText "2")) := by
    refine ⟨?_, ⟨ascii "dht11", List.mem_singleton.mpr rfl, ?_⟩, ?_, fun v hv => ?_⟩
    all_goals rw [hcalls] at *
    · decide +kernel
    · decide +kernel
    · decide +kernel
    · rw [hthreads] at hv
      cases hv
      decide
  exact (reload_valid_iff _ 0 _ startConfig_confText [⟨some (confText "2"), 0⟩]).mpr
    (List.forall_mem_singleton.mpr hsupplies) _ (List.prefix_refl _)

/-- Nine worker threads would be refused at startup and are taken by a
reload. -/
theorem reload_accepts_nine :
    startConfig (some (confText "2")) 0 = .ok (some (confState "2")) ∧
      ∃ t, LTS.runFn hupStep (confState "2") [⟨some (confText "9"), 0⟩] = some t ∧
        configHasErrors t.current = .ok 1 := by
  have hstep : hupStep (confState "2") ⟨some (confText "9"), 0⟩ =
      some (initCurrentConfig (some (confText "9"))
        { confState "2" with current := (confState "2").current.released, errno := 0 }).1 :=
    hupStep_eq (firstLoad_noDangling (some (confText "2")) 0) _
  have hcurrent : (initCurrentConfig (some (confText "9"))
      { confState "2" with current := (confState "2").current.released, errno := 0 }).1.current =
      ⟨4, .live (ascii "attic"), .live (ascii "dht11"), 0, .live (ascii "1h"), 0, 9⟩ := by
    rw [initCurrentConfig_eq, confState_current, fileCalls_confText "9" (by decide)]
    decide +kernel
  have hrun : LTS.runFn hupStep (confState "2") [⟨some (confText "9"), 0⟩] =
      some (initCurrentConfig (some (confText "9"))
        { confState "2" with current := (confState "2").current.released, errno := 0 }).1 := by
    rw [LTS.runFn, hstep]
    rfl
  refine ⟨startConfig_confText, _, hrun, ?_⟩
  rw [hcurrent]
  rfl

end Rpiweatherd
