import Rpiweatherd.L1Ini.Inih
import Rpiweatherd.L1Libc.Numeral
import Rpiweatherd.L3Listener.Message

/-!
# The configuration (`src/confighandler.c`)

One global structure is filled in by the callback of the INI parser, key by
key. The strings are heap blocks: `free_config` releases them and leaves the
pointers where they are. The three numbers are read by `strtol`, and whether
a numeric line counts is decided by `errno`, which nobody resets.

`initCurrentConfig_eq` says in closed form what a load leaves: in each field
the last value given for its key, or what was there before. A number that is
out of range answers the parser with a negative code, and the parser takes
every code but zero for a success, so the flag depends on the lines and keys
only (`parseConfigFile_flag`). Calls that succeed are taken to leave `errno`
alone; `strdup` is taken to succeed.
-/
namespace Rpiweatherd

def CONFIG_LOCATION : Bytes := ascii "measure_location"
def CONFIG_QUERY_INTERVAL : Bytes := ascii "query_interval"
def CONFIG_DEVICE_NAME : Bytes := ascii "device_name"
def CONFIG_DEVICE_CONFIG : Bytes := ascii "device_config"
def CONFIG_UNITS : Bytes := ascii "units"
def CONFIG_COMM_PORT : Bytes := ascii "comm_port"
def CONFIG_NUM_WORKER_THREADS : Bytes := ascii "num_worker_threads"

def CONFIG_ERROR_COMM_PORT : Int := -1
def CONFIG_ERROR_DEVICE_CONFIG : Int := -2
def CONFIG_ERROR_NUM_WTHREADS : Int := -3

def CONFIG_NUM_WORKER_THREADS_MAX : Int := 4

/-- `errno` after a file could not be opened. -/
def ENOENT : Errno := 2

/-- `rpiwd_config`, with its pointers. -/
structure ConfStrct where
  configCount : Nat
  measureLocation : StrPtr
  deviceName : StrPtr
  deviceConfig : Int
  queryInterval : StrPtr
  commPort : Int
  numWorkerThreads : Int
  deriving DecidableEq

/-- The static variables of the module, and `errno`. -/
@[ext] structure ConfigState where
  current : ConfStrct
  tempCount : Nat
  unitstring : Bytes
  errno : Errno
  deriving DecidableEq

/-- Before the first load. -/
def ConfigState.zero (errno : Errno) : ConfigState :=
  ⟨⟨0, .null, .null, 0, .null, 0, 0⟩, 0, List.replicate RPIWD_MAX_MEASUREMENTS 0, errno⟩

/-! ## Loading -/

/-- `temp_count++; return 1;` -/
def counted (s : ConfigState) : ConfigState × Int := ({ s with tempCount := s.tempCount + 1 }, 1)

/-- `strtol` into an `int` field. -/
def configInt (value : Bytes) : Int := toInt32 (strtol value).1

/-- A numeric key: the field is set in any case, and with `ERANGE` in `errno`
the line is not counted. -/
def setNumber (set : ConfStrct → Int → ConfStrct) (code : Int) (s : ConfigState) (value : Bytes) :
    ConfigState × Int :=
  let s := { s with
    current := set s.current (configInt value)
    errno := setErange (strtol value).2 s.errno }
  if s.errno = ERANGE then (s, code) else counted s

/-- mirrors src/confighandler.c:25-70 -/
def inihCallback (s : ConfigState) (name value : Bytes) : ConfigState × Int :=
  if value = [] then (s, 0)
  else if name = CONFIG_LOCATION then
    counted { s with current := { s.current with measureLocation := .live value } }
  else if name = CONFIG_QUERY_INTERVAL then
    counted { s with current := { s.current with queryInterval := .live value } }
  else if name = CONFIG_DEVICE_NAME then
    counted { s with current := { s.current with deviceName := .live value } }
  else if name = CONFIG_DEVICE_CONFIG then
    setNumber (fun c n => { c with deviceConfig := n }) CONFIG_ERROR_DEVICE_CONFIG s value
  else if name = CONFIG_UNITS then counted s
  else if name = CONFIG_COMM_PORT then
    setNumber (fun c n => { c with commPort := n }) CONFIG_ERROR_COMM_PORT s value
  else if name = CONFIG_NUM_WORKER_THREADS then
    setNumber (fun c n => { c with numWorkerThreads := n }) CONFIG_ERROR_NUM_WTHREADS s value
  else (s, 0)

/-- The callback as the parser sees it: the section is not looked at, and any
code but zero is a success. -/
def configHandler : Ini.Handler ConfigState := fun s _ name value =>
  ((inihCallback s name value).1, (inihCallback s name value).2 ≠ 0)

/-- A failed `fopen` sets `errno`. mirrors src/confighandler.c:104-112 -/
def parseConfigFile (file : Option Bytes) (s : ConfigState) : ConfigState × Int :=
  let s := { s with tempCount := 0 }
  let s := if file.isNone then { s with errno := ENOENT } else s
  let (s, parseFlag) := Ini.iniParse configHandler file s
  ({ s with current := { s.current with configCount := s.tempCount } }, parseFlag)

/-- mirrors src/confighandler.c:201-217 -/
def initCurrentConfig (file : Option Bytes) (s : ConfigState) : ConfigState × Int :=
  let (s, flag) := parseConfigFile file s
  ({ s with unitstring := unitString }, flag)

/-- mirrors src/confighandler.c:114-125 -/
def freeConfig (c : ConfStrct) : Except Fault ConfStrct :=
  (freeField c.measureLocation).bind fun measureLocation =>
    (freeField c.deviceName).bind fun deviceName =>
      (freeField c.queryInterval).map fun queryInterval =>
        { c with
          measureLocation := measureLocation, deviceName := deviceName
          queryInterval := queryInterval, commPort := 0, deviceConfig := 0 }

/-- mirrors src/confighandler.c:219-223 -/
def freeCurrentConfig (s : ConfigState) : Except Fault ConfigState :=
  (freeConfig s.current).map fun c => { s with current := c }

/-! ## Checking -/

def SUPPORTED_DEVICES : List Bytes := [ascii "dht11"]

/-- A string argument of `strcmp`. -/
def StrPtr.read : StrPtr → Except Fault Bytes
  | .null => .error .nullDeref
  | .live s => .ok s
  | .freed => .error .useAfterFree

/-- The loop over the supported devices. -/
def findDevice (deviceName : StrPtr) : List Bytes → Except Fault Bool
  | [] => .ok false
  | d :: ds => deviceName.read.bind fun name => if name = d then .ok true else findDevice deviceName ds

/-- The check of the number of worker threads. -/
def threadErrors (n : Int) : Nat :=
  if n = 0 then 1
  else if n > CONFIG_NUM_WORKER_THREADS_MAX ∨ n < 0 then 1
  else 0

/-- The number of errors. A pointer is only compared with NULL, except for
the device name. mirrors src/confighandler.c:139-189 -/
def configHasErrors (c : ConfStrct) : Except Fault Nat :=
  (findDevice c.deviceName SUPPORTED_DEVICES).map fun nameflag =>
    (if c.measureLocation = .null then 1 else 0) +
      (if nameflag then 0 else 1) +
      (if c.queryInterval = .null then 1 else 0) + threadErrors c.numWorkerThreads

/-! ## What a load leaves -/

/-- A value given for a key. -/
def givenFor (key : Bytes) (c : Ini.Call) : Option Bytes :=
  if c.name = key ∧ c.value ≠ [] then some c.value else none

def TEXT_KEYS : List Bytes :=
  [CONFIG_LOCATION, CONFIG_QUERY_INTERVAL, CONFIG_DEVICE_NAME, CONFIG_UNITS]

def NUMBER_KEYS : List Bytes := [CONFIG_DEVICE_CONFIG, CONFIG_COMM_PORT, CONFIG_NUM_WORKER_THREADS]

/-- A line that is counted in any case. -/
def isText (c : Ini.Call) : Bool := c.name ∈ TEXT_KEYS ∧ c.value ≠ []

/-- A line that is counted unless `errno` is `ERANGE`. -/
def isNumber (c : Ini.Call) : Bool := c.name ∈ NUMBER_KEYS ∧ c.value ≠ []

/-- A call that the callback does not answer with zero. -/
def known (c : Ini.Call) : Bool := isText c || isNumber c

/-- The calls for a file; none for one that cannot be opened. -/
def fileCalls (file : Option Bytes) : List Ini.Call := (file.map (Ini.calls known)).getD []

/-- A number that is out of range. -/
def overflows (c : Ini.Call) : Bool := (strtol c.value).2

/-- The callback in closed form, field by field. -/
def configAfterCall (s : ConfigState) (c : Ini.Call) : ConfigState :=
  let errno := if isNumber c then setErange (overflows c) s.errno else s.errno
  { s with
    current := { s.current with
      measureLocation := ((givenFor CONFIG_LOCATION c).map .live).getD s.current.measureLocation
      queryInterval := ((givenFor CONFIG_QUERY_INTERVAL c).map .live).getD s.current.queryInterval
      deviceName := ((givenFor CONFIG_DEVICE_NAME c).map .live).getD s.current.deviceName
      deviceConfig := ((givenFor CONFIG_DEVICE_CONFIG c).map configInt).getD s.current.deviceConfig
      commPort := ((givenFor CONFIG_COMM_PORT c).map configInt).getD s.current.commPort
      numWorkerThreads :=
        ((givenFor CONFIG_NUM_WORKER_THREADS c).map configInt).getD s.current.numWorkerThreads }
    tempCount := s.tempCount + (if isText c || isNumber c && errno ≠ ERANGE then 1 else 0)
    errno := errno }

theorem keys_distinct :
    (TEXT_KEYS ++ NUMBER_KEYS).Pairwise fun a b => ¬ a = b ∧ ¬ b = a := by
  have h : (TEXT_KEYS ++ NUMBER_KEYS).Nodup := by decide +kernel
  exact h.imp fun hne => ⟨hne, Ne.symm hne⟩

theorem configHandler_fst (s : ConfigState) (c : Ini.Call) :
    (configHandler s c.sectionName c.name c.value).1 = configAfterCall s c := by
  obtain ⟨sectionName, name, value⟩ := c
  by_cases hv : value = []
  · simp [configHandler, inihCallback, configAfterCall, givenFor, isText, isNumber, hv]
  · have hkeys := keys_distinct
    simp only [TEXT_KEYS, NUMBER_KEYS, List.cons_append, List.nil_append, List.pairwise_cons,
      List.forall_mem_cons] at hkeys
    simp only [configHandler, inihCallback, configAfterCall, givenFor, isText, isNumber, overflows, hv,
      if_false, ne_eq, not_false_eq_true, and_true]
    by_cases hmem : name ∈ TEXT_KEYS ++ NUMBER_KEYS
    · simp only [TEXT_KEYS, NUMBER_KEYS, List.cons_append, List.nil_append, List.mem_cons,
        List.not_mem_nil, or_false] at hmem
      rcases hmem with rfl | rfl | rfl | rfl | rfl | rfl | rfl
      all_goals simp [hkeys, counted, TEXT_KEYS, NUMBER_KEYS]
      all_goals
        simp only [setNumber, counted]
        split <;> simp_all
    · simp only [TEXT_KEYS, NUMBER_KEYS, List.cons_append, List.nil_append, List.mem_cons,
        List.not_mem_nil, or_false, not_or] at hmem
      simp [hmem, TEXT_KEYS, NUMBER_KEYS]

theorem setNumber_answer {code : Int} (hcode : code ≠ 0) (set : ConfStrct → Int → ConfStrct)
    (s : ConfigState) (value : Bytes) : (setNumber set code s value).2 ≠ 0 := by
  simp only [setNumber]
  split
  · exact hcode
  · exact one_ne_zero

theorem answer_ite {p : Prop} [Decidable p] {x y : ConfigState × Int} (h : x.2 ≠ 0) :
    (if p then x else y).2 ≠ 0 ↔ p ∨ y.2 ≠ 0 := by
  by_cases hp : p
  · rw [if_pos hp]
    exact iff_of_true h (.inl hp)
  · rw [if_neg hp, or_iff_right hp]

/-- What the parser is told does not depend on the number. -/
theorem configHandler_snd (s : ConfigState) (c : Ini.Call) :
    (configHandler s c.sectionName c.name c.value).2 = known c := by
  obtain ⟨sectionName, name, value⟩ := c
  rw [Bool.eq_iff_iff]
  simp only [configHandler, known, isText, isNumber, Bool.or_eq_true, decide_eq_true_eq,
    ← or_and_right, ← List.mem_append]
  by_cases hv : value = []
  · simp [inihCallback, hv]
  · have hcounted : ∀ s : ConfigState, (counted s).2 ≠ 0 := fun _ => one_ne_zero
    have hdevice : CONFIG_ERROR_DEVICE_CONFIG ≠ 0 := by decide
    have hport : CONFIG_ERROR_COMM_PORT ≠ 0 := by decide
    have hthreads : CONFIG_ERROR_NUM_WTHREADS ≠ 0 := by decide
    rw [inihCallback, if_neg hv, answer_ite (hcounted _), answer_ite (hcounted _),
      answer_ite (hcounted _), answer_ite (setNumber_answer hdevice _ _ _), answer_ite (hcounted _),
      answer_ite (setNumber_answer hport _ _ _), answer_ite (setNumber_answer hthreads _ _ _)]
    -- the source asks for `device_config` before `units`
    simp only [TEXT_KEYS, NUMBER_KEYS, List.cons_append, List.nil_append, List.mem_cons,
      List.not_mem_nil, ne_eq, not_true_eq_false, hv, not_false_eq_true, and_true]
    rw [@or_left_comm (name = CONFIG_DEVICE_CONFIG)]

/-- The last value given for a key. -/
def lastValue (key : Bytes) (cs : List Ini.Call) : Option Bytes := cs.reverse.findSome? (givenFor key)

theorem lastValue_cons (key : Bytes) (c : Ini.Call) (cs : List Ini.Call) :
    lastValue key (c :: cs) = (lastValue key cs).or (givenFor key c) := by
  simp only [lastValue, List.reverse_cons, List.findSome?_append, List.findSome?_cons,
    List.findSome?_nil]
  cases givenFor key c <;> rfl

/-- A field that one key sets: the call before the others is the older value. -/
theorem lastValue_getD {β : Type} (read : Bytes → β) (key : Bytes) (c : Ini.Call)
    (cs : List Ini.Call) (x : β) :
    ((lastValue key cs).map read).getD (((givenFor key c).map read).getD x) =
      ((lastValue key (c :: cs)).map read).getD x := by
  rw [lastValue_cons]
  cases lastValue key cs <;> rfl

/-- The lines counted in any case. -/
def textLines (cs : List Ini.Call) : Nat := (cs.filter isText).length

/-- The numeric lines up to the first that is out of range. -/
def clearNumbers (cs : List Ini.Call) : Nat :=
  ((cs.filter isNumber).takeWhile fun c => !overflows c).length

/-- Some number is out of range. -/
def anyOverflow (cs : List Ini.Call) : Bool := cs.any fun c => isNumber c && overflows c

/-- All the calls in closed form. -/
def configAfter (s : ConfigState) (cs : List Ini.Call) : ConfigState :=
  { s with
    current := { s.current with
      measureLocation := ((lastValue CONFIG_LOCATION cs).map .live).getD s.current.measureLocation
      queryInterval := ((lastValue CONFIG_QUERY_INTERVAL cs).map .live).getD s.current.queryInterval
      deviceName := ((lastValue CONFIG_DEVICE_NAME cs).map .live).getD s.current.deviceName
      deviceConfig := ((lastValue CONFIG_DEVICE_CONFIG cs).map configInt).getD s.current.deviceConfig
      commPort := ((lastValue CONFIG_COMM_PORT cs).map configInt).getD s.current.commPort
      numWorkerThreads :=
        ((lastValue CONFIG_NUM_WORKER_THREADS cs).map configInt).getD s.current.numWorkerThreads }
    tempCount := s.tempCount + textLines cs + (if s.errno = ERANGE then 0 else clearNumbers cs)
    errno := setErange (anyOverflow cs) s.errno }

theorem isNumber_of_isText {c : Ini.Call} (h : isText c = true) : isNumber c = false := by
  have hkeys : ∀ k ∈ TEXT_KEYS, k ∉ NUMBER_KEYS := by decide +kernel
  simp only [isText, decide_eq_true_eq] at h
  simp [isNumber, hkeys _ h.1]

theorem textLines_cons (c : Ini.Call) (cs : List Ini.Call) :
    textLines (c :: cs) = textLines cs + (if isText c then 1 else 0) := by
  unfold textLines
  by_cases h : isText c = true <;> simp [h]

theorem clearNumbers_cons (c : Ini.Call) (cs : List Ini.Call) :
    clearNumbers (c :: cs) =
      if isNumber c then if overflows c then 0 else clearNumbers cs + 1 else clearNumbers cs := by
  unfold clearNumbers
  by_cases hn : isNumber c = true
  · by_cases ho : overflows c = true <;> simp [hn, ho]
  · simp [hn]

/-- One more call in front: `errno` is `ERANGE` from the first number on that
is out of range. -/
theorem configAfter_errno_cons (s : ConfigState) (c : Ini.Call) (cs : List Ini.Call) :
    (configAfter (configAfterCall s c) cs).errno = (configAfter s (c :: cs)).errno := by
  simp only [configAfter, configAfterCall, anyOverflow, List.any_cons, setErange]
  by_cases hn : isNumber c = true
  · by_cases ho : overflows c = true <;> simp [hn, ho]
  · simp [hn]

theorem configAfter_tempCount_cons (s : ConfigState) (c : Ini.Call) (cs : List Ini.Call) :
    (configAfter (configAfterCall s c) cs).tempCount = (configAfter s (c :: cs)).tempCount := by
  simp only [configAfter, configAfterCall, textLines_cons, clearNumbers_cons, setErange]
  by_cases ht : isText c = true
  · simp only [ht, isNumber_of_isText ht, if_true, Bool.true_or, Bool.false_eq_true, if_false]
    omega
  · by_cases hn : isNumber c = true
    · by_cases ho : overflows c = true
      · simp [ht, hn, ho]
      · by_cases he : s.errno = ERANGE
        · simp [ht, hn, ho, he]
        · simp only [ht, hn, ho, he, if_true, if_false, Bool.false_eq_true, Bool.false_or,
            Bool.true_and, ne_eq, not_false_eq_true, decide_true]
          omega
    · simp [ht, hn]

theorem configAfter_cons (s : ConfigState) (c : Ini.Call) (cs : List Ini.Call) :
    configAfter (configAfterCall s c) cs = configAfter s (c :: cs) := by
  apply ConfigState.ext
  · simp only [configAfter, configAfterCall, lastValue_getD]
  · exact configAfter_tempCount_cons s c cs
  · rfl
  · exact configAfter_errno_cons s c cs

theorem replay_eq (cs : List Ini.Call) :
    ∀ s, Ini.replay configHandler s cs = configAfter s cs := by
  induction cs with
  | nil => exact fun s => by simp [Ini.replay, configAfter, lastValue, textLines, clearNumbers,
      anyOverflow, setErange]
  | cons c cs ih =>
    intro s
    have htail : Ini.replay configHandler s (c :: cs) =
        Ini.replay configHandler (configHandler s c.sectionName c.name c.value).1 cs := rfl
    rw [htail, configHandler_fst, ih, configAfter_cons]

/-- `errno` when the first line is read. -/
def openErrno (file : Option Bytes) (errno : Errno) : Errno :=
  if file.isNone then ENOENT else errno

/-- **A load in closed form.** -/
theorem initCurrentConfig_eq (file : Option Bytes) (s : ConfigState) :
    (initCurrentConfig file s).1 =
      let t := configAfter { s with tempCount := 0, errno := openErrno file s.errno }
        (fileCalls file)
      { t with
        current := { t.current with configCount := t.tempCount }
        unitstring := unitString } := by
  cases file with
  | none =>
    have h := replay_eq [] { s with tempCount := 0, errno := ENOENT }
    simp only [initCurrentConfig, parseConfigFile, Ini.iniParse, fileCalls, openErrno,
      Option.isNone_none, if_true, Option.map_none, Option.getD_none, ← h]
    rfl
  | some text =>
    have hfollows := Ini.iniParseStream_follows configHandler_snd text { s with tempCount := 0 }
    have h := hfollows.user_eq.trans (replay_eq (Ini.calls known text) _)
    simp only [initCurrentConfig, parseConfigFile, Ini.iniParse, fileCalls, openErrno,
      Option.isNone_some, Bool.false_eq_true, if_false, Option.map_some, Option.getD_some, h]

example : fileCalls (some (ascii "colour=red\nmeasure_location=attic\n")) =
    [⟨[], ascii "colour", ascii "red"⟩] := by decide +kernel

/-! ## The flag -/

/-- Every call names a known key and gives it a value. -/
def CleanFile (file : Option Bytes) : Prop :=
  ∃ text, file = some text ∧ Ini.NoBadLine text ∧ ∀ c ∈ fileCalls file, known c = true

/-- **The flag.** -/
theorem parseConfigFile_flag (file : Option Bytes) (s : ConfigState) :
    (parseConfigFile file s).2 = 0 ↔ CleanFile file := by
  cases file with
  | none => simp [parseConfigFile, Ini.iniParse, CleanFile]
  | some text =>
    have hfollows := Ini.iniParseStream_follows configHandler_snd text { s with tempCount := 0 }
    simp only [parseConfigFile, Ini.iniParse, CleanFile, fileCalls, Option.isNone_some,
      Bool.false_eq_true, if_false, Int.natCast_eq_zero, Option.some.injEq, exists_eq_left',
      Option.map_some, Option.getD_some, hfollows.error, Ini.record_error_eq_zero_iff]

theorem initCurrentConfig_flag (file : Option Bytes) (s : ConfigState) :
    (initCurrentConfig file s).2 = 0 ↔ CleanFile file := parseConfigFile_flag file s

theorem cleanFile_of_calls {text : Bytes} {cs : List Ini.Call}
    (h : Ini.NoBadLine text ∧ Ini.calls known text = cs) (hcs : ∀ c ∈ cs, known c = true) :
    CleanFile (some text) := by
  obtain ⟨hlines, rfl⟩ := h
  exact ⟨text, rfl, hlines, hcs⟩

end Rpiweatherd
