import Rpiweatherd.L1Ini.Lines
import Rpiweatherd.L1Libc.Fixed
import Rpiweatherd.L3Config.Integers
import Rpiweatherd.L3Config.Startup

/-!
# The configuration written back (`src/confighandler.c:72-101`)

`write_config_file` prints the structure as an INI file with `fprintf`, and
quotes nothing. `saved_config_reloads` is its round trip: for a configuration
that was loaded from a file and passed the check, the text is read back into
the same settings, in any state of the daemon, and printed as the same text
again. What the parser hands out was cut from a line of the first file and
stripped, so it has no newline, no comment and no outer blanks, and it fits in
a line; a line that continues the one before is the exception, since its value
may begin with what is a comment or a longer line behind an `=`, so the file
must not be indented.
-/
namespace Rpiweatherd

/-! ## write_config_file -/

/-- `fprintf(f, "%s=%s\n", key, value)` -/
def printPair (key value : Bytes) : Bytes := key ++ ascii "=" ++ value ++ ascii "\n"

/-- The result and the file; without a file if it could not be opened.
mirrors src/confighandler.c:72-101 -/
def writeConfigFile (opened : Bool) (confstrct : ConfStrct) : Except Fault (Int × Option Bytes) :=
  if !opened then .ok (-1, none)
  else
    confstrct.measureLocation.read.bind fun measureLocation =>
      confstrct.queryInterval.read.bind fun queryInterval =>
        confstrct.deviceName.read.map fun deviceName =>
          (0, some (ascii "[General]\n" ++
            printPair CONFIG_LOCATION measureLocation ++
            printPair CONFIG_QUERY_INTERVAL queryInterval ++
            ascii "\n[Device Configuration]\n" ++
            printPair CONFIG_DEVICE_NAME deviceName ++
            printPair CONFIG_DEVICE_CONFIG (printInt confstrct.deviceConfig) ++
            ascii "\n[Server Configuration]\n" ++
            printPair CONFIG_COMM_PORT (printInt confstrct.commPort) ++
            printPair CONFIG_NUM_WORKER_THREADS (printInt confstrct.numWorkerThreads)))

/-! ## Printed numbers -/

theorem literalValue_printInt (n : Int) : literalValue (printInt n) = some n := by
  have hminus : ∀ b : UInt8, isdigit b = true → b ≠ 43 ∧ b ≠ 45 := by decide +kernel
  cases n with
  | ofNat m =>
    have hsign : scanSign (printInt m) = (false, printInt m) := by
      cases hm : printInt m with
      | nil => exact absurd hm (printInt_ne_nil m)
      | cons b s =>
        have hb := hminus b (printInt_digits m b (by rw [hm]; exact List.mem_cons_self ..))
        exact scanSign_of_ne s hb.1 hb.2
    show literalValue (printInt m) = some (m : Int)
    unfold literalValue
    simp only [hsign]
    rw [if_pos ⟨printInt_ne_nil m, printInt_digits m⟩, digitsVal_printInt]
    rfl
  | negSucc m =>
    have hsign : scanSign (45 :: printInt (m + 1 : Nat)) = (true, printInt (m + 1 : Nat)) := rfl
    rw [printInt_negSucc]
    unfold literalValue
    simp only [hsign]
    rw [if_pos ⟨printInt_ne_nil _, printInt_digits _⟩, digitsVal_printInt]
    rfl

/-- A number is read back as it was printed. -/
theorem strtol_printInt {n : Int} (h : InInt n) : strtol (printInt n) = (n, false) := by
  unfold InInt INT_MIN INT_MAX at h
  rw [strtol_eq, leadingNumber_of_literal (literalValue_printInt n)]
  unfold LONG_MAX LONG_MIN
  rw [if_neg (by omega), if_neg (by omega)]

theorem configInt_printInt {n : Int} (h : InInt n) : configInt (printInt n) = n := by
  rw [configInt_eq_iff h, leadingNumber_of_literal (literalValue_printInt n)]
  exact storedAs_self h

theorem inInt_configInt (value : Bytes) : InInt (configInt value) := by
  unfold configInt toInt32 InInt INT_MIN INT_MAX
  rw [Int.bmod_def]
  split <;> omega

theorem plainValue_printInt (n : Int) : Ini.PlainValue (printInt n) := by
  have hbyte : ∀ b : UInt8, b = 45 ∨ isdigit b = true → isspace b = false ∧ b ≠ 0 ∧ b ≠ 59 := by
    decide +kernel
  exact Ini.plainValue_of_word fun b hb => hbyte b (printInt_bytes n b hb)

/-! ## A configuration that can be saved -/

/-- A string setting that fits in a line behind its key. -/
structure SavableText (key : Bytes) (p : StrPtr) (value : Bytes) : Prop where
  live : p = .live value
  nonempty : value ≠ []
  plain : Ini.PlainValue value
  length : key.length + 1 + value.length < Ini.INI_MAX_LINE

/-- The strings are there and can be written on a line, and the numbers are
numbers of the machine. -/
structure Savable (c : ConfStrct) (location interval device : Bytes) : Prop where
  location : SavableText CONFIG_LOCATION c.measureLocation location
  interval : SavableText CONFIG_QUERY_INTERVAL c.queryInterval interval
  device : SavableText CONFIG_DEVICE_NAME c.deviceName device
  config : InInt c.deviceConfig
  port : InInt c.commPort
  threads : InInt c.numWorkerThreads

theorem lastValue_mem {key value : Bytes} {cs : List Ini.Call} (h : lastValue key cs = some value) :
    ∃ c ∈ cs, c.name = key ∧ c.value = value ∧ value ≠ [] := by
  obtain ⟨c, hc, hgiven⟩ := List.exists_of_findSome?_eq_some h
  unfold givenFor at hgiven
  split at hgiven
  · rename_i hkey
    cases hgiven
    exact ⟨c, List.mem_reverse.mp hc, hkey.1, rfl, hkey.2⟩
  · cases hgiven

theorem savableText_of_file {text key : Bytes} (h : Ini.Unindented text)
    (hsome : (lastValue key (fileCalls (some text))).isSome = true) :
    ∃ value, SavableText key (ofLast (lastValue key (fileCalls (some text)))) value := by
  obtain ⟨value, hvalue⟩ := Option.isSome_iff_exists.mp hsome
  obtain ⟨c, hc, rfl, rfl, hne⟩ := lastValue_mem hvalue
  have hfit := Ini.calls_fit h c hc
  exact ⟨c.value, (ofLast_eq_live _ _).mpr hvalue, hne, hfit.value, hfit.length⟩

theorem inInt_setting (v : Option Bytes) : InInt ((v.map configInt).getD 0) := by
  cases v with
  | none => decide
  | some value => exact inInt_configInt value

/-- What the daemon starts with can be saved. -/
theorem startConfig_savable {text : Bytes} {errno : Errno} {s : ConfigState}
    (h : Ini.Unindented text) (hstart : startConfig (some text) errno = .ok (some s)) :
    ∃ location interval device, Savable s.current location interval device := by
  have hcheck : PassesCheck (some text) := by
    rw [← configHasErrors_firstConfig_iff _ errno, ← startConfig_current hstart]
    exact (startConfig_valid hstart).1
  obtain ⟨location, hlocation⟩ := savableText_of_file h hcheck.location
  obtain ⟨interval, hinterval⟩ := savableText_of_file h hcheck.interval
  obtain ⟨d, -, hd⟩ := hcheck.device
  obtain ⟨device, hdevice⟩ := savableText_of_file h (Option.isSome_iff_exists.mpr ⟨d, hd⟩)
  rw [startConfig_current hstart, firstConfig, firstLoad_current]
  exact ⟨location, interval, device, hlocation, hinterval, hdevice, inInt_setting _,
    inInt_setting _, inInt_setting _⟩

/-! ## What is saved -/

/-- The lines of the file. -/
def savedLines (c : ConfStrct) (location interval device : Bytes) : List Ini.Line :=
  [.header (ascii "General"), .pair CONFIG_LOCATION location,
    .pair CONFIG_QUERY_INTERVAL interval, .blank,
    .header (ascii "Device Configuration"), .pair CONFIG_DEVICE_NAME device,
    .pair CONFIG_DEVICE_CONFIG (printInt c.deviceConfig), .blank,
    .header (ascii "Server Configuration"), .pair CONFIG_COMM_PORT (printInt c.commPort),
    .pair CONFIG_NUM_WORKER_THREADS (printInt c.numWorkerThreads)]

/-- The calls they lead to. -/
def savedCalls (c : ConfStrct) (location interval device : Bytes) : List Ini.Call :=
  [⟨ascii "General", CONFIG_LOCATION, location⟩,
    ⟨ascii "General", CONFIG_QUERY_INTERVAL, interval⟩,
    ⟨ascii "Device Configuration", CONFIG_DEVICE_NAME, device⟩,
    ⟨ascii "Device Configuration", CONFIG_DEVICE_CONFIG, printInt c.deviceConfig⟩,
    ⟨ascii "Server Configuration", CONFIG_COMM_PORT, printInt c.commPort⟩,
    ⟨ascii "Server Configuration", CONFIG_NUM_WORKER_THREADS, printInt c.numWorkerThreads⟩]

section Saved
variable {c : ConfStrct} {location interval device : Bytes}

theorem writeConfigFile_eq (h : Savable c location interval device) :
    writeConfigFile true c =
      .ok (0, some (Ini.render (savedLines c location interval device))) := by
  have hgeneral : ascii "[General]\n" = 91 :: (ascii "General" ++ [93, 10]) := by decide
  have hdevice : ascii "\n[Device Configuration]\n" =
      10 :: 91 :: (ascii "Device Configuration" ++ [93, 10]) := by decide
  have hserver : ascii "\n[Server Configuration]\n" =
      10 :: 91 :: (ascii "Server Configuration" ++ [93, 10]) := by decide
  have hequals : ascii "=" = [61] := by decide
  have hnewline : ascii "\n" = [10] := by decide
  unfold writeConfigFile printPair
  rw [h.location.live, h.interval.live, h.device.live, hgeneral, hdevice, hserver, hequals, hnewline]
  simp [StrPtr.read, Except.bind, Except.map, Ini.render, savedLines, Ini.Line.text]

theorem SavableText.line {key value : Bytes} {p : StrPtr} (h : SavableText key p value)
    (hkey : Ini.PlainName key) : (Ini.Line.pair key value).Plain := by
  refine ⟨?_, hkey, h.plain⟩
  have hlength := h.length
  simp only [Ini.Line.text, List.length_append, List.length_cons]
  omega

theorem numberLine_plain {key : Bytes} (hkey : Ini.PlainName key) (hlen : key.length ≤ 20) {n : Int}
    (hn : InInt n) : (Ini.Line.pair key (printInt n)).Plain := by
  have hdigits : (printInt n).length ≤ 11 := by
    unfold InInt INT_MIN INT_MAX at hn
    exact printInt_length (by omega)
  refine ⟨?_, hkey, plainValue_printInt n⟩
  simp only [Ini.Line.text, List.length_append, List.length_cons, Ini.INI_MAX_LINE]
  omega

theorem savedLines_plain (h : Savable c location interval device) :
    ∀ l ∈ savedLines c location interval device, l.Plain := by
  have hkeys : ∀ key ∈ TEXT_KEYS ++ NUMBER_KEYS, Ini.PlainName key ∧ key.length ≤ 20 := by
    decide +kernel
  have hheaders : ∀ name ∈ [ascii "General", ascii "Device Configuration",
      ascii "Server Configuration"], (Ini.Line.header name).text.length < Ini.INI_MAX_LINE ∧
        Ini.PlainSection name := by decide +kernel
  simp only [TEXT_KEYS, NUMBER_KEYS, List.cons_append, List.nil_append, List.forall_mem_cons]
    at hkeys hheaders
  obtain ⟨hl, hq, hd, -, hc, hp, ht, -⟩ := hkeys
  obtain ⟨hgeneral, hdevice, hserver, -⟩ := hheaders
  simp only [savedLines, List.forall_mem_cons]
  exact ⟨hgeneral, h.location.line hl.1, h.interval.line hq.1, ⟨by decide, trivial⟩, hdevice,
    h.device.line hd.1, numberLine_plain hc.1 hc.2 h.config, ⟨by decide, trivial⟩, hserver,
    numberLine_plain hp.1 hp.2 h.port, numberLine_plain ht.1 ht.2 h.threads, List.forall_mem_nil _⟩

/-- All six values are there. -/
theorem savedCalls_value_ne_nil (h : Savable c location interval device) :
    ∀ call ∈ savedCalls c location interval device, call.value ≠ [] := by
  have hprint : ∀ n : Int, printInt n ≠ [] := by
    intro n hnil
    have hnone : literalValue [] = none := by decide
    have hliteral := literalValue_printInt n
    rw [hnil, hnone] at hliteral
    cases hliteral
  simp only [savedCalls, List.forall_mem_cons]
  exact ⟨h.location.nonempty, h.interval.nonempty, h.device.nonempty, hprint _, hprint _, hprint _,
    List.forall_mem_nil _⟩

theorem savedCalls_kinds (h : Savable c location interval device) :
    (savedCalls c location interval device).map isText =
        [true, true, true, false, false, false] ∧
      (savedCalls c location interval device).map isNumber =
        [false, false, false, true, true, true] := by
  have hvalues := savedCalls_value_ne_nil h
  have hkeys : [CONFIG_LOCATION, CONFIG_QUERY_INTERVAL, CONFIG_DEVICE_NAME, CONFIG_DEVICE_CONFIG,
      CONFIG_COMM_PORT, CONFIG_NUM_WORKER_THREADS].map (fun k => (decide (k ∈ TEXT_KEYS),
        decide (k ∈ NUMBER_KEYS))) = [(true, false), (true, false), (true, false), (false, true),
          (false, true), (false, true)] := by decide +kernel
  simp only [savedCalls, List.forall_mem_cons] at hvalues
  simp only [List.map_cons, List.map_nil, List.cons.injEq, Prod.mk.injEq, decide_eq_true_eq,
    decide_eq_false_iff_not] at hkeys
  simp [savedCalls, isText, isNumber, hvalues, hkeys]

theorem savedCalls_known (h : Savable c location interval device) :
    ∀ call ∈ savedCalls c location interval device, known call = true := by
  obtain ⟨htexts, hnumbers⟩ := savedCalls_kinds h
  simp only [savedCalls, List.map_cons, List.map_nil, List.cons.injEq] at htexts hnumbers
  simp [savedCalls, known, htexts, hnumbers]

theorem savedLines_calls (h : Savable c location interval device) :
    Ini.NoBadLine (Ini.render (savedLines c location interval device)) ∧
      Ini.calls known (Ini.render (savedLines c location interval device)) =
        savedCalls c location interval device := by
  have hnames : ∀ name ∈ [ascii "General", ascii "Device Configuration",
      ascii "Server Configuration"], Ini.strncpy0 name Ini.MAX_SECTION = name := by decide +kernel
  simp only [List.forall_mem_cons] at hnames
  have hread : ((savedLines c location interval device).foldl Ini.Line.read ([], [])).2 =
      savedCalls c location interval device := by
    simp [savedLines, savedCalls, Ini.Line.read, hnames]
  have hknown := savedCalls_known h
  rw [← hread] at hknown ⊢
  exact Ini.render_read (savedLines_plain h) hknown

theorem lastValue_saved (h : Savable c location interval device) :
    lastValue CONFIG_LOCATION (savedCalls c location interval device) = some location ∧
      lastValue CONFIG_QUERY_INTERVAL (savedCalls c location interval device) = some interval ∧
      lastValue CONFIG_DEVICE_NAME (savedCalls c location interval device) = some device ∧
      lastValue CONFIG_DEVICE_CONFIG (savedCalls c location interval device) =
        some (printInt c.deviceConfig) ∧
      lastValue CONFIG_COMM_PORT (savedCalls c location interval device) =
        some (printInt c.commPort) ∧
      lastValue CONFIG_NUM_WORKER_THREADS (savedCalls c location interval device) =
        some (printInt c.numWorkerThreads) := by
  have hvalues := savedCalls_value_ne_nil h
  have hkeys := keys_distinct
  simp only [TEXT_KEYS, NUMBER_KEYS, List.cons_append, List.nil_append, List.pairwise_cons,
    List.forall_mem_cons] at hkeys
  simp only [savedCalls, List.forall_mem_cons] at hvalues
  simp [savedCalls, lastValue, givenFor, hvalues, hkeys]

/-- No saved number is out of range. -/
theorem overflows_saved (h : Savable c location interval device) :
    ∀ call ∈ (savedCalls c location interval device).filter isNumber, overflows call = false := by
  have hstrtol : ∀ n, InInt n → (strtol (printInt n)).2 = false := fun n hn => by
    rw [strtol_printInt hn]
  obtain ⟨-, hnumbers⟩ := savedCalls_kinds h
  simp only [savedCalls, List.map_cons, List.map_nil, List.cons.injEq] at hnumbers
  simp only [savedCalls, List.filter_cons, hnumbers, List.filter_nil, if_true, if_false,
    Bool.false_eq_true, List.forall_mem_cons]
  exact ⟨hstrtol _ h.config, hstrtol _ h.port, hstrtol _ h.threads, List.forall_mem_nil _⟩

theorem counts_saved (h : Savable c location interval device) :
    textLines (savedCalls c location interval device) = 3 ∧
      clearNumbers (savedCalls c location interval device) = 3 := by
  have hclear := overflows_saved h
  obtain ⟨htexts, hnumbers⟩ := savedCalls_kinds h
  unfold textLines clearNumbers
  rw [List.takeWhile_eq_self_iff.mpr fun call hcall => by rw [hclear call hcall]; rfl]
  simp only [savedCalls, List.map_cons, List.map_nil, List.cons.injEq] at htexts hnumbers
  simp [savedCalls, htexts, hnumbers]

/-- The saved file is loaded into the same settings. -/
theorem load_saved (h : Savable c location interval device) (s : ConfigState) :
    (initCurrentConfig (some (Ini.render (savedLines c location interval device))) s).1.current =
      { c with configCount := if s.errno = ERANGE then 3 else 6 } := by
  obtain ⟨hl, hq, hd, hc, hp, ht⟩ := lastValue_saved h
  obtain ⟨htexts, hnumbers⟩ := counts_saved h
  have hcalls : fileCalls (some (Ini.render (savedLines c location interval device))) =
      savedCalls c location interval device := (savedLines_calls h).2
  have hfields : c = ⟨c.configCount, .live location, .live device, c.deviceConfig, .live interval,
      c.commPort, c.numWorkerThreads⟩ := by
    rw [← h.location.live, ← h.interval.live, ← h.device.live]
  rw [initCurrentConfig_eq, hcalls]
  simp only [configAfter, hl, hq, hd, hc, hp, ht, htexts, hnumbers, openErrno, Option.map_some,
    Option.getD_some, configInt_printInt h.config, configInt_printInt h.port,
    configInt_printInt h.threads, Option.isNone_some, Bool.false_eq_true, if_false, Nat.zero_add]
  rw [hfields]
  split <;> rfl

theorem cleanFile_saved (h : Savable c location interval device) :
    CleanFile (some (Ini.render (savedLines c location interval device))) :=
  cleanFile_of_calls (savedLines_calls h) (savedCalls_known h)

end Saved

/-- **A saved configuration is loaded again.** -/
theorem saved_config_reloads (text : Bytes) (errno : Errno) (s : ConfigState)
    (hindent : Ini.Unindented text) (hstart : startConfig (some text) errno = .ok (some s)) :
    ∃ saved, writeConfigFile true s.current = .ok (0, some saved) ∧
      ∀ t : ConfigState, (initCurrentConfig (some saved) t).2 = 0 ∧
        (initCurrentConfig (some saved) t).1.current =
          { s.current with configCount := if t.errno = ERANGE then 3 else 6 } ∧
        writeConfigFile true (initCurrentConfig (some saved) t).1.current =
          .ok (0, some saved) := by
  obtain ⟨location, interval, device, h⟩ := startConfig_savable hindent hstart
  refine ⟨_, writeConfigFile_eq h, fun t => ?_⟩
  have hload := load_saved h t
  refine ⟨(initCurrentConfig_flag _ t).mpr (cleanFile_saved h), hload, ?_⟩
  rw [hload]
  exact writeConfigFile_eq (c := s.current) h

/-- The file with all six keys. -/
theorem full_config_reloads : ∃ saved, writeConfigFile true fullState.current = .ok (0, some saved) ∧
    ∀ t : ConfigState, (initCurrentConfig (some saved) t).2 = 0 ∧
      (initCurrentConfig (some saved) t).1.current =
        { fullState.current with configCount := if t.errno = ERANGE then 3 else 6 } ∧
      writeConfigFile true (initCurrentConfig (some saved) t).1.current = .ok (0, some saved) :=
  saved_config_reloads fullText 0 fullState (by decide +kernel) startConfig_fullText

end Rpiweatherd
