import Rpiweatherd.L3Config.Startup
import Rpiweatherd.L3Listener.Documents

/-!
# The command-line client (`extra/rpiweatherd-cli.py`)

On connecting, the client keeps the `results` of the config reply as its
`CONFIG`. A fetch reads the reply key by key, prints a header that depends on
`CONFIG['units']`, and then a row for every member of `results`. A key that is
not there is a `KeyError`.

The server writes `units.tempunit` where the client reads `units.tempunits`,
and the setting `units` is not among the six that the config command reports:
`client_fetch_fails` gives for every list of entries and every configuration
the keys that are there, and that the client stops at the header.

The text in between is left to `L3Listener/ReplyText.lean`: here what parson
serializes and Python parses is taken to be the same document.
-/
namespace Rpiweatherd

open JsonObject

inductive PyError where
  | keyError (key : Bytes)
  | typeError
  | attributeError
  deriving DecidableEq

/-- `d[key]` -/
def pyItem (d : JsonValue) (key : Bytes) : Except PyError JsonValue :=
  match d with
  | .object _ members =>
    match members.lookup key with
    | some v => .ok v
    | none => .error (.keyError key)
  | _ => .error .typeError

/-- `d.items()` -/
def pyItems (d : JsonValue) : Except PyError (List (Bytes × JsonValue)) :=
  match d with
  | .object _ members => .ok members
  | _ => .error .attributeError

/-- What a row is formatted from. -/
structure PrintedRow where
  recordDate : JsonValue
  temperature : JsonValue
  tempunit : JsonValue
  humidity : JsonValue

inductive Printed where
  | error (errcode errmsg : JsonValue)
  | listing (length : JsonValue) (celsius : Bool) (rows : List PrintedRow)

/-- `__print_entry` with `compact_print`. mirrors extra/rpiweatherd-cli.py:59-63 -/
def printEntry (data tempunit : JsonValue) : Except PyError PrintedRow := do
  let recordDate ← pyItem data (ascii "record_date")
  let temperature ← pyItem data (ascii "temperature")
  let humidity ← pyItem data (ascii "humidity")
  return ⟨recordDate, temperature, tempunit, humidity⟩

/-- The `C` or `F` of the header. mirrors extra/rpiweatherd-cli.py:65-68 -/
def printEntriesHeader (config : JsonValue) : Except PyError Bool := do
  match ← pyItem config (ascii "units") with
  | .string s => return s = ascii "metric"
  | _ => return false

/-- `CONFIG`, from the config reply. mirrors extra/rpiweatherd-cli.py:98-111 -/
def getConfig (data : JsonValue) : Except PyError JsonValue := pyItem data RESULTS

/-- The key to sort by; the dates are strings. mirrors extra/rpiweatherd-cli.py:89-90 -/
def getCmpKey (entry : Bytes × JsonValue) : Except PyError Bytes := do
  match ← pyItem entry.2 (ascii "record_date") with
  | .string s => return s
  | _ => throw .typeError

/-- `sorted(entries, key=get_cmp_key)` -/
def sortedByDate (entries : List (Bytes × JsonValue)) :
    Except PyError (List (Bytes × JsonValue)) := do
  let keyed ← entries.mapM fun entry => do return (← getCmpKey entry, entry)
  return (keyed.mergeSort fun a b => a.1 ≤ b.1).map Prod.snd

/-- `data['errcode'] != 0` -/
def isError : JsonValue → Bool
  | .number q => q ≠ 0
  | _ => true

/-- From the reply on. mirrors extra/rpiweatherd-cli.py:158-174 -/
def doFetch (config data : JsonValue) : Except PyError Printed := do
  let errcode ← pyItem data (ascii "errcode")
  if isError errcode then
    return .error errcode (← pyItem data (ascii "errmsg"))
  else
    let length ← pyItem data (ascii "length")
    let celsius ← printEntriesHeader config
    let entries ← sortedByDate (← pyItems (← pyItem data RESULTS))
    let rows ← entries.mapM fun entry => do
      printEntry entry.2 (← pyItem (← pyItem data (ascii "units")) (ascii "tempunits"))
    return .listing length celsius rows

/-! ## The keys -/

/-- The keys that `get_config`, `do_fetch` and the two printers look up in the
config reply and in the reply to a fetch that succeeded. -/
inductive Lookup where
  | configResults
  | configUnits
  | errcode
  | length
  | results
  | units
  | tempunits
  | field (name : Bytes)

def LOOKUPS : List Lookup :=
  [.configResults, .configUnits, .errcode, .length, .results, .units, .tempunits] ++
    PRINTED_NAMES.map .field

/-- The key is in the document; the field of an entry, in every member of
`results`. -/
def Lookup.Present (config fetch : JsonObject) : Lookup → Prop
  | .configResults => (config.getValue RESULTS).isSome = true
  | .configUnits => (config.getIn RESULTS (ascii "units")).isSome = true
  | .errcode => (fetch.getValue (ascii "errcode")).isSome = true
  | .length => (fetch.getValue (ascii "length")).isSome = true
  | .results => (fetch.getValue RESULTS).isSome = true
  | .units => (fetch.getValue (ascii "units")).isSome = true
  | .tempunits => (fetch.getIn (ascii "units") (ascii "tempunits")).isSome = true
  | .field name => ∀ r, fetch.getObject RESULTS = some r → ∀ k x, r.getValue k = some x →
      ∃ t : JsonObject, x = t.toValue ∧ (t.getValue name).isSome = true

/-- Two keys the server never writes, and one that needs an entry. -/
def Lookup.Provided (es : List Entry) : Lookup → Prop
  | .configUnits => False
  | .tempunits => False
  | .results => es ≠ []
  | _ => True

theorem getObject_isSome_getValue {o : JsonObject} {name : Bytes}
    (h : (o.getObject name).isSome = true) : (o.getValue name).isSome = true := by
  obtain ⟨t, ht⟩ := Option.isSome_iff_exists.mp h
  rw [getObject_eq_some_iff.mp ht]
  rfl

/-! ## The config reply -/

/-- The six settings by their keys. -/
def settingPairs (c : RpiwdConfig) : List (Bytes × Option Bytes) :=
  [(CONFIG_LOCATION, c.measureLocation), (CONFIG_QUERY_INTERVAL, c.queryInterval),
    (CONFIG_DEVICE_NAME, c.deviceName), (CONFIG_DEVICE_CONFIG, some (printInt c.deviceConfig)),
    (CONFIG_COMM_PORT, some (printInt c.commPort)),
    (CONFIG_NUM_WORKER_THREADS, some (printInt c.numWorkerThreads))]

theorem configSettings_eq (c : RpiwdConfig) :
    configSettings c = (settingPairs c).map fun p => (some p.1, p.2) := rfl

/-- Every key fits the buffer, and none is `units`. -/
theorem settingPairs_keys (c : RpiwdConfig) :
    (∀ p ∈ settingPairs c, PairKey p.1) ∧ ascii "units" ∉ (settingPairs c).map Prod.fst := by
  have hkeys : ∀ k ∈ [CONFIG_LOCATION, CONFIG_QUERY_INTERVAL, CONFIG_DEVICE_NAME,
      CONFIG_DEVICE_CONFIG, CONFIG_COMM_PORT, CONFIG_NUM_WORKER_THREADS],
      PairKey k ∧ ascii "units" ≠ k := by
    decide +kernel
  refine ⟨fun p hp => (hkeys p.1 (List.mem_map_of_mem (f := Prod.fst) hp)).1, fun hmem => ?_⟩
  exact (hkeys _ hmem).2 rfl

/-- A value for a key comes from a line. -/
theorem exists_call_of_lastValue {key : Bytes} {cs : List Ini.Call}
    (h : (lastValue key cs).isSome = true) : ∃ c ∈ cs, c.name = key ∧ c.value ≠ [] := by
  obtain ⟨v, hv⟩ := Option.isSome_iff_exists.mp h
  obtain ⟨c, hc, hgiven⟩ := List.exists_of_findSome?_eq_some hv
  refine ⟨c, List.mem_reverse.mp hc, ?_⟩
  unfold givenFor at hgiven
  split at hgiven
  · assumption
  · cases hgiven

/-- A file that passes the check has three lines of text at least. -/
theorem three_le_textLines {file : Option Bytes} (h : PassesCheck file) :
    3 ≤ textLines (fileCalls file) := by
  obtain ⟨d, -, hd⟩ := h.device
  have hgiven : ∀ k ∈ STRING_KEYS, (lastValue k (fileCalls file)).isSome = true := by
    simp only [STRING_KEYS, List.forall_mem_cons]
    exact ⟨h.location, by rw [hd]; rfl, h.interval, fun _ hk => absurd hk List.not_mem_nil⟩
  have htext : ∀ k ∈ STRING_KEYS, k ∈ TEXT_KEYS := by decide +kernel
  have hsub : STRING_KEYS ⊆ ((fileCalls file).filter isText).map (·.name) := by
    intro k hk
    obtain ⟨c, hc, rfl, hvalue⟩ := exists_call_of_lastValue (hgiven k hk)
    refine List.mem_map_of_mem (List.mem_filter.mpr ⟨hc, ?_⟩)
    simp [isText, htext _ hk, hvalue]
  have hnodup : STRING_KEYS.Nodup := by decide +kernel
  have hlen := (hnodup.subperm hsub).length_le
  rw [List.length_map] at hlen
  exact hlen

/-- The reply of an accepted configuration: `results` is there, since the name
of a supported device is taken; the setting `units` is not. -/
theorem config_document {file : Option Bytes} {errno : Errno} {s : ConfigState}
    (hstart : startConfig file errno = .ok (some s)) {env : Env}
    (henv : s.current.view = .ok env.config) :
    ∃ root, keyValueListToJsonValue
        (emplaceAll (keyValueListAlloc env.config.configCount) (configSettings env.config)) =
          .ok root ∧
      (root.getObject RESULTS).isSome = true ∧ root.getIn RESULTS (ascii "units") = none := by
  have hvalid := startConfig_valid hstart
  have hpass : PassesCheck file := by
    rw [← configHasErrors_firstConfig_iff file errno, ← startConfig_current hstart]
    exact hvalid.1
  have hcount : 3 ≤ env.config.configCount := by
    rw [ConfStrct.view_configCount henv, startConfig_current hstart, firstConfig_configCount]
    exact Nat.le_add_right_of_le (three_le_textLines hpass)
  obtain ⟨-, ⟨d, hd, hname⟩, -⟩ := s.current.valid_iff.mp hvalid
  have hdevice : env.config.deviceName = some d := by
    obtain ⟨l, -, henv⟩ := bind_ok henv
    obtain ⟨d', hd', henv⟩ := bind_ok henv
    obtain ⟨q, -, henv⟩ := map_ok henv
    rw [hname] at hd'
    cases hd'
    rw [← henv]
  have hpairs : (emplaceAll (keyValueListAlloc env.config.configCount)
      (configSettings env.config)).pairs =
      ((settingPairs env.config).take env.config.configCount).map fun p => (some p.1, p.2) := by
    rw [List.map_take, ← configSettings_eq]
    exact emplaceAll_pairs _ _
  have hmem : (CONFIG_DEVICE_NAME, env.config.deviceName) ∈
      (settingPairs env.config).take env.config.configCount := by
    apply List.mem_of_mem_take (i := 3)
    rw [List.take_take, Nat.min_eq_left hcount]
    simp [settingPairs]
  have hutf8 : ∀ d ∈ SUPPORTED_DEVICES, (jsonValueInitString (some d)).isSome = true := by decide
  obtain ⟨hkeys, hunits⟩ := settingPairs_keys env.config
  obtain ⟨root, hroot, hresults, hothers⟩ := keyValueListToJsonValue_lookups hpairs
    (fun p hp => hkeys p (List.mem_of_mem_take hp))
    ⟨_, hmem, by rw [hdevice]; exact hutf8 d hd⟩
  refine ⟨root, hroot, hresults, hothers _ fun hmem' => hunits ?_⟩
  rw [List.map_take] at hmem'
  exact List.mem_of_mem_take hmem'

/-! ## The fetch -/

theorem pyItem_toValue {o : JsonObject} {key : Bytes} {v : JsonValue}
    (h : o.getValue key = some v) : pyItem o.toValue key = .ok v := by
  have hlookup : o.members.lookup key = some v := h
  simp only [pyItem, toValue, hlookup]

theorem pyItem_toValue_none {o : JsonObject} {key : Bytes} (h : o.getValue key = none) :
    pyItem o.toValue key = .error (.keyError key) := by
  have hlookup : o.members.lookup key = none := h
  simp only [pyItem, toValue, hlookup]

/-- The client stops at the header if the configuration has no `units`. -/
theorem doFetch_no_units {es : List Entry} {fetch config : JsonObject}
    (hfetch : FetchDocument es fetch) (hunits : config.getValue (ascii "units") = none) :
    doFetch config.toValue fetch.toValue = .error (.keyError (ascii "units")) := by
  have hheader : printEntriesHeader config.toValue = .error (.keyError (ascii "units")) := by
    rw [printEntriesHeader, pyItem_toValue_none hunits]
    rfl
  rw [doFetch, pyItem_toValue hfetch.errcode, pyItem_toValue hfetch.length, hheader]
  rfl

/-- **Client and server do not agree** on any fetch: of the keys that the
client looks up two are never there, and a third needs an entry. So for every
list of entries, and every configuration the daemon starts with, the client
has its `CONFIG` and stops at the header. -/
theorem client_fetch_fails (file : Option Bytes) (errno : Errno) (s : ConfigState)
    (hstart : startConfig file errno = .ok (some s)) (env : Env)
    (henv : s.current.view = .ok env.config) (e : Errno) (params : HttpCmd) (msg : RpiwdMqmsg)
    (es : List Entry) (hes : ∀ x ∈ es, Returned x) (unitstr : Bytes) :
    ∃ r l configDoc fetchDoc config,
      configCommandCallback env e params msg = .ok r ∧ r.msg.data = some (.keyValues l) ∧
      keyValueListToJsonValue l = .ok configDoc ∧
      entrylistToJsonValue (some es) unitstr = .ok (some fetchDoc) ∧
      (∀ k ∈ LOOKUPS, k.Present configDoc fetchDoc ↔ k.Provided es) ∧
      getConfig configDoc.toValue = .ok config ∧
      doFetch config fetchDoc.toValue = .error (.keyError (ascii "units")) := by
  obtain ⟨configDoc, hconfig, hresults, hunits⟩ := config_document hstart henv
  obtain ⟨fetchDoc, hfetch, hdoc⟩ := entrylistToJsonValue_document hes unitstr
  obtain ⟨config, hobj⟩ := Option.isSome_iff_exists.mp hresults
  refine ⟨_, _, configDoc, fetchDoc, config.toValue, configCommandCallback_eq env e params msg, rfl,
    hconfig, hfetch, ?_, pyItem_toValue (getObject_eq_some_iff.mp hobj), ?_⟩
  · simp only [LOOKUPS, List.cons_append, List.nil_append, List.forall_mem_cons,
      Lookup.Present, Lookup.Provided, iff_true, iff_false]
    refine ⟨getObject_isSome_getValue hresults, by simp [hunits], by simp [hdoc.errcode],
      by simp [hdoc.length], hdoc.results, getObject_isSome_getValue hdoc.units,
      by simp [hdoc.tempunits], fun k hk => ?_⟩
    obtain ⟨name, hname, rfl⟩ := List.mem_map.mp hk
    refine ⟨fun _ => trivial, fun _ r hr key x hx => ?_⟩
    obtain ⟨t, ht, -, hprinted⟩ := hdoc.listing r hr key x hx
    exact ⟨t, ht, hprinted name hname⟩
  · refine doFetch_no_units hdoc ?_
    rw [getIn, hobj] at hunits
    exact hunits

/-- An entry the fetch returns. -/
def rowEntry : Entry :=
  ⟨1, some (ascii "2017-07-01 10:00:00"), 21, 40, some (ascii "attic"), some (ascii "dht11")⟩

theorem rowEntry_returned : ∀ x ∈ [rowEntry], Returned x :=
  List.forall_mem_singleton.mpr ⟨by decide, by decide⟩

/-- For a full configuration and one entry. -/
theorem client_fetch_attic :
    ∃ configDoc fetchDoc config,
      entrylistToJsonValue (some [rowEntry]) unitString = .ok (some fetchDoc) ∧
      (∀ k ∈ LOOKUPS, k.Present configDoc fetchDoc ↔ k.Provided [rowEntry]) ∧
      doFetch config fetchDoc.toValue = .error (.keyError (ascii "units")) := by
  obtain ⟨_, _, configDoc, fetchDoc, config, -, -, -, hfetch, hkeys, -, hrun⟩ :=
    client_fetch_fails (some fullText) 0 fullState startConfig_fullText (atticEnv 6 4 6005)
      fullState_view 0 ⟨ascii "config", none⟩ default [rowEntry] rowEntry_returned unitString
  exact ⟨configDoc, fetchDoc, config, hfetch, hkeys, hrun⟩

/-- One entry, and a configuration with all six settings: no `CONFIG['units']`,
and no `units.tempunits` either. Without entries there is no `results`. -/
theorem client_keys_missing :
    (∃ configDoc fetchDoc config,
      keyValueListToJsonValue (emplaceAll (keyValueListAlloc 6)
        (configSettings (atticEnv 6 4 6005).config)) = .ok configDoc ∧
      entrylistToJsonValue (some [rowEntry]) unitString = .ok (some fetchDoc) ∧
      getConfig configDoc.toValue = .ok config ∧
      doFetch config fetchDoc.toValue = .error (.keyError (ascii "units")) ∧
      fetchDoc.getIn (ascii "units") (ascii "tempunits") = none) ∧
    ∃ fetchDoc, entrylistToJsonValue (some []) unitString = .ok (some fetchDoc) ∧
      ¬ (fetchDoc.getValue RESULTS).isSome = true := by
  obtain ⟨configDoc, hconfig, hresults, hunits⟩ :=
    config_document startConfig_fullText fullState_view
  obtain ⟨fetchDoc, hfetch, hdoc⟩ := entrylistToJsonValue_document rowEntry_returned unitString
  obtain ⟨config, hobj⟩ := Option.isSome_iff_exists.mp hresults
  obtain ⟨empty, hempty, hnone⟩ :=
    entrylistToJsonValue_document (List.forall_mem_nil Returned) unitString
  rw [getIn, hobj] at hunits
  exact ⟨⟨configDoc, fetchDoc, config.toValue, hconfig, hfetch,
      pyItem_toValue (getObject_eq_some_iff.mp hobj), doFetch_no_units hdoc hunits, hdoc.tempunits⟩,
    empty, hempty, fun hsome => hnone.results.mp hsome rfl⟩

end Rpiweatherd
