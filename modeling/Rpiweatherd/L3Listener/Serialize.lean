import Rpiweatherd.L1Json.Parson
import Rpiweatherd.L3Listener.DbThread

/-!
# The JSON document of a list of entries (`src/datastructures.c:193-251`)

Six dotted sets for every entry build the member of `results` that is named
after its id; the status of none of them is looked at. The object takes
`OBJECT_MAX_CAPACITY` members: `entrylistToJsonValue_results` says what
becomes of the entries behind that limit. A list without entries gives a
document without `results`.
-/
namespace Rpiweatherd

def JSON_SERIALIZER_TEMP_ID_BUFFER_SIZE : Nat := 32

/-- `sprintf(refkey_str, "results.%d.%s", refkey, field)` -/
def refkeyStr (refkey : Int) (field : String) : Except Fault Bytes :=
  strcpy JSON_SERIALIZER_TEMP_ID_BUFFER_SIZE
    (ascii "results." ++ (printInt refkey ++ (ascii "." ++ ascii field)))

/-- The six sets of an entry, in order; NULL for a string that is none. -/
def entryFields (e : Entry) : List (String × Option JsonValue) :=
  [("id", some (.number e.id)),
    ("record_date", jsonValueInitString e.recordDate),
    ("temperature", some (.number e.temperature)),
    ("humidity", some (.number e.humidity)),
    ("location", jsonValueInitString e.location),
    ("device_name", jsonValueInitString e.deviceName)]

def setField (refkey : Int) (o : JsonObject) (f : String × Option JsonValue) :
    Except Fault JsonObject :=
  (refkeyStr refkey f.1).map fun key => (o.dotsetValue key f.2).1

/-- The body of the loop. mirrors src/datastructures.c:217-247 -/
def setEntry (o : JsonObject) (e : Entry) : Except Fault JsonObject :=
  (entryFields e).foldlM (setField e.id) o

/-- The sets of an entry that are not refused for their string. -/
def storedFields (e : Entry) : List (String × JsonValue) :=
  (entryFields e).filterMap fun f => f.2.map fun v => (f.1, v)

/-- mirrors src/datastructures.c:276-286 -/
def appendUnits (o : JsonObject) (unitstr : Bytes) : JsonObject :=
  let tempunit := [unitstr.getD RPIWD_MEASURE_TEMPERATURE 0].takeWhile (· ≠ 0)
  let o := (o.dotsetValue (ascii "units.tempunit") (jsonValueInitString (some tempunit))).1
  (o.dotsetValue (ascii "units.humidunit")
    (jsonValueInitString (some [RPIWD_DEFAULT_HUMID_UNIT]))).1

/-- The members every document has. mirrors src/datastructures.c:202-214 -/
def jsonHeader (size : Nat) (unitstr : Bytes) : JsonObject :=
  let o := (JsonObject.init.setValue (ascii "length") (.number size)).1
  let o := appendUnits o unitstr
  let o := (o.setValue (ascii "errcode") (.number 0)).1
  (o.setValue (ascii "errmsg") (.string [])).1

/-- NULL for NULL, else the root object. mirrors src/datastructures.c:193-251 -/
def entrylistToJsonValue (list : Option (List Entry)) (unitstr : Bytes) :
    Except Fault (Option JsonObject) :=
  match list with
  | none => .ok none
  | some es => (es.foldlM setEntry (jsonHeader es.length unitstr)).map some

/-! ## The entries a fetch returns -/

/-- An entry as `exec_fetch_query` fills it in, with an `int` for its id and
texts that are UTF-8. -/
structure FetchedEntry where
  id : Int
  recordDate : Bytes
  temperature : ℚ
  humidity : ℚ
  location : Bytes
  deviceName : Bytes
  id_int : -2 ^ 31 ≤ id ∧ id < 2 ^ 31
  recordDate_utf8 : isValidUtf8 recordDate = true
  location_utf8 : isValidUtf8 location = true
  deviceName_utf8 : isValidUtf8 deviceName = true

namespace FetchedEntry

def entry (e : FetchedEntry) : Entry :=
  ⟨e.id, some e.recordDate, e.temperature, e.humidity, some e.location, some e.deviceName⟩

def key (e : FetchedEntry) : Bytes := printInt e.id

/-- The members of the entry's object. -/
def members (e : FetchedEntry) : List (Bytes × JsonValue) :=
  [(ascii "id", .number e.id),
    (ascii "record_date", .string e.recordDate),
    (ascii "temperature", .number e.temperature),
    (ascii "humidity", .number e.humidity),
    (ascii "location", .string e.location),
    (ascii "device_name", .string e.deviceName)]

/-- The member of `results`. -/
def member (e : FetchedEntry) : Bytes × JsonValue :=
  (e.key, .object STARTING_CAPACITY e.members)

/-- What the six sets store. -/
def fields (e : FetchedEntry) : List (String × JsonValue) :=
  [("id", .number e.id), ("record_date", .string e.recordDate),
    ("temperature", .number e.temperature), ("humidity", .number e.humidity),
    ("location", .string e.location), ("device_name", .string e.deviceName)]

theorem storedFields_entry (e : FetchedEntry) : storedFields e.entry = e.fields := by
  simp only [storedFields, entryFields, entry, fields, jsonValueInitString, Option.bind_some,
    e.recordDate_utf8, e.location_utf8, e.deviceName_utf8, if_true, List.filterMap_cons,
    List.filterMap_nil, Option.map_some]

end FetchedEntry

/-! ## One entry -/

def RESULTS : Bytes := ascii "results"

/-- A field whose reference key fits the buffer and has the right dots. -/
def FieldName (field : String) : Prop := (ascii field).length ≤ 11 ∧ (46 : UInt8) ∉ ascii field

theorem entryFields_names (e : Entry) : ∀ f ∈ entryFields e, FieldName f.1 := by
  have key : ∀ name ∈ ["id", "record_date", "temperature", "humidity", "location", "device_name"],
      (ascii name).length ≤ 11 ∧ (46 : UInt8) ∉ ascii name := by decide
  intro f hf
  apply key f.1
  exact List.mem_map_of_mem (f := Prod.fst) hf

theorem storedFields_names (e : Entry) : ∀ f ∈ storedFields e, FieldName f.1 := by
  intro f hf
  obtain ⟨⟨name, v⟩, hmem, hv⟩ := List.mem_filterMap.mp hf
  obtain ⟨x, -, rfl⟩ := Option.map_eq_some_iff.mp hv
  exact entryFields_names e (name, v) hmem

open JsonObject

/-- The buffer holds every reference key. -/
theorem refkeyStr_eq {refkey : Int} (hid : -2 ^ 31 ≤ refkey ∧ refkey < 2 ^ 31) {field : String}
    (hf : FieldName field) : refkeyStr refkey field =
      .ok (ascii "results." ++ (printInt refkey ++ (ascii "." ++ ascii field))) := by
  have hlen := printInt_length hid
  have h8 : (ascii "results.").length = 8 := by decide
  have h1 : (ascii ".").length = 1 := by decide
  apply strcpy_ok
  simp only [List.length_append, h8, h1, JSON_SERIALIZER_TEMP_ID_BUFFER_SIZE]
  have := hf.1
  omega

/-- The key splits at its dots. -/
theorem setField_eq {refkey : Int} (hid : -2 ^ 31 ≤ refkey ∧ refkey < 2 ^ 31) {field : String}
    (hf : FieldName field) (v : JsonValue) (o : JsonObject) :
    setField refkey o (field, some v) =
      .ok (dotsetPath v [RESULTS, printInt refkey, ascii field] o).1 := by
  have hsplit : (ascii "results." ++ (printInt refkey ++ (ascii "." ++ ascii field))).splitOn 46 =
      [RESULTS, printInt refkey, ascii field] := by
    have hjoin : ascii "results." ++ (printInt refkey ++ (ascii "." ++ ascii field)) =
        [(46 : UInt8)].intercalate [RESULTS, printInt refkey, ascii field] := by
      have h8 : ascii "results." = RESULTS ++ [46] := by decide
      have h1 : ascii "." = [46] := by decide
      simp [List.intercalate, h8, h1]
    rw [hjoin]
    refine List.splitOn_intercalate _ (fun l hl => ?_) (by simp)
    simp only [List.mem_cons, List.not_mem_nil, or_false] at hl
    rcases hl with rfl | rfl | rfl
    · decide
    · exact dot_notMem_printInt refkey
    · exact hf.2
  simp only [setField, refkeyStr_eq hid hf, Except.map, dotsetValue, hsplit]

/-- The same sets on the `results` object. -/
def setIn (key : Bytes) (r : JsonObject) (f : String × JsonValue) : JsonObject :=
  (dotsetPath f.2 [key, ascii f.1] r).1

/-- `results` after the sets of one entry. -/
def entryResult (r : JsonObject) (e : FetchedEntry) : JsonObject := e.fields.foldl (setIn e.key) r

/-- The same sets on the entry's own object. -/
def setOwn (t : JsonObject) (f : String × JsonValue) : JsonObject := (t.setValue (ascii f.1) f.2).1

/-- Once there is a `results` object, sets go into it. -/
theorem foldlM_setField {refkey : Int} (hid : -2 ^ 31 ≤ refkey ∧ refkey < 2 ^ 31)
    {ms : List (Bytes × JsonValue)} (hfresh : Fresh RESULTS ms) (c : Nat) :
    ∀ (fs : List (String × JsonValue)), (∀ f ∈ fs, FieldName f.1) → ∀ r : JsonObject,
      (fs.map fun f => (f.1, some f.2)).foldlM (setField refkey) ⟨c, ms ++ [(RESULTS, r.toValue)]⟩ =
        .ok ⟨c, ms ++ [(RESULTS, (fs.foldl (setIn (printInt refkey)) r).toValue)]⟩
  | [], _, r => rfl
  | f :: fs, h, r => by
    have hstep := setField_eq hid (h f (List.mem_cons_self ..)) f.2
      ⟨c, ms ++ [(RESULTS, r.toValue)]⟩
    rw [dotsetPath_last hfresh] at hstep
    rw [List.map_cons, List.foldlM_cons, hstep]
    exact foldlM_setField hid hfresh c fs (fun x hx => h x (List.mem_cons_of_mem _ hx))
      (setIn (printInt refkey) r f)

/-- A refused string changes nothing. -/
theorem foldlM_setField_filterMap {refkey : Int} (hid : -2 ^ 31 ≤ refkey ∧ refkey < 2 ^ 31) :
    ∀ (fs : List (String × Option JsonValue)), (∀ f ∈ fs, FieldName f.1) → ∀ o : JsonObject,
      fs.foldlM (setField refkey) o =
        ((fs.filterMap fun f => f.2.map fun v => (f.1, v)).map fun f => (f.1, some f.2)).foldlM
          (setField refkey) o
  | [], _, _ => rfl
  | (name, none) :: fs, h, o => by
    have hstep : setField refkey o (name, none) = .ok o := by
      simp only [setField, refkeyStr_eq hid (h (name, none) (List.mem_cons_self ..)), Except.map,
        dotsetValue]
    rw [List.foldlM_cons, hstep]
    exact foldlM_setField_filterMap hid fs (fun f hf => h f (List.mem_cons_of_mem _ hf)) o
  | (name, some v) :: fs, h, o => by
    have hcons : ((name, some v) :: fs).filterMap (fun f => f.2.map fun v => (f.1, v)) =
        (name, v) :: fs.filterMap fun f => f.2.map fun v => (f.1, v) := rfl
    have hstep : setField refkey o (name, some v) = _ :=
      setField_eq hid (h (name, some v) (List.mem_cons_self ..)) v o
    rw [hcons, List.map_cons, List.foldlM_cons, List.foldlM_cons, hstep]
    exact foldlM_setField_filterMap hid fs (fun f hf => h f (List.mem_cons_of_mem _ hf)) _

theorem setEntry_eq {e : Entry} (hid : -2 ^ 31 ≤ e.id ∧ e.id < 2 ^ 31) (o : JsonObject) :
    setEntry o e = ((storedFields e).map fun f => (f.1, some f.2)).foldlM (setField e.id) o :=
  foldlM_setField_filterMap hid (entryFields e) (entryFields_names e) o

theorem setEntry_last {ms : List (Bytes × JsonValue)} (hfresh : Fresh RESULTS ms) (c : Nat)
    (r : JsonObject) {e : Entry} (hid : -2 ^ 31 ≤ e.id ∧ e.id < 2 ^ 31) :
    setEntry ⟨c, ms ++ [(RESULTS, r.toValue)]⟩ e =
      .ok ⟨c, ms ++ [(RESULTS, ((storedFields e).foldl (setIn (printInt e.id)) r).toValue)]⟩ := by
  rw [setEntry_eq hid]
  exact foldlM_setField hid hfresh c (storedFields e) (storedFields_names e) r

/-- The first entry creates `results`, since its id is never refused. -/
theorem setEntry_new {o : JsonObject} (hs : o.Sized) (hfresh : Fresh RESULTS o.members)
    (hroom : o.members.length < OBJECT_MAX_CAPACITY) {e : Entry}
    (hid : -2 ^ 31 ≤ e.id ∧ e.id < 2 ^ 31) :
    ∃ c, setEntry o e = .ok ⟨c, o.members ++
      [(RESULTS, ((storedFields e).foldl (setIn (printInt e.id)) JsonObject.init).toValue)]⟩ := by
  obtain ⟨f, fs, hfs⟩ : ∃ f fs, storedFields e = f :: fs := ⟨_, _, rfl⟩
  have hnames := storedFields_names e
  rw [hfs] at hnames
  obtain ⟨c, hset, -⟩ := dotsetPath_new (printInt e.id) [ascii f.1] f.2 hs hfresh hroom
  have hstep := setField_eq hid (hnames f (List.mem_cons_self ..)) f.2 o
  refine ⟨c, ?_⟩
  rw [setEntry_eq hid, hfs, List.map_cons, List.foldlM_cons]
  show (setField e.id o (f.1, some f.2)).bind _ = _
  rw [hstep, hset]
  exact foldlM_setField hid hfresh c fs (fun x hx => hnames x (List.mem_cons_of_mem _ hx)) _

/-- Sets into an object that is the last member. -/
theorem foldl_setIn_last {key : Bytes} {ms : List (Bytes × JsonValue)} (hfresh : Fresh key ms)
    (c : Nat) :
    ∀ (fs : List (String × JsonValue)) (t : JsonObject),
      fs.foldl (setIn key) ⟨c, ms ++ [(key, t.toValue)]⟩ =
        ⟨c, ms ++ [(key, (fs.foldl setOwn t).toValue)]⟩
  | [], t => rfl
  | f :: fs, t => by
    have hstep : setIn key ⟨c, ms ++ [(key, t.toValue)]⟩ f =
        ⟨c, ms ++ [(key, (setOwn t f).toValue)]⟩ := by
      rw [setIn, dotsetPath_last hfresh]
      rfl
    rw [List.foldl_cons, hstep]
    exact foldl_setIn_last hfresh c fs _

/-- The sets of an entry never fill its own object. -/
theorem foldl_setOwn :
    ∀ (fs : List (String × JsonValue)) (ms : List (Bytes × JsonValue)),
      (ms.map Prod.fst ++ fs.map fun f => ascii f.1).Nodup →
      ms.length + fs.length ≤ STARTING_CAPACITY →
      fs.foldl setOwn ⟨STARTING_CAPACITY, ms⟩ =
        ⟨STARTING_CAPACITY, ms ++ fs.map fun f => (ascii f.1, f.2)⟩
  | [], ms, _, _ => by simp
  | f :: fs, ms, hnodup, hlen => by
    have hfresh : Fresh (ascii f.1) ms := fun hmem =>
      (List.nodup_append.mp hnodup).2.2 _ hmem _ (by simp) rfl
    have hnone : ¬ (getValue ⟨STARTING_CAPACITY, ms⟩ (ascii f.1)).isSome = true := by
      simp [getValue, lookup_fresh hfresh]
    have hroom : ¬ STARTING_CAPACITY ≤ ms.length := by
      rw [List.length_cons] at hlen
      omega
    have hstep : setOwn ⟨STARTING_CAPACITY, ms⟩ f =
        ⟨STARTING_CAPACITY, ms ++ [(ascii f.1, f.2)]⟩ := by
      simp only [setOwn, setValue, add, if_neg hnone, if_neg hroom]
    have ih := foldl_setOwn fs (ms ++ [(ascii f.1, f.2)]) (by simpa using hnodup)
      (by simp only [List.length_append, List.length_cons, List.length_nil] at hlen ⊢; omega)
    rw [List.foldl_cons, hstep, ih, List.append_assoc]
    rfl

theorem FetchedEntry.members_nodup (e : FetchedEntry) : (e.members.map Prod.fst).Nodup := by
  show (["id", "record_date", "temperature", "humidity", "location", "device_name"].map ascii).Nodup
  decide

/-- All six sets, into an object that did not exist. -/
theorem FetchedEntry.object_eq (e : FetchedEntry) :
    e.fields.foldl setOwn JsonObject.init = ⟨STARTING_CAPACITY, e.members⟩ := by
  obtain ⟨f, fs, hfs⟩ : ∃ f fs, e.fields = f :: fs := ⟨_, _, rfl⟩
  have hmembers : e.members = e.fields.map fun f => (ascii f.1, f.2) := rfl
  have hnodup : (e.fields.map fun f => ascii f.1).Nodup := e.members_nodup
  have hlen : e.fields.length ≤ STARTING_CAPACITY := by
    show 6 ≤ STARTING_CAPACITY
    decide
  rw [hmembers]
  rw [hfs] at hnodup hlen ⊢
  rw [List.foldl_cons]
  have hfirst : setOwn JsonObject.init f = ⟨STARTING_CAPACITY, [(ascii f.1, f.2)]⟩ := rfl
  have hone : [(ascii f.1, f.2)].length + fs.length ≤ STARTING_CAPACITY := by
    rw [List.length_cons] at hlen
    rw [List.length_singleton]
    omega
  rw [hfirst, foldl_setOwn fs [(ascii f.1, f.2)] hnodup hone]
  rfl

/-- Below the limit the entry becomes the last member of `results`. -/
theorem entryResult_room {r : JsonObject} (hs : r.Sized) {e : FetchedEntry}
    (hfresh : Fresh e.key r.members) (hroom : r.members.length < OBJECT_MAX_CAPACITY) :
    ∃ c, entryResult r e = ⟨c, r.members ++ [e.member]⟩ ∧ Sized ⟨c, r.members ++ [e.member]⟩ := by
  obtain ⟨f, fs, hfs⟩ : ∃ f fs, e.fields = f :: fs := ⟨_, _, rfl⟩
  obtain ⟨c, hset, hc⟩ := dotsetPath_new (ascii f.1) [] f.2 hs hfresh hroom
  refine ⟨c, ?_, sized_append.mpr hc⟩
  have hall := e.object_eq
  unfold entryResult
  rw [hfs, List.foldl_cons, setIn, hset, foldl_setIn_last hfresh c]
  rw [hfs, List.foldl_cons] at hall
  have hone : (dotsetPath f.2 [ascii f.1] JsonObject.init).1 = setOwn JsonObject.init f := rfl
  rw [hone, hall]
  rfl

/-- At the limit it is dropped. -/
theorem entryResult_full {r : JsonObject} (hs : r.Sized) {e : FetchedEntry}
    (hfresh : Fresh e.key r.members) (hfull : r.members.length = OBJECT_MAX_CAPACITY) :
    entryResult r e = r := by
  have hstep : ∀ f, setIn e.key r f = r := fun f => by
    rw [setIn, dotsetPath_full hs hfresh hfull]
  unfold entryResult
  induction e.fields with
  | nil => rfl
  | cons f fs ih => rw [List.foldl_cons, hstep, ih]

/-! ## The whole list -/

theorem member_fresh {e : FetchedEntry} {es : List FetchedEntry} (h : e.id ∉ es.map (·.id)) :
    Fresh e.key (es.map FetchedEntry.member) := by
  intro hmem
  rw [List.map_map, List.mem_map] at hmem
  obtain ⟨x, hx, hkey⟩ := hmem
  exact h (List.mem_map.mpr ⟨x, hx, printInt_injective hkey⟩)

/-- What the loop keeps: `results` holds the first entries, up to the limit. -/
def Holds (r : JsonObject) (es : List FetchedEntry) : Prop :=
  r.Sized ∧ r.members = (es.take OBJECT_MAX_CAPACITY).map FetchedEntry.member

theorem entryResult_holds {r : JsonObject} {es : List FetchedEntry} (h : Holds r es)
    {e : FetchedEntry} (hid : e.id ∉ es.map (·.id)) : Holds (entryResult r e) (es ++ [e]) := by
  obtain ⟨hs, hm⟩ := h
  have hfresh : Fresh e.key r.members := by
    rw [hm]
    refine member_fresh fun hmem => hid ?_
    rw [List.map_take] at hmem
    exact List.mem_of_mem_take hmem
  by_cases hlt : es.length < OBJECT_MAX_CAPACITY
  · have hall : ∀ xs : List FetchedEntry, xs.length ≤ es.length + 1 →
        xs.take OBJECT_MAX_CAPACITY = xs := fun xs hxs => List.take_of_length_le (by omega)
    rw [hall es (by omega)] at hm
    obtain ⟨c, hr, hsized⟩ := entryResult_room hs hfresh (by rw [hm, List.length_map]; exact hlt)
    rw [hr]
    refine ⟨hsized, ?_⟩
    rw [hall (es ++ [e]) (by simp), hm, List.map_append]
    rfl
  · have hge : OBJECT_MAX_CAPACITY ≤ es.length := Nat.le_of_not_lt hlt
    have hfull : r.members.length = OBJECT_MAX_CAPACITY := by
      rw [hm, List.length_map, List.length_take_of_le hge]
    rw [entryResult_full hs hfresh hfull]
    refine ⟨hs, ?_⟩
    rw [hm, List.take_append_of_le_length hge]

theorem foldlM_setEntry {ms : List (Bytes × JsonValue)} (hfresh : Fresh RESULTS ms) (c : Nat) :
    ∀ (es done : List FetchedEntry) (r : JsonObject), Holds r done →
      ((done ++ es).map (·.id)).Nodup →
      ∃ r', Holds r' (done ++ es) ∧
        (es.map FetchedEntry.entry).foldlM setEntry ⟨c, ms ++ [(RESULTS, r.toValue)]⟩ =
          .ok ⟨c, ms ++ [(RESULTS, r'.toValue)]⟩
  | [], done, r, hr, _ => ⟨r, by rwa [List.append_nil], rfl⟩
  | e :: es, done, r, hr, hnodup => by
    have hid : e.id ∉ done.map (·.id) := fun hmem => by
      rw [List.map_append] at hnodup
      exact (List.nodup_append.mp hnodup).2.2 _ hmem _ (by simp) rfl
    have hassoc : done ++ e :: es = (done ++ [e]) ++ es := by simp
    rw [hassoc] at hnodup ⊢
    obtain ⟨r', hr', hfold⟩ :=
      foldlM_setEntry hfresh c es (done ++ [e]) _ (entryResult_holds hr hid) hnodup
    refine ⟨r', hr', ?_⟩
    have hstep := setEntry_last hfresh c r (e := e.entry) e.id_int
    rw [e.storedFields_entry] at hstep
    rw [List.map_cons, List.foldlM_cons, hstep]
    exact hfold

/-- The units become one member, whatever the unit character is. -/
theorem appendUnits_eq {o : JsonObject} (hs : o.Sized) (hfresh : Fresh (ascii "units") o.members)
    (hroom : o.members.length < OBJECT_MAX_CAPACITY) (unitstr : Bytes) :
    ∃ c, ∃ t : JsonObject,
      appendUnits o unitstr = ⟨c, o.members ++ [(ascii "units", t.toValue)]⟩ ∧
        o.members.length < c ∧ c ∈ CAPACITIES := by
  have htemp : (ascii "units.tempunit").splitOn 46 = [ascii "units", ascii "tempunit"] := by decide
  have hhumid : (ascii "units.humidunit").splitOn 46 = [ascii "units", ascii "humidunit"] := by
    decide
  have hpercent : jsonValueInitString (some [RPIWD_DEFAULT_HUMID_UNIT]) =
      some (.string [RPIWD_DEFAULT_HUMID_UNIT]) := by rfl
  simp only [appendUnits, hpercent]
  cases jsonValueInitString (some ([unitstr.getD RPIWD_MEASURE_TEMPERATURE 0].takeWhile (· ≠ 0))) with
  | none =>
    obtain ⟨c, hset, hc⟩ := dotsetPath_new (ascii "humidunit") []
      (.string [RPIWD_DEFAULT_HUMID_UNIT]) hs hfresh hroom
    simp only [dotsetValue, hhumid, hset]
    exact ⟨c, _, rfl, hc⟩
  | some v =>
    obtain ⟨c, hset, hc⟩ := dotsetPath_new (ascii "tempunit") [] v hs hfresh hroom
    simp only [dotsetValue, htemp, hhumid, hset, dotsetPath_last hfresh]
    exact ⟨c, _, rfl, hc⟩

def headerMembers (size : Nat) (units : JsonValue) : List (Bytes × JsonValue) :=
  [(ascii "length", .number size), (ascii "units", units), (ascii "errcode", .number 0),
    (ascii "errmsg", .string [])]

theorem results_fresh (size : Nat) (units : JsonValue) :
    Fresh RESULTS (headerMembers size units) := by
  show RESULTS ∉ [ascii "length", ascii "units", ascii "errcode", ascii "errmsg"]
  decide

/-- The document before the first entry. -/
theorem jsonHeader_eq (size : Nat) (unitstr : Bytes) :
    ∃ c, ∃ t : JsonObject, jsonHeader size unitstr = ⟨c, headerMembers size t.toValue⟩ ∧
      Sized ⟨c, headerMembers size t.toValue⟩ := by
  have hunits : ascii "units" ∉ [ascii "length"] := by decide
  have herrcode : ascii "errcode" ∉ [ascii "length", ascii "units"] := by decide
  have herrmsg : ascii "errmsg" ∉ [ascii "length", ascii "units", ascii "errcode"] := by decide
  have hroom : ∀ n < 4, n < OBJECT_MAX_CAPACITY := by decide
  obtain ⟨c₁, h₁, s₁⟩ := setValue_fresh (ascii "length") (.number size) sized_init
    List.not_mem_nil (hroom 0 (by decide))
  obtain ⟨c₂, t, h₂, s₂⟩ := appendUnits_eq s₁ hunits (hroom 1 (by decide)) unitstr
  obtain ⟨c₃, h₃, s₃⟩ := setValue_fresh (ascii "errcode") (.number 0)
    (sized_append.mpr s₂ : Sized ⟨c₂, _ ++ [(ascii "units", t.toValue)]⟩) herrcode (hroom 2 (by decide))
  obtain ⟨c₄, h₄, s₄⟩ := setValue_fresh (ascii "errmsg") (.string []) s₃ herrmsg
    (hroom 3 (by decide))
  refine ⟨c₄, t, ?_, s₄⟩
  simp only [jsonHeader, h₁, h₂, h₃, h₄]
  rfl

/-- **The document.** The header, and with at least one entry a `results`
object that holds the entries up to the limit. -/
theorem entrylistToJsonValue_results (es : List FetchedEntry) (hids : (es.map (·.id)).Nodup)
    (unitstr : Bytes) :
    ∃ c t tail, entrylistToJsonValue (some (es.map FetchedEntry.entry)) unitstr =
        .ok (some ⟨c, headerMembers es.length t ++ tail⟩) ∧
      (es = [] → tail = []) ∧
      (es ≠ [] → ∃ r, Holds r es ∧ tail = [(RESULTS, r.toValue)]) := by
  obtain ⟨c, t, heq, hsized⟩ := jsonHeader_eq es.length unitstr
  have hfresh := results_fresh es.length t.toValue
  simp only [entrylistToJsonValue, List.length_map, heq]
  cases es with
  | nil =>
    refine ⟨c, t.toValue, [], ?_, fun _ => rfl, fun h => absurd rfl h⟩
    rw [List.append_nil]
    rfl
  | cons e es =>
    obtain ⟨c', hfirst⟩ : ∃ c', setEntry ⟨c, headerMembers (e :: es).length t.toValue⟩ e.entry =
        .ok ⟨c', headerMembers (e :: es).length t.toValue ++
          [(RESULTS, (entryResult JsonObject.init e).toValue)]⟩ := by
      have hnew := setEntry_new hsized hfresh (by show 4 < 960; decide) (e := e.entry) e.id_int
      rwa [e.storedFields_entry] at hnew
    have hinit : Holds JsonObject.init [] := ⟨sized_init, rfl⟩
    obtain ⟨r, hr, hrest⟩ := foldlM_setEntry hfresh c' es [e] (entryResult JsonObject.init e)
      (entryResult_holds hinit List.not_mem_nil) hids
    refine ⟨c', t.toValue, [(RESULTS, r.toValue)], ?_, fun h => absurd h (List.cons_ne_nil _ _),
      fun _ => ⟨r, hr, rfl⟩⟩
    rw [List.map_cons, List.foldlM_cons, hfirst]
    show Except.map some (List.foldlM setEntry _ (es.map FetchedEntry.entry)) = _
    rw [hrest]
    rfl

/-! ## What a client reads -/

/-- The object of the entry `e`. -/
def ReadsAs (o : JsonObject) (e : FetchedEntry) : Prop :=
  o.getValue (ascii "id") = some (.number e.id) ∧
    o.getValue (ascii "record_date") = some (.string e.recordDate) ∧
    o.getValue (ascii "temperature") = some (.number e.temperature) ∧
    o.getValue (ascii "humidity") = some (.number e.humidity) ∧
    o.getValue (ascii "location") = some (.string e.location) ∧
    o.getValue (ascii "device_name") = some (.string e.deviceName)

/-- The document has the length and one member for each entry. -/
def KeepsAll (root : JsonObject) (es : List FetchedEntry) : Prop :=
  root.getValue (ascii "length") = some (.number es.length) ∧
    ∃ r, root.getObject RESULTS = some r ∧ r.members.length = es.length ∧
      ∀ e ∈ es, ∃ o, r.getObject e.key = some o ∧ ReadsAs o e

theorem FetchedEntry.readsAs (e : FetchedEntry) : ReadsAs ⟨STARTING_CAPACITY, e.members⟩ e := by
  have key : ∀ {name v}, (name, v) ∈ e.members →
      getValue ⟨STARTING_CAPACITY, e.members⟩ name = some v := lookup_mem e.members_nodup
  refine ⟨key ?_, key ?_, key ?_, key ?_, key ?_, key ?_⟩ <;> simp [FetchedEntry.members]

/-- Below the limit every entry is there. -/
theorem keepsAll_of_le {es : List FetchedEntry} (hids : (es.map (·.id)).Nodup) {c : Nat}
    {t : JsonValue} {r : JsonObject} (hr : Holds r es) (hle : es.length ≤ OBJECT_MAX_CAPACITY) :
    KeepsAll ⟨c, headerMembers es.length t ++ [(RESULTS, r.toValue)]⟩ es := by
  have hm : r.members = es.map FetchedEntry.member := by
    rw [hr.2, List.take_of_length_le hle]
  have hkeys : (r.members.map Prod.fst).Nodup := by
    rw [hm, List.map_map]
    have hcomp : (Prod.fst ∘ FetchedEntry.member) = printInt ∘ (·.id) := rfl
    rw [hcomp, ← List.map_map]
    exact hids.map printInt_injective
  refine ⟨rfl, r, ?_, by rw [hm, List.length_map], fun e he => ⟨_, ?_, e.readsAs⟩⟩
  · simp only [getObject, getValue, lookup_last (results_fresh es.length t), toValue]
  · have hmem : (e.key, JsonValue.object STARTING_CAPACITY e.members) ∈ r.members := by
      rw [hm]
      exact List.mem_map_of_mem he
    simp only [getObject, getValue, lookup_mem hkeys hmem]

/-- Above it the count is wrong. -/
theorem le_of_keepsAll {es : List FetchedEntry} {c : Nat} {t : JsonValue} {r : JsonObject}
    (hr : Holds r es)
    (h : KeepsAll ⟨c, headerMembers es.length t ++ [(RESULTS, r.toValue)]⟩ es) :
    es.length ≤ OBJECT_MAX_CAPACITY := by
  obtain ⟨-, r', hget, hlen, -⟩ := h
  simp only [getObject, getValue, lookup_last (results_fresh es.length t), toValue,
    Option.some.injEq] at hget
  have hmembers : r'.members.length = r.members.length := by rw [← hget]
  rw [hmembers, hr.2, List.length_map, List.length_take] at hlen
  omega

/-- **Result.** The document of a list with distinct ids keeps every entry
exactly when there are some, and no more than an object of parson takes; a
fetch returns up to `DBHANDLER_MAX_FETCHED_ENTRIES`. -/
theorem entrylistToJsonValue_keeps_iff (es : List FetchedEntry) (hids : (es.map (·.id)).Nodup)
    (unitstr : Bytes) :
    (∃ root, entrylistToJsonValue (some (es.map FetchedEntry.entry)) unitstr = .ok (some root) ∧
      KeepsAll root es) ↔ es ≠ [] ∧ es.length ≤ OBJECT_MAX_CAPACITY := by
  obtain ⟨c, t, tail, heq, hnil, hcons⟩ := entrylistToJsonValue_results es hids unitstr
  rw [heq]
  constructor
  · rintro ⟨root, hroot, hkeeps⟩
    obtain rfl : _ = root := Option.some.inj (Except.ok.inj hroot)
    by_cases hne : es = []
    · -- without entries nothing creates the object
      obtain ⟨-, r, hget, -⟩ := hkeeps
      rw [hnil hne, List.append_nil] at hget
      simp [getObject, getValue, lookup_fresh (results_fresh es.length t)] at hget
    · obtain ⟨r, hr, rfl⟩ := hcons hne
      exact ⟨hne, le_of_keepsAll hr hkeeps⟩
  · rintro ⟨hne, hle⟩
    obtain ⟨r, hr, rfl⟩ := hcons hne
    exact ⟨_, rfl, keepsAll_of_le hids hr hle⟩

/-- The entry with the id `i`. -/
def entryAt {n : Nat} (hn : n ≤ DBHANDLER_MAX_FETCHED_ENTRIES) (i : Fin n) : FetchedEntry where
  id := i
  recordDate := ascii "2017-07-01 10:00:00"
  temperature := 21
  humidity := 40
  location := ascii "kitchen"
  deviceName := ascii "dht11"
  id_int := by
    have hi := i.isLt
    unfold DBHANDLER_MAX_FETCHED_ENTRIES at hn
    omega
  recordDate_utf8 := by decide
  location_utf8 := by decide
  deviceName_utf8 := by decide

/-- `n` entries with the ids from 0. -/
def entriesUpTo (n : Nat) (hn : n ≤ DBHANDLER_MAX_FETCHED_ENTRIES) : List FetchedEntry :=
  (List.finRange n).map (entryAt hn)

theorem entriesUpTo_length (n : Nat) (hn : n ≤ DBHANDLER_MAX_FETCHED_ENTRIES) :
    (entriesUpTo n hn).length = n := by
  rw [entriesUpTo, List.length_map, List.length_finRange]

theorem entriesUpTo_nodup (n : Nat) (hn : n ≤ DBHANDLER_MAX_FETCHED_ENTRIES) :
    ((entriesUpTo n hn).map (·.id)).Nodup := by
  rw [entriesUpTo, List.map_map]
  refine (List.nodup_finRange n).map fun i j hij => ?_
  have hnat : ((i : Nat) : Int) = (j : Nat) := hij
  exact Fin.ext (by omega)

/-- Three entries come back. -/
theorem three_entries_kept :
    ∃ root, entrylistToJsonValue
        (some ((entriesUpTo 3 (by decide)).map FetchedEntry.entry)) unitString =
          .ok (some root) ∧ KeepsAll root (entriesUpTo 3 (by decide)) :=
  (entrylistToJsonValue_keeps_iff _ (entriesUpTo_nodup 3 (by decide)) unitString).mpr
    ⟨List.cons_ne_nil _ _, by rw [entriesUpTo_length]; decide⟩

/-- One entry more than the limit is lost, well within the size of a fetch:
the document says 961 and has 960 results. -/
theorem entry_961_lost :
    ∃ root, entrylistToJsonValue
        (some ((entriesUpTo 961 (by decide)).map FetchedEntry.entry)) unitString =
          .ok (some root) ∧ ¬ KeepsAll root (entriesUpTo 961 (by decide)) := by
  obtain ⟨c, t, tail, heq, -, hcons⟩ := entrylistToJsonValue_results _
    (entriesUpTo_nodup 961 (by decide)) unitString
  have hlen := entriesUpTo_length 961 (by decide)
  obtain ⟨r, hr, rfl⟩ := hcons (List.ne_nil_of_length_pos (by omega))
  refine ⟨_, heq, fun hkeeps => ?_⟩
  have hle := le_of_keepsAll hr hkeeps
  rw [hlen] at hle
  exact absurd hle (by decide)

end Rpiweatherd
