import Rpiweatherd.L3Listener.Serialize

/-!
# The keys of the two documents (`src/datastructures.c:193-286`)

A client does not read a document as a whole but looks up names. For the
document of any list of entries, and for that of any key-value list, the
lemmas here say which lookups succeed: through the dotted sets, of which none
is checked, and for entries whose strings parson refuses.
-/
namespace Rpiweatherd

open JsonObject

/-! ## Key-value lists -/

/-- mirrors src/datastructures.c:259-262 -/
def keyValueHeader (length : Nat) : JsonObject :=
  let o := (JsonObject.init.setValue (ascii "length") (.number length)).1
  let o := (o.setValue (ascii "errcode") (.number 0)).1
  (o.setValue (ascii "errmsg") (.string [])).1

/-- The body of the loop. mirrors src/datastructures.c:265-269 -/
def setPair (o : JsonObject) (p : Option Bytes × Option Bytes) : Except Fault JsonObject :=
  (deref p.1).bind fun key =>
    (strcpy JSON_SERIALIZER_TEMP_ID_BUFFER_SIZE (ascii "results." ++ key)).map fun refkey =>
      (o.dotsetValue refkey (jsonValueInitString p.2)).1

/-- mirrors src/datastructures.c:253-273 -/
def keyValueListToJsonValue (l : KeyValueList) : Except Fault JsonObject :=
  l.pairs.foldlM setPair (keyValueHeader l.pairs.length)

/-- A key without dots that fits the buffer behind `results.`. -/
def PairKey (key : Bytes) : Prop := key.length ≤ 23 ∧ (46 : UInt8) ∉ key

instance decidablePairKey (key : Bytes) : Decidable (PairKey key) :=
  inferInstanceAs (Decidable (_ ∧ _))

/-- A string that is refused leaves the document as it is. -/
theorem setPair_eq {key : Bytes} (h : PairKey key) (o : JsonObject) (value : Option Bytes) :
    setPair o (some key, value) =
      .ok (((jsonValueInitString value).map fun v => (dotsetPath v [RESULTS, key] o).1).getD o) := by
  have hlen : (ascii "results.").length = 8 := by decide
  have hfits : strcpy JSON_SERIALIZER_TEMP_ID_BUFFER_SIZE (ascii "results." ++ key) =
      .ok (ascii "results." ++ key) := by
    apply strcpy_ok
    rw [List.length_append, hlen]
    have := h.1
    unfold JSON_SERIALIZER_TEMP_ID_BUFFER_SIZE
    omega
  have hsplit : (ascii "results." ++ key).splitOn 46 = [RESULTS, key] := by
    have hjoin : ascii "results." ++ key = [(46 : UInt8)].intercalate [RESULTS, key] := by
      have h8 : ascii "results." = RESULTS ++ [46] := by decide
      simp [List.intercalate, h8]
    rw [hjoin]
    refine List.splitOn_intercalate _ (fun l hl => ?_) (by simp)
    simp only [List.mem_cons, List.not_mem_nil, or_false] at hl
    rcases hl with rfl | rfl
    · decide
    · exact h.2
  cases hv : jsonValueInitString value with
  | none => simp only [setPair, deref, Except.bind, hfits, Except.map, hv, dotsetValue,
      Option.map_none, Option.getD_none]
  | some v => simp only [setPair, deref, Except.bind, hfits, Except.map, hv, dotsetValue, hsplit,
      Option.map_some, Option.getD_some]

/-- There is a `results` object, or room for one. -/
def Ready (o : JsonObject) : Prop :=
  (o.getObject RESULTS).isSome = true ∨
    o.Sized ∧ Fresh RESULTS o.members ∧ o.members.length < OBJECT_MAX_CAPACITY

/-- A set below `results` finds or creates it. -/
theorem Ready.getObject_isSome {o : JsonObject} (h : Ready o) (v : JsonValue) (next : Bytes)
    (rest : List Bytes) :
    ((dotsetPath v (RESULTS :: next :: rest) o).1.getObject RESULTS).isSome = true := by
  rcases h with h | ⟨hs, hf, hroom⟩
  · exact getObject_dotsetPath_isSome h
  · exact getObject_dotsetPath_new hs hf hroom

/-- One pair: under `results` the other names keep what they have, and a
string that is taken makes sure that there is such an object. -/
theorem setPair_spec {key : Bytes} (h : PairKey key) {o : JsonObject} (hready : Ready o)
    (value : Option Bytes) :
    ∃ o', setPair o (some key, value) = .ok o' ∧ Ready o' ∧
      (∀ n, n ≠ key → o'.getIn RESULTS n = o.getIn RESULTS n) ∧
      ((jsonValueInitString value).isSome = true ∨ (o.getObject RESULTS).isSome = true →
        (o'.getObject RESULTS).isSome = true) := by
  refine ⟨_, setPair_eq h o value, ?_⟩
  cases jsonValueInitString value with
  | none => exact ⟨hready, fun _ _ => rfl, fun hor => hor.resolve_left (by simp)⟩
  | some v =>
    have hsome := hready.getObject_isSome v key []
    exact ⟨.inl hsome, fun n hn => getIn_dotsetPath_ne hn, fun _ => hsome⟩

/-- All the pairs. -/
theorem foldlM_setPair :
    ∀ (ps : List (Bytes × Option Bytes)), (∀ p ∈ ps, PairKey p.1) → ∀ o : JsonObject, Ready o →
      ∃ o', (ps.map fun p => (some p.1, p.2)).foldlM setPair o = .ok o' ∧
        (∀ n, n ∉ ps.map Prod.fst → o'.getIn RESULTS n = o.getIn RESULTS n) ∧
        ((∃ p ∈ ps, (jsonValueInitString p.2).isSome = true) ∨
            (o.getObject RESULTS).isSome = true →
          (o'.getObject RESULTS).isSome = true)
  | [], _, o, _ => ⟨o, rfl, fun _ _ => rfl, fun h => h.resolve_left (by simp)⟩
  | (key, value) :: ps, h, o, hready => by
    obtain ⟨o₁, hstep, hready₁, hkeep₁, hsome₁⟩ :=
      setPair_spec (h (key, value) (List.mem_cons_self ..)) hready value
    obtain ⟨o₂, hfold, hkeep₂, hsome₂⟩ :=
      foldlM_setPair ps (fun p hp => h p (List.mem_cons_of_mem _ hp)) o₁ hready₁
    refine ⟨o₂, ?_, fun n hn => ?_, fun hor => hsome₂ ?_⟩
    · rw [List.map_cons, List.foldlM_cons, hstep]
      exact hfold
    · rw [List.map_cons, List.mem_cons, not_or] at hn
      rw [hkeep₂ n hn.2, hkeep₁ n hn.1]
    · rcases hor with ⟨p, hp, hv⟩ | hsome
      · rcases List.mem_cons.mp hp with rfl | hp
        · exact .inr (hsome₁ (.inl hv))
        · exact .inl ⟨p, hp, hv⟩
      · exact .inr (hsome₁ (.inr hsome))

def keyValueMembers (length : Nat) : List (Bytes × JsonValue) :=
  [(ascii "length", .number length), (ascii "errcode", .number 0), (ascii "errmsg", .string [])]

theorem keyValueHeader_eq (length : Nat) :
    ∃ c, keyValueHeader length = ⟨c, keyValueMembers length⟩ ∧ Sized ⟨c, keyValueMembers length⟩ := by
  have herrcode : ascii "errcode" ∉ [ascii "length"] := by decide
  have herrmsg : ascii "errmsg" ∉ [ascii "length", ascii "errcode"] := by decide
  have hroom : ∀ n < 3, n < OBJECT_MAX_CAPACITY := by decide
  obtain ⟨c₁, h₁, s₁⟩ := setValue_fresh (ascii "length") (.number length) sized_init
    List.not_mem_nil (hroom 0 (by decide))
  obtain ⟨c₂, h₂, s₂⟩ := setValue_fresh (ascii "errcode") (.number 0) s₁ herrcode
    (hroom 1 (by decide))
  obtain ⟨c₃, h₃, s₃⟩ := setValue_fresh (ascii "errmsg") (.string []) s₂ herrmsg
    (hroom 2 (by decide))
  refine ⟨c₃, ?_, s₃⟩
  simp only [keyValueHeader, h₁, h₂, h₃]
  rfl

theorem results_fresh_keyValue (length : Nat) : Fresh RESULTS (keyValueMembers length) := by
  show RESULTS ∉ [ascii "length", ascii "errcode", ascii "errmsg"]
  decide

/-- **The document of a key-value list**: `results` is there as soon as one
string is taken, and has no names but the keys. -/
theorem keyValueListToJsonValue_lookups {l : KeyValueList} {ps : List (Bytes × Option Bytes)}
    (hpairs : l.pairs = ps.map fun p => (some p.1, p.2)) (hkeys : ∀ p ∈ ps, PairKey p.1)
    (hvalid : ∃ p ∈ ps, (jsonValueInitString p.2).isSome = true) :
    ∃ root, keyValueListToJsonValue l = .ok root ∧ (root.getObject RESULTS).isSome = true ∧
      ∀ n, n ∉ ps.map Prod.fst → root.getIn RESULTS n = none := by
  obtain ⟨c, heq, hsized⟩ := keyValueHeader_eq l.pairs.length
  have hfresh := results_fresh_keyValue l.pairs.length
  have hready : Ready ⟨c, keyValueMembers l.pairs.length⟩ :=
    .inr ⟨hsized, hfresh, by show 3 < 960; decide⟩
  have hnone : getObject ⟨c, keyValueMembers l.pairs.length⟩ RESULTS = none := by
    simp only [getObject, getValue, lookup_fresh hfresh]
  obtain ⟨root, hfold, hkeep, hsome⟩ := foldlM_setPair ps hkeys _ hready
  refine ⟨root, ?_, hsome (.inl hvalid), fun n hn => ?_⟩
  · rw [keyValueListToJsonValue, heq, ← hfold]
    exact congrArg (List.foldlM setPair _) hpairs
  · rw [hkeep n hn, getIn, hnone]
    rfl

/-! ## The object of an entry -/

/-- The names in the object of an entry. -/
def FIELD_NAMES : List Bytes :=
  [ascii "id", ascii "record_date", ascii "temperature", ascii "humidity", ascii "location",
    ascii "device_name"]

/-- An object with no names but those of an entry. -/
structure Small (t : JsonObject) : Prop where
  sized : t.Sized
  nodup : (t.members.map Prod.fst).Nodup
  names : ∀ n ∈ t.members.map Prod.fst, n ∈ FIELD_NAMES

theorem small_init : Small JsonObject.init :=
  ⟨sized_init, List.nodup_nil, fun _ h => absurd h List.not_mem_nil⟩

theorem Small.room {t : JsonObject} (h : Small t) : t.members.length < OBJECT_MAX_CAPACITY := by
  have hle := (h.nodup.subperm h.names).length_le
  rw [List.length_map] at hle
  have hsix : FIELD_NAMES.length < OBJECT_MAX_CAPACITY := by decide
  omega

/-- There is always room for a name of an entry. -/
theorem Small.setValue {t : JsonObject} (h : Small t) {name : Bytes} (hn : name ∈ FIELD_NAMES)
    (v : JsonValue) :
    Small (t.setValue name v).1 ∧ (t.setValue name v).1.getValue name = some v := by
  cases hget : t.getValue name with
  | some x =>
    have hset : t.setValue name v = (⟨t.capacity, replace name v t.members⟩, true) := by
      simp [JsonObject.setValue, hget]
    have hfst := map_fst_replace name v t.members
    have hlen : (replace name v t.members).length = t.members.length := by
      simpa using congrArg List.length hfst
    have hsome : (t.members.lookup name).isSome = true := by
      rw [show t.members.lookup name = some x from hget]
      rfl
    rw [hset]
    refine ⟨⟨⟨?_, h.sized.2⟩, ?_, ?_⟩, lookup_replace_self hsome⟩
    · exact hlen ▸ h.sized.1
    · exact hfst ▸ h.nodup
    · exact hfst ▸ h.names
  | none =>
    have hfresh := fresh_of_getValue hget
    obtain ⟨c, hset, hsized⟩ := setValue_fresh name v h.sized hfresh h.room
    rw [hset]
    refine ⟨⟨hsized, ?_, ?_⟩, lookup_last hfresh⟩
    · simp only [List.map_append, List.map_cons, List.map_nil]
      exact List.concat_eq_append ▸ h.nodup.concat hfresh
    · simp only [List.map_append, List.map_cons, List.map_nil, List.mem_append,
        List.mem_singleton]
      rintro n (hm | rfl)
      · exact h.names n hm
      · exact hn

theorem getObject_eq_some_iff {o t : JsonObject} {name : Bytes} :
    o.getObject name = some t ↔ o.getValue name = some t.toValue := by
  unfold getObject
  cases o.getValue name with
  | none => simp
  | some x =>
    cases x with
    | number q => simp [toValue]
    | string s => simp [toValue]
    | object c m =>
      obtain ⟨c', m'⟩ := t
      simp [toValue]

/-- Sets by names of an entry: the object stays small, has these names, and
keeps those it had. -/
theorem Small.foldl_setOwn :
    ∀ (fs : List (String × JsonValue)), (∀ f ∈ fs, ascii f.1 ∈ FIELD_NAMES) →
      ∀ {t : JsonObject}, Small t →
        Small (fs.foldl setOwn t) ∧
        (∀ f ∈ fs, ((fs.foldl setOwn t).getValue (ascii f.1)).isSome = true) ∧
        ∀ n, (t.getValue n).isSome = true → ((fs.foldl setOwn t).getValue n).isSome = true
  | [], _, t, h => ⟨h, fun _ hf => absurd hf List.not_mem_nil, fun _ hn => hn⟩
  | f :: fs, hnames, t, h => by
    obtain ⟨hsmall, hset⟩ := h.setValue (hnames f (List.mem_cons_self ..)) f.2
    obtain ⟨hsmall', hall, hkeep⟩ :=
      Small.foldl_setOwn fs (fun x hx => hnames x (List.mem_cons_of_mem _ hx)) hsmall
    have hfirst : ((fs.foldl setOwn (setOwn t f)).getValue (ascii f.1)).isSome = true :=
      hkeep _ (by rw [hset]; rfl)
    refine ⟨hsmall', fun x hx => ?_, fun n hn => ?_⟩
    · rcases List.mem_cons.mp hx with rfl | hx
      · exact hfirst
      · exact hall x hx
    · by_cases heq : n = ascii f.1
      · rw [heq]
        exact hfirst
      · exact hkeep n (by rw [getValue_setValue_ne heq]; exact hn)

/-! ## The members of results -/

/-- The key of an entry can neither be entered nor added. -/
def Refused (key : Bytes) (r : JsonObject) : Prop :=
  r.getObject key = none ∧ r.add key JsonObject.init.toValue = none

theorem foldl_setIn_refused {key : Bytes} {r : JsonObject} (h : Refused key r)
    (fs : List (String × JsonValue)) : fs.foldl (setIn key) r = r := by
  induction fs with
  | nil => rfl
  | cons f fs ih =>
    have hstep : setIn key r f = r := by rw [setIn, dotsetPath_refused h.1 h.2]
    rw [List.foldl_cons, hstep, ih]

/-- Once it is entered, the sets are made in its object. -/
theorem foldl_setIn_entered {key : Bytes} :
    ∀ (fs : List (String × JsonValue)) {r t : JsonObject}, r.getObject key = some t →
      (fs.foldl (setIn key) r).getObject key = some (fs.foldl setOwn t) ∧
        ∀ k, k ≠ key → (fs.foldl (setIn key) r).getValue k = r.getValue k
  | [], r, t, h => ⟨h, fun _ _ => rfl⟩
  | f :: fs, r, t, h => by
    have hstep : (setIn key r f).getObject key = some (setOwn t f) := by
      rcases getObject_dotsetPath f.2 r key (ascii f.1) [] with ⟨hnone, -⟩ | hget
      · rw [h] at hnone
        cases hnone
      · rw [setIn, hget, h]
        rfl
    obtain ⟨hobj, hothers⟩ := foldl_setIn_entered fs hstep
    exact ⟨hobj, fun k hk => (hothers k hk).trans (getValue_dotsetPath_ne hk)⟩

/-- The sets of an entry are all refused, or all made in its object, which may
be new. -/
theorem foldl_setIn_cases (key : Bytes) (f : String × JsonValue) (fs : List (String × JsonValue))
    (r : JsonObject) :
    Refused key r ∨
      ((f :: fs).foldl (setIn key) r).getObject key =
          some ((f :: fs).foldl setOwn ((r.getObject key).getD JsonObject.init)) ∧
        ∀ k, k ≠ key → ((f :: fs).foldl (setIn key) r).getValue k = r.getValue k := by
  rcases getObject_dotsetPath f.2 r key (ascii f.1) [] with hrefused | hget
  · exact .inl hrefused
  · obtain ⟨hobj, hothers⟩ := foldl_setIn_entered fs (r := setIn key r f) hget
    exact .inr ⟨hobj, fun k hk => (hothers k hk).trans (getValue_dotsetPath_ne hk)⟩

/-- What the client prints of an entry. -/
def PRINTED_NAMES : List Bytes := [ascii "record_date", ascii "temperature", ascii "humidity"]

/-- Every member of `results` is the object of an entry, with all that is
printed. -/
def Listing (r : JsonObject) : Prop :=
  ∀ k x, r.getValue k = some x → ∃ t : JsonObject, x = t.toValue ∧ Small t ∧
    ∀ n ∈ PRINTED_NAMES, (t.getValue n).isSome = true

theorem listing_init : Listing JsonObject.init := by
  intro k x h
  cases h

/-- An entry as the server can return it: an `int` for its id, and the date
that SQLite wrote. The other two texts are whatever the configuration gave. -/
structure Returned (e : Entry) : Prop where
  id_int : -2 ^ 31 ≤ e.id ∧ e.id < 2 ^ 31
  recordDate : (jsonValueInitString e.recordDate).isSome = true

theorem storedFields_fieldNames (e : Entry) : ∀ f ∈ storedFields e, ascii f.1 ∈ FIELD_NAMES := by
  intro f hf
  obtain ⟨⟨name, v⟩, hmem, hv⟩ := List.mem_filterMap.mp hf
  obtain ⟨x, -, rfl⟩ := Option.map_eq_some_iff.mp hv
  have hname := List.mem_map_of_mem (f := fun f => ascii f.1) hmem
  exact hname

/-- What is printed is never refused. -/
theorem Returned.printed {e : Entry} (h : Returned e) :
    ∀ n ∈ PRINTED_NAMES, ∃ f ∈ storedFields e, ascii f.1 = n := by
  obtain ⟨date, hdate⟩ := Option.isSome_iff_exists.mp h.recordDate
  simp only [PRINTED_NAMES, List.forall_mem_cons]
  refine ⟨⟨("record_date", date), ?_, rfl⟩, ⟨("temperature", .number e.temperature), ?_, rfl⟩,
    ⟨("humidity", .number e.humidity), ?_, rfl⟩, fun _ hn => absurd hn List.not_mem_nil⟩
  all_goals simp [storedFields, entryFields, hdate]

/-- One more entry. -/
theorem Listing.entry {r : JsonObject} (h : Listing r) {e : Entry} (he : Returned e) :
    Listing ((storedFields e).foldl (setIn (printInt e.id)) r) := by
  obtain ⟨f, fs, hfs⟩ : ∃ f fs, storedFields e = f :: fs := ⟨_, _, rfl⟩
  rw [hfs]
  rcases foldl_setIn_cases (printInt e.id) f fs r with hrefused | ⟨hobj, hothers⟩
  · rw [foldl_setIn_refused hrefused]
    exact h
  · rw [← hfs] at hobj hothers ⊢
    have hold : Small ((r.getObject (printInt e.id)).getD JsonObject.init) := by
      cases hget : r.getObject (printInt e.id) with
      | none => exact small_init
      | some t =>
        obtain ⟨t', heq, hsmall, -⟩ := h _ _ (getObject_eq_some_iff.mp hget)
        have htt : t = t' := by
          obtain ⟨c, m⟩ := t
          obtain ⟨c', m'⟩ := t'
          cases heq
          rfl
        exact htt ▸ hsmall
    obtain ⟨hsmall, hset, -⟩ := Small.foldl_setOwn _ (storedFields_fieldNames e) hold
    intro k x hx
    by_cases hk : k = printInt e.id
    · rw [hk, getObject_eq_some_iff.mp hobj] at hx
      cases hx
      refine ⟨_, rfl, hsmall, fun n hn => ?_⟩
      obtain ⟨g, hg, rfl⟩ := he.printed n hn
      exact hset g hg
    · rw [hothers k hk] at hx
      exact h k x hx

/-- All the entries, once there is a `results` object. -/
theorem foldlM_setEntry_listing {ms : List (Bytes × JsonValue)} (hfresh : Fresh RESULTS ms)
    (c : Nat) :
    ∀ (es : List Entry), (∀ e ∈ es, Returned e) → ∀ r : JsonObject, Listing r →
      ∃ r', Listing r' ∧ es.foldlM setEntry ⟨c, ms ++ [(RESULTS, r.toValue)]⟩ =
        .ok ⟨c, ms ++ [(RESULTS, r'.toValue)]⟩
  | [], _, r, hr => ⟨r, hr, rfl⟩
  | e :: es, h, r, hr => by
    have he := h e (List.mem_cons_self ..)
    obtain ⟨r', hr', hfold⟩ := foldlM_setEntry_listing hfresh c es
      (fun x hx => h x (List.mem_cons_of_mem _ hx)) _ (hr.entry he)
    refine ⟨r', hr', ?_⟩
    rw [List.foldlM_cons, setEntry_last hfresh c r he.id_int]
    exact hfold

/-- The units are named in the singular. -/
theorem jsonHeader_getIn_units (size : Nat) (unitstr : Bytes) :
    (jsonHeader size unitstr).getIn (ascii "units") (ascii "tempunits") = none := by
  have htemp : (ascii "units.tempunit").splitOn 46 = [ascii "units", ascii "tempunit"] := by decide
  have hhumid : (ascii "units.humidunit").splitOn 46 = [ascii "units", ascii "humidunit"] := by
    decide
  have hsub : ∀ (o : JsonObject) (key last : Bytes) (v : Option JsonValue),
      key.splitOn 46 = [ascii "units", last] → ascii "tempunits" ≠ last →
      (o.dotsetValue key v).1.getIn (ascii "units") (ascii "tempunits") =
        o.getIn (ascii "units") (ascii "tempunits") := by
    intro o key last v hkey hne
    cases v with
    | none => rfl
    | some v =>
      rw [dotsetValue, hkey]
      exact getIn_dotsetPath_ne hne
  have hroot : ∀ (o : JsonObject) (name : Bytes) (v : JsonValue), ascii "units" ≠ name →
      (o.setValue name v).1.getIn (ascii "units") (ascii "tempunits") =
        o.getIn (ascii "units") (ascii "tempunits") := by
    intro o name v hne
    rw [getIn, getObject_eq_of_getValue (getValue_setValue_ne hne), getIn]
  simp only [jsonHeader, appendUnits]
  rw [hroot _ _ _ (by decide), hroot _ _ _ (by decide), hsub _ _ _ _ hhumid (by decide),
    hsub _ _ _ _ htemp (by decide), hroot _ _ _ (by decide)]
  rfl

/-- **The document of a list of entries**, by its lookups. -/
structure FetchDocument (es : List Entry) (root : JsonObject) : Prop where
  length : root.getValue (ascii "length") = some (.number es.length)
  errcode : root.getValue (ascii "errcode") = some (.number 0)
  units : (root.getObject (ascii "units")).isSome = true
  tempunits : root.getIn (ascii "units") (ascii "tempunits") = none
  results : (root.getValue RESULTS).isSome = true ↔ es ≠ []
  listing : ∀ r, root.getObject RESULTS = some r → Listing r

theorem entrylistToJsonValue_document {es : List Entry} (h : ∀ e ∈ es, Returned e)
    (unitstr : Bytes) :
    ∃ root, entrylistToJsonValue (some es) unitstr = .ok (some root) ∧ FetchDocument es root := by
  obtain ⟨c, t, heq, hsized⟩ := jsonHeader_eq es.length unitstr
  have hfresh := results_fresh es.length t.toValue
  have htemp : t.getValue (ascii "tempunits") = none := by
    have hget := jsonHeader_getIn_units es.length unitstr
    rw [heq] at hget
    exact hget
  cases es with
  | nil =>
    have hnone : getValue ⟨c, headerMembers 0 t.toValue⟩ RESULTS = none :=
      lookup_fresh (results_fresh 0 t.toValue)
    refine ⟨⟨c, headerMembers 0 t.toValue⟩, ?_, rfl, rfl, rfl, htemp, ?_, ?_⟩
    · simp only [entrylistToJsonValue, heq]
      rfl
    · simp [hnone]
    · intro r hr
      rw [getObject_eq_some_iff, hnone] at hr
      cases hr
  | cons e es =>
    have he := h e (List.mem_cons_self ..)
    obtain ⟨c', hfirst⟩ := setEntry_new hsized hfresh (by show 4 < 960; decide) he.id_int
    obtain ⟨r, hr, hrest⟩ := foldlM_setEntry_listing hfresh c' es
      (fun x hx => h x (List.mem_cons_of_mem _ hx)) _ (listing_init.entry he)
    have hobj : getValue ⟨c', headerMembers (e :: es).length t.toValue ++
        [(RESULTS, r.toValue)]⟩ RESULTS = some r.toValue := lookup_last hfresh
    refine ⟨⟨c', headerMembers (e :: es).length t.toValue ++ [(RESULTS, r.toValue)]⟩, ?_,
      rfl, rfl, rfl, htemp, ?_, ?_⟩
    · simp only [entrylistToJsonValue, heq]
      rw [List.foldlM_cons, hfirst]
      exact congrArg (Except.map some) hrest
    · rw [hobj]
      exact ⟨fun _ => List.cons_ne_nil _ _, fun _ => rfl⟩
    · intro r' hr'
      rw [getObject_eq_some_iff.mpr hobj] at hr'
      cases hr'
      exact hr

end Rpiweatherd
