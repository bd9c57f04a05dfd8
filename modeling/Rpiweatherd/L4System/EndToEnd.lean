import Rpiweatherd.L4System.FetchReplies

/-!
# From the sensor to the client

The parts of the daemon put together. A measurement is queued, stored, selected
by a fetch, put into a document, serialized, sent, and parsed again by the
client. `fetch_end_to_end` says what arrives: of the rows that the query
selects the client finds the first `OBJECT_MAX_CAPACITY`, and nothing else,
with their id, their texts byte for byte and their numbers to six decimals.
What the temperature becomes in Fahrenheit is left open.

The world is taken to hand out C strings and finite numbers, the texts of the
entries are UTF-8, and the ids stay within an `int` (`CleanStoreLabel`).
-/
namespace Rpiweatherd

open JsonObject

/-! ## Clean tables -/

/-- A row that a document can show as it is. -/
structure TextRow (r : Row) : Prop extends CleanRow r where
  recordDate_utf8 : isValidUtf8 r.recordDate = true
  location_utf8 : isValidUtf8 r.location = true
  deviceName_utf8 : isValidUtf8 r.deviceName = true

structure CleanTables (t : Tables) : Prop where
  rows : ∀ r ∈ t.data, TextRow r
  ids : (t.data.map (·.id)).Nodup
  le_lastId : ∀ r ∈ t.data, r.id ≤ t.lastId
  lastId : 0 ≤ t.lastId

/-- What the sensor loop hands over. -/
structure CleanMeasurement (e : Entry) : Prop where
  temperature : IsFloat e.temperature
  humidity : IsFloat e.humidity
  location : ∀ s ∈ e.location, 0 ∉ s ∧ isValidUtf8 s = true
  deviceName : ∀ s ∈ e.deviceName, 0 ∉ s ∧ isValidUtf8 s = true

/-- The text of `datetime('now')` is one. -/
def DbFate.CleanDate (dt : SqliteDatetime) (f : DbFate) : Prop :=
  0 ∉ dt.now f.now ∧ isValidUtf8 (dt.now f.now) = true

/-- The world hands out C strings and finite numbers, and the ids fit. -/
def CleanStoreLabel (dt : SqliteDatetime) (t : Store) : StoreLabel → Prop
  | .thread lab => CleanLabel t.sys lab ∧ ∀ e ∈ lab.measured, CleanMeasurement e
  | .dbRound f => f.CleanDate dt ∧ t.tables.lastId < INT_MAX

theorem CleanTables.append {t : Tables} (h : CleanTables t) {r : Row} (hr : TextRow r)
    (hid : r.id = t.lastId + 1) {requests entries : Int} :
    CleanTables ⟨t.data ++ [r], t.lastId + 1, requests, entries⟩ := by
  have hnext := h.lastId
  refine ⟨forall_mem_snoc h.rows hr, ?_, forall_mem_snoc ?_ ?_, Int.le_add_one hnext⟩
  · show ((t.data ++ [r]).map (·.id)).Nodup
    rw [List.map_append, List.map_singleton, ← List.concat_eq_append]
    refine h.ids.concat fun hmem => ?_
    obtain ⟨r', hr', heq⟩ := List.mem_map.mp hmem
    have := h.le_lastId r' hr'
    omega
  · intro r' hr'
    have := h.le_lastId r' hr'
    show r'.id ≤ t.lastId + 1
    omega
  · show r.id ≤ t.lastId + 1
    omega

theorem CleanTables.increaseStat {t : Tables} (h : CleanTables t) (ok : Bool) (st : Stat) :
    CleanTables (increaseStat ok st t) := by
  cases ok <;> cases st <;> exact ⟨h.rows, h.ids, h.le_lastId, h.lastId⟩

/-- A round adds at most a clean row. -/
theorem CleanTables.round {dt : SqliteDatetime} {t : Tables} (h : CleanTables t) {m : RpiwdMqmsg}
    (hm : ∀ e ∈ writtenEntry m, CleanMeasurement e) {f : DbFate} (hf : f.CleanDate dt)
    (hid : t.lastId < INT_MAX) : CleanTables (dbTables dt t (f.step m)) := by
  unfold dbTables
  split
  · rename_i e hw hd
    have he : CleanMeasurement e := by
      apply hm
      simp only [DbFate.step] at hw hd
      simp only [writtenEntry, hw, hd, Option.mem_some_iff]
    apply CleanTables.increaseStat
    unfold writeRawEntry
    split
    · rename_i location device _ hl hdev
      obtain ⟨hl0, hlu⟩ := he.location location hl
      obtain ⟨hd0, hdu⟩ := he.deviceName device hdev
      have hint : InInt (t.lastId + 1) := by
        have hlow := h.lastId
        unfold INT_MAX at hid
        constructor
        · unfold INT_MIN
          omega
        · unfold INT_MAX
          omega
      have hrow : TextRow
          ⟨t.lastId + 1, dt.now f.now, e.temperature, e.humidity, location, device⟩ :=
        { id := hint
          recordDate := hf.1
          temperature := he.temperature
          humidity := he.humidity
          location := hl0
          deviceName := hd0
          recordDate_utf8 := hf.2
          location_utf8 := hlu
          deviceName_utf8 := hdu }
      exact h.append hrow rfl
    · exact h
  · exact h.increaseStat _ _
  · exact h.increaseStat _ _
  · exact h

theorem rows_sublist {dt : SqliteDatetime} {utcoff : Int} {data : List Row} (q : Sql) :
    (q.rows dt utcoff data).Sublist data := by
  unfold Sql.rows
  split
  · split
    · exact List.Sublist.refl _
    · exact List.take_sublist _ _
  · exact List.filter_sublist

/-- The queries of a round see clean rows. -/
theorem CleanTables.db {t : Tables} (h : CleanTables t) (dt : SqliteDatetime) (f : DbFate) :
    CleanDb (f.db dt t) := by
  unfold DbFate.db
  split
  · constructor
    · rintro q rows hrows r hr
      obtain ⟨q, -, rfl⟩ := Option.map_eq_some_iff.mp hrows
      exact (h.rows r ((rows_sublist q).subset hr)).toCleanRow
    · rintro q ps hps p hp
      obtain ⟨q, -, rfl⟩ := Option.map_eq_some_iff.mp hps
      have hpair : ∀ {key : Bytes} {n : Int}, PairKey key → 0 ∉ key →
          CleanPair (some key, some (printInt n)) := by
        intro key n hkey h0
        refine ⟨⟨key, rfl, hkey, h0⟩, ?_⟩
        rintro s ⟨⟩
        exact nul_notMem_printInt n
      simp only [List.mem_cons, List.not_mem_nil, or_false] at hp
      rcases hp with rfl | rfl
      · exact hpair (by decide) (by decide)
      · exact hpair (by decide) (by decide)
  · exact ⟨fun q rows hrows => (nomatch hrows), fun q ps hps => (nomatch hps)⟩

/-! ## Every run -/

structure CleanStore (t : Store) : Prop where
  wired : Wired t.sys
  measured : ∀ e ∈ t.measured, CleanMeasurement e
  tables : CleanTables t.tables

/-- The entry the database thread is about to store was measured. -/
theorem StoreInv.held_measured {dt : SqliteDatetime} {init : Tables} {t : Store}
    (h : StoreInv dt init t) {m : RpiwdMqmsg} (hm : t.sys.db.held = some m) :
    ∀ e ∈ writtenEntry m, e ∈ t.measured := by
  intro e he
  have horder := h.serial.order
  simp only [Store.server, hm, Option.toList_some] at horder
  rw [h.measured, horder]
  refine List.mem_append_left _ (List.mem_filterMap.mpr ⟨m, ?_, he⟩)
  exact List.mem_append_right _ (List.mem_append_left _ (List.mem_singleton.mpr rfl))

theorem cleanStore_step {dt : SqliteDatetime} {init : Tables} {t t' : Store} {lab : StoreLabel}
    (hinv : StoreInv dt init t) (h : CleanStore t) (hlab : CleanStoreLabel dt t lab)
    (hs : t.step dt lab = some t') : CleanStore t' := by
  cases lab with
  | thread l =>
    obtain ⟨-, s, hsys, rfl⟩ := Store.step_thread hs
    refine ⟨wired_step h.wired hlab.1 (Sys.step_takes hinv.inv hsys), ?_, h.tables⟩
    exact List.forall_mem_append.mpr ⟨h.measured, hlab.2⟩
  | dbRound f =>
    obtain ⟨m, s, hm, hsys, rfl⟩ := Store.step_dbRound hs
    have hclean : CleanLabel t.sys (.dbRound (f.db dt t.tables)) := h.tables.db dt f
    refine ⟨wired_step h.wired hclean (Sys.step_takes hinv.inv hsys), h.measured, ?_⟩
    exact h.tables.round (fun e he => h.measured e (hinv.held_measured hm e he)) hlab.1 hlab.2

theorem cleanStore_reachable {dt : SqliteDatetime} {W : Nat} {init : Tables} {t : Store}
    (h : ((storeDaemon dt W init).guard (CleanStoreLabel dt)).Reachable t)
    (hinit : CleanTables init) : CleanStore t := by
  have hind : ((storeDaemon dt W init).guard (CleanStoreLabel dt)).Inductive fun t =>
      StoreInv dt init t ∧ CleanStore t := by
    constructor
    · rintro t rfl
      exact ⟨storeInv_start dt W init, wired_start W, List.forall_mem_nil _, hinit⟩
    · rintro t lab t' ⟨hinv, hclean⟩ ⟨hs, hlab⟩
      exact ⟨storeInv_step hinv hs, cleanStore_step hinv hclean hlab hs⟩
  exact (hind.reachable h).2

/-- The rows are never changed, and new ones come last. -/
theorem data_after {dt : SqliteDatetime} {init : Tables}
    {before rounds : List (RpiwdMqmsg × DbFate)} (h : before <+: rounds) :
    ((tablesObject dt).after init before).data <+: ((tablesObject dt).after init rounds).data := by
  refine (tablesObject dt).after_rel (R := fun t t' => t.data <+: t'.data)
    (fun t => List.prefix_refl _) (fun _ _ _ => List.IsPrefix.trans) (fun t m f => ?_) init h
  rcases dbTables_data dt t (f.step m) with ⟨e, location, device, -, -, -, -, hdata⟩ | ⟨hdata, -⟩
  · exact ⟨_, hdata.symm⟩
  · exact ⟨[], by rw [List.append_nil]; exact hdata.symm⟩

/-! ## The document of some rows -/

/-- What the client finds for a row. -/
structure ShowsRow (native : Bool) (o : Json) (r : Row) : Prop where
  id : o.getValue (ascii "id") = some (.number (.num r.id))
  recordDate : o.getValue (ascii "record_date") = some (.string r.recordDate)
  temperature : native = true →
    o.getValue (ascii "temperature") = some (.number (.num (fixedValue 6 r.temperature)))
  humidity : o.getValue (ascii "humidity") = some (.number (.num (fixedValue 6 r.humidity)))
  location : o.getValue (ascii "location") = some (.string r.location)
  deviceName : o.getValue (ascii "device_name") = some (.string r.deviceName)

/-- `results.key` -/
def Json.result (doc : Json) (key : Bytes) : Option Json :=
  (doc.getValue RESULTS).bind fun results => results.getValue key

/-- The document has the first `OBJECT_MAX_CAPACITY` rows, under their ids, and
nothing else; its `length` counts all of them. -/
structure ShowsRows (native : Bool) (doc : Json) (rows : List Row) : Prop where
  length : doc.getValue (ascii "length") = some (.number (.num rows.length))
  shown : ∀ r ∈ rows.take OBJECT_MAX_CAPACITY, ∃ o, doc.result (printInt r.id) = some o ∧
    ShowsRow native o r
  only : ∀ key o, doc.result key = some o →
    ∃ r ∈ rows.take OBJECT_MAX_CAPACITY, key = printInt r.id ∧ ShowsRow native o r

def fetchedRow (native : Bool) (r : {r // TextRow r}) : FetchedEntry where
  id := r.1.id
  recordDate := r.1.recordDate
  temperature := if native then r.1.temperature else celsiusToFarenheit r.1.temperature
  humidity := r.1.humidity
  location := r.1.location
  deviceName := r.1.deviceName
  id_int := by
    obtain ⟨hlo, hhi⟩ := r.2.id
    unfold INT_MIN at hlo
    unfold INT_MAX at hhi
    omega
  recordDate_utf8 := r.2.recordDate_utf8
  location_utf8 := r.2.location_utf8
  deviceName_utf8 := r.2.deviceName_utf8

theorem showsRow_member (native : Bool) (r : {r // TextRow r}) :
    ShowsRow native (fetchedRow native r).member.2.toJson.reread r.1 := by
  have hget : ∀ {name : Bytes} {v : JsonValue},
      JsonObject.getValue ⟨STARTING_CAPACITY, (fetchedRow native r).members⟩ name = some v →
      (fetchedRow native r).member.2.toJson.reread.getValue name = some v.toJson.reread := by
    intro name v hv
    have hread := getValue_reread ⟨STARTING_CAPACITY, (fetchedRow native r).members⟩ name
    rw [hv] at hread
    exact hread
  obtain ⟨hid, hdate, htemp, hhumid, hlocation, hdevice⟩ := (fetchedRow native r).readsAs
  refine ⟨?_, hget hdate, ?_, hget hhumid, hget hlocation, hget hdevice⟩
  · rw [hget hid, reread_int]
    rfl
  · rintro rfl
    exact hget htemp

/-- A client reads `results.key` as parson would. -/
theorem result_reread {o r : JsonObject} (h : o.getValue RESULTS = some r.toValue) (key : Bytes) :
    o.toValue.toJson.reread.result key = (r.getValue key).map fun v => v.toJson.reread := by
  rw [Json.result, getValue_reread, h, Option.map_some, Option.bind_some, getValue_reread]

section Results
variable {native : Bool} {rows : List {r // TextRow r}} {r : JsonObject}
  (hmembers : r.members = rows.map (FetchedEntry.member ∘ fetchedRow native))
include hmembers

theorem getValue_row (hids : (rows.map fun row => row.1.id).Nodup) {row : {r // TextRow r}}
    (hrow : row ∈ rows) : r.getValue (printInt row.1.id) = some (fetchedRow native row).member.2 := by
  have hkeys : (r.members.map Prod.fst).Nodup := by
    have hprinted := hids.map printInt_injective
    rw [List.map_map] at hprinted
    rw [hmembers, List.map_map]
    exact hprinted
  have hmem : (fetchedRow native row).member ∈ r.members := by
    rw [hmembers]
    exact List.mem_map_of_mem (f := FetchedEntry.member ∘ fetchedRow native) hrow
  exact lookup_mem hkeys hmem

theorem row_of_getValue {key : Bytes} {v : JsonValue} (h : r.getValue key = some v) :
    ∃ row ∈ rows, key = printInt row.1.id ∧ v = (fetchedRow native row).member.2 := by
  obtain ⟨before, after, hsplit, -⟩ := List.lookup_eq_some_iff.mp h
  have hmem : (key, v) ∈ r.members := by
    rw [hsplit]
    exact List.mem_append_right _ (List.mem_cons_self ..)
  rw [hmembers] at hmem
  obtain ⟨row, hrow, heq⟩ := List.mem_map.mp hmem
  cases heq
  exact ⟨row, hrow, rfl, rfl⟩

end Results

theorem showsRows_document {rows : List Row} (hrows : ∀ r ∈ rows, TextRow r)
    (hids : (rows.map (·.id)).Nodup) (native : Bool) (unitstr : Bytes) {o : JsonObject}
    (h : entrylistToJsonValue (some (rows.map (entryOfRow native))) unitstr = .ok (some o)) :
    ShowsRows native o.toValue.toJson.reread rows := by
  lift rows to List {r // TextRow r} using hrows
  rw [List.map_map] at hids
  have hentries : (rows.map Subtype.val).map (entryOfRow native) =
      (rows.map (fetchedRow native)).map FetchedEntry.entry := by
    rw [List.map_map, List.map_map]
    rfl
  have hnodup : ((rows.map (fetchedRow native)).map (·.id)).Nodup := by
    rw [List.map_map]
    exact hids
  obtain ⟨c, units, tail, heq, hnil, hcons⟩ :=
    entrylistToJsonValue_results (rows.map (fetchedRow native)) hnodup unitstr
  rw [hentries, heq] at h
  cases h
  rw [List.length_map]
  have hlength : (JsonObject.mk c (headerMembers rows.length units ++
      tail)).toValue.toJson.reread.getValue (ascii "length") =
      some (.number (.num (rows.map Subtype.val).length)) := by
    have hcount := reread_int rows.length
    rw [Int.cast_natCast] at hcount
    rw [getValue_reread, List.length_map]
    exact congrArg some hcount
  have hfresh := results_fresh rows.length units
  by_cases hempty : rows = []
  · subst hempty
    refine ⟨hlength, fun r hr => (nomatch hr), fun key o ho => ?_⟩
    rw [hnil rfl] at ho
    cases ho
  · obtain ⟨r, ⟨-, hmembers⟩, rfl⟩ := hcons (by simpa using hempty)
    rw [← List.map_take, List.map_map] at hmembers
    have hresult := result_reread (o := ⟨c, headerMembers rows.length units ++
      [(RESULTS, r.toValue)]⟩) (lookup_last hfresh)
    refine ⟨hlength, ?_, ?_⟩
    · intro row hrow
      rw [← List.map_take] at hrow
      obtain ⟨row, htaken, rfl⟩ := List.mem_map.mp hrow
      have hfirst := hids.sublist ((List.take_sublist OBJECT_MAX_CAPACITY rows).map _)
      refine ⟨_, ?_, showsRow_member native row⟩
      rw [hresult, getValue_row hmembers hfirst htaken]
      rfl
    · intro key o ho
      rw [hresult] at ho
      obtain ⟨v, hv, rfl⟩ := Option.map_eq_some_iff.mp ho
      obtain ⟨row, hrow, rfl, rfl⟩ := row_of_getValue hmembers hv
      refine ⟨row.1, ?_, rfl, showsRow_member native row⟩
      rw [← List.map_take]
      exact List.mem_map_of_mem hrow

/-- **From the sensor to the client.** A list of entries that was written to a
connection answers a request of that connection, and what its client reads is
a document that shows, up to the limit, the rows its query selects, and no
others, from the table as it was behind the rounds on exactly the messages
queued before the request. -/
theorem fetch_end_to_end {dt : SqliteDatetime} {W : Nat} {init : Tables} {t : Store}
    (h : ((storeDaemon dt W init).guard (CleanStoreLabel dt)).Reachable t)
    (hinit : CleanTables init) {c : Nat} {r : Reply} (hr : .wrote r ∈ t.sys.hist c)
    {es : List Entry} {tempunit : Option UInt8}
    (hbody : r.body = .document (.entries es) tempunit) {env : ReplyEnv} (hready : env.Ready)
    (hfits : ∀ o, r.body.root = .ok (some o) → TextFits o) :
    ∃ (i : Nat) (m : RpiwdMqmsg) (f : DbFate) (q : Sql) (response : Bytes) (doc : Json),
      FetchAt t c i m f q ∧
      RowsAdded init (t.tablesAt dt init i) ((t.rounds.take i).filterMap storedEntry) ∧
      sendReply env r = .ok (some response) ∧
      clientReads response = some (ascii "HTTP/1.1 200 OK", some doc) ∧
      ShowsRows (keepNativeUnit m.unitstr) doc
        (q.rows dt f.utcoff (t.tablesAt dt init i).data) := by
  have hclean := cleanStore_reachable h hinit
  obtain ⟨i, m, f, q, hat, hes⟩ := fetch_reply_at h.of_guard hr hbody
  have hearlier : (t.tablesAt dt init i).data <+: t.tables.data := by
    have hstate := (storeInv_reachable h.of_guard).serial.state
    have hdata : t.tables.data = ((tablesObject dt).after init t.rounds).data :=
      congrArg Tables.data hstate
    rw [hdata]
    exact data_after (List.take_prefix i t.rounds)
  have hsub : (q.rows dt f.utcoff (t.tablesAt dt init i).data).Sublist t.tables.data :=
    (rows_sublist q).trans hearlier.sublist
  have hcode := (hclean.wired.written c r hr).code_document hbody
  obtain ⟨root, response, hroot, hsend, hreads, hnone, -⟩ :=
    (hclean.wired.written c r hr).reads hready hfits
  have h200 : HTTP_CODE_OK ≠ HTTP_CODE_NO_CONTENT := by decide
  cases root with
  | none => exact absurd (hcode.symm.trans (hnone.mp rfl)) h200
  | some o =>
    have hstatus : r.statusLine = ascii "HTTP/1.1 200 OK" := by
      rw [Reply.statusLine, hcode]
      rfl
    rw [hbody, hes] at hroot
    refine ⟨i, m, f, q, response, _, hat, stored_after dt init _, hsend, ?_,
      showsRows_document ?_ ?_ _ _ hroot⟩
    · rw [hreads, hstatus]
      rfl
    · exact fun row hrow => hclean.tables.rows row (hsub.subset hrow)
    · exact hclean.tables.ids.sublist (hsub.map _)

theorem cleanTables_empty : CleanTables emptyTables :=
  ⟨List.forall_mem_nil _, List.nodup_nil, List.forall_mem_nil _, Int.le_refl 0⟩

theorem cleanMeasurement_cellar : CleanMeasurement cellarEntry where
  temperature := by show |(21 : ℚ)| < 2 ^ 128; norm_num
  humidity := by show |(40 : ℚ)| < 2 ^ 128; norm_num
  location := by rintro s ⟨⟩; decide
  deviceName := by rintro s ⟨⟩; decide

/-- The labels of the run, whatever the next id is. -/
theorem cleanStoreLabel_cellar : ∀ lab ∈ storeOne ++ fetchOne, ∀ t : Store,
    t.tables.lastId < INT_MAX → CleanStoreLabel gregorian t lab := by
  have hthread : ∀ (lab : Label) (t : Store), CleanLabel t.sys lab → lab.measured = [] →
      CleanStoreLabel gregorian t (.thread lab) := by
    intro lab t hlab hnone
    refine ⟨hlab, ?_⟩
    rw [hnone]
    exact List.forall_mem_nil _
  have hround : ∀ t : Store, t.tables.lastId < INT_MAX →
      CleanStoreLabel gregorian t (.dbRound luckyFate) := by
    have hdate : luckyFate.CleanDate gregorian := by
      constructor <;> decide +kernel
    exact fun t hid => ⟨hdate, hid⟩
  simp only [storeOne, fetchOne, List.cons_append, List.nil_append, List.forall_mem_cons]
  refine ⟨fun t _ => ⟨trivial, List.forall_mem_singleton.mpr cleanMeasurement_cellar⟩,
    fun t _ => hthread _ t trivial rfl, fun t _ => hthread _ t trivial rfl, hround,
    fun t _ => hthread _ t trivial rfl, fun t _ => hthread _ t trivial rfl,
    fun t _ => hthread _ t trivial rfl, fun t _ => hthread _ t cleanEnv_default rfl,
    fun t _ => hthread _ t trivial rfl, fun t _ => hthread _ t trivial rfl, hround,
    fun t _ => hthread _ t trivial rfl, fun t _ => hthread _ t trivial rfl,
    fun t _ => hthread _ t cleanEnv_default rfl, fun t _ => hthread _ t trivial rfl,
    fun _ h => (nomatch h)⟩

/-- The ids along the run. -/
theorem cellar_lastId {pre post : List StoreLabel} {lab : StoreLabel} {t : Store}
    (hl : storeOne ++ fetchOne = pre ++ lab :: post)
    (ht : LTS.runFn (Store.step gregorian) (Store.start 1 emptyTables) pre = some t) :
    t.tables.lastId < INT_MAX := by
  have hids : ∀ k < 15, ∀ id ∈ (LTS.runFn (Store.step gregorian) (Store.start 1 emptyTables)
      ((storeOne ++ fetchOne).take k)).map (·.tables.lastId), id < INT_MAX := by decide +kernel
  have hlength : pre.length < 15 := by
    have htotal : (storeOne ++ fetchOne).length = 15 := rfl
    rw [hl, List.length_append, List.length_cons] at htotal
    omega
  have hpre : (storeOne ++ fetchOne).take pre.length = pre := by
    rw [hl, List.take_left]
  apply hids pre.length hlength
  rw [hpre, ht]
  rfl

/-- The client of the first fetch reads the first measurement. -/
theorem cellar_read : ∃ t, ((storeDaemon gregorian 1 emptyTables).guard
      (CleanStoreLabel gregorian)).Reachable t ∧ .wrote cellarReply ∈ t.sys.hist 0 ∧
    ∃ (i : Nat) (m : RpiwdMqmsg) (f : DbFate) (q : Sql) (response : Bytes) (doc : Json),
      FetchAt t 0 i m f q ∧
      RowsAdded emptyTables (t.tablesAt gregorian emptyTables i)
        ((t.rounds.take i).filterMap storedEntry) ∧
      sendReply plainEnv cellarReply = .ok (some response) ∧
      clientReads response = some (ascii "HTTP/1.1 200 OK", some doc) ∧
      ShowsRows (keepNativeUnit m.unitstr) doc
        (q.rows gregorian f.utcoff (t.tablesAt gregorian emptyTables i).data) := by
  obtain ⟨t, ht, hh⟩ := Option.map_eq_some_iff.mp cellarReply_written
  have hreach : ((storeDaemon gregorian 1 emptyTables).guard
      (CleanStoreLabel gregorian)).Reachable t :=
    ⟨_, _, rfl, LTS.runFn_guard ht fun pre lab post u hl hu => cleanStoreLabel_cellar lab
      (by rw [hl]; exact List.mem_append_right _ (List.mem_cons_self ..)) u (cellar_lastId hl hu)⟩
  have hwrote : .wrote cellarReply ∈ t.sys.hist 0 :=
    wrote_of_reply (by rw [hh]; exact List.mem_singleton.mpr rfl)
  refine ⟨t, hreach, hwrote,
    fetch_end_to_end hreach cleanTables_empty hwrote rfl plainEnv_ready fun o ho => ?_⟩
  have hlength : ∀ n ∈ cellarReply.body.root.toOption.join.map fun o =>
      (o.toValue.toJson.text false 0).length, n < INT_MAX.toNat := by
    decide +kernel
  rw [ho] at hlength
  exact hlength _ rfl

end Rpiweatherd
