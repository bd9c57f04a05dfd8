import Rpiweatherd.L3Listener.Callbacks

/-!
# The database thread's work on one message (`src/dbhandler.c`)

SQLite answers queries through a `Db`: one snapshot per query. A failed
`sqlite3_prepare_v2` is `none`. What the thread writes (new rows, counters)
goes to the next snapshot, which is not tracked: results about the daemon's
threads hold for every `Db`.
-/
namespace Rpiweatherd

def DBHANDLER_MAX_FETCHED_ENTRIES : Nat := 2048
def DBHANDLER_ERROR_SUCCESS : Int := 0
def DBHANDLER_ERROR_TOO_MANY_ENTRIES : Int := -1
def DBHANDLER_ERROR_SQL_ERROR : Int := -2
def DBHANDLER_ERROR_NO_MEMORY : Int := -3

/-- A row of `tblData`, its columns as the `sqlite3_column_*` calls return
them; they are NOT NULL. The numbers are taken as the `float`s they are
assigned to. -/
structure Row where
  id : Int
  recordDate : Bytes
  temperature : ℚ
  humidity : ℚ
  location : Bytes
  deviceName : Bytes

/-- `count` is `exec_formatted_count_query`: 0 on an error, else the first
column converted to `size_t`. -/
structure Db where
  count : Option Sql → Nat
  rows : Option Sql → Option (List Row)
  pairs : Option Sql → Option (List (Option Bytes × Option Bytes))

/-- mirrors src/dbhandler.c:292-307 -/
def entryOfRow (native : Bool) (r : Row) : Entry :=
  ⟨r.id, some r.recordDate, if native then r.temperature else celsiusToFarenheit r.temperature,
    r.humidity, some r.location, some r.deviceName⟩

/-- The list and `*errcode`; the rows go to an array sized by the count
query. mirrors src/dbhandler.c:268-326 -/
def execFetchQuery (db : Db) (fcountq fselectq : Option Sql) (native : Bool) :
    Except Fault (Option (List Entry) × Int) :=
  let count := db.count fcountq
  if count > DBHANDLER_MAX_FETCHED_ENTRIES then .ok (none, DBHANDLER_ERROR_TOO_MANY_ENTRIES)
  else match db.rows fselectq with
    | none => .ok (none, DBHANDLER_ERROR_SQL_ERROR)
    | some rows =>
      if rows.length > count then .error .overflow
      else .ok (some (rows.map (entryOfRow native)), DBHANDLER_ERROR_SUCCESS)

def emplaceAll (l : KeyValueList) (ps : List (Option Bytes × Option Bytes)) : KeyValueList :=
  ps.foldl (fun l p => keyValueListEmplace l p.1 p.2) l

/-- A list takes pairs until it is full. -/
theorem emplaceAll_pairs (ps : List (Option Bytes × Option Bytes)) :
    ∀ l : KeyValueList, (emplaceAll l ps).pairs =
      l.pairs ++ ps.take (l.capacity - l.pairs.length) := by
  induction ps with
  | nil => simp [emplaceAll]
  | cons p ps ih =>
    intro l
    have hstep : emplaceAll l (p :: ps) = emplaceAll (keyValueListEmplace l p.1 p.2) ps := rfl
    rw [hstep, ih]
    unfold keyValueListEmplace
    split
    · rename_i hfull
      have hroom : l.capacity - l.pairs.length = 0 := by omega
      rw [hroom, List.take_zero, List.take_zero]
    · rename_i hfree
      have hroom : l.capacity - l.pairs.length = (l.capacity - (l.pairs.length + 1)) + 1 := by
        omega
      rw [hroom, List.take_succ_cons]
      simp

theorem emplaceAll_capacity (ps : List (Option Bytes × Option Bytes)) :
    ∀ l : KeyValueList, (emplaceAll l ps).capacity = l.capacity := by
  induction ps with
  | nil => exact fun _ => rfl
  | cons p ps ih =>
    intro l
    have hstep : emplaceAll l (p :: ps) = emplaceAll (keyValueListEmplace l p.1 p.2) ps := rfl
    rw [hstep, ih]
    unfold keyValueListEmplace
    split <;> rfl

/-- The list and `*errcode`. `key_value_list_emplace` returns 1 or -1, so its
failure is not seen, and `errcode < 0` compares the pointer.
mirrors src/dbhandler.c:328-370 -/
def execKeyValueQuery (db : Db) (fcountq fselectq : Option Sql) (errcode : Int) :
    Option KeyValueList × Int :=
  let count := db.count fcountq
  if count > DBHANDLER_MAX_FETCHED_ENTRIES then (none, DBHANDLER_ERROR_TOO_MANY_ENTRIES)
  else (some (emplaceAll (keyValueListAlloc count) ((db.pairs fselectq).getD [])), errcode)

/-- `(key_value_list *)data` -/
def asKeyValues : Option Data → Except Fault KeyValueList
  | none => .error .nullDeref
  | some (.keyValues l) => .ok l
  | some _ => .error .typeConfusion

/-- One round of the loop: the message to send back, or none for a stored
entry. mirrors src/dbhandler.c:97-148 -/
def dbProcess (db : Db) (msg : RpiwdMqmsg) : Except Fault (Option RpiwdMqmsg) :=
  match msg.mtype with
  | .writeEntry =>
    match msg.data with
    | none => .error .nullDeref
    | some (.entry _) => .ok none
    | some _ => .error .typeConfusion
  | .fetch =>
    (execFetchQuery db msg.fcountq msg.fselectq (keepNativeUnit msg.unitstr)).map
      fun (list, retcode) =>
        some { msg with data := list.map .entries, retcode := retcode, isCompleted := true }
  | .stats =>
    let (listptr, retcode) := execKeyValueQuery db msg.fcountq msg.fselectq msg.retcode
    (deref listptr).bind fun l =>
      if l.pairs = [] then .ok (some { msg with retcode := retcode, isCompleted := true })
      else (asKeyValues msg.data).map fun d =>
        some { msg with
          data := some (.keyValues (emplaceAll d l.pairs))
          retcode := retcode
          isCompleted := true }
  | _ => .ok (some { msg with isCompleted := true })

/-- What one round can do: consume a sensor entry, or send the message back
complete, with only its payload and return code changed. -/
theorem dbProcess_cases {db : Db} {msg : RpiwdMqmsg} {o : Option RpiwdMqmsg}
    (h : dbProcess db msg = .ok o) :
    (msg.mtype = .writeEntry ∧ o = none) ∨
      (msg.mtype ≠ .writeEntry ∧
        ∃ d r, o = some { msg with data := d, retcode := r, isCompleted := true }) := by
  unfold dbProcess at h
  split at h
  · rename_i hw
    split at h <;> cases h
    exact .inl ⟨hw, rfl⟩
  · rename_i ht
    obtain ⟨p, -, rfl⟩ := map_ok h
    exact .inr ⟨by rw [ht]; decide, _, _, rfl⟩
  · rename_i ht
    obtain ⟨l, -, h⟩ := bind_ok h
    split at h
    · cases h; exact .inr ⟨by rw [ht]; decide, _, _, rfl⟩
    · obtain ⟨d, -, rfl⟩ := map_ok h
      exact .inr ⟨by rw [ht]; decide, _, _, rfl⟩
  · rename_i hw _ _
    cases h; exact .inr ⟨hw, _, _, rfl⟩

/-- mirrors src/dbhandler.c:372-385 -/
def dbhandlerStrerror (errcode : Int) : String :=
  if errcode = DBHANDLER_ERROR_SUCCESS then "Success"
  else if errcode = DBHANDLER_ERROR_TOO_MANY_ENTRIES then
    "Too many entires to fetch. See documentation for more information."
  else if errcode = DBHANDLER_ERROR_SQL_ERROR then "Internal SQL error"
  else if errcode = DBHANDLER_ERROR_NO_MEMORY then "Out of memory."
  else "General DBHANDLER error."

end Rpiweatherd
