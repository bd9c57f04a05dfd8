import Rpiweatherd.L3Database.Datetime
import Rpiweatherd.L3Listener.DbThread

/-!
# The two tables and the statements that read and write them

`tblData` gets a row for every sensor entry; `tblStats` has a counter of the
entries and one of the requests. A statement SQLite refuses (disk full, file
locked, a NULL in a NOT NULL column) is an outcome of the step; so is the
instant `datetime('now')` stands for. `Tables.db` answers the queries of
`DbThread.lean` from the tables.
-/
namespace Rpiweatherd

inductive Stat where
  | totalRequests
  | totalEntries
  deriving DecidableEq, Repr

/-- The rows in order of insertion, the last id AUTOINCREMENT gave out, and
the two `VALUE` cells of `tblStats`. -/
structure Tables where
  data : List Row
  lastId : Int
  totalRequests : Int
  totalEntries : Int

/-- `exec` of `SQLCMD_INCREASE_STAT`; its result is not looked at.
mirrors src/dbhandler.c:209-218 -/
def increaseStat (ok : Bool) (s : Stat) (t : Tables) : Tables :=
  if ok then
    match s with
    | .totalRequests => { t with totalRequests := t.totalRequests + 1 }
    | .totalEntries => { t with totalEntries := t.totalEntries + 1 }
  else t

theorem increaseStat_data (ok : Bool) (st : Stat) (t : Tables) :
    (increaseStat ok st t).data = t.data := by
  cases ok <;> cases st <;> rfl

/-- The insert and the return value; a NULL string is refused by the table.
mirrors src/dbhandler.c:179-207 -/
def writeRawEntry (dt : SqliteDatetime) (ok : Bool) (now : Int) (e : Entry) (t : Tables) :
    Tables × Int :=
  match ok, e.location, e.deviceName with
  | true, some location, some device =>
    ({ t with
        data := t.data ++ [⟨t.lastId + 1, dt.now now, e.temperature, e.humidity, location, device⟩]
        lastId := t.lastId + 1 }, 1)
  | _, _, _ => (t, -1)

/-- A message, what SQLite makes of the statements it causes, and the time. -/
structure DbStep where
  msg : RpiwdMqmsg
  insertOk : Bool
  updateOk : Bool
  now : Int

/-- What a message does to the tables. mirrors src/dbhandler.c:97-142 -/
def dbTables (dt : SqliteDatetime) (t : Tables) (s : DbStep) : Tables :=
  match s.msg.mtype, s.msg.data with
  | .writeEntry, some (.entry e) =>
    increaseStat s.updateOk .totalEntries (writeRawEntry dt s.insertOk s.now e t).1
  | .fetch, _ | .stats, _ => increaseStat s.updateOk .totalRequests t
  | _, _ => t

/-! ## Queries -/

/-- The comparison the `%c` of a query stands for. -/
def compareText (op : Char) (x y : Bytes) : Bool :=
  match op with
  | '>' => y < x
  | '<' => x < y
  | _ => false

/-- The WHERE clause. mirrors include/dbhandler.h:99-123 -/
def Sql.selects (dt : SqliteDatetime) (utcoff : Int) (r : Row) : Sql → Bool
  | .countByDate op t | .readByDate op t =>
    compareText op (dt.norm r.recordDate) (dt.localtime utcoff t)
  | .countByDateRange a b | .readByDateRange a b =>
    SqliteDatetime.between (dt.norm r.recordDate) (dt.localtime utcoff a) (dt.localtime utcoff b)
  | _ => true

/-- The rows of `tblData` a query picks; a negative LIMIT is none. -/
def Sql.rows (dt : SqliteDatetime) (utcoff : Int) (data : List Row) (q : Sql) : List Row :=
  match q with
  | .selectN n => if n < 0 then data else data.take n.toNat
  | q => data.filter fun r => q.selects dt utcoff r

/-- The number a count query gives; `SELECT n` does not look at the table. -/
def Sql.count (dt : SqliteDatetime) (utcoff : Int) (data : List Row) (q : Sql) : Nat :=
  match q with
  | .countSelectN n => n.toNat
  | .countInitialStats => 2
  | q => (data.filter fun r => q.selects dt utcoff r).length

/-- `(size_t)sqlite3_column_int(query, 0)`: the low 32 bits of the number as an
`int`, which is then extended to 64 bits. -/
def columnSize (n : Nat) : Nat :=
  if n % 2 ^ 32 < 2 ^ 31 then n % 2 ^ 32 else 2 ^ 64 - 2 ^ 32 + n % 2 ^ 32

/-- SQLite's answers when no statement is refused. -/
def Tables.db (dt : SqliteDatetime) (utcoff : Int) (t : Tables) : Db where
  count q := (q.map fun q => columnSize (q.count dt utcoff t.data)).getD 0
  rows q := q.map (Sql.rows dt utcoff t.data)
  pairs q := q.map fun _ =>
    [(some (ascii "Total count of requests"), some (printInt t.totalRequests)),
      (some (ascii "Total count of entries"), some (printInt t.totalEntries))]

/-! ## The counter of the entries -/

/-- `total_entries` counts the rows. -/
def Tables.Agree (t : Tables) : Prop := t.totalEntries = t.data.length

/-- The insert of an entry takes effect. -/
def DbStep.inserts (s : DbStep) (e : Entry) : Bool :=
  s.insertOk && e.location.isSome && e.deviceName.isSome

/-- What a message does to the rows: a write message whose insert takes
effect adds one, and nothing else does anything. -/
theorem dbTables_data (dt : SqliteDatetime) (t : Tables) (s : DbStep) :
    (∃ e location device, s.msg.mtype = .writeEntry ∧ s.msg.data = some (.entry e) ∧
      e.location = some location ∧ e.deviceName = some device ∧
      (dbTables dt t s).data = t.data ++
        [⟨t.lastId + 1, dt.now s.now, e.temperature, e.humidity, location, device⟩]) ∨
    (dbTables dt t s).data = t.data ∧
      ∀ e, s.msg.mtype = .writeEntry → s.msg.data = some (.entry e) → s.inserts e = false := by
  unfold dbTables
  split
  · rename_i e hm hd
    rw [increaseStat_data]
    unfold writeRawEntry
    split
    · rename_i location device _ hl hdev
      exact .inl ⟨e, location, device, hm, hd, hl, hdev, rfl⟩
    · rename_i hno
      refine .inr ⟨rfl, fun e' _ hd' => ?_⟩
      rw [hd] at hd'
      cases hd'
      refine Bool.eq_false_iff.mpr fun hins => ?_
      simp only [DbStep.inserts, Bool.and_eq_true, Option.isSome_iff_exists] at hins
      obtain ⟨⟨hok, l, hl⟩, d, hdev⟩ := hins
      exact hno l d hok hl hdev
  · rename_i hm
    exact .inr ⟨increaseStat_data _ _ t, fun e hm' => nomatch hm'.symm.trans hm⟩
  · rename_i hm
    exact .inr ⟨increaseStat_data _ _ t, fun e hm' => nomatch hm'.symm.trans hm⟩
  · rename_i hno
    exact .inr ⟨rfl, fun e hm hd => absurd hd (hno e hm)⟩

/-- A sensor entry is inserted exactly if it is counted. -/
def DbStep.Balanced (s : DbStep) : Prop :=
  ∀ e, s.msg.mtype = .writeEntry → s.msg.data = some (.entry e) → s.inserts e = s.updateOk

theorem writeRawEntry_length (dt : SqliteDatetime) (s : DbStep) (e : Entry) (t : Tables) :
    (writeRawEntry dt s.insertOk s.now e t).1.data.length =
      t.data.length + (if s.inserts e then 1 else 0) ∧
    (writeRawEntry dt s.insertOk s.now e t).1.totalEntries = t.totalEntries := by
  unfold writeRawEntry DbStep.inserts
  cases s.insertOk <;> cases e.location <;> cases e.deviceName <;> simp

/-- One message: the counter stays right exactly if insert and update have
the same fate. -/
theorem dbTables_agree_iff (dt : SqliteDatetime) {t : Tables} (h : t.Agree) (s : DbStep) :
    (dbTables dt t s).Agree ↔ s.Balanced := by
  unfold dbTables
  split
  · rename_i e hm hd
    have hb : s.Balanced ↔ s.inserts e = s.updateOk := by
      refine ⟨fun hb => hb e hm hd, fun hb e' _ hd' => ?_⟩
      rw [hd] at hd'
      cases hd'
      exact hb
    obtain ⟨hlen, hsame⟩ := writeRawEntry_length dt s e t
    rw [hb]
    unfold Tables.Agree at h ⊢
    cases hu : s.updateOk <;> cases hi : s.inserts e <;>
      simp only [increaseStat, hlen, hsame, hi, if_true, if_false, Bool.false_eq_true] <;> simp <;>
      omega
  · rename_i hm
    have hb : s.Balanced := fun e he _ => by rw [hm] at he; cases he
    refine iff_of_true ?_ hb
    cases hu : s.updateOk <;> exact h
  · rename_i hm
    have hb : s.Balanced := fun e he _ => by rw [hm] at he; cases he
    refine iff_of_true ?_ hb
    cases hu : s.updateOk <;> exact h
  · rename_i hw
    exact iff_of_true h fun e hm hd => absurd hd (hw e hm)

/-- **The statistics agree with the data** after every message exactly if
every sensor entry is inserted exactly when it is counted. -/
theorem totalEntries_agrees_iff (dt : SqliteDatetime) (t : Tables) (h : t.Agree)
    (steps : List DbStep) :
    (∀ pre, pre <+: steps → (pre.foldl (dbTables dt) t).Agree) ↔ ∀ s ∈ steps, s.Balanced := by
  have hrun : ∀ (t : Tables) (pre : List DbStep),
      LTS.runFn (fun t s => some (dbTables dt t s)) t pre = some (pre.foldl (dbTables dt) t) := by
    intro t pre
    induction pre generalizing t with
    | nil => rfl
    | cons s pre ih => exact ih (dbTables dt t s)
  have hstep : ∀ (t : Tables) (s : DbStep), t.Agree →
      (s.Balanced ↔ ∃ u, some (dbTables dt t s) = some u ∧ u.Agree) := by
    intro t s ht
    rw [← dbTables_agree_iff dt ht s]
    simp
  have hiff : (∀ pre, pre <+: steps → ∃ u,
      LTS.runFn (fun t s => some (dbTables dt t s)) t pre = some u ∧ u.Agree) ↔
      ∀ s ∈ steps, s.Balanced := LTS.runFn_forall_iff hstep h
  simpa [hrun] using hiff

/-- The sensor's first entry, with an insert that goes through or not. -/
def firstWrite (insertOk : Bool) : DbStep :=
  ⟨writeEntryMessage default ⟨0, none, 21, 40, some (ascii "attic"), some (ascii "dht11")⟩,
    insertOk, true, 0⟩

theorem firstWrite_agrees : (dbTables gregorian ⟨[], 0, 0, 0⟩ (firstWrite true)).Agree :=
  (totalEntries_agrees_iff gregorian ⟨[], 0, 0, 0⟩ rfl [firstWrite true]).mpr
    (List.forall_mem_singleton.mpr fun e _ hd => by cases hd; rfl) _ (List.prefix_refl _)

/-- An entry that was never stored is counted. -/
theorem failed_insert_counted :
    (⟨[], 0, 0, 0⟩ : Tables).Agree ∧
      ¬ (dbTables gregorian ⟨[], 0, 0, 0⟩ (firstWrite false)).Agree := by
  refine ⟨rfl, ?_⟩
  unfold Tables.Agree
  decide

end Rpiweatherd
