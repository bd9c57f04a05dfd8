import Rpiweatherd.L3Database.Tables

/-!
# What `exec_fetch_query` makes of a count and a select query

The array for the rows is sized by a count query and filled by a select
query, without a check. The two agree on every table (`rows_length_le_count`),
but the count is read as a 32-bit `int`: from 2^32 rows on it may come out
small. `fetch_complete_iff` is the exact range.
-/
namespace Rpiweatherd

/-- The count query of a fetch never falls short of its select query, so the
array sized by it takes every row. -/
theorem rows_length_le_count (dt : SqliteDatetime) (utcoff : Int) (data : List Row)
    {v : FetchVars} {c q : Sql} (h : fetchQueries v = some (c, q)) :
    (q.rows dt utcoff data).length ≤ c.count dt utcoff data := by
  unfold fetchQueries at h
  split at h
  · cases h; exact Nat.le_refl _
  · split at h
    · cases h; exact Nat.le_refl _
    · split at h
      · cases h; exact Nat.le_refl _
      · split at h
        · cases h; exact Nat.le_refl _
        · split at h
          · rename_i hsel
            cases h
            have hneg : ¬ v.select < 0 := by omega
            simp only [Sql.rows, Sql.count, if_neg hneg, List.length_take]
            omega
          · cases h

/-- What is asked of a fetch: the count covers the rows, no row is written
behind the array, more rows than the limit are refused, and otherwise the
list has an entry for each row, in order. -/
structure FetchComplete (dt : SqliteDatetime) (utcoff : Int) (t : Tables) (c q : Sql)
    (native : Bool) : Prop where
  covered : (q.rows dt utcoff t.data).length ≤ c.count dt utcoff t.data
  inBounds : execFetchQuery (t.db dt utcoff) (some c) (some q) native ≠ .error .overflow
  tooMany : execFetchQuery (t.db dt utcoff) (some c) (some q) native =
      .ok (none, DBHANDLER_ERROR_TOO_MANY_ENTRIES) ↔
    DBHANDLER_MAX_FETCHED_ENTRIES < c.count dt utcoff t.data
  complete : c.count dt utcoff t.data ≤ DBHANDLER_MAX_FETCHED_ENTRIES →
    execFetchQuery (t.db dt utcoff) (some c) (some q) native =
      .ok (some ((q.rows dt utcoff t.data).map (entryOfRow native)), DBHANDLER_ERROR_SUCCESS)

/-- The limit is compared with the low 32 bits. -/
theorem columnSize_le_iff (n : Nat) :
    columnSize n ≤ DBHANDLER_MAX_FETCHED_ENTRIES ↔ n % 2 ^ 32 ≤ DBHANDLER_MAX_FETCHED_ENTRIES := by
  unfold columnSize DBHANDLER_MAX_FETCHED_ENTRIES
  split <;> omega

theorem columnSize_of_le {n : Nat} (h : n ≤ DBHANDLER_MAX_FETCHED_ENTRIES) : columnSize n = n := by
  unfold DBHANDLER_MAX_FETCHED_ENTRIES at h
  unfold columnSize
  rw [if_pos (by omega)]
  omega

theorem execFetchQuery_db (dt : SqliteDatetime) (utcoff : Int) (t : Tables) (c q : Sql)
    (native : Bool) :
    execFetchQuery (t.db dt utcoff) (some c) (some q) native =
      if columnSize (c.count dt utcoff t.data) > DBHANDLER_MAX_FETCHED_ENTRIES then
        .ok (none, DBHANDLER_ERROR_TOO_MANY_ENTRIES)
      else if (q.rows dt utcoff t.data).length > columnSize (c.count dt utcoff t.data) then
        .error .overflow
      else .ok (some ((q.rows dt utcoff t.data).map (entryOfRow native)),
        DBHANDLER_ERROR_SUCCESS) := rfl

/-- **Fetches are complete.** For every table, every pair of queries a fetch
is given and all their bounds, exactly if the rows counted are within the
limit or their low 32 bits are not. -/
theorem fetch_complete_iff (dt : SqliteDatetime) (utcoff : Int) (t : Tables) (v : FetchVars)
    (c q : Sql) (native : Bool) (h : fetchQueries v = some (c, q)) :
    FetchComplete dt utcoff t c q native ↔
      c.count dt utcoff t.data ≤ DBHANDLER_MAX_FETCHED_ENTRIES ∨
        DBHANDLER_MAX_FETCHED_ENTRIES < c.count dt utcoff t.data % 2 ^ 32 := by
  have hle := rows_length_le_count dt utcoff t.data h
  have hsize := columnSize_le_iff (c.count dt utcoff t.data)
  constructor
  · intro hc
    by_contra hn
    rw [not_or, Nat.not_le, Nat.not_lt] at hn
    have hmany := hc.tooMany.mpr hn.1
    rw [execFetchQuery_db, if_neg (Nat.not_lt.mpr (hsize.mpr hn.2))] at hmany
    split at hmany <;> cases hmany
  · intro hcond
    by_cases hmax : c.count dt utcoff t.data ≤ DBHANDLER_MAX_FETCHED_ENTRIES
    · have hrun : execFetchQuery (t.db dt utcoff) (some c) (some q) native =
          .ok (some ((q.rows dt utcoff t.data).map (entryOfRow native)),
            DBHANDLER_ERROR_SUCCESS) := by
        rw [execFetchQuery_db, columnSize_of_le hmax, if_neg (Nat.not_lt.mpr hmax),
          if_neg (Nat.not_lt.mpr hle)]
      refine ⟨hle, ?_, ?_, fun _ => hrun⟩
      · rw [hrun]
        exact nofun
      · rw [hrun]
        exact iff_of_false nofun (Nat.not_lt.mpr hmax)
    · have hlow := hcond.resolve_left hmax
      have hbig : columnSize (c.count dt utcoff t.data) > DBHANDLER_MAX_FETCHED_ENTRIES := by
        rw [gt_iff_lt, ← Nat.not_le, hsize]
        exact Nat.not_le.mpr hlow
      have hrun : execFetchQuery (t.db dt utcoff) (some c) (some q) native =
          .ok (none, DBHANDLER_ERROR_TOO_MANY_ENTRIES) := by
        rw [execFetchQuery_db, if_pos hbig]
      refine ⟨hle, ?_, ?_, fun hc => absurd hc hmax⟩
      · rw [hrun]
        exact nofun
      · rw [hrun]
        exact iff_of_true rfl (Nat.not_le.mp hmax)

/-- An entry of the second after the epoch. -/
def epochRow : Row := ⟨1, gregorianText 1, 21, 40, ascii "attic", ascii "dht11"⟩

/-- What `from=-1d` asks for at the epoch. -/
def sinceEpoch : FetchVars := ⟨-86400, 0, 0, 0, unitString, 0⟩

/-- One row: the fetch is complete. -/
theorem fetch_complete_row :
    FetchComplete gregorian 0 ⟨[epochRow], 1, 0, 1⟩ (.countByDate '>' (-86400))
      (.readByDate '>' (-86400)) true :=
  (fetch_complete_iff gregorian 0 ⟨[epochRow], 1, 0, 1⟩ sinceEpoch _ _ true rfl).mpr
    (.inl (by decide +kernel))

/-- A table of 2^32 rows: the count comes out zero, and the first row is
written behind an array of no entries. -/
theorem fetch_overflows :
    execFetchQuery (Tables.db gregorian 0 ⟨List.replicate (2 ^ 32) epochRow, 2 ^ 32, 0, 2 ^ 32⟩)
      (some (.countByDate '>' (-86400))) (some (.readByDate '>' (-86400))) true =
        .error .overflow := by
  have hsel : (Sql.countByDate '>' (-86400)).selects gregorian 0 epochRow = true := by
    decide +kernel
  have hsel' : (Sql.readByDate '>' (-86400)).selects gregorian 0 epochRow = true := hsel
  have hcount : ∀ n, (Sql.countByDate '>' (-86400)).count gregorian 0 (List.replicate n epochRow) =
      n := by
    intro n
    simp [Sql.count, hsel]
  have hrows : ∀ n, ((Sql.readByDate '>' (-86400)).rows gregorian 0
      (List.replicate n epochRow)).length = n := by
    intro n
    simp [Sql.rows, hsel']
  have hzero : columnSize (2 ^ 32) = 0 := by decide
  rw [execFetchQuery_db, hcount, hrows, hzero, if_neg (by decide), if_pos (by decide)]

end Rpiweatherd
