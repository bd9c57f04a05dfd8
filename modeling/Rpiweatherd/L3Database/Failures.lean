import Rpiweatherd.L3Database.Fetch

/-!
# When SQLite fails (`src/dbhandler.c:237-326`)

`Db` answers a query as a whole. Here SQLite answers call by call: a
statement is prepared or not, and each `sqlite3_step` gives a row, is done or
fails. A query loop runs `while (sqlite3_step(query) == SQLITE_ROW)`, so it
takes an error for the end of the rows, and a count query that fails is a
count of zero. `fetch_safe_iff` names the answers for which `exec_fetch_query`
stays inside its array and reports a success only for a complete result.
-/
namespace Rpiweatherd

/-! ## Statements -/

/-- What `sqlite3_step` returns. -/
inductive StepResult (α : Type) where
  | row (a : α)
  | done
  | error
  deriving DecidableEq

def StepResult.isRow {α : Type} : StepResult α → Bool
  | .row _ => true
  | _ => false

/-- A statement: whether `sqlite3_prepare_v2` succeeds, and the results of the
steps, which need not come to an end. -/
structure Statement (α : Type) where
  prepared : Bool
  steps : Stream' (StepResult α)

section Yields
variable {α : Type}

/-- The steps give these rows, and then `last`. -/
def Yields : Stream' (StepResult α) → List α → StepResult α → Prop
  | s, [], last => s.head = last
  | s, a :: rows, last => s.head = .row a ∧ Yields s.tail rows last

theorem yields_unique {rows : List α} :
    ∀ {s : Stream' (StepResult α)} {rows' : List α} {last last' : StepResult α},
      Yields s rows last → Yields s rows' last' → last.isRow = false → last'.isRow = false →
      rows = rows' ∧ last = last' := by
  induction rows with
  | nil =>
    intro s rows' last last' h h' hl _
    cases rows' with
    | nil => exact ⟨rfl, h.symm.trans h'⟩
    | cons a rows' =>
      have hlast : last = .row a := h.symm.trans h'.1
      rw [hlast] at hl
      cases hl
  | cons a rows ih =>
    intro s rows' last last' h h' hl hl'
    cases rows' with
    | nil =>
      have hlast : last' = .row a := h'.symm.trans h.1
      rw [hlast] at hl'
      cases hl'
    | cons a' rows' =>
      obtain ⟨rfl, rfl⟩ := ih h.2 h'.2 hl hl'
      cases h.1.symm.trans h'.1
      exact ⟨rfl, rfl⟩

/-- A prepared statement whose first step is the row `a`. -/
def Statement.Gives (s : Statement α) (a : α) : Prop := s.prepared = true ∧ s.steps.head = .row a

/-- The steps end with `SQLITE_DONE`. -/
def Statement.Completes (s : Statement α) : Prop :=
  s.prepared = true ∧ ∃ rows, Yields s.steps rows .done

/-- A `Db`'s answer, with any end. -/
def Statement.Answers (s : Statement α) : Option (List α) → Prop
  | none => s.prepared = false
  | some rows => s.prepared = true ∧ ∃ last, last.isRow = false ∧ Yields s.steps rows last

end Yields

/-! ## Counting -/

/-- Conversion of an `int` to `size_t`. -/
def sizeT (v : Int32) : Nat := (v.toInt % 2 ^ 64).toNat

theorem sizeT_le_iff (v : Int32) :
    sizeT v ≤ DBHANDLER_MAX_FETCHED_ENTRIES ↔
      0 ≤ v.toInt ∧ v.toInt ≤ DBHANDLER_MAX_FETCHED_ENTRIES := by
  have hlo := v.le_toInt
  have hhi := v.toInt_lt
  unfold sizeT DBHANDLER_MAX_FETCHED_ENTRIES
  omega

theorem sizeT_eq {v : Int32} (h : 0 ≤ v.toInt) : (sizeT v : Int) = v.toInt := by
  have hhi := v.toInt_lt
  unfold sizeT
  omega

namespace Stepwise

/-- An error is logged and counts as zero. mirrors src/dbhandler.c:237-266 -/
def execFormattedCountQuery (query : Statement Int32) : Nat :=
  if query.prepared then
    match query.steps.head with
    | .row v => sizeT v
    | _ => 0
  else 0

theorem execFormattedCountQuery_gives {query : Statement Int32} {v : Int32} (h : query.Gives v) :
    execFormattedCountQuery query = sizeT v := by
  simp only [execFormattedCountQuery, h.1, h.2, if_true]

theorem gives_or_zero (query : Statement Int32) :
    (∃ v, query.Gives v) ∨ execFormattedCountQuery query = 0 := by
  by_cases hp : query.prepared = true
  · cases hs : query.steps.head with
    | row v => exact .inl ⟨v, hp, hs⟩
    | done => exact .inr (by simp only [execFormattedCountQuery, hs, ite_self])
    | error => exact .inr (by simp only [execFormattedCountQuery, hs, ite_self])
  · exact .inr (if_neg hp)

/-! ## Fetching -/

/-- The loop over the rows, with `room` entries of the array left.
mirrors src/dbhandler.c:290-311 -/
def fetchRows (native : Bool) : (room : Nat) → Stream' (StepResult Row) → Except Fault (List Entry)
  | 0, s => if s.head.isRow then .error .overflow else .ok []
  | room + 1, s =>
    match s.head with
    | .row r => (fetchRows native room s.tail).map (entryOfRow native r :: ·)
    | _ => .ok []

/-- mirrors src/dbhandler.c:268-326 -/
def execFetchQuery (count : Statement Int32) (select : Statement Row) (native : Bool) :
    Except Fault (Option (List Entry) × Int) :=
  let n := execFormattedCountQuery count
  if n > DBHANDLER_MAX_FETCHED_ENTRIES then .ok (none, DBHANDLER_ERROR_TOO_MANY_ENTRIES)
  else if select.prepared then
    (fetchRows native n select.steps).map fun l => (some l, DBHANDLER_ERROR_SUCCESS)
  else .ok (none, DBHANDLER_ERROR_SQL_ERROR)

/-- Rows that fit are all stored, however they end. -/
theorem fetchRows_yields {native : Bool} {room : Nat} :
    ∀ {s : Stream' (StepResult Row)} {rows : List Row} {last : StepResult Row},
      Yields s rows last → last.isRow = false →
      fetchRows native room s =
        if rows.length > room then .error .overflow else .ok (rows.map (entryOfRow native)) := by
  induction room with
  | zero =>
    intro s rows last h hlast
    cases rows with
    | nil =>
      rw [fetchRows, show s.head = last from h, hlast]
      rfl
    | cons r rows =>
      rw [fetchRows, h.1]
      rfl
  | succ room ih =>
    intro s rows last h hlast
    cases rows with
    | nil =>
      cases last with
      | row r => cases hlast
      | done => simp only [fetchRows, show s.head = .done from h]; rfl
      | error => simp only [fetchRows, show s.head = .error from h]; rfl
    | cons r rows =>
      have hlen : (r :: rows).length > room + 1 ↔ rows.length > room := by
        rw [List.length_cons]
        omega
      simp only [fetchRows, h.1, ih h.2 hlast, hlen]
      split <;> rfl

/-- A list is returned for rows that fit only. -/
theorem fetchRows_ok {native : Bool} {room : Nat} :
    ∀ {s : Stream' (StepResult Row)} {l : List Entry}, fetchRows native room s = .ok l →
      ∃ rows last, Yields s rows last ∧ last.isRow = false ∧ rows.length ≤ room := by
  induction room with
  | zero =>
    intro s l h
    unfold fetchRows at h
    split at h
    · cases h
    · rename_i hrow
      exact ⟨[], s.head, rfl, Bool.not_eq_true _ ▸ hrow, Nat.le_refl 0⟩
  | succ room ih =>
    intro s l h
    cases hs : s.head with
    | row r =>
      simp only [fetchRows, hs] at h
      obtain ⟨l', hl', -⟩ := map_ok h
      obtain ⟨rows, last, hy, hlast, hlen⟩ := ih hl'
      exact ⟨r :: rows, last, ⟨hs, hy⟩, hlast, Nat.succ_le_succ hlen⟩
    | done => exact ⟨[], .done, hs, rfl, Nat.zero_le _⟩
    | error => exact ⟨[], .error, hs, rfl, Nat.zero_le _⟩

theorem fetchRows_cases (native : Bool) {room : Nat} :
    ∀ s : Stream' (StepResult Row),
      (∃ l, fetchRows native room s = .ok l) ∨ fetchRows native room s = .error .overflow := by
  induction room with
  | zero =>
    intro s
    unfold fetchRows
    split
    · exact .inr rfl
    · exact .inl ⟨[], rfl⟩
  | succ room ih =>
    intro s
    cases hs : s.head with
    | row r =>
      simp only [fetchRows, hs]
      rcases ih s.tail with ⟨l, hl⟩ | hl
      · exact .inl ⟨_, by rw [hl]; rfl⟩
      · exact .inr (by rw [hl]; rfl)
    | done => exact .inl ⟨[], by simp only [fetchRows, hs]⟩
    | error => exact .inl ⟨[], by simp only [fetchRows, hs]⟩

/-- Answered as a whole, this is the query of `Db`: what ended the rows is
not seen. -/
theorem execFetchQuery_eq {db : Db} {c q : Option Sql} {count : Statement Int32}
    {select : Statement Row} (hc : db.count c = execFormattedCountQuery count)
    (hq : select.Answers (db.rows q)) (native : Bool) :
    execFetchQuery count select native = Rpiweatherd.execFetchQuery db c q native := by
  unfold execFetchQuery Rpiweatherd.execFetchQuery
  rw [hc]
  cases hrows : db.rows q with
  | none =>
    rw [hrows] at hq
    rw [show select.prepared = false from hq]
    rfl
  | some rows =>
    rw [hrows] at hq
    obtain ⟨hp, last, hlast, hy⟩ := hq
    simp only [hp, if_true, fetchRows_yields hy hlast]
    split
    · rfl
    · split <;> rfl

end Stepwise

/-- What is asked of a fetch when calls of SQLite fail: no entry is written
behind the array, and a success means that the count query succeeded and the
select query was read to its end. -/
structure SafeFetch (count : Statement Int32) (select : Statement Row) (native : Bool) : Prop where
  inBounds : Stepwise.execFetchQuery count select native ≠ .error .overflow
  honest : ∀ l, Stepwise.execFetchQuery count select native = .ok (l, DBHANDLER_ERROR_SUCCESS) →
    (∃ v, count.Gives v) ∧ select.Completes

/-- With a count in range and a prepared select, a fetch is safe if what it
returns is the whole result. -/
theorem safeFetch_select {count : Statement Int32} {select : Statement Row} {native : Bool}
    (hn : Stepwise.execFormattedCountQuery count ≤ DBHANDLER_MAX_FETCHED_ENTRIES)
    (hp : select.prepared = true) :
    SafeFetch count select native ↔
      (∃ v, count.Gives v) ∧ ∃ rows, Yields select.steps rows .done ∧
        rows.length ≤ Stepwise.execFormattedCountQuery count := by
  have hrun : Stepwise.execFetchQuery count select native =
      (Stepwise.fetchRows native (Stepwise.execFormattedCountQuery count) select.steps).map
        fun l => (some l, DBHANDLER_ERROR_SUCCESS) := by
    simp only [Stepwise.execFetchQuery, hp, if_true, if_neg (Nat.not_lt.mpr hn)]
  constructor
  · intro h
    rcases Stepwise.fetchRows_cases native select.steps with ⟨l, hl⟩ | hl
    · rw [hl] at hrun
      obtain ⟨hcount, -, rows, hdone⟩ := h.honest _ hrun
      obtain ⟨rows', last, hy, hlast, hlen⟩ := Stepwise.fetchRows_ok hl
      obtain ⟨rfl, -⟩ := yields_unique hdone hy rfl hlast
      exact ⟨hcount, rows, hdone, hlen⟩
    · rw [hl] at hrun
      exact absurd hrun h.inBounds
  · rintro ⟨hcount, rows, hy, hlen⟩
    rw [Stepwise.fetchRows_yields hy rfl, if_neg (Nat.not_lt.mpr hlen)] at hrun
    refine ⟨?_, fun _ _ => ⟨hcount, hp, rows, hy⟩⟩
    rw [hrun]
    exact nofun

/-- A fetch that reports an error is safe. -/
theorem safeFetch_of_refused {count : Statement Int32} {select : Statement Row} {native : Bool}
    {code : Int} (h : Stepwise.execFetchQuery count select native = .ok (none, code))
    (hcode : code ≠ DBHANDLER_ERROR_SUCCESS) : SafeFetch count select native := by
  constructor
  · rw [h]
    exact nofun
  · intro l hl
    rw [h] at hl
    cases hl
    exact absurd rfl hcode

/-- The count is compared as a `size_t`, so a negative one is out of range
too; a count query that fails is in range. -/
theorem count_refused_iff (count : Statement Int32) :
    ¬ Stepwise.execFormattedCountQuery count ≤ DBHANDLER_MAX_FETCHED_ENTRIES ↔
      ∃ v, count.Gives v ∧ ¬ (0 ≤ v.toInt ∧ v.toInt ≤ DBHANDLER_MAX_FETCHED_ENTRIES) := by
  constructor
  · intro hn
    rcases Stepwise.gives_or_zero count with ⟨v, hv⟩ | h0
    · refine ⟨v, hv, fun h => hn ?_⟩
      rw [Stepwise.execFormattedCountQuery_gives hv]
      exact (sizeT_le_iff v).mpr h
    · rw [h0] at hn
      exact absurd (Nat.zero_le _) hn
  · rintro ⟨v, hv, hout⟩ hn
    rw [Stepwise.execFormattedCountQuery_gives hv] at hn
    exact hout ((sizeT_le_iff v).mp hn)

/-- **Fetching under failures.** `exec_fetch_query` is safe and honest exactly
if the count is out of range, the select query is not prepared, or the count
query gives a number and the select query at most that many rows, with
`SQLITE_DONE` behind them. -/
theorem fetch_safe_iff (count : Statement Int32) (select : Statement Row) (native : Bool) :
    SafeFetch count select native ↔
      (∃ v, count.Gives v ∧ ¬ (0 ≤ v.toInt ∧ v.toInt ≤ DBHANDLER_MAX_FETCHED_ENTRIES)) ∨
        select.prepared = false ∨
        ∃ v rows, count.Gives v ∧ Yields select.steps rows .done ∧
          (rows.length : Int) ≤ v.toInt := by
  rw [← count_refused_iff]
  by_cases hn : Stepwise.execFormattedCountQuery count ≤ DBHANDLER_MAX_FETCHED_ENTRIES
  · have hsize : ∀ v, count.Gives v → (Stepwise.execFormattedCountQuery count : Int) = v.toInt := by
      intro v hv
      rw [Stepwise.execFormattedCountQuery_gives hv] at hn ⊢
      exact sizeT_eq ((sizeT_le_iff v).mp hn).1
    by_cases hp : select.prepared = true
    · rw [safeFetch_select hn hp]
      constructor
      · rintro ⟨⟨v, hv⟩, rows, hy, hlen⟩
        refine .inr (.inr ⟨v, rows, hv, hy, ?_⟩)
        rw [← hsize v hv]
        exact Int.ofNat_le.mpr hlen
      · rintro (hout | hnp | ⟨v, rows, hv, hy, hlen⟩)
        · exact absurd hn hout
        · rw [hp] at hnp
          cases hnp
        · rw [← hsize v hv] at hlen
          exact ⟨⟨v, hv⟩, rows, hy, Int.ofNat_le.mp hlen⟩
    · have hrun : Stepwise.execFetchQuery count select native =
          .ok (none, DBHANDLER_ERROR_SQL_ERROR) := by
        rw [Stepwise.execFetchQuery]
        simp only [if_neg (Nat.not_lt.mpr hn), if_neg hp]
      refine iff_of_true (safeFetch_of_refused hrun (by decide)) (.inr (.inl ?_))
      exact Bool.eq_false_iff.mpr hp
  · have hrun : Stepwise.execFetchQuery count select native =
        .ok (none, DBHANDLER_ERROR_TOO_MANY_ENTRIES) := if_pos (Nat.not_le.mp hn)
    exact iff_of_true (safeFetch_of_refused hrun (by decide)) (.inl hn)

/-- A row of `tblData`. -/
def sampleRow : Row := ⟨1, ascii "2017-01-01 00:00:00", 20, 50, ascii "attic", ascii "dht11"⟩

/-- The count query finds the database locked, the select query a row. -/
theorem count_failure_overruns :
    ¬ SafeFetch ⟨false, Stream'.const .error⟩ ⟨true, [.row sampleRow] ++ₛ Stream'.const .done⟩
      true := by
  intro h
  exact h.inBounds rfl

end Rpiweatherd
