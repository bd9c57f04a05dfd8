import Rpiweatherd.L3Database.Tables
import Rpiweatherd.L3Listener.FetchErrno

/-!
# Which rows a fetch selects

A row's text is the UTC time of its insert. The bounds of a query are given
in epoch seconds and turned into texts of local time, so every window is
moved by the offset of the zone: `Stray` are the instants that the moved
window treats differently. `fetch on=D` passes through `mktime`, `DAY_START`
and the same conversion; `dayShift` is what their three shifts add up to.
The bounds of `from` and `to` are exclusive when given alone and inclusive
together.

The windows are those of the select query a request leads to; the limit on
the number of rows is not part of it.
-/
namespace Rpiweatherd

/-- A row of `tblData` and the instant it was written at. -/
structure Stamped (dt : SqliteDatetime) where
  instant : Int
  row : Row
  stamp : row.recordDate = dt.now instant

variable {dt : SqliteDatetime}

def rowsOf (table : List (Stamped dt)) : List Row := table.map (·.row)

/-- One message adds at most one row, stamped with its instant. -/
theorem dbTables_stamped (t : Tables) (s : DbStep) {table : List (Stamped dt)}
    (h : t.data = rowsOf table) :
    ∃ new : List (Stamped dt), (dbTables dt t s).data = rowsOf (table ++ new) ∧
      ∀ e ∈ new, e.instant = s.now := by
  rcases dbTables_data dt t s with ⟨e, location, device, -, -, -, -, hdata⟩ | ⟨hdata, -⟩
  · refine ⟨[⟨s.now, ⟨t.lastId + 1, dt.now s.now, e.temperature, e.humidity, location, device⟩,
      rfl⟩], ?_, List.forall_mem_singleton.mpr rfl⟩
    rw [hdata, h]
    simp only [rowsOf, List.map_append, List.map_cons, List.map_nil]
  · refine ⟨[], ?_, fun e he => absurd he List.not_mem_nil⟩
    rw [hdata, h, List.append_nil]

/-- The rows a run adds are stamped with the instants of their writes. -/
theorem foldl_dbTables_stamped (steps : List DbStep) :
    ∀ (t : Tables) (table : List (Stamped dt)), t.data = rowsOf table →
      ∃ new : List (Stamped dt), (steps.foldl (dbTables dt) t).data = rowsOf (table ++ new) ∧
        ∀ e ∈ new, ∃ s ∈ steps, e.instant = s.now := by
  induction steps with
  | nil => exact fun t table h => ⟨[], by rw [List.append_nil]; exact h, by simp⟩
  | cons s steps ih =>
    intro t table h
    obtain ⟨new, hnew, hs⟩ := dbTables_stamped t s h
    obtain ⟨more, hmore, hsteps⟩ := ih _ _ hnew
    refine ⟨new ++ more, by rw [← List.append_assoc]; exact hmore, fun e he => ?_⟩
    rcases List.mem_append.mp he with he | he
    · exact ⟨s, List.mem_cons_self .., hs e he⟩
    · obtain ⟨s', hs', heq⟩ := hsteps e he
      exact ⟨s', List.mem_cons_of_mem _ hs', heq⟩

theorem Stamped.range_iff (e : Stamped dt) (utcoff a b : Int) :
    Sql.selects dt utcoff e.row (.readByDateRange a b) = true ↔
      a + utcoff ≤ e.instant ∧ e.instant ≤ b + utcoff := by
  simp only [Sql.selects, e.stamp, SqliteDatetime.now, SqliteDatetime.localtime, dt.norm_ofEpoch,
    dt.between_ofEpoch]

theorem Stamped.after_iff (e : Stamped dt) (utcoff t : Int) :
    Sql.selects dt utcoff e.row (.readByDate '>' t) = true ↔ t + utcoff < e.instant := by
  simp only [Sql.selects, compareText, e.stamp, SqliteDatetime.now, SqliteDatetime.localtime,
    dt.norm_ofEpoch, dt.lt_iff, decide_eq_true_eq]

theorem Stamped.before_iff (e : Stamped dt) (utcoff t : Int) :
    Sql.selects dt utcoff e.row (.readByDate '<' t) = true ↔ e.instant < t + utcoff := by
  simp only [Sql.selects, compareText, e.stamp, SqliteDatetime.now, SqliteDatetime.localtime,
    dt.norm_ofEpoch, dt.lt_iff, decide_eq_true_eq]

/-- An entry of the table is among the rows a date query picks exactly if
its WHERE clause holds. -/
theorem mem_rows {table : List (Stamped dt)} {e : Stamped dt} (he : e ∈ table) (utcoff : Int)
    {q : Sql} (hq : ∀ n, q ≠ .selectN n) :
    e.row ∈ q.rows dt utcoff (rowsOf table) ↔ q.selects dt utcoff e.row = true := by
  have hmem : e.row ∈ rowsOf table := List.mem_map_of_mem he
  unfold Sql.rows
  split
  · rename_i n
    exact absurd rfl (hq n)
  · simp only [List.mem_filter, hmem, true_and]

/-! ## The window of a range query -/

/-- `s` lies in exactly one of the window `[a, b]` and the one `k` seconds
later. -/
def Stray (a b k s : Int) : Prop := ¬ ((a ≤ s ∧ s ≤ b) ↔ (a + k ≤ s ∧ s ≤ b + k))

theorem not_stray_zero (a b s : Int) : ¬ Stray a b 0 s := by simp [Stray]

/-- **A range query in a zone.** The entries returned are those recorded
between the bounds exactly if no entry strays by the offset. -/
theorem range_returns_iff (dt : SqliteDatetime) (utcoff a b : Int) (table : List (Stamped dt)) :
    (∀ e ∈ table, (e.row ∈ (Sql.readByDateRange a b).rows dt utcoff (rowsOf table) ↔
      a ≤ e.instant ∧ e.instant ≤ b)) ↔ ∀ e ∈ table, ¬ Stray a b utcoff e.instant := by
  apply forall₂_congr
  intro e he
  rw [mem_rows he utcoff (by simp), e.range_iff, Stray, not_not]
  exact Iff.comm

/-- 2017-07-01 10:00:00 UTC -/
def sampleEntry : Stamped gregorian :=
  ⟨1498903200, ⟨1, gregorianText 1498903200, 21, 40, ascii "attic", ascii "dht11"⟩, rfl⟩

/-- Three hours east of Greenwich, the minute an entry was recorded in does
not return it. -/
theorem range_misses_entry :
    sampleEntry.instant - 30 ≤ sampleEntry.instant ∧
      sampleEntry.instant ≤ sampleEntry.instant + 30 ∧
      sampleEntry.row ∉ (Sql.readByDateRange (sampleEntry.instant - 30)
        (sampleEntry.instant + 30)).rows gregorian 10800 (rowsOf [sampleEntry]) := by
  refine ⟨by omega, by omega, ?_⟩
  rw [mem_rows (List.mem_singleton.mpr rfl) _ (by simp), Stamped.range_iff]
  omega

/-! ## From parameters to a query -/

def dateParam (name : String) (value : Bytes) : HttpCmdParam := ⟨some (ascii name), some value⟩

/-- The rows selected for an accepted request; `none` is a refusal. -/
def fetchSelected (dt : SqliteDatetime) (utcoff : Int) (data : List Row) (env : Env)
    (errno : Errno) (msg : RpiwdMqmsg) (params : List HttpCmdParam) : Option (List Row) :=
  match fetchCommandCallback env errno ⟨ascii "fetch", some params⟩ msg with
  | .error _ => none
  | .ok r =>
    if r.code = CALLBACK_RETCODE_SUCCESS then r.msg.fselectq.map (Sql.rows dt utcoff data) else none

section Request
variable (dt : SqliteDatetime) (utcoff : Int) (data : List Row) (env : Env) (errno : Errno)
  (msg : RpiwdMqmsg)

/-- Behind a loop that ran through, the bounds decide. -/
theorem fetchSelected_next {params : List HttpCmdParam} {v : FetchVars}
    (h : fetchLoop env.platform params ⟨0, 0, 0, 0, msg.unitstr, errno⟩ = .ok (.next v)) :
    fetchSelected dt utcoff data env errno msg params =
      (fetchQueries v).map fun q => q.2.rows dt utcoff data := by
  simp only [fetchSelected, fetchCommandCallback, h, Except.map, fetchFinish, gt_iff_lt,
    Int.lt_irrefl, if_false]
  cases fetchQueries v with
  | none => rfl
  | some q => rfl

/-- A loop left early is a refusal. -/
theorem fetchSelected_brk {params : List HttpCmdParam} {v : FetchVars}
    (h : fetchLoop env.platform params ⟨0, 0, 0, 0, msg.unitstr, errno⟩ =
      .ok (.brk CALLBACK_RETCODE_PARAM_ERROR v)) :
    fetchSelected dt utcoff data env errno msg params = none := by
  have hne : CALLBACK_RETCODE_PARAM_ERROR ≠ CALLBACK_RETCODE_SUCCESS := by decide
  have hpos : ¬ CALLBACK_RETCODE_PARAM_ERROR > 0 := by decide
  simp only [fetchSelected, fetchCommandCallback, h, Except.map, fetchFinish, if_neg hpos]
  cases fetchQueries v with
  | none => exact if_neg hne
  | some q => exact if_neg hne

/-- The time a value stands for, zero and -1 being bad values. -/
def dateOk (pf : Platform) (errno : Errno) (value : Bytes) : Prop :=
  (normalizeDate pf errno value).1 ≠ 0 ∧ (normalizeDate pf errno value).1 ≠ -1

instance decidableDateOk (pf : Platform) (errno : Errno) (value : Bytes) :
    Decidable (dateOk pf errno value) := inferInstanceAs (Decidable (_ ∧ _))

/-- What `from` is set to. -/
def fromBound (pf : Platform) (errno : Errno) (value : Bytes) : Int :=
  if (normalizeDate pf errno value).2.1 then dayStart (normalizeDate pf errno value).1
  else (normalizeDate pf errno value).1

/-- What `to` is set to. -/
def toBound (pf : Platform) (errno : Errno) (value : Bytes) : Int :=
  if (normalizeDate pf errno value).2.1 then dayEnd (normalizeDate pf errno value).1
  else (normalizeDate pf errno value).1

theorem fetchDate_bad {pf : Platform} {v : FetchVars} {value : Bytes}
    (h : ¬ dateOk pf v.errno value) (name : Bytes) :
    ∃ v', fetchDate pf v name value = .brk CALLBACK_RETCODE_PARAM_ERROR v' := by
  have hbad : (normalizeDate pf v.errno value).1 = 0 ∨ (normalizeDate pf v.errno value).1 = -1 := by
    unfold dateOk at h
    omega
  exact ⟨_, if_pos hbad⟩

section Date
variable {pf : Platform} {v : FetchVars} {value : Bytes}

/-- A good value sets the variable its parameter is named after. -/
theorem fetchDate_good (h : dateOk pf v.errno value) (name : Bytes) :
    fetchDate pf v name value = .next (
      if name = ascii "from" then { v with fromDate := fromBound pf v.errno value }
      else if name = ascii "to" then { v with toDate := toBound pf v.errno value }
      else { v with on := (normalizeDate pf v.errno value).1 }) := by
  have hgood : ¬ ((normalizeDate pf v.errno value).1 = 0 ∨
      (normalizeDate pf v.errno value).1 = -1) := by
    unfold dateOk at h
    omega
  have he := normalizeDate_errno h.1
  unfold fetchDate
  simp only [he, if_neg hgood]
  by_cases hf : name = ascii "from"
  · simp only [hf, if_true]
    rfl
  · by_cases ht : name = ascii "to"
    · simp only [ht, if_true, if_neg (by decide : ¬ ascii "to" = ascii "from")]
      rfl
    · simp only [if_neg hf, if_neg ht]

theorem fetchParam_dateParam {name : String} (hn : name = "from" ∨ name = "to" ∨ name = "on") :
    fetchParam pf v (dateParam name value) = .ok (fetchDate pf v (ascii name) value) := by
  refine fetchParam_date pf v value ?_
  rcases hn with rfl | rfl | rfl <;> simp

end Date

/-- A request with one date: refused for a bad value, else decided by the
variable it sets. -/
theorem fetchSelected_date {name : String} (hn : name = "from" ∨ name = "to" ∨ name = "on")
    (value : Bytes) :
    fetchSelected dt utcoff data env errno msg [dateParam name value] =
      if dateOk env.platform errno value then
        (fetchQueries (
          if ascii name = ascii "from" then
            ⟨fromBound env.platform errno value, 0, 0, 0, msg.unitstr, errno⟩
          else if ascii name = ascii "to" then
            ⟨0, toBound env.platform errno value, 0, 0, msg.unitstr, errno⟩
          else ⟨0, 0, (normalizeDate env.platform errno value).1, 0, msg.unitstr, errno⟩)).map
            fun q => q.2.rows dt utcoff data
      else none := by
  by_cases h : dateOk env.platform errno value
  · rw [if_pos h]
    have hgood := fetchDate_good (v := ⟨0, 0, 0, 0, msg.unitstr, errno⟩) h (ascii name)
    apply fetchSelected_next
    simp only [fetchLoop, fetchParam_dateParam hn, hgood]
  · rw [if_neg h]
    obtain ⟨v', hv⟩ := fetchDate_bad (v := ⟨0, 0, 0, 0, msg.unitstr, errno⟩) h (ascii name)
    apply fetchSelected_brk (v := v')
    simp only [fetchLoop, fetchParam_dateParam hn, hv]

variable {dt utcoff data env errno msg}

/-- `from` alone: later than its bound. -/
theorem fetch_from_iff {a : Bytes} {A : List Row} :
    fetchSelected dt utcoff data env errno msg [dateParam "from" a] = some A ↔
      dateOk env.platform errno a ∧ fromBound env.platform errno a ≠ 0 ∧
        A = (Sql.readByDate '>' (fromBound env.platform errno a)).rows dt utcoff data := by
  rw [fetchSelected_date _ _ _ _ _ _ (.inl rfl), if_pos rfl]
  by_cases hok : dateOk env.platform errno a
  · by_cases h0 : fromBound env.platform errno a = 0
    · simp [fetchQueries, h0]
    · simp only [fetchQueries, ne_eq, hok, h0, not_false_eq_true, and_self, if_true,
        Option.map_some, Option.some.injEq, true_and]
      exact eq_comm
  · simp [hok]

/-- `to` alone: earlier than its bound. -/
theorem fetch_to_iff {b : Bytes} {B : List Row} :
    fetchSelected dt utcoff data env errno msg [dateParam "to" b] = some B ↔
      dateOk env.platform errno b ∧ toBound env.platform errno b ≠ 0 ∧
        B = (Sql.readByDate '<' (toBound env.platform errno b)).rows dt utcoff data := by
  have hne : ¬ ascii "to" = ascii "from" := by decide
  rw [fetchSelected_date _ _ _ _ _ _ (.inr (.inl rfl)), if_neg hne, if_pos rfl]
  by_cases hok : dateOk env.platform errno b
  · by_cases h0 : toBound env.platform errno b = 0
    · simp [fetchQueries, h0]
    · simp only [fetchQueries, ne_eq, hok, h0, not_true_eq_false, not_false_eq_true, and_self,
        and_true, and_false, false_and, if_true, if_false, Option.map_some, Option.some.injEq,
        true_and]
      exact eq_comm
  · simp [hok]

/-- `on` alone: the day of its time, as `DAY_START` and `DAY_END` see it. -/
theorem fetch_on_iff {value : Bytes} {R : List Row} :
    fetchSelected dt utcoff data env errno msg [dateParam "on" value] = some R ↔
      dateOk env.platform errno value ∧
        R = (Sql.readByDateRange (dayStart (normalizeDate env.platform errno value).1)
          (dayEnd (normalizeDate env.platform errno value).1)).rows dt utcoff data := by
  have hne : ¬ ascii "on" = ascii "from" ∧ ¬ ascii "on" = ascii "to" := by decide
  rw [fetchSelected_date _ _ _ _ _ _ (.inr (.inr rfl)), if_neg hne.1, if_neg hne.2]
  by_cases hok : dateOk env.platform errno value
  · simp only [fetchQueries, ne_eq, hok, hok.1, not_true_eq_false, not_false_eq_true, and_self,
      and_true, and_false, false_and, if_true, if_false, Option.map_some, Option.some.injEq,
      true_and]
    exact eq_comm
  · simp [hok]

/-- Both together: between the bounds, which are included. -/
theorem fetch_range_accepted {a b : Bytes} (ha : dateOk env.platform errno a)
    (hb : dateOk env.platform errno b) (hF : fromBound env.platform errno a ≠ 0)
    (hT : toBound env.platform errno b ≠ 0) :
    fetchSelected dt utcoff data env errno msg [dateParam "from" a, dateParam "to" b] =
      some ((Sql.readByDateRange (fromBound env.platform errno a)
        (toBound env.platform errno b)).rows dt utcoff data) := by
  have hfrom := fetchDate_good (v := ⟨0, 0, 0, 0, msg.unitstr, errno⟩) ha (ascii "from")
  have hto := fetchDate_good
    (v := ⟨fromBound env.platform errno a, 0, 0, 0, msg.unitstr, errno⟩) hb (ascii "to")
  rw [if_pos rfl] at hfrom
  rw [if_neg (by decide), if_pos rfl] at hto
  rw [fetchSelected_next (v := ⟨fromBound env.platform errno a, toBound env.platform errno b, 0, 0,
    msg.unitstr, errno⟩)]
  · simp only [fetchQueries, ne_eq, hF, hT, not_false_eq_true, and_self, and_true, and_false,
      false_and, if_true, if_false, Option.map_some]
  · simp only [fetchLoop, fetchParam_dateParam (.inl rfl), fetchParam_dateParam (.inr (.inl rfl)), hfrom, hto]

/-- Recorded in the second of one of two bounds that are in order. -/
def OnBound (F T s : Int) : Prop := F ≤ T ∧ (s = F ∨ s = T)

/-- **The three forms of fetch.** For accepted values the range is the
intersection of its two halves exactly if no entry was recorded in the
second of a bound. -/
theorem fetch_range_inter_iff (table : List (Stamped dt)) (a b : Bytes) (A B : List Row)
    (hA : fetchSelected dt utcoff (rowsOf table) env errno msg [dateParam "from" a] = some A)
    (hB : fetchSelected dt utcoff (rowsOf table) env errno msg [dateParam "to" b] = some B) :
    (∃ R, fetchSelected dt utcoff (rowsOf table) env errno msg
        [dateParam "from" a, dateParam "to" b] = some R ∧ ∀ r, r ∈ R ↔ r ∈ A ∧ r ∈ B) ↔
      ∀ e ∈ table, ¬ OnBound (fromBound env.platform errno a + utcoff)
        (toBound env.platform errno b + utcoff) e.instant := by
  obtain ⟨ha, hF, rfl⟩ := fetch_from_iff.mp hA
  obtain ⟨hb, hT, rfl⟩ := fetch_to_iff.mp hB
  rw [fetch_range_accepted ha hb hF hT]
  generalize fromBound env.platform errno a = F
  generalize toBound env.platform errno b = T
  simp only [Option.some.injEq, exists_eq_left']
  have hrow : ∀ e ∈ table,
      ((e.row ∈ (Sql.readByDateRange F T).rows dt utcoff (rowsOf table) ↔
        e.row ∈ (Sql.readByDate '>' F).rows dt utcoff (rowsOf table) ∧
          e.row ∈ (Sql.readByDate '<' T).rows dt utcoff (rowsOf table)) ↔
        ¬ OnBound (F + utcoff) (T + utcoff) e.instant) := by
    intro e he
    rw [mem_rows he utcoff (by simp), mem_rows he utcoff (by simp), mem_rows he utcoff (by simp),
      e.range_iff, e.after_iff, e.before_iff, OnBound]
    omega
  constructor
  · exact fun h e he => (hrow e he).mp (h e.row)
  · intro h r
    by_cases hr : r ∈ rowsOf table
    · obtain ⟨e, he, rfl⟩ := List.mem_map.mp hr
      exact (hrow e he).mpr (h e he)
    · -- a row that is not in the table is in none of the three
      have hsub : ∀ q : Sql, (∀ n, q ≠ .selectN n) → r ∉ q.rows dt utcoff (rowsOf table) := by
        intro q hq hmem
        unfold Sql.rows at hmem
        split at hmem
        · rename_i n
          exact hq n rfl
        · exact hr (List.mem_of_mem_filter hmem)
      exact iff_of_false (hsub _ (by simp)) fun h => hsub _ (by simp) h.1

end Request

/-- The clock stands at `t`. -/
def clockEnv (t : Int) : Env :=
  { (default : Env) with platform := { (default : Env).platform with time := t } }

/-- 2017-07-01 00:00:00 UTC -/
def midnightEntry : Stamped gregorian :=
  ⟨1498867200, ⟨1, gregorianText 1498867200, 18, 45, ascii "attic", ascii "dht11"⟩, rfl⟩

section Sample

/-- The three requests with `now` for both bounds, at ten in the morning. -/
def sampleSelected (e : Stamped gregorian) (params : List HttpCmdParam) : Option (List Row) :=
  fetchSelected gregorian 0 (rowsOf [e]) (clockEnv 1498903200) 0 default params

theorem sampleSelected_from (e : Stamped gregorian) :
    sampleSelected e [dateParam "from" (ascii "now")] =
      some ((Sql.readByDate '>' 1498867200).rows gregorian 0 (rowsOf [e])) :=
  fetch_from_iff.mpr ⟨by decide, by decide, rfl⟩

theorem sampleSelected_to (e : Stamped gregorian) :
    sampleSelected e [dateParam "to" (ascii "now")] =
      some ((Sql.readByDate '<' 1498953599).rows gregorian 0 (rowsOf [e])) :=
  fetch_to_iff.mpr ⟨by decide, by decide, rfl⟩

theorem sampleSelected_range (e : Stamped gregorian) :
    sampleSelected e [dateParam "from" (ascii "now"), dateParam "to" (ascii "now")] =
      some ((Sql.readByDateRange 1498867200 1498953599).rows gregorian 0 (rowsOf [e])) :=
  fetch_range_accepted (by decide) (by decide) (by decide) (by decide)

end Sample

/-- At ten in the morning the two halves agree with the whole. -/
theorem fetch_range_inter_sample :
    ∃ R, sampleSelected sampleEntry [dateParam "from" (ascii "now"), dateParam "to" (ascii "now")] =
      some R ∧ ∀ r, r ∈ R ↔
        r ∈ (Sql.readByDate '>' 1498867200).rows gregorian 0 (rowsOf [sampleEntry]) ∧
        r ∈ (Sql.readByDate '<' 1498953599).rows gregorian 0 (rowsOf [sampleEntry]) := by
  refine (fetch_range_inter_iff [sampleEntry] _ _ _ _ (sampleSelected_from _)
    (sampleSelected_to _)).mpr (List.forall_mem_singleton.mpr ?_)
  rintro ⟨-, h | h⟩
  · exact absurd h (by decide)
  · exact absurd h (by decide)

/-- An entry of the day's first second is in the range and not in its lower
half. -/
theorem fetch_range_adds_bound :
    ∃ R A B, sampleSelected midnightEntry
        [dateParam "from" (ascii "now"), dateParam "to" (ascii "now")] = some R ∧
      sampleSelected midnightEntry [dateParam "from" (ascii "now")] = some A ∧
      sampleSelected midnightEntry [dateParam "to" (ascii "now")] = some B ∧
      midnightEntry.row ∈ R ∧ ¬ (midnightEntry.row ∈ A ∧ midnightEntry.row ∈ B) := by
  refine ⟨_, _, _, sampleSelected_range _, sampleSelected_from _, sampleSelected_to _, ?_, ?_⟩
  · rw [mem_rows (List.mem_singleton.mpr rfl) _ (by simp), Stamped.range_iff]
    decide
  · rintro ⟨h, -⟩
    rw [mem_rows (List.mem_singleton.mpr rfl) _ (by simp), Stamped.after_iff] at h
    exact absurd h (by decide)

end Rpiweatherd
