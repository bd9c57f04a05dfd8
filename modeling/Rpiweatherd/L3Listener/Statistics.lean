import Rpiweatherd.L3Database.Fetch
import Rpiweatherd.L3Listener.Worker

/-!
# The `statistics` command when SQLite fails

A worker counts the rows of `tblStats` to size the list of the reply and puts
five values of the system into it (`src/listener.c:593-639`). The database
thread counts the rows again for a list of its own, fills that from a select
query and appends it (`src/dbhandler.c:128-147,328-370`).

Nobody looks at the outcome: a failed count is a zero, a full list refuses
pairs with a -1 that is compared with 0, and `errcode < 0` compares the
pointer. So the return code stays what it was and the reply is a document,
whatever is missing from it; with more than 2048 rows the list is NULL and
read all the same. `statistics_answered_iff` says when the reply is complete.
-/
namespace Rpiweatherd

/-- `DISPLAY_NAME` and `VALUE` of the rows of `tblStats`, as
`sqlite3_column_text` returns them. -/
abbrev StatsTable := List (Bytes × Bytes)

/-- How the calls of SQLite come out: the count query of the worker, that of
the database thread, the preparation of the select query, and the number of
rows before a step fails. -/
structure StatsOutcomes where
  workerCounts : Bool
  dbCounts : Bool
  prepared : Bool
  failsAfter : Option Nat

namespace StatsOutcomes

def countColumn (ok : Bool) (table : StatsTable) : Nat := if ok then columnSize table.length else 0

/-- The worker's environment. -/
def env (o : StatsOutcomes) (table : StatsTable) (env : Env) : Env :=
  { env with statsCount := countColumn o.workerCounts table }

/-- How many rows the select loop gets to see. -/
def rowsSeen (o : StatsOutcomes) (table : StatsTable) : Nat :=
  if o.prepared then o.failsAfter.getD table.length else 0

def asPairs (table : StatsTable) : List (Option Bytes × Option Bytes) :=
  table.map fun row => (some row.1, some row.2)

/-- What the database thread gets from SQLite. -/
def db (o : StatsOutcomes) (table : StatsTable) : Db where
  count _ := countColumn o.dbCounts table
  rows _ := none
  pairs _ := if o.prepared then some (asPairs (table.take (o.rowsSeen table))) else none

/-- Every row of the table is returned. -/
def ReturnsAll (o : StatsOutcomes) (table : StatsTable) : Prop :=
  o.prepared = true ∧ ∀ k ∈ o.failsAfter, table.length ≤ k

end StatsOutcomes

open StatsOutcomes

/-! ## The list of the reply -/

/-- The five values the worker adds. -/
def systemValues (env : Env) : List (Option Bytes × Option Bytes) :=
  [(some (ascii "hostname"), some env.hostname), (some (ascii "version"), some env.version),
    (some (ascii "uptime"), some env.uptime), (some (ascii "freeram"), some env.freeram),
    (some (ascii "freedisk"), some env.freedisk)]

/-- What the callback returns: a refusal of parameters, or the list with the
five values on its way to the database thread. -/
theorem statisticsCommandCallback_cases {env : Env} {errno : Errno} {params : HttpCmd}
    {msg : RpiwdMqmsg} {r : CallbackResult}
    (h : statisticsCommandCallback env errno params msg = .ok r) :
    (0 < params.length ∧ r.code ≠ CALLBACK_RETCODE_SUCCESS) ∨
      (params.length = 0 ∧ r.code = CALLBACK_RETCODE_SUCCESS ∧ r.msg.mtype = .stats ∧
        r.msg.data = some (.keyValues (emplaceAll
          (keyValueListAlloc (env.statsCount + STATS_EXTRA_STATS_COUNT)) (systemValues env)))) := by
  unfold statisticsCommandCallback at h
  split at h
  · rename_i hlen
    have hne : CALLBACK_RETCODE_NO_PARAMS_NEEDED ≠ CALLBACK_RETCODE_SUCCESS := by decide
    cases h
    exact .inl ⟨hlen, hne⟩
  · cases h
    exact .inr ⟨by omega, rfl, rfl, rfl⟩

theorem statisticsCommandCallback_isOk (env : Env) (errno : Errno) (params : HttpCmd)
    (msg : RpiwdMqmsg) : ∃ r, statisticsCommandCallback env errno params msg = .ok r := by
  unfold statisticsCommandCallback
  split <;> exact ⟨_, rfl⟩

/-- The database thread's round on such a message: a NULL list is read, or
the pairs it got are appended and nothing else changes. -/
theorem dbProcess_stats (db : Db) {msg : RpiwdMqmsg} {d : KeyValueList} (ht : msg.mtype = .stats)
    (hd : msg.data = some (.keyValues d)) :
    dbProcess db msg =
      if db.count msg.fcountq > DBHANDLER_MAX_FETCHED_ENTRIES then .error .nullDeref
      else .ok (some { msg with
        data := some (.keyValues (emplaceAll d
          (((db.pairs msg.fselectq).getD []).take (db.count msg.fcountq))))
        isCompleted := true }) := by
  have hpairs := emplaceAll_pairs ((db.pairs msg.fselectq).getD [])
    (keyValueListAlloc (db.count msg.fcountq))
  simp only [keyValueListAlloc, List.nil_append, List.length_nil, Nat.sub_zero] at hpairs
  unfold dbProcess execKeyValueQuery
  simp only [ht]
  split
  · rfl
  · simp only [deref, Except.bind, keyValueListAlloc, hpairs, hd, asKeyValues, Except.map]
    split
    · rename_i hnil
      rw [hnil]
      rfl
    · rfl

/-- Pairs put behind others that just fit. -/
theorem emplaceAll_behind (room : Nat) (ps qs : List (Option Bytes × Option Bytes)) :
    (emplaceAll (emplaceAll (keyValueListAlloc (room + ps.length)) ps) qs).pairs =
      ps ++ qs.take room := by
  have hfits : (emplaceAll (keyValueListAlloc (room + ps.length)) ps).pairs = ps := by
    rw [emplaceAll_pairs]
    exact List.take_of_length_le (Nat.le_add_left ..)
  rw [emplaceAll_pairs, emplaceAll_capacity, hfits, keyValueListAlloc, Nat.add_sub_cancel]

/-- The completed message is answered with its list. -/
theorem handleCompleted_stats (env : Env) (l : Locals) {msg : RpiwdMqmsg} {d : KeyValueList}
    (ht : msg.mtype = .stats) (hd : msg.data = some (.keyValues d)) :
    ∃ l', handleCompleted env l msg =
      .ok (.reply ⟨HTTP_CODE_OK, .document (.keyValues d) none⟩, l') := by
  simp only [handleCompleted, jsonValue, ht, hd, asKeyValues, Except.map]
  exact ⟨_, rfl⟩

/-! ## Complete or an error -/

def Outcome.IsErrorReply (out : Outcome) : Prop := ∃ r, out = .reply r ∧ r.code ≠ HTTP_CODE_OK

/-- What is asked of a request the callback accepts: both threads return, and
the list has the five values and every row, or the message has a negative
return code and the client gets an error. -/
def StatisticsAnswered (env : Env) (errno : Errno) (params : HttpCmd) (msg : RpiwdMqmsg)
    (l : Locals) (table : StatsTable) (o : StatsOutcomes) : Prop :=
  ∀ r, statisticsCommandCallback (o.env table env) errno params msg = .ok r →
    r.code = CALLBACK_RETCODE_SUCCESS →
    ∃ m out l', dbProcess (o.db table) r.msg = .ok (some m) ∧
      handleCompleted env l m = .ok (out, l') ∧
      ((∃ list, m.data = some (.keyValues list) ∧
          list.pairs = systemValues env ++ asPairs table) ∨
        (m.retcode < 0 ∧ out.IsErrorReply))

/-- The pairs of the reply: the rows both counts have room for. -/
def replyPairs (env : Env) (table : StatsTable) (o : StatsOutcomes) :
    List (Option Bytes × Option Bytes) :=
  systemValues env ++
    ((((o.db table).pairs none).getD []).take (countColumn o.dbCounts table)).take
      (countColumn o.workerCounts table)

/-- What the database thread does with an accepted request. -/
theorem dbProcess_statistics {env : Env} {errno : Errno} {params : HttpCmd} {msg : RpiwdMqmsg}
    {table : StatsTable} {o : StatsOutcomes} {r : CallbackResult}
    (h : statisticsCommandCallback (o.env table env) errno params msg = .ok r)
    (hcode : r.code = CALLBACK_RETCODE_SUCCESS) :
    (DBHANDLER_MAX_FETCHED_ENTRIES < countColumn o.dbCounts table ∧
        dbProcess (o.db table) r.msg = .error .nullDeref) ∨
      (countColumn o.dbCounts table ≤ DBHANDLER_MAX_FETCHED_ENTRIES ∧
        ∃ m list, dbProcess (o.db table) r.msg = .ok (some m) ∧ m.mtype = .stats ∧
          m.data = some (.keyValues list) ∧ list.pairs = replyPairs env table o) := by
  obtain ⟨-, hne⟩ | ⟨-, -, ht, hd⟩ := statisticsCommandCallback_cases h
  · exact absurd hcode hne
  · have hrun := dbProcess_stats (o.db table) ht hd
    by_cases hmany : DBHANDLER_MAX_FETCHED_ENTRIES < countColumn o.dbCounts table
    · exact .inl ⟨hmany, hrun.trans (if_pos hmany)⟩
    · refine .inr ⟨Nat.not_lt.mp hmany, _, _, hrun.trans (if_neg hmany), ht, rfl, ?_⟩
      exact emplaceAll_behind (countColumn o.workerCounts table) (systemValues env) _

/-- An accepted request is answered with these pairs, and never with an
error. -/
theorem statisticsAnswered_iff_pairs {env : Env} {errno : Errno} {params : HttpCmd}
    {msg : RpiwdMqmsg} {l : Locals} {table : StatsTable} {o : StatsOutcomes}
    (hparams : params.length = 0) :
    StatisticsAnswered env errno params msg l table o ↔
      countColumn o.dbCounts table ≤ DBHANDLER_MAX_FETCHED_ENTRIES ∧
        replyPairs env table o = systemValues env ++ asPairs table := by
  obtain ⟨r, hr⟩ := statisticsCommandCallback_isOk (o.env table env) errno params msg
  have hcode : r.code = CALLBACK_RETCODE_SUCCESS := by
    obtain ⟨hpos, -⟩ | ⟨-, hcode, -⟩ := statisticsCommandCallback_cases hr
    · omega
    · exact hcode
  obtain ⟨hmany, hfault⟩ | ⟨hfew, m, list, hm, ht, hd, hpairs⟩ := dbProcess_statistics hr hcode
  · refine iff_of_false (fun h => ?_) fun h => absurd h.1 (Nat.not_le.mpr hmany)
    obtain ⟨m, out, l', hm, -⟩ := h r hr hcode
    rw [hfault] at hm
    cases hm
  · obtain ⟨l', hreply⟩ := handleCompleted_stats env l ht hd
    constructor
    · intro h
      obtain ⟨m', out, l'', hm', hout, hor⟩ := h r hr hcode
      obtain rfl : m = m' := Option.some.inj (Except.ok.inj (hm.symm.trans hm'))
      refine ⟨hfew, ?_⟩
      rcases hor with ⟨list', hd', hpairs'⟩ | ⟨-, rep, hrep, hne⟩
      · cases hd.symm.trans hd'
        exact hpairs.symm.trans hpairs'
      · -- the reply is a document
        rw [hreply] at hout
        cases hout
        cases hrep
        exact absurd rfl hne
    · rintro ⟨-, hall⟩ r' hr' -
      obtain rfl : r = r' := Except.ok.inj (hr.symm.trans hr')
      exact ⟨m, _, l', hm, hreply, .inl ⟨list, hd, hpairs.trans hall⟩⟩

/-! ## When nothing is missing -/

/-- The rows of the reply. -/
theorem replyPairs_eq (env : Env) (table : StatsTable) (o : StatsOutcomes) :
    replyPairs env table o = systemValues env ++ asPairs (table.take
      (min (countColumn o.workerCounts table)
        (min (countColumn o.dbCounts table) (o.rowsSeen table)))) := by
  have hseen : ((o.db table).pairs none).getD [] = asPairs (table.take (o.rowsSeen table)) := by
    unfold StatsOutcomes.db StatsOutcomes.rowsSeen
    cases o.prepared with
    | true => rfl
    | false => rfl
  rw [replyPairs, hseen, asPairs, ← List.map_take, ← List.map_take, List.take_take, List.take_take,
    min_assoc, asPairs]

theorem replyPairs_complete_iff (env : Env) (table : StatsTable) (o : StatsOutcomes) :
    replyPairs env table o = systemValues env ++ asPairs table ↔
      table.length ≤ countColumn o.workerCounts table ∧
        table.length ≤ countColumn o.dbCounts table ∧ table.length ≤ o.rowsSeen table := by
  rw [replyPairs_eq, List.append_cancel_left_eq, ← le_min_iff, ← le_min_iff,
    ← List.take_eq_self_iff]
  constructor
  · intro h
    have hlen : (asPairs (table.take _)).length = (asPairs table).length := congrArg List.length h
    rw [asPairs, asPairs, List.length_map, List.length_map] at hlen
    exact (List.take_prefix ..).eq_of_length hlen
  · intro h
    rw [h]

theorem le_rowsSeen_iff {table : StatsTable} (o : StatsOutcomes) (h : table ≠ []) :
    table.length ≤ o.rowsSeen table ↔ o.ReturnsAll table := by
  unfold StatsOutcomes.rowsSeen StatsOutcomes.ReturnsAll
  cases o.prepared with
  | false => simpa using h
  | true =>
    cases o.failsAfter with
    | none => simp
    | some k => simp

/-- Within the limit, a count covers the rows if it succeeds. -/
theorem le_countColumn_iff {table : StatsTable} {ok : Bool} (h : table ≠ [])
    (hmax : table.length ≤ DBHANDLER_MAX_FETCHED_ENTRIES) :
    table.length ≤ countColumn ok table ↔ ok = true := by
  unfold countColumn
  cases ok with
  | false => simpa using h
  | true => simp [columnSize_of_le hmax]

theorem countColumn_le {table : StatsTable} (ok : Bool)
    (hmax : table.length ≤ DBHANDLER_MAX_FETCHED_ENTRIES) :
    countColumn ok table ≤ DBHANDLER_MAX_FETCHED_ENTRIES := by
  unfold countColumn
  split
  · rw [columnSize_of_le hmax]
    exact hmax
  · exact Nat.zero_le _

/-- **Statistics are complete** exactly if the table is empty, or has at most
2048 rows, both counts succeed and the select query returns every row; or if
the callback refuses the request for its parameters. -/
theorem statistics_answered_iff (env : Env) (errno : Errno) (params : HttpCmd) (msg : RpiwdMqmsg)
    (l : Locals) (table : StatsTable) (o : StatsOutcomes) :
    StatisticsAnswered env errno params msg l table o ↔
      0 < params.length ∨ table = [] ∨
        (table.length ≤ DBHANDLER_MAX_FETCHED_ENTRIES ∧ o.workerCounts = true ∧
          o.dbCounts = true ∧ o.ReturnsAll table) := by
  by_cases hparams : params.length = 0
  · rw [statisticsAnswered_iff_pairs hparams, replyPairs_complete_iff]
    by_cases hnil : table = []
    · refine iff_of_true ⟨?_, ?_⟩ (.inr (.inl hnil))
      · exact countColumn_le _ (by rw [hnil]; exact Nat.zero_le _)
      · rw [hnil]
        exact ⟨Nat.zero_le _, Nat.zero_le _, Nat.zero_le _⟩
    · rw [le_rowsSeen_iff o hnil]
      constructor
      · rintro ⟨hmax, hworker, hdb, hall⟩
        have hlen := hdb.trans hmax
        exact .inr (.inr ⟨hlen, (le_countColumn_iff hnil hlen).mp hworker,
          (le_countColumn_iff hnil hlen).mp hdb, hall⟩)
      · rintro (h | h | ⟨hlen, hworker, hdb, hall⟩)
        · omega
        · exact absurd h hnil
        · exact ⟨countColumn_le _ hlen, (le_countColumn_iff hnil hlen).mpr hworker,
            (le_countColumn_iff hnil hlen).mpr hdb, hall⟩
  · refine iff_of_true (fun r hr hcode => ?_) (.inl (Nat.pos_of_ne_zero hparams))
    obtain ⟨-, hne⟩ | ⟨hzero, -⟩ := statisticsCommandCallback_cases hr
    · exact absurd hcode hne
    · exact absurd hzero hparams

/-- The table as the daemon sets it up. -/
def initialStats : StatsTable :=
  [(ascii "Total count of requests", ascii "0"), (ascii "Total count of entries", ascii "0")]

/-- The database thread's count query fails: both rows are missing from the
reply. -/
theorem stats_rows_dropped :
    ¬ StatisticsAnswered default 0 ⟨ascii "statistics", none⟩ default .start initialStats
      ⟨true, false, true, none⟩ := by
  rw [statisticsAnswered_iff_pairs rfl, replyPairs_complete_iff]
  decide

end Rpiweatherd
