import Rpiweatherd.Loops
import Rpiweatherd.L3Listener.Callbacks
import Rpiweatherd.L3Device.Dht11

/-!
# A round of the query loop (`src/rpiweatherd.c:113-169`)

`query_loop` asks the device for measurements until it gets some or has used
up its attempts; then the triggers are executed if `ok_flag` is set. The flag
is also set by a memory error, which brings no measurements, and a code
without a case of its own is neither a success nor an attempt. So a round is
bounded and acts on measurements only for the sequences of codes in
`bounded_round_iff`. The DHT11 driver returns no other codes than those for
which it always is (`dht11_round_bounded`).
-/
namespace Rpiweatherd

def RPIWD_DEVRETCODE_DEVICE_FAILURE : Int := -1
def RPIWD_DEVRETCODE_GENERAL_FAILURE : Int := -3
def RPIWD_DEVRETCODE_UNIT_ERROR : Int := -5

def ATTEMPT_LOG_THRESHOLD : Nat := 5

/-- What the `k`-th query of a round returns, and what it leaves in `results`. -/
abbrev DeviceAnswers := Nat → Int × Measurements

/-- What a round asks of the rest of the daemon. -/
inductive QueryCall where
  | requestWriteEntry (temperature humidity : ℚ) (location deviceName : Option Bytes)
  | triggerExec (results : Measurements)

/-- What it logs, with the arguments of the format. -/
inductive QueryLog where
  | failedToQuery (deviceName : Option Bytes) (qattempts maxAttempts : Nat)
  | outOfMemory
  | errorCode (retflag : Int)

/-- `queries` counts the calls of `device_query_current`. -/
structure QueryState where
  okFlag : Bool
  qattempts : Nat
  results : Measurements
  queries : Nat
  calls : List QueryCall
  log : List QueryLog

/-- The codes that count as an attempt. -/
def IsFailure (retflag : Int) : Prop :=
  retflag = RPIWD_DEVRETCODE_DEVICE_FAILURE ∨ retflag = RPIWD_DEVRETCODE_DATA_FAILURE ∨
    retflag = RPIWD_DEVRETCODE_GENERAL_FAILURE

instance decidableIsFailure (retflag : Int) : Decidable (IsFailure retflag) :=
  inferInstanceAs (Decidable (_ ∨ _ ∨ _))

def writeCall (config : RpiwdConfig) (results : Measurements) : QueryCall :=
  .requestWriteEntry (results temperatureAt) (results humidityAt)
    config.measureLocation config.deviceName

/-- The `switch`. mirrors src/rpiweatherd.c:128-159 -/
def handleRetflag (config : RpiwdConfig) (retflag : Int) (st : QueryState) : QueryState :=
  if retflag = RPIWD_DEVRETCODE_SUCCESS then
    { st with
      calls := st.calls ++ [writeCall config st.results]
      okFlag := true
      qattempts := 0 }
  else if IsFailure retflag then
    { st with
      log :=
        if st.qattempts % ATTEMPT_LOG_THRESHOLD = 0 then
          st.log ++ [.failedToQuery config.deviceName st.qattempts CONFIG_MAX_QUERY_ATTEMPTS]
        else st.log
      qattempts := st.qattempts + 1 }
  else if retflag = RPIWD_DEVRETCODE_MEMORY_ERROR then
    { st with
      log := st.log ++ [.outOfMemory]
      okFlag := true }
  else { st with log := st.log ++ [.errorCode retflag] }

/-- mirrors src/rpiweatherd.c:124-160 -/
def queryWhile (config : RpiwdConfig) (answers : DeviceAnswers) : WhileLoop QueryState where
  test st := !st.okFlag && st.qattempts < CONFIG_MAX_QUERY_ATTEMPTS
  body k st :=
    handleRetflag config (answers k).1
      { st with
        results := (answers k).2
        queries := st.queries + 1 }

/-- mirrors src/rpiweatherd.c:119-121 -/
def QueryState.start (results : Measurements) : QueryState := ⟨false, 0, results, 0, [], []⟩

/-- mirrors src/rpiweatherd.c:168-169 -/
def QueryState.execTriggers (st : QueryState) : QueryState :=
  if st.okFlag then { st with calls := st.calls ++ [.triggerExec st.results] } else st

/-- A round; `none` means that it takes more than `fuel` tests of the loop. -/
def queryRound (config : RpiwdConfig) (answers : DeviceAnswers) (results : Measurements)
    (fuel : Nat) : Option QueryState :=
  ((queryWhile config answers).run fuel 0 (.start results)).map QueryState.execTriggers

def QueryState.writes (st : QueryState) : Nat :=
  st.calls.countP fun
    | .requestWriteEntry .. => true
    | .triggerExec _ => false

def QueryState.Triggers (st : QueryState) : Prop := ∃ m, .triggerExec m ∈ st.calls

/-- One of the first `n` queries succeeded. -/
def Succeeded (answers : DeviceAnswers) (n : Nat) : Prop :=
  ∃ k < n, (answers k).1 = RPIWD_DEVRETCODE_SUCCESS

/-- The round ends within its attempts, writes what it measured once and
executes the triggers if it measured something. -/
def BoundedRound (config : RpiwdConfig) (answers : DeviceAnswers) (results : Measurements) : Prop :=
  ∃ fuel st, queryRound config answers results fuel = some st ∧
    st.queries ≤ CONFIG_MAX_QUERY_ATTEMPTS ∧
    (Succeeded answers st.queries → st.writes = 1) ∧
    (¬ Succeeded answers st.queries → st.writes = 0) ∧
    (st.Triggers ↔ Succeeded answers st.queries)

section
variable {config : RpiwdConfig} {answers : DeviceAnswers} {results : Measurements}

/-! ## One query -/

/-- None of the first `n` codes sets `ok_flag`. -/
def Retried (answers : DeviceAnswers) (n : Nat) : Prop :=
  ∀ k < n, (answers k).1 ≠ RPIWD_DEVRETCODE_SUCCESS ∧ (answers k).1 ≠ RPIWD_DEVRETCODE_MEMORY_ERROR

/-- The failures among the first `n` codes. -/
def failures (answers : DeviceAnswers) (n : Nat) : Nat :=
  Nat.count (fun k => IsFailure (answers k).1) n

/-- The state before the query `n`. -/
structure Retrying (answers : DeviceAnswers) (n : Nat) (st : QueryState) : Prop where
  okFlag : st.okFlag = false
  qattempts : st.qattempts = failures answers n
  queries : st.queries = n
  calls : st.calls = []

/-- The state after the query `n` set `ok_flag`. -/
structure Stopped (answers : DeviceAnswers) (n : Nat) (calls : List QueryCall) (st : QueryState) :
    Prop where
  okFlag : st.okFlag = true
  results : st.results = (answers n).2
  queries : st.queries = n + 1
  calls : st.calls = calls

/-- A query that does not set `ok_flag` counts if it is a failure. -/
theorem Retrying.retry {n : Nat} {st : QueryState} (h : Retrying answers n st)
    (hsuccess : (answers n).1 ≠ RPIWD_DEVRETCODE_SUCCESS)
    (hmemory : (answers n).1 ≠ RPIWD_DEVRETCODE_MEMORY_ERROR) :
    Retrying answers (n + 1) ((queryWhile config answers).body n st) := by
  obtain ⟨hflag, hattempts, hqueries, hcalls⟩ := h
  have hcount : failures answers (n + 1) =
      failures answers n + if IsFailure (answers n).1 then 1 else 0 := Nat.count_succ _ n
  simp only [queryWhile, handleRetflag, if_neg hsuccess, if_neg hmemory]
  by_cases hfail : IsFailure (answers n).1
  · rw [if_pos hfail] at hcount ⊢
    exact ⟨hflag, by rw [hcount, hattempts], by rw [hqueries], hcalls⟩
  · rw [if_neg hfail] at hcount ⊢
    exact ⟨hflag, hattempts.trans hcount.symm, by rw [hqueries], hcalls⟩

theorem Retrying.success {n : Nat} {st : QueryState} (h : Retrying answers n st)
    (hsuccess : (answers n).1 = RPIWD_DEVRETCODE_SUCCESS) :
    Stopped answers n [writeCall config (answers n).2] ((queryWhile config answers).body n st) := by
  simp only [queryWhile, handleRetflag, if_pos hsuccess]
  exact ⟨rfl, rfl, congrArg (· + 1) h.queries, by rw [h.calls]; rfl⟩

theorem Retrying.memoryError {n : Nat} {st : QueryState} (h : Retrying answers n st)
    (hmemory : (answers n).1 = RPIWD_DEVRETCODE_MEMORY_ERROR) :
    Stopped answers n [] ((queryWhile config answers).body n st) := by
  have hsuccess : RPIWD_DEVRETCODE_MEMORY_ERROR ≠ RPIWD_DEVRETCODE_SUCCESS := by decide
  have hfail : ¬ IsFailure RPIWD_DEVRETCODE_MEMORY_ERROR := by decide
  simp only [queryWhile, handleRetflag, hmemory, if_neg hsuccess, if_neg hfail, if_true]
  exact ⟨rfl, rfl, congrArg (· + 1) h.queries, h.calls⟩

/-! ## The loop -/

/-- The state behind `n` queries. -/
abbrev stateAfter (config : RpiwdConfig) (answers : DeviceAnswers) (results : Measurements)
    (n : Nat) : QueryState :=
  (queryWhile config answers).after (.start results) n

theorem retrying_after (config : RpiwdConfig) (results : Measurements) {n : Nat}
    (h : Retried answers n) :
    Retrying answers n (stateAfter config answers results n) := by
  induction n with
  | zero => exact ⟨rfl, (Nat.count_zero _).symm, rfl, rfl⟩
  | succ n ih =>
    obtain ⟨hsuccess, hmemory⟩ := h n (Nat.lt_succ_self n)
    exact (ih fun k hk => h k (Nat.lt_succ_of_lt hk)).retry hsuccess hmemory

theorem success_after (config : RpiwdConfig) (results : Measurements) {i : Nat}
    (h : Retried answers i)
    (hsuccess : (answers i).1 = RPIWD_DEVRETCODE_SUCCESS) :
    Stopped answers i [writeCall config (answers i).2]
      (stateAfter config answers results (i + 1)) :=
  (retrying_after config results h).success hsuccess

theorem memoryError_after (config : RpiwdConfig) (results : Measurements) {i : Nat}
    (h : Retried answers i)
    (hmemory : (answers i).1 = RPIWD_DEVRETCODE_MEMORY_ERROR) :
    Stopped answers i [] (stateAfter config answers results (i + 1)) :=
  (retrying_after config results h).memoryError hmemory

theorem test_retrying {n : Nat} {st : QueryState} (h : Retrying answers n st) :
    (queryWhile config answers).test st = true ↔
      failures answers n < CONFIG_MAX_QUERY_ATTEMPTS := by
  simp [queryWhile, h.okFlag, h.qattempts]

theorem test_stopped {n : Nat} {calls : List QueryCall} {st : QueryState}
    (h : Stopped answers n calls st) : (queryWhile config answers).test st = false := by
  simp [queryWhile, h.okFlag]

theorem retried_succ {n : Nat} (h : Retried answers n)
    (hn : ¬ ((answers n).1 = RPIWD_DEVRETCODE_SUCCESS ∨
      (answers n).1 = RPIWD_DEVRETCODE_MEMORY_ERROR)) : Retried answers (n + 1) := by
  intro k hk
  rcases Nat.lt_succ_iff_lt_or_eq.mp hk with hlt | rfl
  · exact h k hlt
  · exact not_or.mp hn

/-- As long as the loop goes on, no code has set `ok_flag`. -/
theorem retried_of_goes_on {n : Nat}
    (h : ∀ m < n + 1, (queryWhile config answers).test (stateAfter config answers results m) =
      true) : Retried answers n := by
  induction n with
  | zero => exact fun k hk => absurd hk (Nat.not_lt_zero k)
  | succ n ih =>
    have hn : Retried answers n := ih fun m hm => h m (Nat.lt_succ_of_lt hm)
    have hgo := h (n + 1) (Nat.lt_succ_self _)
    refine retried_succ hn fun hstop => ?_
    rcases hstop with hsuccess | hmemory
    · rw [test_stopped (success_after config results hn hsuccess)] at hgo
      cases hgo
    · rw [test_stopped (memoryError_after config results hn hmemory)] at hgo
      cases hgo

/-- The loop is left when the attempts are used up or behind a code that sets
`ok_flag`. -/
theorem exits_cases {n : Nat} (h : (queryWhile config answers).ExitsAt (.start results) n) :
    (Retried answers n ∧ CONFIG_MAX_QUERY_ATTEMPTS ≤ failures answers n) ∨
      ∃ i, n = i + 1 ∧ Retried answers i ∧
        ((answers i).1 = RPIWD_DEVRETCODE_SUCCESS ∨
          (answers i).1 = RPIWD_DEVRETCODE_MEMORY_ERROR) := by
  have hused : Retried answers n → CONFIG_MAX_QUERY_ATTEMPTS ≤ failures answers n := by
    intro hn
    refine not_lt.mp fun hlt => ?_
    exact Bool.eq_false_iff.mp h.stops ((test_retrying (retrying_after config results hn)).mpr hlt)
  cases n with
  | zero =>
    have hnone : Retried answers 0 := fun k hk => absurd hk (Nat.not_lt_zero k)
    exact .inl ⟨hnone, hused hnone⟩
  | succ i =>
    have hi : Retried answers i := retried_of_goes_on h.goes_on
    by_cases hstop : (answers i).1 = RPIWD_DEVRETCODE_SUCCESS ∨
        (answers i).1 = RPIWD_DEVRETCODE_MEMORY_ERROR
    · exact .inr ⟨i, rfl, hi, hstop⟩
    · exact .inl ⟨retried_succ hi hstop, hused (retried_succ hi hstop)⟩

theorem goes_on_of_retried {n : Nat} (h : Retried answers n) (hn : n < CONFIG_MAX_QUERY_ATTEMPTS) :
    (queryWhile config answers).test (stateAfter config answers results n) = true := by
  have hle : failures answers n ≤ n := Nat.count_le _
  exact (test_retrying (retrying_after config results h)).mpr (lt_of_le_of_lt hle hn)

theorem exitsAt_success {i : Nat} (hi : i < CONFIG_MAX_QUERY_ATTEMPTS) (h : Retried answers i)
    (hsuccess : (answers i).1 = RPIWD_DEVRETCODE_SUCCESS) :
    (queryWhile config answers).ExitsAt (.start results) (i + 1) where
  stops := test_stopped (success_after config results h hsuccess)
  goes_on m hm := goes_on_of_retried (fun k hk => h k (by omega)) (by omega)

theorem retried_of_failures {n : Nat} (h : ∀ k < n, IsFailure (answers k).1) :
    Retried answers n := by
  have hcodes : ∀ c, IsFailure c →
      c ≠ RPIWD_DEVRETCODE_SUCCESS ∧ c ≠ RPIWD_DEVRETCODE_MEMORY_ERROR := by
    rintro c (rfl | rfl | rfl) <;> decide
  exact fun k hk => hcodes _ (h k hk)

theorem exitsAt_failures (h : ∀ k < CONFIG_MAX_QUERY_ATTEMPTS, IsFailure (answers k).1) :
    (queryWhile config answers).ExitsAt (.start results) CONFIG_MAX_QUERY_ATTEMPTS where
  stops := by
    have hused : failures answers CONFIG_MAX_QUERY_ATTEMPTS = CONFIG_MAX_QUERY_ATTEMPTS :=
      Nat.count_iff_forall.mpr h
    refine Bool.eq_false_iff.mpr fun htest => ?_
    have hlt := (test_retrying (retrying_after config results (retried_of_failures h))).mp htest
    rw [hused] at hlt
    exact absurd hlt (lt_irrefl _)
  goes_on m hm := goes_on_of_retried (retried_of_failures fun k hk => h k (hk.trans hm)) hm

/-! ## The round -/

theorem queryRound_iff {st : QueryState} :
    (∃ fuel, queryRound config answers results fuel = some st) ↔
      ∃ n, (queryWhile config answers).ExitsAt (.start results) n ∧
        (stateAfter config answers results n).execTriggers = st := by
  unfold queryRound
  constructor
  · rintro ⟨fuel, h⟩
    obtain ⟨s, hrun, rfl⟩ := Option.map_eq_some_iff.mp h
    obtain ⟨n, hexit, rfl⟩ := WhileLoop.run_eq_some_iff.mp ⟨fuel, hrun⟩
    exact ⟨n, hexit, rfl⟩
  · rintro ⟨n, hexit, rfl⟩
    obtain ⟨fuel, hrun⟩ := WhileLoop.run_eq_some_iff.mpr ⟨n, hexit, rfl⟩
    exact ⟨fuel, Option.map_eq_some_iff.mpr ⟨_, hrun, rfl⟩⟩

theorem Retrying.execTriggers {n : Nat} {st : QueryState} (h : Retrying answers n st) :
    st.execTriggers = st := by
  simp [QueryState.execTriggers, h.okFlag]

theorem Stopped.execTriggers {n : Nat} {calls : List QueryCall} {st : QueryState}
    (h : Stopped answers n calls st) :
    st.execTriggers.queries = n + 1 ∧
      st.execTriggers.calls = calls ++ [.triggerExec (answers n).2] := by
  simp [QueryState.execTriggers, h.okFlag, h.queries, h.calls, h.results]

/-- The first success, if no memory error comes before one. -/
theorem exists_retried_success {i : Nat} (hsuccess : (answers i).1 = RPIWD_DEVRETCODE_SUCCESS)
    (hmemory : ∀ k < i, (answers k).1 ≠ RPIWD_DEVRETCODE_MEMORY_ERROR) :
    ∃ j ≤ i, Retried answers j ∧ (answers j).1 = RPIWD_DEVRETCODE_SUCCESS := by
  have hex : ∃ j, (answers j).1 = RPIWD_DEVRETCODE_SUCCESS := ⟨i, hsuccess⟩
  have hle : Nat.find hex ≤ i := Nat.find_min' hex hsuccess
  refine ⟨Nat.find hex, hle, fun k hk => ?_, Nat.find_spec hex⟩
  exact ⟨Nat.find_min hex hk, hmemory k (by omega)⟩

/-- The first success ends the round with a write and the triggers. -/
theorem boundedRound_of_success {i : Nat} (hi : i < CONFIG_MAX_QUERY_ATTEMPTS)
    (hsuccess : (answers i).1 = RPIWD_DEVRETCODE_SUCCESS)
    (hmemory : ∀ k < i, (answers k).1 ≠ RPIWD_DEVRETCODE_MEMORY_ERROR) :
    BoundedRound config answers results := by
  obtain ⟨j, hji, hretried, hfirst⟩ := exists_retried_success hsuccess hmemory
  have hj : j < CONFIG_MAX_QUERY_ATTEMPTS := lt_of_le_of_lt hji hi
  obtain ⟨fuel, hround⟩ := queryRound_iff.mpr ⟨j + 1, exitsAt_success hj hretried hfirst, rfl⟩
  refine ⟨fuel, _, hround, ?_⟩
  obtain ⟨hqueries, hcalls⟩ := (success_after config results hretried hfirst).execTriggers
  have hgood : Succeeded answers (j + 1) := ⟨j, Nat.lt_succ_self j, hfirst⟩
  simp [QueryState.writes, QueryState.Triggers, hqueries, hcalls, writeCall, hgood, hj]

/-- Nothing but failures: no write and no triggers. -/
theorem boundedRound_of_failures
    (h : ∀ k < CONFIG_MAX_QUERY_ATTEMPTS, IsFailure (answers k).1) :
    BoundedRound config answers results := by
  obtain ⟨fuel, hround⟩ := queryRound_iff.mpr ⟨_, exitsAt_failures h, rfl⟩
  refine ⟨fuel, _, hround, ?_⟩
  have hall : Retried answers CONFIG_MAX_QUERY_ATTEMPTS := retried_of_failures h
  have hbad : ¬ Succeeded answers CONFIG_MAX_QUERY_ATTEMPTS := by
    rintro ⟨k, hk, hsuccess⟩
    exact (hall k hk).1 hsuccess
  have hstate := retrying_after config results hall
  rw [hstate.execTriggers]
  simp [QueryState.writes, QueryState.Triggers, hstate.queries, hstate.calls, hbad]

/-- With the triggers of a memory error, the round acted on nothing. -/
theorem not_succeeded_of_memoryError {i : Nat} (h : Retried answers i)
    (hmemory : (answers i).1 = RPIWD_DEVRETCODE_MEMORY_ERROR) : ¬ Succeeded answers (i + 1) := by
  rintro ⟨k, hk, hsuccess⟩
  rcases Nat.lt_succ_iff_lt_or_eq.mp hk with hlt | rfl
  · exact (h k hlt).1 hsuccess
  · rw [hsuccess] at hmemory
    exact absurd hmemory (by decide)

/-- **A round is bounded and acts only on measurements** exactly if a query
among the first 64 succeeds before any memory error, or all of them fail with
a code that counts. -/
theorem bounded_round_iff (config : RpiwdConfig) (answers : DeviceAnswers)
    (results : Measurements) :
    BoundedRound config answers results ↔
      (∃ i < CONFIG_MAX_QUERY_ATTEMPTS, (answers i).1 = RPIWD_DEVRETCODE_SUCCESS ∧
        ∀ k < i, (answers k).1 ≠ RPIWD_DEVRETCODE_MEMORY_ERROR) ∨
      ∀ k < CONFIG_MAX_QUERY_ATTEMPTS, IsFailure (answers k).1 := by
  constructor
  · rintro ⟨fuel, st, hround, hmax, -, -, htriggers⟩
    obtain ⟨n, hexit, rfl⟩ := queryRound_iff.mp ⟨fuel, hround⟩
    rcases exits_cases hexit with ⟨hall, hused⟩ | ⟨i, rfl, hi, hsuccess | hmemory⟩
    · have hstate := retrying_after config results hall
      rw [hstate.execTriggers, hstate.queries] at hmax
      have hle : failures answers n ≤ n := Nat.count_le _
      obtain rfl : n = CONFIG_MAX_QUERY_ATTEMPTS := by omega
      exact .inr (Nat.count_iff_forall.mp (le_antisymm hle hused))
    · obtain ⟨hqueries, -⟩ := (success_after config results hi hsuccess).execTriggers
      rw [hqueries] at hmax
      exact .inl ⟨i, hmax, hsuccess, fun k hk => (hi k hk).2⟩
    · obtain ⟨hqueries, hcalls⟩ := (memoryError_after config results hi hmemory).execTriggers
      rw [hqueries] at htriggers
      have htrig : (stateAfter config answers results (i + 1)).execTriggers.Triggers :=
        ⟨(answers i).2, by rw [hcalls]; exact List.mem_singleton_self _⟩
      exact absurd (htriggers.mp htrig) (not_succeeded_of_memoryError hi hmemory)
  · rintro (⟨i, hi, hsuccess, hmemory⟩ | hfail)
    · exact boundedRound_of_success hi hsuccess hmemory
    · exact boundedRound_of_failures hfail

/-- Codes without a case of their own are no attempts: a round of them does
not end. -/
theorem queryRound_unhandled
    (h : ∀ k, (answers k).1 ≠ RPIWD_DEVRETCODE_SUCCESS ∧
      (answers k).1 ≠ RPIWD_DEVRETCODE_MEMORY_ERROR ∧ ¬ IsFailure (answers k).1) (fuel : Nat) :
    queryRound config answers results fuel = none := by
  refine Option.eq_none_iff_forall_ne_some.mpr fun st hround => ?_
  obtain ⟨n, hexit, -⟩ := queryRound_iff.mp ⟨fuel, hround⟩
  have hzero : failures answers n = 0 := by
    refine Nat.count_of_forall_not fun k _ => (h k).2.2
  rcases exits_cases hexit with ⟨-, hused⟩ | ⟨i, -, -, hsuccess | hmemory⟩
  · rw [hzero] at hused
    exact absurd hused (by decide)
  · exact (h i).1 hsuccess
  · exact (h i).2.1 hmemory

/-- After a memory error the triggers run on an array nobody has written, and
unit errors are asked for again for ever. -/
theorem triggers_without_measurements :
    (queryRound (default : Env).config (fun _ => (RPIWD_DEVRETCODE_MEMORY_ERROR, 0)) 0 2).map
        QueryState.calls = some [.triggerExec 0] ∧
    ∀ fuel, queryRound (default : Env).config (fun _ => (RPIWD_DEVRETCODE_UNIT_ERROR, 0)) 0 fuel =
      none :=
  ⟨rfl, queryRound_unhandled fun _ => by decide⟩

/-! ## With the DHT11 -/

/-- **With the DHT11** and an array to write to, every round is bounded. -/
theorem dht11_round_bounded
    (h : ∀ k, ∃ samples arr, dht11QueryCallback samples (some arr) =
      .ok ((answers k).1, some (answers k).2)) : BoundedRound config answers results := by
  have hcode : ∀ k, (answers k).1 = RPIWD_DEVRETCODE_SUCCESS ∨
      (answers k).1 = RPIWD_DEVRETCODE_DATA_FAILURE := by
    intro k
    obtain ⟨samples, arr, hquery⟩ := h k
    obtain ⟨rs, -, hcheck⟩ := bind_ok hquery
    exact checkResult_code hcheck
  by_cases hgood : Succeeded answers CONFIG_MAX_QUERY_ATTEMPTS
  · obtain ⟨i, hi, hsuccess⟩ := hgood
    refine boundedRound_of_success hi hsuccess fun k _ => ?_
    rcases hcode k with hk | hk <;> rw [hk] <;> decide
  · refine boundedRound_of_failures fun k hk => .inr (.inl ?_)
    exact (hcode k).resolve_left fun hsuccess => hgood ⟨k, hk, hsuccess⟩

end
end Rpiweatherd
