import Rpiweatherd.L3Listener.FetchErrors

/-!
# How many entries `select` selects (`src/listener.c:461-465, 507-512`)

The number of a `select` goes through `strtol`, whose `long` is stored in an
`int`, and `errno` is then compared with `ERANGE` although nothing cleared it.
`Selectable` says which numbers get through this when `errno` is clear, and
`select_exact_iff` for which numbers and which `errno` the query is limited to
the number that was asked for.
-/
namespace Rpiweatherd

/-- A `fetch` with `select=value` and nothing else. -/
def onlySelect (value : Bytes) : HttpCmd :=
  ⟨ascii "fetch", some [⟨some (ascii "select"), some value⟩]⟩

/-- The `int` the number ends up in. -/
def selectInt (value : Bytes) : Int := toInt32 (strtol value).1

/-- A number that is not refused for its own sake. -/
def Selectable (value : Bytes) : Prop := (strtol value).2 = false ∧ 0 < selectInt value

/-- The request is answered with exactly `n` entries if there can be so many,
and refused otherwise. -/
def SelectsExactly (env : Env) (errno : Errno) (value : Bytes) (n : Int) (msg : RpiwdMqmsg) :
    Prop :=
  ∃ r, fetchCommandCallback env errno (onlySelect value) msg = .ok r ∧
    (r.code = CALLBACK_RETCODE_SUCCESS ↔ 1 ≤ n ∧ n ≤ INT_MAX) ∧
    (r.code = CALLBACK_RETCODE_SUCCESS → r.msg.fselectq = some (.selectN n))

/-! ## The callback -/

/-- The only round of the loop. -/
theorem fetchLoop_onlySelect (pf : Platform) (v : FetchVars) (value : Bytes) :
    fetchLoop pf [⟨some (ascii "select"), some value⟩] v = .ok (fetchSelect v value) := by
  unfold fetchLoop
  rw [fetchParam_select]
  cases fetchSelect v value <;> rfl

/-- A positive number is the only bound, so it is the query's. -/
theorem fetchFinish_select (msg : RpiwdMqmsg) {v : FetchVars}
    (hdates : v.fromDate = 0 ∧ v.toDate = 0 ∧ v.on = 0) :
    ((fetchFinish msg 0 v).code = CALLBACK_RETCODE_SUCCESS ↔ 0 < v.select) ∧
    (0 < v.select → (fetchFinish msg 0 v).msg.fselectq = some (.selectN v.select)) := by
  obtain ⟨hfrom, hto, hon⟩ := hdates
  have hcodes : CALLBACK_RETCODE_PARAM_ERROR ≠ CALLBACK_RETCODE_SUCCESS := by decide
  have hqueries : fetchQueries v =
      if 0 < v.select then some (.countSelectN v.select, .selectN v.select) else none := by
    simp [fetchQueries, hfrom, hto, hon]
  unfold fetchFinish
  rw [hqueries]
  by_cases hpos : 0 < v.select
  · rw [if_pos hpos]
    exact ⟨iff_of_true rfl hpos, fun _ => rfl⟩
  · rw [if_neg hpos]
    exact ⟨iff_of_false hcodes hpos, fun h => absurd h hpos⟩

/-- The number is stored, or the callback returns. -/
theorem fetchSelect_clear_or_ret (v : FetchVars) (value : Bytes) :
    (v.errno ≠ ERANGE ∧ (strtol value).2 = false ∧
        fetchSelect v value = .next { v with select := selectInt value }) ∨
      (v.errno = ERANGE ∨ ¬ Selectable value) ∧
        ∃ v', fetchSelect v value = .ret CALLBACK_RETCODE_PARAM_ERROR v' := by
  by_cases he : v.errno = ERANGE
  · exact .inr ⟨.inl he, fetchSelect_stale he value⟩
  obtain ⟨hret, hnext⟩ := fetchSelect_spec v value he
  by_cases hbad : (strtol value).2 = true ∨ toInt32 (strtol value).1 < 0
  · refine .inr ⟨.inr fun hsel => ?_, hret hbad⟩
    rcases hbad with hrange | hneg
    · rw [hsel.1] at hrange
      cases hrange
    · exact absurd hsel.2 (not_lt.mpr hneg.le)
  · refine .inl ⟨he, ?_, hnext hbad⟩
    exact Bool.eq_false_iff.mpr fun hrange => hbad (.inl hrange)

/-- The callback succeeds for a selectable number, unless `errno` was
`ERANGE` before. -/
theorem fetchCommandCallback_onlySelect (env : Env) (errno : Errno) (value : Bytes)
    (msg : RpiwdMqmsg) :
    ∃ r, fetchCommandCallback env errno (onlySelect value) msg = .ok r ∧
      (r.code = CALLBACK_RETCODE_SUCCESS ↔ errno ≠ ERANGE ∧ Selectable value) ∧
      (r.code = CALLBACK_RETCODE_SUCCESS →
        r.msg.fselectq = some (.selectN (selectInt value))) := by
  have hcodes : CALLBACK_RETCODE_PARAM_ERROR ≠ CALLBACK_RETCODE_SUCCESS := by decide
  unfold onlySelect
  rw [fetchCommandCallback_some, fetchLoop_onlySelect]
  refine ⟨_, rfl, ?_⟩
  rcases fetchSelect_clear_or_ret ⟨0, 0, 0, 0, msg.unitstr, errno⟩ value with
    ⟨he, hrange, hnext⟩ | ⟨hbad, v', hret⟩
  · rw [hnext]
    obtain ⟨hcode, hquery⟩ := fetchFinish_select msg
      (v := ⟨0, 0, 0, selectInt value, msg.unitstr, errno⟩) ⟨rfl, rfl, rfl⟩
    refine ⟨hcode.trans ?_, fun hok => hquery (hcode.mp hok)⟩
    exact ⟨fun hpos => ⟨he, hrange, hpos⟩, fun h => h.2.2⟩
  · rw [hret]
    refine ⟨iff_of_false hcodes fun h => ?_, fun hok => absurd hok hcodes⟩
    exact hbad.elim h.1 fun hno => hno h.2

/-! ## Literals -/

/-- The numbers that pass for another one or for themselves. -/
theorem selectable_literal {value : Bytes} {n : Int} (h : literalValue value = some n) :
    Selectable value ↔
      LONG_MIN ≤ n ∧ n ≤ LONG_MAX ∧ 0 < n % 2 ^ 32 ∧ n % 2 ^ 32 < 2 ^ 31 := by
  unfold Selectable selectInt
  rw [strtol_eq, leadingNumber_of_literal h]
  split_ifs with hmax hmin
  · exact iff_of_false (fun hs => nomatch hs.1) fun hn => absurd hn.2.1 (not_le.mpr hmax)
  · exact iff_of_false (fun hs => nomatch hs.1) fun hn => absurd hn.1 (not_le.mpr hmin)
  · rw [not_lt] at hmax hmin
    simp only [hmax, hmin, true_and, toInt32, Int.bmod_def]
    push_cast
    split <;> omega

theorem selectInt_literal {value : Bytes} {n : Int} (h : literalValue value = some n)
    (hn : InInt n) : selectInt value = n := by
  have hn' := hn
  unfold InInt INT_MIN INT_MAX at hn'
  unfold selectInt
  rw [strtol_eq, leadingNumber_of_literal h, if_neg (by unfold LONG_MAX; omega),
    if_neg (by unfold LONG_MIN; omega)]
  exact (toInt32_eq_iff hn).mpr (by simp)

/-- What the callback answers for a literal is right if it succeeds for the
right ones. -/
theorem selectsExactly_iff (env : Env) (errno : Errno) {value : Bytes} {n : Int}
    (h : literalValue value = some n) (msg : RpiwdMqmsg) :
    SelectsExactly env errno value n msg ↔
      (errno ≠ ERANGE ∧ Selectable value ↔ 1 ≤ n ∧ n ≤ INT_MAX) := by
  obtain ⟨r, hr, hcode, hquery⟩ := fetchCommandCallback_onlySelect env errno value msg
  constructor
  · rintro ⟨r', hr', hexact, -⟩
    cases hr.symm.trans hr'
    exact hcode.symm.trans hexact
  · intro hexact
    refine ⟨r, hr, hcode.trans hexact, fun hok => ?_⟩
    obtain ⟨hpos, hmax⟩ := hexact.mp (hcode.mp hok)
    have hint : InInt n := ⟨by unfold INT_MIN; omega, hmax⟩
    rw [hquery hok, selectInt_literal h hint]

/-- **A number that can be selected** is refused only after an `ERANGE` that
nobody cleared. **One that cannot** is refused after an `ERANGE`, beyond
`long`, or if its low 32 bits are not a positive `int`; any other is taken for
the number in these bits. -/
theorem select_exact_iff (env : Env) (errno : Errno) {value : Bytes} {n : Int}
    (h : literalValue value = some n) (msg : RpiwdMqmsg) :
    SelectsExactly env errno value n msg ↔
      if 1 ≤ n ∧ n ≤ INT_MAX then errno ≠ ERANGE
      else errno = ERANGE ∨ n < LONG_MIN ∨ LONG_MAX < n ∨ n % 2 ^ 32 = 0 ∨ 2 ^ 31 ≤ n % 2 ^ 32 := by
  rw [selectsExactly_iff env errno h msg, selectable_literal h]
  unfold INT_MAX LONG_MAX LONG_MIN
  split
  · rename_i hn
    have hbits : n % 2 ^ 32 = n := Int.emod_eq_of_lt (by omega) (by omega)
    rw [hbits, iff_true_right hn]
    exact ⟨fun hok => hok.1, fun he => ⟨he, by omega⟩⟩
  · rename_i hn
    rw [iff_false_right hn, not_and_or, not_not]
    exact or_congr_right (by omega)

/-- Five entries, with a clear `errno`. -/
theorem select_five_exact :
    SelectsExactly default 0 (ascii "5") 5 (newMessage default 3) := by
  have hliteral : literalValue (ascii "5") = some 5 := by decide +kernel
  refine (select_exact_iff default 0 hliteral (newMessage default 3)).mpr ?_
  decide

/-- 2³² + 5 entries are taken for 5, and 5 entries are refused after an
`ERANGE` that an earlier request left behind. -/
theorem select_wraps :
    literalValue (ascii "4294967301") = some 4294967301 ∧
    (∃ r, fetchCommandCallback default 0 (onlySelect (ascii "4294967301")) (newMessage default 3) =
        .ok r ∧
      r.code = CALLBACK_RETCODE_SUCCESS ∧ r.msg.fselectq = some (.selectN 5)) ∧
    ∃ r, fetchCommandCallback default ERANGE (onlySelect (ascii "5")) (newMessage default 3) =
        .ok r ∧ r.code = CALLBACK_RETCODE_PARAM_ERROR := by
  refine ⟨by decide +kernel, ⟨_, rfl, ?_⟩, ⟨_, rfl, ?_⟩⟩
  · decide +kernel
  · decide +kernel

end Rpiweatherd
