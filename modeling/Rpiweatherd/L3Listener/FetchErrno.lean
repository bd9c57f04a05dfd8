import Rpiweatherd.L3Listener.Worker

/-!
# What a left-over `errno` does to `fetch`

`select` and dates given as intervals are refused when `errno` is `ERANGE`
after their conversion, and nothing clears `errno` before it. So a `fetch`
is a function of its request and of one bit of the thread's past: whether
`errno` is `ERANGE`. `consultsErrno` says which requests get as far as
looking at that bit. No other command looks at `errno`.
-/
namespace Rpiweatherd

def FetchVars.withErrno (v : FetchVars) (e : Errno) : FetchVars := { v with errno := e }

@[simp] theorem FetchVars.withErrno_errno (v : FetchVars) (e : Errno) :
    (v.withErrno e).errno = e := rfl

@[simp] theorem FetchVars.withErrno_withErrno (v : FetchVars) (e e' : Errno) :
    (v.withErrno e).withErrno e' = v.withErrno e' := rfl

theorem FetchVars.withErrno_self (v : FetchVars) : v.withErrno v.errno = v := rfl

/-- The step without the `errno` it ends with. -/
def FetchStep.clear : FetchStep → FetchStep
  | .next v => .next (v.withErrno 0)
  | .brk r v => .brk r (v.withErrno 0)
  | .ret c v => .ret c (v.withErrno 0)

/-- The parameter's conversion looks at `errno`. -/
def paramReads (pf : Platform) (p : HttpCmdParam) : Bool :=
  match p.name, p.value with
  | some name, some value =>
    name = ascii "select" ||
      ((name = ascii "from" || name = ascii "to" || name = ascii "on") && readsErrno pf value)
  | _, _ => false

/-! ## One parameter -/

/-- `fetchTempunit` does not see `errno`. -/
theorem fetchTempunit_errno (v : FetchVars) (value : Bytes) (e : Errno) :
    (fetchTempunit (v.withErrno e) value).clear = (fetchTempunit (v.withErrno 0) value).clear := by
  unfold fetchTempunit
  split
  · dsimp only
    split
    · rfl
    · split <;> rfl
  · rfl

/-- `fetchDate` is decided by the time and the flag it gets. -/
theorem fetchDate_congr {pf : Platform} {value : Bytes} {e : Errno}
    (h1 : (normalizeDate pf e value).1 = (normalizeDate pf 0 value).1)
    (h2 : (normalizeDate pf e value).2.1 = (normalizeDate pf 0 value).2.1)
    (v : FetchVars) (name : Bytes) :
    (fetchDate pf (v.withErrno e) name value).clear =
      (fetchDate pf (v.withErrno 0) name value).clear := by
  unfold fetchDate
  simp only [FetchVars.withErrno_errno, h1, h2]
  by_cases hbad : (normalizeDate pf 0 value).1 = 0 ∨ (normalizeDate pf 0 value).1 = -1
  · simp only [hbad, reduceIte]; rfl
  by_cases hfrom : name = ascii "from"
  · simp only [hbad, if_pos hfrom, reduceIte]; rfl
  by_cases hto : name = ascii "to"
  · simp only [hbad, if_neg hfrom, if_pos hto, reduceIte]; rfl
  · simp only [hbad, if_neg hfrom, if_neg hto, reduceIte]; rfl

theorem fetchSelect_clean {e : Errno} (he : e ≠ ERANGE) (v : FetchVars) (value : Bytes) :
    (fetchSelect (v.withErrno e) value).clear = (fetchSelect (v.withErrno 0) value).clear := by
  have h0 : (0 : Errno) ≠ ERANGE := by decide
  unfold fetchSelect
  simp only [FetchVars.withErrno_errno]
  cases (strtol value).2 with
  | true => simp only [setErange_true, true_or, if_true]; rfl
  | false =>
    simp only [setErange_false, he, h0, false_or]
    by_cases hneg : toInt32 (strtol value).1 < 0
    · simp only [hneg, reduceIte]; rfl
    · simp only [hneg, reduceIte]; rfl

/-- The parameter's step is the same under `e` as under a clear `errno`. -/
def Insensitive (pf : Platform) (e : Errno) (p : HttpCmdParam) : Prop :=
  ∀ v : FetchVars, (fetchParam pf (v.withErrno e) p).map FetchStep.clear =
    (fetchParam pf (v.withErrno 0) p).map FetchStep.clear

theorem insensitive_of {pf : Platform} {e : Errno} {p : HttpCmdParam}
    (h : e ≠ ERANGE ∨ paramReads pf p = false) : Insensitive pf e p := by
  intro v
  unfold fetchParam
  cases hv : p.value with
  | none => rfl
  | some value =>
  cases hn : p.name with
  | none => rfl
  | some name =>
  simp only [deref, Except.map, Except.ok.injEq]
  by_cases ht : name = ascii "tempunit"
  · simp only [if_pos ht, fetchTempunit_errno]
  by_cases hd : name = ascii "from" ∨ name = ascii "to" ∨ name = ascii "on"
  · simp only [if_neg ht, if_pos hd]
    rcases h with he | hr
    · exact fetchDate_congr (normalizeDate_clean he pf value).1
        (normalizeDate_clean he pf value).2.1 v name
    · have hfree : readsErrno pf value = false := by
        simp only [paramReads, hn, hv, Bool.or_eq_false_iff, Bool.and_eq_false_imp,
          Bool.or_eq_true, decide_eq_true_eq] at hr
        exact hr.2 (by tauto)
      have := normalizeDate_errno_free hfree e
      exact fetchDate_congr (by rw [this]) (by rw [this]) v name
  by_cases hs : name = ascii "select"
  · have he : e ≠ ERANGE := by
      rcases h with he | hr
      · exact he
      · simp [paramReads, hn, hv, hs] at hr
    simp only [if_neg ht, if_neg hd, if_pos hs, fetchSelect_clean he]
  · simp only [if_neg ht, if_neg hd, if_neg hs]
    rfl

/-- The loop goes on only with `errno` as it was. -/
theorem fetchParam_next_errno {pf : Platform} {v v' : FetchVars} {p : HttpCmdParam}
    (h : fetchParam pf v p = .ok (.next v')) : v'.errno = v.errno := by
  cases fetchParam_round h with
  | celsius => rfl
  | farenheit => rfl
  | select => rfl
  | date name value v' hn hname hv hnext =>
    rcases fetchDate_cases pf v name value with ⟨w, hbrk⟩ | ⟨w, hw, -, herrno, h0⟩
    · rw [hbrk] at hnext
      cases hnext
    · rw [hw] at hnext
      cases hnext
      -- a date that is not refused left `errno` alone
      rw [herrno]
      exact normalizeDate_errno h0

/-- Under a stale `ERANGE`, a parameter that reads `errno` is refused. -/
theorem fetchParam_stale {pf : Platform} {p : HttpCmdParam} (h : paramReads pf p = true)
    (v : FetchVars) : ∃ v',
      fetchParam pf (v.withErrno ERANGE) p = .ok (.brk CALLBACK_RETCODE_PARAM_ERROR v') ∨
      fetchParam pf (v.withErrno ERANGE) p = .ok (.ret CALLBACK_RETCODE_PARAM_ERROR v') := by
  unfold paramReads at h
  split at h
  · rename_i name value hn hv
    simp only [Bool.or_eq_true, Bool.and_eq_true, decide_eq_true_eq] at h
    obtain rfl : p = ⟨some name, some value⟩ := by rw [← hn, ← hv]
    rcases h with rfl | ⟨hd, hr⟩
    · obtain ⟨v', hret⟩ := fetchSelect_stale (v := v.withErrno ERANGE) rfl value
      exact ⟨v', .inr (by rw [fetchParam_select, hret])⟩
    · rw [fetchParam_date pf _ value (or_assoc.mp hd)]
      simp only [fetchDate, FetchVars.withErrno_errno, normalizeDate_erange hr, true_or, if_true]
      exact ⟨_, .inl rfl⟩
  · cases h

/-! ## The loop -/

/-- The loop gets, under a clear `errno`, as far as a parameter that looks
at it. -/
def consultsErrno (pf : Platform) : List HttpCmdParam → FetchVars → Bool
  | [], _ => false
  | p :: ps, v =>
    paramReads pf p ||
      match fetchParam pf v p with
      | .ok (.next v') => consultsErrno pf ps v'
      | _ => false

/-- An insensitive parameter that lets the loop go on does so under `e` too,
with the same variables. -/
theorem Insensitive.next {pf : Platform} {e : Errno} {p : HttpCmdParam} (h : Insensitive pf e p)
    {v v' : FetchVars} (h0 : fetchParam pf (v.withErrno 0) p = .ok (.next v')) :
    v' = v'.withErrno 0 ∧ fetchParam pf (v.withErrno e) p = .ok (.next (v'.withErrno e)) := by
  have hv' : v' = v'.withErrno 0 := by
    have := fetchParam_next_errno h0
    rw [FetchVars.withErrno_errno] at this
    rw [← this, FetchVars.withErrno_self]
  refine ⟨hv', ?_⟩
  have hc := h v
  rw [h0] at hc
  obtain ⟨s, hs, hclear⟩ := map_ok hc
  cases s with
  | next w =>
    have hw := fetchParam_next_errno hs
    rw [FetchVars.withErrno_errno] at hw
    simp only [FetchStep.clear, FetchStep.next.injEq] at hclear
    rw [hs, ← FetchVars.withErrno_self w, hw, ← FetchVars.withErrno_withErrno w 0 e, hclear,
      FetchVars.withErrno_withErrno]
  | brk r w => cases hclear
  | ret c w => cases hclear

theorem fetchLoop_errno (pf : Platform) (e : Errno) :
    ∀ (ps : List HttpCmdParam) (v : FetchVars),
      e ≠ ERANGE ∨ consultsErrno pf ps (v.withErrno 0) = false →
      (fetchLoop pf ps (v.withErrno e)).map FetchStep.clear =
        (fetchLoop pf ps (v.withErrno 0)).map FetchStep.clear
  | [], _, _ => rfl
  | p :: ps, v, h => by
    have hp : Insensitive pf e p := insensitive_of (h.imp id fun hc => by
      simp only [consultsErrno, Bool.or_eq_false_iff] at hc
      exact hc.1)
    cases h0 : fetchParam pf (v.withErrno 0) p with
    | error f =>
      have hc := hp v
      rw [h0] at hc
      cases he : fetchParam pf (v.withErrno e) p with
      | error f' => rw [he] at hc; cases hc; simp only [fetchLoop, h0, he]
      | ok s => rw [he] at hc; cases hc
    | ok s =>
      cases s with
      | next v' =>
        obtain ⟨hv', he⟩ := hp.next h0
        have hrest : e ≠ ERANGE ∨ consultsErrno pf ps (v'.withErrno 0) = false :=
          h.imp id fun hc => by
            simp only [consultsErrno, h0, Bool.or_eq_false_iff] at hc
            rw [← hv']; exact hc.2
        simp only [fetchLoop, h0, he]
        rw [fetchLoop_errno pf e ps v' hrest, ← hv']
      | brk r v' =>
        obtain ⟨t, ht, hclear⟩ := map_ok ((hp v).trans (by rw [h0]; rfl))
        cases t with
        | next w => cases hclear
        | brk r' w => simp only [fetchLoop, h0, ht, Except.map, hclear]
        | ret c w => cases hclear
      | ret c v' =>
        obtain ⟨t, ht, hclear⟩ := map_ok ((hp v).trans (by rw [h0]; rfl))
        cases t with
        | next w => cases hclear
        | brk r' w => cases hclear
        | ret c' w => simp only [fetchLoop, h0, ht, Except.map, hclear]

theorem fetchLoop_stale (pf : Platform) :
    ∀ (ps : List HttpCmdParam) (v : FetchVars), consultsErrno pf ps (v.withErrno 0) = true →
      ∃ v', fetchLoop pf ps (v.withErrno ERANGE) = .ok (.brk CALLBACK_RETCODE_PARAM_ERROR v') ∨
        fetchLoop pf ps (v.withErrno ERANGE) = .ok (.ret CALLBACK_RETCODE_PARAM_ERROR v')
  | [], _, h => by cases h
  | p :: ps, v, h => by
    cases hr : paramReads pf p with
    | true =>
      obtain ⟨v', hs | hs⟩ := fetchParam_stale hr v
      · exact ⟨v', .inl (by simp only [fetchLoop, hs])⟩
      · exact ⟨v', .inr (by simp only [fetchLoop, hs])⟩
    | false =>
      simp only [consultsErrno, hr, Bool.false_or] at h
      split at h
      · rename_i v' h0
        obtain ⟨hv', he⟩ := (insensitive_of (e := ERANGE) (.inr hr)).next h0
        rw [hv'] at h
        simp only [fetchLoop, he]
        exact fetchLoop_stale pf ps v' h
      · cases h

/-! ## The callbacks -/

/-- What a callback's caller uses of its result. -/
def CallbackResult.answer (r : CallbackResult) : Int × RpiwdMqmsg := (r.code, r.msg)

theorem routeResult_congr {r r' : CallbackResult} (h : r.answer = r'.answer) :
    routeResult r = routeResult r' := by
  obtain ⟨hc, hm⟩ := Prod.mk.inj h
  simp only [routeResult, hc, hm]

/-- The result of the loop, as the callback returns it. -/
def fetchReturn (msg : RpiwdMqmsg) : FetchStep → CallbackResult
  | .next v => fetchFinish msg 0 v
  | .brk retflag v => fetchFinish msg retflag v
  | .ret code v => ⟨code, { msg with unitstr := v.unitstr }, v.errno⟩

theorem fetchFinish_answer (msg : RpiwdMqmsg) (r : Int) (v : FetchVars) (e : Errno) :
    (fetchFinish msg r (v.withErrno e)).answer = (fetchFinish msg r v).answer := by
  have hq : fetchQueries (v.withErrno e) = fetchQueries v := rfl
  unfold fetchFinish
  rw [hq]
  dsimp only
  split
  · rfl
  · split <;> rfl

theorem fetchReturn_clear (msg : RpiwdMqmsg) (s : FetchStep) :
    (fetchReturn msg s.clear).answer = (fetchReturn msg s).answer := by
  cases s with
  | next v => exact fetchFinish_answer msg 0 v 0
  | brk r v => exact fetchFinish_answer msg r v 0
  | ret c v => rfl

theorem fetchCommandCallback_some (env : Env) (errno : Errno) (c : Bytes)
    (ps : List HttpCmdParam) (msg : RpiwdMqmsg) :
    fetchCommandCallback env errno ⟨c, some ps⟩ msg =
      (fetchLoop env.platform ps ⟨0, 0, 0, 0, msg.unitstr, errno⟩).map (fetchReturn msg) := by
  simp only [fetchCommandCallback]
  cases fetchLoop env.platform ps ⟨0, 0, 0, 0, msg.unitstr, errno⟩ with
  | error e => rfl
  | ok s => cases s <;> rfl

/-- The request looks at `errno`. -/
def fetchConsults (env : Env) (cmd : HttpCmd) (msg : RpiwdMqmsg) : Bool :=
  consultsErrno env.platform (cmd.params.getD []) ⟨0, 0, 0, 0, msg.unitstr, 0⟩

theorem fetchCommandCallback_errno {env : Env} {e : Errno} {cmd : HttpCmd} {msg : RpiwdMqmsg}
    (h : e ≠ ERANGE ∨ fetchConsults env cmd msg = false) :
    (fetchCommandCallback env e cmd msg).map CallbackResult.answer =
      (fetchCommandCallback env 0 cmd msg).map CallbackResult.answer := by
  obtain ⟨c, params⟩ := cmd
  cases params with
  | none => rfl
  | some ps =>
    have hl := fetchLoop_errno env.platform e ps ⟨0, 0, 0, 0, msg.unitstr, 0⟩ h
    have key : ∀ x : Except Fault FetchStep,
        (x.map (fetchReturn msg)).map CallbackResult.answer =
          (x.map FetchStep.clear).map fun s => (fetchReturn msg s).answer := by
      intro x
      cases x with
      | error f => rfl
      | ok s => simp only [Except.map, fetchReturn_clear]
    rw [fetchCommandCallback_some, fetchCommandCallback_some, key, key]
    exact congrArg _ hl

theorem fetchCommandCallback_stale {env : Env} {cmd : HttpCmd} {msg : RpiwdMqmsg}
    (h : fetchConsults env cmd msg = true) :
    ∃ r, fetchCommandCallback env ERANGE cmd msg = .ok r ∧
      r.code = CALLBACK_RETCODE_PARAM_ERROR := by
  obtain ⟨c, params⟩ := cmd
  cases params with
  | none => cases h
  | some ps =>
    rw [fetchCommandCallback_some]
    obtain ⟨v', hs | hs⟩ := fetchLoop_stale env.platform ps ⟨0, 0, 0, 0, msg.unitstr, 0⟩ h
    · refine ⟨_, congrArg (Except.map (fetchReturn msg)) hs, ?_⟩
      simp only [fetchReturn, fetchFinish]
      rw [if_neg (by decide)]
      split <;> rfl
    · exact ⟨_, congrArg (Except.map (fetchReturn msg)) hs, rfl⟩

end Rpiweatherd
