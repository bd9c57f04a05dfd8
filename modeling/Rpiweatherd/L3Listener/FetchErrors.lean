import Rpiweatherd.L3Listener.FetchErrno

/-!
# Which error a refused `fetch` reports, and what it leaves behind

The parameter loop stops with a negative code and the code behind it looks
for a positive one, so the message is turned into a fetch, with queries for
the parameters before the refused one if those are enough for a query; if
they are not, the code is overwritten. An empty list is not a NULL pointer,
so it is not reported as missing parameters. `precise_errors_iff` says for
which lists and messages none of this is seen.
-/
namespace Rpiweatherd

/-! ## What is to be reported -/

def KNOWN_PARAMS : List Bytes :=
  [ascii "tempunit", ascii "from", ascii "to", ascii "on", ascii "select"]

def unknownName (p : HttpCmdParam) : Bool := p.name ∉ KNOWN_PARAMS.map some

/-- The value is not one the parameter takes: a unit letter, a date, a number
of entries. -/
def badValueOf (pf : Platform) (name value : Bytes) : Bool :=
  if name = ascii "tempunit" then
    value.map tolower ≠ [RPIWD_TEMPERATURE_CELSIUS] ∧
      value.map tolower ≠ [RPIWD_TEMPERATURE_FARENHEIT]
  else if name = ascii "from" ∨ name = ascii "to" ∨ name = ascii "on" then
    (normalizeDate pf 0 value).1 = 0 ∨ (normalizeDate pf 0 value).1 = -1
  else if name = ascii "select" then
    (strtol value).2 = true ∨ toInt32 (strtol value).1 < 0
  else false

/-- The value is missing or bad. -/
def badValue (pf : Platform) (p : HttpCmdParam) : Bool :=
  match p.name, p.value with
  | _, none => true
  | none, some _ => false
  | some name, some value => badValueOf pf name value

def wellFormed (pf : Platform) (p : HttpCmdParam) : Bool := !unknownName p && !badValue pf p

/-- What a well-formed parameter stands for. -/
def FetchVars.add (pf : Platform) (v : FetchVars) (p : HttpCmdParam) : FetchVars :=
  match p.name, p.value with
  | some name, some value =>
    let time := (normalizeDate pf 0 value).1
    let rdtnPerformed := (normalizeDate pf 0 value).2.1
    if name = ascii "tempunit" then
      if value.map tolower = [RPIWD_TEMPERATURE_CELSIUS] then
        { v with unitstr := v.unitstr.set RPIWD_MEASURE_TEMPERATURE RPIWD_TEMPERATURE_CELSIUS }
      else v
    else if name = ascii "from" then
      { v with fromDate := if rdtnPerformed then dayStart time else time }
    else if name = ascii "to" then
      { v with toDate := if rdtnPerformed then dayEnd time else time }
    else if name = ascii "on" then { v with on := time }
    else if name = ascii "select" then { v with select := toInt32 (strtol value).1 }
    else v
  | _, _ => v

/-- What a list of well-formed parameters stands for; zero is not given. -/
def bounds (pf : Platform) (ps : List HttpCmdParam) : FetchVars :=
  ps.foldl (FetchVars.add pf) ⟨0, 0, 0, 0, unitString, 0⟩

/-- The combinations there are queries for: one or both ends of a range, a
day, or a number of entries. -/
def Supported (v : FetchVars) : Prop :=
  (v.fromDate ≠ 0 ∨ v.toDate ≠ 0) ∧ v.on = 0 ∧ v.select = 0 ∨
  v.on ≠ 0 ∧ v.fromDate = 0 ∧ v.toDate = 0 ∧ v.select = 0 ∨
  0 < v.select ∧ v.fromDate = 0 ∧ v.toDate = 0 ∧ v.on = 0

/-- The code is the one to report for the list. -/
def CodeRight (pf : Platform) (ps : List HttpCmdParam) (code : Int) : Prop :=
  if ps = [] then code = CALLBACK_RETCODE_PARAMS_MISSING
  else match ps.dropWhile (wellFormed pf) with
    | [] => code = CALLBACK_RETCODE_PARAM_ERROR ∧ ¬ Supported (bounds pf ps)
    | p :: _ =>
      code = CALLBACK_RETCODE_UNKNOWN_PARAM ∧ unknownName p = true ∨
      code = CALLBACK_RETCODE_PARAM_ERROR ∧ badValue pf p = true

/-- An error is the one to report, and changes nothing of the message that
decides what becomes of it. -/
def PreciseResult (pf : Platform) (ps : List HttpCmdParam) (msg : RpiwdMqmsg)
    (r : CallbackResult) : Prop :=
  r.code ≠ CALLBACK_RETCODE_SUCCESS →
    CodeRight pf ps r.code ∧
      r.msg.mtype = msg.mtype ∧ r.msg.fcountq = msg.fcountq ∧ r.msg.fselectq = msg.fselectq

def PreciseErrors (env : Env) (errno : Errno) (cmd : HttpCmd) (msg : RpiwdMqmsg) : Prop :=
  ∃ r, fetchCommandCallback env errno cmd msg = .ok r ∧
    PreciseResult env.platform (cmd.params.getD []) msg r

/-! ## One parameter -/

/-- The loop goes on behind the parameter: it is well formed, and a
left-over `ERANGE` is not taken for a conversion of its own. -/
def passes (pf : Platform) (e : Errno) (p : HttpCmdParam) : Bool :=
  wellFormed pf p && (e ≠ ERANGE || !paramReads pf p)

/-- The parameter is refused by a `return`. -/
def isSelect (p : HttpCmdParam) : Bool := p.name = some (ascii "select") && p.value.isSome

theorem passes_iff {pf : Platform} {e : Errno} {p : HttpCmdParam} :
    passes pf e p = true ↔ unknownName p = false ∧ badValue pf p = false ∧
      (e ≠ ERANGE ∨ paramReads pf p = false) := by
  simp [passes, wellFormed, and_assoc]

/-- What stops at a known parameter and is not a left-over `ERANGE` is its
value. -/
theorem badValue_of_not_passes {pf : Platform} {e : Errno} {p : HttpCmdParam}
    (hp : passes pf e p = false) (hknown : unknownName p = false)
    (hread : e ≠ ERANGE ∨ paramReads pf p = false) : badValue pf p = true := by
  by_contra hb
  exact Bool.eq_false_iff.mp hp (passes_iff.mpr ⟨hknown, Bool.eq_false_iff.mpr hb, hread⟩)

theorem FetchVars.add_errno (pf : Platform) (v : FetchVars) (p : HttpCmdParam) (e : Errno) :
    (v.withErrno e).add pf p = (v.add pf p).withErrno e := by
  unfold FetchVars.add
  split
  · dsimp only
    split_ifs <;> rfl
  · rfl

theorem fetchTempunit_spec (v : FetchVars) (value : Bytes) :
    fetchTempunit v value =
      if value.map tolower = [RPIWD_TEMPERATURE_CELSIUS] then
        .next { v with
          unitstr := v.unitstr.set RPIWD_MEASURE_TEMPERATURE RPIWD_TEMPERATURE_CELSIUS }
      else if value.map tolower = [RPIWD_TEMPERATURE_FARENHEIT] then .next v
      else .brk CALLBACK_RETCODE_PARAM_ERROR v := by
  match value with
  | [] => rfl
  | [b] =>
    have hone : ∀ c : UInt8, ([b].map tolower = [c]) ↔ tolower b = c := by simp
    simp only [fetchTempunit, hone]
    split_ifs <;> first | rfl | contradiction
  | _ :: _ :: _ => simp [fetchTempunit]

/-- A date that passes is converted as under a clear `errno`. -/
theorem fetchDate_spec (pf : Platform) (v : FetchVars) (name value : Bytes)
    (hread : v.errno ≠ ERANGE ∨ readsErrno pf value = false) :
    (((normalizeDate pf 0 value).1 = 0 ∨ (normalizeDate pf 0 value).1 = -1) →
      ∃ e, fetchDate pf v name value = .brk CALLBACK_RETCODE_PARAM_ERROR (v.withErrno e)) ∧
    (¬ ((normalizeDate pf 0 value).1 = 0 ∨ (normalizeDate pf 0 value).1 = -1) →
      fetchDate pf v name value = .next (
        if name = ascii "from" then
          { v with fromDate := if (normalizeDate pf 0 value).2.1
              then dayStart (normalizeDate pf 0 value).1 else (normalizeDate pf 0 value).1 }
        else if name = ascii "to" then
          { v with toDate := if (normalizeDate pf 0 value).2.1
              then dayEnd (normalizeDate pf 0 value).1 else (normalizeDate pf 0 value).1 }
        else { v with on := (normalizeDate pf 0 value).1 })) := by
  obtain ⟨h1, h2, h3⟩ : (normalizeDate pf v.errno value).1 = (normalizeDate pf 0 value).1 ∧
      (normalizeDate pf v.errno value).2.1 = (normalizeDate pf 0 value).2.1 ∧
      ((normalizeDate pf v.errno value).2.2 = v.errno ∨ (normalizeDate pf v.errno value).1 = 0) := by
    rcases hread with he | hr
    · exact normalizeDate_clean he pf value
    · rw [normalizeDate_errno_free hr v.errno]
      exact ⟨rfl, rfl, .inl rfl⟩
  unfold fetchDate
  simp only [h1, h2]
  constructor
  · intro hbad
    exact ⟨_, if_pos hbad⟩
  · intro hgood
    have hsame : (normalizeDate pf v.errno value).2.2 = v.errno :=
      h3.resolve_right fun h0 => hgood (.inl (h1 ▸ h0))
    rw [if_neg hgood, hsame]
    split_ifs <;> rfl

theorem fetchSelect_spec (v : FetchVars) (value : Bytes) (he : v.errno ≠ ERANGE) :
    (((strtol value).2 = true ∨ toInt32 (strtol value).1 < 0) →
      ∃ v', fetchSelect v value = .ret CALLBACK_RETCODE_PARAM_ERROR v') ∧
    (¬ ((strtol value).2 = true ∨ toInt32 (strtol value).1 < 0) →
      fetchSelect v value = .next { v with select := toInt32 (strtol value).1 }) := by
  unfold fetchSelect
  dsimp only
  generalize (strtol value).2 = range
  cases range with
  | true => simp [setErange_true]
  | false =>
    simp only [setErange_false, he, false_or, Bool.false_eq_true]
    constructor
    · intro hneg
      exact ⟨_, if_pos hneg⟩
    · intro hneg
      rw [if_neg hneg]

/-- One round of the loop: a parameter that passes adds what it stands for; a
refused `select` returns; any other refusal changes nothing but `errno`. -/
structure RoundSpec (pf : Platform) (v : FetchVars) (p : HttpCmdParam) : Prop where
  next : passes pf v.errno p = true → fetchParam pf v p = .ok (.next (v.add pf p))
  ret : passes pf v.errno p = false → isSelect p = true →
    ∃ v', fetchParam pf v p = .ok (.ret CALLBACK_RETCODE_PARAM_ERROR v')
  brk : passes pf v.errno p = false → isSelect p = false →
    ∃ c e, fetchParam pf v p = .ok (.brk c (v.withErrno e)) ∧ c < 0

theorem known_names_distinct : KNOWN_PARAMS.Pairwise fun a b => ¬ a = b ∧ ¬ b = a := by
  have h : KNOWN_PARAMS.Nodup := by decide +kernel
  exact h.imp fun hne => ⟨hne, Ne.symm hne⟩

theorem roundSpec_tempunit (pf : Platform) (v : FetchVars) (value : Bytes) :
    RoundSpec pf v ⟨some (ascii "tempunit"), some value⟩ := by
  have hkeys := known_names_distinct
  simp only [KNOWN_PARAMS, List.pairwise_cons, List.forall_mem_cons] at hkeys
  have hpass : passes pf v.errno ⟨some (ascii "tempunit"), some value⟩ = true ↔
      (value.map tolower = [RPIWD_TEMPERATURE_CELSIUS] ∨
        value.map tolower = [RPIWD_TEMPERATURE_FARENHEIT]) := by
    simp [passes, wellFormed, unknownName, KNOWN_PARAMS, paramReads, hkeys, badValue, badValueOf,
      or_iff_not_imp_left]
  have hstep := fetchParam_tempunit pf v value
  rw [fetchTempunit_spec] at hstep
  refine ⟨fun hp => ?_, fun _ hs => ?_, fun hp _ => ?_⟩
  · rw [hstep]
    simp only [FetchVars.add, if_true]
    rcases hpass.mp hp with hc | hf
    · rw [if_pos hc, if_pos hc]
    · have hc : value.map tolower ≠ [RPIWD_TEMPERATURE_CELSIUS] := by
        rw [hf]
        decide
      rw [if_neg hc, if_pos hf, if_neg hc]
  · simp [isSelect, hkeys] at hs
  · have hno := mt hpass.mpr (Bool.eq_false_iff.mp hp)
    rw [not_or] at hno
    rw [hstep, if_neg hno.1, if_neg hno.2]
    exact ⟨_, v.errno, rfl, by decide⟩

theorem roundSpec_date (pf : Platform) (v : FetchVars) {name : Bytes} (value : Bytes)
    (hname : name = ascii "from" ∨ name = ascii "to" ∨ name = ascii "on") :
    RoundSpec pf v ⟨some name, some value⟩ := by
  have hkeys := known_names_distinct
  simp only [KNOWN_PARAMS, List.pairwise_cons, List.forall_mem_cons] at hkeys
  have ht : name ≠ ascii "tempunit" := by
    rcases hname with rfl | rfl | rfl <;> simp [hkeys]
  have hs : name ≠ ascii "select" := by
    rcases hname with rfl | rfl | rfl <;> simp [hkeys]
  have hknown : unknownName ⟨some name, some value⟩ = false := by
    rcases hname with rfl | rfl | rfl <;> simp [unknownName, KNOWN_PARAMS]
  have hreads : paramReads pf ⟨some name, some value⟩ = readsErrno pf value := by
    rcases hname with rfl | rfl | rfl <;> simp [paramReads, hkeys]
  have hbad : badValue pf ⟨some name, some value⟩ = true ↔
      (normalizeDate pf 0 value).1 = 0 ∨ (normalizeDate pf 0 value).1 = -1 := by
    simp [badValue, badValueOf, ht, hname]
  have hstep := fetchParam_date pf v value hname
  have hsel : isSelect ⟨some name, some value⟩ = false := by simp [isSelect, hs]
  refine ⟨fun hp => ?_, fun _ h => absurd (hsel.symm.trans h) (by decide), fun hp _ => ?_⟩
  · obtain ⟨-, hgood, hread⟩ := passes_iff.mp hp
    rw [hreads] at hread
    have hdate := (fetchDate_spec pf v name value hread).2
      (mt hbad.mpr (Bool.eq_false_iff.mp hgood))
    rw [hstep, hdate]
    rcases hname with rfl | rfl | rfl <;> simp [FetchVars.add, hkeys]
  · rw [hstep]
    by_cases hread : v.errno ≠ ERANGE ∨ readsErrno pf value = false
    · have hb := badValue_of_not_passes hp hknown (by rwa [hreads])
      obtain ⟨e, he⟩ := (fetchDate_spec pf v name value hread).1 (hbad.mp hb)
      exact ⟨_, e, by rw [he], by decide⟩
    · -- a left-over `ERANGE` makes the time zero
      rw [not_or, not_not, Bool.not_eq_false] at hread
      refine ⟨CALLBACK_RETCODE_PARAM_ERROR, ERANGE, ?_, by decide⟩
      simp only [fetchDate, hread.1, normalizeDate_erange hread.2, true_or, if_true]
      rfl

theorem roundSpec_select (pf : Platform) (v : FetchVars) (value : Bytes) :
    RoundSpec pf v ⟨some (ascii "select"), some value⟩ := by
  have hkeys := known_names_distinct
  simp only [KNOWN_PARAMS, List.pairwise_cons, List.forall_mem_cons] at hkeys
  have hknown : unknownName ⟨some (ascii "select"), some value⟩ = false := by
    simp [unknownName, KNOWN_PARAMS]
  have hreads : paramReads pf ⟨some (ascii "select"), some value⟩ = true := by simp [paramReads]
  have hbad : badValue pf ⟨some (ascii "select"), some value⟩ = true ↔
      (strtol value).2 = true ∨ toInt32 (strtol value).1 < 0 := by
    simp [badValue, badValueOf, hkeys]
  have hstep := fetchParam_select pf v value
  have hsel : isSelect ⟨some (ascii "select"), some value⟩ = true := by simp [isSelect]
  refine ⟨fun hp => ?_, fun hp _ => ?_, fun _ h => absurd (hsel.symm.trans h) (by decide)⟩
  · obtain ⟨-, hgood, hread⟩ := passes_iff.mp hp
    have he : v.errno ≠ ERANGE := hread.resolve_right (by rw [hreads]; decide)
    have hselect := (fetchSelect_spec v value he).2
      (mt hbad.mpr (Bool.eq_false_iff.mp hgood))
    rw [hstep, hselect]
    simp [FetchVars.add, hkeys]
  · rw [hstep]
    by_cases he : v.errno = ERANGE
    · obtain ⟨v', hv'⟩ := fetchSelect_stale he value
      exact ⟨v', by rw [hv']⟩
    · have hb := badValue_of_not_passes hp hknown (.inl he)
      obtain ⟨v', hv'⟩ := (fetchSelect_spec v value he).1 (hbad.mp hb)
      exact ⟨v', by rw [hv']⟩

theorem roundSpec (pf : Platform) (v : FetchVars) {p : HttpCmdParam} (hname : p.name.isSome = true) :
    RoundSpec pf v p := by
  obtain ⟨name, value⟩ := p
  obtain ⟨name, rfl⟩ := Option.isSome_iff_exists.mp hname
  cases value with
  | none =>
    have hp : passes pf v.errno ⟨some name, none⟩ = false := by
      simp [passes, wellFormed, badValue]
    refine ⟨fun h => absurd (hp.symm.trans h) Bool.false_ne_true, fun _ h => ?_, fun _ _ => ?_⟩
    · simp [isSelect] at h
    · exact ⟨CALLBACK_RETCODE_PARAM_ERROR, v.errno, rfl, by decide⟩
  | some value =>
    by_cases ht : name = ascii "tempunit"
    · subst ht
      exact roundSpec_tempunit pf v value
    by_cases hd : name = ascii "from" ∨ name = ascii "to" ∨ name = ascii "on"
    · exact roundSpec_date pf v value hd
    by_cases hs : name = ascii "select"
    · subst hs
      exact roundSpec_select pf v value
    have hp : passes pf v.errno ⟨some name, some value⟩ = false := by
      rw [not_or, not_or] at hd
      simp [passes, wellFormed, unknownName, KNOWN_PARAMS, ht, hd, hs]
    refine ⟨fun h => absurd (hp.symm.trans h) Bool.false_ne_true, fun _ h => ?_, fun _ _ => ?_⟩
    · simp [isSelect, hs] at h
    · refine ⟨CALLBACK_RETCODE_UNKNOWN_PARAM, v.errno, ?_, by decide⟩
      simp only [fetchParam, deref, Except.map, if_neg ht, if_neg hd, if_neg hs]
      rfl

/-! ## The loop -/

theorem FetchVars.add_errno_eq (pf : Platform) (v : FetchVars) (p : HttpCmdParam) :
    (v.add pf p).errno = v.errno := by
  have h := FetchVars.add_errno pf v p v.errno
  rw [FetchVars.withErrno_self] at h
  rw [h]
  rfl

theorem foldl_add_errno (pf : Platform) (e : Errno) :
    ∀ (ps : List HttpCmdParam) (v : FetchVars),
      ps.foldl (FetchVars.add pf) (v.withErrno e) = (ps.foldl (FetchVars.add pf) v).withErrno e
  | [], _ => rfl
  | p :: ps, v => by
    rw [List.foldl_cons, FetchVars.add_errno, foldl_add_errno pf e ps]
    rfl

/-- The loop gathers what the parameters stand for, up to the first one that
does not pass. -/
theorem fetchLoop_spec (pf : Platform) :
    ∀ (ps : List HttpCmdParam) (v : FetchVars), (∀ p ∈ ps, p.name.isSome = true) →
      fetchLoop pf ps v = match ps.dropWhile (passes pf v.errno) with
        | [] => .ok (.next (ps.foldl (FetchVars.add pf) v))
        | p :: _ => fetchParam pf ((ps.takeWhile (passes pf v.errno)).foldl (FetchVars.add pf) v) p
  | [], _, _ => rfl
  | p :: ps, v, hnames => by
    have hspec := roundSpec pf v (hnames p (List.mem_cons_self ..))
    unfold fetchLoop
    cases hp : passes pf v.errno p with
    | true =>
      have ih := fetchLoop_spec pf ps (v.add pf p) fun q hq => hnames q (List.mem_cons_of_mem _ hq)
      rw [FetchVars.add_errno_eq] at ih
      simp only [hspec.next hp, ih, List.dropWhile_cons, List.takeWhile_cons, hp, if_true,
        List.foldl_cons]
    | false =>
      simp only [List.dropWhile_cons, List.takeWhile_cons, hp, Bool.false_eq_true, if_false,
        List.foldl_nil]
      cases hsel : isSelect p with
      | true =>
        obtain ⟨v', hv'⟩ := hspec.ret hp hsel
        rw [hv']
      | false =>
        obtain ⟨c, e, hv', -⟩ := hspec.brk hp hsel
        rw [hv']

theorem fetchQueries_eq_none_iff (v : FetchVars) : fetchQueries v = none ↔ ¬ Supported v := by
  unfold fetchQueries Supported
  split_ifs <;> simp <;> omega

/-! ## What is seen of an error -/

/-- The first parameter that is not well formed has a missing or bad value;
without one, the combination is not supported. -/
def FirstIsBad (pf : Platform) (ps : List HttpCmdParam) : Prop :=
  match ps.dropWhile (wellFormed pf) with
  | [] => ¬ Supported (bounds pf ps)
  | p :: _ => badValue pf p = true

/-- The lists and messages for which an error is precise: the list runs
through the loop, and is supported or the message is a fetch already; or the
loop returns at a `select`, or stops elsewhere with no query to build and
the message a fetch already, while the error to report is a bad value. -/
def NotOverwritten (pf : Platform) (e : Errno) (ps : List HttpCmdParam) (mtype : MType) : Prop :=
  match ps.dropWhile (passes pf e) with
  | [] => Supported (bounds pf ps) ∨ mtype = .fetch
  | p :: _ => FirstIsBad pf ps ∧
      (isSelect p = true ∨
        ¬ Supported (bounds pf (ps.takeWhile (passes pf e))) ∧ mtype = .fetch)

theorem codeRight_paramError_iff (pf : Platform) {ps : List HttpCmdParam} (hne : ps ≠ []) :
    CodeRight pf ps CALLBACK_RETCODE_PARAM_ERROR ↔ FirstIsBad pf ps := by
  have hcode : CALLBACK_RETCODE_PARAM_ERROR ≠ CALLBACK_RETCODE_UNKNOWN_PARAM := by decide
  unfold CodeRight FirstIsBad
  rw [if_neg hne]
  split <;> simp [hcode]

/-- Behind the loop: nothing is wrong, or the message is turned into a fetch
and the code may be overwritten. -/
theorem fetchFinish_spec (msg : RpiwdMqmsg) {retflag : Int} (v : FetchVars) (h : ¬ 0 < retflag) :
    (Supported v → ∃ c s, (fetchFinish msg retflag v).code = retflag ∧
      (fetchFinish msg retflag v).msg.fcountq = some c ∧
      (fetchFinish msg retflag v).msg.fselectq = some s) ∧
    (¬ Supported v → (fetchFinish msg retflag v).code = CALLBACK_RETCODE_PARAM_ERROR ∧
      (fetchFinish msg retflag v).msg.mtype = .fetch ∧
      (fetchFinish msg retflag v).msg.fcountq = msg.fcountq ∧
      (fetchFinish msg retflag v).msg.fselectq = msg.fselectq) := by
  unfold fetchFinish
  simp only [gt_iff_lt, if_neg h]
  rw [← not_not (a := Supported v), ← fetchQueries_eq_none_iff]
  cases fetchQueries v with
  | none => simp
  | some q => simp

theorem preciseResult_finish {pf : Platform} {ps : List HttpCmdParam} {msg : RpiwdMqmsg}
    (hq : msg.fcountq = none) {retflag : Int} (v : FetchVars) (h : ¬ 0 < retflag) :
    PreciseResult pf ps msg (fetchFinish msg retflag v) ↔
      Supported v ∧ retflag = CALLBACK_RETCODE_SUCCESS ∨
        ¬ Supported v ∧ CodeRight pf ps CALLBACK_RETCODE_PARAM_ERROR ∧ msg.mtype = .fetch := by
  obtain ⟨hgood, hbad⟩ := fetchFinish_spec msg v h
  unfold PreciseResult
  by_cases hs : Supported v
  · obtain ⟨c, q, hcode, hcount, -⟩ := hgood hs
    simp [hs, hcode, hcount, hq]
  · obtain ⟨hcode, hmtype, hcount, hselect⟩ := hbad hs
    have hne : CALLBACK_RETCODE_PARAM_ERROR ≠ CALLBACK_RETCODE_SUCCESS := by decide
    simp [hs, hcode, hmtype, hcount, hselect, hne, eq_comm]

/-- A list whose parameters all pass: only the combination can be wrong. -/
theorem preciseResult_through {pf : Platform} {e : Errno} {ps : List HttpCmdParam}
    {msg : RpiwdMqmsg} (hq : msg.fcountq = none) (hall : ps.dropWhile (passes pf e) = []) :
    PreciseResult pf ps msg (fetchFinish msg 0 ((bounds pf ps).withErrno e)) ↔
      ps ≠ [] ∧ (Supported (bounds pf ps) ∨ msg.mtype = .fetch) := by
  have hs : Supported ((bounds pf ps).withErrno e) ↔ Supported (bounds pf ps) := Iff.rfl
  rw [preciseResult_finish hq _ (Int.lt_irrefl 0), hs]
  by_cases hne : ps = []
  · subst hne
    have hmissing : ¬ CodeRight pf [] CALLBACK_RETCODE_PARAM_ERROR := by
      rw [CodeRight, if_pos rfl]
      decide
    simp [hmissing, Supported, bounds]
  · have hwell : ps.dropWhile (wellFormed pf) = [] := by
      rw [List.dropWhile_eq_nil_iff] at hall ⊢
      intro p hp
      have hpass := hall p hp
      rw [passes, Bool.and_eq_true] at hpass
      exact hpass.1
    have hfirst : FirstIsBad pf ps ↔ ¬ Supported (bounds pf ps) := by
      rw [FirstIsBad, hwell]
    rw [codeRight_paramError_iff pf hne, hfirst]
    have hzero : (0 : Int) = CALLBACK_RETCODE_SUCCESS := rfl
    tauto

/-- A list whose first parameter that does not pass is `p`. -/
theorem preciseResult_stop {pf : Platform} {e : Errno} {ps rest : List HttpCmdParam}
    {p : HttpCmdParam} {msg : RpiwdMqmsg} (hq : msg.fcountq = none)
    (hname : p.name.isSome = true) (hstop : ps.dropWhile (passes pf e) = p :: rest) (pre : FetchVars) :
    (∃ r, (fetchParam pf (pre.withErrno e) p).map (fetchReturn msg) = .ok r ∧
      PreciseResult pf ps msg r) ↔
      FirstIsBad pf ps ∧ (isSelect p = true ∨ ¬ Supported pre ∧ msg.mtype = .fetch) := by
  have hne : ps ≠ [] := by
    rintro rfl
    cases hstop
  have hp : passes pf e p = false := by
    have hhead := List.head?_dropWhile_not (passes pf e) ps
    rwa [hstop] at hhead
  have hspec := roundSpec pf (pre.withErrno e) hname
  rw [← codeRight_paramError_iff pf hne]
  cases hsel : isSelect p with
  | true =>
    obtain ⟨v', hret⟩ := hspec.ret hp hsel
    have hcode : CALLBACK_RETCODE_PARAM_ERROR ≠ CALLBACK_RETCODE_SUCCESS := by decide
    simp [hret, Except.map, fetchReturn, PreciseResult, hcode]
  | false =>
    obtain ⟨c, e', hbrk, hneg⟩ := hspec.brk hp hsel
    have hs : Supported ((pre.withErrno e).withErrno e') ↔ Supported pre := Iff.rfl
    have hc : c ≠ CALLBACK_RETCODE_SUCCESS := by
      rintro rfl
      exact absurd hneg (by decide)
    simp only [hbrk, Except.map, Except.ok.injEq, exists_eq_left', fetchReturn]
    rw [preciseResult_finish hq _ (by omega), hs]
    simp only [hc, and_false, false_or, Bool.false_eq_true]
    tauto

/-- **Precise errors.** For every list with the names a parsed one has
(`parseRequestLine_named`) and every new message, an error is the one to
report and leaves the message alone exactly if the list is NULL or a
non-empty one the loop's way of stopping does not disturb. -/
theorem precise_errors_iff (env : Env) (errno : Errno) (cmd : HttpCmd) (stack : RpiwdMqmsg)
    (clientsock : Int) (hnames : ∀ p ∈ cmd.params.getD [], p.name.isSome = true) :
    PreciseErrors env errno cmd (newMessage stack clientsock) ↔
      cmd.params = none ∨
        cmd.params.getD [] ≠ [] ∧
          NotOverwritten env.platform errno (cmd.params.getD []) stack.mtype := by
  obtain ⟨cmdname, params⟩ := cmd
  cases params with
  | none => simp [PreciseErrors, fetchCommandCallback, PreciseResult, CodeRight]
  | some ps =>
    simp only [Option.getD_some, reduceCtorEq, false_or] at hnames ⊢
    have hq : (newMessage stack clientsock).fcountq = none := rfl
    have hm : (newMessage stack clientsock).mtype = stack.mtype := rfl
    have hstart : (⟨0, 0, 0, 0, (newMessage stack clientsock).unitstr, errno⟩ : FetchVars) =
        (⟨0, 0, 0, 0, unitString, 0⟩ : FetchVars).withErrno errno := rfl
    unfold PreciseErrors NotOverwritten
    rw [fetchCommandCallback_some, hstart, fetchLoop_spec env.platform ps _ hnames,
      FetchVars.withErrno_errno, foldl_add_errno, foldl_add_errno, Option.getD_some, ← hm]
    cases hstop : ps.dropWhile (passes env.platform errno) with
    | nil =>
      rw [← preciseResult_through hq hstop]
      simp only [Except.map, Except.ok.injEq, exists_eq_left', fetchReturn]
      rfl
    | cons p rest =>
      have hmem : p ∈ ps := by
        refine (List.dropWhile_suffix (passes env.platform errno)).subset ?_
        rw [hstop]
        exact List.mem_cons_self ..
      have hne : ps ≠ [] := List.ne_nil_of_mem hmem
      rw [and_iff_right hne]
      exact preciseResult_stop hq (hnames p hmem) hstop _

/-- `fetch?name=value&...` -/
def fetchCmd (params : List (String × String)) : HttpCmd :=
  ⟨ascii "fetch", some (params.map fun (n, v) => ⟨some (ascii n), some (ascii v)⟩)⟩

/-- A negative number of entries is reported and nothing else happens. -/
theorem precise_errors_select :
    PreciseErrors default 0 (fetchCmd [("select", "-1")]) (newMessage default 3) := by
  have hparsed : parseRequestLine (some (ascii "GET /fetch?select=-1 HTTP/1.1")) 0 =
      .ok (some (fetchCmd [("select", "-1")]), 0) := by decide +kernel
  refine (precise_errors_iff default 0 (fetchCmd [("select", "-1")]) default 3
    (parseRequestLine_named hparsed)).mpr (.inr ⟨by decide, ?_, .inl ?_⟩)
  · show badValue _ _ = true
    decide +kernel
  · decide +kernel

/-- No parameter at all is called a bad one, and so is an unknown one; behind
a number of entries the unknown one is reported, but the message has become
a fetch of these entries. -/
theorem fetch_errors_imprecise :
    ¬ PreciseErrors default 0 (fetchCmd []) (newMessage default 3) ∧
    ¬ PreciseErrors default 0 (fetchCmd [("colour", "red")]) (newMessage default 3) ∧
    ∃ r, fetchCommandCallback default 0 (fetchCmd [("select", "5"), ("colour", "red")])
        (newMessage default 3) = .ok r ∧
      r.code = CALLBACK_RETCODE_UNKNOWN_PARAM ∧ r.msg.mtype = .fetch ∧
      r.msg.fcountq = some (.countSelectN 5) ∧ (newMessage default 3).fcountq = none := by
  refine ⟨?_, ?_, ?_⟩
  · rintro ⟨r, hr, hp⟩
    cases hr
    have hcode : CodeRight _ [] CALLBACK_RETCODE_PARAM_ERROR := (hp (by decide)).1
    rw [CodeRight, if_pos rfl] at hcode
    exact absurd hcode (by decide)
  · rintro ⟨r, hr, hp⟩
    cases hr
    have hcode : CodeRight _ [⟨some (ascii "colour"), some (ascii "red")⟩]
        CALLBACK_RETCODE_PARAM_ERROR := (hp (by decide)).1
    rw [codeRight_paramError_iff _ (by decide)] at hcode
    have hbad : badValue _ ⟨some (ascii "colour"), some (ascii "red")⟩ = true := hcode
    exact absurd hbad (by decide +kernel)
  · exact ⟨_, rfl, by decide +kernel⟩

end Rpiweatherd
