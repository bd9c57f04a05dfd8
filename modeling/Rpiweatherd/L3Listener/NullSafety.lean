import Rpiweatherd.L2Http.Reader
import Rpiweatherd.L3Listener.Callbacks

/-!
# Which request texts the daemon survives

Three places use a string that `strtok_r` may not have found: the first
`&`-piece goes to `parse_http_param` unchecked, the duplicate check compares
every name, and `current` measures the value of its only parameter. Before
them the parts of the line are copied into arrays of a fixed size.
`nullFree_iff` is the exact set of request texts that get through.
-/
namespace Rpiweatherd

/-! ## The callbacks -/

theorem fetchLoop_isOk (pf : Platform) :
    ∀ (ps : List HttpCmdParam) (v : FetchVars), (∀ p ∈ ps, p.name.isSome = true) →
      ∃ s, fetchLoop pf ps v = .ok s
  | [], v, _ => ⟨.next v, rfl⟩
  | p :: ps, v, h => by
    obtain ⟨name, hn⟩ := Option.isSome_iff_exists.mp (h p (List.mem_cons_self ..))
    have hp : ∃ s, fetchParam pf v p = .ok s := by
      unfold fetchParam
      cases p.value with
      | none => exact ⟨_, rfl⟩
      | some value => rw [hn]; exact ⟨_, rfl⟩
    obtain ⟨s, hs⟩ := hp
    unfold fetchLoop
    rw [hs]
    cases s with
    | next v' => exact fetchLoop_isOk pf ps v' fun q hq => h q (List.mem_cons_of_mem _ hq)
    | brk r v' => exact ⟨_, rfl⟩
    | ret c v' => exact ⟨_, rfl⟩

theorem currentMeasure_isOk (env : Env) (errno : Errno) (msg : RpiwdMqmsg) :
    ∃ r, currentMeasure env errno msg = .ok r := by
  obtain ⟨l, hl⟩ := Option.isSome_iff_exists.mp env.configSet.1
  obtain ⟨d, hd⟩ := Option.isSome_iff_exists.mp env.configSet.2
  unfold currentMeasure
  cases queryDevice env.device CONFIG_MAX_QUERY_ATTEMPTS 0 with
  | none => exact ⟨_, rfl⟩
  | some p => simp only [hl, hd]; exact ⟨_, rfl⟩

/-- `current` uses the value of an only parameter, whatever its name is. -/
theorem currentCommandCallback_null (env : Env) (errno : Errno) (name : Option Bytes)
    (c : Bytes) (msg : RpiwdMqmsg) :
    currentCommandCallback env errno ⟨c, some [⟨name, none⟩]⟩ msg = .error .nullDeref := rfl

theorem currentCommandCallback_isOk (env : Env) (errno : Errno) {cmd : HttpCmd}
    (hn : ∀ p ∈ cmd.params.getD [], p.name.isSome = true)
    (hv : ∀ p, cmd.params.getD [] = [p] → p.value.isSome = true) (msg : RpiwdMqmsg) :
    ∃ r, currentCommandCallback env errno cmd msg = .ok r := by
  unfold currentCommandCallback
  split
  · exact currentMeasure_isOk env errno msg
  · rename_i p hp
    obtain ⟨value, hvalue⟩ := Option.isSome_iff_exists.mp (hv p hp)
    obtain ⟨name, hname⟩ := Option.isSome_iff_exists.mp (hn p (by rw [hp]; exact List.mem_singleton_self p))
    rw [hvalue, hname]
    simp only [deref]
    split
    · rename_i h; cases h
    · simp only [Except.bind]
      split
      · split
        · exact currentMeasure_isOk env errno _
        · exact ⟨_, rfl⟩
      · exact ⟨_, rfl⟩
    · exact ⟨_, rfl⟩
  · exact ⟨_, rfl⟩

/-- With every name present, and a value for the only parameter of
`current`, no callback stops. -/
theorem dispatchCommand_isOk (env : Env) (errno : Errno) {cmd : HttpCmd}
    (hn : ∀ p ∈ cmd.params.getD [], p.name.isSome = true)
    (hv : cmd.cmdname = ascii "current" → ∀ p, cmd.params.getD [] = [p] → p.value.isSome = true)
    (msg : RpiwdMqmsg) : ∃ r, dispatchCommand env errno cmd msg = .ok r := by
  unfold dispatchCommand
  cases hc : commandTable.lookup cmd.cmdname with
  | none => exact ⟨_, rfl⟩
  | some c =>
    cases c with
    | fetch =>
      simp only [Command.callback, fetchCommandCallback]
      cases hp : cmd.params with
      | none => exact ⟨_, rfl⟩
      | some ps =>
        obtain ⟨s, hs⟩ := fetchLoop_isOk env.platform ps ⟨0, 0, 0, 0, msg.unitstr, errno⟩
          (by rw [hp] at hn; exact hn)
        simp only [hs]
        exact ⟨_, rfl⟩
    | current =>
      refine currentCommandCallback_isOk env errno hn (hv ?_) msg
      -- the table is searched by name
      by_contra hne
      have hne' : (cmd.cmdname == ascii "current") = false := by simpa using hne
      unfold commandTable at hc
      simp only [List.lookup_cons, hne', List.lookup_nil] at hc
      split at hc
      · cases hc
      · split at hc
        · cases hc
        · split at hc <;> cases hc
    | statistics =>
      simp only [Command.callback, statisticsCommandCallback]
      split <;> exact ⟨_, rfl⟩
    | config => exact ⟨_, rfl⟩

/-! ## The whole path from a request text -/

/-- The piece has a value: a byte other than `=` behind its name. -/
def HasValue (s : Bytes) : Prop := HasName (strtok (ascii "=") s).2

instance (s : Bytes) : Decidable (HasValue s) :=
  inferInstanceAs (Decidable (HasName (strtok (ascii "=") s).2))

theorem paramOf_value_isSome {s : Bytes} : (paramOf s).value.isSome = true ↔ HasValue s :=
  paramOf_name_isSome (s := (strtok (ascii "=") s).2)

/-- Parsing the NUL-terminated text returns, and so does dispatching the command
it gives: neither uses NULL as a string, or stops in any other way. -/
def NullFree (request : Bytes) : Prop :=
  ∀ response : Int, ∃ cmd r, parseHttpRequest (request ++ [0]) response = .ok (cmd, r) ∧
    ∀ c ∈ cmd, ∀ (env : Env) (errno : Errno) (msg : RpiwdMqmsg),
      ∃ res, dispatchCommand env errno c msg = .ok res

/-- The argument string has a piece to parse and every counted piece a name;
and an only piece of `current` has a value. -/
def QuerySafe (b : Broken) : Prop :=
  ArgsSafe b.args ∧
    (b.command = ascii "current" → ∀ seg, paramSegs b.args = [seg] → HasValue seg)

/-- The texts without a line, and those whose line fits the arrays and is
refused or has a safe query. -/
def TextSafe (request : Bytes) : Prop :=
  ∀ line, requestLine request = some line →
    LineFits line ∧ (Accepted line → QuerySafe (broken (requestTokens line)))

theorem buildCmd_names {b : Broken} (h : ArgsSafe b.args) {resp r : Int} {cmd : HttpCmd}
    (hc : buildCmd b resp = .ok (some cmd, r)) :
    cmd = ⟨b.command, some ((paramSegs b.args).map paramOf)⟩ := by
  rw [buildCmd_safe h] at hc
  split at hc
  · cases hc
  · split at hc
    · cases hc
    · cases hc; rfl

theorem querySafe_dispatch {b : Broken} (h : QuerySafe b) {resp r : Int} {cmd : HttpCmd}
    (hc : buildCmd b resp = .ok (some cmd, r)) (env : Env) (errno : Errno) (msg : RpiwdMqmsg) :
    ∃ res, dispatchCommand env errno cmd msg = .ok res := by
  obtain rfl := buildCmd_names h.1 hc
  refine dispatchCommand_isOk env errno (fun p hp => ?_) (fun hcur p hp => ?_) msg
  · obtain ⟨s, hs, rfl⟩ := List.mem_map.mp hp
    exact paramOf_name_isSome.mpr (h.1.2 s hs)
  · obtain ⟨s, hs, rfl⟩ := List.map_eq_singleton_iff.mp hp
    exact paramOf_value_isSome.mpr (h.2 hcur s hs)

/-- An only piece of `current` without a value stops the callback. -/
theorem current_no_value_null {b : Broken} (h : ArgsSafe b.args) {seg : Bytes}
    (hcur : b.command = ascii "current") (hseg : paramSegs b.args = [seg]) (hv : ¬ HasValue seg)
    (resp : Int) :
    ∃ cmd, buildCmd b resp = .ok (some cmd, resp) ∧
      ∀ env errno msg, dispatchCommand env errno cmd msg = .error .nullDeref := by
  have hdup : Duplicated b.args = false := by simp [Duplicated, hseg]
  refine ⟨⟨b.command, some [paramOf seg]⟩, ?_, fun env errno msg => ?_⟩
  · rw [buildCmd_safe h]
    simp [hseg, hdup]
  · have hnone : (paramOf seg).value = none := by
      rw [← Option.not_isSome_iff_eq_none]
      exact fun e => hv (paramOf_value_isSome.mp e)
    have hp : paramOf seg = ⟨(paramOf seg).name, none⟩ := by rw [← hnone]
    rw [hcur, hp]
    exact currentCommandCallback_null env errno (paramOf seg).name (ascii "current") msg

/-- **Null safety.** The daemon survives a client's text exactly when its line,
if it has one, fits and the query of the line, if it gets that far, is safe. -/
theorem nullFree_iff (request : Bytes) : NullFree request ↔ TextSafe request := by
  unfold NullFree TextSafe
  simp only [parseHttpRequest_nul]
  constructor
  · intro h line hl
    rw [hl] at h
    obtain ⟨cmd, r, hparse, hdispatch⟩ := h 0
    have hsafe : LineSafe line := by
      by_contra hs
      obtain ⟨e, -, he⟩ := parseRequestLine_not_safe hs
      rw [he 0] at hparse
      cases hparse
    refine ⟨hsafe.1, fun ha => ⟨hsafe.2 ha, fun hcur seg hseg => ?_⟩⟩
    by_contra hv
    obtain ⟨c, hb, hnull⟩ := current_no_value_null (hsafe.2 ha) hcur hseg hv 0
    rw [parseRequestLine_accepted hsafe.1 ha, hb] at hparse
    cases hparse
    obtain ⟨res, hres⟩ := hdispatch c rfl default 0 default
    rw [hnull] at hres
    cases hres
  · intro h response
    cases hl : requestLine request with
    | none => exact ⟨none, response, rfl, fun c hc => by cases hc⟩
    | some line =>
      obtain ⟨hfits, hquery⟩ := h line hl
      by_cases ha : Accepted line
      · obtain ⟨⟨cmd, r⟩, hparse⟩ : ∃ res, parseRequestLine (some line) response = .ok res :=
          ⟨_, parseRequestLine_safe ⟨hfits, fun ha => (hquery ha).1⟩ response⟩
        refine ⟨cmd, r, hparse, ?_⟩
        rintro c rfl env errno msg
        rw [parseRequestLine_accepted hfits ha] at hparse
        exact querySafe_dispatch (hquery ha) hparse env errno msg
      · exact ⟨none, _, parseRequestLine_rejected hfits ha response, fun c hc => by cases hc⟩

/-- One text for each of the three places: no piece at all, a piece without
a name, and `current` with a name alone. -/
theorem nullFree_fails :
    ¬ NullFree (ascii "GET /fetch?& HTTP/1.1\r\n") ∧
    ¬ NullFree (ascii "GET /fetch?=&a=1 HTTP/1.1\r\n") ∧
    ¬ NullFree (ascii "GET /current?tempunit HTTP/1.1\r\n") := by
  have hparse : ∀ {request : Bytes}, parseHttpRequest (request ++ [0]) 0 = .error .nullDeref →
      ¬ NullFree request := by
    intro request hnull h
    obtain ⟨cmd, r, hok, -⟩ := h 0
    rw [hnull] at hok
    cases hok
  refine ⟨hparse rfl, hparse rfl, fun h => ?_⟩
  obtain ⟨cmd, r, hok, hdispatch⟩ := h 0
  have hcmd : parseHttpRequest (ascii "GET /current?tempunit HTTP/1.1\r\n" ++ [0]) 0 =
      .ok (some ⟨ascii "current", some [⟨some (ascii "tempunit"), none⟩]⟩, 0) := rfl
  rw [hcmd] at hok
  cases hok
  obtain ⟨res, hres⟩ := hdispatch _ rfl default 0 default
  cases hres

end Rpiweatherd
