import Rpiweatherd.L2Http.Reader
import Rpiweatherd.L2Http.Response
import Rpiweatherd.L3Listener.DbThread

/-!
# One round of a worker (`src/listener.c:185-317`)

`worker_listener_loop` takes a message and either answers it and closes its
socket, or passes it on. `Locals` are the variables that live across rounds:
`response`, `is_eof`, `jval` and the thread's `errno`. None of them is reset
at the top of the loop.
-/
namespace Rpiweatherd

/-- `jval` between two rounds: NULL, or a pointer to a value already freed
by `json_value_free`. -/
inductive JsonPtr where
  | null
  | freed
  deriving DecidableEq, Repr

structure Locals where
  response : Int
  isEof : Bool
  jval : JsonPtr
  errno : Errno
  deriving DecidableEq, Repr

/-- A thread that has handled nothing. -/
def Locals.start : Locals := ⟨HTTP_PARSER_ERROR_SUCCESS, false, .null, 0⟩

/-- How a round ends: a reply and a close, a close alone, or the message
sent on. -/
inductive Outcome where
  | reply (r : Reply)
  | silent
  | toDb (m : RpiwdMqmsg)
  | toWorker (m : RpiwdMqmsg)
  deriving DecidableEq

/-- The commands answered with 204. -/
def isBrowserStuff (cmdname : Bytes) : Bool :=
  cmdname = ascii "favicon.ico" || cmdname = ascii "text-html"

/-- What follows from a callback's result. mirrors src/listener.c:228-245 -/
def routeResult (r : CallbackResult) : Outcome :=
  if r.code ≠ CALLBACK_RETCODE_SUCCESS then
    .reply (errorReply HTTP_CODE_REQUEST_BAD_REQUEST r.code (commandCallbackStrerror r.code))
  else if r.msg.mtype = .fetch ∨ r.msg.mtype = .stats then .toDb r.msg
  else .toWorker r.msg

/-- The answer to a request that gave no command.
mirrors src/listener.c:198-211 -/
def refuse (response : Int) (isEof : Bool) : Outcome :=
  if isEof then .silent
  else .reply (errorReply HTTP_CODE_REQUEST_BAD_REQUEST HTTP_CODE_REQUEST_BAD_REQUEST
    (httpParserStrerror response))

/-- A parsed command: the outcome and `errno`.
mirrors src/listener.c:213-248 -/
def serve (env : Env) (errno : Errno) (cmd : HttpCmd) (msg : RpiwdMqmsg) :
    Except Fault (Outcome × Errno) :=
  if isBrowserStuff cmd.cmdname then .ok (.reply ⟨HTTP_CODE_NO_CONTENT, .empty⟩, errno)
  else (dispatchCommand env errno cmd msg).map fun r => (routeResult r, r.errno)

/-- A failing `read` sets `errno`. -/
def ReadResult.errnoOf (rd : ReadResult) (errno : Errno) : Errno :=
  match rd with
  | .error e => e
  | _ => errno

/-- A message that is not completed. mirrors src/listener.c:195-249 -/
def handleNew (env : Env) (l : Locals) (msg : RpiwdMqmsg) (rd : ReadResult) :
    Except Fault (Outcome × Locals) := do
  let (cmd, response, isEof) ← readAndParseResponse rd l.response l.isEof
  let errno := rd.errnoOf l.errno
  let l := { l with response := response, isEof := isEof }
  match cmd with
  | none => return (refuse response isEof, { l with errno := env.errnoAfter errno })
  | some cmd =>
    let (out, errno) ← serve env errno cmd msg
    return (out, { l with errno := env.errnoAfter errno })

/-- The unit character a document shows. -/
def tempunitOf (msg : RpiwdMqmsg) : Option UInt8 :=
  some (msg.unitstr.getD RPIWD_MEASURE_TEMPERATURE 0)

/-- The conversion to JSON, `none` for NULL. A type without a case leaves
`jval` as it was. mirrors src/listener.c:252-264 -/
def jsonValue (jval : JsonPtr) (msg : RpiwdMqmsg) : Except Fault (Option Body) :=
  match msg.mtype with
  | .fetch =>
    match msg.data with
    | none => .ok none
    | some (.entries l) => .ok (some (.document (.entries l) (tempunitOf msg)))
    | some _ => .error .typeConfusion
  | .current =>
    match msg.data with
    | none => .ok none
    | some (.entry e) => .ok (some (.document (.entry e) (tempunitOf msg)))
    | some _ => .error .typeConfusion
  | .stats | .config => (asKeyValues msg.data).map fun l => some (.document (.keyValues l) none)
  | _ =>
    match jval with
    | .null => .ok none
    | .freed => .error .useAfterFree

/-- A completed message. mirrors src/listener.c:250-313 -/
def handleCompleted (env : Env) (l : Locals) (msg : RpiwdMqmsg) : Except Fault (Outcome × Locals) :=
  (jsonValue l.jval msg).map fun
    | some body =>
      (.reply ⟨HTTP_CODE_OK, body⟩, { l with jval := .freed, errno := env.errnoAfter l.errno })
    | none =>
      (.reply (errorReply HTTP_CODE_REQUEST_BAD_REQUEST msg.retcode (dbhandlerStrerror msg.retcode)),
        { l with jval := .null, errno := env.errnoAfter l.errno })

/-- One round, whichever kind of message it got. -/
def workerRound (env : Env) (l : Locals) (msg : RpiwdMqmsg) (rd : ReadResult) :
    Except Fault (Outcome × Locals) :=
  if msg.isCompleted then handleCompleted env l msg else handleNew env l msg rd

/-! ## What a round does to its message -/

/-- The types a worker or the database thread completes. -/
def MType.answerable : MType → Bool
  | .fetch | .current | .stats | .config => true
  | _ => false

/-- The same descriptor and the same receiver. -/
def SameAddress (m m' : RpiwdMqmsg) : Prop := m'.sockfd = m.sockfd ∧ m'.receiverMq = m.receiverMq

/-- A message on its way to the database. -/
def ForDb (m : RpiwdMqmsg) : Prop := m.mtype = .fetch ∨ m.mtype = .stats

/-- A message a worker can answer. -/
def Answerable (m : RpiwdMqmsg) : Prop := m.isCompleted = true ∧ m.mtype.answerable = true

/-- What a callback leaves of its message: the address, and on success a
type that says who is next. -/
def Routable (msg : RpiwdMqmsg) (r : CallbackResult) : Prop :=
  SameAddress msg r.msg ∧
    (r.code = CALLBACK_RETCODE_SUCCESS →
      ForDb r.msg ∨ (¬ ForDb r.msg ∧ Answerable r.msg))

theorem Routable.error {msg : RpiwdMqmsg} {r : CallbackResult} (ha : SameAddress msg r.msg)
    (c : Int) (hr : r.code = c) (hc : c ≠ CALLBACK_RETCODE_SUCCESS) : Routable msg r :=
  ⟨ha, fun e => absurd (hr ▸ e) hc⟩

theorem Routable.answered {msg : RpiwdMqmsg} {r : CallbackResult} (ha : SameAddress msg r.msg)
    (ht : r.msg.mtype = .current ∨ r.msg.mtype = .config) (hd : r.msg.isCompleted = true) :
    Routable msg r := by
  refine ⟨ha, fun _ => .inr ⟨?_, hd, ?_⟩⟩
  · rintro (e | e) <;> rcases ht with ht | ht <;> rw [ht] at e <;> cases e
  · rcases ht with ht | ht <;> rw [ht] <;> rfl

theorem currentMeasure_routable {env : Env} {errno : Errno} {msg : RpiwdMqmsg}
    {r : CallbackResult} (h : currentMeasure env errno msg = .ok r) : Routable msg r := by
  obtain ⟨l, hl⟩ := Option.isSome_iff_exists.mp env.configSet.1
  obtain ⟨d, hd⟩ := Option.isSome_iff_exists.mp env.configSet.2
  unfold currentMeasure at h
  split at h
  · cases h
    exact .error ⟨rfl, rfl⟩ CALLBACK_RETCODE_DEVICE_ERROR rfl (by decide)
  · simp only [hl, hd, deref, bind, Except.bind, pure, Except.pure] at h
    cases h
    exact .answered ⟨rfl, rfl⟩ (.inl rfl) rfl

theorem currentCommandCallback_routable {env : Env} {errno : Errno} {cmd : HttpCmd}
    {msg : RpiwdMqmsg} {r : CallbackResult}
    (h : currentCommandCallback env errno cmd msg = .ok r) : Routable msg r := by
  rcases currentCommandCallback_cases h with ⟨-, h⟩ | ⟨b, -, -, h⟩ | ⟨c, hc, rfl⟩
  · exact currentMeasure_routable h
  · -- the unit string is not part of the address
    have hr := currentMeasure_routable h
    exact ⟨hr.1, hr.2⟩
  · exact .error ⟨rfl, rfl⟩ c rfl hc

theorem fetchFinish_routable (msg : RpiwdMqmsg) (retflag : Int) (v : FetchVars) :
    Routable msg (fetchFinish msg retflag v) := by
  unfold fetchFinish
  dsimp only
  split
  · rename_i hpos
    exact .error ⟨rfl, rfl⟩ retflag rfl fun hc => absurd hpos (by rw [hc]; decide)
  · split
    · exact ⟨⟨rfl, rfl⟩, fun _ => .inl (.inl rfl)⟩
    · exact .error ⟨rfl, rfl⟩ CALLBACK_RETCODE_PARAM_ERROR rfl (by decide)

/-- A `return` out of the loop is an error. -/
theorem fetchLoop_ret {pf : Platform} :
    ∀ {ps : List HttpCmdParam} {v v' : FetchVars} {c : Int},
      fetchLoop pf ps v = .ok (.ret c v') → c = CALLBACK_RETCODE_PARAM_ERROR
  | [], _, _, _, h => by cases h
  | p :: ps, v, v', c, h => by
    unfold fetchLoop at h
    split at h
    · cases h
    · exact fetchLoop_ret h
    · rename_i s hs hp
      cases h
      cases fetchParam_round hp with
      | badSelect => rfl

theorem fetchCommandCallback_routable {env : Env} {errno : Errno} {cmd : HttpCmd}
    {msg : RpiwdMqmsg} {r : CallbackResult}
    (h : fetchCommandCallback env errno cmd msg = .ok r) : Routable msg r := by
  unfold fetchCommandCallback at h
  split at h
  · cases h; exact .error ⟨rfl, rfl⟩ CALLBACK_RETCODE_PARAMS_MISSING rfl (by decide)
  · obtain ⟨s, hs, rfl⟩ := map_ok h
    cases s with
    | next v => exact fetchFinish_routable msg 0 v
    | brk rf v => exact fetchFinish_routable msg rf v
    | ret c v =>
      exact .error ⟨rfl, rfl⟩ c rfl (by rw [fetchLoop_ret hs]; decide)

/-- **Callbacks.** Whatever the command, its callback keeps the address, and
a success names the next station. -/
theorem dispatchCommand_routable {env : Env} {errno : Errno} {cmd : HttpCmd} {msg : RpiwdMqmsg}
    {r : CallbackResult} (h : dispatchCommand env errno cmd msg = .ok r) : Routable msg r := by
  unfold dispatchCommand at h
  split at h
  · rename_i c hc
    cases c with
    | fetch => exact fetchCommandCallback_routable h
    | current => exact currentCommandCallback_routable h
    | statistics =>
      simp only [Command.callback, statisticsCommandCallback] at h
      split at h
      · cases h
        exact .error ⟨rfl, rfl⟩ CALLBACK_RETCODE_NO_PARAMS_NEEDED rfl (by decide)
      · cases h; exact ⟨⟨rfl, rfl⟩, fun _ => .inl (.inr rfl)⟩
    | config =>
      cases h
      exact .answered ⟨rfl, rfl⟩ (.inr rfl) rfl
  · cases h; exact .error ⟨rfl, rfl⟩ CALLBACK_RETCODE_UNKNOWN_COMMAND rfl (by decide)

/-- What an outcome says about the message that is passed on. -/
def Outcome.Passes (msg : RpiwdMqmsg) : Outcome → Prop
  | .toDb m => SameAddress msg m ∧ ForDb m
  | .toWorker m => SameAddress msg m ∧ Answerable m
  | _ => True

theorem routeResult_passes {msg : RpiwdMqmsg} {r : CallbackResult} (h : Routable msg r) :
    (routeResult r).Passes msg := by
  unfold routeResult
  split
  · trivial
  · rename_i hc
    have hnext := h.2 (not_not.mp hc)
    split
    · rename_i hdb; exact ⟨h.1, hdb⟩
    · rename_i hdb; exact ⟨h.1, (hnext.resolve_left hdb).2⟩

/-- A new message is refused, answered without a callback, or goes where its
callback's result sends it. -/
theorem handleNew_outcome {env : Env} {l l' : Locals} {msg : RpiwdMqmsg} {rd : ReadResult}
    {out : Outcome} (h : handleNew env l msg rd = .ok (out, l')) :
    (∃ response isEof, out = refuse response isEof) ∨
      out = .reply ⟨HTTP_CODE_NO_CONTENT, .empty⟩ ∨
      ∃ errno cmd r, dispatchCommand env errno cmd msg = .ok r ∧ out = routeResult r := by
  unfold handleNew at h
  obtain ⟨⟨cmd, response, isEof⟩, -, h⟩ := bind_ok h
  cases cmd with
  | none =>
    simp only [pure, Except.pure, Except.ok.injEq, Prod.mk.injEq] at h
    exact .inl ⟨response, isEof, h.1.symm⟩
  | some cmd =>
    obtain ⟨⟨out', e⟩, hs, h⟩ := bind_ok h
    simp only [pure, Except.pure, Except.ok.injEq, Prod.mk.injEq] at h
    obtain ⟨rfl, -⟩ := h
    unfold serve at hs
    split at hs
    · cases hs
      exact .inr (.inl rfl)
    · obtain ⟨r, hr, he⟩ := map_ok hs
      obtain ⟨rfl, -⟩ := Prod.mk.inj he
      exact .inr (.inr ⟨_, cmd, r, hr, rfl⟩)

/-- A new message is answered, dropped, or passed on to the right queue. -/
theorem handleNew_passes {env : Env} {l l' : Locals} {msg : RpiwdMqmsg} {rd : ReadResult}
    {out : Outcome} (h : handleNew env l msg rd = .ok (out, l')) : out.Passes msg := by
  rcases handleNew_outcome h with ⟨response, isEof, rfl⟩ | rfl | ⟨errno, cmd, r, hr, rfl⟩
  · unfold refuse
    split <;> trivial
  · trivial
  · exact routeResult_passes (dispatchCommand_routable hr)

/-- A completed message is always answered. -/
theorem handleCompleted_reply {env : Env} {l l' : Locals} {msg : RpiwdMqmsg} {out : Outcome}
    (h : handleCompleted env l msg = .ok (out, l')) : ∃ r, out = .reply r := by
  obtain ⟨o, -, he⟩ := map_ok h
  cases o <;> (cases he; exact ⟨_, rfl⟩)

/-! ## The codes of the replies -/

/-- `make_response` has a text for the code of the reply. -/
def Outcome.CodeKnown : Outcome → Prop
  | .reply r => (httpCodeStr r.code).isSome = true
  | _ => True

/-- **Replies.** A round replies with a code `http_code_str` knows, so the
format `make_response` gets from it is not NULL. -/
theorem workerRound_codeKnown {env : Env} {l l' : Locals} {msg : RpiwdMqmsg} {rd : ReadResult}
    {out : Outcome} (h : workerRound env l msg rd = .ok (out, l')) : out.CodeKnown := by
  have hok : (httpCodeStr HTTP_CODE_OK).isSome = true := rfl
  have hnone : (httpCodeStr HTTP_CODE_NO_CONTENT).isSome = true := rfl
  have hbad : (httpCodeStr HTTP_CODE_REQUEST_BAD_REQUEST).isSome = true := rfl
  unfold workerRound at h
  split at h
  · obtain ⟨o, -, he⟩ := map_ok h
    cases o with
    | none =>
      cases he
      exact hbad
    | some body =>
      cases he
      exact hok
  · rcases handleNew_outcome h with ⟨response, isEof, rfl⟩ | rfl | ⟨errno, cmd, r, -, rfl⟩
    · unfold refuse
      split
      · trivial
      · exact hbad
    · exact hnone
    · unfold routeResult
      split
      · exact hbad
      · split <;> trivial

end Rpiweatherd
