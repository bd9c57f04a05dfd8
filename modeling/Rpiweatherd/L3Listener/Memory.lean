import Rpiweatherd.L3Listener.FetchErrno

/-!
# What a worker remembers of earlier connections

Three of the loop-carried variables leak from one connection into the answer
of a later one, and so does the unwritten part of the read buffer:

* `is_eof` is set once and never cleared: after an end-of-file connection
  every refused request is closed without a reply;
* `response` is not written when no request line is found: such a request is
  answered with the error text of an earlier one;
* `errno`: a left-over `ERANGE` refuses valid `fetch` requests;
* the buffer: an unterminated request is completed by left-over bytes.

`ownOutcome` is the answer a request deserves by itself, and `memoryless_iff`
the exact condition on the thread's variables under which it gets it.
`jval` does not leak: completed messages of the four kinds set it.
-/
namespace Rpiweatherd

/-- A message taken from the queue, the world it met, and what `read` gave
if the socket was read. -/
structure Handled where
  env : Env
  msg : RpiwdMqmsg
  rd : ReadResult

/-- The variables of a thread that has handled these messages in order. -/
def after (hs : List Handled) : Except Fault Locals :=
  hs.foldlM (fun l h => (workerRound h.env l h.msg h.rd).map Prod.snd) .start

/-- What arrives on a new connection. -/
inductive Incoming where
  | error
  | eof
  | data (received : Bytes) (hne : received ≠ []) (hlen : received.length ≤ RESPONSE_BUFFER_SIZE)

/-- The possible results of `read`: the rest of the buffer is arbitrary. -/
def Incoming.Gives : Incoming → ReadResult → Prop
  | .error, .error _ => True
  | .eof, .eof => True
  | .data received _ _, .data b => b.received = received
  | _, _ => False

/-- What follows from the parser's verdict. -/
def outcomeOf (env : Env) (msg : RpiwdMqmsg) (isEof : Bool) (errno : Errno) :
    Option HttpCmd × Int → Except Fault Outcome
  | (none, response) => .ok (refuse response isEof)
  | (some cmd, _) => (serve env errno cmd msg).map Prod.fst

/-- The outcome as a function of what arrived and the world's answers: a
request without a line is malformed, and nothing is left over. -/
def ownOutcome (env : Env) (msg : RpiwdMqmsg) : Incoming → Except Fault Outcome
  | .error => .ok (refuse HTTP_PARSER_ERROR_SUCCESS false)
  | .eof => .ok .silent
  | .data received _ _ =>
    (parseHttpRequest (received ++ [0]) HTTP_PARSER_ERROR_BAD_REQUEST_FORMAT).bind
      (outcomeOf env msg false 0)

/-- After the history `hs`, the new message `msg` gets the outcome its
connection deserves, and completed messages are answered as by any thread. -/
def Memoryless (hs : List Handled) (env : Env) (msg : RpiwdMqmsg) (inc : Incoming) : Prop :=
  ∀ l, after hs = .ok l →
    (∀ rd, inc.Gives rd → (handleNew env l msg rd).map Prod.fst = ownOutcome env msg inc) ∧
    ∀ m l', m.mtype.answerable = true →
      (handleCompleted env l m).map Prod.fst = (handleCompleted env l' m).map Prod.fst

/-! ## The condition -/

/-- A `fetch` that looks at a left-over `ERANGE` is a parameter error on its
own. -/
def ErrnoClean (env : Env) (errno : Errno) (cmd : HttpCmd) (msg : RpiwdMqmsg) : Prop :=
  cmd.cmdname = ascii "fetch" → errno = ERANGE → fetchConsults env cmd msg = true →
    (fetchCommandCallback env 0 cmd msg).map CallbackResult.code = .ok CALLBACK_RETCODE_PARAM_ERROR

def CleanLine (env : Env) (l : Locals) (msg : RpiwdMqmsg) : Option Bytes → Prop
  | none => l.isEof = false ∧ l.response = HTTP_PARSER_ERROR_BAD_REQUEST_FORMAT
  | some line => LineSafe line →
    if HasCommand line then ErrnoClean env l.errno (lineCommand line) msg else l.isEof = false

/-- The variables do not touch the answer to what arrives. -/
def Clean (env : Env) (l : Locals) (msg : RpiwdMqmsg) : Incoming → Prop
  | .error => l.isEof = false ∧ l.response = HTTP_PARSER_ERROR_SUCCESS
  | .eof => True
  | .data received _ _ => Terminated received ∧ CleanLine env l msg (requestLine received)

/-! ## errno -/

theorem currentMeasure_answer (env : Env) (e : Errno) (msg : RpiwdMqmsg) :
    (currentMeasure env e msg).map CallbackResult.answer =
      (currentMeasure env 0 msg).map CallbackResult.answer := by
  obtain ⟨l, hl⟩ := Option.isSome_iff_exists.mp env.configSet.1
  obtain ⟨d, hd⟩ := Option.isSome_iff_exists.mp env.configSet.2
  unfold currentMeasure
  cases queryDevice env.device CONFIG_MAX_QUERY_ATTEMPTS 0 with
  | none => rfl
  | some p => simp only [hl, hd]; rfl

theorem currentCommandCallback_answer (env : Env) (e : Errno) (cmd : HttpCmd) (msg : RpiwdMqmsg) :
    (currentCommandCallback env e cmd msg).map CallbackResult.answer =
      (currentCommandCallback env 0 cmd msg).map CallbackResult.answer := by
  unfold currentCommandCallback
  cases cmd.params.getD [] with
  | nil => exact currentMeasure_answer env e msg
  | cons p ps =>
    cases ps with
    | cons q qs => rfl
    | nil =>
      obtain ⟨name, value⟩ := p
      rcases value with _ | _ | ⟨b, _ | ⟨b', bs⟩⟩
      · rfl
      · rfl
      · cases name with
        | none => rfl
        | some name =>
          simp only [deref, Except.bind]
          split
          · split
            · exact currentMeasure_answer env e _
            · rfl
          · rfl
      · rfl

/-- Commands other than `fetch` do not look at `errno`. -/
theorem dispatchCommand_errno {cmd : HttpCmd} (h : cmd.cmdname ≠ ascii "fetch") (env : Env)
    (e : Errno) (msg : RpiwdMqmsg) :
    (dispatchCommand env e cmd msg).map CallbackResult.answer =
      (dispatchCommand env 0 cmd msg).map CallbackResult.answer := by
  have hb : (cmd.cmdname == ascii "fetch") = false := by simpa using h
  unfold dispatchCommand
  cases hc : commandTable.lookup cmd.cmdname with
  | none => rfl
  | some c =>
    cases c with
    | fetch =>
      -- only the first entry of the table is `fetch`
      unfold commandTable at hc
      simp only [List.lookup_cons, hb, List.lookup_nil] at hc
      split at hc
      · cases hc
      · split at hc
        · cases hc
        · split at hc <;> cases hc
    | current => exact currentCommandCallback_answer env e cmd msg
    | statistics =>
      simp only [Command.callback, statisticsCommandCallback]
      split <;> rfl
    | config => rfl

theorem dispatchCommand_fetch {cmd : HttpCmd} (h : cmd.cmdname = ascii "fetch") (env : Env)
    (e : Errno) (msg : RpiwdMqmsg) :
    dispatchCommand env e cmd msg = fetchCommandCallback env e cmd msg := by
  have hc : commandTable.lookup (ascii "fetch") = some .fetch := by decide
  simp only [dispatchCommand, h, hc, Command.callback]

theorem map_routeResult_congr {x y : Except Fault CallbackResult}
    (h : x.map CallbackResult.answer = y.map CallbackResult.answer) :
    x.map routeResult = y.map routeResult := by
  cases x with
  | error e => cases y with
    | error e' => cases h; rfl
    | ok r' => cases h
  | ok r => cases y with
    | error e' => cases h
    | ok r' => exact congrArg Except.ok (routeResult_congr (Except.ok.inj h))

theorem routeResult_paramError {r : CallbackResult} :
    routeResult r = .reply (errorReply HTTP_CODE_REQUEST_BAD_REQUEST CALLBACK_RETCODE_PARAM_ERROR
        (commandCallbackStrerror CALLBACK_RETCODE_PARAM_ERROR)) ↔
      r.code = CALLBACK_RETCODE_PARAM_ERROR := by
  unfold routeResult
  constructor
  · intro h
    split at h
    · simp only [Outcome.reply.injEq, errorReply, Reply.mk.injEq, Body.error.injEq] at h
      exact h.2.1
    · split at h <;> cases h
  · intro h
    rw [h, if_pos (by decide)]

theorem serve_outcome {cmd : HttpCmd} (h : isBrowserStuff cmd.cmdname = false) (env : Env)
    (e : Errno) (msg : RpiwdMqmsg) :
    (serve env e cmd msg).map Prod.fst = (dispatchCommand env e cmd msg).map routeResult := by
  simp only [serve, h, Bool.false_eq_true, if_false]
  cases dispatchCommand env e cmd msg <;> rfl

/-- A command is served as under a clear `errno` exactly when the left-over
one is clean for it. -/
theorem serve_errno_iff (env : Env) (e : Errno) (cmd : HttpCmd) (msg : RpiwdMqmsg) :
    (serve env e cmd msg).map Prod.fst = (serve env 0 cmd msg).map Prod.fst ↔
      ErrnoClean env e cmd msg := by
  by_cases hf : cmd.cmdname = ascii "fetch"
  · have hb : isBrowserStuff cmd.cmdname = false := by rw [hf]; decide
    rw [serve_outcome hb, serve_outcome hb, dispatchCommand_fetch hf, dispatchCommand_fetch hf]
    by_cases hs : e = ERANGE ∧ fetchConsults env cmd msg = true
    · obtain ⟨rfl, hcons⟩ := hs
      obtain ⟨r, hr, hcode⟩ := fetchCommandCallback_stale hcons
      have hrr := routeResult_paramError.mpr hcode
      have hclean : ErrnoClean env ERANGE cmd msg ↔
          (fetchCommandCallback env 0 cmd msg).map CallbackResult.code =
            .ok CALLBACK_RETCODE_PARAM_ERROR :=
        ⟨fun h => h hf rfl hcons, fun h _ _ _ => h⟩
      rw [hclean, hr]
      cases h0 : fetchCommandCallback env 0 cmd msg with
      | error f => exact iff_of_false (fun h => by cases h) (fun h => by cases h)
      | ok r0 =>
        simp only [Except.map, hrr, Except.ok.injEq]
        exact eq_comm.trans routeResult_paramError
    · have hfree : e ≠ ERANGE ∨ fetchConsults env cmd msg = false := by
        by_cases he : e = ERANGE
        · exact .inr (Bool.eq_false_iff.mpr fun hc => hs ⟨he, hc⟩)
        · exact .inl he
      refine iff_of_true (map_routeResult_congr (fetchCommandCallback_errno hfree)) ?_
      exact fun _ he hc => absurd ⟨he, hc⟩ hs
  · refine iff_of_true ?_ fun h => absurd h hf
    cases hb : isBrowserStuff cmd.cmdname with
    | true => simp only [serve, hb, if_true]; rfl
    | false =>
      rw [serve_outcome hb, serve_outcome hb]
      exact map_routeResult_congr (dispatchCommand_errno hf env e msg)

/-! ## One request -/

/-- The two texts a refusal may be compared with name their error. -/
theorem httpParserStrerror_inj {r k : Int}
    (hk : k = HTTP_PARSER_ERROR_BAD_REQUEST_FORMAT ∨ k = HTTP_PARSER_ERROR_SUCCESS) :
    httpParserStrerror r = httpParserStrerror k ↔ r = k := by
  have hmal : httpParserStrerror HTTP_PARSER_ERROR_BAD_REQUEST_FORMAT =
      "HTTP request is malformed." := by decide
  have hsuc : httpParserStrerror HTTP_PARSER_ERROR_SUCCESS = "Success" := by decide
  refine ⟨fun h => ?_, fun h => by rw [h]⟩
  by_contra hne
  rcases hk with rfl | rfl
  · rw [hmal] at h
    unfold httpParserStrerror at h
    rw [if_neg hne] at h
    revert h
    split_ifs <;> decide
  · rw [hsuc] at h
    unfold httpParserStrerror at h
    rw [if_neg hne] at h
    revert h
    split_ifs <;> decide

/-- A refusal is the one of a thread that has seen no end of file exactly
when this one has not, and the texts agree. -/
theorem refuse_eq_iff {r r' : Int} {isEof : Bool} :
    refuse r isEof = refuse r' false ↔
      isEof = false ∧ httpParserStrerror r = httpParserStrerror r' := by
  cases isEof with
  | true => exact iff_of_false (fun h => by cases h) (fun h => by cases h.1)
  | false =>
    simp only [refuse, Bool.false_eq_true, if_false, Outcome.reply.injEq, errorReply,
      Reply.mk.injEq, Body.error.injEq, true_and]

theorem handleNew_data (env : Env) (l : Locals) (msg : RpiwdMqmsg) (b : ReadBuffer) :
    (handleNew env l msg (.data b)).map Prod.fst =
      (parseHttpRequest b.mem l.response).bind (outcomeOf env msg l.isEof l.errno) := by
  simp only [handleNew, readAndParseResponse, ReadResult.errnoOf]
  cases parseHttpRequest b.mem l.response with
  | error e => rfl
  | ok p =>
    obtain ⟨cmd, r⟩ := p
    cases cmd with
    | none => rfl
    | some cmd =>
      simp only [Except.map, bind, Except.bind, pure, Except.pure, outcomeOf]
      cases serve env l.errno cmd msg <;> rfl

/-- The line is answered as it deserves exactly when the variables are clean
for it. -/
theorem outcome_line_iff (env : Env) (l : Locals) (msg : RpiwdMqmsg) (line : Option Bytes) :
    (parseRequestLine line l.response).bind (outcomeOf env msg l.isEof l.errno) =
        (parseRequestLine line HTTP_PARSER_ERROR_BAD_REQUEST_FORMAT).bind
          (outcomeOf env msg false 0) ↔
      CleanLine env l msg line := by
  cases line with
  | none =>
    simp only [parseRequestLine, pure, Except.pure, Except.bind, outcomeOf, Except.ok.injEq,
      refuse_eq_iff, httpParserStrerror_inj (.inl rfl), CleanLine]
  | some line =>
    by_cases hs : LineSafe line
    · simp only [parseRequestLine_safe hs, CleanLine, hs, forall_const, Except.bind]
      by_cases hc : HasCommand line
      · simp only [hc, if_true, outcomeOf]
        exact serve_errno_iff env l.errno (lineCommand line) msg
      · simp only [hc, if_false, outcomeOf, Except.ok.injEq, refuse_eq_iff, and_true]
    · obtain ⟨e, -, he⟩ := parseRequestLine_not_safe hs
      refine iff_of_true ?_ fun h => absurd h hs
      rw [he, he]
      rfl

/-- Completed messages of the four kinds are answered by their content. -/
theorem handleCompleted_outcome (env env' : Env) (l l' : Locals) {m : RpiwdMqmsg}
    (hm : m.mtype.answerable = true) :
    (handleCompleted env l m).map Prod.fst = (handleCompleted env' l' m).map Prod.fst := by
  have hj : jsonValue l.jval m = jsonValue l'.jval m := by
    unfold jsonValue
    cases ht : m.mtype <;> rw [ht] at hm <;> first | rfl | cases hm
  simp only [handleCompleted, hj]
  cases jsonValue l'.jval m with
  | error e => rfl
  | ok o => cases o <;> rfl

/-- What one round makes of an arrival, for any values of the variables. -/
theorem handleNew_own_iff (env : Env) (l : Locals) (msg : RpiwdMqmsg) (inc : Incoming) :
    (∀ rd, inc.Gives rd → (handleNew env l msg rd).map Prod.fst = ownOutcome env msg inc) ↔
      Clean env l msg inc := by
  cases inc with
  | error =>
    have key : ∀ e, (handleNew env l msg (.error e)).map Prod.fst =
        .ok (refuse l.response l.isEof) := fun e => rfl
    constructor
    · intro h
      have h0 := h (.error 0) trivial
      rw [key] at h0
      simp only [ownOutcome, Except.ok.injEq, refuse_eq_iff, httpParserStrerror_inj (.inr rfl)] at h0
      exact h0
    · rintro ⟨h1, h2⟩ rd hrd
      cases rd with
      | error e => rw [key, h1, h2]; rfl
      | eof => exact hrd.elim
      | data b => exact hrd.elim
  | eof =>
    refine iff_of_true (fun rd hrd => ?_) trivial
    cases rd with
    | error e => exact hrd.elim
    | eof => rfl
    | data b => exact hrd.elim
  | data received hne hlen =>
    by_cases ht : Terminated received
    · -- the left-over bytes do not matter, so any buffer decides
      have key : ∀ b : ReadBuffer, b.received = received →
          ((handleNew env l msg (.data b)).map Prod.fst =
              ownOutcome env msg (.data received hne hlen) ↔
            CleanLine env l msg (requestLine received)) := by
        intro b hb
        have hmem : b.mem = received ++ b.rest := by rw [← hb]; rfl
        rw [handleNew_data, hmem, parseHttpRequest_terminated ht, parseHttpRequest_nul, ownOutcome,
          parseHttpRequest_nul]
        exact outcome_line_iff env l msg (requestLine received)
      constructor
      · intro h
        exact ⟨ht, (key (bufferOf received 0 hne hlen) rfl).mp (h (.data _) rfl)⟩
      · rintro ⟨-, hc⟩ rd hrd
        cases rd with
        | error e => exact hrd.elim
        | eof => exact hrd.elim
        | data b => exact (key b hrd).mpr hc
    · refine iff_of_false (fun h => ?_) fun h => ht h.1
      have h0 := h (.data (bufferOf received 97 hne hlen)) rfl
      have hoob := unterminated_outOfBounds ht hne hlen l.response l.isEof
      rw [readAndParseResponse, map_outOfBounds] at hoob
      rw [handleNew_data, hoob, ownOutcome, parseHttpRequest_nul, requestLine_unterminated ht] at h0
      cases h0

/-- **A worker's memory.** After any history, a connection gets the outcome
it deserves exactly when the variables the history left are clean for it. -/
theorem memoryless_iff (hs : List Handled) (env : Env) (msg : RpiwdMqmsg) (inc : Incoming) :
    Memoryless hs env msg inc ↔ ∀ l, after hs = .ok l → Clean env l msg inc := by
  constructor
  · intro h l hl
    exact (handleNew_own_iff env l msg inc).mp (h l hl).1
  · intro h l hl
    exact ⟨(handleNew_own_iff env l msg inc).mpr (h l hl),
      fun m l' hm => handleCompleted_outcome env env l l' hm⟩

/-- A request line of one word: malformed. -/
def malformed : Incoming := .data (ascii "GET\r\n") (by decide) (by decide)

/-- The same request on a connection, followed by NULs in the buffer. -/
def malformedRead : ReadResult := .data (bufferOf (ascii "GET\r\n") 0 (by decide) (by decide))

/-- After one connection at end of file, a malformed request is closed
without the 400 reply it deserves. -/
theorem eof_silences_malformed :
    after [⟨default, default, .eof⟩] = .ok ⟨0, true, .null, 0⟩ ∧
    (handleNew default ⟨0, true, .null, 0⟩ default malformedRead).map Prod.fst = .ok .silent ∧
    ownOutcome default default malformed =
      .ok (.reply (errorReply 400 400 "HTTP request is malformed.")) ∧
    ¬ Memoryless [⟨default, default, .eof⟩] default default malformed := by
  refine ⟨rfl, rfl, rfl, fun h => ?_⟩
  have h0 := (h ⟨0, true, .null, 0⟩ rfl).1 malformedRead rfl
  cases h0

end Rpiweatherd
