import Rpiweatherd.L2Http.Reader

/-!
# What a refused request is told

A request line is to read `METHOD /cmd[?args] PROTO`. The parser finds the
protocol by comparing words with the two it knows, so it takes an unknown
protocol behind a command without arguments for the arguments, and an
argument string `HTTP/1.1` for the protocol; and it says nothing at all about
a missing or empty line. `verdict_iff` names the requests that are refused
for the right reason.
-/
namespace Rpiweatherd

/-! ## The request line -/

/-- The text in front of the first CRLF, if that comes before a NUL. -/
def firstLine : Bytes → Option Bytes
  | [] => none
  | b :: r =>
    if CRLF.isPrefixOf (b :: r) then some []
    else if b = 0 then none
    else (firstLine r).map (b :: ·)

theorem strstr_firstLine :
    ∀ request : Bytes, strstr CRLF (request ++ [0]) = .ok ((firstLine request).map List.length)
  | [] => by decide
  | b :: r => by
    have hpre : CRLF.isPrefixOf (b :: (r ++ [0])) = CRLF.isPrefixOf (b :: r) := by
      cases r with
      | nil => simp [CRLF, List.isPrefixOf]
      | cons c r => simp [CRLF, List.isPrefixOf]
    rw [List.cons_append, strstr_cons, hpre, firstLine, strstr_firstLine r]
    split
    · rfl
    · split
      · rfl
      · cases firstLine r <;> rfl

theorem firstLine_isPrefix :
    ∀ {request line : Bytes}, firstLine request = some line → line <+: request
  | [], _, h => by cases h
  | b :: r, line, h => by
    rw [firstLine] at h
    split at h
    · cases h
      exact List.nil_prefix
    · split at h
      · cases h
      · obtain ⟨l, hl, rfl⟩ := Option.map_eq_some_iff.mp h
        exact List.cons_prefix_cons.mpr ⟨rfl, firstLine_isPrefix hl⟩

/-- An empty line is as good as none. -/
theorem requestLine_eq (request : Bytes) :
    requestLine request = (firstLine request).bind fun l => if l = [] then none else some l := by
  unfold requestLine rpiwdGetline
  rw [strstr_firstLine]
  cases h : firstLine request with
  | none => rfl
  | some line =>
    cases line with
    | nil => rfl
    | cons b l =>
      obtain ⟨rest, hrest⟩ := firstLine_isPrefix h
      have htake : (request ++ [0]).take (l.length + 1) = b :: l := by
        rw [← hrest, List.append_assoc, List.take_left' (by simp)]
      simp [Except.map, htake]

/-! ## What is to be said about it -/

/-- The text between the slashes and the `?` of a target `/cmd[?args]`. -/
def targetCommand (target : Bytes) : Bytes :=
  (target.dropWhile (· = 47)).takeWhile (· ∉ ascii "/?")

/-- The text behind the `?`. -/
def targetArgs (target : Bytes) : Bytes := (target.dropWhile (· ≠ 63)).tail

/-- The line has no command or no protocol. -/
def LacksPart (line : Bytes) : Prop :=
  match pieces (ascii " ") line with
  | _ :: target :: _ :: _ => targetCommand target = []
  | _ => True

/-- `METHOD /cmd[?args] PROTO` with a protocol that is not supported. -/
def WrongProtocol (line : Bytes) : Prop :=
  ∃ method cmd query proto, pieces (ascii " ") line = [method, 47 :: (cmd ++ query), proto] ∧
    cmd ≠ [] ∧ (∀ b ∈ cmd, b ∉ ascii "/?") ∧ (query = [] ∨ query.head? = some 63) ∧
    ¬ (proto = HTTP10 ∨ proto = HTTP11)

def PARSER_ERRORS : List Int :=
  [HTTP_PARSER_ERROR_UNKNOWN_PARAM, HTTP_PARSER_ERROR_REQUEST_TOO_LONG,
    HTTP_PARSER_ERROR_PARAMS_REQUIRED, HTTP_PARSER_ERROR_BAD_REQUEST_FORMAT,
    HTTP_PARSER_ERROR_WRONG_PROTOCOL, HTTP_PARSER_ERROR_NO_MEMORY,
    HTTP_PARSER_ERROR_DUPLICATE_PARAMS]

/-- The request is refused with `code`, whatever `*response` was. -/
def RefusedWith (request : Bytes) (code : Int) : Prop :=
  ∀ response, parseHttpRequest (request ++ [0]) response = .ok (none, code)

/-- What is asked of the parser on a NUL-terminated request: NULL comes with
a code written to `*response` and a command leaves it alone, and the code
names what is wrong with the line. -/
structure Reasoned (request : Bytes) : Prop where
  reason : (∃ cmd, ∀ response, parseHttpRequest (request ++ [0]) response =
      .ok (some cmd, response)) ∨ ∃ code ∈ PARSER_ERRORS, RefusedWith request code
  missing : (firstLine request).getD [] = [] →
    RefusedWith request HTTP_PARSER_ERROR_BAD_REQUEST_FORMAT
  lacking : ∀ line, firstLine request = some line → LacksPart line →
    RefusedWith request HTTP_PARSER_ERROR_BAD_REQUEST_FORMAT
  protocol : ∀ line, firstLine request = some line → WrongProtocol line →
    RefusedWith request HTTP_PARSER_ERROR_WRONG_PROTOCOL

/-! ## What the parser goes by -/

/-- The line behind its method and behind the first run of characters other
than blanks, slashes and `?`. -/
def behindCommand (line : Bytes) : Bytes :=
  (strtok (ascii " /?") (strtok (ascii " ") line).2).2

/-- Two words follow there, or one that is taken for the protocol. -/
def SeemsComplete (line : Bytes) : Prop :=
  match pieces (ascii " ") (behindCommand line) with
  | [] => False
  | [w] => w = HTTP10 ∨ w = HTTP11
  | _ => True

/-- The target has arguments, and they are not taken for the protocol. -/
def HasArgs (line : Bytes) : Prop :=
  ∃ method target proto, pieces (ascii " ") line = [method, target, proto] ∧
    targetArgs target ≠ [] ∧ ¬ (targetArgs target = HTTP10 ∨ targetArgs target = HTTP11)

/-- The lines that are judged rightly. -/
structure WellJudged (line : Bytes) : Prop where
  safe : LineSafe line
  lacking : LacksPart line → ¬ SeemsComplete line
  protocol : WrongProtocol line → HasArgs line

theorem requestTokens_third (line : Bytes) :
    (requestTokens line).third = (pieces (ascii " ") (behindCommand line)).head? :=
  strtok_fst _ _

theorem requestTokens_fourth (line : Bytes) :
    (requestTokens line).fourth = (pieces (ascii " ") (behindCommand line)).tail.head? := by
  rw [← pieces_strtok_snd]
  exact strtok_fst _ _

/-- The command is there when something follows it. -/
theorem broken_of_third {line a : Bytes} (h : (requestTokens line).third = some a) :
    ∃ c, broken (requestTokens line) =
      if a = HTTP10 ∨ a = HTTP11 then ⟨HTTP_PARSER_ERROR_SUCCESS, a, [], c⟩
      else match (requestTokens line).fourth with
        | none => ⟨HTTP_PARSER_ERROR_BAD_REQUEST_FORMAT, [], a, c⟩
        | some q => ⟨HTTP_PARSER_ERROR_SUCCESS, q, a, c⟩ := by
  have hn := requestTokens_none line
  cases hc : (requestTokens line).command with
  | none => rw [hn.2 hc] at h; cases h
  | some c =>
    cases hm : (requestTokens line).method with
    | none => rw [hn.1 hm] at hc; cases hc
    | some m =>
      refine ⟨c, ?_⟩
      cases hq : (requestTokens line).fourth with
      | none => simp only [broken, hm, hc, h, hq]
      | some q => simp only [broken, hm, hc, h, hq]

theorem broken_of_no_third {line : Bytes} (h : (requestTokens line).third = none) :
    (broken (requestTokens line)).flag = HTTP_PARSER_ERROR_BAD_REQUEST_FORMAT := by
  unfold broken
  rw [h]
  split
  · rename_i heq
    cases heq
  · rfl
  · rfl

theorem flag_neg_iff (line : Bytes) :
    (broken (requestTokens line)).flag < 0 ↔ ¬ SeemsComplete line := by
  unfold SeemsComplete
  have h3 := requestTokens_third line
  have h4 := requestTokens_fourth line
  cases hp : pieces (ascii " ") (behindCommand line) with
  | nil =>
    rw [hp] at h3
    rw [broken_of_no_third h3]
    decide
  | cons w ws =>
    rw [hp] at h3 h4
    obtain ⟨c, hb⟩ := broken_of_third h3
    rw [hb]
    by_cases hw : w = HTTP10 ∨ w = HTTP11
    · cases ws <;> simp [hw, HTTP_PARSER_ERROR_SUCCESS]
    · cases ws with
      | nil =>
        rw [h4]
        simp [hw, HTTP_PARSER_ERROR_BAD_REQUEST_FORMAT]
      | cons x xs =>
        rw [h4]
        simp [hw, HTTP_PARSER_ERROR_SUCCESS]

/-! ## The verdict on a line that is safe -/

theorem refusal_mem (line : Bytes) : refusal line ∈ PARSER_ERRORS := by
  unfold refusal lineError
  split
  · split
    · rename_i hneg
      rcases broken_flag (requestTokens line) with h | h
      · rw [h] at hneg
        exact absurd hneg (by decide)
      · rw [h]
        decide
    · decide
  · split <;> decide

/-- A safe line is refused as malformed exactly if `break_request` gives up. -/
theorem refused_badFormat_iff {line : Bytes} (h : LineSafe line) :
    (∀ response, parseRequestLine (some line) response =
      .ok (none, HTTP_PARSER_ERROR_BAD_REQUEST_FORMAT)) ↔ ¬ SeemsComplete line := by
  rw [← flag_neg_iff]
  simp only [parseRequestLine_safe h, Except.ok.injEq]
  constructor
  · intro hall
    have h0 := hall 0
    split at h0
    · cases h0
    · have hr : refusal line = HTTP_PARSER_ERROR_BAD_REQUEST_FORMAT := congrArg Prod.snd h0
      unfold refusal lineError at hr
      split at hr
      · split at hr
        · assumption
        · cases hr
      · split at hr <;> cases hr
  · intro hneg _
    have hacc : ¬ Accepted line := fun ha => ha.1 hneg
    have hcmd : ¬ HasCommand line := fun hc => hacc hc.1
    have hflag : (broken (requestTokens line)).flag = HTTP_PARSER_ERROR_BAD_REQUEST_FORMAT := by
      rcases broken_flag (requestTokens line) with hf | hf
      · rw [hf] at hneg
        exact absurd hneg (by decide)
      · exact hf
    rw [if_neg hcmd, refusal, if_pos hacc, lineError, if_pos hneg, hflag]

theorem refused_wrongProtocol_iff {line : Bytes} (h : LineSafe line) :
    (∀ response, parseRequestLine (some line) response =
      .ok (none, HTTP_PARSER_ERROR_WRONG_PROTOCOL)) ↔ SeemsComplete line ∧ ¬ Accepted line := by
  rw [← not_not (a := SeemsComplete line), ← flag_neg_iff]
  simp only [parseRequestLine_safe h, Except.ok.injEq]
  constructor
  · intro hall
    have h0 := hall 0
    split at h0
    · cases h0
    · have hr : refusal line = HTTP_PARSER_ERROR_WRONG_PROTOCOL := congrArg Prod.snd h0
      unfold refusal lineError at hr
      split at hr
      · rename_i hacc
        split at hr
        · rcases broken_flag (requestTokens line) with hf | hf <;> rw [hf] at hr <;> cases hr
        · exact ⟨by assumption, hacc⟩
      · split at hr <;> cases hr
  · rintro ⟨hflag, hacc⟩ _
    have hcmd : ¬ HasCommand line := fun hc => hacc hc.1
    simp only [if_neg hcmd, refusal, lineError, if_pos hacc, if_neg hflag]

/-! ## Lines with a protocol that is not supported -/

theorem targetArgs_of_clean {cmd query : Bytes} (hcmd : ∀ b ∈ cmd, b ∉ ascii "/?")
    (hquery : query = [] ∨ query.head? = some 63) :
    targetArgs (47 :: (cmd ++ query)) = query.tail := by
  have hskip : ∀ b ∈ 47 :: cmd, decide (b ≠ 63) = true := by
    intro b hb
    rw [decide_eq_true_eq]
    rintro rfl
    rcases List.mem_cons.mp hb with hb | hb
    · exact absurd hb (by decide)
    · exact hcmd 63 hb (by decide)
  have hdrop : query.dropWhile (· ≠ 63) = query := by
    rcases hquery with rfl | hq
    · rfl
    · cases query with
      | nil => rfl
      | cons x xs =>
        have hx : x = 63 := by simpa using hq
        simp [hx]
  rw [targetArgs, ← List.cons_append, List.dropWhile_append_of_pos hskip, hdrop]

/-- Behind the command stand the arguments, if any, and the protocol. -/
theorem pieces_behindCommand {line method cmd query proto : Bytes}
    (hline : pieces (ascii " ") line = [method, 47 :: (cmd ++ query), proto]) (hne : cmd ≠ [])
    (hcmd : ∀ b ∈ cmd, b ∉ ascii "/?") (hquery : query = [] ∨ query.head? = some 63) :
    pieces (ascii " ") (behindCommand line) =
      if query.tail = [] then [proto] else [query.tail, proto] := by
  -- the target in the text behind the method
  have hrest : pieces (ascii " ") (strtok (ascii " ") line).2 = [47 :: (cmd ++ query), proto] := by
    rw [pieces_strtok_snd, hline]
    rfl
  unfold behindCommand
  generalize (strtok (ascii " ") line).2 = s at hrest
  have htok : strtok (ascii " ") s = (some (47 :: (cmd ++ query)), (strtok (ascii " ") s).2) :=
    Prod.ext (by rw [strtok_fst, hrest]; rfl) rfl
  have hlast : pieces (ascii " ") (strtok (ascii " ") s).2 = [proto] := by
    rw [pieces_strtok_snd, hrest]
    rfl
  have hclean := (strtok_some htok).2.1
  generalize (strtok (ascii " ") s).2 = r at htok hlast
  have hblank : ∀ c ∈ ascii " ", c = 32 := by decide +kernel
  have hdelim : ∀ c ∈ ascii " /?", c ∈ ascii " " ∨ c ∈ ascii "/?" := by decide +kernel
  obtain ⟨pre, hpre, ⟨-, rfl⟩ | ⟨c, hc, rfl⟩⟩ := strtok_split htok
  · cases hlast
  obtain rfl := hblank c hc
  have hpre' : ∀ b ∈ pre, b ∈ ascii " /?" := by
    intro b hb
    rw [hblank b (hpre b hb)]
    decide
  have hcmd' : ∀ b ∈ cmd, b ∉ ascii " /?" := by
    intro b hb hmem
    rcases hdelim b hmem with h | h
    · exact hclean b (by simp [hb]) h
    · exact hcmd b hb h
  rw [strtok_skip_all hpre', List.cons_append, strtok_skip (by decide), List.append_assoc]
  cases query with
  | nil =>
    rw [List.nil_append, strtok_word hne hcmd' (by decide), hlast]
    rfl
  | cons x args =>
    obtain rfl : x = 63 := by simpa using hquery
    rw [List.cons_append, strtok_word hne hcmd' (by decide)]
    by_cases hargs : args = []
    · subst hargs
      rw [List.nil_append, pieces_skip (by decide), hlast]
      rfl
    · have hargs' : ∀ b ∈ args, b ∉ ascii " " := fun b hb => hclean b (by simp [hb])
      rw [pieces_word hargs hargs' (by decide), hlast, List.tail_cons, if_neg hargs]

theorem wrongProtocol_judged {line : Bytes} (h : WrongProtocol line) :
    (SeemsComplete line ∧ ¬ Accepted line) ↔ HasArgs line := by
  obtain ⟨method, cmd, query, proto, hline, hne, hcmd, hquery, hproto⟩ := h
  have hbehind := pieces_behindCommand hline hne hcmd hquery
  have hargs : HasArgs line ↔
      query.tail ≠ [] ∧ ¬ (query.tail = HTTP10 ∨ query.tail = HTTP11) := by
    unfold HasArgs
    simp only [hline, List.cons.injEq, and_true]
    constructor
    · rintro ⟨m, t, p, ⟨rfl, rfl, rfl⟩, ht⟩
      rwa [targetArgs_of_clean hcmd hquery] at ht
    · intro ht
      exact ⟨method, _, proto, ⟨rfl, rfl, rfl⟩, by rwa [targetArgs_of_clean hcmd hquery]⟩
  rw [hargs]
  have h3 := requestTokens_third line
  have h4 := requestTokens_fourth line
  by_cases hnil : query.tail = []
  · simp [SeemsComplete, hbehind, hnil, hproto]
  · rw [hbehind, if_neg hnil] at h3 h4
    obtain ⟨c, hb⟩ := broken_of_third h3
    have hseems : SeemsComplete line := by
      simp [SeemsComplete, hbehind, hnil]
    rw [Accepted, hb, h4]
    by_cases ha : query.tail = HTTP10 ∨ query.tail = HTTP11
    · simp [hseems, ha, HTTP_PARSER_ERROR_SUCCESS, or_comm]
    · simp [hseems, ha, hnil, or_comm, hproto]

/-! ## The verdict on every request -/

/-- Without a line nothing is written to `*response`. -/
theorem parseHttpRequest_no_line {request : Bytes} (h : (firstLine request).getD [] = [])
    (response : Int) : parseHttpRequest (request ++ [0]) response = .ok (none, response) := by
  rw [parseHttpRequest_nul, requestLine_eq]
  cases hl : firstLine request with
  | none => rfl
  | some line =>
    rw [hl] at h
    obtain rfl : line = [] := h
    rfl

theorem parseHttpRequest_line {request line : Bytes} (hl : firstLine request = some line)
    (hne : line ≠ []) (response : Int) :
    parseHttpRequest (request ++ [0]) response = parseRequestLine (some line) response := by
  rw [parseHttpRequest_nul, requestLine_eq, hl]
  simp [hne]

theorem not_reasoned_of_no_line {request : Bytes} (h : (firstLine request).getD [] = []) :
    ¬ Reasoned request := by
  intro hr
  have hcode := hr.missing h (HTTP_PARSER_ERROR_BAD_REQUEST_FORMAT + 1)
  rw [parseHttpRequest_no_line h] at hcode
  exact absurd (congrArg Prod.snd (Except.ok.inj hcode)) (by decide)

theorem Reasoned.wellJudged {request line : Bytes} (h : Reasoned request)
    (hl : firstLine request = some line) (hne : line ≠ []) : WellJudged line := by
  have hline := parseHttpRequest_line hl hne
  have hsafe : LineSafe line := by
    by_contra hs
    obtain ⟨e, -, he⟩ := parseRequestLine_not_safe hs
    rcases h.reason with ⟨cmd, hc⟩ | ⟨code, -, hc⟩ <;>
    · have := hc 0
      rw [hline, he] at this
      cases this
  refine ⟨hsafe, fun hlack => ?_, fun hwrong => ?_⟩
  · rw [← refused_badFormat_iff hsafe]
    intro response
    rw [← hline]
    exact h.lacking line hl hlack response
  · rw [← wrongProtocol_judged hwrong, ← refused_wrongProtocol_iff hsafe]
    intro response
    rw [← hline]
    exact h.protocol line hl hwrong response

theorem WellJudged.reasoned {request line : Bytes} (h : WellJudged line)
    (hl : firstLine request = some line) (hne : line ≠ []) : Reasoned request := by
  have hline := parseHttpRequest_line hl hne
  refine ⟨?_, fun hnone => ?_, fun l hl' hp response => ?_, fun l hl' hp response => ?_⟩
  · by_cases hc : HasCommand line
    · left
      refine ⟨lineCommand line, fun response => ?_⟩
      rw [hline, parseRequestLine_safe h.safe, if_pos hc]
    · right
      refine ⟨refusal line, refusal_mem line, fun response => ?_⟩
      rw [hline, parseRequestLine_safe h.safe, if_neg hc]
  · rw [hl] at hnone
    exact absurd hnone hne
  · obtain rfl : line = l := Option.some.inj (hl.symm.trans hl')
    rw [hline]
    exact (refused_badFormat_iff h.safe).mpr (h.lacking hp) response
  · obtain rfl : line = l := Option.some.inj (hl.symm.trans hl')
    have hjudged := (wrongProtocol_judged hp).mpr (h.protocol hp)
    rw [hline]
    exact (refused_wrongProtocol_iff h.safe).mpr hjudged response

/-- **Refused for a reason.** Every refused request gets its reason, and a
malformed line or an unknown protocol the right one, exactly if the request
has a line that the parser survives and judges rightly. -/
theorem verdict_iff (request : Bytes) :
    Reasoned request ↔ ∃ line, firstLine request = some line ∧ line ≠ [] ∧ WellJudged line := by
  constructor
  · intro h
    have hsome : (firstLine request).getD [] ≠ [] := fun hnone => not_reasoned_of_no_line hnone h
    cases hl : firstLine request with
    | none =>
      rw [hl] at hsome
      exact absurd rfl hsome
    | some line =>
      rw [hl] at hsome
      exact ⟨line, rfl, hsome, h.wellJudged hl hsome⟩
  · rintro ⟨line, hl, hne, h⟩
    exact h.reasoned hl hne

/-- Without a CRLF nothing is written, and `HTTP/2` behind a command without
arguments is not called a wrong protocol. -/
theorem verdict_wrong :
    (parseHttpRequest (ascii "GET /current HTTP/1.1" ++ [0]) 5 = .ok (none, 5) ∧
      ¬ Reasoned (ascii "GET /current HTTP/1.1")) ∧
    (parseHttpRequest (ascii "GET /current HTTP/2\r\n" ++ [0]) 5 =
        .ok (none, HTTP_PARSER_ERROR_BAD_REQUEST_FORMAT) ∧
      ¬ Reasoned (ascii "GET /current HTTP/2\r\n")) := by
  have hkept : parseHttpRequest (ascii "GET /current HTTP/1.1" ++ [0]) 5 = .ok (none, 5) := by
    decide +kernel
  have hbad : parseHttpRequest (ascii "GET /current HTTP/2\r\n" ++ [0]) 5 =
      .ok (none, HTTP_PARSER_ERROR_BAD_REQUEST_FORMAT) := by decide +kernel
  have hwrong : WrongProtocol (ascii "GET /current HTTP/2") :=
    ⟨ascii "GET", ascii "current", [], ascii "HTTP/2", by decide +kernel, by decide,
      by decide +kernel, .inl rfl, by decide +kernel⟩
  refine ⟨⟨hkept, fun h => ?_⟩, hbad, fun h => ?_⟩
  · have := h.missing (by decide +kernel) 5
    rw [hkept] at this
    cases this
  · have := h.protocol (ascii "GET /current HTTP/2") (by decide +kernel) hwrong 5
    rw [hbad] at this
    cases this

end Rpiweatherd
