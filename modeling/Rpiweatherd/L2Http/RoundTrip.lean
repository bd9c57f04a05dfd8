import Rpiweatherd.L2Http.Params

/-!
# Parsing what a client writes

`ClientRequest` is a request a client can write down: words free of the
characters the parser splits at, parameters with distinct names, and a line
and an argument string that fit the parser's arrays. `parse_http_request`
reads back the command and the parameters, whatever the buffer holds behind
the first line (`parseHttpRequest_request`).
-/
namespace Rpiweatherd

/-- A non-empty run of bytes with none of `d`. -/
structure Word (d : Bytes) where
  bytes : Bytes
  ne_nil : bytes ≠ []
  clean : ∀ b ∈ bytes, b ∉ d

/-- Space, CR, LF and NUL. -/
def LINE_BLANKS : Bytes := [32, 13, 10, 0]

/-- What no part of a parameter holds: `=`, `&` and `LINE_BLANKS`. -/
def PARAM_RESERVED : Bytes := 61 :: 38 :: LINE_BLANKS

/-- What no command name holds: `/`, `?` and `LINE_BLANKS`. -/
def COMMAND_RESERVED : Bytes := 47 :: 63 :: LINE_BLANKS

structure ClientParam where
  name : Word PARAM_RESERVED
  value : Word PARAM_RESERVED

/-- `name=value` -/
def ClientParam.text (p : ClientParam) : Bytes := p.name.bytes ++ 61 :: p.value.bytes

/-- The parameter the parser is to return. -/
def ClientParam.parsed (p : ClientParam) : HttpCmdParam := ⟨some p.name.bytes, some p.value.bytes⟩

def queryString (params : List ClientParam) : Bytes := joinSep 38 (params.map (·.text))

/-- `?n1=v1&...&nk=vk`, and nothing for no parameters. -/
def queryPart : List ClientParam → Bytes
  | [] => []
  | params => 63 :: queryString params

/-- `METHOD /cmd?n1=v1&...&nk=vk HTTP/1.1` -/
def clientLine (method : Word LINE_BLANKS) (command : Word COMMAND_RESERVED)
    (params : List ClientParam) : Bytes :=
  method.bytes ++ 32 :: 47 :: (command.bytes ++ (queryPart params ++ 32 :: HTTP11))

structure ClientRequest where
  method : Word LINE_BLANKS
  command : Word COMMAND_RESERVED
  params : List ClientParam
  distinct : (params.map (·.name.bytes)).Nodup
  line_fits : (clientLine method command params).length < HTTP_COMMAND_MAX_SIZE
  args_fit : (queryString params).length < HTTP_ARGS_MAX_SIZE

def ClientRequest.line (r : ClientRequest) : Bytes := clientLine r.method r.command r.params

def ClientRequest.cmd (r : ClientRequest) : HttpCmd :=
  ⟨r.command.bytes, some (r.params.map (·.parsed))⟩

/-! ## One parameter -/

theorem Word.clean_of_subset {d d' : Bytes} (w : Word d) (h : d' ⊆ d) : ∀ b ∈ w.bytes, b ∉ d' :=
  fun b hb hd => w.clean b hb (h hd)

theorem paramOf_text (p : ClientParam) : paramOf p.text = p.parsed := by
  have hsub : ascii "=" ⊆ PARAM_RESERVED := by decide
  have hname := strtok_word p.name.ne_nil (p.name.clean_of_subset hsub)
    (by decide : (61 : UInt8) ∈ ascii "=") p.value.bytes
  have hvalue := strtok_last p.value.ne_nil (p.value.clean_of_subset hsub)
  simp only [paramOf, ClientParam.text, ClientParam.parsed, hname, hvalue]

theorem mem_text {p : ClientParam} {b : UInt8} (h : b ∈ p.text) :
    b ∈ p.name.bytes ∨ b = 61 ∨ b ∈ p.value.bytes := by
  simpa [ClientParam.text] using h

/-- Of the reserved bytes only `=` occurs in `name=value`. -/
theorem text_clean {p : ClientParam} {c : UInt8} (hc : c ∈ PARAM_RESERVED) (hne : c ≠ 61) :
    c ∉ p.text := by
  intro h
  rcases mem_text h with h | h | h
  · exact p.name.clean c h hc
  · exact hne h
  · exact p.value.clean c h hc

theorem text_hasName (p : ClientParam) : HasName p.text := by
  obtain ⟨b, bs, hb⟩ := List.exists_cons_of_ne_nil p.name.ne_nil
  have hmem : b ∈ p.name.bytes := by rw [hb]; exact List.mem_cons_self ..
  exact ⟨b, List.mem_append_left _ hmem, p.name.clean_of_subset (by decide) b hmem⟩

/-! ## The query string -/

theorem texts_pieces (params : List ClientParam) :
    ∀ s ∈ params.map (·.text), s ≠ [] ∧ (38 : UInt8) ∉ s := by
  intro s hs
  obtain ⟨p, -, rfl⟩ := List.mem_map.mp hs
  exact ⟨by simp [ClientParam.text], text_clean (by decide) (by decide)⟩

theorem queryString_clean {params : List ClientParam} {c : UInt8} (hc : c ∈ PARAM_RESERVED)
    (h61 : c ≠ 61) (h38 : c ≠ 38) : c ∉ queryString params := by
  intro h
  rcases mem_joinSep h with h | ⟨s, hs, h⟩
  · exact h38 h
  · obtain ⟨p, -, rfl⟩ := List.mem_map.mp hs
    exact text_clean hc h61 h

theorem queryString_count (params : List ClientParam) :
    (queryString params).count 38 = params.length - 1 := by
  have h := joinSep_count (c := 38) fun s hs => (texts_pieces params s hs).2
  simpa [queryString] using h

theorem strtokAll_queryString (params : List ClientParam) :
    strtokAll (ascii "&") (queryString params) = params.map (·.text) :=
  strtokAll_joinSep (texts_pieces params)

/-- The counting pass, the special case of a single parameter and the cut
for redundant separators leave exactly the pieces. -/
theorem paramSegs_queryString (params : List ClientParam) :
    paramSegs (queryString params) = params.map (·.text) := by
  unfold paramSegs
  simp only [queryString_count, strtokAll_queryString, List.length_map]
  match params with
  | [] => rfl
  | [p] =>
    have : HasName (queryString [p]) := text_hasName p
    simp only [List.length_singleton, Nat.sub_self, if_true, if_pos this]
    rfl
  | p :: q :: rest => simp

theorem parsed_queryString (params : List ClientParam) :
    (paramSegs (queryString params)).map paramOf = params.map (·.parsed) := by
  rw [paramSegs_queryString, List.map_map]
  exact List.map_congr_left fun p _ => paramOf_text p

theorem argsSafe_queryString (params : List ClientParam) : ArgsSafe (queryString params) := by
  refine ⟨fun hcount => ?_, fun s hs => ?_⟩
  · rw [queryString_count] at hcount
    rw [strtokAll_queryString]
    intro h
    rw [List.map_eq_nil_iff] at h
    simp [h] at hcount
  · rw [paramSegs_queryString] at hs
    obtain ⟨p, -, rfl⟩ := List.mem_map.mp hs
    exact text_hasName p

theorem not_duplicated_queryString {params : List ClientParam}
    (h : (params.map (·.name.bytes)).Nodup) : Duplicated (queryString params) = false := by
  have hnames : (paramSegs (queryString params)).map (fun s => (paramOf s).name)
      = (params.map (·.name.bytes)).map some := by
    rw [paramSegs_queryString, List.map_map, List.map_map]
    exact List.map_congr_left fun p _ => congrArg HttpCmdParam.name (paramOf_text p)
  rw [not_duplicated_iff, hnames]
  exact h.map (Option.some_injective _)

theorem queryString_ne_protocol {params : List ClientParam} (hne : params ≠ []) :
    queryString params ≠ [] ∧ ¬ (queryString params = HTTP10 ∨ queryString params = HTTP11) := by
  have h61 : (61 : UInt8) ∈ queryString params := by
    match params, hne with
    | [p], _ => simp [queryString, joinSep, ClientParam.text]
    | p :: q :: rest, _ => simp [queryString, joinSep, ClientParam.text]
  refine ⟨List.ne_nil_of_mem h61, ?_⟩
  rintro (h | h)
  · rw [h] at h61; exact absurd h61 (by decide)
  · rw [h] at h61; exact absurd h61 (by decide)

/-! ## The request line -/

/-- The three scans of `break_request`, with their different delimiters,
find the pieces of the line. -/
theorem broken_line (r : ClientRequest) :
    broken (requestTokens r.line) =
      ⟨HTTP_PARSER_ERROR_SUCCESS, HTTP11, queryString r.params, r.command.bytes⟩ := by
  have h1 : strtok (ascii " ") r.line =
      (some r.method.bytes, 47 :: (r.command.bytes ++ (queryPart r.params ++ 32 :: HTTP11))) :=
    strtok_word r.method.ne_nil (r.method.clean_of_subset (by decide)) (by decide) _
  have hcmd : ∀ b ∈ r.command.bytes, b ∉ ascii " /?" := r.command.clean_of_subset (by decide)
  have hlast : strtok (ascii " ") HTTP11 = (some HTTP11, []) := by decide
  unfold requestTokens
  rw [h1]
  simp only [strtok_skip (by decide : (47 : UInt8) ∈ ascii " /?")]
  cases hp : r.params with
  | nil =>
    -- the command ends at the blank in front of the protocol
    simp only [queryPart, List.nil_append,
      strtok_word r.command.ne_nil hcmd (by decide : (32 : UInt8) ∈ ascii " /?"), hlast, broken]
    rfl
  | cons p ps =>
    obtain ⟨hne, hproto⟩ := queryString_ne_protocol (List.cons_ne_nil p ps)
    have hargs : strtok (ascii " ") (queryString (p :: ps) ++ 32 :: HTTP11) =
        (some (queryString (p :: ps)), HTTP11) := by
      refine strtok_word hne (fun b hb hd => ?_) (by decide) _
      have hb32 : b = 32 := by simpa [ascii] using hd
      subst hb32
      exact queryString_clean (by decide) (by decide) (by decide) hb
    simp only [queryPart, List.cons_append,
      strtok_word r.command.ne_nil hcmd (by decide : (63 : UInt8) ∈ ascii " /?"), hargs, hlast,
      broken, if_neg hproto]

theorem line_fits_tokens (r : ClientRequest) : LineFits r.line := by
  refine ⟨r.line_fits, fun a ha hp => ?_⟩
  have hb := broken_line r
  cases hm : (requestTokens r.line).method with
  | none =>
    have := (requestTokens_none r.line).2 ((requestTokens_none r.line).1 hm)
    rw [this] at ha; cases ha
  | some m =>
  cases hc : (requestTokens r.line).command with
  | none =>
    have := (requestTokens_none r.line).2 hc
    rw [this] at ha; cases ha
  | some c =>
  cases hq : (requestTokens r.line).fourth with
  | none =>
    simp only [broken, hm, hc, ha, if_neg hp, hq, Broken.mk.injEq] at hb
    exact absurd hb.1 (by decide)
  | some q =>
    simp only [broken, hm, hc, ha, if_neg hp, hq, Broken.mk.injEq] at hb
    obtain ⟨-, rfl, rfl, -⟩ := hb
    exact ⟨r.args_fit, fun p hp => by cases hp; decide⟩

theorem parseRequestLine_line (r : ClientRequest) (response : Int) :
    parseRequestLine (some r.line) response = .ok (some r.cmd, response) := by
  have hb := broken_line r
  have ha : Accepted r.line := by
    rw [Accepted, hb]
    exact ⟨Int.lt_irrefl 0, .inl rfl⟩
  have hsafe : LineSafe r.line := ⟨line_fits_tokens r, fun _ => by
    rw [hb]; exact argsSafe_queryString r.params⟩
  have hcmd : HasCommand r.line := by
    refine ⟨ha, ?_, ?_⟩
    · rw [hb, queryString_count, paramSegs_queryString]
      rintro ⟨hlen, hnil⟩
      rw [List.map_eq_nil_iff] at hnil
      simp [hnil] at hlen
    · rw [hb]
      exact not_duplicated_queryString r.distinct
  rw [parseRequestLine_safe hsafe, if_pos hcmd]
  simp only [lineCommand, hb, parsed_queryString]
  rfl

/-- No byte of the line ends it or its string. -/
theorem line_clean (r : ClientRequest) : ∀ b ∈ r.line, b ≠ 13 ∧ b ≠ 0 := by
  have hq : ∀ c ∈ LINE_BLANKS, c ∉ queryPart r.params := by
    intro c hc h
    have hc' : c ∈ PARAM_RESERVED := List.mem_cons_of_mem _ (List.mem_cons_of_mem _ hc)
    have hne := (by decide +kernel : ∀ c ∈ LINE_BLANKS, c ≠ 61 ∧ c ≠ 38 ∧ c ≠ 63) c hc
    match hp : r.params with
    | [] => rw [hp] at h; cases h
    | p :: ps =>
      rw [hp] at h
      rcases List.mem_cons.mp h with h | h
      · exact hne.2.2 h
      · exact queryString_clean hc' hne.1 hne.2.1 h
  have key : ∀ c ∈ LINE_BLANKS, c ≠ 32 → c ∉ r.line := by
    intro c hc h32 h
    have hc' : c ∈ COMMAND_RESERVED := List.mem_cons_of_mem _ (List.mem_cons_of_mem _ hc)
    obtain ⟨h47, h11⟩ := (by decide +kernel : ∀ c ∈ LINE_BLANKS, c ≠ 47 ∧ c ∉ HTTP11) c hc
    simp only [ClientRequest.line, clientLine, List.mem_append, List.mem_cons] at h
    rcases h with h | h | h | h | h | h | h
    · exact r.method.clean c h hc
    · exact h32 h
    · exact h47 h
    · exact r.command.clean c h hc'
    · exact hq c hc h
    · exact h32 h
    · exact h11 h
  intro b hb
  constructor
  · rintro rfl; exact key 13 (by decide) (by decide) hb
  · rintro rfl; exact key 0 (by decide) (by decide) hb

theorem rpiwdGetline_line (r : ClientRequest) (rest : Bytes) :
    rpiwdGetline (r.line ++ (CRLF ++ rest)) CRLF = .ok (some r.line) := by
  have hfound : strstr CRLF (r.line ++ (CRLF ++ rest)) = .ok (some r.line.length) :=
    strstr_found (line_clean r) rest
  have hpos : r.line.length = (r.line.length - 1) + 1 := by
    have : r.line ≠ [] := by simp [ClientRequest.line, clientLine]
    have := List.length_pos_iff.mpr this
    omega
  unfold rpiwdGetline
  rw [hfound, hpos]
  simp only [Except.map]
  rw [← hpos, List.take_left]

/-- **Round trip.** Every request a client can write is parsed into its
command and its parameters, in order; `*response` is left alone. -/
theorem parseHttpRequest_request (r : ClientRequest) (rest : Bytes) (response : Int) :
    parseHttpRequest (r.line ++ (CRLF ++ rest)) response = .ok (some r.cmd, response) := by
  unfold parseHttpRequest
  simp only [rpiwdGetline_line, bind, Except.bind]
  exact parseRequestLine_line r response

/-- `GET /fetch?from=-1d&tempunit=c HTTP/1.1` -/
def sampleRequest : ClientRequest where
  method := ⟨ascii "GET", by decide, by decide +kernel⟩
  command := ⟨ascii "fetch", by decide, by decide +kernel⟩
  params :=
    [⟨⟨ascii "from", by decide, by decide +kernel⟩, ⟨ascii "-1d", by decide, by decide +kernel⟩⟩,
     ⟨⟨ascii "tempunit", by decide, by decide +kernel⟩, ⟨ascii "c", by decide, by decide +kernel⟩⟩]
  distinct := by decide
  line_fits := by decide
  args_fit := by decide

theorem parseHttpRequest_sampleRequest :
    parseHttpRequest (ascii "GET /fetch?from=-1d&tempunit=c HTTP/1.1\r\nHost: pi\r\n\r\n") 0 =
      .ok (some ⟨ascii "fetch", some [⟨some (ascii "from"), some (ascii "-1d")⟩,
        ⟨some (ascii "tempunit"), some (ascii "c")⟩]⟩, 0) :=
  parseHttpRequest_request sampleRequest (ascii "Host: pi\r\n\r\n") 0

end Rpiweatherd
