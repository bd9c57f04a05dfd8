import Rpiweatherd.L2Http.Request

/-!
# The copies `break_request` makes

`break_request` copies the request line and up to three of its tokens into
fixed arrays with `strcpy`; nothing on the way checks a length, and
`HTTP_PARSER_ERROR_REQUEST_TOO_LONG` is never returned. `LineFits` is the
exact condition under which no copy overflows; under it `break_request` is
the pure function `broken` of the line's tokens (`breakRequest_of_fits`).
-/
namespace Rpiweatherd

/-- The line is shorter than 1024 bytes; and unless its third token is a
protocol, that token is shorter than 512 and the fourth shorter than 16. -/
def LineFits (line : Bytes) : Prop :=
  line.length < HTTP_COMMAND_MAX_SIZE ∧
    ∀ a, (requestTokens line).third = some a → ¬ (a = HTTP10 ∨ a = HTTP11) →
      a.length < HTTP_ARGS_MAX_SIZE ∧
        ∀ p, (requestTokens line).fourth = some p → p.length < HTTP_PROTO_MAX_SIZE

instance decidableLineFits (line : Bytes) : Decidable (LineFits line) :=
  inferInstanceAs (Decidable (line.length < HTTP_COMMAND_MAX_SIZE ∧
    ∀ a ∈ (requestTokens line).third, ¬ (a = HTTP10 ∨ a = HTTP11) →
      a.length < HTTP_ARGS_MAX_SIZE ∧
        ∀ p ∈ (requestTokens line).fourth, p.length < HTTP_PROTO_MAX_SIZE))

/-- `break_request` without its copies. -/
def broken (t : RequestTokens) : Broken :=
  match t.method, t.command, t.third with
  | some _, some c, some p =>
    if p = HTTP10 ∨ p = HTTP11 then ⟨HTTP_PARSER_ERROR_SUCCESS, p, [], c⟩
    else match t.fourth with
      | none => ⟨HTTP_PARSER_ERROR_BAD_REQUEST_FORMAT, [], p, c⟩
      | some q => ⟨HTTP_PARSER_ERROR_SUCCESS, q, p, c⟩
  | some _, some c, none => ⟨HTTP_PARSER_ERROR_BAD_REQUEST_FORMAT, [], [], c⟩
  | _, _, _ => ⟨HTTP_PARSER_ERROR_BAD_REQUEST_FORMAT, [], [], []⟩

/-- A token after a missing token is missing. -/
theorem requestTokens_none (line : Bytes) :
    ((requestTokens line).method = none → (requestTokens line).command = none) ∧
    ((requestTokens line).command = none → (requestTokens line).third = none) := by
  have key : ∀ d d' s : Bytes, (strtok d s).1 = none → (strtok d' (strtok d s).2).1 = none := by
    intro d d' s h
    rw [strtok_none_rest h]
    rfl
  exact ⟨key _ _ _, key _ _ _⟩

theorem requestTokens_command_length {line c : Bytes} (h : (requestTokens line).command = some c) :
    c.length ≤ line.length := by
  have h1 := strtok_length h
  have h2 := strtok_rest_length (ascii " ") line
  omega

theorem breakRequest_of_fits {line : Bytes} (h : LineFits line) :
    breakRequest line = .ok (broken (requestTokens line)) := by
  obtain ⟨hl, h3⟩ := h
  have hn := requestTokens_none line
  simp only [breakRequest, strcpy_ok hl, bind, Except.bind, pure, Except.pure, broken]
  cases hm : (requestTokens line).method with
  | none => rfl
  | some m =>
  cases hc : (requestTokens line).command with
  | none => rfl
  | some c =>
  have hcl := requestTokens_command_length hc
  simp only [strcpy_ok (show c.length < HTTP_COMMAND_MAX_SIZE by omega)]
  cases ht : (requestTokens line).third with
  | none => rfl
  | some p =>
  by_cases hp : p = HTTP10 ∨ p = HTTP11
  · have hpl : p.length < HTTP_PROTO_MAX_SIZE := by rcases hp with rfl | rfl <;> decide
    simp only [if_pos hp, strcpy_ok hpl]
  · obtain ⟨ha, h4⟩ := h3 p ht hp
    simp only [if_neg hp, strcpy_ok ha]
    cases hq : (requestTokens line).fourth with
    | none => rfl
    | some q => simp only [strcpy_ok (h4 q hq)]

theorem breakRequest_of_not_fits {line : Bytes} (h : ¬ LineFits line) :
    breakRequest line = .error .overflow := by
  by_cases hl : line.length < HTTP_COMMAND_MAX_SIZE
  swap
  · simp [breakRequest, strcpy, hl, bind, Except.bind]
  -- the line itself fits, so some token is missing its array
  have hn := requestTokens_none line
  simp only [LineFits, hl, true_and] at h
  push Not at h
  obtain ⟨p, ht, hp, hlen⟩ := h
  have hp' : ¬ (p = HTTP10 ∨ p = HTTP11) := by simpa using hp
  cases hm : (requestTokens line).method with
  | none => rw [hn.2 (hn.1 hm)] at ht; cases ht
  | some m =>
  cases hc : (requestTokens line).command with
  | none => rw [hn.2 hc] at ht; cases ht
  | some c =>
  have hcl := requestTokens_command_length hc
  simp only [breakRequest, strcpy_ok hl, bind, Except.bind, pure, Except.pure, hm, hc,
    strcpy_ok (show c.length < HTTP_COMMAND_MAX_SIZE by omega), ht, if_neg hp']
  by_cases ha : p.length < HTTP_ARGS_MAX_SIZE
  · obtain ⟨q, hq, hql⟩ := hlen ha
    simp only [strcpy_ok ha, hq]
    simp [strcpy, Nat.not_lt.mpr hql]
  · simp [strcpy, ha]

theorem breakRequest_ok {line : Bytes} {b : Broken} (h : breakRequest line = .ok b) :
    LineFits line ∧ b = broken (requestTokens line) := by
  by_cases hf : LineFits line
  · rw [breakRequest_of_fits hf] at h; cases h; exact ⟨hf, rfl⟩
  · rw [breakRequest_of_not_fits hf] at h; cases h

/-- No path of `break_request` gives `REQUEST_TOO_LONG`. -/
theorem broken_flag (t : RequestTokens) :
    (broken t).flag = HTTP_PARSER_ERROR_SUCCESS ∨
      (broken t).flag = HTTP_PARSER_ERROR_BAD_REQUEST_FORMAT := by
  unfold broken
  split
  · split
    · exact .inl rfl
    · split
      · exact .inr rfl
      · exact .inl rfl
  · exact .inr rfl
  · exact .inr rfl

theorem buildCmd_response {b : Broken} {resp r : Int} (h : buildCmd b resp = .ok (none, r)) :
    r = HTTP_PARSER_ERROR_NO_MEMORY ∨ r = HTTP_PARSER_ERROR_DUPLICATE_PARAMS := by
  unfold buildCmd at h
  cases hp : parseParams b.args with
  | error e => simp [hp, bind, Except.bind] at h
  | ok o =>
    cases o with
    | none => simp [hp, bind, Except.bind, pure, Except.pure] at h; exact .inl h.symm
    | some ps =>
      cases hd : hasDuplicate ps ps with
      | error e => simp [hp, hd, bind, Except.bind] at h
      | ok dup =>
        cases dup <;> simp [hp, hd, bind, Except.bind, pure, Except.pure] at h
        exact .inr h.symm

/-- A request whose line was found is never refused as too long. -/
theorem parseRequestLine_not_tooLong (line : Bytes) (resp : Int) :
    parseRequestLine (some line) resp ≠ .ok (none, HTTP_PARSER_ERROR_REQUEST_TOO_LONG) := by
  intro h
  unfold parseRequestLine at h
  cases hb : breakRequest line with
  | error e => simp [hb, bind, Except.bind] at h
  | ok b =>
    obtain ⟨-, rfl⟩ := breakRequest_ok hb
    simp only [hb, bind, Except.bind, pure, Except.pure] at h
    split at h
    · simp only [Except.ok.injEq, Prod.mk.injEq, true_and] at h
      rcases broken_flag (requestTokens line) with hf | hf <;> rw [hf] at h <;> revert h <;> decide
    · split at h
      · simp at h; revert h; decide
      · rcases buildCmd_response h with hr | hr <;> revert hr <;> decide

/-- The property asked of a request line: refused as too long, or every copy
`break_request` makes fits its array. -/
def RefusedOrFits (line : Bytes) (response : Int) : Prop :=
  parseRequestLine (some line) response = .ok (none, HTTP_PARSER_ERROR_REQUEST_TOO_LONG) ∨
    breakRequest line ≠ .error .overflow

/-- For every request line, the copies fit (or the request is refused)
exactly when the line and its tokens are short enough. -/
theorem refusedOrFits_iff (line : Bytes) (response : Int) :
    RefusedOrFits line response ↔ LineFits line := by
  unfold RefusedOrFits
  constructor
  · rintro (h | h)
    · exact absurd h (parseRequestLine_not_tooLong line response)
    · by_contra hf
      exact h (breakRequest_of_not_fits hf)
  · intro hf
    right
    rw [breakRequest_of_fits hf]
    intro h; cases h

/-- A protocol token of 16 characters: it overruns the 16 byte array. -/
def longProtoBuffer : ReadBuffer where
  received := ascii "GET /current?a=b HTTP/1.123456789\r\n"
  rest := List.replicate 4061 0
  received_ne := by decide
  size := by rw [List.length_replicate]; rfl

/-- The line arrives, is not refused as too long, and its copy overflows. -/
theorem longProto_overflows :
    rpiwdGetline longProtoBuffer.mem CRLF = .ok (some (ascii "GET /current?a=b HTTP/1.123456789")) ∧
    ¬ RefusedOrFits (ascii "GET /current?a=b HTTP/1.123456789") HTTP_PARSER_ERROR_SUCCESS := by
  refine ⟨rfl, ?_⟩
  rintro (h | h)
  · exact parseRequestLine_not_tooLong _ _ h
  · exact h rfl

end Rpiweatherd
