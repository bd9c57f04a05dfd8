import Rpiweatherd.L2Http.Params

/-!
# Which bytes of the read buffer decide the outcome

`read` fills the first bytes of the buffer and nothing terminates them, so
`strstr` may look at what the stack held before. The outcome of
`read_and_parse_response` is a function of the received bytes exactly when
they contain a CRLF or a NUL (`determined_iff`): then the search ends inside
them. Otherwise a left-over NUL, a left-over CRLF and neither of the two
give three different outcomes, the last one a read past the buffer.
-/
namespace Rpiweatherd

theorem CRLF_ne_nil : CRLF ≠ [] := by decide

theorem nul_not_mem_CRLF : (0 : UInt8) ∉ CRLF := by decide

/-- The received bytes end the search for CRLF themselves. -/
def Terminated (received : Bytes) : Prop := (0 : UInt8) ∈ received ∨ CRLF <:+: received

instance (received : Bytes) : Decidable (Terminated received) :=
  decidable_of_iff ((0 : UInt8) ∈ received ∨ ∃ t ∈ received.tails, CRLF.isPrefixOf t = true) (by
    unfold Terminated
    rw [List.infix_iff_prefix_suffix]
    simp only [List.mem_tails, List.isPrefixOf_iff_prefix]
    exact or_congr Iff.rfl ⟨fun ⟨t, a, b⟩ => ⟨t, b, a⟩, fun ⟨t, a, b⟩ => ⟨t, b, a⟩⟩)

theorem strstr_terminated {a : Bytes} (h : Terminated a) (m₁ m₂ : Bytes) :
    strstr CRLF (a ++ m₁) = strstr CRLF (a ++ m₂) := by
  rcases h with h | h
  · exact strstr_append_of_nul nul_not_mem_CRLF CRLF_ne_nil h m₁ m₂
  · exact strstr_append_of_hit CRLF_ne_nil h m₁ m₂

/-- The line of a terminated request is found, or not, inside it. -/
theorem rpiwdGetline_terminated {a : Bytes} (h : Terminated a) (m : Bytes) :
    rpiwdGetline (a ++ m) CRLF = rpiwdGetline (a ++ [0]) CRLF := by
  have key : ∀ m n, strstr CRLF (a ++ m) = .ok (some n) → (a ++ m).take n = a.take n := by
    intro m n hn
    -- the hit is the same one with nothing behind `a`, or a single NUL behind it
    rw [strstr_terminated h m [0]] at hn
    have := strstr_hit_length hn
    simp only [CRLF, List.length_cons, List.length_nil, List.length_append] at this
    rw [List.take_append_of_le_length (by omega)]
  unfold rpiwdGetline
  cases hs : strstr CRLF (a ++ m) with
  | error e => rw [← strstr_terminated h m [0], hs]; rfl
  | ok o =>
    have hs' := hs
    rw [strstr_terminated h m [0]] at hs'
    rw [hs']
    rcases o with _ | n
    · rfl
    · cases n with
      | zero => rfl
      | succ n => simp only [Except.map, key m _ hs, key [0] _ hs']

theorem parseHttpRequest_terminated {a : Bytes} (h : Terminated a) (m : Bytes) (resp : Int) :
    parseHttpRequest (a ++ m) resp = parseHttpRequest (a ++ [0]) resp := by
  unfold parseHttpRequest
  rw [rpiwdGetline_terminated h m]

theorem rpiwdGetline_nul_isOk (a : Bytes) : ∃ o, rpiwdGetline (a ++ [0]) CRLF = .ok o := by
  obtain ⟨o, ho⟩ := strstr_nul_isOk CRLF a
  exact ⟨_, by rw [rpiwdGetline, ho]; rfl⟩

/-- The request line of a NUL-terminated text. -/
def requestLine (request : Bytes) : Option Bytes :=
  match rpiwdGetline (request ++ [0]) CRLF with
  | .ok o => o
  | .error _ => none

theorem parseHttpRequest_nul (request : Bytes) (response : Int) :
    parseHttpRequest (request ++ [0]) response =
      parseRequestLine (requestLine request) response := by
  obtain ⟨o, ho⟩ := rpiwdGetline_nul_isOk request
  simp only [parseHttpRequest, requestLine, ho, bind, Except.bind]

theorem parseHttpRequest_nul_inBounds (a : Bytes) (resp : Int) :
    parseHttpRequest (a ++ [0]) resp ≠ .error .outOfBounds := by
  rw [parseHttpRequest_nul]
  intro h
  rcases parseRequestLine_fault h with e | e <;> cases e

/-- Unterminated bytes hold no line. -/
theorem requestLine_unterminated {received : Bytes} (h : ¬ Terminated received) :
    requestLine received = none := by
  have hc : ¬ CRLF <:+: received := fun hc => h (.inr hc)
  simp only [requestLine, rpiwdGetline, strstr_nul_of_miss nul_not_mem_CRLF CRLF_ne_nil hc []]
  rfl

/-- `read_and_parse_response` gives the same command, or the same failure
and response code, for every left-over content of the buffer. -/
def Determined (received : Bytes) (response : Int) (isEof : Bool) : Prop :=
  ∀ b₁ b₂ : ReadBuffer, b₁.received = received → b₂.received = received →
    readAndParseResponse (.data b₁) response isEof = readAndParseResponse (.data b₂) response isEof ∧
      readAndParseResponse (.data b₁) response isEof ≠ .error .outOfBounds

/-- The buffer with `received` in front and `fill` in every other byte. -/
def bufferOf (received : Bytes) (fill : UInt8) (hne : received ≠ [])
    (hlen : received.length ≤ RESPONSE_BUFFER_SIZE) : ReadBuffer where
  received := received
  rest := List.replicate (RESPONSE_BUFFER_SIZE - received.length) fill
  received_ne := hne
  size := by rw [List.length_replicate]; omega

theorem map_outOfBounds {α β : Type} {x : Except Fault α} {f : α → β} :
    x.map f = .error .outOfBounds ↔ x = .error .outOfBounds := by
  cases x <;> simp [Except.map]

/-- Filled with a byte that is neither CR, LF nor NUL, an unterminated
request sends the search past the buffer. -/
theorem unterminated_outOfBounds {received : Bytes} (h : ¬ Terminated received)
    (hne : received ≠ []) (hlen : received.length ≤ RESPONSE_BUFFER_SIZE) (resp : Int)
    (isEof : Bool) :
    readAndParseResponse (.data (bufferOf received 97 hne hlen)) resp isEof =
      .error .outOfBounds := by
  have h0 : (0 : UInt8) ∉ (bufferOf received 97 hne hlen).mem := by
    intro hm
    simp only [ReadBuffer.mem, bufferOf, List.mem_append, List.mem_replicate] at hm
    rcases hm with hm | ⟨-, hm⟩
    · exact h (.inl hm)
    · revert hm; decide
  have hc : ¬ CRLF <:+: (bufferOf received 97 hne hlen).mem := by
    intro hc
    refine h (.inr (infix_of_append CRLF_ne_nil (fun b hb hm => ?_) hc))
    rw [(List.mem_replicate.mp hm).2] at hb
    revert hb; decide
  simp only [readAndParseResponse, map_outOfBounds, parseHttpRequest, rpiwdGetline,
    strstr_outOfBounds hc h0]
  rfl

/-- **Noninterference.** The outcome depends on the received bytes only,
exactly when these contain a CRLF or a NUL. -/
theorem determined_iff (received : Bytes) (response : Int) (isEof : Bool)
    (hne : 1 ≤ received.length) (hlen : received.length ≤ RESPONSE_BUFFER_SIZE) :
    Determined received response isEof ↔ Terminated received := by
  constructor
  · intro h
    by_contra ht
    have hne' : received ≠ [] := by rintro rfl; simp at hne
    exact (h (bufferOf received 97 hne' hlen) (bufferOf received 97 hne' hlen) rfl rfl).2
      (unterminated_outOfBounds ht hne' hlen response isEof)
  · rintro ht b₁ b₂ rfl h₂
    have e : ∀ b : ReadBuffer, b.received = b₁.received →
        parseHttpRequest b.mem response = parseHttpRequest (b₁.received ++ [0]) response := by
      intro b hb
      rw [← hb] at ht ⊢
      exact parseHttpRequest_terminated ht b.rest response
    simp only [readAndParseResponse, ne_eq, map_outOfBounds, e b₁ rfl, e b₂ h₂, true_and]
    exact parseHttpRequest_nul_inBounds _ _

theorem determined_getCurrent :
    Determined (ascii "GET /current HTTP/1.1\r\n") HTTP_PARSER_ERROR_SUCCESS false :=
  (determined_iff _ _ _ (by decide) (by decide)).mpr (by decide)

/-- The request line came without its CRLF (a short read), and NULs or a
CRLF are left over from before. -/
def shortRead (left : Bytes) (h : left.length = 2) : ReadBuffer where
  received := ascii "GET /current HTTP/1.1"
  rest := left ++ List.replicate 4073 0
  received_ne := by decide
  size := by rw [List.length_append, h, List.length_replicate]; rfl

/-- With NULs left over the short read is refused, with a left-over CRLF it
is the `current` command. -/
theorem shortRead_depends :
    readAndParseResponse (.data (shortRead [0, 0] rfl)) 0 false = .ok (none, 0, false) ∧
    readAndParseResponse (.data (shortRead CRLF rfl)) 0 false =
      .ok (some ⟨ascii "current", some []⟩, 0, false) ∧
    ¬ Determined (ascii "GET /current HTTP/1.1") 0 false := by
  refine ⟨rfl, rfl, fun h => ?_⟩
  have he := (h (shortRead [0, 0] rfl) (shortRead CRLF rfl) rfl rfl).1
  have h1 : readAndParseResponse (.data (shortRead [0, 0] rfl)) 0 false = .ok (none, 0, false) := rfl
  have h2 : readAndParseResponse (.data (shortRead CRLF rfl)) 0 false =
      .ok (some ⟨ascii "current", some []⟩, 0, false) := rfl
  rw [h1, h2] at he
  cases he

end Rpiweatherd
