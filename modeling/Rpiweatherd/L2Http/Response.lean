import Rpiweatherd.L1Libc.Printf
import Rpiweatherd.L2Http.Request

/-!
# The text of a response (`src/http.c:217-249, 323-353`)

`make_response` prints the status text and the `Content-Length` line into
buffers of their own and puts everything together with a template. `readHead`
is what a client does with the result: lines up to the first empty one, then
the body.

For the codes of `http_code_str` no buffer overflows, and the client gets the
status, the length and the body back (`response_well_framed`), whatever the
body is.
-/
namespace Rpiweatherd

def HTTP_RESPONSE_HEADER_SIZE : Nat := 512

def HTTP_RESPONSE_TEMPLATE : Bytes :=
  ascii "HTTP/1.1 %s\r\n" ++
    ascii "Date: %s\r\nServer: %s\r\n" ++
    ascii "Cache-control: no-store\r\n" ++
    ascii "Content-Type: text/html\r\n%s\r\n" ++
    ascii "%s"

/-- mirrors src/http.c:323-353 -/
def httpCodeStr (code : Int) : Option Bytes :=
  if code = HTTP_CODE_OK then some (ascii "200 OK")
  else if code = HTTP_CODE_NO_CONTENT then some (ascii "204 No Content")
  else if code = HTTP_CODE_REQUEST_BAD_REQUEST then some (ascii "400 Bad Request")
  else if code = HTTP_CODE_FORBIDDEN then some (ascii "403 Forbidden")
  else if code = HTTP_CODE_NOT_FOUND then some (ascii "404 Not Found")
  else if code = HTTP_CODE_TOO_MANY_REQUESTS then some (ascii "429 Too Many Requests")
  else if code = HTTP_CODE_REQUEST_TIMEOUT then some (ascii "408 Request Timeout")
  else if code = HTTP_CODE_PAYLOAD_TOO_LARGE then some (ascii "413 Payload Too Large")
  else if code = HTTP_CODE_URI_TOO_LONG then some (ascii "414 URI Too Long")
  else if code = HTTP_CODE_INTERNAL_SERVER_ERROR then some (ascii "500 Internal Server Error")
  else if code = HTTP_CODE_VERSION_NOT_SUPPORTED then some (ascii "505 HTTP Version Not Supported")
  else if code = HTTP_CODE_INSUFFICIENT_STORAGE then some (ascii "507 Insufficient Storage")
  else none

/-- `sprintf(content_length, …)`. mirrors src/http.c:231-232 -/
def contentLength (datalen : Nat) : Except Fault Bytes :=
  sprintf (HTTP_RESPONSE_HEADER_SIZE / 2)
    (if datalen ≠ 0 then ascii "Content-Length: %d\r\n" else []) [.int datalen]

/-- `ctime_r` into `date_buffer[26]`, without its last byte.
mirrors src/http.c:236-237 -/
def dateBuffer (ctime : Bytes) : Except Fault Bytes :=
  (strcpy 26 ctime).bind fun date =>
    if date = [] then .error .outOfBounds else .ok date.dropLast

/-- `ctime` is the text `ctime_r` writes, `allocated` whether `calloc` gave a
block. mirrors src/http.c:217-249 -/
def makeResponse (allocated : Bool) (ctime serverId : Bytes) (code : Int) (data : Option Bytes) :
    Except Fault (Option Bytes) :=
  let datalen := (data.getD []).length
  if allocated then do
    let respString ← sprintf (HTTP_RESPONSE_HEADER_SIZE / 2) (← deref (httpCodeStr code)) []
    let contentLength ← contentLength datalen
    let date ← dateBuffer ctime
    let response ← sprintf (HTTP_RESPONSE_HEADER_SIZE + datalen) HTTP_RESPONSE_TEMPLATE
      [.str respString, .str date, .str serverId, .str contentLength, .str (data.getD [])]
    return some response
  else .ok none

/-! ## What a client reads -/

/-- Lines up to an empty one, and what is behind it; `line` is what has been
read of the current line. -/
def readHead (line : Bytes) : Bytes → Option (List Bytes × Bytes)
  | 13 :: 10 :: s =>
    if line = [] then some ([], s)
    else (readHead [] s).map fun (lines, body) => (line :: lines, body)
  | b :: s => readHead (line ++ [b]) s
  | [] => none

/-- The value of a header line of this name, in any case. -/
def headerValue (name line : Bytes) : Option Bytes :=
  if (name ++ [58, 32]).map tolower = (line.take (name.length + 2)).map tolower then
    some (line.drop (name.length + 2))
  else none

/-- A code `http_code_str` knows, and what else a response is made of. -/
structure ResponseInput where
  code : Int
  text : Bytes
  data : Option Bytes
  date : Bytes
  serverId : Bytes
  known : httpCodeStr code = some text
  data_length : (data.getD []).length < 2 ^ 31
  date_length : date.length = 24
  date_line : 10 ∉ date
  serverId_length : serverId.length ≤ 100
  serverId_line : 10 ∉ serverId

namespace ResponseInput

def body (i : ResponseInput) : Bytes := i.data.getD []

def response (i : ResponseInput) : Except Fault (Option Bytes) :=
  makeResponse true (i.date ++ [10]) i.serverId i.code i.data

/-- The response is read as the status, the headers and the body it was made
of, and fits its block with its terminator. -/
structure WellFramed (i : ResponseInput) (response : Bytes) : Prop where
  framed : ∃ headers,
    readHead [] response = some ((ascii "HTTP/1.1 " ++ i.text) :: headers, i.body) ∧
    headers.filterMap (headerValue (ascii "Content-Length")) =
      if i.body = [] then [] else [printInt i.body.length]
  fits : response.length + 1 ≤ HTTP_RESPONSE_HEADER_SIZE + i.body.length

end ResponseInput

/-! ## Reading lines -/

theorem readHead_byte {b : UInt8} {s : Bytes} (h : b ≠ 13 ∨ s.head? ≠ some 10) (line : Bytes) :
    readHead line (b :: s) = readHead (line ++ [b]) s := by
  rw [readHead]
  rintro s' rfl rfl
  rcases h with hb | hs
  · exact hb rfl
  · exact hs rfl

/-- A line is read up to its end. -/
theorem readHead_line {l : Bytes} (h : 10 ∉ l) (line s : Bytes) :
    readHead line (l ++ 13 :: 10 :: s) =
      if line ++ l = [] then some ([], s)
      else (readHead [] s).map fun (lines, body) => ((line ++ l) :: lines, body) := by
  induction l generalizing line with
  | nil =>
    rw [List.append_nil, List.nil_append, readHead]
  | cons b l ih =>
    have hne : 10 ∉ l := fun hmem => h (List.mem_cons_of_mem b hmem)
    have hbyte : b ≠ 13 ∨ (l ++ 13 :: 10 :: s).head? ≠ some 10 := by
      right
      cases l with
      | nil =>
        rw [List.nil_append, List.head?_cons]
        decide
      | cons c l =>
        rw [List.cons_append, List.head?_cons]
        rintro ⟨⟩
        exact hne List.mem_cons_self
    rw [List.cons_append, readHead_byte hbyte, ih hne, List.append_assoc, List.singleton_append]

def crlfLines (lines : List Bytes) : Bytes := lines.flatMap (· ++ CRLF)

/-- A head is read as its lines and a body as it is. -/
theorem readHead_crlfLines {lines : List Bytes} (h : ∀ l ∈ lines, l ≠ [] ∧ 10 ∉ l) (body : Bytes) :
    readHead [] (crlfLines lines ++ (CRLF ++ body)) = some (lines, body) := by
  induction lines with
  | nil => rfl
  | cons l lines ih =>
    obtain ⟨hne, hline⟩ := h l List.mem_cons_self
    have hsplit : crlfLines (l :: lines) ++ (CRLF ++ body) =
        l ++ 13 :: 10 :: (crlfLines lines ++ (CRLF ++ body)) := by
      simp [crlfLines, CRLF]
    rw [hsplit, readHead_line hline, List.nil_append, if_neg hne,
      ih fun l' hl' => h l' (List.mem_cons_of_mem l hl')]
    rfl

/-! ## Printing -/

/-- A text that is printed as it is, on one line, into its buffer. -/
def IsStatusText (text : Bytes) : Prop := 37 ∉ text ∧ 10 ∉ text ∧ text.length ≤ 30

instance decidableIsStatusText (text : Bytes) : Decidable (IsStatusText text) :=
  inferInstanceAs (Decidable (_ ∧ _ ∧ _))

theorem isStatusText_case {c : Prop} [Decidable c] {a text : Bytes} {rest : Option Bytes}
    (ha : IsStatusText a) (hrest : rest = some text → IsStatusText text)
    (h : (if c then some a else rest) = some text) : IsStatusText text := by
  split at h
  · exact Option.some.inj h ▸ ha
  · exact hrest h

theorem httpCodeStr_text {code : Int} {text : Bytes} (h : httpCodeStr code = some text) :
    IsStatusText text := by
  revert h
  unfold httpCodeStr
  iterate 12 refine isStatusText_case (by decide +kernel) ?_
  intro h
  cases h

/-- The line with the length, if there is a body. -/
def lengthLines (datalen : Nat) : List Bytes :=
  if datalen = 0 then [] else [ascii "Content-Length: " ++ printInt datalen]

theorem lengthLines_length {n : Nat} (hn : n < 2 ^ 31) :
    (crlfLines (lengthLines n)).length ≤ 28 := by
  have hdigits : (printInt n).length ≤ 10 := printInt_nat_length (by decide) (by omega)
  have htext : (ascii "Content-Length: ").length = 16 := by decide +kernel
  unfold lengthLines
  split
  · exact Nat.zero_le _
  · simp only [crlfLines, List.flatMap_singleton, List.length_append, htext, CRLF,
      List.length_cons, List.length_nil]
    omega

theorem contentLength_eq {n : Nat} (hn : n < 2 ^ 31) :
    contentLength n = .ok (crlfLines (lengthLines n)) := by
  have hfits : (crlfLines (lengthLines n)).length < HTTP_RESPONSE_HEADER_SIZE / 2 :=
    lt_of_le_of_lt (lengthLines_length hn) (by decide)
  refine sprintf_ok ?_ hfits
  unfold lengthLines
  by_cases h0 : n = 0
  · rw [if_pos h0, if_neg (not_not.mpr h0)]
    rfl
  · have hformat : ascii "Content-Length: %d\r\n" =
        ascii "Content-Length: " ++ 37 :: 100 :: (CRLF ++ []) := by decide +kernel
    have hint : InInt n := ⟨by unfold INT_MIN; omega, by unfold INT_MAX; omega⟩
    have hsame : toInt32 n = n := (toInt32_eq_iff hint).mpr (by simp)
    rw [if_neg h0, if_pos h0, hformat, printf_text (by decide +kernel), printf_int,
      printf_text (by decide), hsame]
    simp [printf, Except.map, crlfLines]

theorem dateBuffer_eq {date : Bytes} (h : date.length = 24) :
    dateBuffer (date ++ [10]) = .ok date := by
  unfold dateBuffer
  rw [strcpy_ok (by simp [h])]
  simp [Except.bind]

/-- The template, filled in. -/
theorem printf_template (status date serverId length body : Bytes) :
    printf HTTP_RESPONSE_TEMPLATE [.str status, .str date, .str serverId, .str length, .str body] =
      .ok (crlfLines [ascii "HTTP/1.1 " ++ status, ascii "Date: " ++ date,
        ascii "Server: " ++ serverId, ascii "Cache-control: no-store",
        ascii "Content-Type: text/html"] ++ (length ++ (CRLF ++ body))) := by
  have hformat : HTTP_RESPONSE_TEMPLATE =
      ascii "HTTP/1.1 " ++ 37 :: 115 :: (CRLF ++ (ascii "Date: " ++ 37 :: 115 :: (CRLF ++
        (ascii "Server: " ++ 37 :: 115 :: (CRLF ++ (ascii "Cache-control: no-store" ++ (CRLF ++
          (ascii "Content-Type: text/html" ++ (CRLF ++ 37 :: 115 :: (CRLF ++
            37 :: 115 :: [])))))))))) := by decide +kernel
  have hcrlf : 37 ∉ CRLF := by decide
  rw [hformat, printf_text (by decide +kernel), printf_str, printf_text hcrlf,
    printf_text (by decide +kernel), printf_str, printf_text hcrlf,
    printf_text (by decide +kernel), printf_str, printf_text hcrlf,
    printf_text (by decide +kernel), printf_text hcrlf, printf_text (by decide +kernel),
    printf_text hcrlf, printf_str, printf_text hcrlf, printf_str]
  simp only [printf, Except.map, crlfLines, List.flatMap_cons, List.flatMap_nil,
    List.append_assoc, List.append_nil]

/-! ## The response -/

namespace ResponseInput
variable (i : ResponseInput)

def fixedLines : List Bytes :=
  [ascii "HTTP/1.1 " ++ i.text, ascii "Date: " ++ i.date, ascii "Server: " ++ i.serverId,
    ascii "Cache-control: no-store", ascii "Content-Type: text/html"]

theorem fixedLines_length : (crlfLines i.fixedLines).length ≤ 233 := by
  obtain ⟨-, -, htext⟩ := httpCodeStr_text i.known
  have hdate := i.date_length
  have hserver := i.serverId_length
  have h1 : (ascii "HTTP/1.1 ").length = 9 := by decide +kernel
  have h2 : (ascii "Date: ").length = 6 := by decide +kernel
  have h3 : (ascii "Server: ").length = 8 := by decide +kernel
  have h4 : (ascii "Cache-control: no-store").length = 23 := by decide +kernel
  have h5 : (ascii "Content-Type: text/html").length = 23 := by decide +kernel
  simp only [crlfLines, fixedLines, List.flatMap_cons, List.flatMap_nil, List.length_append,
    List.length_nil, h1, h2, h3, h4, h5, CRLF, List.length_cons]
  omega

theorem response_length :
    (crlfLines (i.fixedLines ++ lengthLines i.body.length) ++ (CRLF ++ i.body)).length + 1 ≤
      HTTP_RESPONSE_HEADER_SIZE + i.body.length := by
  have hfixed := i.fixedLines_length
  have hlength := lengthLines_length i.data_length
  have hsplit : crlfLines (i.fixedLines ++ lengthLines i.body.length) =
      crlfLines i.fixedLines ++ crlfLines (lengthLines i.body.length) := List.flatMap_append
  rw [hsplit]
  unfold HTTP_RESPONSE_HEADER_SIZE
  simp only [List.length_append, CRLF, List.length_cons, List.length_nil]
  unfold body at hlength ⊢
  omega

/-- No buffer overflows, and the response is its lines, an empty one and the
body. -/
theorem response_eq :
    i.response = .ok (some (crlfLines (i.fixedLines ++ lengthLines i.body.length) ++
      (CRLF ++ i.body))) := by
  obtain ⟨hpercent, -, hshort⟩ := httpCodeStr_text i.known
  have hstatus : sprintf (HTTP_RESPONSE_HEADER_SIZE / 2) i.text [] = .ok i.text := by
    have htext := printf_text hpercent [] []
    rw [List.append_nil] at htext
    refine sprintf_ok (htext.trans ?_) (lt_of_le_of_lt hshort (by decide))
    simp [printf, Except.map]
  have htemplate := printf_template i.text i.date i.serverId
    (crlfLines (lengthLines i.body.length)) i.body
  have hlines : crlfLines (i.fixedLines ++ lengthLines i.body.length) ++ (CRLF ++ i.body) =
      crlfLines i.fixedLines ++ (crlfLines (lengthLines i.body.length) ++ (CRLF ++ i.body)) := by
    simp [crlfLines]
  have hfits := i.response_length
  rw [hlines] at hfits ⊢
  have hlength : contentLength (i.data.getD []).length =
      .ok (crlfLines (lengthLines i.body.length)) := contentLength_eq i.data_length
  have hresponse := sprintf_ok htemplate hfits
  unfold response makeResponse
  simp only [if_true, i.known, deref, bind, Except.bind, hstatus, hlength,
    dateBuffer_eq i.date_length]
  have hbody : i.data.getD [] = i.body := rfl
  rw [hbody, hresponse]
  rfl

theorem lines_ok : ∀ l ∈ i.fixedLines ++ lengthLines i.body.length, l ≠ [] ∧ 10 ∉ l := by
  have happend : ∀ {a b : Bytes}, a ≠ [] ∧ 10 ∉ a → 10 ∉ b → a ++ b ≠ [] ∧ 10 ∉ a ++ b := by
    rintro a b ⟨hne, ha⟩ hb
    exact ⟨List.append_ne_nil_of_left_ne_nil hne b, by simp [ha, hb]⟩
  obtain ⟨-, htext, -⟩ := httpCodeStr_text i.known
  have hdigits : 10 ∉ printInt i.body.length := fun hmem =>
    absurd (printInt_digits _ 10 hmem) (by decide)
  intro l hl
  rcases List.mem_append.mp hl with hl | hl
  · simp only [fixedLines, List.mem_cons, List.not_mem_nil, or_false] at hl
    rcases hl with rfl | rfl | rfl | rfl | rfl
    · exact happend (by decide +kernel) htext
    · exact happend (by decide +kernel) i.date_line
    · exact happend (by decide +kernel) i.serverId_line
    · decide +kernel
    · decide +kernel
  · unfold lengthLines at hl
    split at hl
    · cases hl
    · rw [List.mem_singleton.mp hl]
      exact happend (by decide +kernel) hdigits

/-! ## The `Content-Length` -/

theorem headerValue_other {b : UInt8} (hb : tolower b ≠ 99) (l : Bytes) :
    headerValue (ascii "Content-Length") (b :: l) = none := by
  have hname : (ascii "Content-Length" ++ [58, 32]).map tolower =
      99 :: ((ascii "ontent-Length" ++ [58, 32]).map tolower) := by decide +kernel
  unfold headerValue
  rw [hname, if_neg]
  intro heq
  exact hb (List.cons.inj heq).1.symm

theorem headerValue_length (s : Bytes) :
    headerValue (ascii "Content-Length") (ascii "Content-Length: " ++ s) = some s := by
  have hname : ascii "Content-Length" ++ [58, 32] = ascii "Content-Length: " := by decide +kernel
  have hlen : (ascii "Content-Length").length + 2 = (ascii "Content-Length: ").length := by
    decide +kernel
  unfold headerValue
  rw [hname, hlen, List.take_left, List.drop_left, if_pos rfl]

theorem lengthValues :
    (i.fixedLines.tail ++ lengthLines i.body.length).filterMap
        (headerValue (ascii "Content-Length")) =
      if i.body = [] then [] else [printInt i.body.length] := by
  have hdate : headerValue (ascii "Content-Length") (ascii "Date: " ++ i.date) = none :=
    headerValue_other (by decide) _
  have hserver : headerValue (ascii "Content-Length") (ascii "Server: " ++ i.serverId) = none :=
    headerValue_other (by decide) _
  have hcache : headerValue (ascii "Content-Length") (ascii "Cache-control: no-store") = none := by
    decide +kernel
  have htype : headerValue (ascii "Content-Length") (ascii "Content-Type: text/html") = none := by
    decide +kernel
  have hfixed : i.fixedLines.tail.filterMap (headerValue (ascii "Content-Length")) = [] := by
    simp [fixedLines, hdate, hserver, hcache, htype]
  rw [List.filterMap_append, hfixed, List.nil_append]
  unfold lengthLines
  by_cases hbody : i.body = []
  · simp [hbody]
  · simp [hbody, headerValue_length]

end ResponseInput

/-- **Every response is well framed**: a client that reads lines up to the
first empty one gets the status text, the length if there is a body, and the
body byte for byte. -/
theorem response_well_framed (i : ResponseInput) :
    ∃ response, i.response = .ok (some response) ∧ i.WellFramed response :=
  ⟨_, i.response_eq,
    ⟨_, readHead_crlfLines i.lines_ok i.body, i.lengthValues⟩, i.response_length⟩

/-- A body that looks like a template and the end of a head. -/
def percentResponse : ResponseInput where
  code := HTTP_CODE_OK
  text := ascii "200 OK"
  data := some (ascii "%s\r\n\r\nContent-Length: 0")
  date := ascii "Thu Jan  1 00:00:00 1970"
  serverId := ascii "rpiweatherd/1.0"
  known := rfl
  data_length := by decide +kernel
  date_length := by decide +kernel
  date_line := by decide +kernel
  serverId_length := by decide +kernel
  serverId_line := by decide +kernel

theorem percentResponse_well_framed :
    ∃ response, percentResponse.response = .ok (some response) ∧
      percentResponse.WellFramed response :=
  response_well_framed percentResponse

end Rpiweatherd
