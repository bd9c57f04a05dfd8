import Rpiweatherd.L1Libc.CString

/-!
# The HTTP request parser (`src/http.c`, `rpiwd_getline` of `src/util.c`)

`read_and_parse_response` reads once into a 4096 byte stack buffer and hands
the buffer, as it stands, to `parse_http_request`. Everything below works on
the raw buffer `mem`: the received bytes followed by whatever the stack held
before. `*response` and `*is_eof` are in/out parameters, as in the source:
some paths return NULL and leave them alone.

`malloc` and `strdup` are taken to succeed; `realloc(p, 0)` frees `p` and
returns NULL, as glibc does, and that path is reachable (`NO_MEMORY` below).
-/
namespace Rpiweatherd

def HTTP_COMMAND_MAX_SIZE : Nat := 1024
def HTTP_PROTO_MAX_SIZE : Nat := 16
def HTTP_ARGS_MAX_SIZE : Nat := 512
def RESPONSE_BUFFER_SIZE : Nat := 4096

def HTTP_CODE_OK : Int := 200
def HTTP_CODE_NO_CONTENT : Int := 204
def HTTP_CODE_NOT_FOUND : Int := 404
def HTTP_CODE_REQUEST_TIMEOUT : Int := 408
def HTTP_CODE_REQUEST_BAD_REQUEST : Int := 400
def HTTP_CODE_FORBIDDEN : Int := 403
def HTTP_CODE_TOO_MANY_REQUESTS : Int := 429
def HTTP_CODE_PAYLOAD_TOO_LARGE : Int := 413
def HTTP_CODE_URI_TOO_LONG : Int := 414
def HTTP_CODE_INTERNAL_SERVER_ERROR : Int := 500
def HTTP_CODE_VERSION_NOT_SUPPORTED : Int := 505
def HTTP_CODE_INSUFFICIENT_STORAGE : Int := 507

def HTTP_PARSER_ERROR_SUCCESS : Int := 0
def HTTP_PARSER_ERROR_UNKNOWN_PARAM : Int := -1
def HTTP_PARSER_ERROR_REQUEST_TOO_LONG : Int := -2
def HTTP_PARSER_ERROR_PARAMS_REQUIRED : Int := -3
def HTTP_PARSER_ERROR_BAD_REQUEST_FORMAT : Int := -4
def HTTP_PARSER_ERROR_WRONG_PROTOCOL : Int := -5
def HTTP_PARSER_ERROR_NO_MEMORY : Int := -6
def HTTP_PARSER_ERROR_DUPLICATE_PARAMS : Int := -7

structure HttpCmdParam where
  name : Option Bytes
  value : Option Bytes
  deriving DecidableEq, Repr

/-- `params` is the array pointer (`none` is NULL); `length` counts its
entries. -/
structure HttpCmd where
  cmdname : Bytes
  params : Option (List HttpCmdParam)
  deriving DecidableEq, Repr

def HttpCmd.length (c : HttpCmd) : Nat := (c.params.getD []).length

def CRLF : Bytes := [13, 10]
def HTTP10 : Bytes := ascii "HTTP/1.0"
def HTTP11 : Bytes := ascii "HTTP/1.1"

/-- mirrors src/util.c:122-146 -/
def rpiwdGetline (mem newline : Bytes) : Except Fault (Option Bytes) :=
  (strstr newline mem).map fun
    | none => none
    | some 0 => none
    | some (n + 1) => some (mem.take (n + 1))

/-- The four `strtok_r` results of `break_request`, in order. -/
structure RequestTokens where
  method : Option Bytes
  command : Option Bytes
  third : Option Bytes
  fourth : Option Bytes
  deriving DecidableEq, Repr

def requestTokens (line : Bytes) : RequestTokens :=
  let t1 := strtok (ascii " ") line
  let t2 := strtok (ascii " /?") t1.2
  let t3 := strtok (ascii " ") t2.2
  let t4 := strtok (ascii " ") t3.2
  ⟨t1.1, t2.1, t3.1, t4.1⟩

/-- What `break_request` leaves behind: its return value and the three
caller buffers (zeroed before the call). -/
structure Broken where
  flag : Int
  proto : Bytes
  args : Bytes
  command : Bytes
  deriving DecidableEq, Repr

/-- mirrors src/http.c:46-89 -/
def breakRequest (url : Bytes) : Except Fault Broken := do
  let allLine ← strcpy HTTP_COMMAND_MAX_SIZE url
  let t := requestTokens allLine
  match t.method with
  | none => return ⟨HTTP_PARSER_ERROR_BAD_REQUEST_FORMAT, [], [], []⟩
  | some _ =>
  match t.command with
  | none => return ⟨HTTP_PARSER_ERROR_BAD_REQUEST_FORMAT, [], [], []⟩
  | some c =>
  let commandstr ← strcpy HTTP_COMMAND_MAX_SIZE c
  match t.third with
  | none => return ⟨HTTP_PARSER_ERROR_BAD_REQUEST_FORMAT, [], [], commandstr⟩
  | some p =>
  if p = HTTP10 ∨ p = HTTP11 then
    let proto ← strcpy HTTP_PROTO_MAX_SIZE p
    return ⟨HTTP_PARSER_ERROR_SUCCESS, proto, [], commandstr⟩
  else
  let args ← strcpy HTTP_ARGS_MAX_SIZE p
  match t.fourth with
  | none => return ⟨HTTP_PARSER_ERROR_BAD_REQUEST_FORMAT, [], args, commandstr⟩
  | some p =>
  let proto ← strcpy HTTP_PROTO_MAX_SIZE p
  return ⟨HTTP_PARSER_ERROR_SUCCESS, proto, args, commandstr⟩

/-- mirrors src/http.c:194-215 (`strlen` of the argument comes first) -/
def parseHttpParam (paramstr : Option Bytes) : Except Fault HttpCmdParam := do
  let s ← deref paramstr
  let t1 := strtok (ascii "=") s
  let t2 := strtok (ascii "=") t1.2
  return ⟨t1.1, t2.1⟩

/-- mirrors src/http.c:36-44 -/
def httpCmdParamCount (params : List HttpCmdParam) (name : Option Bytes) : Except Fault Nat :=
  params.foldlM (fun n p => do
    let a ← deref p.name
    let b ← deref name
    return if a = b then n + 1 else n) 0

/-- The duplicate check: `ok true` as soon as some parameter's name occurs
more than once. mirrors src/http.c:181-189 -/
def hasDuplicate (params : List HttpCmdParam) : List HttpCmdParam → Except Fault Bool
  | [] => .ok false
  | p :: ps => do
    let n ← httpCmdParamCount params p.name
    if n > 1 then return true else hasDuplicate params ps

/-- The `&`-separated pieces as `parse_http_param` gets them: the first
`strtok_r` result is passed on unchecked.
mirrors src/http.c:157-163 -/
def parseSegments (args : Bytes) : Except Fault (List HttpCmdParam) :=
  match strtokAll (ascii "&") args with
  | [] => do return [← parseHttpParam none]
  | segs => segs.mapM fun s => parseHttpParam (some s)

/-- The parameter array, or `none` when `realloc` returned NULL.
mirrors src/http.c:132-178 -/
def parseParams (args : Bytes) : Except Fault (Option (List HttpCmdParam)) := do
  let actualCount := args.count 38
  if actualCount = 0 then
    let p ← parseHttpParam (some args)
    return some (if p.name.isSome then [p] else [])
  else
    let ps ← parseSegments args
    if ps.length - 1 ≠ actualCount then
      -- fewer pieces than separators call for: the last piece is cut off
      let length := ps.length - 1
      return if length = 0 then none else some (ps.take length)
    else return some ps

/-- The part of `parse_http_request` behind the protocol check.
mirrors src/http.c:118-191 -/
def buildCmd (b : Broken) (response : Int) : Except Fault (Option HttpCmd × Int) := do
  match ← parseParams b.args with
  | none => return (none, HTTP_PARSER_ERROR_NO_MEMORY)
  | some params =>
    if ← hasDuplicate params params then
      return (none, HTTP_PARSER_ERROR_DUPLICATE_PARAMS)
    else
      return (some ⟨b.command, some params⟩, response)

/-- `line` is `none` when `rpiwd_getline` returned NULL: then `*response` is
not written. mirrors src/http.c:100-116 -/
def parseRequestLine (line : Option Bytes) (response : Int) :
    Except Fault (Option HttpCmd × Int) := do
  match line with
  | none => return (none, response)
  | some line =>
    let b ← breakRequest line
    if b.flag < 0 then return (none, b.flag)
    else if b.proto ≠ HTTP11 ∧ b.proto ≠ HTTP10 then
      return (none, HTTP_PARSER_ERROR_WRONG_PROTOCOL)
    else buildCmd b response

/-- mirrors src/http.c:91-192 -/
def parseHttpRequest (request : Bytes) (response : Int) : Except Fault (Option HttpCmd × Int) := do
  parseRequestLine (← rpiwdGetline request CRLF) response

/-- What one `read` of up to 4096 bytes can give: an error, end of file, or
some bytes at the start of the buffer, the rest of which is left over. -/
structure ReadBuffer where
  received : Bytes
  rest : Bytes
  received_ne : received ≠ []
  size : received.length + rest.length = RESPONSE_BUFFER_SIZE

theorem ReadBuffer.received_length_le (b : ReadBuffer) :
    b.received.length ≤ RESPONSE_BUFFER_SIZE := by
  have := b.size
  omega

def ReadBuffer.mem (b : ReadBuffer) : Bytes := b.received ++ b.rest

inductive ReadResult where
  | error (errno : Int)
  | eof
  | data (b : ReadBuffer)

/-- Returns the command, `*response` and `*is_eof`.
mirrors src/http.c:297-312 -/
def readAndParseResponse (rd : ReadResult) (response : Int) (isEof : Bool) :
    Except Fault (Option HttpCmd × Int × Bool) :=
  match rd with
  | .error _ => .ok (none, response, isEof)
  | .eof => .ok (none, response, true)
  | .data b => (parseHttpRequest b.mem response).map fun (c, r) => (c, r, isEof)

/-- mirrors src/http.c:355-374 -/
def httpParserStrerror (errcode : Int) : String :=
  if errcode = HTTP_PARSER_ERROR_SUCCESS then "Success"
  else if errcode = HTTP_PARSER_ERROR_UNKNOWN_PARAM then "Unknown parameter"
  else if errcode = HTTP_PARSER_ERROR_REQUEST_TOO_LONG then "HTTP request line is too long"
  else if errcode = HTTP_PARSER_ERROR_PARAMS_REQUIRED then "HTTP command requires parameters"
  else if errcode = HTTP_PARSER_ERROR_BAD_REQUEST_FORMAT then "HTTP request is malformed."
  else if errcode = HTTP_PARSER_ERROR_WRONG_PROTOCOL then
    "rpiweatherd only supports HTTP/1.0 or HTTP/1.1"
  else if errcode = HTTP_PARSER_ERROR_DUPLICATE_PARAMS then
    "Duplicate parameters in HTTP query string"
  else "Unknown error"

end Rpiweatherd
