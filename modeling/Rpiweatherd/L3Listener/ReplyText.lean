import Rpiweatherd.L1Json.Building
import Rpiweatherd.L2Http.Response
import Rpiweatherd.L3Listener.Documents

/-!
# From a reply to the bytes on the socket and back (`src/datastructures.c`, `src/http.c`)

A worker turns its answer into a JSON document, has parson serialize it, and
wraps the text into a response. `sendReply` is this way down to the argument
of `write`; `clientReads` is the way back: the head, the body, and parson's
own parser on it.

What is not checked on the way shows in `sendReply`: a document that could not
be serialized is sent as a response without a body, an error that could not be
is not sent at all, and the response of an error is not tested for NULL.

* `Body.Clean.root`: the document of every clean body is built without
  undefined behaviour, has at most three levels, and names the error code.
* `clientReads_sendReply`: the client reads back the status and the document,
  its numbers to six decimals.
-/
namespace Rpiweatherd

open JsonObject

/-! ## The documents -/

/-- `sprintf(refkey_str, "%d.%s", ent->id, field)`, and the set.
mirrors src/datastructures.c:164-166 -/
def setEntryField (id : Int) (o : JsonObject) (f : String × Option JsonValue) :
    Except Fault JsonObject :=
  (strcpy JSON_SERIALIZER_TEMP_ID_BUFFER_SIZE (printInt id ++ (ascii "." ++ ascii f.1))).map
    fun key => (o.dotsetValue key f.2).1

/-- NULL for NULL, else the root object. mirrors src/datastructures.c:140-189 -/
def entryToJsonValue (ent : Option Entry) (unitstr : Bytes) : Except Fault (Option JsonObject) :=
  match ent with
  | none => .ok none
  | some e =>
    let o := ((jsonHeader 1 unitstr).setValue (ascii "id") (.number e.id)).1
    ((entryFields e).foldlM (setEntryField e.id) o).map some

/-- mirrors src/http.c:269-274 -/
def errorDocument (errcode : Int) (err : Option Bytes) : JsonObject :=
  let o := (JsonObject.init.setValue (ascii "length") (.number 0)).1
  let o := (o.setValue (ascii "errcode") (.number errcode)).1
  ((jsonValueInitString err).map fun v => (o.setValue (ascii "errmsg") v).1).getD o

/-- The document of a body; a reply without a body has none.
mirrors src/listener.c:252-264 -/
def Body.root : Body → Except Fault (Option JsonObject)
  | .empty => .ok none
  | .error errcode errmsg => .ok (some (errorDocument errcode (some (ascii errmsg))))
  | .document (.entries l) tempunit => entrylistToJsonValue (some l) [tempunit.getD 0]
  | .document (.entry e) tempunit => entryToJsonValue (some e) [tempunit.getD 0]
  | .document (.keyValues l) _ => (keyValueListToJsonValue l).map some

/-! ## The response -/

/-- What a reply needs from the C library. -/
structure ReplyEnv where
  cast : NumCast
  malloc : (size : Nat) → Option {block : Bytes // block.length = size}
  callocOk : Bool
  ctime : Bytes
  serverId : Bytes

/-- `make_response`; the text ends at its terminator. -/
def ReplyEnv.makeResponse (env : ReplyEnv) (code : Int) (serialized : Option Bytes) :
    Except Fault (Option Bytes) :=
  Rpiweatherd.makeResponse env.callocOk env.ctime env.serverId code (serialized.map cstr)

/-- `json_serialize_to_string` -/
def ReplyEnv.serialize (env : ReplyEnv) (root : JsonObject) : Except Fault (Option Bytes) :=
  jsonSerializeToString env.cast false env.malloc (some root.toValue.toJson)

/-- What is written to the socket, `none` for nothing. mirrors
src/http.c:250-293, src/listener.c:268-274 -/
def sendReply (env : ReplyEnv) (r : Reply) : Except Fault (Option Bytes) := do
  match ← r.body.root with
  | none => env.makeResponse r.code none
  | some root =>
    let serialized ← env.serialize root
    match r.body with
    | .error _ _ =>
      -- `send_http_error_response` gives up without a text, but not without a response
      match serialized with
      | none => return none
      | some text => return some (← deref (← env.makeResponse r.code (some text)))
    | _ => env.makeResponse r.code serialized

/-- The status line, and the document if there is a body. -/
def clientReads (response : Bytes) : Option (Bytes × Option Json) :=
  (readHead [] response).bind fun (lines, body) =>
    lines.head?.bind fun status =>
      if body = [] then some (status, none)
      else (jsonParseString (some body)).map fun v => (status, some v)

/-! ## Numbers a document can hold -/

/-- The numbers of an entry are `float`s, or a `float` times 9/5 and 32. -/
def FLT_LIMIT : ℚ := 2 ^ 130

theorem readable_of_small {q : ℚ} (h : |q| < FLT_LIMIT) : Readable (.num q) := by
  have hnear := abs_le.mp (fixedValue_near 6 q)
  have hq := abs_lt.mp h
  have hslack : FLT_LIMIT + 1 ≤ DBL_OVERFLOW := by
    have hpow : (2 : ℚ) ^ 970 * 2 ≤ 2 ^ DBL_MAX_EXP := by
      have hexp : (2 : ℚ) ^ 970 * 2 = 2 ^ 971 := (pow_succ 2 970).symm
      rw [hexp]
      exact pow_le_pow_right₀ (by norm_num) (by decide)
    have hbig : FLT_LIMIT + 1 ≤ 2 ^ 970 := by
      have hone : FLT_LIMIT + 1 ≤ 2 ^ 131 := by norm_num [FLT_LIMIT]
      exact hone.trans (pow_le_pow_right₀ (by norm_num) (by norm_num))
    unfold DBL_OVERFLOW
    rw [le_sub_iff_add_le]
    exact (add_le_add_left hbig _).trans ((mul_two _).symm.trans_le hpow)
  show |fixedValue 6 q| < DBL_OVERFLOW
  rw [abs_lt]
  norm_num at hnear
  constructor <;> linarith

theorem readable_int {n : Int} (h : InInt n) : Readable (.num n) := by
  apply readable_of_small
  obtain ⟨hlo, hhi⟩ := h
  unfold INT_MIN at hlo
  unfold INT_MAX at hhi
  have hn : |n| < 2 ^ 130 := by
    rw [abs_lt]
    omega
  unfold FLT_LIMIT
  exact_mod_cast hn

/-! ## Clean data -/

/-- A C string has no byte of its terminator. -/
def CleanText (s : Option Bytes) : Prop := ∀ t ∈ s, 0 ∉ t

/-- An entry of C strings, an `int` and two `float`s. -/
structure CleanEntry (e : Entry) : Prop where
  id : InInt e.id
  recordDate : CleanText e.recordDate
  temperature : |e.temperature| < FLT_LIMIT
  humidity : |e.humidity| < FLT_LIMIT
  location : CleanText e.location
  deviceName : CleanText e.deviceName

/-- A pair whose key fits the buffer of the serializer. -/
def CleanPair (p : Option Bytes × Option Bytes) : Prop :=
  (∃ key, p.1 = some key ∧ PairKey key ∧ 0 ∉ key) ∧ CleanText p.2

def Data.Clean : Data → Prop
  | .entries l => l.length < 2 ^ 31 ∧ ∀ e ∈ l, CleanEntry e
  | .entry e => CleanEntry e
  | .keyValues l => l.pairs.length < 2 ^ 31 ∧ ∀ p ∈ l.pairs, CleanPair p

/-- An error has a code, and a text that parson takes. -/
def Body.Clean : Body → Prop
  | .empty => True
  | .error errcode errmsg =>
    InInt errcode ∧ errcode ≠ 0 ∧ 0 ∉ ascii errmsg ∧ isValidUtf8 (ascii errmsg) = true
  | .document d _ => d.Clean

/-- The code a client finds in the document. -/
def Body.errcode : Body → Int
  | .error errcode _ => errcode
  | _ => 0

theorem kept_string {s : Option Bytes} (h : CleanText s) :
    ∀ v ∈ jsonValueInitString s, v.Kept 0 := by
  intro v hv
  obtain ⟨t, ht, hv⟩ := Option.bind_eq_some_iff.mp hv
  split at hv
  · cases hv
    exact .string (h t ht)
  · cases hv

theorem CleanEntry.fields {e : Entry} (h : CleanEntry e) :
    ∀ f ∈ entryFields e, 0 ∉ ascii f.1 ∧ ∀ v ∈ f.2, v.Kept 0 := by
  have hnumber : ∀ {q : ℚ}, |q| < FLT_LIMIT → ∀ v ∈ some (JsonValue.number q), v.Kept 0 := by
    rintro q hq v ⟨⟩
    exact .number (readable_of_small hq)
  have hid : ∀ v ∈ some (JsonValue.number e.id), v.Kept 0 := by
    rintro v ⟨⟩
    exact .number (readable_int h.id)
  simp only [entryFields, List.forall_mem_cons]
  exact ⟨⟨by decide, hid⟩, ⟨by decide, kept_string h.recordDate⟩,
    ⟨by decide, hnumber h.temperature⟩, ⟨by decide, hnumber h.humidity⟩,
    ⟨by decide, kept_string h.location⟩, ⟨by decide, kept_string h.deviceName⟩,
    List.forall_mem_nil _⟩

/-! ## Every document is kept -/

/-- What holds of a document while it is built: it can be written and read
back, and its error code is `errcode`. -/
structure Answer (errcode : Int) (o : JsonObject) : Prop where
  kept : o.Kept 2
  errcode : o.getValue (ascii "errcode") = some (.number errcode)

namespace Answer
variable {errcode : Int} {o : JsonObject}

theorem setValue (h : Answer errcode o) {name : Bytes} {v : JsonValue} (hname : 0 ∉ name)
    (hne : ascii "errcode" ≠ name) (hv : v.Kept 2) : Answer errcode (o.setValue name v).1 :=
  ⟨h.kept.setValue hname hv, (getValue_setValue_ne hne).trans h.errcode⟩

theorem dotsetPath (h : Answer errcode o) {current : Bytes} {rest : List Bytes} {v : JsonValue}
    (hpath : ∀ name ∈ current :: rest, 0 ∉ name) (hne : ascii "errcode" ≠ current)
    (hlen : rest.length ≤ 2) (hv : v.Kept 0) :
    Answer errcode (JsonObject.dotsetPath v (current :: rest) o).1 := by
  refine ⟨dotsetPath_kept hpath hv ?_ h.kept, (getValue_dotsetPath_ne hne).trans h.errcode⟩
  rw [List.length_cons]
  omega

end Answer

/-- A loop over sets that are all made. -/
theorem foldlM_invariant {α : Type} {f : JsonObject → α → Except Fault JsonObject}
    {P : JsonObject → Prop} {xs : List α}
    (hstep : ∀ x ∈ xs, ∀ o, P o → ∃ o', f o x = .ok o' ∧ P o') {o : JsonObject} (ho : P o) :
    ∃ o', xs.foldlM f o = .ok o' ∧ P o' := by
  induction xs generalizing o with
  | nil => exact ⟨o, rfl, ho⟩
  | cons x xs ih =>
    obtain ⟨hx, hxs⟩ := List.forall_mem_cons.mp hstep
    obtain ⟨o₁, hf, ho₁⟩ := hx o ho
    obtain ⟨o₂, hrest, ho₂⟩ := ih hxs ho₁
    refine ⟨o₂, ?_, ho₂⟩
    rw [List.foldlM_cons, hf]
    exact hrest

theorem appendUnits_kept {o : JsonObject} (h : o.Kept 2) (unitstr : Bytes) :
    (appendUnits o unitstr).Kept 2 := by
  have htemp : (ascii "units.tempunit").splitOn 46 = [ascii "units", ascii "tempunit"] := by decide
  have hhumid : (ascii "units.humidunit").splitOn 46 = [ascii "units", ascii "humidunit"] := by
    decide
  have hset : ∀ {o : JsonObject} {key last s : Bytes}, o.Kept 2 →
      key.splitOn 46 = [ascii "units", last] → 0 ∉ last → 0 ∉ s →
      (o.dotsetValue key (jsonValueInitString (some s))).1.Kept 2 := by
    intro o key last s ho hkey hlast hs
    cases hv : jsonValueInitString (some s) with
    | none => exact ho
    | some v =>
      have hunits : ∀ name ∈ [ascii "units", last], 0 ∉ name :=
        List.forall_mem_cons.mpr ⟨by decide, List.forall_mem_singleton.mpr hlast⟩
      have hkept : v.Kept 0 := by
        refine kept_string (s := some s) ?_ v hv
        rintro t ⟨⟩
        exact hs
      rw [dotsetValue, hkey]
      exact dotsetPath_kept hunits hkept (Nat.le_succ 2) ho
  have hunit : 0 ∉ [unitstr.getD RPIWD_MEASURE_TEMPERATURE 0].takeWhile (· ≠ 0) := by
    intro h0
    have := List.mem_takeWhile_imp h0
    simp at this
  exact hset (hset h htemp (by decide) hunit) hhumid (by decide) (by decide)

theorem readable_zero : Readable (.num 0) := by
  apply readable_of_small
  norm_num [FLT_LIMIT]

theorem readable_size {size : Nat} (h : size < 2 ^ 31) : Readable (.num size) := by
  have hint : InInt size := ⟨by unfold INT_MIN; omega, by unfold INT_MAX; omega⟩
  exact readable_int hint

theorem answer_jsonHeader {size : Nat} (hsize : size < 2 ^ 31) (unitstr : Bytes) :
    Answer 0 (jsonHeader size unitstr) := by
  constructor
  · have hlength := (kept_init 2).setValue (show 0 ∉ ascii "length" by decide)
      (.number (readable_size hsize))
    have herrcode := (appendUnits_kept hlength unitstr).setValue
      (show 0 ∉ ascii "errcode" by decide) (.number readable_zero)
    exact herrcode.setValue (by decide) (.string List.not_mem_nil)
  · obtain ⟨c, t, heq, -⟩ := jsonHeader_eq size unitstr
    rw [heq]
    rfl

theorem answer_keyValueHeader {length : Nat} (hlength : length < 2 ^ 31) :
    Answer 0 (keyValueHeader length) := by
  constructor
  · have hfirst := (kept_init 2).setValue (show 0 ∉ ascii "length" by decide)
      (.number (readable_size hlength))
    have herrcode := hfirst.setValue (show 0 ∉ ascii "errcode" by decide) (.number readable_zero)
    exact herrcode.setValue (by decide) (.string List.not_mem_nil)
  · obtain ⟨c, heq, -⟩ := keyValueHeader_eq length
    rw [heq]
    rfl

/-- A digit or a sign is no letter. -/
theorem errcode_ne_printInt (n : Int) : ascii "errcode" ≠ printInt n := by
  intro heq
  have hmem : (101 : UInt8) ∈ printInt n := heq ▸ (by decide)
  exact absurd (printInt_bytes n 101 hmem) (by decide)

theorem nul_notMem_printInt (n : Int) : 0 ∉ printInt n := fun h0 =>
  absurd (printInt_bytes n 0 h0) (by decide)

/-- One set of a list's entry. -/
theorem Answer.setField {errcode : Int} {o : JsonObject} (h : Answer errcode o) {id : Int}
    (hid : InInt id) {f : String × Option JsonValue} (hname : FieldName f.1) (h0 : 0 ∉ ascii f.1)
    (hv : ∀ v ∈ f.2, v.Kept 0) : ∃ o', setField id o f = .ok o' ∧ Answer errcode o' := by
  have hint : -2 ^ 31 ≤ id ∧ id < 2 ^ 31 := by
    obtain ⟨hlo, hhi⟩ := hid
    unfold INT_MIN at hlo
    unfold INT_MAX at hhi
    omega
  obtain ⟨field, value⟩ := f
  cases value with
  | none =>
    refine ⟨o, ?_, h⟩
    simp only [Rpiweatherd.setField, refkeyStr_eq hint hname, Except.map, dotsetValue]
  | some v =>
    refine ⟨_, setField_eq hint hname v o, h.dotsetPath ?_ (by decide) (by simp) (hv v rfl)⟩
    simp only [List.forall_mem_cons]
    exact ⟨by decide, nul_notMem_printInt id, h0, List.forall_mem_nil _⟩

theorem answer_entrylist {l : List Entry} (hlen : l.length < 2 ^ 31) (h : ∀ e ∈ l, CleanEntry e)
    (unitstr : Bytes) :
    ∃ o, entrylistToJsonValue (some l) unitstr = .ok (some o) ∧ Answer 0 o := by
  have hentry : ∀ e ∈ l, ∀ o, Answer 0 o → ∃ o', setEntry o e = .ok o' ∧ Answer 0 o' := by
    intro e he o ho
    refine foldlM_invariant (fun f hf o ho => ?_) ho
    obtain ⟨h0, hv⟩ := (h e he).fields f hf
    exact ho.setField (h e he).id (entryFields_names e f hf) h0 hv
  obtain ⟨o, hfold, ho⟩ := foldlM_invariant hentry (answer_jsonHeader hlen unitstr)
  refine ⟨o, ?_, ho⟩
  simp only [entrylistToJsonValue, hfold]
  rfl

/-- One set of a single entry. -/
theorem Answer.setEntryField {errcode : Int} {o : JsonObject} (h : Answer errcode o) {id : Int}
    (hid : InInt id) {f : String × Option JsonValue} (hname : FieldName f.1) (h0 : 0 ∉ ascii f.1)
    (hv : ∀ v ∈ f.2, v.Kept 0) : ∃ o', setEntryField id o f = .ok o' ∧ Answer errcode o' := by
  have hint : -2 ^ 31 ≤ id ∧ id < 2 ^ 31 := by
    obtain ⟨hlo, hhi⟩ := hid
    unfold INT_MIN at hlo
    unfold INT_MAX at hhi
    omega
  have hfits : strcpy JSON_SERIALIZER_TEMP_ID_BUFFER_SIZE (printInt id ++ (ascii "." ++ ascii f.1)) =
      .ok (printInt id ++ (ascii "." ++ ascii f.1)) := by
    have hlen := printInt_length hint
    have hdot : (ascii ".").length = 1 := by decide
    apply strcpy_ok
    rw [List.length_append, List.length_append, hdot]
    have := hname.1
    unfold JSON_SERIALIZER_TEMP_ID_BUFFER_SIZE
    omega
  have hsplit : (printInt id ++ (ascii "." ++ ascii f.1)).splitOn 46 =
      [printInt id, ascii f.1] := by
    have hjoin : printInt id ++ (ascii "." ++ ascii f.1) =
        [(46 : UInt8)].intercalate [printInt id, ascii f.1] := by
      have hdot : ascii "." = [46] := by decide
      simp [List.intercalate, hdot]
    rw [hjoin]
    refine List.splitOn_intercalate _ (fun l hl => ?_) (by simp)
    simp only [List.mem_cons, List.not_mem_nil, or_false] at hl
    rcases hl with rfl | rfl
    · exact dot_notMem_printInt id
    · exact hname.2
  obtain ⟨field, value⟩ := f
  cases value with
  | none =>
    refine ⟨o, ?_, h⟩
    simp only [Rpiweatherd.setEntryField, hfits, Except.map, dotsetValue]
  | some v =>
    refine ⟨(JsonObject.dotsetPath v [printInt id, ascii field] o).1, ?_,
      h.dotsetPath ?_ (errcode_ne_printInt id) (by simp) (hv v rfl)⟩
    · simp only [Rpiweatherd.setEntryField, hfits, Except.map, dotsetValue, hsplit]
    · simp only [List.forall_mem_cons]
      exact ⟨nul_notMem_printInt id, h0, List.forall_mem_nil _⟩

theorem answer_entry {e : Entry} (h : CleanEntry e) (unitstr : Bytes) :
    ∃ o, entryToJsonValue (some e) unitstr = .ok (some o) ∧ Answer 0 o := by
  have hheader := (answer_jsonHeader (show 1 < 2 ^ 31 by norm_num) unitstr).setValue
    (show 0 ∉ ascii "id" by decide) (by decide) (.number (readable_int h.id))
  have hstep : ∀ f ∈ entryFields e, ∀ o, Answer 0 o →
      ∃ o', setEntryField e.id o f = .ok o' ∧ Answer 0 o' := by
    intro f hf o ho
    obtain ⟨h0, hv⟩ := h.fields f hf
    exact ho.setEntryField h.id (entryFields_names e f hf) h0 hv
  obtain ⟨o, hfold, ho⟩ := foldlM_invariant hstep hheader
  refine ⟨o, ?_, ho⟩
  simp only [entryToJsonValue, hfold]
  rfl

theorem answer_keyValues {l : KeyValueList} (hlen : l.pairs.length < 2 ^ 31)
    (h : ∀ p ∈ l.pairs, CleanPair p) :
    ∃ o, keyValueListToJsonValue l = .ok o ∧ Answer 0 o := by
  refine foldlM_invariant (fun p hp o ho => ?_) (answer_keyValueHeader hlen)
  obtain ⟨⟨key, hkey, hpair, h0⟩, hvalue⟩ := h p hp
  obtain ⟨p₁, value⟩ := p
  obtain rfl : p₁ = some key := hkey
  refine ⟨_, setPair_eq hpair o value, ?_⟩
  cases hv : jsonValueInitString value with
  | none => exact ho
  | some v =>
    refine ho.dotsetPath ?_ (by decide) (by simp) (kept_string hvalue v hv)
    simp only [List.forall_mem_cons]
    exact ⟨by decide, h0, List.forall_mem_nil _⟩

theorem answer_error {errcode : Int} (hcode : InInt errcode) {err : Bytes} (herr : 0 ∉ err)
    (hutf8 : isValidUtf8 err = true) : Answer errcode (errorDocument errcode (some err)) := by
  have hvalue : jsonValueInitString (some err) = some (.string err) := by
    simp only [jsonValueInitString, Option.bind_some, hutf8, if_true]
  have hlength := (kept_init 2).setValue (show 0 ∉ ascii "length" by decide)
    (.number readable_zero)
  have herrcode := hlength.setValue (show 0 ∉ ascii "errcode" by decide)
    (.number (readable_int hcode))
  rw [errorDocument, hvalue]
  exact Answer.setValue ⟨herrcode, rfl⟩ (by decide) (by decide) (.string herr)

/-- **The document of a clean body** is built, is kept, and has the body's
error code; only the body of a 204 has none. -/
theorem Body.Clean.root {b : Body} (h : b.Clean) :
    b = .empty ∧ b.root = .ok none ∨ ∃ o, b.root = .ok (some o) ∧ Answer b.errcode o := by
  cases b with
  | empty => exact .inl ⟨rfl, rfl⟩
  | error errcode errmsg =>
    obtain ⟨hcode, -, herr, hutf8⟩ := h
    exact .inr ⟨_, rfl, answer_error hcode herr hutf8⟩
  | document d tempunit =>
    right
    cases d with
    | entries l => exact answer_entrylist h.1 h.2 _
    | entry e => exact answer_entry h _
    | keyValues l =>
      obtain ⟨o, ho, hanswer⟩ := answer_keyValues h.1 h.2
      refine ⟨o, ?_, hanswer⟩
      simp only [Body.root, ho]
      rfl

/-! ## The way back -/

/-- `json_object_get_value` -/
def Json.getValue (v : Json) (name : Bytes) : Option Json :=
  match v with
  | .object _ members => members.lookup name
  | _ => none

/-- A client that looks up a name finds what was set, as it was written. -/
theorem getValue_reread (o : JsonObject) (name : Bytes) :
    o.toValue.toJson.reread.getValue name = (o.getValue name).map fun v => v.toJson.reread := by
  show (Json.rereadMembers (JsonValue.toJsonMembers o.members)).lookup name = _
  rw [Json.rereadMembers_eq, JsonValue.toJsonMembers_eq, List.map_map, JsonObject.getValue]
  induction o.members with
  | nil => rfl
  | cons m ms ih =>
    obtain ⟨k, v⟩ := m
    simp only [List.map_cons, List.lookup_cons, Function.comp]
    cases name == k with
    | true => rfl
    | false => exact ih

theorem reread_int (n : Int) :
    (JsonValue.number n).toJson.reread = .number (.num n) := by
  show Json.number (.num (fixedValue 6 n)) = _
  rw [fixedValue_of_int (n := n * 10 ^ 6) (by push_cast; ring)]

/-- Memory is there, and the date and the name of the server are one line
each. -/
structure ReplyEnv.Ready (env : ReplyEnv) : Prop where
  malloc : ∀ size, (env.malloc size).isSome = true
  calloc : env.callocOk = true
  ctime : ∃ date, env.ctime = date ++ [10] ∧ date.length = 24 ∧ 10 ∉ date
  serverId_length : env.serverId.length ≤ 100
  serverId_line : 10 ∉ env.serverId

/-- Memory in plenty, at the epoch. -/
def plainEnv : ReplyEnv where
  cast := .zeroing
  malloc size := some ⟨List.replicate size 0, List.length_replicate⟩
  callocOk := true
  ctime := ascii "Thu Jan  1 00:00:00 1970\n"
  serverId := ascii "rpiweatherd"

theorem plainEnv_ready : plainEnv.Ready where
  malloc _ := rfl
  calloc := rfl
  ctime := ⟨ascii "Thu Jan  1 00:00:00 1970", by decide, by decide, by decide⟩
  serverId_length := by decide
  serverId_line := by decide

/-- The text of the document is within the counts of the serializer. -/
def TextFits (o : JsonObject) : Prop := (o.toValue.toJson.text false 0).length < INT_MAX.toNat

section Send
variable {env : ReplyEnv} (hready : env.Ready)
include hready

/-- A response with this body, read by a client. -/
theorem readHead_makeResponse {code : Int} {status : Bytes} (hcode : httpCodeStr code = some status)
    {data : Option Bytes} (hlen : (data.getD []).length < 2 ^ 31) :
    ∃ response headers, makeResponse env.callocOk env.ctime env.serverId code data =
        .ok (some response) ∧
      readHead [] response = some ((ascii "HTTP/1.1 " ++ status) :: headers, data.getD []) := by
  obtain ⟨date, hctime, hdate, hline⟩ := hready.ctime
  let i : ResponseInput :=
    ⟨code, status, data, date, env.serverId, hcode, hlen, hdate, hline, hready.serverId_length,
      hready.serverId_line⟩
  refine ⟨_, _, ?_, readHead_crlfLines i.lines_ok i.body⟩
  rw [hready.calloc, hctime]
  exact i.response_eq

theorem serialize_eq {o : JsonObject} (h : o.Kept 2) (hfits : TextFits o) :
    env.serialize o = .ok (some (o.toValue.toJson.text false 0 ++ [0])) := by
  obtain ⟨block, hblock⟩ := Option.isSome_iff_exists.mp
    (hready.malloc ((o.toValue.toJson.text false 0).length + 1))
  rw [ReplyEnv.serialize, jsonSerializeToString_eq env.cast false env.malloc
    (h.toValue.wellFormed.mono fun x => isDouble_of_readable), if_pos (show _ < _ from hfits), hblock]
  rfl

/-- The document of a response is read back. -/
theorem clientReads_document {o : JsonObject} (h : o.Kept 2) (hfits : TextFits o) {code : Int}
    {status : Bytes} (hcode : httpCodeStr code = some status) :
    ∃ response, env.makeResponse code (some (o.toValue.toJson.text false 0 ++ [0])) =
        .ok (some response) ∧
      clientReads response =
        some (ascii "HTTP/1.1 " ++ status, some o.toValue.toJson.reread) := by
  have hwell := h.toValue.wellFormed
  have hlen : ((some (o.toValue.toJson.text false 0)).getD []).length < 2 ^ 31 :=
    hfits.trans (by decide)
  obtain ⟨response, headers, hmake, hhead⟩ := readHead_makeResponse hready hcode hlen
  refine ⟨response, ?_, ?_⟩
  · rw [ReplyEnv.makeResponse, Option.map_some, cstr_append_nul (nul_notMem_text hwell false 0)]
    exact hmake
  · have hbody : ¬ (some (o.toValue.toJson.text false 0)).getD [] = [] := List.cons_ne_nil _ _
    have hdepth : o.toValue.toJson.depth ≤ MAX_NESTING :=
      h.toValue.depth_le.trans (by decide)
    have hparse := parse_text hwell false
    rw [if_pos hdepth] at hparse
    simp only [clientReads, hhead, Option.bind_some, List.head?_cons, if_neg hbody]
    rw [Option.getD_some, hparse]
    rfl

/-- **A reply reaches its client.** For every clean body the document is
built; if its text is within the counts, one response is written, and what the
client reads is the status of the code and the document. -/
theorem clientReads_sendReply {r : Reply} (hbody : r.body.Clean) {status : Bytes}
    (hcode : httpCodeStr r.code = some status) :
    ∃ root, r.body.root = .ok root ∧ (root = none ↔ r.body = .empty) ∧
      (∀ o ∈ root, o.toValue.toJson.reread.getValue (ascii "errcode") =
        some (.number (.num r.body.errcode))) ∧
      ((∀ o ∈ root, TextFits o) → ∃ response, sendReply env r = .ok (some response) ∧
        clientReads response =
          some (ascii "HTTP/1.1 " ++ status, root.map fun o => o.toValue.toJson.reread)) := by
  rcases hbody.root with ⟨hempty, hroot⟩ | ⟨o, hroot, hanswer⟩
  · refine ⟨none, hroot, by simp [hempty], by simp, fun _ => ?_⟩
    obtain ⟨response, headers, hmake, hhead⟩ := readHead_makeResponse hready hcode
      (show ((none : Option Bytes).getD []).length < 2 ^ 31 by decide)
    refine ⟨response, ?_, ?_⟩
    · simp only [sendReply, hroot, bind, Except.bind]
      exact hmake
    · simp [clientReads, hhead]
  · have hne : r.body ≠ .empty := by
      intro hempty
      rw [hempty] at hroot
      cases hroot
    refine ⟨some o, hroot, by simp [hne], ?_, fun hfits => ?_⟩
    · rintro o' ⟨⟩
      rw [getValue_reread, hanswer.errcode, Option.map_some, reread_int]
    · obtain ⟨response, hmake, hreads⟩ := clientReads_document hready hanswer.kept (hfits o rfl) hcode
      refine ⟨response, ?_, hreads⟩
      simp only [sendReply, hroot, bind, Except.bind, serialize_eq hready hanswer.kept (hfits o rfl)]
      split
      · simp only [hmake, deref, pure, Except.pure]
      · exact hmake

end Send

end Rpiweatherd
