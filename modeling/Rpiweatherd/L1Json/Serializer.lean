import Rpiweatherd.L1Json.Json
import Rpiweatherd.TwoPass

/-!
# Writing a JSON value (`deps/parson.c:754-976,1350-1468`)

`json_serialize_to_string` calls `json_serialize_to_buffer_r` without a buffer
to find the size of the text, allocates a block of that size, and calls it
again with the block. Every string is put there by `sprintf`, which writes a
terminator behind it, so a size that is one too small is an overflow of the
heap.

The counts are of type `int`. A number is printed into `num_buf`, of 1100
bytes, in the first pass. What a conversion of a number to `int` gives when
the number does not fit is not defined in C; `NumCast` leaves it open, and
`printNumber_eq` says that it does not show in the text.

**Result.** `jsonSerializeToString_eq`: the block is filled exactly, with
`Json.text` and a terminator, for every value whose text is shorter than
`INT_MAX`.
-/
namespace Rpiweatherd

/-- `-1`, or undefined behaviour. -/
inductive SerializeStop where
  | failure
  | fault (f : Fault)

abbrev JsonWriter := Writer UInt8 SerializeStop

/-- `written_total` is an `int`, and the block belongs to the heap. -/
def jsonRules : WriteRules UInt8 SerializeStop where
  nul := 0
  limit := INT_MAX.toNat
  tooLong := .fault .overflow
  outside := .fault .outOfBounds

def NUM_BUF_SIZE : Nat := 1100

/-! ## Numbers -/

/-- Towards zero. -/
def truncate (q : ℚ) : Int := q.num.tdiv q.den

/-- `(int)num` and `(unsigned int)num`: truncation where the result fits the
type, and some value of the type elsewhere. -/
structure NumCast where
  toInt : FloatVal → Int
  toUnsigned : FloatVal → Int
  toInt_range : ∀ x, InInt (toInt x)
  toInt_num : ∀ q, InInt (truncate q) → toInt (.num q) = truncate q
  toUnsigned_range : ∀ x, 0 ≤ toUnsigned x ∧ toUnsigned x ≤ UINT_MAX
  toUnsigned_num : ∀ q, 0 ≤ truncate q → truncate q ≤ UINT_MAX → toUnsigned (.num q) = truncate q

/-- A machine whose casts give 0 where the value does not fit. -/
def NumCast.zeroing : NumCast where
  toInt
    | .num q => if InInt (truncate q) then truncate q else 0
    | _ => 0
  toUnsigned
    | .num q => if 0 ≤ truncate q ∧ truncate q ≤ UINT_MAX then truncate q else 0
    | _ => 0
  toInt_range x := by
    have hzero : InInt 0 := by decide
    cases x with
    | num q =>
      dsimp only
      split
      · assumption
      · exact hzero
    | inf neg => exact hzero
    | nan neg => exact hzero
  toInt_num q h := if_pos h
  toUnsigned_range x := by
    have hzero : (0 : Int) ≤ 0 ∧ (0 : Int) ≤ UINT_MAX := by decide
    cases x with
    | num q =>
      dsimp only
      split
      · assumption
      · exact hzero
    | inf neg => exact hzero
    | nan neg => exact hzero
  toUnsigned_num q h0 hmax := if_pos ⟨h0, hmax⟩

/-- `sprintf("%f", num)` -/
def printDouble : FloatVal → Bytes
  | .num q => printFixed 6 q
  | .inf neg => (if neg then [45] else []) ++ ascii "inf"
  | .nan neg => (if neg then [45] else []) ++ ascii "nan"

/-- mirrors deps/parson.c:875-881 -/
def printNumber (cast : NumCast) (num : FloatVal) : Bytes :=
  if num = .num (cast.toInt num) then printInt (cast.toInt num)
  else if num = .num (cast.toUnsigned num) then printInt (cast.toUnsigned num)
  else printDouble num

/-- Into `num_buf` when there is no buffer. mirrors deps/parson.c:870-889 -/
def serializeNumber (cast : NumCast) (num : FloatVal) : JsonWriter
  | none, mem =>
    let text := printNumber cast num
    if text.length < NUM_BUF_SIZE then .ok (text.length, mem) else .error (.fault .overflow)
  | some p, mem => Writer.append jsonRules (printNumber cast num) (some p) mem

/-! ## Strings -/

/-- mirrors deps/parson.c:970-976 -/
def appendString (string : Bytes) : JsonWriter := Writer.append jsonRules string

/-- mirrors deps/parson.c:961-968 -/
def appendIndent (level : Nat) : JsonWriter :=
  Writer.seq jsonRules (List.replicate level (appendString [32, 32, 32, 32]))

/-- One round of the loop. mirrors deps/parson.c:906-955 -/
def serializeChar (c : UInt8) : JsonWriter :=
  match escapeOf c with
  | some e => appendString e
  | none => Writer.put jsonRules [c]

/-- mirrors deps/parson.c:900-959 -/
def serializeString (string : Bytes) : JsonWriter :=
  Writer.andThen jsonRules
    (Writer.seq jsonRules (appendString [34] :: string.map serializeChar)) (appendString [34])

/-! ## Values -/

/-- `if (condition) { … }` -/
def writeIf (condition : Bool) (w : JsonWriter) : JsonWriter := if condition then w else Writer.done

/-- The loop over the items; each of them is a few calls. mirrors
deps/parson.c:782-801,814-846 -/
def itemsLoop (pretty : Bool) (level : Nat) : List (List JsonWriter) → List JsonWriter
  | [] => []
  | item :: items => writeIf pretty (appendIndent (level + 1)) :: (item ++
      (writeIf (!items.isEmpty) (appendString [44]) :: writeIf pretty (appendString [10]) ::
        itemsLoop pretty level items))

/-- mirrors deps/parson.c:775-806,807-851 -/
def serializeContainer (opening closing : UInt8) (pretty : Bool) (level : Nat)
    (items : List (List JsonWriter)) : JsonWriter :=
  Writer.andThen jsonRules
    (Writer.seq jsonRules (appendString [opening] ::
      writeIf (!items.isEmpty && pretty) (appendString [10]) :: (itemsLoop pretty level items ++
        [writeIf (!items.isEmpty && pretty) (appendIndent level)])))
    (appendString [closing])

/-- The value is looked up by the name. mirrors deps/parson.c:815-838 -/
def serializeMember (pretty : Bool) (members : List (Bytes × JsonWriter)) (key : Bytes) :
    List JsonWriter :=
  [serializeString key, appendString [58], writeIf pretty (appendString [32]),
    (members.lookup key).getD (Writer.fail .failure)]

mutual
/-- mirrors deps/parson.c:764-898 -/
def serializeToBufferR (cast : NumCast) (pretty : Bool) : Json → (level : Nat) → JsonWriter
  | .null, _ => appendString (ascii "null")
  | .boolean b, _ => appendString (if b then ascii "true" else ascii "false")
  | .number x, _ => serializeNumber cast x
  | .string s, _ => serializeString s
  | .array _ items, level =>
    serializeContainer 91 93 pretty level
      ((itemWriters cast pretty items (level + 1)).map fun w => [w])
  | .object _ members, level =>
    let writers := memberWriters cast pretty members (level + 1)
    serializeContainer 123 125 pretty level
      (writers.map fun m => serializeMember pretty writers m.1)
termination_by structural v => v

def itemWriters (cast : NumCast) (pretty : Bool) : List Json → (level : Nat) → List JsonWriter
  | [], _ => []
  | v :: vs, level => serializeToBufferR cast pretty v level :: itemWriters cast pretty vs level
termination_by structural vs => vs

def memberWriters (cast : NumCast) (pretty : Bool) :
    List (Bytes × Json) → (level : Nat) → List (Bytes × JsonWriter)
  | [], _ => []
  | (name, v) :: ms, level =>
    (name, serializeToBufferR cast pretty v level) :: memberWriters cast pretty ms level
termination_by structural ms => ms
end

/-- `json_serialization_size` and `json_serialization_size_pretty`; NULL has
no type. mirrors deps/parson.c:1350-1354,1410-1414 -/
def jsonSerializationSize (cast : NumCast) (pretty : Bool) (value : Option Json) :
    Except Fault Nat :=
  match value with
  | none => .ok 0
  | some value =>
    match serializeToBufferR cast pretty value 0 none [] with
    | .error .failure => .ok 0
    | .error (.fault f) => .error f
    | .ok (res, _) => if res < INT_MAX.toNat then .ok (res + 1) else .error .overflow

/-- The block afterwards, `none` for `JSONFailure`. mirrors
deps/parson.c:1356-1367,1416-1427 -/
def jsonSerializeToBuffer (cast : NumCast) (pretty : Bool) (value : Option Json) (buf : Bytes)
    (bufSizeInBytes : Nat) : Except Fault (Option Bytes) :=
  (jsonSerializationSize cast pretty value).bind fun needed =>
    if needed = 0 ∨ bufSizeInBytes < needed then .ok none
    else match value with
      | none => .ok none
      | some value =>
        match serializeToBufferR cast pretty value 0 (some 0) buf with
        | .error .failure => .ok none
        | .error (.fault f) => .error f
        | .ok (_, buf) => .ok (some buf)

/-- `malloc` gives a block of the size asked for, or none. mirrors
deps/parson.c:1391-1408,1451-1468 -/
def jsonSerializeToString (cast : NumCast) (pretty : Bool)
    (malloc : (size : Nat) → Option {block : Bytes // block.length = size})
    (value : Option Json) : Except Fault (Option Bytes) :=
  (jsonSerializationSize cast pretty value).bind fun size =>
    if size = 0 then .ok none
    else match malloc size with
      | none => .ok none
      | some buf => jsonSerializeToBuffer cast pretty value buf size

/-! ## The text of a number -/

theorem truncate_of_den {q : ℚ} (h : q.den = 1) : truncate q = q.num := by
  rw [truncate, h, Nat.cast_one, Int.tdiv_one]

theorem num_eq_intCast {q : ℚ} {n : Int} (h : FloatVal.num q = .num n) : q.den = 1 ∧ q.num = n := by
  obtain rfl : q = n := FloatVal.num.inj h
  exact ⟨Rat.den_intCast n, Rat.num_intCast n⟩

theorem num_intCast {q : ℚ} (h : q.den = 1) : FloatVal.num q = .num (q.num : ℚ) := by
  rw [Rat.coe_int_num_of_den_eq_one h]

/-- Whatever a conversion gives that does not fit, the text is the same. -/
theorem printNumber_eq (cast : NumCast) (x : FloatVal) : printNumber cast x = numberText x := by
  have hint := cast.toInt_range x
  have huint := cast.toUnsigned_range x
  unfold InInt at hint
  have hsizes : INT_MIN ≤ 0 ∧ INT_MAX ≤ UINT_MAX := by decide
  unfold printNumber
  split
  · rename_i hx
    cases x with
    | num q =>
      obtain ⟨hden, hnum⟩ := num_eq_intCast hx
      rw [numberText, if_pos ⟨hden, by omega⟩, hnum]
    | inf neg => cases hx
    | nan neg => cases hx
  · rename_i hx
    split
    · rename_i hx'
      cases x with
      | num q =>
        obtain ⟨hden, hnum⟩ := num_eq_intCast hx'
        rw [numberText, if_pos ⟨hden, by omega⟩, hnum]
      | inf neg => cases hx'
      | nan neg => cases hx'
    · rename_i hx'
      cases x with
      | num q =>
        rw [numberText, if_neg]
        · rfl
        · rintro ⟨hden, hlo, hhi⟩
          have htrunc := truncate_of_den hden
          rcases Int.lt_or_le INT_MAX q.num with hbig | hsmall
          · apply hx'
            rw [cast.toUnsigned_num q (by rw [htrunc]; unfold INT_MAX at hbig; omega)
              (by rwa [htrunc]), htrunc]
            exact num_intCast hden
          · apply hx
            rw [cast.toInt_num q (by rw [htrunc]; exact ⟨hlo, hsmall⟩), htrunc]
            exact num_intCast hden
      | inf neg => rfl
      | nan neg => rfl

/-! ## Both passes -/

section Writes
variable (cast : NumCast) (pretty : Bool)

theorem writes_appendString {s : Bytes} (h : s.length ≤ INT_MAX.toNat) :
    Writes jsonRules true (appendString s) s :=
  Writes.append (R := jsonRules) h

/-- The strings of the source are short. -/
theorem writes_short {s : Bytes} (h : s.length ≤ 6) : Writes jsonRules true (appendString s) s :=
  writes_appendString (h.trans (by decide))

theorem writes_writeIf {close : Bool} {w : JsonWriter} {t : Bytes} (h : Writes jsonRules close w t)
    (condition : Bool) :
    Writes jsonRules false (writeIf condition w) (if condition then t else []) := by
  cases condition with
  | false => exact Writes.done
  | true => exact h.weaken

theorem writes_appendIndent (level : Nat) :
    Writes jsonRules false (appendIndent level) (List.replicate (4 * level) 32) := by
  apply WritesAll.seq
  induction level with
  | zero => exact .nil
  | succ level ih =>
    have hmore : List.replicate (4 * (level + 1)) (32 : UInt8) =
        [32, 32, 32, 32] ++ List.replicate (4 * level) 32 := by
      rw [Nat.mul_succ, Nat.add_comm, ← List.replicate_append_replicate]
      rfl
    rw [hmore, List.replicate_succ]
    exact .cons (writes_short (by decide)).weaken ih

theorem escapeOf_length {c : UInt8} {e : Bytes} (h : escapeOf c = some e) : e.length ≤ 6 := by
  unfold escapeOf at h
  split_ifs at h
  all_goals
    cases h
    simp

theorem writes_serializeChar (c : UInt8) : Writes jsonRules false (serializeChar c) (escaped c) := by
  unfold serializeChar escaped
  cases he : escapeOf c with
  | none => exact Writes.put (R := jsonRules) (show 1 ≤ INT_MAX.toNat by decide)
  | some e => exact (writes_short (escapeOf_length he)).weaken

theorem writes_serializeString (s : Bytes) :
    Writes jsonRules true (serializeString s) (stringText s) := by
  have hchars : WritesAll jsonRules (s.map serializeChar) (s.flatMap escaped) := by
    induction s with
    | nil => exact .nil
    | cons c s ih => exact .cons (writes_serializeChar c) ih
  have hfront := (WritesAll.cons (writes_short (s := [34]) (by decide)).weaken hchars).seq
  exact hfront.andThen (writes_short (by decide))

theorem printInt_length_le {n : Int} (hlo : INT_MIN ≤ n) (hhi : n ≤ UINT_MAX) :
    (printInt n).length ≤ 11 := by
  unfold INT_MIN at hlo
  unfold UINT_MAX at hhi
  rcases Int.lt_or_le n 0 with hneg | hpos
  · exact printInt_length ⟨hlo, by omega⟩
  · obtain ⟨m, rfl⟩ := Int.eq_ofNat_of_zero_le hpos
    exact Nat.le_succ_of_le (printInt_nat_length (by decide) (by omega))

/-- Every number fits `num_buf`. -/
theorem numberText_length {x : FloatVal} (h : IsDouble x) : (numberText x).length < NUM_BUF_SIZE := by
  cases x with
  | num q =>
    rw [numberText]
    split
    · rename_i hint
      exact Nat.lt_of_le_of_lt (printInt_length_le hint.2.1 hint.2.2) (by decide)
    · have hpow : ∀ n : Nat, n ≠ 0 → (2 : ℚ) ^ n + 1 ≤ 10 ^ n := by
        intro n hn
        exact_mod_cast Nat.pow_lt_pow_left (show 2 < 10 by decide) hn
      have hbound : |q| + 1 ≤ 10 ^ DBL_MAX_EXP :=
        (add_le_add_left (le_of_lt h) 1).trans (hpow DBL_MAX_EXP (by decide))
      exact Nat.lt_of_le_of_lt (printFixed_length (by decide) (by decide) hbound) (by decide)
  | inf neg => cases neg <;> decide
  | nan neg => cases neg <;> decide

theorem writes_serializeNumber {x : FloatVal} (hx : IsDouble x) :
    Writes jsonRules true (serializeNumber cast x) (numberText x) := by
  have h := numberText_length hx
  have hlimit : (numberText x).length ≤ jsonRules.limit :=
    (Nat.le_of_lt h).trans (by decide)
  have happend := Writes.append (R := jsonRules) hlimit
  constructor
  · intro mem
    rw [if_pos hlimit, serializeNumber, printNumber_eq]
    exact if_pos h
  · intro mem p
    rw [serializeNumber, printNumber_eq]
    exact happend.writes mem p

/-- Pieces that are left out when there are no items. -/
theorem writes_unless {close : Bool} {w : JsonWriter} {t : Bytes} (h : Writes jsonRules close w t)
    (empty condition : Bool) :
    Writes jsonRules false (writeIf (!empty && condition) w)
      (if empty then [] else if condition then t else []) := by
  cases empty with
  | false => exact writes_writeIf h condition
  | true => exact Writes.done

theorem isEmpty_of_forall₂ {items : List (List JsonWriter)} {texts : List Bytes}
    (h : List.Forall₂ (WritesAll jsonRules) items texts) : items.isEmpty = texts.isEmpty := by
  cases h <;> rfl

theorem writes_itemsLoop (level : Nat) {items : List (List JsonWriter)} {texts : List Bytes}
    (h : List.Forall₂ (WritesAll jsonRules) items texts) :
    WritesAll jsonRules (itemsLoop pretty level items) (itemsText pretty level texts) := by
  induction h with
  | nil => exact .nil
  | @cons item t items ts hitem hrest ih =>
    have hcomma := writes_unless (writes_short (s := [44]) (by decide)) items.isEmpty true
    rw [Bool.and_true, isEmpty_of_forall₂ hrest] at hcomma
    rw [itemsLoop, isEmpty_of_forall₂ hrest]
    exact .cons (writes_writeIf (writes_appendIndent (level + 1)) pretty)
      (hitem.append (.cons hcomma
        (.cons (writes_writeIf (writes_short (s := [10]) (by decide)) pretty) ih)))

theorem writes_serializeContainer (opening closing : UInt8) (level : Nat)
    {items : List (List JsonWriter)} {texts : List Bytes}
    (h : List.Forall₂ (WritesAll jsonRules) items texts) :
    Writes jsonRules true (serializeContainer opening closing pretty level items)
      (containerText opening closing pretty level texts) := by
  have hopen : Writes jsonRules true (appendString [opening]) [opening] :=
    writes_short (Nat.le_add_left 1 5)
  have hclose : Writes jsonRules true (appendString [closing]) [closing] :=
    writes_short (Nat.le_add_left 1 5)
  have hnewline := writes_unless (writes_short (s := [10]) (by decide)) items.isEmpty pretty
  have hindent := writes_unless (writes_appendIndent level) items.isEmpty pretty
  have hsteps := (WritesAll.cons hopen.weaken (.cons hnewline
    ((writes_itemsLoop pretty level h).append (.singleton hindent)))).seq
  have hall := hsteps.andThen hclose
  rw [isEmpty_of_forall₂ h] at hall
  unfold serializeContainer containerText
  rw [isEmpty_of_forall₂ h]
  simpa [newlineText, indentText] using hall

theorem itemWriters_eq (items : List Json) (level : Nat) :
    itemWriters cast pretty items level =
      items.map fun v => serializeToBufferR cast pretty v level := by
  induction items with
  | nil => rfl
  | cons v vs ih => rw [itemWriters, ih, List.map_cons]

theorem memberWriters_eq (members : List (Bytes × Json)) (level : Nat) :
    memberWriters cast pretty members level =
      members.map fun m => (m.1, serializeToBufferR cast pretty m.2 level) := by
  induction members with
  | nil => rfl
  | cons m ms ih => rw [memberWriters, ih, List.map_cons]

/-- With distinct names the lookup finds the member's own value. -/
theorem memberWriters_lookup {members : List (Bytes × Json)}
    (hnames : (members.map Prod.fst).Nodup) {m : Bytes × Json} (hm : m ∈ members) (level : Nat) :
    (memberWriters cast pretty members level).lookup m.1 =
      some (serializeToBufferR cast pretty m.2 level) := by
  rw [memberWriters_eq]
  induction members with
  | nil => cases hm
  | cons m' ms ih =>
    rw [List.map_cons, List.nodup_cons] at hnames
    rw [List.map_cons, List.lookup_cons]
    rcases List.mem_cons.mp hm with rfl | hm
    · rw [beq_self_eq_true]
    · have hne : m.1 ≠ m'.1 := fun he => hnames.1 (he ▸ List.mem_map_of_mem hm)
      rw [beq_eq_false_iff_ne.mpr hne]
      exact ih hnames.2 hm

theorem writes_serializeMember {members : List (Bytes × Json)}
    (hnames : (members.map Prod.fst).Nodup) {m : Bytes × Json} (hm : m ∈ members) {level : Nat}
    (h : Writes jsonRules true (serializeToBufferR cast pretty m.2 level) (m.2.text pretty level)) :
    WritesAll jsonRules (serializeMember pretty (memberWriters cast pretty members level) m.1)
      (memberText pretty m.1 (m.2.text pretty level)) := by
  unfold serializeMember memberText
  rw [memberWriters_lookup cast pretty hnames hm, Option.getD_some]
  exact .cons (writes_serializeString m.1).weaken
    (.cons (writes_short (s := [58]) (by decide)).weaken
      (.cons (writes_writeIf (writes_short (s := [32]) (by decide)) pretty) (.singleton h)))

/-- Both passes of `json_serialize_to_buffer_r` agree on the text. -/
theorem writes_serializeToBufferR {v : Json} (h : v.WellFormed IsDouble) (level : Nat) :
    Writes jsonRules true (serializeToBufferR cast pretty v level) (v.text pretty level) := by
  induction h generalizing level with
  | null => exact writes_short (by decide)
  | boolean b => cases b <;> exact writes_short (by decide)
  | number hx => exact writes_serializeNumber cast hx
  | string _ => exact writes_serializeString _
  | @array capacity items _ _ ih =>
    rw [serializeToBufferR, Json.text, itemWriters_eq, Json.itemTexts_eq, List.map_map]
    apply writes_serializeContainer
    rw [List.forall₂_map_left_iff, List.forall₂_map_right_iff, List.forall₂_same]
    intro v hv
    exact .singleton (ih v hv (level + 1))
  | @object capacity members _ hnames _ _ ih =>
    rw [serializeToBufferR, Json.text, Json.memberTexts_eq]
    apply writes_serializeContainer
    rw [memberWriters_eq, List.map_map, ← memberWriters_eq,
      List.forall₂_map_left_iff, List.forall₂_map_right_iff, List.forall₂_same]
    intro m hm
    exact writes_serializeMember cast pretty hnames hm (ih m hm (level + 1))

/-- **The two passes.** The size of the first pass is the size of the text with
its terminator, and the second pass fills the block with them, if there is
one. Only the type of the counts limits the text. -/
theorem jsonSerializeToString_eq
    (malloc : (size : Nat) → Option {block : Bytes // block.length = size}) {v : Json}
    (h : v.WellFormed IsDouble) :
    jsonSerializeToString cast pretty malloc (some v) =
      if (v.text pretty 0).length < INT_MAX.toNat then
        .ok ((malloc ((v.text pretty 0).length + 1)).map fun _ => v.text pretty 0 ++ [0])
      else .error .overflow := by
  have hw := writes_serializeToBufferR cast pretty h 0
  have hsize : jsonSerializationSize cast pretty (some v) =
      if (v.text pretty 0).length < INT_MAX.toNat then .ok ((v.text pretty 0).length + 1)
      else .error .overflow := by
    simp only [jsonSerializationSize, hw.counts]
    by_cases hlt : (v.text pretty 0).length < INT_MAX.toNat
    · rw [if_pos (show _ ≤ jsonRules.limit from Nat.le_of_lt hlt), if_pos hlt]
      exact if_pos hlt
    · rw [if_neg hlt]
      by_cases hle : (v.text pretty 0).length ≤ jsonRules.limit
      · rw [if_pos hle]
        exact if_neg hlt
      · rw [if_neg hle]
        rfl
  unfold jsonSerializeToString jsonSerializeToBuffer
  rw [hsize]
  by_cases hlt : (v.text pretty 0).length < INT_MAX.toNat
  · simp only [if_pos hlt, Except.bind, Nat.add_one_ne_zero, if_false, lt_irrefl, or_self]
    cases malloc ((v.text pretty 0).length + 1) with
    | none => rfl
    | some block =>
      have hfill := hw.fill (Nat.le_of_lt hlt) block.2
      simp only [hfill]
      rfl
  · simp only [if_neg hlt, Except.bind]

end Writes
end Rpiweatherd
