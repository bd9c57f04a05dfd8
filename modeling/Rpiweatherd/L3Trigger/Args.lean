import Rpiweatherd.L1Libc.Buffer
import Rpiweatherd.L1Libc.Fixed
import Rpiweatherd.L3Trigger.Parse

/-!
# Placeholders in argument strings (`src/trigger.c:351-413,542-552`)

`post_process_args` should copy the argument string of a trigger to a buffer
with the measurements in place of `%temp%` and `%humid%`: `replaceAll`. The
loop goes over the kinds of placeholders, so of each kind it looks at the
first occurrence only.

* The text in front of a placeholder is copied with the length `begin -
  part_ptr`, which is negative unless there is no such text.
* `measurements[value]` indexes the argument itself, which points at one
  pointer, so the value of `%humid%` is read from behind it.
* Without any placeholder `strlen` runs over the buffer as the caller left
  it, uninitialised.

`placeholders_exact_iff` names the strings and buffers for which none of this
shows.
-/
namespace Rpiweatherd

def TRIGGER_ARG_STRING_MAX_LENGTH : Nat := 2049

def PART_TEMP : Bytes := ascii "%temp%"
def PART_HUMID : Bytes := ascii "%humid%"

/-- mirrors src/trigger.c:24-28 -/
def VALUE_TYPE_MAPPING : List (Bytes × Nat) :=
  [(PART_TEMP, RPIWD_MEASURE_TEMPERATURE), (PART_HUMID, RPIWD_MEASURE_HUMIDITY)]

/-- mirrors src/trigger.c:542-552 -/
def maxAllowedArgstringLength : Nat :=
  TRIGGER_ARG_STRING_MAX_LENGTH - (VALUE_TYPE_MAPPING.map fun e => e.1.length).sum - 1

/-! ## post_process_args -/

/-- `begin` as an offset of the argument string, `appended` and the buffer. -/
structure ArgState where
  start : Nat
  appended : Nat
  buffer : Bytes

/-- `*measurements[value]`: the first entry of the array the pointer points
at. -/
def measurementAt (measurements : List Measurements) (value : Nat) : Except Fault ℚ :=
  match measurements[value]? with
  | none => .error .outOfBounds
  | some m => .ok (m temperatureAt)

/-- The text before a placeholder, and its value, into the buffer.
mirrors src/trigger.c:379-394 -/
def copyPart (arg : Bytes) (measurements : List Measurements) (st : ArgState)
    (part : Bytes × Nat) (partPtr : Nat) : Except Fault ArgState :=
  let copyLen := pointerDiff st.start partPtr
  (if copyLen = 0 then .ok st.buffer
    else (stringAt arg st.start).bind fun src => strncpy st.buffer 0 src copyLen).bind fun buffer =>
  let appended := (st.appended + copyLen) % 2 ^ 64
  (measurementAt measurements part.2).bind fun q =>
  (writeAt buffer appended (printFixed 4 q ++ [0])).map fun buffer =>
    ⟨st.start + copyLen + part.1.length, appended + (printFixed 4 q).length, buffer⟩

/-- One round of the loop. mirrors src/trigger.c:377-399 -/
def processPart (arg : Bytes) (measurements : List Measurements) (st : ArgState)
    (part : Bytes × Nat) : Except Fault ArgState :=
  (strstr part.1 (arg ++ [0])).bind fun
    | none => .ok st
    | some partPtr => copyPart arg measurements st part partPtr

/-- Behind the loop. mirrors src/trigger.c:403-412 -/
def copyRest (arg : Bytes) (st : ArgState) : Except Fault Bytes :=
  (strlen st.buffer).bind fun len =>
  (if len + 1 ≠ st.appended then
      (stringAt arg st.start).bind fun src =>
        strncpy st.buffer st.appended src (src.length + 1)
    else .ok st.buffer).bind fun buffer =>
  (strlen buffer).bind fun len =>
    if len < TRIGGER_ARG_STRING_MAX_LENGTH then writeAt buffer (len + 1) [0]
    else writeAt buffer len [0]

/-- The return value and the buffer. mirrors src/trigger.c:351-413 -/
def postProcessArgs (arg buffer : Bytes) (measurements : List Measurements) :
    Except Fault (Int × Bytes) :=
  if 37 ∉ arg then .ok (0, buffer)
  else if maxAllowedArgstringLength ≤ arg.length then .ok (0, buffer)
  else
    (VALUE_TYPE_MAPPING.foldlM (processPart arg measurements) ⟨0, 0, buffer⟩).bind fun st =>
      (copyRest arg st).map fun buffer => (1, buffer)

/-! ## Replacing every occurrence -/

/-- The text from left to right, with each key of the table replaced where it
is met; `skip` bytes belong to a key already replaced. -/
def replaceAll (table : List (Bytes × Bytes)) : (skip : Nat) → Bytes → Bytes
  | _, [] => []
  | skip + 1, _ :: s => replaceAll table skip s
  | 0, b :: s =>
    match table.find? fun e => e.1.isPrefixOf (b :: s) with
    | some e => e.2 ++ replaceAll table (e.1.length - 1) s
    | none => b :: replaceAll table 0 s

/-- The placeholders and what they stand for. -/
def placeholders (m : Measurements) : List (Bytes × Bytes) :=
  [(PART_TEMP, printFixed 4 (m temperatureAt)), (PART_HUMID, printFixed 4 (m humidityAt))]

section ReplaceAll
variable {table : List (Bytes × Bytes)}

theorem replaceAll_skip (n : Nat) :
    ∀ s : Bytes, replaceAll table n s = replaceAll table 0 (s.drop n) := by
  induction n with
  | zero => exact fun _ => rfl
  | succ n ih =>
    intro s
    cases s with
    | nil => rfl
    | cons b s => exact ih s

/-- Without any key nothing is replaced. -/
theorem replaceAll_of_none : ∀ {s : Bytes}, (∀ e ∈ table, ¬ e.1 <:+: s) → replaceAll table 0 s = s
  | [], _ => rfl
  | b :: s, h => by
    have hfind : (table.find? fun e => e.1.isPrefixOf (b :: s)) = none := by
      rw [List.find?_eq_none]
      intro e he hp
      exact h e he (List.isPrefixOf_iff_prefix.mp hp).isInfix
    have hrest := replaceAll_of_none fun e he hin => h e he (List.infix_cons hin)
    simp only [replaceAll, hfind, hrest]

/-- What a key in front is replaced by. -/
theorem replaceAll_key {e : Bytes × Bytes} {rest : Bytes} (hne : e.1 ≠ [])
    (h : (table.find? fun e' => e'.1.isPrefixOf (e.1 ++ rest)) = some e) :
    replaceAll table 0 (e.1 ++ rest) = e.2 ++ replaceAll table 0 rest := by
  obtain ⟨c, cs, hcs⟩ := List.exists_cons_of_ne_nil hne
  rw [hcs, List.cons_append] at h
  rw [hcs, List.cons_append, replaceAll, h]
  simp only [hcs, List.length_cons, Nat.add_sub_cancel]
  rw [replaceAll_skip, List.drop_left]

/-- A key in front of a text, and what is behind it. -/
theorem find_key {s : Bytes} {b : UInt8} {e : Bytes × Bytes} (hne : e.1 ≠ [])
    (h : (table.find? fun e => e.1.isPrefixOf (b :: s)) = some e) :
    b :: s = e.1 ++ s.drop (e.1.length - 1) := by
  have hp := List.find?_some (p := fun e : Bytes × Bytes => e.1.isPrefixOf (b :: s)) h
  obtain ⟨t, ht⟩ := List.isPrefixOf_iff_prefix.mp hp
  obtain ⟨c, cs, hcs⟩ := List.exists_cons_of_ne_nil hne
  rw [hcs, List.cons_append] at ht
  obtain ⟨rfl, rfl⟩ := List.cons.inj ht
  rw [hcs, List.length_cons, Nat.add_sub_cancel, List.drop_left, List.cons_append]

/-- Each key has a byte no value has. Replacing never adds that byte. -/
theorem count_replaceAll_le {c : UInt8} (htable : ∀ e ∈ table, c ∈ e.1 ∧ c ∉ e.2) :
    ∀ (s : Bytes) (n : Nat), (replaceAll table n s).count c ≤ (s.drop n).count c := by
  intro s
  induction s with
  | nil => exact fun n => by cases n <;> exact Nat.le_refl _
  | cons b s ih =>
    intro n
    cases n with
    | succ n => exact ih n
    | zero =>
      rw [replaceAll, List.drop_zero]
      cases hfind : table.find? fun e => e.1.isPrefixOf (b :: s) with
      | none =>
        have := ih 0
        rw [List.drop_zero] at this
        simp only [List.count_cons]
        omega
      | some e =>
        obtain ⟨hin, hout⟩ := htable e (List.mem_of_find?_eq_some hfind)
        have := ih (e.1.length - 1)
        rw [find_key (List.ne_nil_of_mem hin) hfind]
        simp only [List.count_append, List.count_eq_zero.mpr hout]
        omega

/-- Where there is a key, it takes that byte away. -/
theorem count_replaceAll_lt {c : UInt8} (htable : ∀ e ∈ table, c ∈ e.1 ∧ c ∉ e.2) {key : Bytes}
    (hkey : ∃ e ∈ table, e.1 = key) :
    ∀ {s : Bytes}, key <:+: s → (replaceAll table 0 s).count c < s.count c
  | [], h => by
    obtain ⟨e, he, rfl⟩ := hkey
    exact absurd (List.eq_nil_of_infix_nil h) (List.ne_nil_of_mem (htable e he).1)
  | b :: s, h => by
    rw [replaceAll]
    cases hfind : table.find? fun e => e.1.isPrefixOf (b :: s) with
    | none =>
      obtain ⟨e, he, rfl⟩ := hkey
      have hnot : ¬ e.1 <+: b :: s := fun hp =>
        List.find?_eq_none.mp hfind e he (List.isPrefixOf_iff_prefix.mpr hp)
      have hin : e.1 <:+: s := (List.infix_cons_iff.mp h).resolve_left hnot
      have := count_replaceAll_lt htable ⟨e, he, rfl⟩ hin
      simp only [List.count_cons]
      omega
    | some e =>
      obtain ⟨hin, hout⟩ := htable e (List.mem_of_find?_eq_some hfind)
      have hle := count_replaceAll_le htable s (e.1.length - 1)
      have hpos := List.count_pos_iff.mpr hin
      rw [find_key (List.ne_nil_of_mem hin) hfind]
      simp only [List.count_append, List.count_eq_zero.mpr hout]
      omega

end ReplaceAll

/-! ## Printed values -/

theorem printFixed_clean (k : Nat) (q : ℚ) : 0 ∉ printFixed k q ∧ 37 ∉ printFixed k q := by
  have hbyte : ∀ b : UInt8, isdigit b = true ∨ b = 46 ∨ b = 45 → b ≠ 0 ∧ b ≠ 37 := by
    decide +kernel
  exact ⟨fun h => (hbyte 0 (mem_printFixed h)).1 rfl, fun h => (hbyte 37 (mem_printFixed h)).2 rfl⟩

/-- A reading of the sensor has three digits before the point. -/
theorem printFixed_sensor {q : ℚ} (h0 : 0 ≤ q) (h : q < 256) : (printFixed 4 q).length ≤ 9 := by
  refine printFixed_length (e := 3) (by decide) (by decide) ?_
  rw [abs_of_nonneg h0]
  linarith

/-! ## Writing to a buffer -/

theorem writeAt_ok {mem s : Bytes} {off : Nat} (h : off + s.length ≤ mem.length) :
    writeAt mem off s = .ok (mem.take off ++ (s ++ mem.drop (off + s.length))) := if_pos h

/-- A whole string, with its terminator. -/
theorem strncpy_string {mem src : Bytes} {off : Nat} (h : off + src.length + 1 ≤ mem.length) :
    strncpy mem off src (src.length + 1) =
      .ok (mem.take off ++ (src ++ 0 :: mem.drop (off + src.length + 1))) := by
  have hpad : src.take (src.length + 1) ++ List.replicate (src.length + 1 - src.length) 0 =
      src ++ [0] := by
    rw [List.take_of_length_le (Nat.le_succ _), Nat.add_sub_cancel_left]
    rfl
  have hroom : off + (src ++ [0]).length ≤ mem.length := by
    rw [List.length_append, List.length_singleton]
    omega
  rw [strncpy, if_pos (by omega), hpad, writeAt_ok hroom]
  simp [Nat.add_assoc]

theorem cstr_append {s : Bytes} (h : 0 ∉ s) (r : Bytes) : cstr (s ++ 0 :: r) = s := by
  have hs : ∀ b ∈ s, decide (b ≠ 0) = true := by
    intro b hb
    exact decide_eq_true fun h0 => h (h0 ▸ hb)
  rw [cstr, List.takeWhile_append_of_pos hs, List.takeWhile_cons_of_neg (by simp),
    List.append_nil]

theorem strlen_append {s : Bytes} (h : 0 ∉ s) (r : Bytes) : strlen (s ++ 0 :: r) = .ok s.length := by
  rw [strlen, if_pos (by simp), cstr_append h]

/-- The part of the buffer in front of `appended` is kept and the rest of the
argument string goes behind it. -/
theorem copyRest_ok (arg : Bytes) (st : ArgState) (done rest : Bytes) {n : Nat}
    (hlen : strlen st.buffer = .ok n) (hn : n + 1 ≠ st.appended)
    (hdone : st.buffer.take st.appended = done) (hclean : 0 ∉ done ++ rest)
    (happended : st.appended = done.length) (hrest : stringAt arg st.start = .ok rest)
    (hfits : (done ++ rest).length + 2 ≤ st.buffer.length)
    (hmax : st.buffer.length = TRIGGER_ARG_STRING_MAX_LENGTH) :
    ∃ mem, copyRest arg st = .ok mem ∧ mem.length = TRIGGER_ARG_STRING_MAX_LENGTH ∧
      0 ∈ mem ∧ cstr mem = done ++ rest := by
  rw [List.length_append] at hfits
  have hcopy : strncpy st.buffer st.appended rest (rest.length + 1) =
      .ok ((done ++ rest) ++ 0 :: st.buffer.drop (st.appended + rest.length + 1)) := by
    rw [strncpy_string (by omega), hdone, List.append_assoc]
  generalize hr : st.buffer.drop (st.appended + rest.length + 1) = r at hcopy
  have hrlen : r.length = TRIGGER_ARG_STRING_MAX_LENGTH - (done.length + rest.length + 1) := by
    rw [← hr, List.length_drop, hmax, happended]
  have hlen' := strlen_append hclean r
  have hwrite : writeAt ((done ++ rest) ++ 0 :: r) ((done ++ rest).length + 1) [0] =
      .ok ((done ++ rest) ++ 0 :: (0 :: r.drop 1)) := by
    have htake : ((done ++ rest) ++ 0 :: r).take ((done ++ rest).length + 1) =
        (done ++ rest) ++ [0] := by
      rw [List.take_append, List.take_of_length_le (Nat.le_succ _), Nat.add_sub_cancel_left]
      rfl
    have hdrop : ((done ++ rest) ++ 0 :: r).drop ((done ++ rest).length + 1 + 1) = r.drop 1 := by
      rw [Nat.add_assoc, List.drop_append]
      simp
    rw [writeAt_ok, htake, List.length_singleton, hdrop]
    · simp
    · simp only [List.length_append, List.length_cons, List.length_nil]
      omega
  refine ⟨(done ++ rest) ++ 0 :: (0 :: r.drop 1), ?_, ?_, by simp, cstr_append hclean _⟩
  · unfold copyRest
    simp only [hlen, Except.bind, if_pos hn, hrest, hcopy, hlen']
    rw [if_pos (by rw [List.length_append]; omega), hwrite]
  · simp only [List.length_append, List.length_cons, List.length_drop]
    omega

/-! ## Searching the argument string -/

/-- What `strstr` finds in a C string, and whether it is at the start. -/
theorem strstr_of_infix {needle : Bytes} (hne : needle ≠ []) (hn : 0 ∉ needle) :
    ∀ {a : Bytes}, 0 ∉ a → needle <:+: a →
      ∃ p, strstr needle (a ++ [0]) = .ok (some p) ∧ p ≤ a.length ∧ (p = 0 ↔ needle <+: a)
  | [], _, h => absurd (List.eq_nil_of_infix_nil h) hne
  | b :: a, ha, h => by
    have hstarts : needle <+: b :: (a ++ [0]) ↔ needle <+: b :: a := by
      rw [← List.cons_append, List.prefix_concat_iff]
      refine ⟨fun hor => hor.resolve_left fun heq => hn ?_, .inr⟩
      rw [heq]
      exact List.mem_append_right _ (List.mem_singleton.mpr rfl)
    rw [List.cons_append, strstr_cons]
    by_cases hp : needle <+: b :: a
    · rw [if_pos (List.isPrefixOf_iff_prefix.mpr (hstarts.mpr hp))]
      exact ⟨0, rfl, Nat.zero_le _, iff_of_true rfl hp⟩
    · have hb : b ≠ 0 := fun h0 => ha (by simp [h0])
      have hin : needle <:+: a := (List.infix_cons_iff.mp h).resolve_left hp
      obtain ⟨p, hfound, hle, -⟩ :=
        strstr_of_infix hne hn (fun h0 => ha (List.mem_cons_of_mem _ h0)) hin
      rw [if_neg (fun h => hp (hstarts.mp (List.isPrefixOf_iff_prefix.mp h))), if_neg hb, hfound]
      exact ⟨p + 1, rfl, Nat.succ_le_succ hle, iff_of_false (Nat.succ_ne_zero p) hp⟩

/-! ## What is asked -/

/-- An argument string that is processed. -/
structure ArgString where
  text : Bytes
  no_nul : 0 ∉ text
  percent : 37 ∈ text
  short : text.length < maxAllowedArgstringLength

/-- The caller's array, with whatever it holds. -/
structure ArgBuffer where
  bytes : Bytes
  size : bytes.length = TRIGGER_ARG_STRING_MAX_LENGTH

/-- What the sensor can report: two bytes with a point between them. -/
def InSensorRange (m : Measurements) : Prop :=
  (0 ≤ m temperatureAt ∧ m temperatureAt < 256) ∧ 0 ≤ m humidityAt ∧ m humidityAt < 256

/-- The buffer ends up with the argument string and the measurements in place
of every placeholder, terminated inside the buffer. -/
def SubstitutesExactly (arg : ArgString) (buffer : ArgBuffer) : Prop :=
  ∀ m, InSensorRange m →
    ∃ mem, postProcessArgs arg.text buffer.bytes [m] = .ok (1, mem) ∧
      mem.length = TRIGGER_ARG_STRING_MAX_LENGTH ∧ 0 ∈ mem ∧
      cstr mem = replaceAll (placeholders m) 0 arg.text

theorem postProcessArgs_eq (arg : ArgString) (buffer : Bytes) (m : Measurements) :
    postProcessArgs arg.text buffer [m] =
      (processPart arg.text [m] ⟨0, 0, buffer⟩ (PART_TEMP, RPIWD_MEASURE_TEMPERATURE)).bind fun st =>
      (processPart arg.text [m] st (PART_HUMID, RPIWD_MEASURE_HUMIDITY)).bind fun st =>
      (copyRest arg.text st).map fun buffer => (1, buffer) := by
  have hlen := arg.short
  rw [postProcessArgs, if_neg (not_not_intro arg.percent), if_neg (by omega)]
  simp only [VALUE_TYPE_MAPPING, List.foldlM_cons, List.foldlM_nil]
  cases processPart arg.text [m] ⟨0, 0, buffer⟩ (PART_TEMP, RPIWD_MEASURE_TEMPERATURE) with
  | error e => rfl
  | ok st =>
    simp only [bind, Except.bind]
    cases processPart arg.text [m] st (PART_HUMID, RPIWD_MEASURE_HUMIDITY) with
    | error e => rfl
    | ok st => rfl

/-! ## The two placeholders -/

theorem processPart_absent {arg part : Bytes} (hne : part ≠ []) (hn : 0 ∉ part)
    (h : ¬ part <:+: arg) (ms : List Measurements) (st : ArgState) (value : Nat) :
    processPart arg ms st (part, value) = .ok st := by
  rw [processPart, strstr_nul_of_miss hn hne h []]
  rfl

theorem partTemp_clean : PART_TEMP ≠ [] ∧ 0 ∉ PART_TEMP := by decide

theorem partHumid_clean : PART_HUMID ≠ [] ∧ 0 ∉ PART_HUMID := by decide

/-- There is no second pointer to read the humidity through. -/
theorem processPart_humid_faults {arg : Bytes} (harg : 0 ∉ arg) (h : PART_HUMID <:+: arg)
    (m : Measurements) (st : ArgState) :
    ∃ e, processPart arg [m] st (PART_HUMID, RPIWD_MEASURE_HUMIDITY) = .error e := by
  obtain ⟨p, hfound, -⟩ := strstr_of_infix partHumid_clean.1 partHumid_clean.2 harg h
  have hvalue : measurementAt [m] RPIWD_MEASURE_HUMIDITY = .error .outOfBounds := rfl
  rw [processPart, hfound]
  simp only [Except.bind, copyPart, hvalue]
  split
  · exact ⟨_, rfl⟩
  · exact ⟨_, rfl⟩

/-- A `%temp%` behind other text is copied with a negative length. -/
theorem processPart_temp_faults {arg : Bytes} (harg : 0 ∉ arg) (h : PART_TEMP <:+: arg)
    (hlen : arg.length < maxAllowedArgstringLength) (hstart : ¬ PART_TEMP <+: arg)
    (m : Measurements) {buffer : Bytes} (hsize : buffer.length = TRIGGER_ARG_STRING_MAX_LENGTH) :
    processPart arg [m] ⟨0, 0, buffer⟩ (PART_TEMP, RPIWD_MEASURE_TEMPERATURE) =
      .error .overflow := by
  obtain ⟨p, hfound, hle, hp⟩ := strstr_of_infix partTemp_clean.1 partTemp_clean.2 harg h
  have hmax : maxAllowedArgstringLength = 2035 := by decide
  have hpos : p ≠ 0 := fun h0 => hstart (hp.mp h0)
  have hdiff : pointerDiff 0 p = 2 ^ 64 - p := by
    unfold pointerDiff
    omega
  have hcopy : strncpy buffer 0 arg (2 ^ 64 - p) = .error .overflow := by
    refine if_neg ?_
    rw [hsize, TRIGGER_ARG_STRING_MAX_LENGTH]
    omega
  rw [processPart, hfound]
  simp only [Except.bind, copyPart, hdiff, stringAt, Nat.zero_le, if_true, List.drop_zero, hcopy]
  rw [if_neg (by omega)]

/-- At the start it is replaced by the temperature. -/
theorem processPart_temp_ok {arg : Bytes} (harg : 0 ∉ arg) (hstart : PART_TEMP <+: arg)
    (m : Measurements) {buffer : Bytes}
    (hroom : (printFixed 4 (m temperatureAt)).length + 1 ≤ buffer.length) :
    processPart arg [m] ⟨0, 0, buffer⟩ (PART_TEMP, RPIWD_MEASURE_TEMPERATURE) =
      .ok ⟨6, (printFixed 4 (m temperatureAt)).length, printFixed 4 (m temperatureAt) ++
        0 :: buffer.drop ((printFixed 4 (m temperatureAt)).length + 1)⟩ := by
  obtain ⟨p, hfound, hle, hp⟩ :=
    strstr_of_infix partTemp_clean.1 partTemp_clean.2 harg hstart.isInfix
  obtain rfl := hp.mpr hstart
  have hvalue : measurementAt [m] RPIWD_MEASURE_TEMPERATURE = .ok (m temperatureAt) := rfl
  have hdiff : pointerDiff 0 0 = 0 := by decide
  have hwrite : writeAt buffer 0 (printFixed 4 (m temperatureAt) ++ [0]) =
      .ok (printFixed 4 (m temperatureAt) ++
        0 :: buffer.drop ((printFixed 4 (m temperatureAt)).length + 1)) := by
    rw [writeAt_ok (by simpa using hroom)]
    simp
  have hsix : PART_TEMP.length = 6 := by decide
  rw [processPart, hfound]
  simp only [Except.bind, copyPart, hdiff, if_true, Nat.zero_mod, Nat.add_zero, hvalue, hwrite,
    Except.map, hsix, Nat.zero_add]

/-! ## When nothing shows -/

theorem placeholders_percent (m : Measurements) : ∀ e ∈ placeholders m, 37 ∈ e.1 ∧ 37 ∉ e.2 := by
  have hparts : 37 ∈ PART_TEMP ∧ 37 ∈ PART_HUMID := by decide
  intro e he
  simp only [placeholders, List.mem_cons, List.not_mem_nil, or_false] at he
  rcases he with rfl | rfl
  · exact ⟨hparts.1, (printFixed_clean 4 _).2⟩
  · exact ⟨hparts.2, (printFixed_clean 4 _).2⟩

theorem replaceAll_plain (m : Measurements) {s : Bytes} (htemp : ¬ PART_TEMP <:+: s)
    (hhumid : ¬ PART_HUMID <:+: s) : replaceAll (placeholders m) 0 s = s := by
  apply replaceAll_of_none
  intro e he
  simp only [placeholders, List.mem_cons, List.not_mem_nil, or_false] at he
  rcases he with rfl | rfl
  · exact htemp
  · exact hhumid

/-- A string without placeholders is copied, if the buffer holds a string. -/
theorem substitutes_plain {arg : ArgString} {buffer : ArgBuffer} (m : Measurements)
    (htemp : ¬ PART_TEMP <:+: arg.text) (hhumid : ¬ PART_HUMID <:+: arg.text)
    (hnul : 0 ∈ buffer.bytes) :
    ∃ mem, postProcessArgs arg.text buffer.bytes [m] = .ok (1, mem) ∧
      mem.length = TRIGGER_ARG_STRING_MAX_LENGTH ∧ 0 ∈ mem ∧
      cstr mem = replaceAll (placeholders m) 0 arg.text := by
  have hmax : maxAllowedArgstringLength = 2035 := by decide
  have hshort := arg.short
  have hsize := buffer.size
  have hspec := replaceAll_plain m htemp hhumid
  obtain ⟨mem, hmem, hlen, h0, hstr⟩ := copyRest_ok arg.text ⟨0, 0, buffer.bytes⟩ [] arg.text
    (if_pos hnul) (Nat.succ_ne_zero _) rfl arg.no_nul rfl (if_pos (Nat.zero_le _)) (by
      rw [List.nil_append, hsize, TRIGGER_ARG_STRING_MAX_LENGTH]
      omega) hsize
  refine ⟨mem, ?_, hlen, h0, hstr.trans hspec.symm⟩
  rw [postProcessArgs_eq, processPart_absent partTemp_clean.1 partTemp_clean.2 htemp]
  simp only [Except.bind]
  rw [processPart_absent partHumid_clean.1 partHumid_clean.2 hhumid]
  simp only [hmem, Except.map]

/-- A string that starts with `%temp%` gets the temperature in front of the
rest, whatever that is. -/
theorem postProcessArgs_temp {arg : ArgString} (buffer : ArgBuffer) {m : Measurements}
    (hrange : InSensorRange m) {rest : Bytes} (harg : arg.text = PART_TEMP ++ rest)
    (hhumid : ¬ PART_HUMID <:+: arg.text) :
    ∃ mem, postProcessArgs arg.text buffer.bytes [m] = .ok (1, mem) ∧
      mem.length = TRIGGER_ARG_STRING_MAX_LENGTH ∧ 0 ∈ mem ∧
      cstr mem = printFixed 4 (m temperatureAt) ++ rest := by
  have hmax : maxAllowedArgstringLength = 2035 := by decide
  have hsix : PART_TEMP.length = 6 := by decide
  have hshort := arg.short
  have hsize := buffer.size
  have hvalue := printFixed_sensor hrange.1.1 hrange.1.2
  have hlenarg : arg.text.length = 6 + rest.length := by rw [harg, List.length_append, hsix]
  have hclean : 0 ∉ printFixed 4 (m temperatureAt) ++ rest := by
    rw [List.mem_append]
    rintro (h | h)
    · exact (printFixed_clean 4 _).1 h
    · exact arg.no_nul (by rw [harg]; exact List.mem_append_right _ h)
  have hroom : (printFixed 4 (m temperatureAt)).length + 1 ≤ buffer.bytes.length := by
    rw [hsize, TRIGGER_ARG_STRING_MAX_LENGTH]
    omega
  have hrest : stringAt arg.text 6 = .ok rest := by
    rw [stringAt, if_pos (by omega), harg, ← hsix, List.drop_left]
  have hprocess := processPart_temp_ok arg.no_nul (by rw [harg]; exact List.prefix_append ..) m hroom
  obtain ⟨mem, hmem, hlen, h0, hstr⟩ := copyRest_ok arg.text
    ⟨6, (printFixed 4 (m temperatureAt)).length, printFixed 4 (m temperatureAt) ++
      0 :: buffer.bytes.drop ((printFixed 4 (m temperatureAt)).length + 1)⟩ _ _
    (strlen_append (printFixed_clean 4 _).1 _) (Nat.succ_ne_self _) (List.take_left ..) hclean rfl
    hrest (by
      simp only [List.length_append, List.length_cons, List.length_drop, hsize,
        TRIGGER_ARG_STRING_MAX_LENGTH]
      omega) (by
      simp only [List.length_append, List.length_cons, List.length_drop, hsize,
        TRIGGER_ARG_STRING_MAX_LENGTH]
      omega)
  refine ⟨mem, ?_, hlen, h0, hstr⟩
  rw [postProcessArgs_eq, hprocess]
  simp only [Except.bind]
  rw [processPart_absent partHumid_clean.1 partHumid_clean.2 hhumid]
  simp only [hmem, Except.map]

theorem replaceAll_temp (m : Measurements) (rest : Bytes) :
    replaceAll (placeholders m) 0 (PART_TEMP ++ rest) =
      printFixed 4 (m temperatureAt) ++ replaceAll (placeholders m) 0 rest := by
  refine replaceAll_key (e := (PART_TEMP, printFixed 4 (m temperatureAt))) partTemp_clean.1 ?_
  have hp : PART_TEMP.isPrefixOf (PART_TEMP ++ rest) = true :=
    List.isPrefixOf_iff_prefix.mpr (List.prefix_append ..)
  simp only [placeholders, List.find?_cons, hp]

/-! ### What exactness asks for -/

theorem inSensorRange_zero : InSensorRange fun _ => 0 := by
  unfold InSensorRange
  norm_num

section Exact
variable {arg : ArgString} {buffer : ArgBuffer}

theorem SubstitutesExactly.no_humid (h : SubstitutesExactly arg buffer) :
    ¬ PART_HUMID <:+: arg.text := by
  intro hin
  obtain ⟨mem, hmem, -⟩ := h _ inSensorRange_zero
  rw [postProcessArgs_eq] at hmem
  obtain ⟨st, -, hst⟩ := bind_ok hmem
  obtain ⟨e, he⟩ := processPart_humid_faults arg.no_nul hin (fun _ => 0) st
  rw [he] at hst
  cases hst

theorem SubstitutesExactly.temp_first (h : SubstitutesExactly arg buffer)
    (htemp : PART_TEMP <:+: arg.text) : PART_TEMP <+: arg.text := by
  by_contra hstart
  obtain ⟨mem, hmem, -⟩ := h _ inSensorRange_zero
  rw [postProcessArgs_eq, processPart_temp_faults arg.no_nul htemp arg.short hstart _
    buffer.size] at hmem
  cases hmem

/-- A second `%temp%` is left, percent signs and all. -/
theorem SubstitutesExactly.temp_once (h : SubstitutesExactly arg buffer) {rest : Bytes}
    (hrest : arg.text = PART_TEMP ++ rest) : ¬ PART_TEMP <:+: rest := by
  intro hin
  obtain ⟨mem, hmem, -, -, hstr⟩ := h _ inSensorRange_zero
  obtain ⟨mem', hmem', -, -, hstr'⟩ :=
    postProcessArgs_temp buffer inSensorRange_zero hrest h.no_humid
  cases hmem.symm.trans hmem'
  rw [hstr', hrest, replaceAll_temp] at hstr
  have heq := List.append_cancel_left hstr
  have hlt := count_replaceAll_lt (placeholders_percent fun _ => 0)
    ⟨_, List.mem_cons_self .., rfl⟩ hin
  rw [← heq] at hlt
  exact absurd hlt (Nat.lt_irrefl _)

/-- Without a placeholder `strlen` has to find an end in the buffer. -/
theorem SubstitutesExactly.terminated (h : SubstitutesExactly arg buffer)
    (htemp : ¬ PART_TEMP <:+: arg.text) : 0 ∈ buffer.bytes := by
  by_contra hnul
  obtain ⟨mem, hmem, -⟩ := h _ inSensorRange_zero
  have hfault : copyRest arg.text ⟨0, 0, buffer.bytes⟩ = .error .outOfBounds := by
    rw [copyRest, strlen, if_neg hnul]
    rfl
  rw [postProcessArgs_eq, processPart_absent partTemp_clean.1 partTemp_clean.2 htemp] at hmem
  simp only [Except.bind] at hmem
  rw [processPart_absent partHumid_clean.1 partHumid_clean.2 h.no_humid] at hmem
  simp only [hfault, Except.map] at hmem
  cases hmem

end Exact

/-- **Placeholders are replaced exactly** for strings without `%humid%` that
start with their only `%temp%`, and for strings with no placeholder if there
is a NUL in the buffer already. -/
theorem placeholders_exact_iff (arg : ArgString) (buffer : ArgBuffer) :
    SubstitutesExactly arg buffer ↔
      ¬ PART_HUMID <:+: arg.text ∧
        ((¬ PART_TEMP <:+: arg.text ∧ 0 ∈ buffer.bytes) ∨
          ∃ rest, arg.text = PART_TEMP ++ rest ∧ ¬ PART_TEMP <:+: rest) := by
  constructor
  · intro h
    refine ⟨h.no_humid, ?_⟩
    by_cases htemp : PART_TEMP <:+: arg.text
    · obtain ⟨rest, hrest⟩ := h.temp_first htemp
      exact .inr ⟨rest, hrest.symm, h.temp_once hrest.symm⟩
    · exact .inl ⟨htemp, h.terminated htemp⟩
  · rintro ⟨hhumid, ⟨htemp, hnul⟩ | ⟨rest, hrest, honly⟩⟩ m hrange
    · exact substitutes_plain m htemp hhumid hnul
    · obtain ⟨mem, hmem, hlen, h0, hstr⟩ := postProcessArgs_temp buffer hrange hrest hhumid
      refine ⟨mem, hmem, hlen, h0, ?_⟩
      have hhumid' : ¬ PART_HUMID <:+: rest := by
        intro hin
        rw [hrest] at hhumid
        exact hhumid (hin.trans (List.suffix_append ..).isInfix)
      rw [hstr, hrest, replaceAll_temp, replaceAll_plain m honly hhumid']

/-- The temperature with text in front of it. -/
def warmString : ArgString where
  text := ascii "t=%temp%"
  no_nul := by decide
  percent := by decide
  short := by decide

def emptyBuffer : ArgBuffer where
  bytes := List.replicate TRIGGER_ARG_STRING_MAX_LENGTH 0
  size := List.length_replicate ..

theorem text_before_placeholder_overruns : ¬ SubstitutesExactly warmString emptyBuffer := by
  intro h
  have hin : PART_TEMP <:+: warmString.text := ⟨ascii "t=", [], by decide⟩
  exact absurd (h.temp_first hin) (by decide)

end Rpiweatherd
