import Rpiweatherd.L1Libc.CString

/-!
# JSON objects of parson (`deps/parson.c`)

An object keeps its members in two arrays that grow by doubling, from 15
places up to `OBJECT_MAX_CAPACITY`; an object that is full refuses a new
name. Setting a value by a dotted path creates the objects on the way. A
failed set returns `JSONFailure`, here `false`, and keeps what it did before
it failed.

`malloc` is taken to succeed. Numbers are exact rationals.
-/
namespace Rpiweatherd

def STARTING_CAPACITY : Nat := 15
def OBJECT_MAX_CAPACITY : Nat := 960

inductive JsonValue where
  | number (q : ℚ)
  | string (s : Bytes)
  | object (capacity : Nat) (members : List (Bytes × JsonValue))

/-- `JSON_Object`: `count` is the number of members. -/
structure JsonObject where
  capacity : Nat
  members : List (Bytes × JsonValue)

namespace JsonObject

/-- `json_value_init_object` -/
def init : JsonObject := ⟨0, []⟩

def toValue (o : JsonObject) : JsonValue := .object o.capacity o.members

/-- mirrors deps/parson.c:371-383,1027-1032 -/
def getValue (o : JsonObject) (name : Bytes) : Option JsonValue := o.members.lookup name

/-- mirrors deps/parson.c:1042-1044 -/
def getObject (o : JsonObject) (name : Bytes) : Option JsonObject :=
  match o.getValue name with
  | some (.object c m) => some ⟨c, m⟩
  | _ => none

/-- Overwrite the value of the first member of that name. -/
def replace (name : Bytes) (v : JsonValue) : List (Bytes × JsonValue) → List (Bytes × JsonValue)
  | [] => []
  | (n, x) :: ms => if n = name then (n, v) :: ms else (n, x) :: replace name v ms

/-- `none` is `JSONFailure`: the name is taken, or the object is full.
mirrors deps/parson.c:313-338 -/
def add (o : JsonObject) (name : Bytes) (v : JsonValue) : Option JsonObject :=
  if (o.getValue name).isSome then none
  else if o.capacity ≤ o.members.length then
    let newCapacity := max (o.capacity * 2) STARTING_CAPACITY
    if OBJECT_MAX_CAPACITY < newCapacity then none
    else some ⟨newCapacity, o.members ++ [(name, v)]⟩
  else some ⟨o.capacity, o.members ++ [(name, v)]⟩

/-- The object and whether the call succeeded.
mirrors deps/parson.c:1617-1635 -/
def setValue (o : JsonObject) (name : Bytes) (v : JsonValue) : JsonObject × Bool :=
  if (o.getValue name).isSome then (⟨o.capacity, replace name v o.members⟩, true)
  else match o.add name v with
    | some o' => (o', true)
    | none => (o, false)

/-- The pieces of a dotted name; the objects on the way are changed in
place. mirrors deps/parson.c:1653-1683 -/
def dotsetPath (v : JsonValue) : List Bytes → JsonObject → JsonObject × Bool
  | [], o => (o, false)
  | [name], o => o.setValue name v
  | current :: next :: rest, o =>
    match o.getObject current with
    | some t =>
      let (t', ok) := dotsetPath v (next :: rest) t
      (⟨o.capacity, replace current t'.toValue o.members⟩, ok)
    | none =>
      match o.add current init.toValue with
      | none => (o, false)
      | some o' =>
        let (t', ok) := dotsetPath v (next :: rest) init
        (⟨o'.capacity, replace current t'.toValue o'.members⟩, ok)

/-- A NULL value is refused. -/
def dotsetValue (o : JsonObject) (name : Bytes) (v : Option JsonValue) : JsonObject × Bool :=
  match v with
  | none => (o, false)
  | some v => dotsetPath v (name.splitOn 46) o

end JsonObject

/-! ## Strings -/

/-- `IS_CONT` -/
def isCont (b : UInt8) : Bool := b &&& 0xC0 = 0x80

/-- mirrors deps/parson.c:149-162 -/
def numBytesInUtf8Sequence (c : UInt8) : Nat :=
  if c = 0xC0 ∨ c = 0xC1 ∨ 0xF4 < c ∨ isCont c then 0
  else if c &&& 0x80 = 0 then 1
  else if c &&& 0xE0 = 0xC0 then 2
  else if c &&& 0xF0 = 0xE0 then 3
  else if c &&& 0xF8 = 0xF0 then 4
  else 0

/-- The code point of a sequence of `len` bytes; a byte behind the end is the
terminator. -/
def codePoint (len : Nat) (s : Bytes) : Option Nat :=
  let b i := s.getD i 0
  let six i := (b i &&& 0x3F).toNat
  if len = 1 then some (b 0).toNat
  else if len = 2 ∧ isCont (b 1) then some ((b 0 &&& 0x1F).toNat * 64 + six 1)
  else if len = 3 ∧ isCont (b 1) ∧ isCont (b 2) then
    some (((b 0 &&& 0xF).toNat * 64 + six 1) * 64 + six 2)
  else if len = 4 ∧ isCont (b 1) ∧ isCont (b 2) ∧ isCont (b 3) then
    some ((((b 0 &&& 0x7).toNat * 64 + six 1) * 64 + six 2) * 64 + six 3)
  else none

/-- Overlong encodings, surrogates and what is no code point are refused; the
result is the length of the sequence. mirrors deps/parson.c:164-204 -/
def verifyUtf8Sequence (s : Bytes) : Option Nat :=
  let len := numBytesInUtf8Sequence (s.headD 0)
  match codePoint len s with
  | none => none
  | some cp =>
    if cp < 0x80 ∧ 1 < len ∨ cp < 0x800 ∧ 2 < len ∨ cp < 0x10000 ∧ 3 < len then none
    else if 0x10FFFF < cp then none
    else if 0xD800 ≤ cp ∧ cp ≤ 0xDFFF then none
    else some len

/-- The scan; a sequence has at least one byte, so `n` rounds are enough for
`n` bytes. mirrors deps/parson.c:206-216 -/
def scanUtf8 : Nat → Bytes → Bool
  | _, [] => true
  | 0, _ => false
  | n + 1, s =>
    match verifyUtf8Sequence s with
    | none => false
    | some len => scanUtf8 n (s.drop len)

def isValidUtf8 (s : Bytes) : Bool := scanUtf8 s.length s

/-- NULL for NULL and for what is not UTF-8. mirrors deps/parson.c:1223-1243 -/
def jsonValueInitString (s : Option Bytes) : Option JsonValue :=
  s.bind fun s => if isValidUtf8 s then some (.string s) else none

example : isValidUtf8 [0xC3, 0xA9, 0x21] = true := by decide

example : isValidUtf8 [0xE0, 0x80, 0xAF] = false := by decide

/-! ## What a set does -/

namespace JsonObject
variable {o : JsonObject} {name : Bytes} {v x : JsonValue} {ms : List (Bytes × JsonValue)}

/-- No member has that name. -/
def Fresh (name : Bytes) (ms : List (Bytes × JsonValue)) : Prop := name ∉ ms.map Prod.fst

theorem lookup_fresh (h : Fresh name ms) : ms.lookup name = none := by
  rw [List.lookup_eq_none_iff]
  intro p hp
  have : name ≠ p.1 := fun e => h (e ▸ List.mem_map_of_mem hp)
  simpa using this

theorem lookup_last (h : Fresh name ms) : (ms ++ [(name, x)]).lookup name = some x := by
  rw [List.lookup_append, lookup_fresh h]
  simp

theorem lookup_mem (h : (ms.map Prod.fst).Nodup) (hm : (name, v) ∈ ms) :
    ms.lookup name = some v := by
  obtain ⟨pre, post, rfl⟩ := List.append_of_mem hm
  have hpre : Fresh name pre := fun hmem => by
    rw [List.map_append] at h
    exact (List.nodup_append.mp h).2.2 _ hmem _ (by simp) rfl
  rw [List.lookup_append, lookup_fresh hpre]
  simp

theorem replace_last (h : Fresh name ms) :
    replace name v (ms ++ [(name, x)]) = ms ++ [(name, v)] := by
  induction ms with
  | nil => simp [replace]
  | cons m ms ih =>
    obtain ⟨n, y⟩ := m
    have hn : ¬ n = name := fun e => h (by simp [e])
    have hms : Fresh name ms := fun hmem => h (List.mem_cons_of_mem _ hmem)
    simp only [List.cons_append, replace, if_neg hn, ih hms]

/-- The capacities an object can grow to. -/
def CAPACITIES : List Nat := [0, 15, 30, 60, 120, 240, 480, 960]

/-- The count is within the capacity, which is one of the sizes. -/
def Sized (o : JsonObject) : Prop := o.members.length ≤ o.capacity ∧ o.capacity ∈ CAPACITIES

theorem sized_init : init.Sized := by unfold Sized; decide

theorem sized_append {m : Bytes × JsonValue} {c : Nat} :
    Sized ⟨c, ms ++ [m]⟩ ↔ ms.length < c ∧ c ∈ CAPACITIES := by
  simp only [Sized, List.length_append, List.length_singleton, Nat.succ_le_iff]

/-- Doubling leads from one size to the next and stops at the limit. -/
theorem grow_capacities : ∀ c ∈ CAPACITIES,
    if OBJECT_MAX_CAPACITY < max (c * 2) STARTING_CAPACITY then c = OBJECT_MAX_CAPACITY
    else max (c * 2) STARTING_CAPACITY ∈ CAPACITIES ∧ c < max (c * 2) STARTING_CAPACITY := by
  decide

/-- Below the limit a fresh name is appended. -/
theorem add_room (hs : o.Sized) (hf : Fresh name o.members)
    (hroom : o.members.length < OBJECT_MAX_CAPACITY) :
    ∃ c, o.add name v = some ⟨c, o.members ++ [(name, v)]⟩ ∧
      Sized ⟨c, o.members ++ [(name, v)]⟩ := by
  have hnone : ¬ (o.getValue name).isSome = true := by simp [getValue, lookup_fresh hf]
  unfold add
  rw [if_neg hnone]
  by_cases hfull : o.capacity ≤ o.members.length
  · have hgrow := grow_capacities o.capacity hs.2
    split at hgrow
    · have := hs.1
      omega
    · rename_i hmax
      rw [if_pos hfull]
      simp only [if_neg hmax]
      exact ⟨_, rfl, sized_append.mpr ⟨Nat.lt_of_le_of_lt hs.1 hgrow.2, hgrow.1⟩⟩
  · rw [if_neg hfull]
    exact ⟨_, rfl, sized_append.mpr ⟨Nat.lt_of_not_le hfull, hs.2⟩⟩

/-- At the limit it is refused. -/
theorem add_full (hs : o.Sized) (hfull : o.members.length = OBJECT_MAX_CAPACITY) :
    o.add name v = none := by
  have hcap : o.capacity ≤ o.members.length := by
    have key : ∀ c ∈ CAPACITIES, c ≤ OBJECT_MAX_CAPACITY := by decide
    rw [hfull]
    exact key _ hs.2
  have heq : o.capacity = OBJECT_MAX_CAPACITY := by
    have := hs.1
    omega
  have hmax : OBJECT_MAX_CAPACITY < max (o.capacity * 2) STARTING_CAPACITY := by
    rw [heq]
    decide
  simp only [add, if_pos hcap, if_pos hmax, ite_self]

theorem setValue_fresh (name : Bytes) (v : JsonValue) (hs : o.Sized) (hf : Fresh name o.members)
    (hroom : o.members.length < OBJECT_MAX_CAPACITY) :
    ∃ c, o.setValue name v = (⟨c, o.members ++ [(name, v)]⟩, true) ∧
      Sized ⟨c, o.members ++ [(name, v)]⟩ := by
  obtain ⟨c, hadd, hsized⟩ := add_room (v := v) hs hf hroom
  have hnone : ¬ (o.getValue name).isSome = true := by simp [getValue, lookup_fresh hf]
  refine ⟨c, ?_, hsized⟩
  rw [setValue, if_neg hnone, hadd]

/-- Into an object that is the last member. -/
theorem dotsetPath_last {current next : Bytes} {rest : List Bytes} {c : Nat} {t : JsonObject}
    (hf : Fresh current ms) :
    dotsetPath v (current :: next :: rest) ⟨c, ms ++ [(current, t.toValue)]⟩ =
      (⟨c, ms ++ [(current, (dotsetPath v (next :: rest) t).1.toValue)]⟩,
        (dotsetPath v (next :: rest) t).2) := by
  have hget : getObject ⟨c, ms ++ [(current, t.toValue)]⟩ current = some t := by
    simp only [getObject, getValue, lookup_last hf, toValue]
  simp only [dotsetPath, hget, replace_last hf]

/-- Into an object that is created on the way. -/
theorem dotsetPath_new {current : Bytes} (next : Bytes) (rest : List Bytes) (v : JsonValue)
    (hs : o.Sized) (hf : Fresh current o.members) (hroom : o.members.length < OBJECT_MAX_CAPACITY) :
    ∃ c, dotsetPath v (current :: next :: rest) o =
        (⟨c, o.members ++ [(current, (dotsetPath v (next :: rest) init).1.toValue)]⟩,
          (dotsetPath v (next :: rest) init).2) ∧
      o.members.length < c ∧ c ∈ CAPACITIES := by
  obtain ⟨c, hadd, hsized⟩ := add_room (v := init.toValue) hs hf hroom
  have hget : o.getObject current = none := by simp [getObject, getValue, lookup_fresh hf]
  refine ⟨c, ?_, sized_append.mp hsized⟩
  simp only [dotsetPath, hget, hadd, replace_last hf]

/-- A path through a name that can neither be entered nor added. -/
theorem dotsetPath_refused {current next : Bytes} {rest : List Bytes}
    (hget : o.getObject current = none) (hadd : o.add current init.toValue = none) :
    dotsetPath v (current :: next :: rest) o = (o, false) := by
  simp only [dotsetPath, hget, hadd]

/-- A full object refuses a path through a new name. -/
theorem dotsetPath_full {current next : Bytes} {rest : List Bytes} (hs : o.Sized)
    (hf : Fresh current o.members) (hfull : o.members.length = OBJECT_MAX_CAPACITY) :
    dotsetPath v (current :: next :: rest) o = (o, false) := by
  have hget : o.getObject current = none := by simp [getObject, getValue, lookup_fresh hf]
  exact dotsetPath_refused hget (add_full hs hfull)

/-! ## What a lookup finds after a set -/

/-- `o[current][name]` -/
def getIn (o : JsonObject) (current name : Bytes) : Option JsonValue :=
  (o.getObject current).bind fun t => t.getValue name

theorem lookup_cons_ne {n k : Bytes} (h : n ≠ k) (y : JsonValue) :
    List.lookup n ((k, y) :: ms) = ms.lookup n := by
  rw [List.lookup_cons, beq_eq_false_iff_ne.mpr h]

theorem lookup_replace_ne {n : Bytes} (h : n ≠ name) :
    (replace name v ms).lookup n = ms.lookup n := by
  induction ms with
  | nil => rfl
  | cons m ms ih =>
    obtain ⟨k, y⟩ := m
    by_cases hk : k = name
    · subst hk
      simp only [replace, if_true, lookup_cons_ne h]
    · simp only [replace, if_neg hk, List.lookup_cons, ih]

theorem lookup_replace_self (h : (ms.lookup name).isSome = true) :
    (replace name v ms).lookup name = some v := by
  induction ms with
  | nil => cases h
  | cons m ms ih =>
    obtain ⟨k, y⟩ := m
    by_cases hk : k = name
    · subst hk
      simp [replace]
    · rw [lookup_cons_ne (Ne.symm hk)] at h
      rw [replace, if_neg hk, lookup_cons_ne (Ne.symm hk)]
      exact ih h

theorem map_fst_replace (name : Bytes) (v : JsonValue) (ms : List (Bytes × JsonValue)) :
    (replace name v ms).map Prod.fst = ms.map Prod.fst := by
  induction ms with
  | nil => rfl
  | cons m ms ih =>
    obtain ⟨n, x⟩ := m
    by_cases h : n = name
    · simp only [replace, if_pos h, List.map_cons]
    · simp only [replace, if_neg h, List.map_cons, ih]

theorem fresh_of_getValue {t : JsonObject} {name : Bytes} (h : t.getValue name = none) :
    Fresh name t.members := by
  intro hmem
  obtain ⟨p, hp, rfl⟩ := List.mem_map.mp hmem
  have := List.lookup_eq_none_iff.mp h p hp
  simp at this

/-- A member is added at the end, under a name that was free. -/
theorem add_some {o' : JsonObject} (h : o.add name v = some o') :
    o'.members = o.members ++ [(name, v)] ∧ o.getValue name = none := by
  unfold add at h
  dsimp only at h
  split_ifs at h with htaken
  all_goals
    cases h
    exact ⟨rfl, by simpa using htaken⟩

theorem getValue_add_ne {o' : JsonObject} {n : Bytes} (h : o.add name v = some o')
    (hn : n ≠ name) : o'.getValue n = o.getValue n := by
  rw [getValue, (add_some h).1, List.lookup_append, lookup_cons_ne hn, List.lookup_nil,
    Option.or_none]
  rfl

theorem getValue_setValue_ne {n : Bytes} (h : n ≠ name) :
    (o.setValue name v).1.getValue n = o.getValue n := by
  unfold setValue
  split_ifs
  · exact lookup_replace_ne h
  · cases hadd : o.add name v with
    | none => rfl
    | some o' => exact getValue_add_ne hadd h

/-- A dotted set leaves the other members of the root alone. -/
theorem getValue_dotsetPath_ne {current n : Bytes} {rest : List Bytes} (h : n ≠ current) :
    (dotsetPath v (current :: rest) o).1.getValue n = o.getValue n := by
  cases rest with
  | nil => exact getValue_setValue_ne h
  | cons next rest =>
    simp only [dotsetPath]
    cases o.getObject current with
    | some t => exact lookup_replace_ne h
    | none =>
      cases hadd : o.add current init.toValue with
      | none => rfl
      | some o' => exact (lookup_replace_ne h).trans (getValue_add_ne hadd h)

theorem getObject_eq_of_getValue {o' : JsonObject} {n : Bytes}
    (h : o'.getValue n = o.getValue n) : o'.getObject n = o.getObject n := by
  rw [getObject, h, getObject]

/-- A path that goes on: its first name is refused, or the object on the way,
which may be new, has the rest of the path set. -/
theorem getObject_dotsetPath (v : JsonValue) (o : JsonObject) (current next : Bytes)
    (rest : List Bytes) :
    o.getObject current = none ∧ o.add current init.toValue = none ∨
      (dotsetPath v (current :: next :: rest) o).1.getObject current =
        some (dotsetPath v (next :: rest) ((o.getObject current).getD init)).1 := by
  simp only [dotsetPath]
  cases hget : o.getObject current with
  | some t =>
    right
    have hsome : (o.members.lookup current).isSome = true := by
      unfold getObject getValue at hget
      cases hl : o.members.lookup current with
      | none => rw [hl] at hget; cases hget
      | some x => rfl
    simp only [getObject, getValue, lookup_replace_self hsome, toValue, Option.getD_some]
  | none =>
    cases hadd : o.add current init.toValue with
    | none => exact .inl ⟨rfl, rfl⟩
    | some o' =>
      right
      obtain ⟨hmem, -⟩ := add_some hadd
      have hsome : (o'.members.lookup current).isSome = true := by
        rw [hmem, List.lookup_append, Option.isSome_or]
        simp
      simp only [getObject, getValue, lookup_replace_self hsome, toValue, Option.getD_none]

/-- A dotted set leaves the other members of the object on its way alone. -/
theorem getIn_dotsetPath_ne {current next n : Bytes} {rest : List Bytes} (h : n ≠ next) :
    (dotsetPath v (current :: next :: rest) o).1.getIn current n = o.getIn current n := by
  rcases getObject_dotsetPath v o current next rest with ⟨hnone, hadd⟩ | hget
  · rw [dotsetPath_refused hnone hadd]
  · rw [getIn, hget, getIn]
    cases o.getObject current with
    | none => exact getValue_dotsetPath_ne h
    | some t => exact getValue_dotsetPath_ne h

/-- An object stays an object. -/
theorem getObject_dotsetPath_isSome {current next : Bytes} {rest : List Bytes}
    (h : (o.getObject current).isSome = true) :
    ((dotsetPath v (current :: next :: rest) o).1.getObject current).isSome = true := by
  rcases getObject_dotsetPath v o current next rest with ⟨hnone, -⟩ | hget
  · rw [hnone] at h
    cases h
  · rw [hget]
    rfl

/-- A path into a new object creates it. -/
theorem getObject_dotsetPath_new {current next : Bytes} {rest : List Bytes} (hs : o.Sized)
    (hf : Fresh current o.members) (hroom : o.members.length < OBJECT_MAX_CAPACITY) :
    ((dotsetPath v (current :: next :: rest) o).1.getObject current).isSome = true := by
  obtain ⟨c, heq, -⟩ := dotsetPath_new next rest v hs hf hroom
  rw [heq, getObject, getValue, lookup_last hf]
  rfl

end JsonObject
end Rpiweatherd
