import Rpiweatherd.L3Trigger.Parse

/-!
# The trigger table: loading, unloading, loading again (`src/trigger.c:276-325`)

`load_triggers` parses line after line straight into the first unused slot of
a static table, and `unload_triggers` frees the strings of the used slots but
clears neither their pointers nor their units. A slot that is used again for
a line without unit or arguments therefore shows those of its predecessor.

`reading` says what a file contributes, slots aside; `loadLoop_live` relates
the two. The log line of a rejected trigger is kept with the entry of
`TRIGGER_PARSE_ERROR_STR` it prints, `none` where the index (the flag itself)
lies outside the table.
-/
namespace Rpiweatherd

def CONFIG_MAX_TRIGGERS : Nat := 16

/-- The static variables of `trigger.c`, and `errno` of the thread that uses
them. -/
structure Triggers where
  table : Fin CONFIG_MAX_TRIGGERS → RpiwdTrigger
  count : Nat
  errno : Errno
  bound : count ≤ CONFIG_MAX_TRIGGERS

/-- The state at program start. -/
def Triggers.zero : Triggers := ⟨fun _ => .zero, 0, 0, Nat.zero_le _⟩

def Triggers.slot (st : Triggers) (i : Nat) : RpiwdTrigger :=
  if h : i < CONFIG_MAX_TRIGGERS then st.table ⟨i, h⟩ else .zero

def Triggers.live (st : Triggers) : List RpiwdTrigger := (List.range st.count).map st.slot

/-- Write the first unused slot. -/
def Triggers.put (st : Triggers) (h : st.count < CONFIG_MAX_TRIGGERS) (trig : RpiwdTrigger)
    (errno : Errno) : Triggers :=
  { st with table := Function.update st.table ⟨st.count, h⟩ trig, errno := errno }

/-- Write it and count it. -/
def Triggers.push (st : Triggers) (h : st.count < CONFIG_MAX_TRIGGERS) (trig : RpiwdTrigger)
    (errno : Errno) : Triggers :=
  { st.put h trig errno with count := st.count + 1, bound := h }

/-- mirrors src/trigger.c:53-78 -/
def TRIGGER_PARSE_ERROR_STR : List (Nat × Option String) :=
  [(TRIGGER_PARSE_OK, some "Parsing is OK"),
    (TRIGGER_PARSE_COMMENT_LINE, some "Parser encountered a commented line."),
    (TRIGGER_ERROR_FILE_NOT_FOUND, some "Trigger file could not be found."),
    (TRIGGER_ERROR_FILE_ERROR, some "I/O error in trigger file."),
    (TRIGGER_ERROR_UP_TO_DATE, some "Trigger file is up to date, no need to reload it."),
    (TRIGGER_ERROR_EOF, some "EOF"),
    (TRIGGER_ERROR_VALUE_SYNTAX, some "Syntax error in the value compared by the condition."),
    (TRIGGER_ERROR_VALUE_TYPE_ERROR, some "Condition value has an unrecognized type."),
    (TRIGGER_ERROR_COND_OP_SYNTAX, some "Syntax error in condition operation."),
    (TRIGGER_ERROR_COND_UNKNOWN_OP, some "Unrecognized condition operation type."),
    (TRIGGER_ERROR_MALFORMED_VALUE, some "Malformed value."),
    (TRIGGER_ERROR_MISSING_VALUE, some "Value is missing."),
    (TRIGGER_ERROR_UNKNOWN_ACTION, some "Unknown action."),
    (TRIGGER_ERROR_MISSING_ACTION, some "Missing action."),
    (TRIGGER_ERROR_TARGET_MALFORMED, some "Trigger target is malformed."),
    (TRIGGER_ERROR_TARGET_NOT_NUMERIC,
      some "Trigger target is not numeric, but action is not PINUP or PINDOWN."),
    (TRIGGER_ERROR_MISSING_ARGS, some "Arguments are required, but are missing."),
    (TRIGGER_ERROR_ARGUMENTS_NOT_NEEDED, some "Arguments are not needed, but provided."),
    (TRIGGER_ERROR_MISSING_TARGET, some "Target is required, but is missing."),
    (TRIGGER_ERROR_OUT_OF_MEMORY, some "rpiweathed could not allocate memory!"),
    (0, none)]

structure LogLine where
  number : Nat
  entry : Option (Nat × Option String)
  deriving DecidableEq

structure Loaded where
  flag : Nat
  triggers : Triggers
  log : Option LogLine

/-! ## unload_triggers -/

/-- mirrors src/trigger.c:314-320 -/
def freeSlot (trig : RpiwdTrigger) : Except Fault RpiwdTrigger :=
  (freeField trig.args).bind fun args =>
    (freeField trig.target).map fun target => { trig with args := args, target := target }

/-- The loop over the first `n` slots. -/
def unloadLoop : Nat → (Fin CONFIG_MAX_TRIGGERS → RpiwdTrigger) →
    Except Fault (Fin CONFIG_MAX_TRIGGERS → RpiwdTrigger)
  | 0, table => .ok table
  | n + 1, table =>
    (unloadLoop n table).bind fun table =>
      if h : n < CONFIG_MAX_TRIGGERS then
        (freeSlot (table ⟨n, h⟩)).map fun trig => Function.update table ⟨n, h⟩ trig
      else .error .outOfBounds

/-- mirrors src/trigger.c:311-325 -/
def unloadTriggers (st : Triggers) : Except Fault Triggers :=
  (unloadLoop st.count st.table).map fun table =>
    { st with table := table, count := 0, bound := Nat.zero_le _ }

/-! ## load_triggers -/

/-- The successive results of `getline`, newlines included. -/
def getlines : Bytes → List Bytes
  | [] => []
  | b :: s =>
    if b = 10 then [b] :: getlines s
    else
      match getlines s with
      | [] => [[b]]
      | line :: rest => (b :: line) :: rest

/-- The loop; a line that writes a slot behind the table is a fault.
mirrors src/trigger.c:289-300 -/
def loadLoop : List Bytes → Triggers → Except Fault Loaded
  | [], st => .ok ⟨TRIGGER_ERROR_EOF, st, none⟩
  | line :: rest, st =>
    (parseTrigger (st.slot st.count) st.errno line).bind fun (flag, trig, errno) =>
      if flag = TRIGGER_PARSE_COMMENT_LINE then loadLoop rest st
      else if h : st.count < CONFIG_MAX_TRIGGERS then
        if flag = TRIGGER_PARSE_OK then loadLoop rest (st.push h trig errno)
        else
          .ok ⟨flag, st.put h trig errno, some ⟨st.count + 1, TRIGGER_PARSE_ERROR_STR[flag]?⟩⟩
      else .error .outOfBounds

/-- `file` is what `fopen` finds, if anything. mirrors src/trigger.c:276-309 -/
def loadTriggers (st : Triggers) (file : Option Bytes) : Except Fault Loaded :=
  (if 0 < st.count then unloadTriggers st else .ok st).bind fun st =>
    match file with
    | none => .ok ⟨TRIGGER_ERROR_FILE_NOT_FOUND, st, none⟩
    | some contents =>
      (loadLoop (getlines contents) st).map fun r =>
        { r with flag := if r.flag = TRIGGER_ERROR_EOF then TRIGGER_PARSE_OK else r.flag }

/-! ## Slots -/

theorem Triggers.put_slot (st : Triggers) (h : st.count < CONFIG_MAX_TRIGGERS) (t : RpiwdTrigger)
    (e : Errno) (i : Nat) : (st.put h t e).slot i = if i = st.count then t else st.slot i := by
  unfold Triggers.slot Triggers.put
  by_cases hi : i = st.count
  · subst hi
    simp [h]
  · by_cases hm : i < CONFIG_MAX_TRIGGERS
    · simp [hi, hm]
    · simp [hi, hm]

theorem Triggers.push_slot (st : Triggers) (h : st.count < CONFIG_MAX_TRIGGERS) (t : RpiwdTrigger)
    (e : Errno) (i : Nat) : (st.push h t e).slot i = if i = st.count then t else st.slot i :=
  st.put_slot h t e i

theorem Triggers.put_live (st : Triggers) (h : st.count < CONFIG_MAX_TRIGGERS) (t : RpiwdTrigger)
    (e : Errno) : (st.put h t e).live = st.live := by
  unfold Triggers.live
  apply List.map_congr_left
  intro i hi
  have hne : i ≠ st.count := Nat.ne_of_lt (List.mem_range.mp hi)
  rw [st.put_slot, if_neg hne]

theorem Triggers.push_live (st : Triggers) (h : st.count < CONFIG_MAX_TRIGGERS) (t : RpiwdTrigger)
    (e : Errno) : (st.push h t e).live = st.live ++ [t] := by
  have hput := st.put_live h t e
  unfold Triggers.live at hput ⊢
  show (List.range (st.count + 1)).map (st.put h t e).slot = _
  rw [List.range_succ, List.map_append, List.map_singleton, st.put_slot, if_pos rfl]
  exact congrArg (· ++ [t]) hput

/-! ## What a file contributes -/

inductive Line where
  | blank
  | comment
  | trigger (f : Fields) (type : Bytes)
  deriving DecidableEq

/-- A line without any token, a comment, or the fields of a trigger. -/
def readLine (line : Bytes) : Line :=
  match (splitLine line).type with
  | none => .blank
  | some type => if type.head? = some 35 then .comment else .trigger (splitLine line) type

/-- The lines that become triggers when reading starts with `n` slots in use,
and the fault reading runs into, if any. -/
def reading : List Bytes → Nat → Errno → List (Fields × Bytes) × Option Fault
  | [], _, _ => ([], none)
  | line :: rest, n, e =>
    match readLine line with
    | .blank => ([], some .nullDeref)
    | .comment => reading rest n e
    | .trigger f type =>
      if n < CONFIG_MAX_TRIGGERS then
        if f.Accepted e then
          let r := reading rest (n + 1) (f.errnoAfter e)
          ((f, type) :: r.1, r.2)
        else ([], none)
      else ([], some .outOfBounds)

theorem parseTrigger_readLine (t : RpiwdTrigger) (e : Errno) (line : Bytes) :
    parseTrigger t e line =
      match readLine line with
      | .blank => .error .nullDeref
      | .comment => .ok (TRIGGER_PARSE_COMMENT_LINE, t, e)
      | .trigger f type => .ok (parseFields f type t e) := by
  unfold parseTrigger readLine
  cases h : (splitLine line).type with
  | none => simp only [h, deref, Except.map]
  | some type =>
    simp only [h, deref, Except.map]
    split <;> rfl

/-- One round of the loop, by the class of its line. -/
theorem loadLoop_cons (line : Bytes) (rest : List Bytes) (st : Triggers) :
    loadLoop (line :: rest) st =
      match readLine line with
      | .blank => .error .nullDeref
      | .comment => loadLoop rest st
      | .trigger f type =>
        if h : st.count < CONFIG_MAX_TRIGGERS then
          if f.Accepted st.errno then
            loadLoop rest (st.push h (f.fill type (st.slot st.count)) (f.errnoAfter st.errno))
          else
            let r := parseFields f type (st.slot st.count) st.errno
            .ok ⟨r.1, st.put h r.2.1 r.2.2, some ⟨st.count + 1, TRIGGER_PARSE_ERROR_STR[r.1]?⟩⟩
        else .error .outOfBounds := by
  rw [loadLoop, parseTrigger_readLine]
  cases readLine line with
  | blank => rfl
  | comment => rfl
  | trigger f type =>
    simp only [Except.bind]
    rcases parseFields_cases f type (st.slot st.count) st.errno with ⟨hacc, heq⟩ | ⟨hacc, hrej⟩
    · rw [heq]
      simp only [hacc, if_true]
      rw [if_neg (by decide)]
    · rw [if_neg hrej.2.1]
      simp only [hrej.1, hacc, if_false]

/-- The result of a read: the fault, or what its triggers make. -/
def outcome {α β : Type} (r : List α × Option Fault) (make : List α → β) : Except Fault β :=
  match r.2 with
  | some fault => .error fault
  | none => .ok (make r.1)

theorem outcome_cons {α β : Type} (a : α) (r : List α × Option Fault) (make : List α → β) :
    outcome (a :: r.1, r.2) make = outcome r fun l => make (a :: l) := rfl

/-- **Loading, slots aside.** What is live after the loop is what was live
before it, followed by the triggers of `reading`, each filled into the slot
it met. -/
theorem loadLoop_live : ∀ (lines : List Bytes) (st : Triggers),
    (loadLoop lines st).map (·.triggers.live) =
      outcome (reading lines st.count st.errno) fun acc =>
        st.live ++ acc.mapIdx fun i p => p.1.fill p.2 (st.slot (st.count + i))
  | [], st => by simp [loadLoop, reading, outcome, Except.map]
  | line :: rest, st => by
    rw [loadLoop_cons, reading]
    cases readLine line with
    | blank => rfl
    | comment => exact loadLoop_live rest st
    | trigger f type =>
      by_cases hc : st.count < CONFIG_MAX_TRIGGERS
      · by_cases hacc : f.Accepted st.errno
        · -- the slots behind the new one are the old ones
          simp only [hc, hacc, dite_true, if_true]
          rw [loadLoop_live rest, outcome_cons]
          simp only [List.mapIdx_cons, Triggers.push_live, Triggers.push_slot]
          have hne : ∀ i, ¬ st.count + 1 + i = st.count := fun i => by omega
          simp only [Triggers.push, Triggers.put, hne, if_false, List.append_assoc,
            List.singleton_append, Nat.add_zero]
          simp only [Nat.add_assoc, Nat.add_comm 1]
        · simp only [hc, hacc, dite_true, if_true, if_false]
          simp [outcome, Except.map, Triggers.put_live]
      · simp only [hc, dite_false, if_false]
        rfl

theorem reading_wellFormed : ∀ {lines : List Bytes} {n : Nat} {e : Errno} {p : Fields × Bytes},
    p ∈ (reading lines n e).1 → p.1.WellFormed
  | [], _, _, _, h => by simp [reading] at h
  | line :: rest, n, e, p, h => by
    rw [reading] at h
    split at h
    · cases h
    · exact reading_wellFormed h
    · split at h
      · split at h
        · rename_i hacc
          rcases List.mem_cons.mp h with rfl | h
          · exact hacc.1
          · exact reading_wellFormed h
        · cases h
      · cases h

theorem reading_target {lines : List Bytes} {n : Nat} {e : Errno} {p : Fields × Bytes}
    (h : p ∈ (reading lines n e).1) : p.1.target.isSome := (reading_wellFormed h).target

/-- Any other `errno` is as good as a clear one. -/
theorem reading_errno : ∀ {lines : List Bytes} {n : Nat} {e e' : Errno}, e ≠ ERANGE → e' ≠ ERANGE →
    reading lines n e = reading lines n e'
  | [], _, _, _, _, _ => rfl
  | line :: rest, n, e, e', he, he' => by
    rw [reading, reading]
    cases readLine line with
    | blank => rfl
    | comment => exact reading_errno he he'
    | trigger f type =>
      -- the conversion sets `ERANGE` in both runs or in neither
      have hrest : reading rest (n + 1) (f.errnoAfter e) = reading rest (n + 1) (f.errnoAfter e') := by
        unfold Fields.errnoAfter
        cases f.number.range dblRange with
        | true => rfl
        | false => exact reading_errno he he'
      have hacc : f.Accepted e ↔ f.Accepted e' := by
        unfold Fields.Accepted Fields.errnoAfter
        cases f.number.range dblRange with
        | true => rfl
        | false => simp only [setErange_false, he, he', ne_eq, not_false_eq_true]
      simp only [hrest, hacc]

/-- Starting with `ERANGE` changes nothing as long as no trigger read has a
value of zero. -/
theorem reading_erange : ∀ {lines : List Bytes} {n : Nat} {e : Errno},
    (∀ p ∈ (reading lines n e).1, p.1.number.isZero = false) →
      reading lines n ERANGE = reading lines n e
  | [], _, _, _ => rfl
  | line :: rest, n, e, h => by
    rw [reading] at h
    rw [reading, reading]
    cases hl : readLine line with
    | blank => rfl
    | comment =>
      rw [hl] at h
      exact reading_erange h
    | trigger f type =>
      rw [hl] at h
      simp only at h ⊢
      split
      · rename_i hn
        simp only [hn, if_true] at h
        by_cases hacc : f.Accepted e
        · simp only [hacc, if_true] at h ⊢
          have hz := h _ (List.mem_cons_self ..)
          have hrest := reading_erange fun p hp => h p (List.mem_cons_of_mem _ hp)
          rw [if_pos (Fields.accepted_erange.mpr ⟨hacc.1, hz⟩), Fields.errnoAfter, setErange_erange,
            hrest]
        · rw [if_neg hacc, if_neg]
          intro hera
          obtain ⟨hwf, hz⟩ := Fields.accepted_erange.mp hera
          exact hacc ⟨hwf, fun h => absurd (hz.symm.trans h) (by decide)⟩
      · rfl

/-- Otherwise reading stops early, at the first such trigger. -/
theorem reading_erange_stops : ∀ {lines : List Bytes} {n : Nat} {e : Errno},
    (¬ ∀ p ∈ (reading lines n e).1, p.1.number.isZero = false) →
      (reading lines n ERANGE).2 = none ∧
        (reading lines n ERANGE).1.length < (reading lines n e).1.length
  | [], _, _, h => by simp [reading] at h
  | line :: rest, n, e, h => by
    rw [reading] at h
    rw [reading, reading]
    cases hl : readLine line with
    | blank => simp [hl] at h
    | comment =>
      rw [hl] at h
      exact reading_erange_stops h
    | trigger f type =>
      rw [hl] at h
      simp only at h ⊢
      by_cases hn : n < CONFIG_MAX_TRIGGERS
      · simp only [hn, if_true] at h ⊢
        by_cases hacc : f.Accepted e
        · simp only [hacc, if_true] at h ⊢
          by_cases hz : f.number.isZero = false
          · rw [if_pos (Fields.accepted_erange.mpr ⟨hacc.1, hz⟩), Fields.errnoAfter,
              setErange_erange]
            have hrest : ¬ ∀ p ∈ (reading rest (n + 1) (f.errnoAfter e)).1,
                p.1.number.isZero = false := by
              intro hall
              apply h
              intro p hp
              rcases List.mem_cons.mp hp with rfl | hp
              · exact hz
              · exact hall p hp
            obtain ⟨hnone, hlt⟩ := reading_erange_stops hrest
            exact ⟨hnone, Nat.succ_lt_succ hlt⟩
          · rw [if_neg fun hera => hz (Fields.accepted_erange.mp hera).2]
            exact ⟨rfl, Nat.succ_pos _⟩
        · simp [hacc] at h
      · simp [hn] at h

end Rpiweatherd
