import Rpiweatherd.L3Listener.Message

/-!
# Trigger lines (`src/trigger.c:95-274`)

A trigger line is `type op value[unit] action target [args]`, the fields
separated by blanks and tabs. `parse_trigger` writes the fields straight into
a slot of the trigger table, one after the other, so a line that is rejected
half-way leaves the slot half-written, and a line without a unit or without
arguments leaves what the slot held before.

The int codes 0 of `val_type`, `op` and `action` (unset) are `none`. A string
pointer of a slot is NULL, a live allocation or a pointer to freed memory.
-/
namespace Rpiweatherd

def TRIGGER_PARSE_OK : Nat := 100
def TRIGGER_PARSE_COMMENT_LINE : Nat := 101
def TRIGGER_ERROR_FILE_NOT_FOUND : Nat := 201
def TRIGGER_ERROR_FILE_ERROR : Nat := 202
def TRIGGER_ERROR_UP_TO_DATE : Nat := 102
def TRIGGER_ERROR_EOF : Nat := 103
def TRIGGER_ERROR_VALUE_SYNTAX : Nat := 301
def TRIGGER_ERROR_VALUE_TYPE_ERROR : Nat := 303
def TRIGGER_ERROR_COND_OP_SYNTAX : Nat := 401
def TRIGGER_ERROR_COND_UNKNOWN_OP : Nat := 402
def TRIGGER_ERROR_MALFORMED_VALUE : Nat := 304
def TRIGGER_ERROR_MISSING_VALUE : Nat := 305
def TRIGGER_ERROR_UNKNOWN_ACTION : Nat := 501
def TRIGGER_ERROR_MISSING_ACTION : Nat := 502
def TRIGGER_ERROR_TARGET_MALFORMED : Nat := 601
def TRIGGER_ERROR_TARGET_NOT_NUMERIC : Nat := 602
def TRIGGER_ERROR_MISSING_ARGS : Nat := 701
def TRIGGER_ERROR_ARGUMENTS_NOT_NEEDED : Nat := 702
def TRIGGER_ERROR_MISSING_TARGET : Nat := 603
def TRIGGER_ERROR_OUT_OF_MEMORY : Nat := 104

inductive CondType where
  | temp
  | humid
  deriving DecidableEq, Repr

inductive CondOp where
  | eq
  | leq
  | beq
  | less
  | more
  | neq
  deriving DecidableEq, Repr

inductive CondAction where
  | exec
  | pinup
  | pindown
  deriving DecidableEq, Repr

structure RpiwdTrigger where
  valType : Option CondType
  op : Option CondOp
  action : Option CondAction
  condValue : FloatVal
  target : StrPtr
  args : StrPtr
  valueUnit : UInt8
  deriving DecidableEq

/-- A slot of the zero-initialised table. -/
def RpiwdTrigger.zero : RpiwdTrigger := ⟨none, none, none, .num 0, .null, .null, 0⟩

/-- mirrors src/trigger.c:40-44 -/
def COND_TYPE_TO_STR : List (CondType × Bytes) :=
  [(.humid, ascii "%humid%"), (.temp, ascii "%temp%")]

/-- mirrors src/trigger.c:30-38 -/
def COND_OP_TO_STR : List (CondOp × Bytes) :=
  [(.eq, ascii "=="), (.leq, ascii "<="), (.beq, ascii ">="), (.less, ascii "<"),
    (.more, ascii ">"), (.neq, ascii "!=")]

/-- mirrors src/trigger.c:46-51 -/
def COND_ACTION_TO_STR : List (CondAction × Bytes) :=
  [(.exec, ascii "exec"), (.pindown, ascii "pindown"), (.pinup, ascii "pinup")]

/-- mirrors src/trigger.c:80-85 -/
def TRIGGER_VALUE_VALID_MEASUREMENTS : Bytes :=
  [RPIWD_TEMPERATURE_CELSIUS, RPIWD_TEMPERATURE_FARENHEIT, RPIWD_DEFAULT_HUMID_UNIT]

/-- The loop over one of the tables: the first entry with this text. -/
def codeOf {α : Type} (table : List (α × Bytes)) (s : Bytes) : Option α :=
  (table.find? fun e => e.2 = s).map (·.1)

/-! ## Fields -/

/-- mirrors src/trigger.c:95-111
It never sets −1, so its return value is always `TRIGGER_PARSE_OK`. -/
def parseCondType (part : Bytes) : Option CondType :=
  if part.head? = some 37 ∧ part.getLast? = some 37 then codeOf COND_TYPE_TO_STR part else none

/-- mirrors src/trigger.c:113-132 -/
def parseCondOp (part : Option Bytes) : Nat × Option CondOp :=
  match part with
  | none => (TRIGGER_ERROR_COND_OP_SYNTAX, none)
  | some s =>
    if s.length ≤ 2 then
      match codeOf COND_OP_TO_STR s with
      | none => (TRIGGER_ERROR_COND_UNKNOWN_OP, none)
      | some op => (TRIGGER_PARSE_OK, some op)
    else (TRIGGER_ERROR_COND_OP_SYNTAX, none)

structure ParsedValue where
  flag : Nat
  value : FloatVal
  part : Option Bytes
  errno : Errno
  deriving DecidableEq

/-- The value is written even where it is then refused; without a token the
old one stays. mirrors src/trigger.c:134-154 -/
def parseCondValue (part : Option Bytes) (old : FloatVal) (errno : Errno) : ParsedValue :=
  match part with
  | none => ⟨TRIGGER_ERROR_MISSING_VALUE, old, none, errno⟩
  | some s =>
    let (value, endptr) := strtod s
    let errno := setErange (value.range dblRange) errno
    if value.isZero = false ∨ errno ≠ ERANGE then
      ⟨TRIGGER_PARSE_OK, value, some (if endptr ≠ [] then endptr else s), errno⟩
    else ⟨TRIGGER_ERROR_MALFORMED_VALUE, value, part, errno⟩

/-- The entry of `TRIGGER_VALUE_VALID_MEASUREMENTS` a text starts with. -/
def unitOf (part : Bytes) : Option UInt8 :=
  TRIGGER_VALUE_VALID_MEASUREMENTS.find? fun c => part.head? = some c

/-- Always `TRIGGER_PARSE_OK`; without a known unit the old one stays.
mirrors src/trigger.c:156-169 -/
def parseCondValueSuffix (part : Bytes) (old : UInt8) : UInt8 := (unitOf part).getD old

/-- mirrors src/trigger.c:171-202 -/
def parseCondAction (part : Option Bytes) : Nat × Option CondAction :=
  match part with
  | none => (TRIGGER_ERROR_MISSING_ACTION, none)
  | some s =>
    match codeOf COND_ACTION_TO_STR (s.map tolower) with
    | none => (TRIGGER_ERROR_UNKNOWN_ACTION, none)
    | some a => (TRIGGER_PARSE_OK, some a)

/-- mirrors src/util.c:241-251 -/
def rpiwdIsNumber (str : Bytes) : Bool := str.all isdigit

def isPin (action : Option CondAction) : Bool := action = some .pindown || action = some .pinup

/-! ## A line -/

def BLANKS : Bytes := ascii " \t"
def BLANKS_NL : Bytes := ascii " \t\n"

/-- What the successive `strtok_r` calls of `parse_trigger` return. -/
structure Fields where
  type : Option Bytes
  op : Option Bytes
  value : Option Bytes
  action : Option Bytes
  target : Option Bytes
  args : Option Bytes
  deriving DecidableEq

/-- The tokens of a line as read by `getline`, up to its first NUL; the last
one is also ended by a newline, the others may contain it. -/
def splitLine (line : Bytes) : Fields :=
  let (type, saveptr) := strtok BLANKS (line.takeWhile (· ≠ 0))
  let (op, saveptr) := strtok BLANKS saveptr
  let (value, saveptr) := strtok BLANKS saveptr
  let (action, saveptr) := strtok BLANKS saveptr
  let (target, saveptr) := strtok BLANKS saveptr
  let (args, _) := strtok BLANKS_NL saveptr
  ⟨type, op, value, action, target, args⟩

/-- mirrors src/trigger.c:239-273 -/
def parseTail (f : Fields) (trig : RpiwdTrigger) : Nat × RpiwdTrigger :=
  let (flag, action) := parseCondAction f.action
  let trig := { trig with action := action }
  if flag ≠ TRIGGER_PARSE_OK then (flag, trig)
  else
    match f.target with
    | none => (TRIGGER_ERROR_TARGET_MALFORMED, trig)
    | some target =>
      if target.length < 1 then (TRIGGER_ERROR_TARGET_MALFORMED, trig)
      else
        let trig := { trig with target := .live target }
        if isPin trig.action ∧ rpiwdIsNumber target = false then
          (TRIGGER_ERROR_TARGET_NOT_NUMERIC, trig)
        else if f.args.isSome ∧ isPin trig.action then (TRIGGER_ERROR_ARGUMENTS_NOT_NEEDED, trig)
        else
          match f.args with
          | none => (TRIGGER_PARSE_OK, trig)
          | some args => (TRIGGER_PARSE_OK, { trig with args := .live args })

/-- What `parse_trigger` does with a line that is no comment; `type` is its
first token. mirrors src/trigger.c:225-273 -/
def parseFields (f : Fields) (type : Bytes) (trig : RpiwdTrigger) (errno : Errno) :
    Nat × RpiwdTrigger × Errno :=
  let trig := { trig with valType := parseCondType type }
  let (flag, op) := parseCondOp f.op
  let trig := { trig with op := op }
  if flag ≠ TRIGGER_PARSE_OK then (flag, trig, errno)
  else
    let v := parseCondValue f.value trig.condValue errno
    let trig := { trig with condValue := v.value }
    if v.flag ≠ TRIGGER_PARSE_OK then (v.flag, trig, v.errno)
    else
      let trig :=
        match v.part with
        | none => trig
        | some part => { trig with valueUnit := parseCondValueSuffix part trig.valueUnit }
      let (flag, trig) := parseTail f trig
      (flag, trig, v.errno)

/-- The call for a line that `getline` returned; at the end of the file it is
`TRIGGER_ERROR_EOF` and the slot is not touched. mirrors src/trigger.c:204-274 -/
def parseTrigger (trig : RpiwdTrigger) (errno : Errno) (line : Bytes) :
    Except Fault (Nat × RpiwdTrigger × Errno) :=
  let f := splitLine line
  (deref f.type).map fun type =>
    if type.head? = some 35 then (TRIGGER_PARSE_COMMENT_LINE, trig, errno)
    else parseFields f type trig errno

/-! ## What a line means, slot aside -/

/-- What `parse_cond_value` leaves for the suffix: the rest behind the number
or, when there is none, the number itself. -/
def suffixText (value : Bytes) : Bytes :=
  if (strtod value).2 ≠ [] then (strtod value).2 else value

/-- The unit written on the line. -/
def Fields.unit (f : Fields) : Option UInt8 := f.value.bind fun v => unitOf (suffixText v)

def Fields.number (f : Fields) : FloatVal := (f.value.map fun v => (strtod v).1).getD (.num 0)

/-- A known action and a target, which for a pin is a number and the end of
the line. -/
def Fields.TailFormed (f : Fields) : Prop :=
  (parseCondAction f.action).1 = TRIGGER_PARSE_OK ∧ (f.target.any fun t => 1 ≤ t.length) ∧
    (isPin (parseCondAction f.action).2 → f.target.all rpiwdIsNumber ∧ f.args = none)

instance (f : Fields) : Decidable f.TailFormed := inferInstanceAs (Decidable (_ ∧ _ ∧ _))

/-- The grammar of a trigger line: a known operator, any value, and the tail. -/
def Fields.WellFormed (f : Fields) : Prop :=
  (parseCondOp f.op).1 = TRIGGER_PARSE_OK ∧ f.value.isSome ∧ f.TailFormed

instance (f : Fields) : Decidable f.WellFormed := inferInstanceAs (Decidable (_ ∧ _ ∧ _))

/-- `errno` once the value of a line has been converted. -/
def Fields.errnoAfter (f : Fields) (errno : Errno) : Errno :=
  setErange (f.number.range dblRange) errno

/-- `parse_trigger` returns `TRIGGER_PARSE_OK`: besides the grammar, a value of
zero must not meet an `errno` of `ERANGE`. -/
def Fields.Accepted (f : Fields) (errno : Errno) : Prop :=
  f.WellFormed ∧ (f.number.isZero → f.errnoAfter errno ≠ ERANGE)

instance Fields.decidableAccepted (f : Fields) (e : Errno) : Decidable (f.Accepted e) :=
  inferInstanceAs (Decidable (_ ∧ _))

/-- The slot after a line that was accepted. -/
def Fields.fill (f : Fields) (type : Bytes) (slot : RpiwdTrigger) : RpiwdTrigger where
  valType := parseCondType type
  op := (parseCondOp f.op).2
  action := (parseCondAction f.action).2
  condValue := f.number
  target := (f.target.map .live).getD slot.target
  args := (f.args.map .live).getD slot.args
  valueUnit := f.unit.getD slot.valueUnit

/-- A flag on which `load_triggers` stops reading. -/
def Rejects (flag : Nat) : Prop :=
  flag ≠ TRIGGER_PARSE_OK ∧ flag ≠ TRIGGER_PARSE_COMMENT_LINE ∧ flag ≠ TRIGGER_ERROR_EOF

instance (flag : Nat) : Decidable (Rejects flag) := inferInstanceAs (Decidable (_ ∧ _ ∧ _))

theorem parseCondOp_flag (part : Option Bytes) :
    (parseCondOp part).1 = TRIGGER_PARSE_OK ∨ Rejects (parseCondOp part).1 := by
  unfold parseCondOp
  split
  · exact .inr (by decide)
  · split
    · split
      · exact .inr (by decide)
      · exact .inl rfl
    · exact .inr (by decide)

theorem parseCondAction_flag (part : Option Bytes) :
    (parseCondAction part).1 = TRIGGER_PARSE_OK ∨ Rejects (parseCondAction part).1 := by
  unfold parseCondAction
  split
  · exact .inr (by decide)
  · split
    · exact .inr (by decide)
    · exact .inl rfl

/-- The tail of a line is accepted and fills its three fields, or rejected. -/
theorem parseTail_cases (f : Fields) (t : RpiwdTrigger) :
    (f.TailFormed ∧ parseTail f t = (TRIGGER_PARSE_OK,
      { t with
        action := (parseCondAction f.action).2
        target := (f.target.map StrPtr.live).getD t.target
        args := (f.args.map StrPtr.live).getD t.args })) ∨
    (¬ f.TailFormed ∧ Rejects (parseTail f t).1) := by
  unfold parseTail Fields.TailFormed
  rcases parseCondAction_flag f.action with hact | hact
  · simp only [hact, ne_eq, not_true_eq_false, if_false, true_and]
    cases htgt : f.target with
    | none =>
      refine .inr ⟨by simp, ?_⟩
      exact (by decide : Rejects TRIGGER_ERROR_TARGET_MALFORMED)
    | some target =>
      simp only [Option.any_some, Option.all_some, decide_eq_true_eq]
      by_cases hlen : target.length < 1
      · rw [if_pos hlen]
        refine .inr ⟨fun h => by omega, ?_⟩
        exact (by decide : Rejects TRIGGER_ERROR_TARGET_MALFORMED)
      · rw [if_neg hlen]
        by_cases hnum : isPin (parseCondAction f.action).2 ∧ rpiwdIsNumber target = false
        · rw [if_pos hnum]
          refine .inr ⟨fun h => ?_, (by decide : Rejects TRIGGER_ERROR_TARGET_NOT_NUMERIC)⟩
          exact Bool.false_ne_true (hnum.2.symm.trans (h.2 hnum.1).1)
        · rw [if_neg hnum]
          by_cases hargs : f.args.isSome ∧ isPin (parseCondAction f.action).2
          · rw [if_pos hargs]
            refine .inr ⟨fun h => ?_, (by decide : Rejects TRIGGER_ERROR_ARGUMENTS_NOT_NEEDED)⟩
            rw [(h.2 hargs.2).2] at hargs
            exact absurd hargs.1 (by decide)
          · rw [if_neg hargs]
            refine .inl ⟨⟨by omega, fun hpin => ⟨?_, ?_⟩⟩, ?_⟩
            · exact Bool.of_not_eq_false fun hn => hnum ⟨hpin, hn⟩
            · exact Option.not_isSome_iff_eq_none.mp fun ha => hargs ⟨ha, hpin⟩
            · cases f.args <;> rfl
  · simp only [hact.1, ne_eq, not_false_eq_true, if_true, false_and, true_and]
    exact .inr hact

theorem parseCondValue_some (v : Bytes) (old : FloatVal) (e : Errno) :
    parseCondValue (some v) old e =
      if (strtod v).1.isZero = false ∨ setErange ((strtod v).1.range dblRange) e ≠ ERANGE then
        ⟨TRIGGER_PARSE_OK, (strtod v).1, some (suffixText v),
          setErange ((strtod v).1.range dblRange) e⟩
      else ⟨TRIGGER_ERROR_MALFORMED_VALUE, (strtod v).1, some v,
        setErange ((strtod v).1.range dblRange) e⟩ := rfl

/-- **A line, slot aside.** Whether a line is accepted depends on the line and
`errno` alone; if it is, the slot is filled as `Fields.fill` says. -/
theorem parseFields_cases (f : Fields) (type : Bytes) (t : RpiwdTrigger) (e : Errno) :
    (f.Accepted e ∧
      parseFields f type t e = (TRIGGER_PARSE_OK, f.fill type t, f.errnoAfter e)) ∨
    (¬ f.Accepted e ∧ Rejects (parseFields f type t e).1) := by
  unfold parseFields
  rcases parseCondOp_flag f.op with hop | hop
  · simp only [hop, ne_eq, not_true_eq_false, if_false]
    cases hval : f.value with
    | none =>
      refine .inr ⟨fun h => absurd h.1.2.1 (by simp [hval]), ?_⟩
      exact (by decide : Rejects TRIGGER_ERROR_MISSING_VALUE)
    | some v =>
      have hnum : f.number = (strtod v).1 := by simp [Fields.number, hval]
      have hunit : f.unit = unitOf (suffixText v) := by simp [Fields.unit, hval]
      have hacc : f.Accepted e ↔ f.TailFormed ∧ ((strtod v).1.isZero = false ∨
          setErange ((strtod v).1.range dblRange) e ≠ ERANGE) := by
        unfold Fields.Accepted Fields.WellFormed Fields.errnoAfter
        simp only [hop, hval, hnum, Option.isSome_some, true_and, imp_iff_not_or,
          Bool.not_eq_true]
      rw [hacc, parseCondValue_some]
      split
      · rename_i hv
        simp only [ne_eq, not_true_eq_false, if_false, hv, and_true]
        rcases parseTail_cases f _ with ⟨htail, heq⟩ | ⟨htail, hrej⟩
        · refine .inl ⟨htail, ?_⟩
          rw [heq]
          simp only [Fields.fill, Fields.errnoAfter, hnum, hunit, parseCondValueSuffix]
        · exact .inr ⟨htail, hrej⟩
      · rename_i hv
        refine .inr ⟨fun h => hv h.2, ?_⟩
        exact (by decide : Rejects TRIGGER_ERROR_MALFORMED_VALUE)
  · have hna : ¬ f.Accepted e := fun h => hop.1 h.1.1
    simp only [hop.1, ne_eq, not_false_eq_true, if_true, hna, false_and, true_and]
    exact .inr hop

/-- Under `ERANGE` exactly the values of zero are lost. -/
theorem Fields.accepted_erange {f : Fields} :
    f.Accepted ERANGE ↔ f.WellFormed ∧ f.number.isZero = false := by
  unfold Fields.Accepted Fields.errnoAfter
  simp only [setErange_erange, ne_eq, not_true_eq_false, imp_false, Bool.not_eq_true]

/-- Two slots are filled alike exactly when what the line does not write is
alike in them. -/
theorem Fields.fill_eq_iff {f : Fields} {type : Bytes} {s t : RpiwdTrigger}
    (htgt : f.target.isSome) :
    f.fill type s = f.fill type t ↔
      (f.unit.isSome ∨ s.valueUnit = t.valueUnit) ∧ (f.args.isSome ∨ s.args = t.args) := by
  obtain ⟨target, htgt⟩ := Option.isSome_iff_exists.mp htgt
  unfold Fields.fill
  cases f.unit with
  | none =>
    cases f.args with
    | none => simp [htgt, and_comm]
    | some a => simp [htgt]
  | some u =>
    cases f.args with
    | none => simp [htgt]
    | some a => simp [htgt]

theorem Fields.WellFormed.target {f : Fields} (h : f.WellFormed) : f.target.isSome := by
  have := h.2.2.2.1
  cases ht : f.target with
  | none => simp [ht] at this
  | some t => rfl

theorem Fields.Accepted.target {f : Fields} {e : Errno} (h : f.Accepted e) : f.target.isSome :=
  h.1.target

end Rpiweatherd
