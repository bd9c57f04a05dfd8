import Rpiweatherd.L3Trigger.Parse

/-!
# Evaluating triggers (`src/trigger.c:415-540`)

A measurement pass walks the table with one array of measurements. Each
trigger may convert the temperature in that array to Fahrenheit, compares
one of its entries with the value of the condition, and fires its action.
The entry is chosen by the trigger's own type code (`TRIGGER_TYPE_TEMP` = 1,
`TRIGGER_TYPE_HUMID` = 2), while the device writes the temperature to entry 0
and the humidity to entry 1 (`include/measurevals.h`).

What a pass computes with its measurements is an `Arithmetic`: in `float`, as
the code does, or with exact numbers. What happens inside
`post_process_args`, `execl` and `digitalWrite` is not part of this module: an
action is recorded with what it is called with.
-/
namespace Rpiweatherd

def TRIGGER_TYPE_TEMP : Nat := 1
def TRIGGER_TYPE_HUMID : Nat := 2

/-- `val_type` used as an index; an unset type is 0. -/
def typeIndex : Option CondType → Fin RPIWD_MAX_MEASUREMENTS
  | none => ⟨0, by decide⟩
  | some .temp => ⟨TRIGGER_TYPE_TEMP, by decide⟩
  | some .humid => ⟨TRIGGER_TYPE_HUMID, by decide⟩

/-- The C comparison of a measurement with a value. -/
def CondOp.holds (op : CondOp) (x v : FloatVal) : Bool :=
  match op with
  | .eq => x.eq v
  | .leq => x.lt v || x.eq v
  | .beq => v.lt x || x.eq v
  | .less => x.lt v
  | .more => v.lt x
  | .neq => !x.eq v

/-! ## The arithmetic of a pass -/

/-- Measurements of type `V`: their conversion to Fahrenheit, the number that
is compared, and what the value of a condition is compared as. -/
structure Arithmetic (V : Type) where
  fahrenheit : V → V
  number : V → FloatVal
  bound : FloatVal → FloatVal

def toFahrenheit (q : ℚ) : ℚ := q * (9 / 5) + 32

/-- Exact numbers. -/
def Arithmetic.exact : Arithmetic ℚ := ⟨toFahrenheit, .num, id⟩

/-- `measurement * 1.8f + 32` -/
def floatFahrenheit (x : FloatVal) : FloatVal :=
  (x.times single (single.round (9 / 5))).plus single 32

example : floatFahrenheit (.num 36) = .num (12687769 / 131072) := by decide +kernel

/-- The measurements and the value of the condition are `float`s. -/
def Arithmetic.float : Arithmetic FloatVal := ⟨floatFahrenheit, id, FloatVal.stored⟩

/-- The array of a pass. -/
abbrev Readings (V : Type) := Fin RPIWD_MAX_MEASUREMENTS → V

/-- A temperature condition with a unit other than `c`. -/
def converts (trig : RpiwdTrigger) : Bool :=
  trig.valType = some .temp && trig.valueUnit ≠ RPIWD_TEMPERATURE_CELSIUS && trig.valueUnit ≠ 0

/-- An action with its arguments: the pin and its level, or the program, its
argument string and the measurements for `post_process_args`. -/
inductive Act (V : Type) where
  | pin (target : StrPtr) (level : Bool)
  | exec (target args : StrPtr) (m : Readings V)
  deriving DecidableEq

/-- What `trigger_exec_callback` decides for one trigger and does for it. -/
structure Evaluation (V : Type) where
  flag : Int
  fired : Option (Act V)
  deriving DecidableEq

section Pass
variable {V : Type} (A : Arithmetic V)

/-- mirrors src/trigger.c:532-540 -/
def convertMeasurementsMaybe (trig : RpiwdTrigger) (m : Readings V) : Readings V :=
  if converts trig then Function.update m temperatureAt (A.fahrenheit (m temperatureAt)) else m

/-- mirrors src/trigger.c:415-447 -/
def triggerShouldExecute (trig : RpiwdTrigger) (m : Readings V) : Int × Readings V :=
  let m := convertMeasurementsMaybe A trig m
  match trig.op with
  | none => (-1, m)
  | some op =>
    (if op.holds (A.number (m (typeIndex trig.valType))) (A.bound trig.condValue) then 1 else 0, m)

/-- mirrors src/trigger.c:477-524 -/
def act (trig : RpiwdTrigger) (m : Readings V) : Option (Act V) :=
  match trig.action with
  | some .pinup => some (.pin trig.target true)
  | some .pindown => some (.pin trig.target false)
  | some .exec => some (.exec trig.target trig.args m)
  | none => none

/-- One round: a flag of −1 is logged and then treated like 1.
mirrors src/trigger.c:470-524 -/
def evalTrigger (trig : RpiwdTrigger) (m : Readings V) : Evaluation V × Readings V :=
  let (flag, m) := triggerShouldExecute A trig m
  (⟨flag, if flag = 0 then none else act trig m⟩, m)

/-- The loop over the table. mirrors src/trigger.c:466-529 -/
def execTriggers : List RpiwdTrigger → Readings V → List (Evaluation V)
  | [], _ => []
  | trig :: rest, m => (evalTrigger A trig m).1 :: execTriggers rest (evalTrigger A trig m).2

/-! ## One trigger -/

/-- The conversion does not reach the entry a typed trigger looks at. -/
theorem convert_typeIndex (t : RpiwdTrigger) (m : Readings V) :
    convertMeasurementsMaybe A t m (typeIndex t.valType) = m (typeIndex t.valType) := by
  unfold convertMeasurementsMaybe
  split
  · rename_i hc
    simp only [converts, Bool.and_eq_true, decide_eq_true_eq] at hc
    rw [hc.1.1]
    exact Function.update_of_ne (by decide) _ _
  · rfl

/-- The trigger fires on these measurements; one without an operator always does. -/
def Fires (t : RpiwdTrigger) (m : Readings V) : Prop :=
  ∀ op ∈ t.op, op.holds (A.number (m (typeIndex t.valType))) (A.bound t.condValue) = true

instance decidableFires (t : RpiwdTrigger) (m : Readings V) : Decidable (Fires A t m) :=
  inferInstanceAs (Decidable (∀ _ ∈ _, _))

theorem shouldExecute_eq (t : RpiwdTrigger) (m : Readings V) :
    triggerShouldExecute A t m =
      (if Fires A t m then (if t.op = none then -1 else 1) else 0,
        convertMeasurementsMaybe A t m) := by
  cases hop : t.op with
  | none => simp [triggerShouldExecute, Fires, hop]
  | some op => simp [triggerShouldExecute, Fires, hop, convert_typeIndex]

end Pass

/-! ## What the line says -/

def CondType.text : CondType → Bytes
  | .temp => ascii "%temp%"
  | .humid => ascii "%humid%"

def CondOp.text : CondOp → Bytes
  | .eq => ascii "=="
  | .leq => ascii "<="
  | .beq => ascii ">="
  | .less => ascii "<"
  | .more => ascii ">"
  | .neq => ascii "!="

/-- The line starts with the condition `type op v[unit]`. -/
structure Fields.Says (f : Fields) (type : CondType) (op : CondOp) (v : FloatVal)
    (unit : Option UInt8) : Prop where
  type : f.type = some type.text
  op : f.op = some op.text
  value : f.value.map strtod = some (v, unit.toList)
  unit : ∀ u ∈ unit, u ∈ TRIGGER_VALUE_VALID_MEASUREMENTS

/-- The measured quantity a condition is about. -/
def quantity (type : CondType) (unit : Option UInt8) (m : Measurements) : ℚ :=
  match type with
  | .temp =>
    if unit = some RPIWD_TEMPERATURE_FARENHEIT then toFahrenheit (m temperatureAt)
    else m temperatureAt
  | .humid => m humidityAt

theorem parseCondType_text (type : CondType) : parseCondType type.text = some type := by
  cases type <;> decide

theorem parseCondOp_text (op : CondOp) : (parseCondOp (some op.text)).2 = some op := by
  cases op <;> decide

theorem text_not_comment (type : CondType) : type.text.head? ≠ some 35 := by
  cases type <;> decide

/-- A condition is parsed into its type, operator and value. -/
theorem parseTrigger_condition {line : Bytes} {slot t : RpiwdTrigger} {errno errno' : Errno}
    {type : CondType} {op : CondOp} {v : FloatVal} {unit : Option UInt8}
    (hcond : (splitLine line).Says type op v unit)
    (hparse : parseTrigger slot errno line = .ok (TRIGGER_PARSE_OK, t, errno')) :
    t.valType = some type ∧ t.op = some op ∧ t.condValue = v := by
  unfold parseTrigger at hparse
  simp only [hcond.type, deref, Except.map, text_not_comment, if_false, Except.ok.injEq] at hparse
  rcases parseFields_cases (splitLine line) type.text slot errno with ⟨-, heq⟩ | ⟨-, hrej⟩
  · rw [heq] at hparse
    obtain rfl : (splitLine line).fill type.text slot = t := congrArg (·.2.1) hparse
    refine ⟨parseCondType_text type, ?_, ?_⟩
    · show (parseCondOp (splitLine line).op).2 = some op
      rw [hcond.op]
      exact parseCondOp_text op
    · obtain ⟨s, hs, hv⟩ := Option.map_eq_some_iff.mp hcond.value
      show (splitLine line).number = v
      simp [Fields.number, hs, hv]
  · rw [hparse] at hrej
    exact absurd rfl hrej.1

/-- **What a trigger means.** For every condition, every slot it is parsed
into and all measurements, `trigger_should_execute` is true exactly when the
written condition holds of the measured quantity if and only if the entry it
looks at, one behind the quantity, stands to the value as the quantity does. -/
theorem should_execute_iff (line : Bytes) (slot t : RpiwdTrigger) (errno errno' : Errno)
    (type : CondType) (op : CondOp) (v : FloatVal) (unit : Option UInt8) (m : Measurements)
    (hcond : (splitLine line).Says type op v unit)
    (hparse : parseTrigger slot errno line = .ok (TRIGGER_PARSE_OK, t, errno')) :
    ((triggerShouldExecute .exact t m).1 = 1 ↔ op.holds (.num (quantity type unit m)) v = true) ↔
      op.holds (.num (m (typeIndex (some type)))) v = op.holds (.num (quantity type unit m)) v := by
  obtain ⟨htype, hop, hv⟩ := parseTrigger_condition hcond hparse
  have hexec : (triggerShouldExecute .exact t m).1 = 1 ↔
      op.holds (.num (m (typeIndex (some type)))) v = true := by
    rw [shouldExecute_eq]
    simp [Fires, hop, htype, hv, Arithmetic.exact]
  rw [hexec]
  exact Bool.eq_iff_iff.symm

/-- Temperature and humidity as the device writes them, the rest zero. -/
def measured (temperature humidity : ℚ) : Measurements := fun i =>
  if i = temperatureAt then temperature else if i = humidityAt then humidity else 0

theorem should_execute_equal :
    ∃ t errno', parseTrigger .zero 0 (ascii "%temp% > 5 exec /bin/a x\n") =
        .ok (TRIGGER_PARSE_OK, t, errno') ∧
      ((triggerShouldExecute .exact t (measured 20 50)).1 = 1 ↔
        CondOp.more.holds (.num (quantity .temp none (measured 20 50))) (.num 5) = true) := by
  have hrun : (parseTrigger .zero 0 (ascii "%temp% > 5 exec /bin/a x\n")).map (·.1) =
      .ok TRIGGER_PARSE_OK := by decide +kernel
  have hcond : (splitLine (ascii "%temp% > 5 exec /bin/a x\n")).Says .temp .more (.num 5) none :=
    ⟨by decide +kernel, by decide +kernel, by decide +kernel, fun u h => nomatch h⟩
  obtain ⟨⟨flag, t, errno'⟩, hp, rfl⟩ := map_ok hrun
  refine ⟨t, errno', hp, ?_⟩
  exact (should_execute_iff _ _ _ _ _ _ _ _ _ _ hcond hp).mpr (by decide +kernel)

/-- At 20 degrees and 3 percent, `%temp% > 5` does not fire and `%humid% < 1`
does. -/
theorem should_execute_shifted :
    (∃ t errno', (splitLine (ascii "%temp% > 5 exec /bin/a x\n")).Says .temp .more (.num 5) none ∧
      parseTrigger .zero 0 (ascii "%temp% > 5 exec /bin/a x\n") =
        .ok (TRIGGER_PARSE_OK, t, errno') ∧
      (triggerShouldExecute .exact t (measured 20 3)).1 = 0 ∧
      CondOp.more.holds (.num (quantity .temp none (measured 20 3))) (.num 5) = true) ∧
    ∃ t errno', (splitLine (ascii "%humid% < 1 exec /bin/a x\n")).Says .humid .less (.num 1) none ∧
      parseTrigger .zero 0 (ascii "%humid% < 1 exec /bin/a x\n") =
        .ok (TRIGGER_PARSE_OK, t, errno') ∧
      (triggerShouldExecute .exact t (measured 20 3)).1 = 1 ∧
      CondOp.less.holds (.num (quantity .humid none (measured 20 3))) (.num 1) = false := by
  have htemp : ((parseTrigger .zero 0 (ascii "%temp% > 5 exec /bin/a x\n")).map fun r =>
      (r.1, (triggerShouldExecute .exact r.2.1 (measured 20 3)).1)) = .ok (TRIGGER_PARSE_OK, 0) := by
    decide +kernel
  have hhumid : ((parseTrigger .zero 0 (ascii "%humid% < 1 exec /bin/a x\n")).map fun r =>
      (r.1, (triggerShouldExecute .exact r.2.1 (measured 20 3)).1)) = .ok (TRIGGER_PARSE_OK, 1) := by
    decide +kernel
  obtain ⟨⟨flag, t, e⟩, hp, ht⟩ := map_ok htemp
  obtain ⟨⟨flag', t', e'⟩, hp', ht'⟩ := map_ok hhumid
  simp only [Prod.mk.injEq] at ht ht'
  obtain ⟨rfl, ht⟩ := ht
  obtain ⟨rfl, ht'⟩ := ht'
  refine ⟨⟨t, e, ⟨?_, ?_, ?_, fun u h => nomatch h⟩, hp, ht, ?_⟩,
    ⟨t', e', ⟨?_, ?_, ?_, fun u h => nomatch h⟩, hp', ht', ?_⟩⟩ <;> decide +kernel

end Rpiweatherd
