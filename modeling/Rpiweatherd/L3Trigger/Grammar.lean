import Rpiweatherd.L1Libc.Decimal
import Rpiweatherd.L3Trigger.Eval

/-!
# Well-formed trigger lines (`src/trigger.c:204-274`)

A `TriggerLine` is a line as its author means it: a condition with a decimal
number and an optional unit, an action in any letter case, a target and, for
`exec`, an argument, with blanks or tabs between them. `text` is the line
`getline` returns, with its newline.

Only the last `strtok_r` of `parse_trigger` ends a token at the newline. A pin
action has no argument, so its target takes the newline with it and is no
number, unless a blank stands in between: `line_accepted_iff`.
-/
namespace Rpiweatherd

/-! ## The value -/

/-- What can stand behind the number: nothing, or a unit. -/
def UnitText (rest : Bytes) : Prop := rest = [] ∨ ∃ u ∈ TRIGGER_VALUE_VALID_MEASUREMENTS, rest = [u]

theorem unitText_endsBefore {rest : Bytes} (h : UnitText rest) (d : Decimal) :
    d.EndsBefore rest := by
  have hunits : ∀ u ∈ TRIGGER_VALUE_VALID_MEASUREMENTS,
      isdigit u = false ∧ u ≠ 46 ∧ u ≠ 101 ∧ u ≠ 69 ∧ u ≠ 120 ∧ u ≠ 88 := by
    decide +kernel
  rcases h with rfl | ⟨u, hu, rfl⟩
  · intro b hb
    cases hb
  · intro b hb
    cases hb
    obtain ⟨hdigit, hpoint, hrest⟩ := hunits u hu
    exact ⟨hdigit, fun _ => hpoint, hrest⟩

/-! ## Lines -/

def CondAction.text : CondAction → Bytes
  | .exec => ascii "exec"
  | .pinup => ascii "pinup"
  | .pindown => ascii "pindown"

/-- A field of a line: no blank, tab, newline or NUL in it. -/
def IsWord (w : Bytes) : Prop := w ≠ [] ∧ ∀ b ∈ w, b ∉ BLANKS_NL ∧ b ≠ 0

/-- One or more blanks and tabs. -/
def IsGap (g : Bytes) : Prop := g ≠ [] ∧ ∀ b ∈ g, b ∈ BLANKS

/-- A line as its author means it. `gaps` are the separators, the last one in
front of the argument, and `trail` the blanks before the newline. -/
structure TriggerLine where
  type : CondType
  op : CondOp
  number : Decimal
  suffix : Option UInt8
  action : CondAction
  actionText : Bytes
  target : Bytes
  arg : Option Bytes
  gaps : Fin 5 → Bytes
  trail : Bytes
  suffix_unit : ∀ u ∈ suffix, u ∈ TRIGGER_VALUE_VALID_MEASUREMENTS
  action_case : actionText.map tolower = action.text
  target_word : IsWord target
  target_digits : action ≠ .exec → ∀ b ∈ target, isdigit b = true
  arg_word : ∀ a ∈ arg, IsWord a
  arg_exec : arg.isSome = true ↔ action = .exec
  gaps_blank : ∀ i, IsGap (gaps i)
  trail_blank : ∀ b ∈ trail, b ∈ BLANKS

namespace TriggerLine

def valueText (l : TriggerLine) : Bytes := l.number.text ++ l.suffix.toList

/-- The target, the argument and the end of the line. -/
def tailText (l : TriggerLine) : Bytes :=
  match l.arg with
  | none => l.target ++ (l.trail ++ [10])
  | some a => l.target ++ (l.gaps 4 ++ (a ++ (l.trail ++ [10])))

/-- The line as `getline` returns it. -/
def text (l : TriggerLine) : Bytes :=
  l.type.text ++ (l.gaps 0 ++ (l.op.text ++ (l.gaps 1 ++ (l.valueText ++ (l.gaps 2 ++
    (l.actionText ++ (l.gaps 3 ++ l.tailText)))))))

/-- What the line says, in a slot that was zero. -/
def meaning (l : TriggerLine) : RpiwdTrigger where
  valType := some l.type
  op := some l.op
  action := some l.action
  condValue := .num l.number.value
  target := .live l.target
  args := (l.arg.map .live).getD .null
  valueUnit := l.suffix.getD 0

/-- The newline ends the target of a pin action that no blank follows. -/
def targetToken (l : TriggerLine) : Bytes :=
  if l.arg = none ∧ l.trail = [] then l.target ++ [10] else l.target

theorem suffix_unitText (l : TriggerLine) : UnitText l.suffix.toList := by
  cases h : l.suffix with
  | none => exact .inl rfl
  | some u => exact .inr ⟨u, l.suffix_unit u h, rfl⟩

end TriggerLine

/-! ## The tokens of a line -/

/-- A token that blanks end: what is left starts with the rest of the gap. -/
theorem strtok_field {w gap : Bytes} (hne : w ≠ []) (hw : ∀ b ∈ w, b ∉ BLANKS) (hgap : IsGap gap)
    {lead : Bytes} (hlead : ∀ b ∈ lead, b ∈ BLANKS) (rest : Bytes) :
    strtok BLANKS (lead ++ (w ++ (gap ++ rest))) = (some w, gap.tail ++ rest) := by
  obtain ⟨g, gs, rfl⟩ := List.exists_cons_of_ne_nil hgap.1
  rw [strtok_skip_all hlead, List.cons_append,
    strtok_word hne hw (hgap.2 g (List.mem_cons_self ..))]
  rfl

theorem IsGap.tail_blank {g : Bytes} (h : IsGap g) : ∀ b ∈ g.tail, b ∈ BLANKS :=
  fun b hb => h.2 b (List.mem_of_mem_tail hb)

theorem blanks_subset : ∀ b ∈ BLANKS, b ∈ BLANKS_NL := by decide +kernel

theorem IsWord.no_blank {w : Bytes} (h : IsWord w) : ∀ b ∈ w, b ∉ BLANKS :=
  fun b hb hmem => (h.2 b hb).1 (blanks_subset b hmem)

instance decidableIsWord (w : Bytes) : Decidable (IsWord w) :=
  inferInstanceAs (Decidable (_ ∧ _))

namespace TriggerLine

theorem type_word (l : TriggerLine) : IsWord l.type.text := by
  cases l.type <;> decide +kernel

theorem op_word (l : TriggerLine) : IsWord l.op.text := by
  cases l.op <;> decide +kernel

/-- No byte is lost or made by lowering a letter. -/
theorem action_word (l : TriggerLine) : IsWord l.actionText := by
  have hlower : ∀ b : UInt8, tolower b ∉ BLANKS_NL ∧ tolower b ≠ 0 → b ∉ BLANKS_NL ∧ b ≠ 0 := by
    decide +kernel
  have htext : IsWord (l.actionText.map tolower) := by
    rw [l.action_case]
    cases l.action <;> decide +kernel
  refine ⟨fun h => htext.1 (by rw [h]; rfl), fun b hb => hlower b ?_⟩
  exact htext.2 _ (List.mem_map_of_mem hb)

theorem value_word (l : TriggerLine) : IsWord l.valueText := by
  have hbyte : ∀ b, isdigit b = true ∨ b ∈ ([43, 45, 46, 99, 102, 37] : Bytes) →
      b ∉ BLANKS_NL ∧ b ≠ 0 := by decide +kernel
  obtain ⟨c, cs, hhead, -⟩ := decimal_head l.number
  refine ⟨fun h => ?_, fun b hb => hbyte b ?_⟩
  · simp [valueText, Decimal.text, hhead] at h
  · simp only [valueText, Decimal.text, List.mem_append] at hb
    rcases hb with (hb | hb | hb) | hb
    · rcases Decimal.mem_signText hb with rfl | rfl <;> simp
    · exact .inl (l.number.whole_digits b hb)
    · rcases Decimal.mem_fractionText hb with rfl | hb
      · simp
      · exact .inl hb
    · have hunit := l.suffix_unit b (by simpa using hb)
      simp only [TRIGGER_VALUE_VALID_MEASUREMENTS, RPIWD_TEMPERATURE_CELSIUS,
        RPIWD_TEMPERATURE_FARENHEIT, RPIWD_DEFAULT_HUMID_UNIT, List.mem_cons, List.not_mem_nil,
        or_false] at hunit
      rcases hunit with rfl | rfl | rfl <;> simp

theorem no_nul (l : TriggerLine) : l.text.takeWhile (· ≠ 0) = l.text := by
  have hblank : ∀ b ∈ BLANKS, b ≠ 0 := by decide +kernel
  have hword : ∀ w : Bytes, IsWord w → ∀ b ∈ w, b ≠ 0 := fun w h b hb => (h.2 b hb).2
  have hgap : ∀ i, ∀ b ∈ l.gaps i, b ≠ 0 := fun i b hb => hblank b ((l.gaps_blank i).2 b hb)
  have htrail : ∀ b ∈ l.trail ++ [10], b ≠ 0 := by
    rw [List.forall_mem_append]
    exact ⟨fun b hb => hblank b (l.trail_blank b hb), by simp⟩
  have htail : ∀ b ∈ l.tailText, b ≠ 0 := by
    unfold tailText
    cases harg : l.arg with
    | none =>
      rw [List.forall_mem_append]
      exact ⟨hword _ l.target_word, htrail⟩
    | some a =>
      simp only [List.forall_mem_append] at htrail ⊢
      exact ⟨hword _ l.target_word, hgap 4, hword _ (l.arg_word a harg), htrail⟩
  have hall : ∀ b ∈ l.text, b ≠ 0 := by
    simp only [text, List.forall_mem_append]
    exact ⟨hword _ l.type_word, hgap 0, hword _ l.op_word, hgap 1, hword _ l.value_word, hgap 2,
      hword _ l.action_word, hgap 3, htail⟩
  exact List.takeWhile_eq_self_iff.mpr (by simpa using hall)

/-- The last two tokens. -/
theorem strtok_tail (l : TriggerLine) {lead : Bytes} (hlead : ∀ b ∈ lead, b ∈ BLANKS) :
    ∃ rest, strtok BLANKS (lead ++ l.tailText) = (some l.targetToken, rest) ∧
      (strtok BLANKS_NL rest).1 = l.arg := by
  have hnl : ∀ bs : Bytes, (∀ b ∈ bs, b ∈ BLANKS) → ∀ b ∈ bs ++ [10], b ∈ BLANKS_NL := by
    intro bs hbs b hb
    rcases List.mem_append.mp hb with hb | hb
    · exact blanks_subset b (hbs b hb)
    · rw [List.mem_singleton.mp hb]
      decide
  unfold tailText targetToken
  cases harg : l.arg with
  | some a =>
    have hword := l.arg_word a harg
    refine ⟨_, strtok_field l.target_word.1 l.target_word.no_blank (l.gaps_blank 4) hlead _, ?_⟩
    rw [strtok_skip_all fun b hb => blanks_subset b ((l.gaps_blank 4).tail_blank b hb)]
    obtain ⟨c, cs, hcs⟩ := List.exists_cons_of_ne_nil (l := l.trail ++ [10]) (by simp)
    have hc : c ∈ BLANKS_NL := hnl l.trail l.trail_blank c (by rw [hcs]; exact List.mem_cons_self ..)
    rw [hcs, strtok_word hword.1 (fun b hb => (hword.2 b hb).1) hc]
  | none =>
    cases htrail : l.trail with
    | nil =>
      have hnewline : (10 : UInt8) ∉ BLANKS := by decide
      have hlast : strtok BLANKS (l.target ++ [10]) = (some (l.target ++ [10]), []) := by
        refine strtok_last (by simp) fun b hb => ?_
        rcases List.mem_append.mp hb with hb | hb
        · exact l.target_word.no_blank b hb
        · rw [List.mem_singleton.mp hb]
          exact hnewline
      exact ⟨[], by simpa [strtok_skip_all hlead] using hlast, rfl⟩
    | cons g gs =>
      have hgap : IsGap l.trail := ⟨by rw [htrail]; simp, l.trail_blank⟩
      have hfield := strtok_field l.target_word.1 l.target_word.no_blank hgap hlead [10]
      rw [htrail] at hfield
      refine ⟨gs ++ [10], by simpa using hfield, ?_⟩
      rw [strtok_none_iff]
      refine hnl gs fun b hb => l.trail_blank b ?_
      rw [htrail]
      exact List.mem_cons_of_mem _ hb

/-- The tokens are the fields, but for the target that takes the newline. -/
theorem splitLine_text (l : TriggerLine) :
    splitLine l.text = ⟨some l.type.text, some l.op.text, some l.valueText, some l.actionText,
      some l.targetToken, l.arg⟩ := by
  have h1 := strtok_field l.type_word.1 l.type_word.no_blank (l.gaps_blank 0)
    (List.forall_mem_nil (· ∈ BLANKS))
  have h2 := strtok_field l.op_word.1 l.op_word.no_blank (l.gaps_blank 1)
    (l.gaps_blank 0).tail_blank
  have h3 := strtok_field l.value_word.1 l.value_word.no_blank (l.gaps_blank 2)
    (l.gaps_blank 1).tail_blank
  have h4 := strtok_field l.action_word.1 l.action_word.no_blank (l.gaps_blank 3)
    (l.gaps_blank 2).tail_blank
  obtain ⟨rest, h5, h6⟩ := l.strtok_tail (l.gaps_blank 3).tail_blank
  unfold splitLine
  rw [l.no_nul, text]
  simp only [List.nil_append] at h1
  simp only [h1, h2, h3, h4, h5, h6]

/-! ## What becomes of a line -/

/-- An argument or a blank keeps the newline away from the target. -/
def Shielded (l : TriggerLine) : Prop := l.action = .exec ∨ l.trail ≠ []

/-- A number that is stored as zero meets no `ERANGE`. -/
def Converts (l : TriggerLine) (errno : Errno) : Prop :=
  (FloatVal.num l.number.value).isZero = true →
    setErange (dblRange l.number.value) errno ≠ ERANGE

theorem targetToken_eq_iff (l : TriggerLine) : l.targetToken = l.target ↔ l.Shielded := by
  have hexec : l.arg = none ↔ l.action ≠ .exec := by
    rw [← not_iff_not, not_not, ← l.arg_exec, ← Option.ne_none_iff_isSome]
  unfold targetToken Shielded
  by_cases h : l.arg = none ∧ l.trail = []
  · rw [if_pos h]
    simp [hexec.mp h.1, h.2]
  · rw [if_neg h]
    rw [hexec, not_and_or, not_not] at h
    exact ⟨fun _ => h, fun _ => rfl⟩

theorem parseCondAction_text (l : TriggerLine) :
    parseCondAction (some l.actionText) = (TRIGGER_PARSE_OK, some l.action) := by
  have htable : ∀ a : CondAction, codeOf COND_ACTION_TO_STR a.text = some a := by
    intro a
    cases a <;> decide +kernel
  simp only [parseCondAction, l.action_case, htable]

theorem isPin_action (l : TriggerLine) : isPin (some l.action) = true ↔ l.action ≠ .exec := by
  cases l.action <;> decide

/-- The target is a number exactly if the newline is not in it. -/
theorem tailFormed_iff (l : TriggerLine) : (splitLine l.text).TailFormed ↔ l.Shielded := by
  rw [splitLine_text, ← targetToken_eq_iff]
  unfold Fields.TailFormed
  simp only [parseCondAction_text, isPin_action, Option.any_some, Option.all_some, true_and,
    decide_eq_true_eq]
  constructor
  · rintro ⟨-, hpin⟩
    rw [targetToken_eq_iff]
    by_contra hns
    have hexec : l.action ≠ .exec := fun h => hns (.inl h)
    have htoken : l.targetToken = l.target ++ [10] := by
      unfold targetToken
      rw [if_pos ⟨(hpin hexec).2, not_not.mp fun h => hns (.inr h)⟩]
    have hnumber := (hpin hexec).1
    rw [htoken] at hnumber
    simp [rpiwdIsNumber, isdigit] at hnumber
  · intro htoken
    rw [htoken]
    refine ⟨List.length_pos_iff.mpr l.target_word.1, fun hexec => ⟨?_, ?_⟩⟩
    · exact List.all_eq_true.mpr (l.target_digits hexec)
    · have hnone : ¬ l.arg.isSome = true := fun h => hexec (l.arg_exec.mp h)
      exact Option.not_isSome_iff_eq_none.mp hnone

theorem strtod_valueText (l : TriggerLine) :
    strtod l.valueText = (.num l.number.value, l.suffix.toList) :=
  strtod_decimal l.number (unitText_endsBefore l.suffix_unitText _)

/-- The unit of a line, or none: a number does not start like one. -/
theorem unitOf_suffixText (l : TriggerLine) : unitOf (suffixText l.valueText) = l.suffix := by
  unfold suffixText
  rw [strtod_valueText]
  cases hs : l.suffix with
  | some u =>
    have hunits : ∀ u ∈ TRIGGER_VALUE_VALID_MEASUREMENTS, unitOf [u] = some u := by decide +kernel
    simpa using hunits u (l.suffix_unit u hs)
  | none =>
    have hhead : ∀ c, isdigit c = true ∨ c ∈ ([43, 45, 46] : Bytes) →
        c ∉ TRIGGER_VALUE_VALID_MEASUREMENTS := by decide +kernel
    obtain ⟨c, cs, hcs, hc⟩ : ∃ c cs, l.valueText = c :: cs ∧
        (isdigit c = true ∨ c ∈ ([43, 45, 46] : Bytes)) := by
      obtain ⟨c, cs, hcs, hc⟩ := decimal_head l.number
      unfold valueText Decimal.text Decimal.signText
      rcases l.number.negative with _ | _ | _
      · exact ⟨c, cs ++ l.suffix.toList, by simp [hcs], hc.imp_right fun h => by simp [h]⟩
      · exact ⟨43, _, rfl, .inr (by simp)⟩
      · exact ⟨45, _, rfl, .inr (by simp)⟩
    have hnone := hhead c hc
    simp only [Option.toList_none, ne_eq, not_true_eq_false, if_false, hcs, unitOf,
      List.find?_eq_none, List.head?_cons, Option.some.injEq, decide_eq_true_eq]
    exact fun u hu heq => hnone (heq ▸ hu)

theorem accepted_iff (l : TriggerLine) (errno : Errno) :
    (splitLine l.text).Accepted errno ↔ l.Shielded ∧ l.Converts errno := by
  have hop : (parseCondOp (some l.op.text)).1 = TRIGGER_PARSE_OK := by
    cases l.op <;> decide +kernel
  have hnumber : (splitLine l.text).number = .num l.number.value := by
    simp [splitLine_text, Fields.number, strtod_valueText]
  unfold Fields.Accepted Fields.WellFormed Fields.errnoAfter Converts
  rw [tailFormed_iff, hnumber]
  simp [splitLine_text, hop, FloatVal.range]

theorem fill_text (l : TriggerLine) (h : l.Shielded) :
    (splitLine l.text).fill l.type.text .zero = l.meaning := by
  have htoken := l.targetToken_eq_iff.mpr h
  simp only [splitLine_text, Fields.fill, meaning, Fields.number, Fields.unit, Option.map_some,
    Option.bind_some, Option.getD_some, parseCondType_text, parseCondOp_text, parseCondAction_text,
    strtod_valueText, unitOf_suffixText, htoken, RpiwdTrigger.zero]

/-- **A well-formed line** is accepted with its meaning exactly if its target
is shielded from the newline and its number converts. -/
theorem line_accepted_iff (l : TriggerLine) (errno : Errno) :
    (∃ errno', parseTrigger .zero errno l.text = .ok (TRIGGER_PARSE_OK, l.meaning, errno')) ↔
      l.Shielded ∧ l.Converts errno := by
  have hparse : parseTrigger .zero errno l.text =
      .ok (parseFields (splitLine l.text) l.type.text .zero errno) := by
    have htype : (splitLine l.text).type = some l.type.text := by rw [splitLine_text]
    simp only [parseTrigger, htype, deref, Except.map, text_not_comment, if_false]
  rw [hparse, ← accepted_iff]
  rcases parseFields_cases (splitLine l.text) l.type.text .zero errno with
    ⟨hacc, heq⟩ | ⟨hacc, hrej⟩
  · rw [heq, l.fill_text ((l.accepted_iff errno).mp hacc).1]
    exact ⟨fun _ => hacc, fun _ => ⟨_, rfl⟩⟩
  · refine ⟨?_, fun h => absurd h hacc⟩
    rintro ⟨errno', h⟩
    rw [Except.ok.inj h] at hrej
    exact absurd rfl hrej.1

end TriggerLine

/-- The number 25. -/
def twentyFive : Decimal where
  negative := none
  whole := ascii "25"
  fraction := none
  whole_digits := by decide +kernel
  fraction_digits := by decide +kernel
  has_digit := by decide +kernel

theorem blank_isGap : IsGap [32] := ⟨by decide, by decide +kernel⟩

/-- `%temp% > 25c PinUp 17` -/
def pinLine : TriggerLine where
  type := .temp
  op := .more
  number := twentyFive
  suffix := some RPIWD_TEMPERATURE_CELSIUS
  action := .pinup
  actionText := ascii "PinUp"
  target := ascii "17"
  arg := none
  gaps := fun _ => [32]
  trail := []
  suffix_unit := by decide +kernel
  action_case := by decide +kernel
  target_word := by decide +kernel
  target_digits := fun _ => by decide +kernel
  arg_word := by decide +kernel
  arg_exec := by decide +kernel
  gaps_blank := fun _ => blank_isGap
  trail_blank := by decide +kernel

/-- The pin is `17` and a newline, which is no number. -/
theorem pin_line_refused :
    pinLine.text = ascii "%temp% > 25c PinUp 17\n" ∧
      (parseTrigger .zero 0 pinLine.text).map (fun r => (r.1, r.2.1.target)) =
        .ok (TRIGGER_ERROR_TARGET_NOT_NUMERIC, .live (ascii "17\n")) := by
  decide +kernel

end Rpiweatherd
