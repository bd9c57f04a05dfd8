import Rpiweatherd.L3Trigger.Grammar
import Rpiweatherd.L3Trigger.History

/-!
# What a loaded trigger is executed with (`src/trigger.c:415-524`)

`trigger_exec_callback` uses the type of a trigger as an index into the
measurements and hands the arguments of an `exec` trigger to
`post_process_args`, which reads them. `load_triggers` refuses an unknown
operator, a missing or non-numeric target and a missing value; an unknown
type, a value that is no number and missing arguments it takes.
`loaded_executable_iff` names, for every history and every file, the lines
that have to be right for every live trigger to be executable.
-/
namespace Rpiweatherd

/-- A token that is a number, with nothing or one unit behind it. -/
def ValueToken (v : Bytes) : Prop :=
  (∃ q, (strtod v).1 = .num q) ∧ (strtod v).2 ≠ v ∧ UnitText (strtod v).2

/-- A trigger that came from a line with the fields `f` can be executed: its
fields are valid, the measurement it is compared with is one that the driver
writes, and an `exec` has a string of arguments. -/
structure Executable (f : Fields) (t : RpiwdTrigger) : Prop where
  type : t.valType = some .temp ∨ t.valType = some .humid
  op : t.op.isSome = true
  value : ∃ v, f.value = some v ∧ t.condValue = (strtod v).1 ∧ ValueToken v
  target : ∃ s, t.target = .live s ∧ s ≠ [] ∧ (isPin t.action = true → ∀ b ∈ s, isdigit b = true)
  args : t.action = some .exec → ∃ a, t.args = .live a
  measured : typeIndex t.valType = temperatureAt ∨ typeIndex t.valType = humidityAt

/-- The line is about the temperature, its value is a number, and an `exec` has
arguments. -/
structure ExecutableLine (f : Fields) (type : Bytes) : Prop where
  type : type = CondType.temp.text
  value : ∃ v, f.value = some v ∧ ValueToken v
  args : (parseCondAction f.action).2 = some .exec → f.args.isSome = true

/-! ## Slots without arguments -/

theorem parseTail_args {f : Fields} {t : RpiwdTrigger} (h : (parseTail f t).1 ≠ TRIGGER_PARSE_OK) :
    (parseTail f t).2.args = t.args := by
  revert h
  unfold parseTail
  generalize parseCondAction f.action = r
  obtain ⟨flag, action⟩ := r
  dsimp only
  split
  · exact fun _ => rfl
  · split
    · exact fun _ => rfl
    · split
      · exact fun _ => rfl
      · split
        · exact fun _ => rfl
        · split
          · exact fun _ => rfl
          · split
            · exact fun _ => rfl
            · exact fun h => absurd rfl h

/-- Arguments are the last thing that is written. -/
theorem parseFields_args {f : Fields} {type : Bytes} {t : RpiwdTrigger} {e : Errno}
    (h : Rejects (parseFields f type t e).1) : (parseFields f type t e).2.1.args = t.args := by
  have h := h.1
  revert h
  unfold parseFields
  generalize parseCondOp f.op = r
  obtain ⟨flag, op⟩ := r
  dsimp only
  split
  · exact fun _ => rfl
  · generalize parseCondValue f.value t.condValue e = v
    split
    · exact fun _ => rfl
    · intro h
      rw [parseTail_args h]
      cases v.part <;> rfl

/-- No slot that is not in use holds a string of arguments. -/
def NoSpareArgs (st : Triggers) : Prop := ∀ i, st.count ≤ i → ∀ a, (st.slot i).args ≠ .live a

theorem noSpareArgs_zero : NoSpareArgs .zero := by
  intro i _ a
  rw [zero_slot]
  exact nofun

theorem noSpareArgs_invariant : TableInvariant NoSpareArgs where
  emptied := by
    intro st hst i _ a
    rw [emptied_slot]
    split
    · show (st.slot i).args.released ≠ .live a
      cases (st.slot i).args <;> exact nofun
    · exact hst i (by omega) a
  push := by
    intro st hc f type e hst _ i hi a
    have hle : st.count + 1 ≤ i := hi
    rw [st.push_slot, if_neg (by omega)]
    exact hst i (by omega) a
  put := by
    intro st hc f type e hst hrej i hi a
    rw [st.put_slot]
    split
    · rename_i heq
      rw [parseFields_args hrej, ← heq]
      exact hst i hi a
    · exact hst i hi a
  errno := fun _ _ hst => hst

/-- So the slots a load writes into have none. -/
theorem emptied_args_not_live {calls : List TriggerCall} {st : Triggers}
    (h : afterCalls calls = .ok st) (i : Nat) (a : Bytes) : (st.emptied.slot i).args ≠ .live a :=
  noSpareArgs_invariant.emptied st (noSpareArgs_invariant.afterCalls noSpareArgs_zero h) i
    (Nat.zero_le i) a

/-! ## One line -/

theorem parseCondType_temp_iff (type : Bytes) :
    parseCondType type = some .temp ↔ type = CondType.temp.text := by
  constructor
  · intro h
    unfold parseCondType at h
    split at h
    · obtain ⟨p, hp, htemp⟩ := Option.map_eq_some_iff.mp h
      have hmem := List.mem_of_find?_eq_some hp
      have htext := List.find?_some hp
      simp only [COND_TYPE_TO_STR, List.mem_cons, List.not_mem_nil, or_false] at hmem
      rcases hmem with rfl | rfl
      · cases htemp
      · exact (of_decide_eq_true htext).symm
    · cases h
  · rintro rfl
    exact parseCondType_text .temp

/-- Of the three values of a type, only one is the index of a measurement that
is also a type. -/
theorem typeIndex_measured_iff (t : Option CondType) :
    ((t = some .temp ∨ t = some .humid) ∧
      (typeIndex t = temperatureAt ∨ typeIndex t = humidityAt)) ↔ t = some .temp := by
  rcases t with _ | _ | _ <;> decide

theorem parseCondOp_isSome {part : Option Bytes} (h : (parseCondOp part).1 = TRIGGER_PARSE_OK) :
    (parseCondOp part).2.isSome = true := by
  cases part with
  | none => exact absurd h (by decide)
  | some s =>
    simp only [parseCondOp] at h ⊢
    by_cases hlen : s.length ≤ 2
    · cases hcode : codeOf COND_OP_TO_STR s with
      | none =>
        simp only [hlen, hcode, if_true] at h
        exact absurd h (by decide)
      | some op => simp only [hlen, if_true, Option.isSome_some]
    · simp only [hlen, if_false] at h
      exact absurd h (by decide)

/-- An accepted line makes an executable trigger, in a slot without arguments,
exactly if it is an executable line. -/
theorem executable_fill_iff {f : Fields} (hf : f.WellFormed) (type : Bytes) {slot : RpiwdTrigger}
    (hslot : ∀ a, slot.args ≠ .live a) :
    Executable f (f.fill type slot) ↔ ExecutableLine f type := by
  obtain ⟨s, hs⟩ := Option.isSome_iff_exists.mp hf.target
  obtain ⟨hop, hvalue, -, htarget, hpin⟩ := hf
  obtain ⟨v, hv⟩ := Option.isSome_iff_exists.mp hvalue
  have hcond : (f.fill type slot).condValue = (strtod v).1 := by
    simp [Fields.fill, Fields.number, hv]
  have hargs : (∃ a, (f.fill type slot).args = .live a) ↔ f.args.isSome = true := by
    unfold Fields.fill
    cases f.args with
    | none => simp [hslot]
    | some a => simp
  constructor
  · rintro ⟨htype, -, ⟨w, hw, -, htoken⟩, -, hexec, hmeasured⟩
    refine ⟨?_, ⟨w, hw, htoken⟩, fun h => hargs.mp (hexec h)⟩
    exact (parseCondType_temp_iff type).mp ((typeIndex_measured_iff _).mp ⟨htype, hmeasured⟩)
  · rintro ⟨htype, ⟨w, hw, htoken⟩, hexec⟩
    have htemp : (f.fill type slot).valType = some .temp := (parseCondType_temp_iff type).mpr htype
    rw [hv] at hw
    cases hw
    refine ⟨.inl htemp, parseCondOp_isSome hop, ⟨v, hv, hcond, htoken⟩,
      ⟨s, by simp [Fields.fill, hs], ?_, fun h => ?_⟩, fun h => hargs.mpr (hexec h),
      ((typeIndex_measured_iff _).mpr htemp).2⟩
    · rw [hs, Option.any_some, decide_eq_true_eq] at htarget
      exact List.length_pos_iff.mp htarget
    · have hnumber := (hpin h).1
      rw [hs] at hnumber
      exact List.all_eq_true.mp hnumber

/-! ## A file -/

/-- The lines of a file that become triggers, in order. -/
def acceptedLines (file : Bytes) (errno : Errno) : List (Fields × Bytes) :=
  (reading (getlines file) 0 errno).1

theorem forall₂_mapIdx_iff {α β : Type} {R : α → β → Prop} {S : α → Prop} :
    ∀ {l : List α} {f : Nat → α → β}, (∀ a ∈ l, ∀ i, R a (f i a) ↔ S a) →
      (List.Forall₂ R l (l.mapIdx f) ↔ ∀ a ∈ l, S a)
  | [], _, _ => by simp
  | a :: l, f, h => by
    have ih := forall₂_mapIdx_iff (f := fun i => f (i + 1)) fun x hx i =>
      h x (List.mem_cons_of_mem _ hx) (i + 1)
    rw [List.mapIdx_cons, List.forall₂_cons, ih, h a (List.mem_cons_self ..) 0,
      List.forall_mem_cons]

/-- **Only executable triggers are loaded**, after any history, exactly from
the files whose accepted lines are about the temperature, have a number for a
value and, for an `exec`, arguments. -/
theorem loaded_executable_iff (calls : List TriggerCall) (st : Triggers)
    (hst : afterCalls calls = .ok st) (file : Bytes) (r : Loaded)
    (hload : loadTriggers st (some file) = .ok r) :
    List.Forall₂ (fun p t => Executable p.1 t) (acceptedLines file st.errno) r.triggers.live ↔
      ∀ p ∈ acceptedLines file st.errno, ExecutableLine p.1 p.2 := by
  have hlive := loadTriggers_live st file
  rw [hload] at hlive
  split at hlive
  · -- without a fault, the live triggers are the accepted lines in their slots
    have heq : r.triggers.live = (acceptedLines file st.errno).mapIdx fun i p =>
        p.1.fill p.2 (st.emptied.slot i) := by
      unfold outcome at hlive
      split at hlive
      · cases hlive
      · exact Except.ok.inj hlive
    rw [heq]
    exact forall₂_mapIdx_iff fun p hp i =>
      executable_fill_iff (reading_wellFormed hp) p.2 (emptied_args_not_live hst i)
  · cases hlive

/-- A file whose only trigger is executable. -/
theorem loaded_executable_temp :
    ∃ r, loadTriggers .zero (some (ascii "%temp% > 5c exec /bin/a x\n")) = .ok r ∧
      List.Forall₂ (fun p t => Executable p.1 t)
        (acceptedLines (ascii "%temp% > 5c exec /bin/a x\n") 0) r.triggers.live := by
  have hrun : (loadTriggers .zero (some (ascii "%temp% > 5c exec /bin/a x\n"))).map (·.flag) =
      .ok TRIGGER_PARSE_OK := by decide +kernel
  have hlines : acceptedLines (ascii "%temp% > 5c exec /bin/a x\n") 0 =
      [(⟨some (ascii "%temp%"), some (ascii ">"), some (ascii "5c"), some (ascii "exec"),
        some (ascii "/bin/a"), some (ascii "x")⟩, ascii "%temp%")] := by decide +kernel
  have hnumber : strtod (ascii "5c") = (.num 5, [99]) := by decide +kernel
  have htoken : ValueToken (ascii "5c") := by
    rw [ValueToken, hnumber]
    exact ⟨⟨5, rfl⟩, by decide, .inr ⟨99, by decide, rfl⟩⟩
  obtain ⟨r, hr, -⟩ := map_ok hrun
  refine ⟨r, hr, (loaded_executable_iff [] .zero rfl _ r hr).mpr ?_⟩
  show ∀ p ∈ acceptedLines (ascii "%temp% > 5c exec /bin/a x\n") 0, ExecutableLine p.1 p.2
  rw [hlines, List.forall_mem_singleton]
  exact ⟨rfl, ⟨_, rfl, htoken⟩, fun _ => rfl⟩

/-- An unknown type, a value that is no number and an `exec` without arguments
are loaded; a humidity trigger is compared with an entry that nobody writes. -/
theorem loaded_not_executable :
    (loadTriggers .zero (some (ascii "%wind% > abc exec /bin/a\n"))).map
        (·.triggers.live.map fun t => (t.valType, t.condValue, t.args)) =
      .ok [(none, .num 0, .null)] ∧
    (loadTriggers .zero (some (ascii "%humid% > 5 exec /bin/a x\n"))).map
        (·.triggers.live.map fun t => (typeIndex t.valType).val) = .ok [2] := by
  decide +kernel

end Rpiweatherd
