import Rpiweatherd.L3Trigger.Load

/-!
# What a load inherits from earlier loads

The live triggers after `load_triggers` should be a function of the file. The
table carries three things over from earlier calls: the unit and the argument
pointer of a reused slot, the pointers `unload_triggers` frees again, and
`errno`, which `parse_cond_value` consults without clearing it.
`loadsAlike_iff` names exactly the states in which none of them shows.
-/
namespace Rpiweatherd

/-! ## Unloading in closed form -/

/-- Neither string of the slot has been freed already. -/
def Freeable (t : RpiwdTrigger) : Prop := t.args ≠ .freed ∧ t.target ≠ .freed

instance (t : RpiwdTrigger) : Decidable (Freeable t) := inferInstanceAs (Decidable (_ ∧ _))

def RpiwdTrigger.released (t : RpiwdTrigger) : RpiwdTrigger :=
  { t with args := t.args.released, target := t.target.released }

/-- The table after `unload_triggers`. -/
def Triggers.emptied (st : Triggers) : Triggers where
  table i := if i.val < st.count then (st.table i).released else st.table i
  count := 0
  errno := st.errno
  bound := Nat.zero_le _

@[simp] theorem emptied_count (st : Triggers) : st.emptied.count = 0 := rfl

@[simp] theorem emptied_errno (st : Triggers) : st.emptied.errno = st.errno := rfl

@[simp] theorem emptied_live (st : Triggers) : st.emptied.live = [] := rfl

theorem freeSlot_eq (t : RpiwdTrigger) :
    freeSlot t = if Freeable t then .ok t.released else .error .doubleFree := by
  unfold freeSlot Freeable
  rw [freeField_eq, freeField_eq]
  by_cases ha : t.args = .freed
  · simp [ha, Except.bind]
  · by_cases ht : t.target = .freed
    · simp [ha, ht, Except.bind, Except.map]
    · simp [ha, ht, Except.bind, Except.map, RpiwdTrigger.released]

theorem unloadLoop_eq (table : Fin CONFIG_MAX_TRIGGERS → RpiwdTrigger) :
    ∀ n, n ≤ CONFIG_MAX_TRIGGERS → unloadLoop n table =
      if ∀ i, i.val < n → Freeable (table i) then
        .ok fun i => if i.val < n then (table i).released else table i
      else .error .doubleFree
  | 0, _ => by simp [unloadLoop]
  | n + 1, hn => by
    have hlt : n < CONFIG_MAX_TRIGGERS := hn
    rw [unloadLoop, unloadLoop_eq table n (by omega)]
    by_cases hall : ∀ i, i.val < n → Freeable (table i)
    · rw [if_pos hall]
      simp only [Except.bind, hlt, dite_true, Nat.lt_irrefl, if_false]
      rw [freeSlot_eq]
      by_cases hf : Freeable (table ⟨n, hlt⟩)
      · have hall' : ∀ i, i.val < n + 1 → Freeable (table i) := by
          intro i hi
          rcases Nat.lt_succ_iff_lt_or_eq.mp hi with h | h
          · exact hall i h
          · exact (Fin.ext h : i = ⟨n, hlt⟩) ▸ hf
        rw [if_pos hf, if_pos hall']
        simp only [Except.map, Except.ok.injEq]
        funext i
        by_cases hi : i = ⟨n, hlt⟩
        · subst hi
          simp
        · have hne : i.val ≠ n := fun h => hi (Fin.ext h)
          rw [Function.update_of_ne hi]
          simp only [show i.val < n + 1 ↔ i.val < n by omega]
      · rw [if_neg hf, if_neg fun h => hf (h _ (Nat.lt_succ_self n))]
        rfl
    · rw [if_neg hall, if_neg fun h => hall fun i hi => h i (by omega)]
      rfl

theorem Triggers.slot_of_lt (st : Triggers) {i : Nat} (h : i < CONFIG_MAX_TRIGGERS) :
    st.slot i = st.table ⟨i, h⟩ := dif_pos h

/-- The first lines of `load_triggers`: the table is emptied, unless that
frees a string twice. -/
theorem unload_eq (st : Triggers) :
    (if 0 < st.count then unloadTriggers st else .ok st) =
      if ∀ i < st.count, Freeable (st.slot i) then .ok st.emptied else .error .doubleFree := by
  have hslots : (∀ i < st.count, Freeable (st.slot i)) ↔
      ∀ i : Fin CONFIG_MAX_TRIGGERS, i.val < st.count → Freeable (st.table i) := by
    constructor
    · intro h i hi
      rw [← st.slot_of_lt i.isLt]
      exact h i hi
    · intro h i hi
      have hlt := Nat.lt_of_lt_of_le hi st.bound
      rw [st.slot_of_lt hlt]
      exact h ⟨i, hlt⟩ hi
  simp only [hslots]
  unfold unloadTriggers
  rw [unloadLoop_eq st.table st.count st.bound]
  by_cases hc : 0 < st.count
  · rw [if_pos hc]
    split <;> rfl
  · have h0 : st.count = 0 := by omega
    rw [if_neg hc, if_pos (fun i hi => absurd hi (by omega))]
    obtain ⟨table, count, errno, bound⟩ := st
    simp only at h0
    subst h0
    simp [Triggers.emptied]

theorem unloadTriggers_ok {st st' : Triggers} (h : unloadTriggers st = .ok st') :
    st' = st.emptied := by
  unfold unloadTriggers at h
  rw [unloadLoop_eq st.table st.count st.bound] at h
  split at h
  · cases h
    rfl
  · cases h

theorem emptied_slot (st : Triggers) (i : Nat) :
    st.emptied.slot i = if i < st.count then (st.slot i).released else st.slot i := by
  unfold Triggers.slot Triggers.emptied
  by_cases h : i < CONFIG_MAX_TRIGGERS
  · simp only [h, dite_true]
  · have := st.bound
    simp only [h, dite_false, show ¬ i < st.count by omega, if_false]

theorem emptied_valueUnit (st : Triggers) (i : Nat) :
    (st.emptied.slot i).valueUnit = (st.slot i).valueUnit := by
  rw [emptied_slot]
  split <;> rfl

theorem emptied_args (st : Triggers) (i : Nat) :
    (st.emptied.slot i).args = .null ↔ (st.slot i).args = .null := by
  rw [emptied_slot]
  split
  · show (st.slot i).args.released = .null ↔ _
    cases (st.slot i).args <;> simp [StrPtr.released]
  · rfl

/-! ## The live triggers of a load -/

/-- The triggers of a file read into the zero-initialised table. -/
def contents (file : Bytes) : List (Fields × Bytes) × Option Fault := reading (getlines file) 0 0

theorem loadTriggers_live (st : Triggers) (file : Bytes) :
    (loadTriggers st (some file)).map (·.triggers.live) =
      if ∀ i < st.count, Freeable (st.slot i) then
        outcome (reading (getlines file) 0 st.errno) fun acc =>
          acc.mapIdx fun i p => p.1.fill p.2 (st.emptied.slot i)
      else .error .doubleFree := by
  unfold loadTriggers
  rw [unload_eq]
  split
  · have h := loadLoop_live (getlines file) st.emptied
    simp only [emptied_live, emptied_count, emptied_errno, List.nil_append, Nat.zero_add] at h
    rw [← h]
    simp only [Except.bind]
    cases loadLoop (getlines file) st.emptied <;> rfl
  · rfl

theorem loadTriggers_none (st : Triggers) :
    (loadTriggers st none).map (·.triggers.live) =
      if ∀ i < st.count, Freeable (st.slot i) then .ok [] else .error .doubleFree := by
  unfold loadTriggers
  rw [unload_eq]
  split <;> rfl

theorem zero_slot (i : Nat) : Triggers.zero.slot i = .zero := by
  unfold Triggers.slot Triggers.zero
  split <;> rfl

theorem zero_freeable : ∀ i < Triggers.zero.count, Freeable (Triggers.zero.slot i) :=
  fun i hi => absurd hi (Nat.not_lt_zero i)

theorem loadTriggers_zero (file : Bytes) :
    (loadTriggers .zero (some file)).map (·.triggers.live) =
      outcome (contents file) fun acc => acc.mapIdx fun _ p => p.1.fill p.2 .zero := by
  rw [loadTriggers_live, if_pos zero_freeable]
  simp only [emptied_slot, zero_slot]
  rfl

/-! ## When nothing shows -/

/-- Filling is injective in what the line leaves open. -/
theorem mapIdx_fill_iff (acc : List (Fields × Bytes)) (htgt : ∀ p ∈ acc, p.1.target.isSome)
    (slots : Nat → RpiwdTrigger) :
    (acc.mapIdx fun i p => p.1.fill p.2 (slots i)) =
        (acc.mapIdx fun _ p => p.1.fill p.2 .zero) ↔
      ∀ i p, acc[i]? = some p →
        (p.1.unit.isSome ∨ (slots i).valueUnit = 0) ∧ (p.1.args.isSome ∨ (slots i).args = .null) := by
  constructor
  · intro h i p hp
    have hi := congrArg (·[i]?) h
    simp only [List.getElem?_mapIdx, hp, Option.map_some, Option.some.injEq] at hi
    exact (Fields.fill_eq_iff (htgt p (List.mem_of_getElem? hp))).mp hi
  · intro h
    apply List.ext_getElem?
    intro i
    simp only [List.getElem?_mapIdx]
    cases hp : acc[i]? with
    | none => rfl
    | some p =>
      exact congrArg some ((Fields.fill_eq_iff (htgt p (List.mem_of_getElem? hp))).mpr (h i p hp))

/-- Two reads of the same lines both end well and make the same of the
triggers. -/
theorem outcome_alike_iff {α β : Type} {r : List α × Option Fault} {f g : List α → β} :
    (∃ b, outcome r f = .ok b ∧ outcome r g = .ok b) ↔ r.2 = none ∧ f r.1 = g r.1 := by
  unfold outcome
  cases r.2 with
  | some e => simp
  | none => simp [eq_comm]

/-- `errno` does not show in what is read from a file. -/
def ReadsAlike (errno : Errno) (file : Bytes) : Prop :=
  errno = ERANGE → ∀ p ∈ (contents file).1, p.1.number.isZero = false

theorem ReadsAlike.reading {errno : Errno} {file : Bytes} (h : ReadsAlike errno file) :
    reading (getlines file) 0 errno = contents file := by
  by_cases he : errno = ERANGE
  · rw [he]
    exact reading_erange (h he)
  · exact reading_errno he (by decide)

/-- If it does, fewer triggers are live. -/
theorem outcome_ne_of_not_readsAlike {errno : Errno} {file : Bytes} (h : ¬ ReadsAlike errno file)
    (f g : Nat → Fields × Bytes → RpiwdTrigger) :
    outcome (reading (getlines file) 0 errno) (·.mapIdx f) ≠ outcome (contents file) (·.mapIdx g) := by
  unfold ReadsAlike at h
  rw [Classical.not_imp] at h
  obtain ⟨hnone, hlt⟩ := reading_erange_stops h.2
  rw [h.1]
  unfold outcome
  rw [hnone]
  intro heq
  cases hend : (contents file).2 with
  | some fault =>
    rw [hend] at heq
    cases heq
  | none =>
    rw [hend] at heq
    have hlen := congrArg List.length (Except.ok.inj heq)
    rw [List.length_mapIdx, List.length_mapIdx] at hlen
    exact Nat.ne_of_lt hlt hlen

/-- The load returns, with the live triggers that it gives in the
zero-initialised table. -/
def LoadsAlike (st : Triggers) (file : Option Bytes) : Prop :=
  ∃ live, (loadTriggers st file).map (·.triggers.live) = .ok live ∧
    (loadTriggers .zero file).map (·.triggers.live) = .ok live

/-- A load of `file` in the state `st` shows nothing of the past: no string
is freed twice; the file itself is read to its end without a fault; a pending
`ERANGE` meets no value of zero; and a line that lacks a unit or arguments
falls into a slot that has none. -/
def CleanTable (st : Triggers) (file : Option Bytes) : Prop :=
  (∀ i < st.count, (st.slot i).args ≠ .freed) ∧
    ∀ f ∈ file, (contents f).2 = none ∧ ReadsAlike st.errno f ∧
      ∀ i p, (contents f).1[i]? = some p →
        (p.1.unit.isSome ∨ (st.slot i).valueUnit = 0) ∧
        (p.1.args.isSome ∨ (st.slot i).args = .null)

/-- No live trigger has a target that was freed. -/
def TargetsLive (st : Triggers) : Prop := ∀ i < st.count, (st.slot i).target ≠ .freed

/-- **The exact condition**, for a table whose live triggers have targets. -/
theorem loadsAlike_iff {st : Triggers} (htgt : TargetsLive st) (file : Option Bytes) :
    LoadsAlike st file ↔ CleanTable st file := by
  have hfree : (∀ i < st.count, Freeable (st.slot i)) ↔ ∀ i < st.count, (st.slot i).args ≠ .freed :=
    ⟨fun h i hi => (h i hi).1, fun h i hi => ⟨h i hi, htgt i hi⟩⟩
  unfold LoadsAlike CleanTable
  rw [← hfree]
  cases file with
  | none =>
    rw [loadTriggers_none, loadTriggers_none, if_pos zero_freeable]
    by_cases hf : ∀ i < st.count, Freeable (st.slot i)
    · rw [if_pos hf]
      exact iff_of_true ⟨_, rfl, rfl⟩ ⟨hf, fun f h => nomatch h⟩
    · rw [if_neg hf]
      exact iff_of_false (fun ⟨_, h, _⟩ => nomatch h) fun h => hf h.1
  | some f =>
    rw [loadTriggers_live, loadTriggers_zero]
    simp only [Option.mem_def, Option.some.injEq, forall_eq']
    by_cases hf : ∀ i < st.count, Freeable (st.slot i)
    · rw [if_pos hf]
      by_cases halike : ReadsAlike st.errno f
      · -- the same triggers are read; what is left are the slots they fall into
        have hslots := mapIdx_fill_iff (contents f).1 (fun p hp => reading_target hp)
          st.emptied.slot
        simp only [emptied_valueUnit, emptied_args] at hslots
        rw [halike.reading, outcome_alike_iff, hslots]
        exact ⟨fun h => ⟨hf, h.1, halike, h.2⟩, fun h => ⟨h.2.1, h.2.2.2⟩⟩
      · refine iff_of_false ?_ fun h => halike h.2.2.1
        rintro ⟨live, hst, hzero⟩
        exact outcome_ne_of_not_readsAlike halike _ _ (hst.trans hzero.symm)
    · rw [if_neg hf]
      exact iff_of_false (fun ⟨_, h, _⟩ => nomatch h) fun h => hf h.1

/-! ## Histories -/

/-- Earlier calls: loads of any files, unloads, and whatever other calls of
the thread leave in `errno`. -/
inductive TriggerCall where
  | load (file : Option Bytes)
  | unload
  | other (errno : Errno)

def TriggerCall.run (st : Triggers) : TriggerCall → Except Fault Triggers
  | .load file => (loadTriggers st file).map (·.triggers)
  | .unload => unloadTriggers st
  | .other errno => .ok { st with errno := errno }

/-- The state after a sequence of calls from program start. -/
def afterCalls (calls : List TriggerCall) : Except Fault Triggers :=
  calls.foldlM TriggerCall.run .zero

/-- A property of the table that every call keeps: emptying the table, a line
that is accepted, a line that is rejected half-way, and whatever happens to
`errno`. -/
structure TableInvariant (I : Triggers → Prop) : Prop where
  emptied : ∀ st, I st → I st.emptied
  push : ∀ (st : Triggers) (hc : st.count < CONFIG_MAX_TRIGGERS) (f : Fields) (type : Bytes)
    (e : Errno), I st → f.Accepted st.errno → I (st.push hc (f.fill type (st.slot st.count)) e)
  put : ∀ (st : Triggers) (hc : st.count < CONFIG_MAX_TRIGGERS) (f : Fields) (type : Bytes)
    (e : Errno), I st → Rejects (parseFields f type (st.slot st.count) st.errno).1 →
      I (st.put hc (parseFields f type (st.slot st.count) st.errno).2.1 e)
  errno : ∀ (st : Triggers) (e : Errno), I st → I { st with errno := e }

namespace TableInvariant
variable {I : Triggers → Prop}

theorem loop (hI : TableInvariant I) : ∀ {lines : List Bytes} {st : Triggers} {r : Loaded},
    I st → loadLoop lines st = .ok r → I r.triggers
  | [], st, r, hst, h => by
    cases h
    exact hst
  | line :: rest, st, r, hst, h => by
    rw [loadLoop_cons] at h
    split at h
    · cases h
    · exact loop hI hst h
    · rename_i f type _
      split at h
      · rename_i hc
        split at h
        · rename_i hacc
          exact loop hI (hI.push st hc f type _ hst hacc) h
        · rename_i hacc
          cases h
          rcases parseFields_cases f type (st.slot st.count) st.errno with ⟨hacc', -⟩ | ⟨-, hrej⟩
          · exact absurd hacc' hacc
          · exact hI.put st hc f type _ hst hrej
      · cases h

theorem load (hI : TableInvariant I) {st : Triggers} {file : Option Bytes} {r : Loaded}
    (hst : I st.emptied) (h : loadTriggers st file = .ok r) : I r.triggers := by
  unfold loadTriggers at h
  rw [unload_eq] at h
  obtain ⟨st', hst', h⟩ := bind_ok h
  split at hst'
  · cases hst'
    cases file with
    | none =>
      cases h
      exact hst
    | some f =>
      obtain ⟨r', hr', rfl⟩ := map_ok h
      have hloop := hI.loop hst hr'
      exact hloop
  · cases hst'

theorem call (hI : TableInvariant I) {st st' : Triggers} {c : TriggerCall} (hst : I st)
    (h : c.run st = .ok st') : I st' := by
  cases c with
  | load file =>
    obtain ⟨r, hr, rfl⟩ := map_ok h
    exact hI.load (hI.emptied st hst) hr
  | unload =>
    rw [unloadTriggers_ok h]
    exact hI.emptied st hst
  | other e =>
    cases h
    exact hI.errno st e hst

theorem calls (hI : TableInvariant I) : ∀ {calls : List TriggerCall} {st st' : Triggers},
    I st → calls.foldlM TriggerCall.run st = .ok st' → I st'
  | [], _, _, hst, h => by
    cases h
    exact hst
  | c :: rest, st, st', hst, h => by
    rw [List.foldlM_cons] at h
    obtain ⟨s, hs, h⟩ := bind_ok h
    exact calls hI (hI.call hst hs) h

/-- **The rule.** It holds after any calls if it holds at program start. -/
theorem afterCalls (hI : TableInvariant I) (hzero : I .zero) {calls : List TriggerCall}
    {st : Triggers} (h : Rpiweatherd.afterCalls calls = .ok st) : I st :=
  hI.calls hzero h

end TableInvariant

theorem targetsLive_emptied (st : Triggers) : TargetsLive st.emptied :=
  fun i hi => absurd hi (Nat.not_lt_zero i)

theorem fill_target {f : Fields} (h : f.target.isSome) (type : Bytes) (s : RpiwdTrigger) :
    (f.fill type s).target ≠ .freed := by
  obtain ⟨t, ht⟩ := Option.isSome_iff_exists.mp h
  simp [Fields.fill, ht]

theorem targetsLive_invariant : TableInvariant TargetsLive where
  emptied := fun st _ => targetsLive_emptied st
  push := by
    intro st hc f type e hst hacc i hi
    rw [st.push_slot]
    split
    · exact fill_target hacc.target _ _
    · apply hst i
      have : i < st.count + 1 := hi
      omega
  put := by
    intro st hc f type e hst _ i hi
    have hlt : i < st.count := hi
    rw [st.put_slot, if_neg (Nat.ne_of_lt hlt)]
    exact hst i hlt
  errno := fun _ _ hst => hst

theorem targetsLive_load {st : Triggers} {file : Option Bytes} {r : Loaded}
    (h : loadTriggers st file = .ok r) : TargetsLive r.triggers :=
  targetsLive_invariant.load (targetsLive_emptied st) h

/-- One call keeps the targets of live triggers live. -/
theorem targetsLive_call {st st' : Triggers} {c : TriggerCall} (hst : TargetsLive st)
    (h : c.run st = .ok st') : TargetsLive st' := targetsLive_invariant.call hst h

theorem targetsLive_afterCalls {calls : List TriggerCall} {st : Triggers}
    (h : afterCalls calls = .ok st) : TargetsLive st :=
  targetsLive_invariant.afterCalls (fun i hi => absurd hi (Nat.not_lt_zero i)) h

/-- **Loading after any history.** Whatever was loaded and unloaded before,
`load_triggers` returns and leaves the live triggers it would leave in the
zero-initialised table exactly when the table it finds is clean for the file. -/
theorem load_history_iff (calls : List TriggerCall) (st : Triggers) (file : Option Bytes)
    (h : afterCalls calls = .ok st) : LoadsAlike st file ↔ CleanTable st file :=
  loadsAlike_iff (targetsLive_afterCalls h) file

theorem load_history_same_file :
    ∃ st, afterCalls [.load (some (ascii "%temp% > 5f exec /bin/a x\n"))] = .ok st ∧
      CleanTable st (some (ascii "%temp% > 5f exec /bin/a x\n")) := by
  have hrun : (afterCalls [.load (some (ascii "%temp% > 5f exec /bin/a x\n"))]).map (fun _ => ()) =
      .ok () := by decide +kernel
  have hlive : ((afterCalls [.load (some (ascii "%temp% > 5f exec /bin/a x\n"))]).bind fun st =>
      (loadTriggers st (some (ascii "%temp% > 5f exec /bin/a x\n"))).map (·.triggers.live)) =
      (loadTriggers .zero (some (ascii "%temp% > 5f exec /bin/a x\n"))).map (·.triggers.live) := by
    decide +kernel
  have hzero : (loadTriggers .zero (some (ascii "%temp% > 5f exec /bin/a x\n"))).map (fun _ => ()) =
      .ok () := by decide +kernel
  obtain ⟨st, hst, -⟩ := map_ok hrun
  obtain ⟨r, hr, -⟩ := map_ok hzero
  rw [hst, hr] at hlive
  exact ⟨st, hst, (load_history_iff _ st _ hst).mp ⟨_, hlive, by rw [hr]; rfl⟩⟩

/-- After a trigger with a unit and arguments, one without shows the unit and
the freed arguments of its predecessor. -/
theorem load_history_stale :
    ∃ st, afterCalls [.load (some (ascii "%temp% > 5f exec /bin/a x\n"))] = .ok st ∧
      (loadTriggers st (some (ascii "%temp% > 5 exec /bin/a\n"))).map
        (·.triggers.live.map fun t => (t.valueUnit, t.args)) = .ok [(102, .freed)] ∧
      (loadTriggers .zero (some (ascii "%temp% > 5 exec /bin/a\n"))).map
        (·.triggers.live.map fun t => (t.valueUnit, t.args)) = .ok [(0, .null)] ∧
      ¬ LoadsAlike st (some (ascii "%temp% > 5 exec /bin/a\n")) := by
  have hrun : ((afterCalls [.load (some (ascii "%temp% > 5f exec /bin/a x\n"))]).bind fun st =>
      (loadTriggers st (some (ascii "%temp% > 5 exec /bin/a\n"))).map
        (·.triggers.live.map fun t => (t.valueUnit, t.args))) = .ok [(102, .freed)] := by
    decide +kernel
  have hzero : (loadTriggers .zero (some (ascii "%temp% > 5 exec /bin/a\n"))).map
      (·.triggers.live.map fun t => (t.valueUnit, t.args)) = .ok [(0, .null)] := by
    decide +kernel
  obtain ⟨st, hst, hload⟩ := bind_ok hrun
  refine ⟨st, hst, hload, hzero, fun ⟨live, hlive, hlive'⟩ => ?_⟩
  -- equal live triggers would have equal units
  obtain ⟨r, hr, hunits⟩ := map_ok hload
  obtain ⟨r', hr', hunits'⟩ := map_ok hzero
  rw [hr] at hlive
  rw [hr'] at hlive'
  have hsame : r.triggers.live = r'.triggers.live :=
    Except.ok.inj (hlive.trans hlive'.symm)
  rw [hsame, hunits'] at hunits
  exact absurd hunits (by decide)

end Rpiweatherd
