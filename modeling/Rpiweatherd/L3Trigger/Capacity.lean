import Rpiweatherd.L3Trigger.History

/-!
# Any file into sixteen slots (`src/trigger.c:276-309`)

`load_triggers` parses every line straight into the slot at the running
count, without comparing the count with the size of the table. A line without
any token makes `parse_trigger` read through NULL before it looks at anything
else; that is a last line of blanks without a newline, or a NUL byte behind
blanks. For a line it rejects, the message is looked up at the flag itself,
and no flag of `parse_trigger` is an index of the table.

`survey` is what a file says, without a table: the accepted lines up to the
first one that is not. `loadLoop_ending` derives from it how a load ends;
`load_respects_table_iff` and `malformed_reported_iff` are read off there.
-/
namespace Rpiweatherd

/-! ## What a file says -/

/-- The lines that are triggers, up to the first line that is neither a
trigger nor a comment, and that line. -/
structure Survey where
  accepted : List (Fields × Bytes)
  rejected : Option Bytes

def survey : List Bytes → Errno → Survey
  | [], _ => ⟨[], none⟩
  | line :: rest, e =>
    match readLine line with
    | .blank => ⟨[], some line⟩
    | .comment => survey rest e
    | .trigger f type =>
      if f.Accepted e then
        let s := survey rest (f.errnoAfter e)
        ⟨(f, type) :: s.accepted, s.rejected⟩
      else ⟨[], some line⟩

/-- Reading that meets no fault reads the triggers of the survey. -/
theorem reading_eq_survey : ∀ {lines : List Bytes} {n : Nat} {e : Errno},
    (reading lines n e).2 = none → (reading lines n e).1 = (survey lines e).accepted
  | [], _, _, _ => rfl
  | line :: rest, n, e, h => by
    rw [reading] at h ⊢
    rw [survey]
    cases hl : readLine line with
    | blank => rfl
    | comment =>
      rw [hl] at h
      exact reading_eq_survey h
    | trigger f type =>
      rw [hl] at h
      simp only at h ⊢
      by_cases hn : n < CONFIG_MAX_TRIGGERS
      · by_cases hacc : f.Accepted e
        · simp only [hn, hacc, if_true] at h ⊢
          rw [reading_eq_survey h]
        · simp only [hn, hacc, if_true, if_false]
      · simp only [hn, if_false] at h
        cases h

/-! ## How the lines end -/

inductive Ending where
  | eof
  | rejected
  | nullToken
  | overrun
  deriving DecidableEq

/-- The end of a load that starts with `n` slots in use. -/
def ending (n : Nat) (s : Survey) : Ending :=
  if CONFIG_MAX_TRIGGERS < n + s.accepted.length then .overrun
  else
    match s.rejected with
    | none => .eof
    | some line =>
      if readLine line = .blank then .nullToken
      else if n + s.accepted.length < CONFIG_MAX_TRIGGERS then .rejected
      else .overrun

/-- What an end means; `eof` is the flag at the end of the file. A rejected line
is logged with a message from outside the table. -/
def Ending.Of (eof : Nat) : Ending → Except Fault Loaded → Prop
  | .eof, x => ∃ r, x = .ok r ∧ r.flag = eof
  | .rejected, x => ∃ r log, x = .ok r ∧ Rejects r.flag ∧ r.log = some log ∧ log.entry = none
  | .nullToken, x => x = .error .nullDeref
  | .overrun, x => x = .error .outOfBounds

theorem ending_first {n : Nat} (h : n ≤ CONFIG_MAX_TRIGGERS) (line : Bytes) :
    ending n ⟨[], some line⟩ =
      if readLine line = .blank then .nullToken
      else if n < CONFIG_MAX_TRIGGERS then .rejected else .overrun :=
  if_neg (Nat.not_lt.mpr h)

theorem ending_cons (n : Nat) (p : Fields × Bytes) (s : Survey) :
    ending n ⟨p :: s.accepted, s.rejected⟩ = ending (n + 1) s := by
  unfold ending
  rw [List.length_cons, Nat.add_right_comm, ← Nat.add_assoc]

/-! ## The message of a rejected line -/

theorem parseCondOp_ge (part : Option Bytes) : TRIGGER_PARSE_OK ≤ (parseCondOp part).1 := by
  unfold parseCondOp
  split
  · exact (by decide : TRIGGER_PARSE_OK ≤ TRIGGER_ERROR_COND_OP_SYNTAX)
  · split
    · split
      · exact (by decide : TRIGGER_PARSE_OK ≤ TRIGGER_ERROR_COND_UNKNOWN_OP)
      · exact Nat.le_refl _
    · exact (by decide : TRIGGER_PARSE_OK ≤ TRIGGER_ERROR_COND_OP_SYNTAX)

theorem parseCondValue_ge (part : Option Bytes) (old : FloatVal) (e : Errno) :
    TRIGGER_PARSE_OK ≤ (parseCondValue part old e).flag := by
  cases part with
  | none => exact (by decide : TRIGGER_PARSE_OK ≤ TRIGGER_ERROR_MISSING_VALUE)
  | some v =>
    rw [parseCondValue_some]
    split
    · exact Nat.le_refl _
    · exact (by decide : TRIGGER_PARSE_OK ≤ TRIGGER_ERROR_MALFORMED_VALUE)

theorem parseCondAction_ge (part : Option Bytes) : TRIGGER_PARSE_OK ≤ (parseCondAction part).1 := by
  unfold parseCondAction
  split
  · exact (by decide : TRIGGER_PARSE_OK ≤ TRIGGER_ERROR_MISSING_ACTION)
  · split
    · exact (by decide : TRIGGER_PARSE_OK ≤ TRIGGER_ERROR_UNKNOWN_ACTION)
    · exact Nat.le_refl _

theorem parseTail_ge (f : Fields) (t : RpiwdTrigger) : TRIGGER_PARSE_OK ≤ (parseTail f t).1 := by
  unfold parseTail
  dsimp only
  split
  · exact parseCondAction_ge f.action
  · split
    · exact (by decide : TRIGGER_PARSE_OK ≤ TRIGGER_ERROR_TARGET_MALFORMED)
    · split
      · exact (by decide : TRIGGER_PARSE_OK ≤ TRIGGER_ERROR_TARGET_MALFORMED)
      · split
        · exact (by decide : TRIGGER_PARSE_OK ≤ TRIGGER_ERROR_TARGET_NOT_NUMERIC)
        · split
          · exact (by decide : TRIGGER_PARSE_OK ≤ TRIGGER_ERROR_ARGUMENTS_NOT_NEEDED)
          · split <;> exact Nat.le_refl _

/-- The flags start at 100. -/
theorem parseFields_ge (f : Fields) (type : Bytes) (t : RpiwdTrigger) (e : Errno) :
    TRIGGER_PARSE_OK ≤ (parseFields f type t e).1 := by
  unfold parseFields
  dsimp only
  split
  · exact parseCondOp_ge f.op
  · split
    · exact parseCondValue_ge ..
    · exact parseTail_ge ..

/-- The table of messages has 21 entries. -/
theorem parseFields_message (f : Fields) (type : Bytes) (t : RpiwdTrigger) (e : Errno) :
    TRIGGER_PARSE_ERROR_STR[(parseFields f type t e).1]? = none := by
  have hlen : TRIGGER_PARSE_ERROR_STR.length ≤ TRIGGER_PARSE_OK := by decide
  exact List.getElem?_eq_none (hlen.trans (parseFields_ge f type t e))

/-- **The end of the loop** follows from the survey of its lines. -/
theorem loadLoop_ending (lines : List Bytes) : ∀ st : Triggers,
    (ending st.count (survey lines st.errno)).Of TRIGGER_ERROR_EOF (loadLoop lines st) := by
  induction lines with
  | nil =>
    intro st
    have hend : ending st.count (survey [] st.errno) = .eof := if_neg (Nat.not_lt.mpr st.bound)
    rw [hend]
    exact ⟨_, rfl, rfl⟩
  | cons line rest ih =>
    intro st
    rw [loadLoop_cons, survey]
    cases hl : readLine line with
    | blank =>
      simp only [ending_first st.bound, if_pos hl]
      rfl
    | comment => exact ih st
    | trigger f type =>
      simp only
      by_cases hacc : f.Accepted st.errno
      · simp only [if_pos hacc]
        rw [ending_cons]
        by_cases hc : st.count < CONFIG_MAX_TRIGGERS
        · rw [dif_pos hc]
          exact ih (st.push hc _ _)
        · have hend : ending (st.count + 1) (survey rest (f.errnoAfter st.errno)) = .overrun :=
            if_pos (by omega)
          rw [dif_neg hc, hend]
          rfl
      · have hnb : readLine line ≠ .blank := by
          intro hb
          cases hl.symm.trans hb
        simp only [if_neg hacc, ending_first st.bound, if_neg hnb]
        by_cases hc : st.count < CONFIG_MAX_TRIGGERS
        · have hrej := (parseFields_cases f type (st.slot st.count) st.errno).resolve_left
            fun h => hacc h.1
          rw [dif_pos hc, if_pos hc]
          exact ⟨_, _, rfl, hrej.2, rfl, parseFields_message ..⟩
        · rw [dif_neg hc, if_neg hc]
          rfl

/-! ## How a load ends -/

theorem loadTriggers_eq (st : Triggers) (file : Bytes) :
    loadTriggers st (some file) =
      if ∀ i < st.count, Freeable (st.slot i) then
        (loadLoop (getlines file) st.emptied).map fun r =>
          { r with flag := if r.flag = TRIGGER_ERROR_EOF then TRIGGER_PARSE_OK else r.flag }
      else .error .doubleFree := by
  unfold loadTriggers
  rw [unload_eq]
  split <;> rfl

/-- `load_triggers` counts the end of the file as a success. -/
theorem Ending.Of.load {last : Ending} {x : Except Fault Loaded}
    (h : last.Of TRIGGER_ERROR_EOF x) :
    last.Of TRIGGER_PARSE_OK (x.map fun r =>
      { r with flag := if r.flag = TRIGGER_ERROR_EOF then TRIGGER_PARSE_OK else r.flag }) := by
  cases last with
  | eof =>
    obtain ⟨r, rfl, hflag⟩ := h
    exact ⟨_, rfl, if_pos hflag⟩
  | rejected =>
    obtain ⟨r, log, rfl, hrej, hlog, hentry⟩ := h
    refine ⟨_, log, rfl, ?_, hlog, hentry⟩
    show Rejects (if r.flag = TRIGGER_ERROR_EOF then TRIGGER_PARSE_OK else r.flag)
    rw [if_neg hrej.2.2]
    exact hrej
  | nullToken => rw [show x = _ from h]; rfl
  | overrun => rw [show x = _ from h]; rfl

/-- **The end of a load** whose old triggers can be freed. -/
theorem loadTriggers_ending {st : Triggers} (hfree : ∀ i < st.count, Freeable (st.slot i))
    (file : Bytes) :
    (ending 0 (survey (getlines file) st.errno)).Of TRIGGER_PARSE_OK
      (loadTriggers st (some file)) := by
  rw [loadTriggers_eq, if_pos hfree]
  exact (loadLoop_ending (getlines file) st.emptied).load

/-! ## The table -/

/-- The zero-initialised table, with any `errno`. -/
def Triggers.fresh (e : Errno) : Triggers := { Triggers.zero with errno := e }

theorem fresh_emptied_slot (e : Errno) (i : Nat) : (Triggers.fresh e).emptied.slot i = .zero := by
  have hslot : (Triggers.fresh e).slot i = .zero := zero_slot i
  rw [emptied_slot, hslot]
  split <;> rfl

/-- What is asked of a load into the fresh table: it returns, the live slots
are the triggers before the first rejected line, as many as fit, and the flag
says whether there is such a line. -/
def RespectsTable (e : Errno) (file : Bytes) : Prop :=
  ∃ r, loadTriggers (.fresh e) (some file) = .ok r ∧
    r.triggers.live = ((survey (getlines file) e).accepted.take CONFIG_MAX_TRIGGERS).map
      (fun p => p.1.fill p.2 .zero) ∧
    (r.flag = TRIGGER_PARSE_OK ↔ (survey (getlines file) e).rejected = none)

theorem fresh_freeable (e : Errno) :
    ∀ i < (Triggers.fresh e).count, Freeable ((Triggers.fresh e).slot i) := zero_freeable

theorem loadTriggers_fresh_live {e : Errno} {file : Bytes} {r : Loaded}
    (h : loadTriggers (.fresh e) (some file) = .ok r) :
    r.triggers.live = (survey (getlines file) e).accepted.map fun p => p.1.fill p.2 .zero := by
  have hlive := loadTriggers_live (.fresh e) file
  rw [h, if_pos (fresh_freeable e)] at hlive
  unfold outcome at hlive
  cases hend : (reading (getlines file) 0 (Triggers.fresh e).errno).2 with
  | some fault =>
    rw [hend] at hlive
    cases hlive
  | none =>
    rw [hend] at hlive
    have hslots : r.triggers.live = _ := Except.ok.inj hlive
    rw [hslots, reading_eq_survey hend]
    simp only [fresh_emptied_slot]
    apply List.ext_getElem?
    intro i
    rw [List.getElem?_mapIdx, List.getElem?_map]
    rfl

/-- A load returns unless it meets a line without a token or runs out of
slots; the rejected line takes a slot too. -/
theorem ending_returns_iff (n : Nat) (s : Survey) :
    ending n s = .eof ∨ ending n s = .rejected ↔
      (∀ line ∈ s.rejected, readLine line ≠ .blank) ∧
        n + s.accepted.length + s.rejected.toList.length ≤ CONFIG_MAX_TRIGGERS := by
  unfold ending
  cases s.rejected with
  | none =>
    by_cases hlen : CONFIG_MAX_TRIGGERS < n + s.accepted.length
    · simp [hlen]
    · simp [hlen]
      omega
  | some line =>
    by_cases hlen : CONFIG_MAX_TRIGGERS < n + s.accepted.length
    · simp [hlen]
      omega
    · by_cases hb : readLine line = .blank
      · simp [hlen, hb]
      · by_cases hroom : n + s.accepted.length < CONFIG_MAX_TRIGGERS
        · simp [hlen, hb, hroom]
        · simp [hlen, hb, hroom]

theorem ending_eof_iff (n : Nat) (s : Survey) :
    ending n s = .eof ↔ s.rejected = none ∧ n + s.accepted.length ≤ CONFIG_MAX_TRIGGERS := by
  unfold ending
  by_cases hlen : CONFIG_MAX_TRIGGERS < n + s.accepted.length
  · simp [hlen]
  · cases s.rejected with
    | none => simp [hlen, Nat.not_lt.mp hlen]
    | some line =>
      by_cases hb : readLine line = .blank
      · simp [hlen, hb]
      · by_cases hroom : n + s.accepted.length < CONFIG_MAX_TRIGGERS
        · simp [hlen, hb, hroom]
        · simp [hlen, hb, hroom]

theorem ending_rejected {n : Nat} {s : Survey} (h : ending n s = .rejected) :
    s.rejected ≠ none := by
  intro hnone
  unfold ending at h
  rw [hnone] at h
  split at h <;> cases h

/-- **Loading respects the table** exactly for files whose first rejected
line, if there is one, has a token, and in which that line and the triggers
before it are at most sixteen. -/
theorem load_respects_table_iff (e : Errno) (file : Bytes) :
    RespectsTable e file ↔
      (∀ line ∈ (survey (getlines file) e).rejected, readLine line ≠ .blank) ∧
        (survey (getlines file) e).accepted.length +
          (survey (getlines file) e).rejected.toList.length ≤ CONFIG_MAX_TRIGGERS := by
  have hreturns := ending_returns_iff 0 (survey (getlines file) e)
  rw [Nat.zero_add] at hreturns
  rw [← hreturns]
  have hend : (ending 0 (survey (getlines file) e)).Of TRIGGER_PARSE_OK
      (loadTriggers (.fresh e) (some file)) := loadTriggers_ending (fresh_freeable e) file
  constructor
  · rintro ⟨r, hr, -⟩
    rw [hr] at hend
    cases hcase : ending 0 (survey (getlines file) e) with
    | eof => exact .inl rfl
    | rejected => exact .inr rfl
    | nullToken =>
      rw [hcase] at hend
      cases hend
    | overrun =>
      rw [hcase] at hend
      cases hend
  · intro hor
    have hlen := (hreturns.mp hor).2
    have hlive : ∀ r, loadTriggers (.fresh e) (some file) = .ok r → r.triggers.live =
        ((survey (getlines file) e).accepted.take CONFIG_MAX_TRIGGERS).map
          fun p => p.1.fill p.2 .zero := by
      intro r hr
      rw [List.take_of_length_le (by omega)]
      exact loadTriggers_fresh_live hr
    rcases hor with hcase | hcase
    · rw [hcase] at hend
      obtain ⟨r, hr, hflag⟩ := hend
      exact ⟨r, hr, hlive r hr, iff_of_true hflag ((ending_eof_iff 0 _).mp hcase).1⟩
    · rw [hcase] at hend
      obtain ⟨r, log, hr, hrej, -⟩ := hend
      exact ⟨r, hr, hlive r hr, iff_of_false hrej.1 (ending_rejected hcase)⟩

/-- Seventeen times the same trigger. -/
def seventeenLines : Bytes := (List.replicate 17 (ascii "%temp% > 1 exec a b\n")).flatten

theorem seventeen_lines_overrun : ¬ RespectsTable 0 seventeenLines := by
  rintro ⟨r, hr, -⟩
  have hfault : (loadTriggers (.fresh 0) (some seventeenLines)).map (fun _ => ()) =
      .error .outOfBounds := by decide +kernel
  rw [hr] at hfault
  cases hfault

/-! ## Messages -/

/-- What is asked of a load of any bytes: it returns, and the message for a
flag of `parse_trigger` is that flag's entry of the table. -/
def Reported (st : Triggers) (file : Bytes) : Prop :=
  ∃ r, loadTriggers st (some file) = .ok r ∧
    (Rejects r.flag → ∃ log msg, r.log = some log ∧ log.entry = some (r.flag, msg))

/-- No message is right, so a load must not come to one. -/
theorem reported_iff_eof {st : Triggers} {file : Bytes}
    (hfree : ∀ i < st.count, Freeable (st.slot i)) :
    Reported st file ↔ ending 0 (survey (getlines file) st.errno) = .eof := by
  have hend := loadTriggers_ending hfree file
  cases hcase : ending 0 (survey (getlines file) st.errno) with
  | eof =>
    rw [hcase] at hend
    obtain ⟨r, hr, hflag⟩ := hend
    exact iff_of_true ⟨r, hr, fun hrej => absurd hflag hrej.1⟩ rfl
  | rejected =>
    rw [hcase] at hend
    obtain ⟨r, log, hr, hrej, hlog, hentry⟩ := hend
    refine iff_of_false ?_ (by simp)
    rintro ⟨r', hr', hmessage⟩
    cases hr.symm.trans hr'
    obtain ⟨log', msg, hlog', hentry'⟩ := hmessage hrej
    obtain rfl : log = log' := Option.some.inj (hlog.symm.trans hlog')
    rw [hentry] at hentry'
    cases hentry'
  | nullToken =>
    rw [hcase] at hend
    refine iff_of_false ?_ (by simp)
    rintro ⟨r, hr, -⟩
    cases hr.symm.trans hend
  | overrun =>
    rw [hcase] at hend
    refine iff_of_false ?_ (by simp)
    rintro ⟨r, hr, -⟩
    cases hr.symm.trans hend

/-- **Malformed files are reported** exactly if the old triggers can be freed,
no line is rejected and the triggers of the file fit into the table. -/
theorem malformed_reported_iff (st : Triggers) (file : Bytes) :
    Reported st file ↔
      (∀ i < st.count, Freeable (st.slot i)) ∧
        (survey (getlines file) st.errno).rejected = none ∧
        (survey (getlines file) st.errno).accepted.length ≤ CONFIG_MAX_TRIGGERS := by
  by_cases hfree : ∀ i < st.count, Freeable (st.slot i)
  · rw [reported_iff_eof hfree, ending_eof_iff, Nat.zero_add, and_iff_right hfree]
  · refine iff_of_false ?_ fun h => hfree h.1
    rintro ⟨r, hr, -⟩
    rw [loadTriggers_eq, if_neg hfree] at hr
    cases hr

/-- An unknown operator: the message is looked up at 402. -/
theorem unknown_op_unreported : ¬ Reported .zero (ascii "%temp% ~ 20 exec a\n") := by
  rintro ⟨r, hr, hmessage⟩
  have hlog : (loadTriggers .zero (some (ascii "%temp% ~ 20 exec a\n"))).map
      (fun r => (r.flag, r.log)) = .ok (TRIGGER_ERROR_COND_UNKNOWN_OP, some ⟨1, none⟩) := by
    decide +kernel
  rw [hr] at hlog
  obtain ⟨hflag, hentry⟩ := Prod.mk.inj (Except.ok.inj hlog)
  obtain ⟨log, msg, hlog, hmsg⟩ := hmessage (by rw [hflag]; decide)
  rw [hentry] at hlog
  cases hlog
  cases hmsg

end Rpiweatherd
