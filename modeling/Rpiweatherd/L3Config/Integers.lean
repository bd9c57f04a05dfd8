import Rpiweatherd.L3Config.Config

/-!
# The integer settings (`src/confighandler.c:25-112`)

A number goes through `strtol`, which clamps it to `long`, into an `int`,
which keeps the low 32 bits. `parse_config_file` returns 0 for every
`CleanFile`, whatever its numbers are (`parseConfigFile_flag`), and
`integers_read_iff` says for which of them the settings are right: every
literal has to fit, and a later value that is no literal has to leave the
same `int` behind.
-/
namespace Rpiweatherd

/-! ## One number -/

/-- What an `int` holds after the clamped number `m` is stored in it. -/
def StoredAs (m n : Int) : Prop :=
  if LONG_MAX < m then n = -1
  else if m < LONG_MIN then n = 0
  else 2 ^ 32 ∣ m - n

theorem configInt_eq_iff {n : Int} (hn : InInt n) (value : Bytes) :
    configInt value = n ↔ StoredAs (leadingNumber value) n := by
  have hmax : toInt32 LONG_MAX = -1 := by decide +kernel
  have hmin : toInt32 LONG_MIN = 0 := by decide +kernel
  unfold configInt StoredAs
  rw [strtol_eq]
  split_ifs
  · rw [hmax, eq_comm]
  · rw [hmin, eq_comm]
  · exact toInt32_eq_iff hn

theorem storedAs_self {n : Int} (hn : InInt n) : StoredAs n n := by
  unfold InInt INT_MIN INT_MAX at hn
  unfold StoredAs LONG_MAX LONG_MIN
  rw [if_neg (by omega), if_neg (by omega), sub_self]
  exact dvd_zero _

/-! ## The settings -/

inductive IntSetting where
  | deviceConfig
  | commPort
  | numWorkerThreads

namespace IntSetting

def key : IntSetting → Bytes
  | deviceConfig => CONFIG_DEVICE_CONFIG
  | commPort => CONFIG_COMM_PORT
  | numWorkerThreads => CONFIG_NUM_WORKER_THREADS

def get (c : ConfStrct) : IntSetting → Int
  | deviceConfig => c.deviceConfig
  | commPort => c.commPort
  | numWorkerThreads => c.numWorkerThreads

/-- The literal a call gives for the setting. -/
def literal (x : IntSetting) (c : Ini.Call) : Option Int := (givenFor x.key c).bind literalValue

/-- The last one. -/
def lastLiteral (x : IntSetting) (cs : List Ini.Call) : Option Int := cs.reverse.findSome? x.literal

theorem get_parseConfigFile (x : IntSetting) (file : Option Bytes) (s : ConfigState) :
    x.get (parseConfigFile file s).1.current =
      ((lastValue x.key (fileCalls file)).map configInt).getD (x.get s.current) := by
  have hload : (parseConfigFile file s).1.current = (initCurrentConfig file s).1.current := rfl
  rw [hload, initCurrentConfig_eq]
  cases x with
  | deviceConfig => rfl
  | commPort => rfl
  | numWorkerThreads => rfl

/-- There is a last value if there is a literal, and it is the last literal
if it is one. -/
theorem lastValue_of_lastLiteral {x : IntSetting} {cs : List Ini.Call} {n : Int}
    (h : x.lastLiteral cs = some n) :
    ∃ value, lastValue x.key cs = some value ∧
      (literalValue value = none ∨ literalValue value = some n) := by
  unfold lastLiteral at h
  unfold lastValue
  generalize cs.reverse = calls at h ⊢
  induction calls with
  | nil => cases h
  | cons c calls ih =>
    rw [List.findSome?_cons, literal] at h
    rw [List.findSome?_cons]
    cases hgiven : givenFor x.key c with
    | none =>
      rw [hgiven] at h
      exact ih h
    | some value =>
      rw [hgiven, Option.bind_some] at h
      refine ⟨value, rfl, ?_⟩
      cases hliteral : literalValue value with
      | none => exact .inl rfl
      | some m =>
        rw [hliteral] at h
        exact .inr h

end IntSetting

/-- A load that returns 0 leaves the last literal of each setting, and a
literal that is no `int` is reported. -/
structure ReadsIntegers (file : Option Bytes) (s : ConfigState) : Prop where
  faithful : (parseConfigFile file s).2 = 0 → ∀ x : IntSetting,
    ∀ n ∈ x.lastLiteral (fileCalls file), x.get (parseConfigFile file s).1.current = n
  rejects : ∀ x : IntSetting, ∀ c ∈ fileCalls file, ∀ n ∈ x.literal c,
    ¬ InInt n → (parseConfigFile file s).2 ≠ 0

/-- **Integers.** The file is rejected for another reason, or every literal is
an `int`, and a last value that is no literal leaves the last literal. -/
theorem integers_read_iff (file : Option Bytes) (s : ConfigState) :
    ReadsIntegers file s ↔
      ¬ CleanFile file ∨ ∀ x : IntSetting,
        (∀ c ∈ fileCalls file, ∀ n ∈ x.literal c, InInt n) ∧
        ∀ value ∈ lastValue x.key (fileCalls file), literalValue value = none →
          ∀ n ∈ x.lastLiteral (fileCalls file), StoredAs (leadingNumber value) n := by
  have hlast : ∀ x : IntSetting, (∀ c ∈ fileCalls file, ∀ n ∈ x.literal c, InInt n) →
      ∀ n ∈ x.lastLiteral (fileCalls file), InInt n := by
    intro x hall n hn
    obtain ⟨c, hc, hliteral⟩ := List.exists_of_findSome?_eq_some hn
    exact hall c (List.mem_reverse.mp hc) n hliteral
  rw [← parseConfigFile_flag file s]
  constructor
  · rintro ⟨hfaithful, hrejects⟩
    refine or_iff_not_imp_left.mpr fun hflag x => ?_
    rw [not_not] at hflag
    have hfits : ∀ c ∈ fileCalls file, ∀ n ∈ x.literal c, InInt n := by
      intro c hc n hn
      by_contra hbig
      exact hrejects x c hc n hn hbig hflag
    refine ⟨hfits, fun value hvalue _ n hn => ?_⟩
    rw [← configInt_eq_iff (hlast x hfits n hn), ← hfaithful hflag x n hn,
      x.get_parseConfigFile, Option.mem_def.mp hvalue]
    rfl
  · intro hcond
    refine ⟨fun hflag x n hn => ?_, fun x c hc n hn hbig hflag => ?_⟩
    · obtain ⟨hfits, hother⟩ := hcond.resolve_left (not_not_intro hflag) x
      have hn' := hlast x hfits n hn
      obtain ⟨value, hvalue, hkind⟩ := IntSetting.lastValue_of_lastLiteral hn
      have hstored : StoredAs (leadingNumber value) n := by
        rcases hkind with hnone | hliteral
        · exact hother value hvalue hnone n hn
        · rw [leadingNumber_of_literal hliteral]
          exact storedAs_self hn'
      rw [x.get_parseConfigFile, hvalue]
      exact (configInt_eq_iff hn' value).mpr hstored
    · exact hbig ((hcond.resolve_left (not_not_intro hflag) x).1 c hc n hn)

/-- A port of 2^32 + 80. -/
def bigPortText : Bytes := ascii "comm_port=4294967376\n"

/-- It is the port 80, and no error. -/
theorem port_wraps :
    (parseConfigFile (some bigPortText) (.zero 0)).2 = 0 ∧
      (parseConfigFile (some bigPortText) (.zero 0)).1.current.commPort = 80 ∧
      ¬ ReadsIntegers (some bigPortText) (.zero 0) := by
  have hflag : (parseConfigFile (some bigPortText) (.zero 0)).2 = 0 := by decide +kernel
  have hport : (parseConfigFile (some bigPortText) (.zero 0)).1.current.commPort = 80 := by
    decide +kernel
  have hliteral : IntSetting.commPort.lastLiteral (fileCalls (some bigPortText)) =
      some 4294967376 := by decide +kernel
  refine ⟨hflag, hport, fun h => ?_⟩
  have heq := h.faithful hflag .commPort _ hliteral
  exact absurd (hport.symm.trans heq) (by decide)

end Rpiweatherd
