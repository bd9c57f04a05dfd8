import Rpiweatherd.L1Libc.Numeral

/-!
# Intervals and dates (`src/util.c`)

`rpiwd_units_to_milliseconds` reads `errno` without clearing it first, so
`errno` is an argument and a result here. It also looks one byte past the
unit character, which is one byte past the terminator when there is no unit:
`Platform.past` is that byte.

`strptime` and `mktime` belong to libc and to the zone of the machine; with
the clock they are taken from a `Platform`.
-/
namespace Rpiweatherd

/-- The fields of `struct tm` that `strptime` stores and `mktime` reads. -/
structure Tm where
  sec : Int
  min : Int
  hour : Int
  mday : Int
  mon : Int
  year : Int
  isdst : Int
  deriving DecidableEq, Repr

def Tm.zero : Tm := ⟨0, 0, 0, 0, 0, 0, 0⟩

/-- What the date functions get from outside. `strptime v f tm` is the
structure after the call and the unread rest, NULL on a mismatch;
`castUnsigned` is the conversion of an out-of-range `float` to
`unsigned int`, which C leaves undefined. -/
structure Platform where
  time : Int
  strptime : Bytes → Bytes → Tm → Tm × Option Bytes
  mktime : Tm → Int
  castUnsigned : FloatVal → Nat
  past : UInt8

def SUPPORTED_DATETIME_FORMATS : List Bytes := [ascii "%Y-%m-%d %H:%M", ascii "%Y-%m-%d"]

/-- Seconds per unit; `none` for an unknown or missing unit. -/
def unitSeconds (unit : UInt8) : Option Nat :=
  if unit = 115 then some 1
  else if unit = 109 then some 60
  else if unit = 104 then some (60 * 60)
  else if unit = 100 then some (60 * 60 * 24)
  else none

/-- `seconds *= count * 1000`: two products of `float`s. -/
def floatMillis (secs : Nat) (count : FloatVal) : FloatVal :=
  (count.times single 1000).times single secs

/-- `(unsigned int)x` -/
def Platform.toUnsigned (pf : Platform) : FloatVal → Nat
  | .num q => if -1 < q ∧ q < 2 ^ 32 then ⌊q⌋.toNat else pf.castUnsigned (.num q)
  | x => pf.castUnsigned x

/-- mirrors src/util.c:48-89 -/
def rpiwdUnitsToMilliseconds (pf : Platform) (errno : Errno) (unitstr : Bytes) : Nat × Errno :=
  let ptr := unitstr.dropWhile fun b => isdigit b || b = 46
  let unit := ptr.headD 0
  -- `*(ptr + 1)`
  let next : UInt8 := match ptr with
    | [] => pf.past
    | _ :: r => r.headD 0
  if next ≠ 0 then (0, errno)
  else match unitSeconds unit with
    | none => (0, errno)
    | some secs =>
      let count := strtof unitstr
      let errno := setErange ((strtod unitstr).1.range fltRange) errno
      if errno = ERANGE ∨ count = .num 0 then (0, errno)
      else (pf.toUnsigned (floatMillis secs count), errno)

/-- mirrors src/util.c:148-170 -/
def rpiwdUnitsToTimeT (pf : Platform) (errno : Errno) (unitstr : Bytes) (operation : Char) :
    Int × Errno :=
  let (millis, errno) := rpiwdUnitsToMilliseconds pf errno unitstr
  if millis = 0 then (0, errno)
  else match operation with
    | '+' => (pf.time + (millis / 1000 : Nat), errno)
    | '-' => (pf.time - (millis / 1000 : Nat), errno)
    | _ => (0, errno)

/-- The loop over the formats: each attempt works on the `struct tm` the one
before it left. -/
def tryFormats (pf : Platform) (value : Bytes) : List Bytes → Tm → Option Int
  | [], _ => none
  | f :: fs, tm =>
    match pf.strptime value f tm with
    | (tm', some _) => some (pf.mktime tm')
    | (tm', none) => tryFormats pf value fs tm'

/-- Returns the time, `*rdtn_performed` (true on entry) and `errno`.
mirrors src/util.c:173-200 -/
def normalizeDate (pf : Platform) (errno : Errno) (value : Bytes) : Int × Bool × Errno :=
  if value = ascii "now" then (pf.time, true, errno)
  else match tryFormats pf value SUPPORTED_DATETIME_FORMATS .zero with
    | some t => (t, false, errno)
    | none =>
      let (t, errno) := rpiwdUnitsToTimeT pf errno value '-'
      (t, true, errno)

/-! ## The role of `errno` -/

/-- Digits and points, then exactly one unit character: the texts whose
count is converted, and whose conversion looks at `errno`. -/
def hasUnit (unitstr : Bytes) : Bool :=
  match unitstr.dropWhile fun b => isdigit b || b = 46 with
  | [] => false
  | u :: r => r.headD 0 = 0 && (unitSeconds u).isSome

theorem rpiwdUnitsToMilliseconds_no_unit {s : Bytes} (h : hasUnit s = false) (pf : Platform)
    (e : Errno) : rpiwdUnitsToMilliseconds pf e s = (0, e) := by
  unfold hasUnit at h
  unfold rpiwdUnitsToMilliseconds
  cases hp : s.dropWhile fun b => isdigit b || b = 46 with
  | nil =>
    have h0 : unitSeconds 0 = none := by decide
    simp only [List.headD_nil, h0, ite_self]
  | cons u r =>
    rw [hp] at h
    simp only [List.headD_cons]
    by_cases hr : r.headD 0 = 0
    · simp only [hr, decide_true, Bool.true_and, Option.isSome_eq_false_iff,
        Option.isNone_iff_eq_none] at h
      simp only [hr, h, ne_eq, not_true_eq_false, if_false]
    · simp only [hr, ne_eq, not_false_eq_true, if_true]

/-- With a unit, the count is converted and `errno` looked at. -/
theorem rpiwdUnitsToMilliseconds_unit {s : Bytes} (h : hasUnit s = true) (pf : Platform) :
    ∃ secs, ∀ e, rpiwdUnitsToMilliseconds pf e s =
      if setErange ((strtod s).1.range fltRange) e = ERANGE ∨ strtof s = .num 0 then
        (0, setErange ((strtod s).1.range fltRange) e)
      else (pf.toUnsigned (floatMillis secs (strtof s)),
        setErange ((strtod s).1.range fltRange) e) := by
  unfold hasUnit at h
  unfold rpiwdUnitsToMilliseconds
  cases hp : s.dropWhile fun b => isdigit b || b = 46 with
  | nil => rw [hp] at h; cases h
  | cons u r =>
    rw [hp] at h
    simp only [Bool.and_eq_true, decide_eq_true_eq] at h
    obtain ⟨secs, hs⟩ := Option.isSome_iff_exists.mp h.2
    refine ⟨secs, fun e => ?_⟩
    simp only [h.1, List.headD_cons, hs, ne_eq, not_true_eq_false, if_false]

/-- A stale `ERANGE` makes every interval a zero. -/
theorem rpiwdUnitsToMilliseconds_erange {s : Bytes} (h : hasUnit s = true) (pf : Platform) :
    rpiwdUnitsToMilliseconds pf ERANGE s = (0, ERANGE) := by
  obtain ⟨secs, hs⟩ := rpiwdUnitsToMilliseconds_unit h pf
  simp only [hs, setErange_erange, true_or, if_true]

/-- Any other `errno` gives what a clear one gives; and `errno` changes only
when the result is zero. -/
theorem rpiwdUnitsToMilliseconds_clean {e : Errno} (he : e ≠ ERANGE) (pf : Platform) (s : Bytes) :
    (rpiwdUnitsToMilliseconds pf e s).1 = (rpiwdUnitsToMilliseconds pf 0 s).1 ∧
      ((rpiwdUnitsToMilliseconds pf e s).2 = e ∨ (rpiwdUnitsToMilliseconds pf e s).1 = 0) := by
  have h0 : (0 : Errno) ≠ ERANGE := by decide
  cases hu : hasUnit s with
  | false => simp only [rpiwdUnitsToMilliseconds_no_unit hu, true_or, and_self]
  | true =>
    obtain ⟨secs, hs⟩ := rpiwdUnitsToMilliseconds_unit hu pf
    simp only [hs]
    cases (strtod s).1.range fltRange with
    | true => simp only [setErange_true, true_or, if_true, or_true, and_self]
    | false =>
      simp only [setErange_false, he, h0, false_or]
      split <;> exact ⟨rfl, .inl rfl⟩

/-- `normalize_date` reads the value as an interval with a unit. -/
def readsErrno (pf : Platform) (value : Bytes) : Bool :=
  value ≠ ascii "now" && (tryFormats pf value SUPPORTED_DATETIME_FORMATS .zero).isNone &&
    hasUnit value

theorem normalizeDate_errno_free {pf : Platform} {value : Bytes} (h : readsErrno pf value = false)
    (e : Errno) :
    normalizeDate pf e value =
      ((normalizeDate pf 0 value).1, (normalizeDate pf 0 value).2.1, e) := by
  unfold normalizeDate
  by_cases hn : value = ascii "now"
  · simp [hn]
  · cases hf : tryFormats pf value SUPPORTED_DATETIME_FORMATS .zero with
    | some t => simp [hn]
    | none =>
      have hu : hasUnit value = false := by simpa [readsErrno, hn, hf] using h
      simp [hn, rpiwdUnitsToTimeT, rpiwdUnitsToMilliseconds_no_unit hu]

theorem normalizeDate_clean {e : Errno} (he : e ≠ ERANGE) (pf : Platform) (value : Bytes) :
    (normalizeDate pf e value).1 = (normalizeDate pf 0 value).1 ∧
      (normalizeDate pf e value).2.1 = (normalizeDate pf 0 value).2.1 ∧
      ((normalizeDate pf e value).2.2 = e ∨ (normalizeDate pf e value).1 = 0) := by
  unfold normalizeDate
  by_cases hn : value = ascii "now"
  · simp [hn]
  · cases tryFormats pf value SUPPORTED_DATETIME_FORMATS .zero with
    | some t => simp [hn]
    | none =>
      obtain ⟨h1, h2⟩ := rpiwdUnitsToMilliseconds_clean he pf value
      simp only [hn, if_false, rpiwdUnitsToTimeT, h1]
      by_cases hz : (rpiwdUnitsToMilliseconds pf 0 value).1 = 0
      · simp [hz]
      · have := h2.resolve_right (by rw [h1]; exact hz)
        simp [hz, this]

/-- Under a stale `ERANGE` such a value is the time zero, which the callback
takes for a bad one. -/
theorem normalizeDate_erange {pf : Platform} {value : Bytes} (h : readsErrno pf value = true) :
    normalizeDate pf ERANGE value = (0, true, ERANGE) := by
  simp only [readsErrno, Bool.and_eq_true, ne_eq, decide_eq_true_eq, Option.isNone_iff_eq_none] at h
  obtain ⟨⟨hn, hf⟩, hu⟩ := h
  simp [normalizeDate, hn, hf, rpiwdUnitsToTimeT, rpiwdUnitsToMilliseconds_erange hu]

/-- `errno` changes only when the time is zero. -/
theorem normalizeDate_errno {pf : Platform} {e : Errno} {value : Bytes}
    (h0 : (normalizeDate pf e value).1 ≠ 0) : (normalizeDate pf e value).2.2 = e := by
  by_cases he : e = ERANGE
  · subst he
    cases hr : readsErrno pf value with
    | true => exact absurd (congrArg Prod.fst (normalizeDate_erange hr)) h0
    | false => rw [normalizeDate_errno_free hr]
  · exact (normalizeDate_clean he pf value).2.2.resolve_right h0

end Rpiweatherd
