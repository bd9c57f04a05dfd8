import Rpiweatherd.L2Util.Dates

/-!
# Dates that are read in part (`src/util.c:19-23, 173-200`)

`strptime` reads its text directive by directive. A field is stored as soon as
it is matched, a blank of the format skips any number of blanks, and what is
left of the text behind the last directive is returned. How a number is read
is not fixed (`NumberReader`): implementations differ in the blanks, signs and
digits they take.

`normalize_date` does not look at the rest, and the attempt with the date
works on the `struct tm` the attempt with the date and time left.
`dates_read_whole_iff` says which values are read as a whole all the same.
-/
namespace Rpiweatherd

/-! ## `strptime` -/

inductive Directive where
  | number (c : UInt8)
  | blank
  | literal (b : UInt8)
  deriving DecidableEq, Repr

def directives : Bytes → List Directive
  | 37 :: c :: format => .number c :: directives format
  | b :: format => (if isspace b then .blank else .literal b) :: directives format
  | [] => []

/-- How the number of a conversion is read: its value and the rest. There is
no number without a digit or a sign. -/
structure NumberReader where
  read : UInt8 → Bytes → Option (Int × Bytes)
  starts : ∀ c s n rest, read c s = some (n, rest) →
    ∃ b t, s.dropWhile isspace = b :: t ∧ (isdigit b = true ∨ b = 43 ∨ b = 45)

/-- `%Y`, `%m`, `%d`, `%H` and `%M`. -/
def Tm.store (tm : Tm) (c : UInt8) (n : Int) : Tm :=
  if c = 89 then { tm with year := n - 1900 }
  else if c = 109 then { tm with mon := n - 1 }
  else if c = 100 then { tm with mday := n }
  else if c = 72 then { tm with hour := n }
  else if c = 77 then { tm with min := n }
  else tm

def Tm.storeAll (tm : Tm) (ns : List (UInt8 × Int)) : Tm :=
  ns.foldl (fun tm p => tm.store p.1 p.2) tm

def conversions (ds : List Directive) : List UInt8 :=
  ds.filterMap fun
    | .number c => some c
    | .blank => none
    | .literal _ => none

namespace NumberReader
variable (r : NumberReader)

def scan : List Directive → Bytes → Tm → Tm × Option Bytes
  | [], s, tm => (tm, some s)
  | .number c :: ds, s, tm =>
    match r.read c s with
    | none => (tm, none)
    | some (n, rest) => scan ds rest (tm.store c n)
  | .blank :: ds, s, tm => scan ds (s.dropWhile isspace) tm
  | .literal b :: ds, s, tm =>
    match s with
    | [] => (tm, none)
    | b' :: rest => if b' = b then scan ds rest tm else (tm, none)

def strptime (value format : Bytes) (tm : Tm) : Tm × Option Bytes :=
  r.scan (directives format) value tm

/-- A machine with this `strptime`. -/
def on (pf : Platform) : Platform := { pf with strptime := r.strptime }

end NumberReader

def DATETIME_FORMAT : Bytes := ascii "%Y-%m-%d %H:%M"
def DATE_FORMAT : Bytes := ascii "%Y-%m-%d"

/-! ## Reading the whole value -/

/-- The rest of the value behind the format. -/
def NumberReader.restOf (r : NumberReader) (format value : Bytes) : Option Bytes :=
  (r.strptime value format .zero).2

def NumberReader.MatchesAll (r : NumberReader) (format value : Bytes) : Prop :=
  r.restOf format value = some []

def Tm.midnight (tm : Tm) : Tm := { tm with sec := 0, min := 0, hour := 0 }

/-- The value as an interval, `now` being the empty one. -/
def relativeDate (pf : Platform) (errno : Errno) (value : Bytes) : Int × Bool × Errno :=
  if value = ascii "now" then (pf.time, true, errno)
  else
    let (t, errno) := rpiwdUnitsToTimeT pf errno value '-'
    (t, true, errno)

structure ReadsWhole (pf : Platform) (r : NumberReader) (errno : Errno) (value : Bytes) : Prop where
  /-- An absolute date matches one of the formats. -/
  absolute : (normalizeDate (r.on pf) errno value).2.1 = false →
    r.MatchesAll DATETIME_FORMAT value ∨ r.MatchesAll DATE_FORMAT value
  /-- A date without a time is its midnight. -/
  midnight : r.MatchesAll DATE_FORMAT value → ¬ r.MatchesAll DATETIME_FORMAT value →
    normalizeDate (r.on pf) errno value =
      (pf.mktime (r.strptime value DATE_FORMAT .zero).1.midnight, false, errno)
  /-- Anything else is relative. -/
  relative : ¬ r.MatchesAll DATETIME_FORMAT value → ¬ r.MatchesAll DATE_FORMAT value →
    normalizeDate (r.on pf) errno value = relativeDate pf errno value

namespace NumberReader
variable {r : NumberReader}

/-! ## Scanning -/

theorem read_nil (c : UInt8) : r.read c [] = none := by
  cases h : r.read c [] with
  | none => rfl
  | some p =>
    obtain ⟨b, t, hstart, -⟩ := r.starts c [] p.1 p.2 h
    cases hstart

theorem scan_append (ds ds' : List Directive) (s : Bytes) (tm : Tm) :
    r.scan (ds ++ ds') s tm =
      match r.scan ds s tm with
      | (tm', none) => (tm', none)
      | (tm', some rest) => r.scan ds' rest tm' := by
  fun_induction scan r ds s tm with
  | case1 s tm => rfl
  | case2 c ds s tm h => simp [scan, h]
  | case3 c ds s tm n rest h ih => simp [scan, h, ih]
  | case4 ds s tm ih => simp [scan, ih]
  | case5 b ds tm => simp [scan]
  | case6 b ds tm rest ih => simp [scan, ih]
  | case7 b ds tm b' rest hne => simp [scan, hne]

/-- Whether a text matches, and its rest, are not a matter of the `struct tm`. -/
theorem scan_rest (ds : List Directive) (s : Bytes) (tm tm' : Tm) :
    (r.scan ds s tm).2 = (r.scan ds s tm').2 := by
  fun_induction scan r ds s tm generalizing tm' with
  | case1 s tm => rfl
  | case2 c ds s tm h => simp [scan, h]
  | case3 c ds s tm n rest h ih => simp [scan, h, ih (tm'.store c n)]
  | case4 ds s tm ih => simp [scan, ih tm']
  | case5 b ds tm => simp [scan]
  | case6 b ds tm rest ih => simp [scan, ih tm']
  | case7 b ds tm b' rest hne => simp [scan, hne]

/-- A match stores the same numbers in any `struct tm`. -/
theorem scan_matched {ds : List Directive} {s rest : Bytes} {tm : Tm}
    (h : (r.scan ds s tm).2 = some rest) :
    ∃ ns : List (UInt8 × Int), ns.map Prod.fst = conversions ds ∧
      ∀ tm', r.scan ds s tm' = (tm'.storeAll ns, some rest) := by
  fun_induction scan r ds s tm with
  | case1 s tm =>
    cases h
    exact ⟨[], rfl, fun tm' => rfl⟩
  | case2 c ds s tm hread => cases h
  | case3 c ds s tm n s' hread ih =>
    obtain ⟨ns, hns, hscan⟩ := ih h
    refine ⟨(c, n) :: ns, by simp [conversions, hns], fun tm' => ?_⟩
    simp [scan, hread, hscan, Tm.storeAll]
  | case4 ds s tm ih =>
    obtain ⟨ns, hns, hscan⟩ := ih h
    exact ⟨ns, hns, fun tm' => by simp [scan, hscan]⟩
  | case5 b ds tm => cases h
  | case6 b ds tm s' ih =>
    obtain ⟨ns, hns, hscan⟩ := ih h
    exact ⟨ns, hns, fun tm' => by simp [scan, hscan]⟩
  | case7 b ds tm b' s' hne => cases h

/-! ## The two formats -/

/-- What the first format has behind the date. -/
def clock : List Directive := [.blank, .number 72, .literal 58, .number 77]

theorem directives_datetime : directives DATETIME_FORMAT = directives DATE_FORMAT ++ clock := by
  decide +kernel

theorem conversions_date : conversions (directives DATE_FORMAT) = [89, 109, 100] := by
  decide +kernel

/-- A date stores its three fields. -/
theorem strptime_date {value rest : Bytes} (h : r.restOf DATE_FORMAT value = some rest) :
    ∃ year mon mday, ∀ tm, r.strptime value DATE_FORMAT tm =
      ({ tm with year := year, mon := mon, mday := mday }, some rest) := by
  obtain ⟨ns, hns, hscan⟩ := scan_matched h
  rw [conversions_date] at hns
  match ns, hns with
  | [(_, y), (_, m), (_, d)], hns =>
    cases hns
    exact ⟨y - 1900, m - 1, d, hscan⟩

/-- The first format matches only where the second does. -/
theorem restOf_datetime (value : Bytes) :
    r.restOf DATETIME_FORMAT value =
      (r.restOf DATE_FORMAT value).bind fun rest => (r.scan clock rest .zero).2 := by
  unfold restOf strptime
  rw [directives_datetime, scan_append]
  cases hdate : r.scan (directives DATE_FORMAT) value .zero with
  | mk tm rest =>
    cases rest with
    | none => rfl
    | some rest => exact scan_rest clock rest tm .zero

/-- Behind a date that is all of the value, the attempt with the first format
stores nothing more. -/
theorem strptime_datetime_of_date {value : Bytes} (h : r.MatchesAll DATE_FORMAT value) :
    r.strptime value DATETIME_FORMAT .zero = ((r.strptime value DATE_FORMAT .zero).1, none) := by
  have hclock : ∀ tm, r.scan clock [] tm = (tm, none) := by
    intro tm
    simp [clock, scan, read_nil]
  unfold MatchesAll restOf at h
  unfold strptime at h ⊢
  rw [directives_datetime, scan_append]
  cases hdate : r.scan (directives DATE_FORMAT) value .zero with
  | mk tm rest =>
    rw [hdate] at h
    cases h
    exact hclock tm

/-- `now` is not a date. -/
theorem restOf_now : r.restOf DATE_FORMAT (ascii "now") = none := by
  have hdirectives : directives DATE_FORMAT =
      .number 89 :: (directives DATE_FORMAT).tail := by decide +kernel
  have hread : r.read 89 (ascii "now") = none := by
    cases h : r.read 89 (ascii "now") with
    | none => rfl
    | some p =>
      obtain ⟨b, t, hstart, hb⟩ := r.starts _ _ p.1 p.2 h
      have hnow : (ascii "now").dropWhile isspace = 110 :: ascii "ow" := by decide +kernel
      rw [hnow] at hstart
      cases hstart
      exact absurd hb (by decide)
  unfold restOf strptime
  rw [hdirectives, scan, hread]

/-! ## `normalize_date` -/

variable (pf : Platform) (e : Errno)

/-- The attempts with the two formats, one behind the other. -/
theorem normalizeDate_on {value : Bytes} (hnow : value ≠ ascii "now") :
    normalizeDate (r.on pf) e value =
      match r.strptime value DATETIME_FORMAT .zero with
      | (tm, some _) => (pf.mktime tm, false, e)
      | (tm, none) =>
        match r.strptime value DATE_FORMAT tm with
        | (tm', some _) => (pf.mktime tm', false, e)
        | (_, none) => relativeDate pf e value := by
  have hformats : SUPPORTED_DATETIME_FORMATS = [DATETIME_FORMAT, DATE_FORMAT] := rfl
  have htry : tryFormats (r.on pf) value SUPPORTED_DATETIME_FORMATS .zero =
      match r.strptime value DATETIME_FORMAT .zero with
      | (tm, some _) => some (pf.mktime tm)
      | (tm, none) =>
        match r.strptime value DATE_FORMAT tm with
        | (tm', some _) => some (pf.mktime tm')
        | (_, none) => none := by
    rw [hformats]
    rfl
  unfold normalizeDate relativeDate
  rw [if_neg hnow, if_neg hnow, htry]
  rcases r.strptime value DATETIME_FORMAT .zero with ⟨tm, _ | rest⟩
  · dsimp only
    rcases r.strptime value DATE_FORMAT tm with ⟨tm', _ | rest⟩
    · rfl
    · rfl
  · rfl

/-- A value that starts with a date is an absolute one. -/
theorem normalizeDate_absolute {value rest : Bytes} (hnow : value ≠ ascii "now")
    (hdate : r.restOf DATE_FORMAT value = some rest) :
    (normalizeDate (r.on pf) e value).2.1 = false := by
  obtain ⟨year, mon, mday, hstore⟩ := strptime_date hdate
  rw [normalizeDate_on pf e hnow]
  rcases r.strptime value DATETIME_FORMAT .zero with ⟨tm, _ | rest⟩
  · simp only [hstore]
  · rfl

/-- A value that is a date is its midnight. -/
theorem normalizeDate_midnight {value : Bytes} (hnow : value ≠ ascii "now")
    (hdate : r.MatchesAll DATE_FORMAT value) :
    normalizeDate (r.on pf) e value =
      (pf.mktime (r.strptime value DATE_FORMAT .zero).1.midnight, false, e) := by
  obtain ⟨year, mon, mday, hstore⟩ := strptime_date hdate
  rw [normalizeDate_on pf e hnow, strptime_datetime_of_date hdate]
  simp only [hstore]
  rfl

theorem normalizeDate_relative {value : Bytes} (hdate : r.restOf DATE_FORMAT value = none) :
    normalizeDate (r.on pf) e value = relativeDate pf e value := by
  by_cases hnow : value = ascii "now"
  · rw [hnow]
    rfl
  · have hdatetime : r.restOf DATETIME_FORMAT value = none := by
      rw [restOf_datetime, hdate]
      rfl
    unfold restOf at hdatetime hdate
    rw [normalizeDate_on pf e hnow]
    rcases hfirst : r.strptime value DATETIME_FORMAT .zero with ⟨tm, rest⟩
    rw [hfirst] at hdatetime
    cases hdatetime
    have hsecond : (r.strptime value DATE_FORMAT tm).2 = none :=
      (scan_rest _ value tm .zero).trans hdate
    rcases hlast : r.strptime value DATE_FORMAT tm with ⟨tm', rest⟩
    rw [hlast] at hsecond
    cases hsecond
    simp only [hlast]

theorem relativeDate_flag (value : Bytes) : (relativeDate pf e value).2.1 = true := by
  unfold relativeDate
  split <;> rfl

end NumberReader

/-- **A value is read as a whole** if it does not start with a date, is a
date, or is a date and a time. Of any other value the rest is dropped. -/
theorem dates_read_whole_iff (pf : Platform) (r : NumberReader) (e : Errno) (value : Bytes) :
    ReadsWhole pf r e value ↔
      r.restOf DATE_FORMAT value = none ∨ r.MatchesAll DATE_FORMAT value ∨
        r.MatchesAll DATETIME_FORMAT value := by
  have hnow : r.restOf DATE_FORMAT value ≠ none → value ≠ ascii "now" := by
    rintro hdate rfl
    exact hdate NumberReader.restOf_now
  constructor
  · intro h
    cases hdate : r.restOf DATE_FORMAT value with
    | none => exact .inl rfl
    | some rest =>
      have hvalue := hnow (hdate ▸ Option.some_ne_none rest)
      exact .inr (h.absolute (NumberReader.normalizeDate_absolute pf e hvalue hdate)).symm
  · rintro (hnone | hdate | hdatetime)
    · have hrelative := NumberReader.normalizeDate_relative pf e hnone
      refine ⟨fun habs => ?_, fun hdate => ?_, fun _ _ => hrelative⟩
      · rw [hrelative, NumberReader.relativeDate_flag] at habs
        cases habs
      · cases hnone.symm.trans hdate
    · have hvalue := hnow (hdate ▸ Option.some_ne_none [])
      exact ⟨fun _ => .inr hdate, fun _ _ => NumberReader.normalizeDate_midnight pf e hvalue hdate,
        fun _ hno => absurd hdate hno⟩
    · exact ⟨fun _ => .inl hdatetime, fun _ hno => absurd hdatetime hno,
        fun hno => absurd hdatetime hno⟩

/-! ## Two digits, four for a year -/

/-- The least and the greatest number of a conversion, and its digits. -/
def conversionRange (c : UInt8) : Nat × Nat × Nat :=
  if c = 89 then (0, 9999, 4)
  else if c = 109 then (1, 12, 2)
  else if c = 100 then (1, 31, 2)
  else if c = 72 then (0, 23, 2)
  else (0, 59, 2)

/-- Blanks, then as many digits as there may be. -/
def readNumber (c : UInt8) (s : Bytes) : Option (Int × Bytes) :=
  let (least, greatest, digits) := conversionRange c
  let t := s.dropWhile isspace
  let number := (t.takeWhile isdigit).take digits
  let n := digitsVal 10 number
  if number ≠ [] ∧ least ≤ n ∧ n ≤ greatest then some (n, t.drop number.length) else none

theorem readNumber_starts (c : UInt8) (s : Bytes) (n : Int) (rest : Bytes)
    (h : readNumber c s = some (n, rest)) :
    ∃ b t, s.dropWhile isspace = b :: t ∧ (isdigit b = true ∨ b = 43 ∨ b = 45) := by
  unfold readNumber at h
  dsimp only at h
  split at h
  · rename_i hnumber
    cases ht : s.dropWhile isspace with
    | nil =>
      rw [ht] at hnumber
      exact absurd List.take_nil hnumber.1
    | cons b t =>
      refine ⟨b, t, rfl, .inl ?_⟩
      by_contra hb
      rw [ht, List.takeWhile_cons_of_neg hb] at hnumber
      exact absurd List.take_nil hnumber.1
  · cases h

def plainReader : NumberReader := ⟨readNumber, readNumber_starts⟩

/-- The hour of a time that is cut short stays in the date. -/
theorem cut_time_is_kept :
    plainReader.restOf DATE_FORMAT (ascii "2017-01-01 12") = some (ascii " 12") ∧
    plainReader.restOf DATETIME_FORMAT (ascii "2017-01-01 12") = none ∧
    ∀ (pf : Platform) (e : Errno), normalizeDate (plainReader.on pf) e (ascii "2017-01-01 12") =
      (pf.mktime ⟨0, 0, 12, 1, 0, 117, 0⟩, false, e) :=
  ⟨by decide +kernel, by decide +kernel, fun _ _ => rfl⟩

end Rpiweatherd
