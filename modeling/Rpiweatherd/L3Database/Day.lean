import Rpiweatherd.L3Database.Windows

/-!
# `fetch on=D`

The value is a date without a time, so `strptime` refuses the first format
and takes the second, and `mktime` gives the local midnight of the day.
`DAY_START` rounds that towards zero to a multiple of a day, which is a
midnight of Greenwich, and the query adds the offset of the zone to it. The
window is right where these shifts cancel: `dayShift` is their sum, and it is
zero at Greenwich and, for one half of time each, twelve hours away
(`dayShift_eq_zero_iff`).
-/
namespace Rpiweatherd

/-- The epoch second at which the local day begins. -/
def localMidnight (utcoff : Int) (d : Date) : Int :=
  86400 * ((d.dayNumber : Int) - EPOCH_DAY) - utcoff

/-- `s` lies in the local day `d`. -/
def LocalDay (utcoff : Int) (d : Date) (s : Int) : Prop :=
  (s + utcoff) / 86400 + EPOCH_DAY = d.dayNumber

theorem localDay_iff (utcoff : Int) (d : Date) (s : Int) :
    LocalDay utcoff d s ↔
      localMidnight utcoff d ≤ s ∧ s ≤ localMidnight utcoff d + 86399 := by
  unfold LocalDay localMidnight
  omega

/-- What `strptime` and `mktime` document of a date: it does not match a
format that goes on with a time, and no field of the time is stored then; it
matches the format of a date; and the local time of its midnight is
converted with the offset of the zone. -/
structure ReadsDates (pf : Platform) (utcoff : Int) : Prop where
  mismatch : ∀ (d : Date) (tm : Tm), ∃ tm' : Tm,
    pf.strptime d.text (ascii "%Y-%m-%d %H:%M") tm = (tm', none) ∧
      tm'.sec = tm.sec ∧ tm'.min = tm.min ∧ tm'.hour = tm.hour ∧ tm'.isdst = tm.isdst
  date : ∀ (d : Date) (tm : Tm), pf.strptime d.text (ascii "%Y-%m-%d") tm =
    ({ tm with mday := d.day, mon := d.month - 1, year := d.year - 1900 }, some [])
  midnight : ∀ d : Date, pf.mktime ⟨0, 0, 0, d.day, d.month - 1, d.year - 1900, 0⟩ =
    localMidnight utcoff d

theorem Date.text_ne_now (d : Date) : d.text ≠ ascii "now" := by
  intro h
  have := congrArg List.length h
  rw [d.text_length] at this
  exact absurd this (by decide)

theorem normalizeDate_date {pf : Platform} {utcoff : Int} (h : ReadsDates pf utcoff) (d : Date)
    (errno : Errno) : normalizeDate pf errno d.text = (localMidnight utcoff d, false, errno) := by
  obtain ⟨tm, hmis, hs, hm, hh, hd⟩ := h.mismatch d .zero
  have hform : tryFormats pf d.text SUPPORTED_DATETIME_FORMATS .zero =
      some (localMidnight utcoff d) := by
    simp only [SUPPORTED_DATETIME_FORMATS, tryFormats, hmis, h.date, hs, hm, hh, hd]
    exact congrArg some (h.midnight d)
  simp only [normalizeDate, if_neg d.text_ne_now, hform]

/-! ## The three shifts -/

/-- How far the window of `on` lies behind the local day that begins at `m`. -/
def dayShift (utcoff m : Int) : Int := utcoff - m.tmod 86400

theorem dayStart_shift (utcoff m : Int) : dayStart m + utcoff = m + dayShift utcoff m := by
  unfold dayStart dayShift
  omega

theorem dayEnd_shift (utcoff m : Int) : dayEnd m + utcoff = m + 86399 + dayShift utcoff m := by
  unfold dayEnd dayShift
  omega

/-- The shifts cancel at Greenwich, twelve hours east of it after 1970 and
twelve hours west of it before. -/
theorem dayShift_eq_zero_iff {utcoff : Int} (hlo : -86400 < utcoff) (hhi : utcoff < 86400)
    (d : Date) :
    dayShift utcoff (localMidnight utcoff d) = 0 ↔
      utcoff = 0 ∨ utcoff = 43200 ∧ 0 < localMidnight utcoff d ∨
        utcoff = -43200 ∧ localMidnight utcoff d < 0 := by
  obtain ⟨k, hk⟩ : ∃ k : Int, localMidnight utcoff d = 86400 * k - utcoff := ⟨_, rfl⟩
  rw [hk]
  unfold dayShift
  -- C's remainder takes the sign of the dividend
  rcases Int.le_total 0 (86400 * k - utcoff) with hpos | hneg
  · rw [Int.tmod_eq_emod_of_nonneg hpos]
    omega
  · have htmod : (86400 * k - utcoff).tmod 86400 = -((-(86400 * k - utcoff)) % 86400) := by
      rw [← Int.tmod_eq_emod_of_nonneg (by omega), Int.neg_tmod, Int.neg_neg]
    rw [htmod]
    omega

/-- **`fetch on=D`** is accepted and returns the entries of the local day `D`
exactly if that day does not begin at the epoch or the second before it, and
no entry strays by the sum of the three shifts. -/
theorem fetch_on_day_iff (dt : SqliteDatetime) (utcoff : Int) (env : Env)
    (h : ReadsDates env.platform utcoff) (errno : Errno) (msg : RpiwdMqmsg) (d : Date)
    (table : List (Stamped dt)) :
    (∃ R, fetchSelected dt utcoff (rowsOf table) env errno msg [dateParam "on" d.text] = some R ∧
      ∀ e ∈ table, (e.row ∈ R ↔ LocalDay utcoff d e.instant)) ↔
    localMidnight utcoff d ≠ 0 ∧ localMidnight utcoff d ≠ -1 ∧
      ∀ e ∈ table, ¬ Stray (localMidnight utcoff d) (localMidnight utcoff d + 86399)
        (dayShift utcoff (localMidnight utcoff d)) e.instant := by
  have hnorm := normalizeDate_date h d errno
  have hentry : ∀ e ∈ table,
      ((e.row ∈ (Sql.readByDateRange (dayStart (localMidnight utcoff d))
          (dayEnd (localMidnight utcoff d))).rows dt utcoff (rowsOf table) ↔
        LocalDay utcoff d e.instant) ↔
      ¬ Stray (localMidnight utcoff d) (localMidnight utcoff d + 86399)
        (dayShift utcoff (localMidnight utcoff d)) e.instant) := by
    intro e he
    rw [mem_rows he utcoff (by simp), e.range_iff, dayStart_shift, dayEnd_shift, localDay_iff,
      Stray, not_not]
    exact Iff.comm
  simp only [fetch_on_iff, dateOk, hnorm]
  constructor
  · rintro ⟨R, ⟨⟨h0, h1⟩, rfl⟩, hR⟩
    exact ⟨h0, h1, fun e he => (hentry e he).mp (hR e he)⟩
  · rintro ⟨h0, h1, hstray⟩
    exact ⟨_, ⟨⟨h0, h1⟩, rfl⟩, fun e he => (hentry e he).mpr (hstray e he)⟩

/-! ## A zone -/

/-- `strptime` on texts of ten characters: a date for `%Y-%m-%d`, nothing for
any other format. -/
def zoneStrptime (value format : Bytes) (tm : Tm) : Tm × Option Bytes :=
  if format = ascii "%Y-%m-%d" ∧ value.length = 10 then
    ({ tm with
        mday := digitsValue (value.drop 8)
        mon := (digitsValue ((value.drop 5).take 2) : Int) - 1
        year := (digitsValue (value.take 4) : Int) - 1900 }, some [])
  else (tm, none)

/-- `mktime` at a fixed offset. -/
def zoneMktime (utcoff : Int) (tm : Tm) : Int :=
  let y := (tm.year + 1900).toNat
  86400 * ((yearStart y + monthStart (isLeap y) tm.mon.toNat + (tm.mday - 1).toNat : Nat) -
    EPOCH_DAY) + 3600 * tm.hour + 60 * tm.min + tm.sec - utcoff

/-- A machine in a zone `utcoff` seconds east of Greenwich. -/
def zoneEnv (utcoff : Int) : Env :=
  { (default : Env) with
    platform := { (default : Env).platform with
      strptime := zoneStrptime
      mktime := zoneMktime utcoff } }

theorem zoneEnv_strptime (utcoff : Int) (value format : Bytes) (tm : Tm) :
    (zoneEnv utcoff).platform.strptime value format tm = zoneStrptime value format tm := rfl

theorem zoneEnv_mktime (utcoff : Int) (tm : Tm) :
    (zoneEnv utcoff).platform.mktime tm = zoneMktime utcoff tm := rfl

theorem zoneEnv_readsDates (utcoff : Int) : ReadsDates (zoneEnv utcoff).platform utcoff where
  mismatch d tm := by
    have hne : ¬ ascii "%Y-%m-%d %H:%M" = ascii "%Y-%m-%d" := by decide
    refine ⟨tm, ?_, rfl, rfl, rfl, rfl⟩
    rw [zoneEnv_strptime, zoneStrptime, if_neg fun h => hne h.1]
  date d tm := by
    have hy : (d.text.take 4) = digits 4 d.year := by
      rw [Date.text, List.take_left' (digits_length 4 _)]
    have hm : (d.text.drop 5).take 2 = digits 2 d.month := by
      rw [show 5 = 4 + 1 from rfl, ← List.drop_drop, Date.text,
        List.drop_left' (digits_length 4 _)]
      exact List.take_left' (digits_length 2 _)
    have hd : d.text.drop 8 = digits 2 d.day := by
      rw [show 8 = 4 + 1 + 2 + 1 from rfl, ← List.drop_drop, ← List.drop_drop, ← List.drop_drop,
        Date.text, List.drop_left' (digits_length 4 _), List.drop_succ_cons, List.drop_zero,
        List.drop_left' (digits_length 2 _)]
      rfl
    have hyear := d.year_le
    have hmonth := d.month_le
    have hday := d.day_lt_hundred
    rw [zoneEnv_strptime, zoneStrptime, if_pos ⟨rfl, d.text_length⟩, hy, hm, hd,
      digitsValue_digits (by omega), digitsValue_digits (by omega), digitsValue_digits (by omega)]
  midnight d := by
    have hy : ((d.year : Int) - 1900 + 1900).toNat = d.year := by omega
    have hm : ((d.month : Int) - 1).toNat = d.month - 1 := by omega
    have hd : ((d.day : Int) - 1).toNat = d.day - 1 := by omega
    simp only [zoneEnv_mktime, zoneMktime, localMidnight, Date.dayNumber, hy, hm, hd]
    omega

/-- 2017-07-01 -/
def sampleDay : Date := ⟨2017, 7, 1, by decide, by decide, by decide, by decide, by decide⟩

example : sampleDay.text = ascii "2017-07-01" := by decide +kernel

/-- At Greenwich the day's entry comes back. -/
theorem fetch_on_day_greenwich :
    ∃ R, fetchSelected gregorian 0 (rowsOf [sampleEntry]) (zoneEnv 0) 0 default
        [dateParam "on" sampleDay.text] = some R ∧
      ∀ e ∈ [sampleEntry], (e.row ∈ R ↔ LocalDay 0 sampleDay e.instant) := by
  have hmid : localMidnight 0 sampleDay = 1498867200 := by decide
  have hshift : dayShift 0 (localMidnight 0 sampleDay) = 0 := by rw [hmid]; decide
  apply (fetch_on_day_iff gregorian 0 (zoneEnv 0) (zoneEnv_readsDates 0) 0 default sampleDay
    [sampleEntry]).mpr
  rw [hshift, hmid]
  exact ⟨by decide, by decide, List.forall_mem_singleton.mpr (not_stray_zero _ _ _)⟩

/-- Two hours east, an entry of noon does not: the window of the first of
July ends there at two in the morning. -/
theorem fetch_on_day_misses_noon :
    ∃ R, fetchSelected gregorian 7200 (rowsOf [sampleEntry]) (zoneEnv 7200) 0 default
        [dateParam "on" sampleDay.text] = some R ∧
      LocalDay 7200 sampleDay sampleEntry.instant ∧ sampleEntry.row ∉ R := by
  have hnorm := normalizeDate_date (zoneEnv_readsDates 7200) sampleDay 0
  have hmid : localMidnight 7200 sampleDay = 1498860000 := by decide
  refine ⟨_, fetch_on_iff.mpr ⟨?_, rfl⟩, ?_, ?_⟩
  · simp only [dateOk, hnorm, hmid]
    decide
  · rw [localDay_iff, hmid]
    decide
  · rw [hnorm, hmid, mem_rows (List.mem_singleton.mpr rfl) _ (by simp), Stamped.range_iff]
    decide

end Rpiweatherd
