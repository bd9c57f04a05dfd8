import Mathlib

/-!
# Dates of the Gregorian calendar and the texts that name them

Days are counted from 0000-01-01 of the proleptic Gregorian calendar, years
have four digits. `Date.dayNumber` counts the days before a date, `dateOf`
is its inverse (`dateOf_dayNumber`), and both respect the order of dates
(`dayNumber_lt`). Texts are lists of bytes: `YYYY-MM-DD` for a date,
`YYYY-MM-DD HH:MM:SS` for a second. Written that way, a later second has the
larger text (`secondText_lt`), so comparing texts byte by byte compares
times.
-/
namespace Rpiweatherd

/-! ## Finding the interval a number lies in -/

/-- The last `k ≤ bound` whose interval `[f k, f (k + 1))` starts at or
before `n`. -/
def bucket (f : Nat → Nat) (bound n : Nat) : Nat := Nat.findGreatest (fun k => f k ≤ n) bound

theorem bucket_le (f : Nat → Nat) (bound n : Nat) : bucket f bound n ≤ bound :=
  Nat.findGreatest_le bound

theorem bucket_spec {f : Nat → Nat} {bound n : Nat} (h0 : f 0 ≤ n) (hb : n < f (bound + 1)) :
    f (bucket f bound n) ≤ n ∧ n < f (bucket f bound n + 1) := by
  refine ⟨Nat.findGreatest_spec (P := fun k => f k ≤ n) (Nat.zero_le bound) h0, ?_⟩
  rcases Nat.lt_or_ge (bucket f bound n) bound with hlt | hge
  · have hnot := Nat.findGreatest_is_greatest (P := fun k => f k ≤ n)
      (Nat.lt_succ_self (bucket f bound n)) hlt
    exact Nat.lt_of_not_le hnot
  · have he : bucket f bound n = bound := Nat.le_antisymm (bucket_le f bound n) hge
    rw [he]
    exact hb

/-! ## Years and months -/

def isLeap (y : Nat) : Bool := y % 4 = 0 && (y % 100 ≠ 0 || y % 400 = 0)

/-- Days before the first of January of the year. -/
def yearStart (y : Nat) : Nat := 365 * y + (y + 3) / 4 - (y + 99) / 100 + (y + 399) / 400

/-- Rounded up, a quotient grows at the multiples. -/
theorem ceil_succ (y : Nat) :
    (y + 1 + 3) / 4 = (y + 3) / 4 + (if y % 4 = 0 then 1 else 0) ∧
    (y + 1 + 99) / 100 = (y + 99) / 100 + (if y % 100 = 0 then 1 else 0) ∧
    (y + 1 + 399) / 400 = (y + 399) / 400 + (if y % 400 = 0 then 1 else 0) := by
  refine ⟨?_, ?_, ?_⟩ <;> split <;> omega

theorem yearStart_succ (y : Nat) :
    yearStart (y + 1) = yearStart y + if isLeap y then 366 else 365 := by
  obtain ⟨h4, h100, h400⟩ := ceil_succ y
  have hle : (y + 99) / 100 ≤ 365 * y + (y + 3) / 4 := by omega
  have hleap : isLeap y = true ↔ y % 4 = 0 ∧ (y % 100 ≠ 0 ∨ y % 400 = 0) := by simp [isLeap]
  -- a multiple of 400 is one of 100, and that one of 4
  have hmul : (y % 400 = 0 → y % 100 = 0) ∧ (y % 100 = 0 → y % 4 = 0) := by
    constructor <;> omega
  simp only [yearStart, h4, h100, h400, hleap]
  generalize (y + 3) / 4 = a at *
  generalize (y + 99) / 100 = b at *
  generalize (y + 399) / 400 = c at *
  by_cases c4 : y % 4 = 0
  · by_cases c100 : y % 100 = 0
    · by_cases c400 : y % 400 = 0
      · simp only [c4, c100, c400, if_true, true_and, not_true_eq_false, ne_eq, false_or]
        omega
      · simp only [c4, c100, c400, if_true, if_false, true_and, not_true_eq_false, ne_eq, or_self]
        omega
    · have c400 : ¬ y % 400 = 0 := fun h => c100 (hmul.1 h)
      simp only [c4, c100, c400, if_true, if_false, true_and, not_false_eq_true, ne_eq, true_or]
      omega
  · have c100 : ¬ y % 100 = 0 := fun h => c4 (hmul.2 h)
    have c400 : ¬ y % 400 = 0 := fun h => c100 (hmul.1 h)
    simp only [c4, c100, c400, if_false, false_and]
    omega

theorem yearStart_mono {y y' : Nat} (h : y ≤ y') : yearStart y ≤ yearStart y' := by
  induction h with
  | refl => exact Nat.le_refl _
  | step _ ih =>
    rw [yearStart_succ]
    split <;> omega

theorem mul_le_yearStart (y : Nat) : 365 * y ≤ yearStart y := by
  induction y with
  | zero => decide
  | succ y ih =>
    rw [yearStart_succ]
    split <;> omega

/-- Days of the year before its `m`-th month, January being the 0th;
`monthStart leap 12` is the length of the year. -/
def monthStart (leap : Bool) (m : Nat) : Nat :=
  [0, 31, 59, 90, 120, 151, 181, 212, 243, 273, 304, 334].getD m 365 +
    if leap && 2 ≤ m then 1 else 0

theorem monthStart_mono : ∀ leap : Bool, ∀ m ≤ 12, ∀ m' ≤ m,
    monthStart leap m' ≤ monthStart leap m := by
  decide

theorem yearStart_succ' (y : Nat) :
    yearStart (y + 1) = yearStart y + monthStart (isLeap y) 12 := by
  rw [yearStart_succ]
  cases isLeap y <;> rfl

/-! ## Dates -/

/-- A date; `month` counts from 1 and `day` from 1. -/
structure Date where
  year : Nat
  month : Nat
  day : Nat
  year_le : year ≤ 9999
  month_pos : 1 ≤ month
  month_le : month ≤ 12
  day_pos : 1 ≤ day
  day_le : monthStart (isLeap year) (month - 1) + day ≤ monthStart (isLeap year) month

namespace Date

/-- Days since 0000-01-01. -/
def dayNumber (d : Date) : Nat :=
  yearStart d.year + monthStart (isLeap d.year) (d.month - 1) + (d.day - 1)

/-- The order of the calendar. -/
def Before (d d' : Date) : Prop :=
  d.year < d'.year ∨ d.year = d'.year ∧
    (d.month < d'.month ∨ d.month = d'.month ∧ d.day < d'.day)

theorem dayNumber_lt_monthEnd (d : Date) :
    d.dayNumber < yearStart d.year + monthStart (isLeap d.year) d.month := by
  have := d.day_pos
  have := d.day_le
  unfold dayNumber
  omega

theorem dayNumber_lt_yearEnd (d : Date) : d.dayNumber < yearStart (d.year + 1) := by
  have h := d.dayNumber_lt_monthEnd
  have := monthStart_mono (isLeap d.year) 12 (Nat.le_refl 12) d.month d.month_le
  rw [yearStart_succ']
  omega

theorem dayNumber_lt {d d' : Date} (h : d.Before d') : d.dayNumber < d'.dayNumber := by
  have hstart : yearStart d'.year + monthStart (isLeap d'.year) (d'.month - 1) ≤ d'.dayNumber :=
    Nat.le_add_right ..
  rcases h with hy | ⟨hy, hm | ⟨hm, hd⟩⟩
  · have := d.dayNumber_lt_yearEnd
    have := yearStart_mono (show d.year + 1 ≤ d'.year from hy)
    omega
  · have hend := d.dayNumber_lt_monthEnd
    have hle := d'.month_le
    have := monthStart_mono (isLeap d'.year) (d'.month - 1) (by omega) d.month (by omega)
    rw [← hy] at this hstart
    omega
  · have := d.day_pos
    unfold dayNumber
    rw [hy, hm]
    omega

/-- Of two dates one is before the other or they name the same day. -/
theorem before_of_dayNumber_lt {d d' : Date} (h : d.dayNumber < d'.dayNumber) : d.Before d' := by
  by_contra hn
  rcases Classical.em (d'.Before d) with hb | hb
  · exact absurd (dayNumber_lt hb) (by omega)
  · have hsame : d.year = d'.year ∧ d.month = d'.month ∧ d.day = d'.day := by
      unfold Before at hn hb
      omega
    unfold dayNumber at h
    rw [hsame.1, hsame.2.1, hsame.2.2] at h
    exact Nat.lt_irrefl _ h

end Date

/-- Days of the four-digit years. -/
def DAYS : Nat := yearStart 10000

/-- The year of a day. A year has at least 365 days, so the search starts at
`n / 365`. -/
def yearOf (n : Nat) : Nat := bucket yearStart (n / 365) n

theorem yearOf_spec (n : Nat) : yearStart (yearOf n) ≤ n ∧ n < yearStart (yearOf n + 1) := by
  refine bucket_spec (by simp [yearStart]) ?_
  have := mul_le_yearStart (n / 365 + 1)
  omega

theorem yearOf_le {n : Nat} (h : n < DAYS) : yearOf n ≤ 9999 := by
  by_contra hc
  have := yearStart_mono (show 10000 ≤ yearOf n by omega)
  have := (yearOf_spec n).1
  simp only [DAYS] at h
  omega

/-- The month, from 0, of a day of the year. -/
def monthOf (leap : Bool) (doy : Nat) : Nat := bucket (monthStart leap) 11 doy

theorem monthOf_spec {leap : Bool} {doy : Nat} (h : doy < monthStart leap 12) :
    monthStart leap (monthOf leap doy) ≤ doy ∧ doy < monthStart leap (monthOf leap doy + 1) :=
  bucket_spec (by cases leap <;> simp [monthStart]) h

theorem doy_lt (n : Nat) : n - yearStart (yearOf n) < monthStart (isLeap (yearOf n)) 12 := by
  have := yearOf_spec n
  rw [yearStart_succ'] at this
  omega

/-- The date of a day. -/
def dateOf (n : Nat) (h : n < DAYS) : Date where
  year := yearOf n
  month := monthOf (isLeap (yearOf n)) (n - yearStart (yearOf n)) + 1
  day := n - yearStart (yearOf n) -
    monthStart (isLeap (yearOf n)) (monthOf (isLeap (yearOf n)) (n - yearStart (yearOf n))) + 1
  year_le := yearOf_le h
  month_pos := Nat.le_add_left ..
  month_le := Nat.succ_le_succ (bucket_le _ 11 _)
  day_pos := Nat.le_add_left ..
  day_le := by
    have := monthOf_spec (doy_lt n)
    rw [Nat.add_sub_cancel]
    omega

theorem dateOf_dayNumber {n : Nat} (h : n < DAYS) : (dateOf n h).dayNumber = n := by
  have hy := (yearOf_spec n).1
  have hm := (monthOf_spec (doy_lt n)).1
  simp only [Date.dayNumber, dateOf, Nat.add_sub_cancel]
  omega

/-! ## Decimal fields of fixed width -/

/-- The last `w` decimal digits of `n`. -/
def digits : Nat → Nat → List UInt8
  | 0, _ => []
  | w + 1, n => digits w (n / 10) ++ [UInt8.ofNat (48 + n % 10)]

@[simp] theorem digits_length (w n : Nat) : (digits w n).length = w := by
  induction w generalizing n with
  | zero => rfl
  | succ w ih => simp [digits, ih]

/-- Texts of one length are compared before what follows them. -/
theorem append_lt_of_lt {a b : List UInt8} (hlen : a.length = b.length) (h : a < b)
    (c d : List UInt8) : a ++ c < b ++ d := by
  induction a generalizing b with
  | nil =>
    rw [List.eq_nil_of_length_eq_zero hlen.symm] at h
    exact absurd h (List.lt_irrefl _)
  | cons x a ih =>
    cases b with
    | nil => cases hlen
    | cons y b =>
      rw [List.cons_append, List.cons_append, List.cons_lt_cons_iff]
      rcases List.cons_lt_cons_iff.mp h with hxy | ⟨hxy, hab⟩
      · exact .inl hxy
      · exact .inr ⟨hxy, ih (Nat.succ_inj.mp hlen) hab⟩

theorem digit_toNat (n : Nat) : (UInt8.ofNat (48 + n % 10)).toNat = 48 + n % 10 := by
  rw [UInt8.toNat_ofNat']
  omega

theorem digits_lt {w n m : Nat} (hm : m < 10 ^ w) (h : n < m) : digits w n < digits w m := by
  induction w generalizing n m with
  | zero => omega
  | succ w ih =>
    have hm' : m / 10 < 10 ^ w := by
      rw [Nat.pow_succ] at hm
      omega
    rcases Nat.lt_or_ge (n / 10) (m / 10) with hlt | hge
    · exact append_lt_of_lt (by simp) (ih hm' hlt) _ _
    · have he : n / 10 = m / 10 := by omega
      rw [digits, digits, he]
      apply List.append_left_lt
      rw [List.cons_lt_cons_iff, UInt8.lt_iff_toNat_lt, digit_toNat, digit_toNat]
      omega

/-- The number a run of digits stands for. -/
def digitsValue (ds : List UInt8) : Nat := ds.foldl (fun a b => a * 10 + (b.toNat - 48)) 0

theorem digitsValue_digits {w n : Nat} (h : n < 10 ^ w) : digitsValue (digits w n) = n := by
  induction w generalizing n with
  | zero =>
    have : n = 0 := by omega
    rw [this]
    rfl
  | succ w ih =>
    have h' : n / 10 < 10 ^ w := by
      rw [Nat.pow_succ] at h
      omega
    have ih' := ih h'
    unfold digitsValue at ih' ⊢
    rw [digits, List.foldl_append, ih', List.foldl_cons, List.foldl_nil, digit_toNat]
    omega

/-! ## Texts -/

/-- `YYYY-MM-DD` -/
def Date.text (d : Date) : List UInt8 :=
  digits 4 d.year ++ 45 :: (digits 2 d.month ++ 45 :: digits 2 d.day)

theorem Date.day_lt_hundred (d : Date) : d.day < 100 := by
  have hd := d.day_le
  have hm := d.month_le
  have key : ∀ leap : Bool, ∀ m ≤ 12, monthStart leap m < 100 + monthStart leap (m - 1) := by decide
  have := key (isLeap d.year) d.month hm
  omega

theorem Date.text_length (d : Date) : d.text.length = 10 := by simp [Date.text]

theorem Date.text_lt {d d' : Date} (h : d.Before d') : d.text < d'.text := by
  have hy := d'.year_le
  have hm := d'.month_le
  have hd := d'.day_lt_hundred
  unfold Date.text
  rcases h with h | ⟨he, h⟩
  · exact append_lt_of_lt (by simp) (digits_lt (by omega) h) _ _
  · rw [he]
    apply List.append_left_lt
    rw [List.cons_lt_cons_iff]
    refine .inr ⟨rfl, ?_⟩
    rcases h with h | ⟨he, h⟩
    · exact append_lt_of_lt (by simp) (digits_lt (by omega) h) _ _
    · rw [he]
      apply List.append_left_lt
      rw [List.cons_lt_cons_iff]
      exact .inr ⟨rfl, digits_lt (by omega) h⟩

/-- `HH:MM:SS` of a second of the day. -/
def clockText (s : Nat) : List UInt8 :=
  digits 2 (s / 3600) ++ 58 :: (digits 2 (s / 60 % 60) ++ 58 :: digits 2 (s % 60))

theorem clockText_lt {s s' : Nat} (hs : s' < 86400) (h : s < s') : clockText s < clockText s' := by
  unfold clockText
  rcases Nat.lt_or_ge (s / 3600) (s' / 3600) with hh | hh
  · exact append_lt_of_lt (by simp) (digits_lt (by omega) hh) _ _
  · rw [show s / 3600 = s' / 3600 by omega]
    apply List.append_left_lt
    rw [List.cons_lt_cons_iff]
    refine .inr ⟨rfl, ?_⟩
    rcases Nat.lt_or_ge (s / 60 % 60) (s' / 60 % 60) with hm | hm
    · exact append_lt_of_lt (by simp) (digits_lt (by omega) hm) _ _
    · rw [show s / 60 % 60 = s' / 60 % 60 by omega]
      apply List.append_left_lt
      rw [List.cons_lt_cons_iff]
      exact .inr ⟨rfl, digits_lt (by omega) (by omega)⟩

/-- Seconds of the four-digit years. -/
def SECONDS : Nat := 86400 * DAYS

theorem day_lt_DAYS {t : Nat} (h : t < SECONDS) : t / 86400 < DAYS := by
  simp only [SECONDS] at h
  omega

/-- `YYYY-MM-DD HH:MM:SS` of a second since 0000-01-01 00:00:00. -/
def secondText (t : Nat) (h : t < SECONDS) : List UInt8 :=
  (dateOf (t / 86400) (day_lt_DAYS h)).text ++ 32 :: clockText (t % 86400)

/-- **Comparing texts compares times.** -/
theorem secondText_lt {s t : Nat} (hs : s < SECONDS) (ht : t < SECONDS) (h : s < t) :
    secondText s hs < secondText t ht := by
  unfold secondText
  rcases Nat.lt_or_ge (s / 86400) (t / 86400) with hd | hd
  · have hlen : ∀ d d' : Date, d.text.length = d'.text.length := fun d d' => by
      rw [d.text_length, d'.text_length]
    refine append_lt_of_lt (hlen _ _) (Date.text_lt ?_) _ _
    apply Date.before_of_dayNumber_lt
    rw [dateOf_dayNumber, dateOf_dayNumber]
    exact hd
  · have he : s / 86400 = t / 86400 := by omega
    simp only [he]
    apply List.append_left_lt
    rw [List.cons_lt_cons_iff]
    exact .inr ⟨rfl, clockText_lt (by omega) (by omega)⟩

end Rpiweatherd
