import Rpiweatherd.Calendar
import Rpiweatherd.L1Libc.CString

/-!
# SQLite's `datetime`

`SqliteDatetime` is what SQLite documents of the function and the queries of
`include/dbhandler.h` rely on: `datetime('now')` writes the UTC text of the
instant, `datetime(t, 'unixepoch', 'localtime')` adds the offset of the zone
first, `datetime` reads its own texts back unchanged, and comparing texts
compares times. `gregorian` is such a function: SQLite's own text for every
second of the years 0000 to 9999, the range the documentation gives.
-/
namespace Rpiweatherd

/-- `ofEpoch t` is `datetime(t, 'unixepoch')`, `norm s` is `datetime(s)`. -/
structure SqliteDatetime where
  ofEpoch : Int → Bytes
  norm : Bytes → Bytes
  norm_ofEpoch : ∀ t, norm (ofEpoch t) = ofEpoch t
  lt_iff : ∀ s t, ofEpoch s < ofEpoch t ↔ s < t

namespace SqliteDatetime
variable (dt : SqliteDatetime)

/-- `datetime('now')` at the instant `now`. -/
def now (now : Int) : Bytes := dt.ofEpoch now

/-- `datetime(t, 'unixepoch', 'localtime')`, `utcoff` seconds east of
Greenwich. -/
def localtime (utcoff t : Int) : Bytes := dt.ofEpoch (t + utcoff)

/-- `x BETWEEN lo AND hi` on texts. -/
def between (x lo hi : Bytes) : Bool := !(x < lo) && !(hi < x)

theorem between_ofEpoch (s a b : Int) :
    between (dt.ofEpoch s) (dt.ofEpoch a) (dt.ofEpoch b) = true ↔ a ≤ s ∧ s ≤ b := by
  simp only [between, dt.lt_iff, Bool.and_eq_true, Bool.not_eq_true', decide_eq_false_iff_not,
    Int.not_lt]

end SqliteDatetime

/-! ## The Gregorian texts -/

/-- 1970-01-01 -/
def EPOCH_DAY : Nat := 719528

/-- Seconds since 0000-01-01 00:00:00. -/
def sinceYearZero (t : Int) : Int := t + 86400 * EPOCH_DAY

/-- SQLite's text in the four-digit years. Outside of them the result of
`datetime` is not documented; the texts chosen here keep the order. -/
def gregorianText (t : Int) : Bytes :=
  if sinceYearZero t < 0 then 45 :: (List.replicate (-sinceYearZero t).toNat 0 ++ [1])
  else if h : (sinceYearZero t).toNat < SECONDS then secondText (sinceYearZero t).toNat h
  else 58 :: List.replicate ((sinceYearZero t).toNat - SECONDS) 1

example : gregorianText 0 = ascii "1970-01-01 00:00:00" := by decide +kernel

example : gregorianText 1488326399 = ascii "2017-02-28 23:59:59" := by decide +kernel

theorem secondText_head (n : Nat) (h : n < SECONDS) :
    ∃ d tl, d < 10 ∧ secondText n h = UInt8.ofNat (48 + d) :: tl := by
  have key : ∀ y, ∃ tl, digits 4 y = UInt8.ofNat (48 + y / 1000 % 10) :: tl := by
    intro y
    have he : y / 10 / 10 / 10 = y / 1000 := by omega
    exact ⟨_, by simp only [digits, List.nil_append, List.cons_append, he]; rfl⟩
  unfold secondText Date.text
  obtain ⟨tl, htl⟩ := key (dateOf (n / 86400) (day_lt_DAYS h)).year
  rw [htl]
  exact ⟨_, _, Nat.mod_lt _ (by decide), rfl⟩

theorem replicate_zero_lt {m n : Nat} (h : m < n) :
    List.replicate n (0 : UInt8) ++ [1] < List.replicate m 0 ++ [1] := by
  obtain ⟨k, rfl⟩ := Nat.exists_eq_add_of_lt h
  rw [show m + k + 1 = m + (k + 1) by omega, List.replicate_add, List.append_assoc]
  apply List.append_left_lt
  rw [List.replicate_succ, List.cons_append, List.cons_lt_cons_iff]
  exact .inl (by decide)

theorem replicate_one_lt {m n : Nat} (h : m < n) :
    List.replicate m (1 : UInt8) < List.replicate n 1 := by
  obtain ⟨k, rfl⟩ := Nat.exists_eq_add_of_lt h
  have hlt : List.replicate m (1 : UInt8) ++ [] < List.replicate m 1 ++ 1 :: List.replicate k 1 :=
    List.append_left_lt (List.nil_lt_cons 1 (List.replicate k 1))
  rwa [List.append_nil, ← List.replicate_succ, ← List.replicate_add] at hlt

theorem digit_between {d : Nat} (h : d < 10) :
    (45 : UInt8) < UInt8.ofNat (48 + d) ∧ UInt8.ofNat (48 + d) < (58 : UInt8) := by
  simp only [UInt8.lt_iff_toNat_lt, UInt8.toNat_ofNat', UInt8.reduceToNat]
  omega

theorem gregorianText_lt {s t : Int} (h : s < t) : gregorianText s < gregorianText t := by
  have hst : sinceYearZero s < sinceYearZero t := by unfold sinceYearZero; omega
  unfold gregorianText
  by_cases hs0 : sinceYearZero s < 0
  · rw [if_pos hs0]
    by_cases ht0 : sinceYearZero t < 0
    · rw [if_pos ht0, List.cons_lt_cons_iff]
      exact .inr ⟨rfl, replicate_zero_lt (by omega)⟩
    · rw [if_neg ht0]
      split
      · rename_i ht1
        obtain ⟨d, tl, hd, he⟩ := secondText_head _ ht1
        rw [he, List.cons_lt_cons_iff]
        exact .inl (digit_between hd).1
      · rw [List.cons_lt_cons_iff]
        exact .inl (by decide)
  · rw [if_neg hs0, if_neg (by omega)]
    by_cases hs1 : (sinceYearZero s).toNat < SECONDS
    · rw [dif_pos hs1]
      split
      · rename_i ht1
        exact secondText_lt hs1 ht1 (by omega)
      · obtain ⟨d, tl, hd, he⟩ := secondText_head _ hs1
        rw [he, List.cons_lt_cons_iff]
        exact .inl (digit_between hd).2
    · rw [dif_neg hs1, dif_neg (by omega), List.cons_lt_cons_iff]
      exact .inr ⟨rfl, replicate_one_lt (by omega)⟩

def gregorian : SqliteDatetime where
  ofEpoch := gregorianText
  norm := id
  norm_ofEpoch _ := rfl
  lt_iff s t := by
    refine ⟨fun h => ?_, gregorianText_lt⟩
    by_contra hn
    rcases Int.lt_or_eq_of_le (Int.not_lt.mp hn) with hlt | rfl
    · exact List.lt_asymm h (gregorianText_lt hlt)
    · exact List.lt_irrefl _ h

end Rpiweatherd
