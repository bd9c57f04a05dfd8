import Mathlib

/-!
# Rounding to a binary floating-point format

`roundHalfEven` rounds to the nearest integer, ties to even. A `BinaryFormat`
has a number of significant bits and a smallest exponent; a number is rounded
to a multiple of `ulp`, the distance of the numbers of the format at its
size. `FloatVal` are the values of a format, the infinities and NaN included,
and its operations are the exact ones followed by one rounding. The two zeros
are one value.

* `round_mono`: rounding keeps the order of numbers that are not negative.
* `round_exact`: a number of the format is rounded to itself.
* `succ_le_round`: what lies above the middle between two neighbours is
  rounded to the upper one, or to a number above it.
-/
namespace Rpiweatherd

/-! ## To the nearest integer -/

/-- To the nearest integer, ties to even. -/
def roundHalfEven (q : ℚ) : Int :=
  if q - ⌊q⌋ < 1 / 2 then ⌊q⌋
  else if 1 / 2 < q - ⌊q⌋ then ⌊q⌋ + 1
  else if ⌊q⌋ % 2 = 0 then ⌊q⌋ else ⌊q⌋ + 1

theorem roundHalfEven_le {q : ℚ} {n : Int} (h : q ≤ n) : roundHalfEven q ≤ n := by
  have hfloor : ⌊q⌋ ≤ n := Int.floor_le_iff.mpr (by linarith)
  unfold roundHalfEven
  rcases Int.lt_or_le ⌊q⌋ n with hlt | hge
  · split_ifs <;> omega
  · -- then `q` is that integer
    have heq : q - ⌊q⌋ = 0 := by
      have hn : ⌊q⌋ = n := le_antisymm hfloor hge
      have hle := Int.floor_le q
      rw [hn] at hle ⊢
      linarith
    rw [heq, if_pos (by norm_num)]
    exact hfloor

theorem le_roundHalfEven {q : ℚ} {n : Int} (h : n ≤ q) : n ≤ roundHalfEven q := by
  have hfloor : n ≤ ⌊q⌋ := Int.le_floor.mpr h
  unfold roundHalfEven
  split_ifs <;> omega

theorem roundHalfEven_near (q : ℚ) : |(roundHalfEven q : ℚ) - q| ≤ 1 / 2 := by
  have hle := Int.floor_le q
  have hlt := Int.lt_floor_add_one q
  rw [abs_le]
  unfold roundHalfEven
  split_ifs <;> push_cast <;> constructor <;> linarith

@[simp] theorem roundHalfEven_intCast (n : Int) : roundHalfEven n = n := by
  unfold roundHalfEven
  rw [Int.floor_intCast, sub_self, if_pos (by norm_num)]

theorem roundHalfEven_nonneg {q : ℚ} (h : 0 ≤ q) : 0 ≤ roundHalfEven q :=
  le_roundHalfEven (by exact_mod_cast h)

/-- Above the middle it goes up. -/
theorem succ_le_roundHalfEven {q : ℚ} {n : Int} (h : n + 1 / 2 < q) : n + 1 ≤ roundHalfEven q := by
  have hnear := (abs_le.mp (roundHalfEven_near q)).1
  have hlt : (n : ℚ) < roundHalfEven q := by linarith
  exact Int.add_one_le_iff.mpr (by exact_mod_cast hlt)

theorem roundHalfEven_mono : Monotone roundHalfEven := by
  intro q r h
  rcases (Int.floor_mono h).lt_or_eq with hlt | heq
  · -- an integer lies between them
    have hle : roundHalfEven q ≤ ⌊q⌋ + 1 := roundHalfEven_le (by
      push_cast
      exact (Int.lt_floor_add_one q).le)
    have hge : ⌊r⌋ ≤ roundHalfEven r := le_roundHalfEven (Int.floor_le r)
    omega
  · unfold roundHalfEven
    rw [heq]
    split_ifs <;> first | omega | linarith

/-! ## Formats -/

/-- `frac` bits behind the leading one; the numbers are multiples of
`2 ^ tiny` and less than `2 ^ emax`. -/
structure BinaryFormat where
  frac : Nat
  tiny : Int
  emax : Int

namespace BinaryFormat
variable (f : BinaryFormat)

/-- The exponent of the last place of a number of this size. -/
def lastPlace (q : ℚ) : Int := max (Int.log 2 |q| - f.frac) f.tiny

/-- One unit of the last place. -/
def ulp (q : ℚ) : ℚ := 2 ^ f.lastPlace q

/-- The nearest number of the format, without a bound on its size. -/
def round (q : ℚ) : ℚ := roundHalfEven (q / f.ulp q) * f.ulp q

/-- From here on a number is rounded to an infinity. -/
def bound : ℚ := 2 ^ f.emax - 2 ^ (f.emax - f.frac - 2)

variable {f} {q r : ℚ} {k : Int}

theorem ulp_pos : 0 < f.ulp q := zpow_pos (by norm_num) _

theorem round_le {n : Int} (h : q ≤ n * f.ulp q) : f.round q ≤ n * f.ulp q := by
  have hdiv : q / f.ulp q ≤ n := (div_le_iff₀ ulp_pos).mpr h
  have hround : ((roundHalfEven (q / f.ulp q) : Int) : ℚ) ≤ n := by
    exact_mod_cast roundHalfEven_le hdiv
  exact mul_le_mul_of_nonneg_right hround ulp_pos.le

theorem le_round {n : Int} (h : n * f.ulp q ≤ q) : n * f.ulp q ≤ f.round q := by
  have hdiv : (n : ℚ) ≤ q / f.ulp q := (le_div_iff₀ ulp_pos).mpr h
  have hround : (n : ℚ) ≤ ((roundHalfEven (q / f.ulp q) : Int) : ℚ) := by
    exact_mod_cast le_roundHalfEven hdiv
  exact mul_le_mul_of_nonneg_right hround ulp_pos.le

@[simp] theorem round_zero : f.round 0 = 0 := by
  have hzero : roundHalfEven 0 = 0 := roundHalfEven_intCast 0
  rw [round, zero_div, hzero, Int.cast_zero, zero_mul]

theorem round_nonneg (h : 0 ≤ q) : 0 ≤ f.round q := by
  have hzero := le_round (f := f) (q := q) (n := 0) (by simpa using h)
  simpa using hzero

/-- A power of two is a multiple of a smaller one. -/
theorem zpow_eq_mul_zpow {e : Int} (h : e ≤ k) :
    (2 : ℚ) ^ k = ((2 ^ (k - e).toNat : Int) : ℚ) * 2 ^ e := by
  have hexp : ((k - e).toNat : Int) = k - e := Int.toNat_of_nonneg (by omega)
  push_cast
  rw [← zpow_natCast, hexp, ← zpow_add₀ (by norm_num), sub_add_cancel]

theorem round_le_zpow (hlast : f.lastPlace q ≤ k) (h : q ≤ 2 ^ k) : f.round q ≤ 2 ^ k := by
  have heq := zpow_eq_mul_zpow hlast
  rw [heq] at h ⊢
  exact round_le h

theorem zpow_le_round (hlast : f.lastPlace q ≤ k) (h : 2 ^ k ≤ q) : 2 ^ k ≤ f.round q := by
  have heq := zpow_eq_mul_zpow hlast
  rw [heq] at h ⊢
  exact le_round h

theorem lastPlace_mono (hq : 0 < q) (h : q ≤ r) : f.lastPlace q ≤ f.lastPlace r := by
  unfold lastPlace
  rw [abs_of_pos hq, abs_of_pos (hq.trans_le h)]
  have hlog : Int.log 2 q ≤ Int.log 2 r := Int.log_mono_right hq h
  omega

/-- **Rounding keeps the order.** Numbers with the same last place are rounded
as integers are; between others there is a power of two. -/
theorem round_mono (hq : 0 ≤ q) (h : q ≤ r) : f.round q ≤ f.round r := by
  rcases hq.eq_or_lt with rfl | hpos
  · rw [round_zero]
    exact round_nonneg h
  · have hr : 0 < r := hpos.trans_le h
    rcases (lastPlace_mono (f := f) hpos h).eq_or_lt with heq | hlt
    · have hulp : f.ulp q = f.ulp r := by rw [ulp, ulp, heq]
      rw [round, round, hulp]
      have hdiv : q / f.ulp r ≤ r / f.ulp r := div_le_div_of_nonneg_right h ulp_pos.le
      have hround := roundHalfEven_mono hdiv
      exact mul_le_mul_of_nonneg_right (by exact_mod_cast hround) ulp_pos.le
    · have hlog : f.lastPlace q ≤ Int.log 2 r ∧ f.lastPlace r ≤ Int.log 2 r ∧
          Int.log 2 q < Int.log 2 r := by
        unfold lastPlace at hlt ⊢
        rw [abs_of_pos hpos, abs_of_pos hr] at *
        omega
      have hpow : q < 2 ^ Int.log 2 r := by
        have := (Int.lt_zpow_iff_log_lt (b := 2) (by decide) hpos).mpr hlog.2.2
        exact_mod_cast this
      have hself : (2 : ℚ) ^ Int.log 2 r ≤ r := by
        have := Int.zpow_log_le_self (b := 2) (by decide) hr
        exact_mod_cast this
      exact (round_le_zpow hlog.1 hpow.le).trans (zpow_le_round hlog.2.1 hself)

/-- A multiple of the last place is rounded to itself. -/
theorem round_exact {n : Int} (h : q = n * f.ulp q) : f.round q = q := by
  have hdiv : q / f.ulp q = n := by
    rw [div_eq_iff ulp_pos.ne']
    exact h
  rw [round, hdiv, roundHalfEven_intCast]
  exact h.symm

/-- An integer of few bits, scaled by a power of two. -/
theorem round_natCast_mul {n : Nat} {e : Int} (hn : n < 2 ^ (f.frac + 1)) (he : f.tiny ≤ e) :
    f.round (n * 2 ^ e) = n * 2 ^ e := by
  rcases Nat.eq_zero_or_pos n with rfl | hpos
  · simp
  · have hn0 : (0 : ℚ) < n := by exact_mod_cast hpos
    have hq : (0 : ℚ) < n * 2 ^ e := mul_pos hn0 (zpow_pos (by norm_num) _)
    have hlog : Int.log 2 |(n * 2 ^ e : ℚ)| ≤ f.frac + e := by
      rw [abs_of_pos hq, ← Int.lt_add_one_iff]
      apply (Int.lt_zpow_iff_log_lt (b := 2) (by decide) hq).mp
      have hcast : (n : ℚ) < 2 ^ (f.frac + 1) := by exact_mod_cast hn
      calc (n * 2 ^ e : ℚ) < 2 ^ (f.frac + 1) * 2 ^ e :=
            mul_lt_mul_of_pos_right hcast (zpow_pos (by norm_num) _)
        _ = ((2 : Nat) : ℚ) ^ ((f.frac : Int) + e + 1) := by
            rw [← zpow_natCast, ← zpow_add₀ (by norm_num)]
            push_cast
            congr 1
            omega
    have hlast : f.lastPlace (n * 2 ^ e) ≤ e := by
      unfold lastPlace
      omega
    refine round_exact (n := n * 2 ^ (e - f.lastPlace (n * 2 ^ e)).toNat) ?_
    conv_lhs => rw [zpow_eq_mul_zpow hlast]
    push_cast
    rw [ulp]
    ring

theorem round_two_zpow {e : Int} (he : f.tiny ≤ e) : f.round (2 ^ e) = 2 ^ e := by
  have hone := round_natCast_mul (f := f) (n := 1) (Nat.one_lt_two_pow (Nat.succ_ne_zero _)) he
  simpa using hone

theorem ulp_of_log (hpos : 0 < q) (hlog : Int.log 2 q = k) (hk : f.tiny ≤ k - f.frac) :
    f.ulp q = 2 ^ (k - f.frac) := by
  rw [ulp, lastPlace, abs_of_pos hpos, hlog, max_eq_left hk]

/-- **Above the middle** between the neighbours `n` and `n + 1`, in units of
the last place of their size, a number is rounded to the upper one or to more. -/
theorem succ_le_round {n : Nat} (hk : f.tiny ≤ k - f.frac) (hlow : 2 ^ f.frac ≤ n)
    (hhigh : n < 2 ^ (f.frac + 1)) (h : (n + 1 / 2) * 2 ^ (k - f.frac) < q) :
    (n + 1) * 2 ^ (k - f.frac) ≤ f.round q := by
  have hunit : (0 : ℚ) < 2 ^ (k - f.frac) := zpow_pos (by norm_num) _
  have hscale : ∀ j : Nat, (2 : ℚ) ^ j * 2 ^ (k - f.frac) = 2 ^ (k - f.frac + j) := by
    intro j
    rw [← zpow_natCast, ← zpow_add₀ (by norm_num), add_comm]
  have hbelow : (2 : ℚ) ^ k ≤ q := by
    have hcast : (2 : ℚ) ^ f.frac ≤ n := by exact_mod_cast hlow
    have hpow := hscale f.frac
    rw [sub_add_cancel] at hpow
    rw [← hpow]
    nlinarith
  have hpos : 0 < q := (zpow_pos (by norm_num) k).trans_le hbelow
  have hlog : k ≤ Int.log 2 q := by
    rw [← Int.zpow_le_iff_le_log (b := 2) (by decide) hpos]
    exact_mod_cast hbelow
  rcases hlog.lt_or_eq with hlt | heq
  · -- the next power of two is between them
    have habove : (2 : ℚ) ^ (k + 1) ≤ q := by
      have := (Int.zpow_le_iff_le_log (b := 2) (by decide) hpos).mpr (Int.add_one_le_iff.mpr hlt)
      exact_mod_cast this
    have hcast : (n : ℚ) + 1 ≤ 2 ^ (f.frac + 1) := by exact_mod_cast hhigh
    calc ((n : ℚ) + 1) * 2 ^ (k - f.frac) ≤ 2 ^ (f.frac + 1) * 2 ^ (k - f.frac) :=
          mul_le_mul_of_nonneg_right hcast hunit.le
      _ = f.round (2 ^ (k + 1)) := by
          rw [hscale, round_two_zpow (by omega)]
          congr 1
          push_cast
          omega
      _ ≤ f.round q := round_mono (zpow_pos (by norm_num) _).le habove
  · rw [round, ulp_of_log hpos heq.symm hk]
    have hdiv : ((n : Int) : ℚ) + 1 / 2 < q / 2 ^ (k - f.frac) := by
      rw [lt_div_iff₀ hunit]
      exact_mod_cast h
    have hround := succ_le_roundHalfEven hdiv
    have hcast : ((n : ℚ) + 1) ≤ (roundHalfEven (q / 2 ^ (k - f.frac)) : Int) := by
      exact_mod_cast hround
    exact mul_le_mul_of_nonneg_right hcast hunit.le

end BinaryFormat

/-! ## Values -/

/-- The values of a format. -/
inductive FloatVal where
  | num (q : ℚ)
  | inf (neg : Bool)
  | nan (neg : Bool)
  deriving DecidableEq

namespace FloatVal

/-- Conversion to the format. -/
def round (f : BinaryFormat) : FloatVal → FloatVal
  | num q => if f.bound ≤ |q| then inf (q < 0) else num (f.round q)
  | x => x

/-- The product with a positive number. -/
def times (f : BinaryFormat) (c : ℚ) : FloatVal → FloatVal
  | num q => (num (c * q)).round f
  | x => x

theorem times_num_of_nonneg {f : BinaryFormat} {c q : ℚ} (h : 0 ≤ c * q) :
    (num q).times f c = if f.bound ≤ c * q then inf false else num (f.round (c * q)) := by
  simp only [times, round, abs_of_nonneg h, decide_eq_false (not_lt.mpr h)]

/-- The sum with a number. -/
def plus (f : BinaryFormat) (c : ℚ) : FloatVal → FloatVal
  | num q => (num (q + c)).round f
  | x => x

/-- Less in the order of the values; NaN has no place in it. -/
def lt : FloatVal → FloatVal → Bool
  | num a, num b => a < b
  | num _, inf neg => !neg
  | inf neg, num _ => neg
  | inf neg, inf neg' => neg && !neg'
  | _, _ => false

/-- The same value; NaN is not even equal to itself. -/
def eq : FloatVal → FloatVal → Bool
  | nan _, _ => false
  | x, y => x = y

end FloatVal

end Rpiweatherd
