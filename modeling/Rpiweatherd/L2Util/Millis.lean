import Rpiweatherd.L2Util.Dates

/-!
# Milliseconds in `float` (`src/util.c:81-88`)

The count of an interval is rounded to a `float`, multiplied by 1000 and
rounded, and multiplied by the seconds of its unit and rounded. `product` is
that number, without a bound on its size. It grows with the count, so that
the counts of a millisecond or more, and those of 2^32 or more, start at one
point each: `product_ge_iff` says where. The point is a little below the exact
one, in the middle between two `float`s.

Whole counts are exact up to `wholeLimit` (`product_whole`).
-/
namespace Rpiweatherd

/-- The product with a count that is a `float`. -/
def scaled (secs : Nat) (count : ℚ) : ℚ := single.round (secs * single.round (1000 * count))

/-- The number of milliseconds that is computed for a count. -/
def product (secs : Nat) (count : ℚ) : ℚ := scaled secs (single.round count)

/-- The units of an interval, in seconds. -/
def UNIT_SECONDS : List Nat := [1, 60, 3600, 86400]

theorem unitSeconds_mem {u : UInt8} {secs : Nat} (h : unitSeconds u = some secs) :
    secs ∈ UNIT_SECONDS := by
  unfold unitSeconds at h
  split_ifs at h <;> cases h <;> decide

theorem scaled_nonneg (secs : Nat) {count : ℚ} (h : 0 ≤ count) : 0 ≤ scaled secs count :=
  BinaryFormat.round_nonneg
    (mul_nonneg (Nat.cast_nonneg secs) (BinaryFormat.round_nonneg (by linarith)))

theorem scaled_mono (secs : Nat) {c d : ℚ} (hc : 0 ≤ c) (h : c ≤ d) :
    scaled secs c ≤ scaled secs d := by
  have hinner : single.round (1000 * c) ≤ single.round (1000 * d) :=
    BinaryFormat.round_mono (by linarith) (by linarith)
  have hpos : 0 ≤ single.round (1000 * c) := BinaryFormat.round_nonneg (by linarith)
  have hsecs : (0 : ℚ) ≤ secs := Nat.cast_nonneg secs
  exact BinaryFormat.round_mono (mul_nonneg hsecs hpos) (mul_le_mul_of_nonneg_left hinner hsecs)

theorem product_nonneg (secs : Nat) {count : ℚ} (h : 0 ≤ count) : 0 ≤ product secs count :=
  scaled_nonneg secs (BinaryFormat.round_nonneg h)

/-! ## Where a millisecond starts -/

/-- The last `float` whose product is less than one, as a number of units of a
power of two. -/
def lastBelow (secs : Nat) : Nat × Int :=
  if secs = 1 then (8589934, -33)
  else if secs = 60 then (9162596, -39)
  else if secs = 3600 then (9773436, -45)
  else (13031248, -50)

/-- Counts up to here are less than a millisecond: the middle between that
`float` and the next one, which is rounded down. -/
def leastCount (secs : Nat) : ℚ := ((lastBelow secs).1 + 1 / 2) * 2 ^ (lastBelow secs).2

/-- A product that lies below a bound for the middle of two `float`s and not
for the upper one. -/
theorem scaled_round_ge_iff {secs n : Nat} {k : Int} {t q : ℚ} (hq : 0 ≤ q) (hk : -126 ≤ k)
    (hlow : 2 ^ 23 ≤ n) (hhigh : n < 2 ^ 24)
    (hbelow : scaled secs (single.round ((n + 1 / 2) * 2 ^ (k - 23))) < t)
    (habove : t ≤ scaled secs ((n + 1) * 2 ^ (k - 23))) :
    t ≤ product secs q ↔ (n + 1 / 2) * 2 ^ (k - 23) < q := by
  have hunit : (0 : ℚ) < 2 ^ (k - 23) := zpow_pos (by norm_num) _
  constructor
  · intro h
    by_contra hle
    have hround : single.round q ≤ single.round ((n + 1 / 2) * 2 ^ (k - 23)) :=
      BinaryFormat.round_mono hq (not_lt.mp hle)
    have hscaled := scaled_mono secs (BinaryFormat.round_nonneg hq) hround
    exact absurd (h.trans hscaled) (not_le.mpr hbelow)
  · intro h
    have hround : ((n : ℚ) + 1) * 2 ^ (k - 23) ≤ single.round q :=
      BinaryFormat.succ_le_round (f := single) (by show (-149 : Int) ≤ k - 23; omega) hlow hhigh h
    exact habove.trans (scaled_mono secs (by positivity) hround)

/-- **Where a millisecond starts, and where 2^32 of them do.** -/
theorem product_ge_iff {secs : Nat} (hsecs : secs ∈ UNIT_SECONDS) {j : Nat} (hj : j ∈ [0, 32])
    {q : ℚ} (hq : 0 ≤ q) : 2 ^ j ≤ product secs q ↔ 2 ^ j * leastCount secs < q := by
  have htable : ∀ secs ∈ UNIT_SECONDS, ∀ j ∈ ([0, 32] : List Nat),
      2 ^ 23 ≤ (lastBelow secs).1 ∧ (lastBelow secs).1 < 2 ^ 24 ∧
        -126 ≤ (lastBelow secs).2 + 23 + j ∧
        scaled secs (single.round (((lastBelow secs).1 + 1 / 2) *
          2 ^ ((lastBelow secs).2 + 23 + j - 23))) < 2 ^ j ∧
        2 ^ j ≤ scaled secs (((lastBelow secs).1 + 1) *
          2 ^ ((lastBelow secs).2 + 23 + j - 23)) := by
    decide +kernel
  obtain ⟨hlow, hhigh, hk, hbelow, habove⟩ := htable secs hsecs j hj
  rw [scaled_round_ge_iff hq hk hlow hhigh hbelow habove, leastCount]
  have hpow : (2 : ℚ) ^ ((lastBelow secs).2 + 23 + j - 23) = 2 ^ (lastBelow secs).2 * 2 ^ j := by
    rw [← zpow_natCast, ← zpow_add₀ (by norm_num)]
    congr 1
    omega
  rw [hpow, ← mul_assoc, mul_comm]

theorem one_le_product_iff {secs : Nat} (hsecs : secs ∈ UNIT_SECONDS) {q : ℚ} (hq : 0 ≤ q) :
    1 ≤ product secs q ↔ leastCount secs < q := by
  have h := product_ge_iff hsecs (j := 0) (by decide) hq
  rwa [pow_zero, one_mul] at h

theorem product_lt_iff {secs : Nat} (hsecs : secs ∈ UNIT_SECONDS) {q : ℚ} (hq : 0 ≤ q) :
    product secs q < 2 ^ 32 ↔ q ≤ 2 ^ 32 * leastCount secs := by
  have h := product_ge_iff hsecs (j := 32) (by decide) hq
  exact not_le.symm.trans ((not_congr h).trans not_lt)

/-- An exact millisecond is one. -/
theorem leastCount_lt {secs : Nat} (hsecs : secs ∈ UNIT_SECONDS) {q : ℚ}
    (h : 1 ≤ secs * (q * 1000)) : leastCount secs < q := by
  have htable : ∀ secs ∈ UNIT_SECONDS, 0 < secs ∧ secs * (leastCount secs * 1000) < 1 := by
    decide +kernel
  obtain ⟨hpos, hless⟩ := htable secs hsecs
  have hpos' : (0 : ℚ) < secs := by exact_mod_cast hpos
  nlinarith

/-! ## The value as it is converted -/

theorem le_round_of_le {x : ℚ} (h : 2 ^ 32 ≤ x) : 2 ^ 32 ≤ single.round x := by
  have hexact : single.round (2 ^ 32) = 2 ^ 32 := by decide +kernel
  rw [← hexact]
  exact BinaryFormat.round_mono (by norm_num) h

theorem bound_large : (2 : ℚ) ^ 32 ≤ single.bound := by decide +kernel

/-- An overflow on the way is a product of 2^32 or more. -/
theorem floatMillis_num {secs : Nat} (hsecs : secs ∈ UNIT_SECONDS) {count : ℚ} (h : 0 ≤ count) :
    floatMillis secs (.num count) = .num (scaled secs count) ∨
      (floatMillis secs (.num count) = .inf false ∧ 2 ^ 32 ≤ scaled secs count) := by
  have hone : (1 : ℚ) ≤ secs := by
    have : ∀ secs ∈ UNIT_SECONDS, 1 ≤ secs := by decide
    exact_mod_cast this secs hsecs
  have hinner : 0 ≤ 1000 * count := by linarith
  have houter : 0 ≤ (secs : ℚ) * single.round (1000 * count) :=
    mul_nonneg (by linarith) (BinaryFormat.round_nonneg hinner)
  rw [floatMillis, FloatVal.times_num_of_nonneg hinner]
  by_cases hfirst : single.bound ≤ 1000 * count
  · rw [if_pos hfirst]
    refine .inr ⟨rfl, le_round_of_le ?_⟩
    have hlarge := le_round_of_le (bound_large.trans hfirst)
    nlinarith
  · rw [if_neg hfirst, FloatVal.times_num_of_nonneg houter]
    by_cases hsecond : single.bound ≤ secs * single.round (1000 * count)
    · rw [if_pos hsecond]
      exact .inr ⟨rfl, le_round_of_le (bound_large.trans hsecond)⟩
    · rw [if_neg hsecond]
      exact .inl rfl

/-- The conversion is defined for a product below 2^32. -/
theorem toUnsigned_floatMillis (pf : Platform) {secs : Nat} (hsecs : secs ∈ UNIT_SECONDS)
    {count : ℚ} (h : 0 ≤ count) :
    pf.toUnsigned (floatMillis secs (.num count)) =
      if scaled secs count < 2 ^ 32 then ⌊scaled secs count⌋.toNat
      else pf.castUnsigned (floatMillis secs (.num count)) := by
  have hpos : -1 < scaled secs count := by
    have := scaled_nonneg secs h
    linarith
  rcases floatMillis_num hsecs h with heq | ⟨heq, hlarge⟩
  · rw [heq, Platform.toUnsigned]
    simp only [hpos, true_and]
  · rw [heq, if_neg (not_lt.mpr hlarge)]
    rfl

/-! ## Whole counts -/

/-- The largest count up to which all products of whole counts fit into the 24
bits of a `float`; of days no more than 49 fit into an `unsigned int`. -/
def wholeLimit (secs : Nat) : Nat :=
  if secs = 1 then 134217 else if secs = 60 then 8947 else if secs = 3600 then 596 else 49

/-- The powers of two in `1000 * secs`. -/
def evenPart (secs : Nat) : Nat :=
  if secs = 1 then 3 else if secs = 60 then 5 else if secs = 3600 then 7 else 10

/-- **A whole count is exact** up to the limit. -/
theorem product_whole {secs n : Nat} (hsecs : secs ∈ UNIT_SECONDS) (hn : n ≤ wholeLimit secs) :
    product secs n = secs * (n * 1000) ∧ secs * (n * 1000) < 2 ^ 32 := by
  have htable : ∀ secs ∈ UNIT_SECONDS,
      wholeLimit secs * 125 < 2 ^ 24 ∧ wholeLimit secs * (secs * 1000) < 2 ^ 32 ∧
        secs * 1000 = secs * 1000 / 2 ^ evenPart secs * 2 ^ evenPart secs ∧
        wholeLimit secs * (secs * 1000 / 2 ^ evenPart secs) < 2 ^ 24 := by
    decide +kernel
  obtain ⟨h125, hsmall, heven, hodd⟩ := htable secs hsecs
  generalize secs * 1000 / 2 ^ evenPart secs = odd at heven hodd
  have hcount : single.round n = n := by
    have h := BinaryFormat.round_natCast_mul (f := single) (n := n) (e := 0)
      (by show n < 2 ^ 24; omega) (by decide)
    rwa [zpow_zero, mul_one] at h
  have hthousand : single.round (1000 * n) = 1000 * n := by
    have h := BinaryFormat.round_natCast_mul (f := single) (n := n * 125) (e := 3)
      (by show n * 125 < 2 ^ 24; omega) (by decide)
    have heq : ((n * 125 : Nat) : ℚ) * 2 ^ (3 : Int) = 1000 * n := by
      push_cast
      ring
    rwa [heq] at h
  have hproduct : single.round (secs * (1000 * n)) = secs * (1000 * n) := by
    have hbits : n * odd < 2 ^ 24 := (Nat.mul_le_mul_right odd hn).trans_lt hodd
    have h := BinaryFormat.round_natCast_mul (f := single) (n := n * odd) (e := evenPart secs) hbits
      ((show single.tiny ≤ 0 by decide).trans (Int.natCast_nonneg _))
    have heq : ((n * odd : Nat) : ℚ) * 2 ^ (evenPart secs : Int) = secs * (1000 * n) := by
      have hcast : (secs * 1000 : ℚ) = odd * 2 ^ evenPart secs := by exact_mod_cast heven
      rw [zpow_natCast]
      push_cast
      linear_combination (-(n : ℚ)) * hcast
    rwa [heq] at h
  refine ⟨?_, ?_⟩
  · rw [product, scaled, hcount, hthousand, hproduct]
    ring
  · have hle : n * (secs * 1000) ≤ wholeLimit secs * (secs * 1000) := Nat.mul_le_mul_right _ hn
    have heq : secs * (n * 1000) = n * (secs * 1000) := by ring
    omega

end Rpiweatherd
