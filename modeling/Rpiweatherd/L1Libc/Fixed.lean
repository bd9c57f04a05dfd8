import Rpiweatherd.L1Libc.Decimal

/-!
# `%f`: numbers with a fixed number of decimals

`printFixed k` is `sprintf("%.kf")` of a finite number: the nearest multiple
of `10 ^ (-k)`, ties to even. What is printed is read back as that multiple
(`fixedDecimal_value`), which is at most half a unit of the last place away
(`fixedValue_near`); a number with no more decimals is read back as it is
(`fixedValue_of_int`).
-/
namespace Rpiweatherd

/-! ## Printing -/

/-- The number in units of the last place, without its sign. -/
def fixedUnits (k : Nat) (q : ℚ) : Nat := (roundHalfEven (|q| * 10 ^ k)).toNat

/-- `k` digits, with zeros in front. -/
def padDigits (k n : Nat) : Bytes :=
  List.replicate (k - (printInt n).length) 48 ++ printInt n

/-- `sprintf("%.kf", q)` -/
def printFixed (k : Nat) (q : ℚ) : Bytes :=
  (if q < 0 then [45] else []) ++
    (printInt (fixedUnits k q / 10 ^ k : Nat) ++ 46 :: padDigits k (fixedUnits k q % 10 ^ k))

/-- What the text says. -/
def fixedValue (k : Nat) (q : ℚ) : ℚ :=
  if q < 0 then -(fixedUnits k q / 10 ^ k) else fixedUnits k q / 10 ^ k

example : printFixed 6 (-43 / 2) = ascii "-21.500000" := by decide +kernel

/-! ## Reading back -/

theorem padDigits_digits (k n : Nat) : ∀ b ∈ padDigits k n, isdigit b = true := by
  intro b hb
  rcases List.mem_append.mp hb with hb | hb
  · rw [List.eq_of_mem_replicate hb]
    decide
  · exact printInt_digits n b hb

/-- Digits, a point and perhaps a sign. -/
theorem mem_printFixed {k : Nat} {q : ℚ} {b : UInt8} (h : b ∈ printFixed k q) :
    isdigit b = true ∨ b = 46 ∨ b = 45 := by
  simp only [printFixed, List.mem_append, List.mem_cons] at h
  rcases h with h | h | h | h
  · split at h
    · exact .inr (.inr (List.mem_singleton.mp h))
    · cases h
  · exact .inl (printInt_digits _ b h)
  · exact .inr (.inl h)
  · exact .inl (padDigits_digits _ _ b h)

theorem padDigits_length {k n : Nat} (hk : 0 < k) (h : n < 10 ^ k) : (padDigits k n).length = k := by
  have hle := printInt_nat_length hk h
  rw [padDigits, List.length_append, List.length_replicate]
  omega

theorem digitsVal_zeros (m : Nat) (ds : Bytes) :
    digitsVal 10 (List.replicate m 48 ++ ds) = digitsVal 10 ds := by
  induction m with
  | zero => rfl
  | succ m ih =>
    rw [List.replicate_succ, List.cons_append, ← ih]
    rfl

/-- The printed number as a numeral. -/
def fixedDecimal (k : Nat) (q : ℚ) : Decimal where
  negative := if q < 0 then some true else none
  whole := printInt (fixedUnits k q / 10 ^ k : Nat)
  fraction := some (padDigits k (fixedUnits k q % 10 ^ k))
  whole_digits := printInt_digits _
  fraction_digits f hf := by
    cases hf
    exact padDigits_digits k _
  has_digit h := printInt_ne_nil _ (List.append_eq_nil_iff.mp h).1

theorem fixedDecimal_text (k : Nat) (q : ℚ) : (fixedDecimal k q).text = printFixed k q := by
  unfold Decimal.text Decimal.signText Decimal.fractionText printFixed fixedDecimal
  by_cases hq : q < 0
  · simp [hq]
  · simp [hq]

/-- **What `%f` prints** is the number rounded to its decimals. -/
theorem fixedDecimal_value {k : Nat} (hk : 0 < k) (q : ℚ) :
    (fixedDecimal k q).value = fixedValue k q := by
  have hlen : (padDigits k (fixedUnits k q % 10 ^ k)).length = k :=
    padDigits_length hk (Nat.mod_lt _ (by positivity))
  have hdigits : digitsVal 10 (printInt (fixedUnits k q / 10 ^ k : Nat) ++
      padDigits k (fixedUnits k q % 10 ^ k)) = fixedUnits k q := by
    rw [digitsVal_append, hlen, padDigits, digitsVal_zeros, digitsVal_printInt,
      digitsVal_printInt, Nat.mul_comm]
    exact Nat.div_add_mod _ _
  have hmag : (fixedDecimal k q).magnitude = fixedUnits k q / 10 ^ k := by
    simp only [Decimal.magnitude, fixedDecimal, Option.getD_some, hdigits, hlen]
    rw [zpow_neg, zpow_natCast, div_eq_mul_inv]
  unfold Decimal.value fixedValue
  rw [hmag]
  by_cases hq : q < 0
  · simp [fixedDecimal, hq]
  · simp [fixedDecimal, hq]

/-! ## Integers -/

theorem toDigits_head {n : Nat} (hpos : 0 < n) : (Nat.toDigits 10 n).head? ≠ some '0' := by
  induction n using Nat.strong_induction_on with
  | _ n ih =>
    rcases Nat.lt_or_ge n 10 with hlt | hge
    · have hdigit : ∀ n < 10, 0 < n → n.digitChar ≠ '0' := by decide
      rw [Nat.toDigits_of_lt_base hlt]
      exact fun h => hdigit n hlt hpos (Option.some.inj h)
    · rw [Nat.toDigits_of_base_le (by decide) hge,
        List.head?_append_of_ne_nil _ (Nat.toDigits_ne_nil)]
      exact ih (n / 10) (by omega) (by omega)

/-- A number is not printed with a zero in front. -/
theorem printInt_head (n : Nat) : printInt n = [48] ∨ (printInt n).head? ≠ some 48 := by
  rcases Nat.eq_zero_or_pos n with rfl | hpos
  · exact .inl (by decide)
  · right
    intro h
    rw [printInt_nat, List.head?_map, Option.map_eq_some_iff] at h
    obtain ⟨c, hc, h48⟩ := h
    have hdigit := Nat.isDigit_of_mem_toDigits (b := 10) (by decide) (by decide)
      (List.mem_of_mem_head? hc)
    have hlt := (digit_lt_128 (.inl hdigit)).1
    have hnat : c.toNat = 48 := by
      have := congrArg UInt8.toNat h48
      rwa [UInt8.toNat_ofNat', Nat.mod_eq_of_lt (by omega)] at this
    apply toDigits_head hpos
    rw [hc, ← Char.ofNat_toNat c, hnat]

theorem printInt_negSucc (m : Nat) : printInt (Int.negSucc m) = 45 :: printInt (m + 1 : Nat) := by
  show ascii ("-" ++ Nat.repr (m + 1)) = 45 :: ascii (Nat.repr (m + 1))
  rw [ascii, String.toList_append, List.map_append]
  rfl

theorem printInt_bytes (n : Int) : ∀ b ∈ printInt n, b = 45 ∨ isdigit b = true := by
  intro b hb
  cases n with
  | ofNat m => exact .inr (printInt_digits m b hb)
  | negSucc m =>
    rw [printInt_negSucc] at hb
    rcases List.mem_cons.mp hb with rfl | hb
    · exact .inl rfl
    · exact .inr (printInt_digits (m + 1) b hb)

/-- The printed number as a numeral. -/
def intDecimal (n : Int) : Decimal where
  negative := if n < 0 then some true else none
  whole := printInt n.natAbs
  fraction := none
  whole_digits := printInt_digits _
  fraction_digits := Decimal.no_fraction_digits
  has_digit h := printInt_ne_nil _ (List.append_eq_nil_iff.mp h).1

theorem intDecimal_text (n : Int) : (intDecimal n).text = printInt n := by
  unfold Decimal.text Decimal.signText Decimal.fractionText intDecimal
  cases n with
  | ofNat m =>
    rw [if_neg (by simp)]
    exact List.append_nil _
  | negSucc m =>
    rw [if_pos (Int.negSucc_lt_zero m), printInt_negSucc]
    exact congrArg _ (List.append_nil _)

theorem intDecimal_value (n : Int) : (intDecimal n).value = n := by
  have hmag : (intDecimal n).magnitude = (n.natAbs : ℚ) := by
    unfold Decimal.magnitude intDecimal
    rw [Option.getD_none, List.append_nil, digitsVal_printInt, List.length_nil]
    simp
  unfold Decimal.value
  rw [hmag]
  by_cases hn : n < 0
  · have hcast : ((n.natAbs : Nat) : ℚ) = ((-n : Int) : ℚ) := by
      rw [← Int.ofNat_natAbs_of_nonpos (le_of_lt hn)]
      rfl
    rw [hcast]
    simp [intDecimal, hn]
  · have hcast : ((n.natAbs : Nat) : ℚ) = ((n : Int) : ℚ) := by
      rw [← Int.natAbs_of_nonneg (not_lt.mp hn)]
      rfl
    rw [hcast]
    simp [intDecimal, hn]

/-! ## How far the text is off -/

theorem fixedUnits_cast (k : Nat) (q : ℚ) :
    (fixedUnits k q : ℚ) = (roundHalfEven (|q| * 10 ^ k) : ℚ) := by
  have h0 : 0 ≤ roundHalfEven (|q| * 10 ^ k) := roundHalfEven_nonneg (by positivity)
  have hcast : ((fixedUnits k q : Nat) : Int) = roundHalfEven (|q| * 10 ^ k) := Int.toNat_of_nonneg h0
  exact_mod_cast congrArg (Int.cast : Int → ℚ) hcast

theorem fixedValue_near (k : Nat) (q : ℚ) : |fixedValue k q - q| ≤ 1 / 2 / 10 ^ k := by
  have hpos : (0 : ℚ) < 10 ^ k := by positivity
  have hround := roundHalfEven_near (|q| * 10 ^ k)
  rw [← fixedUnits_cast] at hround
  have hmag : |(fixedUnits k q : ℚ) / 10 ^ k - (|q|)| ≤ 1 / 2 / 10 ^ k := by
    have hscale : ((fixedUnits k q : ℚ) / 10 ^ k - (|q|)) * 10 ^ k =
        fixedUnits k q - |q| * 10 ^ k := by
      rw [sub_mul, div_mul_cancel₀ _ hpos.ne']
    rw [le_div_iff₀ hpos]
    calc |(fixedUnits k q : ℚ) / 10 ^ k - (|q|)| * 10 ^ k
        = |((fixedUnits k q : ℚ) / 10 ^ k - (|q|)) * 10 ^ k| := by rw [abs_mul, abs_of_pos hpos]
      _ ≤ 1 / 2 := by rwa [hscale]
  unfold fixedValue
  split
  · rename_i hq
    rw [abs_of_neg hq] at hmag
    rw [← abs_neg]
    have heq : -(-((fixedUnits k q : ℚ) / 10 ^ k) - q) = (fixedUnits k q : ℚ) / 10 ^ k - -q := by ring
    rw [heq]
    exact hmag
  · rename_i hq
    rwa [abs_of_nonneg (not_lt.mp hq)] at hmag

/-- A number below `10 ^ e` has at most `e` digits before the point. -/
theorem printFixed_length {k e : Nat} {q : ℚ} (hk : 0 < k) (he : 0 < e) (h : |q| + 1 ≤ 10 ^ e) :
    (printFixed k q).length ≤ e + k + 2 := by
  have hpow : (1 : ℚ) ≤ 10 ^ k := one_le_pow₀ (by norm_num)
  have hunits : fixedUnits k q < 10 ^ e * 10 ^ k := by
    have hround := (abs_le.mp (roundHalfEven_near (|q| * 10 ^ k))).2
    rw [← fixedUnits_cast] at hround
    have hscaled : (|q| + 1) * 10 ^ k ≤ 10 ^ e * 10 ^ k := by gcongr
    have hlt : (fixedUnits k q : ℚ) < 10 ^ e * 10 ^ k := by linarith
    exact_mod_cast hlt
  have hwhole : (printInt (fixedUnits k q / 10 ^ k : Nat)).length ≤ e :=
    printInt_nat_length he (Nat.div_lt_of_lt_mul (by rwa [Nat.mul_comm]))
  have hfrac : (padDigits k (fixedUnits k q % 10 ^ k)).length = k :=
    padDigits_length hk (Nat.mod_lt _ (by positivity))
  have hsign : (if q < 0 then [45] else [] : Bytes).length ≤ 1 := by split <;> simp
  simp only [printFixed, List.length_append, List.length_cons, hfrac]
  omega

/-- A multiple of the last place is printed as it is. -/
theorem fixedValue_of_int {k : Nat} {q : ℚ} {n : Int} (h : q * 10 ^ k = n) :
    fixedValue k q = q := by
  have hpos : (0 : ℚ) < 10 ^ k := by positivity
  have habs : |q| * 10 ^ k = ((|n| : Int) : ℚ) := by
    rw [Int.cast_abs, ← h, abs_mul, abs_of_pos hpos]
  have hunits : (fixedUnits k q : ℚ) / 10 ^ k = |q| := by
    rw [fixedUnits_cast, habs, roundHalfEven_intCast, ← habs, mul_div_cancel_right₀ _ hpos.ne']
  unfold fixedValue
  rw [hunits]
  split
  · rename_i hq
    rw [abs_of_neg hq, neg_neg]
  · rename_i hq
    exact abs_of_nonneg (not_lt.mp hq)

/-- Rounding twice is rounding once. -/
theorem fixedValue_idem (k : Nat) (q : ℚ) : fixedValue k (fixedValue k q) = fixedValue k q := by
  have hpos : (10 : ℚ) ^ k ≠ 0 := by positivity
  refine fixedValue_of_int (n := if q < 0 then -(fixedUnits k q : Int) else fixedUnits k q) ?_
  unfold fixedValue
  split
  · rw [neg_mul, div_mul_cancel₀ _ hpos]
    push_cast
    rfl
  · rw [div_mul_cancel₀ _ hpos]
    push_cast
    rfl

end Rpiweatherd
