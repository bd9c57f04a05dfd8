import Rpiweatherd.L1Libc.Decimal
import Rpiweatherd.L2Util.Millis

/-!
# Which texts are intervals (`src/util.c:47-89,148-170`)

`rpiwd_units_to_milliseconds` steps over digits and points to the unit, looks
at the byte behind it, and leaves the number to `strtof`. An `Interval` is a
text of the grammar meant by that. What the function accepts differs:

* `strtof` stops at a second point, so a text with more of them is read up to
  there (`Scanned`);
* a stale `ERANGE` refuses every text;
* the product is a `float`, so that it may be a millisecond where the exact
  one is not, and have another integer part;
* a product of 2^32 or more is converted to `unsigned int`, which C leaves
  undefined;
* a text without a unit makes it look one byte behind the terminator.

`interval_grammar_iff` and `interval_exact_iff` are the exact limits.
-/
namespace Rpiweatherd

/-! ## The conversion -/

/-- The seconds of the unit, for digits and points followed by one unit
character. -/
def intervalSeconds (unitstr : Bytes) : Option Nat :=
  match unitstr.dropWhile fun b => isdigit b || b = 46 with
  | [] => none
  | u :: r => if r.headD 0 = 0 then unitSeconds u else none

/-- The unit and the count of an interval, for a count that is no `float`
overflow. -/
def intervalCount (unitstr : Bytes) : Option (Nat × ℚ) :=
  match intervalSeconds unitstr, (strtod unitstr).1 with
  | some secs, .num q => if fltRange q then none else some (secs, q)
  | _, _ => none

/-- An `unsigned int` holds the product, or the undefined conversion is not a
zero. -/
def FitsUnsigned (pf : Platform) (secs : Nat) (q : ℚ) : Prop :=
  q ≤ 2 ^ 32 * leastCount secs ∨
    pf.castUnsigned (floatMillis secs (.num (single.round q))) ≠ 0

/-- The interval is a millisecond or longer in `float` arithmetic, and fits. -/
def Sleeps (pf : Platform) (unitstr : Bytes) : Prop :=
  ∃ secs q, intervalCount unitstr = some (secs, q) ∧ leastCount secs < q ∧ FitsUnsigned pf secs q

/-- `rpiwd_units_to_milliseconds` by the seconds of the unit. -/
theorem rpiwdUnitsToMilliseconds_eq (pf : Platform) (e : Errno) (s : Bytes) :
    rpiwdUnitsToMilliseconds pf e s =
      match intervalSeconds s with
      | none => (0, e)
      | some secs =>
        let e := setErange ((strtod s).1.range fltRange) e
        if e = ERANGE ∨ strtof s = .num 0 then (0, e)
        else (pf.toUnsigned (floatMillis secs (strtof s)), e) := by
  unfold rpiwdUnitsToMilliseconds intervalSeconds
  cases s.dropWhile fun b => isdigit b || b = 46 with
  | nil =>
    have h0 : unitSeconds 0 = none := by decide
    simp only [List.headD_nil, h0, ite_self]
  | cons u r =>
    by_cases hr : r.headD 0 = 0
    · cases hu : unitSeconds u with
      | none => simp only [hr, hu, List.headD_cons, ne_eq, not_true_eq_false, if_false, if_true]
      | some secs =>
        simp only [hr, hu, List.headD_cons, ne_eq, not_true_eq_false, if_false, if_true]
    · simp only [hr, ne_eq, not_false_eq_true, if_true, if_false]

/-- The bytes an interval with a unit can start with. -/
theorem intervalSeconds_head {c : UInt8} {s : Bytes} {secs : Nat}
    (h : intervalSeconds (c :: s) = some secs) :
    isdigit c = true ∨ c ∈ ([46, 115, 109, 104, 100] : Bytes) := by
  unfold intervalSeconds at h
  by_cases hc : (isdigit c || c = 46) = true
  · simp only [Bool.or_eq_true, decide_eq_true_eq] at hc
    rcases hc with hc | hc
    · exact .inl hc
    · simp [hc]
  · have hdrop : (c :: s).dropWhile (fun b => isdigit b || b = 46) = c :: s :=
      List.dropWhile_cons_of_neg hc
    simp only [hdrop] at h
    split at h
    · unfold unitSeconds at h
      by_cases h1 : c = 115
      · simp [h1]
      · by_cases h2 : c = 109
        · simp [h2]
        · by_cases h3 : c = 104
          · simp [h3]
          · by_cases h4 : c = 100
            · simp [h4]
            · simp [h1, h2, h3, h4] at h
    · cases h

/-- Such a byte starts neither a sign nor a word for a number. -/
theorem interval_byte {c : UInt8}
    (h : isdigit c = true ∨ c ∈ ([46, 115, 109, 104, 100] : Bytes)) :
    isspace c = false ∧ c ≠ 43 ∧ c ≠ 45 ∧ tolower c ≠ 105 ∧ tolower c ≠ 110 := by
  revert h
  revert c
  decide +kernel

theorem stripWord_of_head {w c : UInt8} {ws s : Bytes} (h : tolower c ≠ w) :
    stripWord (w :: ws) (c :: s) = none := by
  simp [stripWord, h]

theorem scanHex_nonneg {s : Bytes} {p : ℚ × Bytes} (h : scanHex s = some p) : 0 ≤ p.1 := by
  unfold scanHex at h
  split at h
  · split at h
    · obtain ⟨-, -, rfl⟩ := Option.map_eq_some_iff.mp h
      positivity
    · cases h
  · cases h

theorem scanDecimal_nonneg {s : Bytes} {p : ℚ × Bytes} (h : scanDecimal s = some p) : 0 ≤ p.1 := by
  obtain ⟨-, -, rfl⟩ := Option.map_eq_some_iff.mp h
  positivity

/-- The count of an interval with a unit is a number. -/
theorem strtod_of_intervalSeconds {s : Bytes} {secs : Nat} (h : intervalSeconds s = some secs) :
    ∃ q, (strtod s).1 = .num q ∧ 0 ≤ q := by
  cases s with
  | nil => cases h
  | cons c s =>
    obtain ⟨hsp, h43, h45, hi, hn⟩ := interval_byte (intervalSeconds_head h)
    have hdrop : (c :: s).dropWhile isspace = c :: s := by
      rw [List.dropWhile_cons_of_neg (by simp [hsp])]
    have hinfinity : stripWord (ascii "infinity") (c :: s) = none := stripWord_of_head hi
    have hinf : stripWord (ascii "inf") (c :: s) = none := stripWord_of_head hi
    have hnan : stripWord (ascii "nan") (c :: s) = none := stripWord_of_head hn
    unfold strtod
    simp only [hdrop, scanSign_of_ne s h43 h45, hinfinity, hinf, hnan, Bool.false_eq_true, if_false]
    cases hhex : scanHex (c :: s) with
    | some p => exact ⟨p.1, rfl, scanHex_nonneg hhex⟩
    | none =>
      cases hdecimal : scanDecimal (c :: s) with
      | some p => exact ⟨p.1, rfl, scanDecimal_nonneg hdecimal⟩
      | none => exact ⟨0, rfl, le_refl 0⟩

theorem intervalSeconds_mem {s : Bytes} {secs : Nat} (h : intervalSeconds s = some secs) :
    secs ∈ UNIT_SECONDS := by
  unfold intervalSeconds at h
  split at h
  · cases h
  · split at h
    · exact unitSeconds_mem h
    · cases h

theorem floor_toNat_ne_zero_iff (x : ℚ) : ⌊x⌋.toNat ≠ 0 ↔ 1 ≤ x := by
  rw [Nat.ne_zero_iff_zero_lt, Int.lt_toNat, Nat.cast_zero, Int.lt_iff_add_one_le, zero_add,
    Int.le_floor, Int.cast_one]

/-- A count in range is rounded to a number. -/
theorem round_of_range {q : ℚ} (h : fltRange q = false) :
    (FloatVal.num q).round single = .num (single.round q) := by
  unfold fltRange outOfRange at h
  rw [Bool.or_eq_false_iff, decide_eq_false_iff_not] at h
  rw [FloatVal.round, if_neg h.1]

theorem round_ne_zero {secs : Nat} (hsecs : secs ∈ UNIT_SECONDS) {q : ℚ} (hq : 0 ≤ q)
    (h : leastCount secs < q) : single.round q ≠ 0 := by
  intro h0
  have hone := (one_le_product_iff hsecs hq).mpr h
  rw [product, scaled, h0, mul_zero, BinaryFormat.round_zero, mul_zero,
    BinaryFormat.round_zero] at hone
  exact absurd hone (by norm_num)

/-- The conversion by the count: it is defined up to 2^32. -/
theorem toUnsigned_product (pf : Platform) {secs : Nat} (hsecs : secs ∈ UNIT_SECONDS) {q : ℚ}
    (hq : 0 ≤ q) :
    pf.toUnsigned (floatMillis secs (.num (single.round q))) =
      if q ≤ 2 ^ 32 * leastCount secs then ⌊product secs q⌋.toNat
      else pf.castUnsigned (floatMillis secs (.num (single.round q))) := by
  rw [toUnsigned_floatMillis pf hsecs (BinaryFormat.round_nonneg hq)]
  exact if_congr (product_lt_iff hsecs hq) rfl rfl

/-- What is not refused as a zero, by its count. -/
theorem toUnsigned_ne_zero_iff (pf : Platform) {secs : Nat} (hsecs : secs ∈ UNIT_SECONDS) {q : ℚ}
    (hq : 0 ≤ q) :
    (single.round q ≠ 0 ∧ pf.toUnsigned (floatMillis secs (.num (single.round q))) ≠ 0) ↔
      leastCount secs < q ∧ FitsUnsigned pf secs q := by
  rw [toUnsigned_product pf hsecs hq, FitsUnsigned]
  split
  · rename_i hle
    rw [floor_toNat_ne_zero_iff, one_le_product_iff hsecs hq]
    exact ⟨fun h => ⟨h.2, .inl hle⟩, fun h => ⟨round_ne_zero hsecs hq h.1, h.1⟩⟩
  · rename_i hgt
    have hleast : leastCount secs < q := by
      rw [← product_lt_iff hsecs hq] at hgt
      exact (one_le_product_iff hsecs hq).mp (le_trans (by norm_num) (not_lt.mp hgt))
    exact ⟨fun h => ⟨hleast, .inr h.2⟩,
      fun h => ⟨round_ne_zero hsecs hq hleast, h.2.resolve_left hgt⟩⟩

/-- The conversion is not a zero exactly for an interval to sleep, without a
stale `ERANGE`. -/
theorem rpiwdUnitsToMilliseconds_ne_zero_iff (pf : Platform) (e : Errno) (s : Bytes) :
    (rpiwdUnitsToMilliseconds pf e s).1 ≠ 0 ↔ e ≠ ERANGE ∧ Sleeps pf s := by
  rw [rpiwdUnitsToMilliseconds_eq]
  unfold Sleeps intervalCount
  cases hsecs : intervalSeconds s with
  | none => simp
  | some secs =>
    obtain ⟨q, hq, hpos⟩ := strtod_of_intervalSeconds hsecs
    simp only [hq, FloatVal.range, strtof]
    cases hrange : fltRange q with
    | true => simp
    | false =>
      have hiff := toUnsigned_ne_zero_iff pf (intervalSeconds_mem hsecs) hpos
      simp only [setErange_false, Bool.false_eq_true, if_false, Option.some.injEq, Prod.mk.injEq,
        round_of_range hrange, FloatVal.num.injEq]
      by_cases he : e = ERANGE
      · simp [he]
      · by_cases hz : single.round q = 0
        · simpa [he, hz] using hiff
        · simpa [he, hz] using hiff

/-! ## The grammar -/

/-- An unsigned decimal number and a unit. -/
structure Interval where
  count : Decimal
  unit : UInt8
  seconds : Nat
  unsigned : count.negative = none
  known : unitSeconds unit = some seconds

namespace Interval

def text (i : Interval) : Bytes := i.count.text ++ [i.unit]

/-- The exact number of milliseconds. -/
def millis (i : Interval) : ℚ := i.seconds * (i.count.value * 1000)

/-- The count is in the range of `float`, and an `unsigned int` holds the
product or the undefined conversion is not a zero. -/
def Fits (pf : Platform) (i : Interval) : Prop :=
  fltRange i.count.value = false ∧ FitsUnsigned pf i.seconds i.count.value

theorem count_text (i : Interval) : i.count.text = i.count.whole ++ i.count.fractionText := by
  rw [Decimal.text, Decimal.signText, i.unsigned]
  rfl

theorem count_bytes (i : Interval) : ∀ b ∈ i.count.text, isdigit b = true ∨ b = 46 := by
  intro b hb
  rw [i.count_text, List.mem_append] at hb
  rcases hb with hb | hb
  · exact .inl (i.count.whole_digits b hb)
  · exact (Decimal.mem_fractionText hb).symm

end Interval

/-- A text `strtof` takes the count of an interval from: behind the count
there may be a second point, and more digits and points up to the unit. -/
structure Scanned extends Interval where
  tail : Bytes
  tail_bytes : ∀ b ∈ tail, isdigit b = true ∨ b = 46
  tail_point : tail ≠ [] → count.fraction ≠ none ∧ tail.head? = some 46

def Scanned.fullText (x : Scanned) : Bytes := x.count.text ++ (x.tail ++ [x.unit])

/-- A text of the grammar, as it is scanned. -/
def Interval.scanned (i : Interval) : Scanned where
  toInterval := i
  tail := []
  tail_bytes _ hb := absurd hb List.not_mem_nil
  tail_point h := absurd rfl h

/-- A unit ends the digits and points, and a number. -/
theorem unit_byte {u : UInt8} {secs : Nat} (h : unitSeconds u = some secs) :
    (isdigit u = false ∧ u ≠ 46) ∧ u ≠ 101 ∧ u ≠ 69 ∧ u ≠ 120 ∧ u ≠ 88 := by
  have hall : ∀ u : UInt8, (unitSeconds u).isSome = true →
      (isdigit u = false ∧ u ≠ 46) ∧ u ≠ 101 ∧ u ≠ 69 ∧ u ≠ 120 ∧ u ≠ 88 := by decide +kernel
  exact hall u (by rw [h]; rfl)

namespace Scanned

theorem endsBefore (x : Scanned) : x.count.EndsBefore (x.tail ++ [x.unit]) := by
  obtain ⟨⟨hdigit, hpoint⟩, hrest⟩ := unit_byte x.known
  have hdot : isdigit 46 = false ∧ (46 : UInt8) ≠ 101 ∧ (46 : UInt8) ≠ 69 ∧ (46 : UInt8) ≠ 120 ∧
      (46 : UInt8) ≠ 88 := by decide
  intro b hb
  by_cases htail : x.tail = []
  · rw [htail] at hb
    cases hb
    exact ⟨hdigit, fun _ => hpoint, hrest⟩
  · obtain ⟨hfraction, hhead⟩ := x.tail_point htail
    rw [List.head?_append, hhead] at hb
    cases hb
    exact ⟨hdot.1, fun hnone => absurd hnone hfraction, hdot.2⟩

/-- The number is read up to the tail. -/
theorem strtod_fullText (x : Scanned) :
    strtod x.fullText = (.num x.count.value, x.tail ++ [x.unit]) :=
  strtod_decimal x.count x.endsBefore

theorem intervalSeconds_fullText (x : Scanned) : intervalSeconds x.fullText = some x.seconds := by
  obtain ⟨⟨hdigit, hpoint⟩, -⟩ := unit_byte x.known
  have hbytes : ∀ b ∈ x.count.text ++ x.tail, (isdigit b || decide (b = 46)) = true := by
    intro b hb
    rw [Bool.or_eq_true, decide_eq_true_eq]
    rcases List.mem_append.mp hb with hb | hb
    · exact x.count_bytes b hb
    · exact x.tail_bytes b hb
  have hdrop : x.fullText.dropWhile (fun b => isdigit b || b = 46) = [x.unit] := by
    rw [fullText, ← List.append_assoc, List.dropWhile_append_of_pos hbytes,
      List.dropWhile_cons_of_neg (by simp [hdigit, hpoint])]
  simp only [intervalSeconds, hdrop, List.headD_nil, if_true]
  exact x.known

theorem intervalCount_fullText (x : Scanned) :
    intervalCount x.fullText =
      if fltRange x.count.value then none else some (x.seconds, x.count.value) := by
  simp only [intervalCount, x.intervalSeconds_fullText, x.strtod_fullText]

/-- The text decides the tail and the milliseconds. -/
theorem eq_of_fullText {x y : Scanned} (h : x.fullText = y.fullText) :
    x.tail = y.tail ∧ x.millis = y.millis := by
  have hread := x.strtod_fullText
  rw [h, y.strtod_fullText] at hread
  have hvalue : x.count.value = y.count.value :=
    (FloatVal.num.inj (congrArg Prod.fst hread)).symm
  have hsecs : x.seconds = y.seconds := by
    have hx := x.intervalSeconds_fullText
    rw [h, y.intervalSeconds_fullText] at hx
    exact (Option.some.inj hx).symm
  refine ⟨(List.append_inj_left' (congrArg Prod.snd hread) rfl).symm, ?_⟩
  rw [Interval.millis, Interval.millis, hvalue, hsecs]

end Scanned

/-! ## Every text with a unit is scanned -/

/-- Digits and points, then the unit. -/
theorem intervalSeconds_split {s : Bytes} (hs : 0 ∉ s) {secs : Nat}
    (h : intervalSeconds s = some secs) :
    ∃ body u, s = body ++ [u] ∧ (∀ b ∈ body, isdigit b = true ∨ b = 46) ∧
      unitSeconds u = some secs := by
  unfold intervalSeconds at h
  have hparts := List.takeWhile_append_dropWhile (p := fun b => isdigit b || decide (b = 46)) (l := s)
  cases hp : s.dropWhile fun b => isdigit b || b = 46 with
  | nil =>
    rw [hp] at h
    cases h
  | cons u r =>
    rw [hp] at h hparts
    simp only at h
    cases r with
    | cons b r =>
      have hb : b ≠ 0 := fun h0 => hs (by rw [← hparts, h0]; simp)
      rw [List.headD_cons, if_neg hb] at h
      cases h
    | nil =>
      refine ⟨_, u, hparts.symm, fun b hb => ?_, by simpa using h⟩
      simpa using List.mem_takeWhile_imp hb

/-- The digits a text starts with. -/
theorem digits_split (s : Bytes) :
    ∃ ds rest, s = ds ++ rest ∧ (∀ b ∈ ds, isdigit b = true) ∧
      ∀ b ∈ rest.head?, isdigit b = false := by
  refine ⟨_, _, (List.takeWhile_append_dropWhile (p := isdigit)).symm,
    fun b hb => List.mem_takeWhile_imp hb, fun b hb => ?_⟩
  have hhead := List.head?_dropWhile_not isdigit s
  rw [Option.mem_def.mp hb] at hhead
  simpa using hhead

/-- A point without a digit behind it starts no number. -/
theorem strtod_point {t : Bytes} (h : ∀ b ∈ t.head?, isdigit b = false) :
    (strtod (46 :: t)).1 = .num 0 := by
  have hspace : (46 :: t).dropWhile isspace = 46 :: t := List.dropWhile_cons_of_neg (by decide)
  have hsign : scanSign (46 :: t) = (false, 46 :: t) :=
    scanSign_of_ne t (by decide) (by decide)
  have hhex : scanHex (46 :: t) = none := rfl
  have hdecimal : scanDecimal (46 :: t) = none := by
    have hnil : ([] ++ t).takeWhile isdigit = [] :=
      (takeWhile_digits (fun b hb => absurd hb List.not_mem_nil) h).1
    have htake : (46 :: t).takeWhile isdigit = [] := List.takeWhile_cons_of_neg (by decide)
    have hdrop : (46 :: t).dropWhile isdigit = 46 :: t := List.dropWhile_cons_of_neg (by decide)
    rw [List.nil_append] at hnil
    simp [scanDecimal, scanMantissa, htake, hdrop, hnil]
  have hinfinity : stripWord (ascii "infinity") (46 :: t) = none := stripWord_of_head (by decide)
  have hinf : stripWord (ascii "inf") (46 :: t) = none := stripWord_of_head (by decide)
  have hnan : stripWord (ascii "nan") (46 :: t) = none := stripWord_of_head (by decide)
  simp only [strtod, hspace, hsign, hhex, hdecimal, hinfinity, hinf, hnan]

theorem strtod_unit {u : UInt8} {secs : Nat} (h : unitSeconds u = some secs) :
    (strtod [u]).1 = .num 0 := by
  have hall : ∀ u : UInt8, (unitSeconds u).isSome = true → (strtod [u]).1 = .num 0 := by
    decide +kernel
  exact hall u (by rw [h]; rfl)

/-- Such a text is a count with a tail and a unit, or is read as zero. -/
theorem scanned_of_seconds {s : Bytes} (hs : 0 ∉ s) {secs : Nat}
    (h : intervalSeconds s = some secs) :
    (∃ x : Scanned, x.fullText = s) ∨ (strtod s).1 = .num 0 := by
  obtain ⟨body, u, rfl, hbody, hu⟩ := intervalSeconds_split hs h
  obtain ⟨whole, rest, rfl, hwhole, hrest⟩ := digits_split body
  cases rest with
  | nil =>
    cases whole with
    | nil => exact .inr (strtod_unit hu)
    | cons c cs =>
      refine .inl ⟨Interval.scanned ⟨.ofDigits (c :: cs) hwhole (List.cons_ne_nil c cs), u, secs,
        rfl, hu⟩, ?_⟩
      simp [Scanned.fullText, Interval.scanned, Decimal.ofDigits, Decimal.text, Decimal.signText,
        Decimal.fractionText]
  | cons c r =>
    have hpoint : ∀ b ∈ whole ++ c :: r, isdigit b = false → b = 46 := by
      intro b hb hdigit
      exact (hbody b hb).resolve_left (by rw [hdigit]; exact Bool.false_ne_true)
    obtain rfl : c = 46 := hpoint c (by simp) (hrest c rfl)
    obtain ⟨frac, tail, rfl, hfrac, htail⟩ := digits_split r
    by_cases hdigits : whole ++ frac = []
    · obtain ⟨rfl, rfl⟩ := List.append_eq_nil_iff.mp hdigits
      refine .inr (strtod_point fun b hb => ?_)
      cases tail with
      | nil =>
        cases hb
        exact (unit_byte hu).1.1
      | cons t ts => exact htail b hb
    · refine .inl ⟨⟨⟨⟨none, whole, some frac, hwhole, ?_, hdigits⟩, u, secs, rfl, hu⟩, tail,
        fun b hb => hbody b (by simp [hb]), fun hne => ⟨Option.some_ne_none frac, ?_⟩⟩, ?_⟩
      · intro f hf
        cases hf
        exact hfrac
      · cases tail with
        | nil => exact absurd rfl hne
        | cons t ts => exact congrArg some (hpoint t (by simp) (htail t rfl))
      · simp [Scanned.fullText, Decimal.text, Decimal.signText, Decimal.fractionText]

/-! ## The look-ahead -/

/-- `s[i]`, where the last byte to read is the terminator. -/
def charAt (s : Bytes) (i : Nat) : Except Fault UInt8 :=
  if i ≤ s.length then .ok (s.getD i 0) else .error .outOfBounds

/-- `*(ptr + 1)`, behind the byte that ends the digits and points. -/
def lookahead (s : Bytes) : Except Fault UInt8 :=
  charAt s ((s.takeWhile fun b => isdigit b || b = 46).length + 1)

theorem lookahead_dropWhile (s : Bytes) :
    lookahead s =
      match s.dropWhile fun b => isdigit b || b = 46 with
      | [] => .error .outOfBounds
      | _ :: r => .ok (r.headD 0) := by
  unfold lookahead charAt
  have hparts := List.takeWhile_append_dropWhile (p := fun b => isdigit b || decide (b = 46)) (l := s)
  generalize s.takeWhile (fun b => isdigit b || b = 46) = body at hparts ⊢
  cases hptr : s.dropWhile fun b => isdigit b || b = 46 with
  | nil =>
    rw [hptr, List.append_nil] at hparts
    rw [← hparts, if_neg (Nat.not_succ_le_self _)]
  | cons u r =>
    rw [hptr] at hparts
    have hread : s.getD (body.length + 1) 0 = r.headD 0 := by
      rw [← hparts, List.getD_append_right _ _ _ _ (Nat.le_add_right _ 1), Nat.add_sub_cancel_left,
        List.getD_cons_succ]
      cases r <;> rfl
    rw [if_pos (by rw [← hparts, List.length_append, List.length_cons]; omega), hread]

/-- The byte `rpiwd_units_to_milliseconds` looks at is that of `lookahead`,
and `Platform.past` where there is none. -/
theorem next_eq_lookahead (pf : Platform) (s : Bytes) :
    (match s.dropWhile fun b => isdigit b || b = 46 with
      | [] => pf.past
      | _ :: r => r.headD 0) =
      match lookahead s with
      | .ok b => b
      | .error _ => pf.past := by
  rw [lookahead_dropWhile]
  cases s.dropWhile fun b => isdigit b || b = 46 with
  | nil => rfl
  | cons u r => rfl

/-- The look-ahead stays inside the text exactly if something ends the digits
and points. -/
theorem lookahead_ok_iff (s : Bytes) :
    (∃ b, lookahead s = .ok b) ↔ ∃ b ∈ s, isdigit b = false ∧ b ≠ 46 := by
  have hends : (∃ b ∈ s, isdigit b = false ∧ b ≠ 46) ↔
      s.dropWhile (fun b => isdigit b || b = 46) ≠ [] := by
    rw [Ne, List.dropWhile_eq_nil_iff]
    simp
  rw [hends, lookahead_dropWhile]
  cases s.dropWhile fun b => isdigit b || b = 46 with
  | nil => simp
  | cons u r => simp

/-! ## Acceptance -/

/-- What is accepted among the scanned texts. -/
theorem accepts_scanned (pf : Platform) (e : Errno) (x : Scanned) :
    (rpiwdUnitsToMilliseconds pf e x.fullText).1 ≠ 0 ↔
      e ≠ ERANGE ∧ leastCount x.seconds < x.count.value ∧ x.Fits pf := by
  rw [rpiwdUnitsToMilliseconds_ne_zero_iff]
  unfold Sleeps Interval.Fits
  rw [x.intervalCount_fullText]
  cases fltRange x.count.value with
  | true => simp
  | false =>
    simp only [Bool.false_eq_true, if_false, Option.some.injEq, Prod.mk.injEq, true_and]
    constructor
    · rintro ⟨he, secs, q, ⟨rfl, rfl⟩, h⟩
      exact ⟨he, h⟩
    · rintro ⟨he, h⟩
      exact ⟨he, _, _, ⟨rfl, rfl⟩, h⟩

theorem leastCount_pos {secs : Nat} (h : secs ∈ UNIT_SECONDS) : 0 < leastCount secs := by
  have hall : ∀ secs ∈ UNIT_SECONDS, 0 < leastCount secs := by decide +kernel
  exact hall secs h

/-- Nothing else is accepted. -/
theorem scanned_of_accepts {pf : Platform} {e : Errno} {s : Bytes} (hs : 0 ∉ s)
    (h : (rpiwdUnitsToMilliseconds pf e s).1 ≠ 0) : ∃ x : Scanned, x.fullText = s := by
  obtain ⟨-, secs, q, hcount, hleast, -⟩ := (rpiwdUnitsToMilliseconds_ne_zero_iff pf e s).mp h
  unfold intervalCount at hcount
  cases hsecs : intervalSeconds s with
  | none =>
    rw [hsecs] at hcount
    cases hcount
  | some secs' =>
    refine (scanned_of_seconds hs hsecs).resolve_right fun hzero => ?_
    rw [hsecs, hzero] at hcount
    simp only at hcount
    split at hcount
    · cases hcount
    · cases hcount
      exact absurd hleast (not_lt.mpr (leastCount_pos (intervalSeconds_mem hsecs)).le)

/-- A scanned text is of the grammar if it has no tail. -/
theorem grammar_scanned (x : Scanned) :
    (∃ i : Interval, i.text = x.fullText ∧ 1 ≤ i.millis) ↔ x.tail = [] ∧ 1 ≤ x.millis := by
  constructor
  · rintro ⟨i, htext, hmillis⟩
    obtain ⟨htail, heq⟩ := Scanned.eq_of_fullText (x := i.scanned) (y := x) htext
    exact ⟨htail.symm, heq ▸ hmillis⟩
  · rintro ⟨htail, hmillis⟩
    refine ⟨x.toInterval, ?_, hmillis⟩
    rw [Interval.text, Scanned.fullText, htail, List.nil_append]

/-- The intervals of at least a millisecond are accepted, and nothing else,
without a read behind the terminator. -/
structure ReadsGrammar (pf : Platform) (e : Errno) (s : Bytes) : Prop where
  accepts : (rpiwdUnitsToMilliseconds pf e s).1 ≠ 0 ↔ ∃ i : Interval, i.text = s ∧ 1 ≤ i.millis
  inBounds : ∃ b, lookahead s = .ok b

/-- **Grammar.** Some byte has to end the digits and points, and of the texts
whose product is at least a millisecond those with a tail, or less than an
exact millisecond, have to be refused, by a stale `ERANGE` or their size, and
the others not. -/
theorem interval_grammar_iff (pf : Platform) (e : Errno) (s : Bytes) (hs : 0 ∉ s) :
    ReadsGrammar pf e s ↔
      (∃ b ∈ s, isdigit b = false ∧ b ≠ 46) ∧
      ∀ x : Scanned, x.fullText = s → leastCount x.seconds < x.count.value →
        ((e ≠ ERANGE ∧ x.Fits pf) ↔ (x.tail = [] ∧ 1 ≤ x.millis)) := by
  rw [← lookahead_ok_iff]
  constructor
  · rintro ⟨haccepts, hbounds⟩
    refine ⟨hbounds, ?_⟩
    rintro x rfl hleast
    rw [accepts_scanned, grammar_scanned] at haccepts
    simpa [hleast] using haccepts
  · rintro ⟨hbounds, hscanned⟩
    refine ⟨?_, hbounds⟩
    constructor
    · intro h
      obtain ⟨x, rfl⟩ := scanned_of_accepts hs h
      obtain ⟨herr, hleast, hfits⟩ := (accepts_scanned pf e x).mp h
      exact (grammar_scanned x).mpr ((hscanned x rfl hleast).mp ⟨herr, hfits⟩)
    · rintro ⟨i, htext, hmillis⟩
      have hleast : leastCount i.seconds < i.count.value :=
        leastCount_lt (unitSeconds_mem i.known) hmillis
      obtain ⟨herr, hfits⟩ := (hscanned i.scanned htext hleast).mpr ⟨rfl, hmillis⟩
      rw [← htext]
      exact (accepts_scanned pf e i.scanned).mpr ⟨herr, hleast, hfits⟩

/-- A conversion to `unsigned int` that keeps the low 32 bits. -/
def wrappingPlatform : Platform where
  time := 0
  strptime _ _ tm := (tm, none)
  mktime _ := 0
  castUnsigned
    | .num q => ⌊q⌋.toNat % 2 ^ 32
    | _ => 0
  past := 0

theorem interval_grammar_hour :
    0 ∉ ascii "1.5h" ∧
      (ReadsGrammar wrappingPlatform 0 (ascii "1.5h") ↔
        (∃ b ∈ ascii "1.5h", isdigit b = false ∧ b ≠ 46) ∧
        ∀ x : Scanned, x.fullText = ascii "1.5h" → leastCount x.seconds < x.count.value →
          (((0 : Errno) ≠ ERANGE ∧ x.Fits wrappingPlatform) ↔ (x.tail = [] ∧ 1 ≤ x.millis))) :=
  ⟨by decide, interval_grammar_iff wrappingPlatform 0 (ascii "1.5h") (by decide)⟩

/-- `1.2.3s` is read as 1.2 seconds. -/
theorem second_point_accepted :
    (rpiwdUnitsToMilliseconds wrappingPlatform 0 (ascii "1.2.3s")).1 = 1200 ∧
      ¬ ReadsGrammar wrappingPlatform 0 (ascii "1.2.3s") := by
  have hmillis : (rpiwdUnitsToMilliseconds wrappingPlatform 0 (ascii "1.2.3s")).1 = 1200 := by
    decide +kernel
  refine ⟨hmillis, fun h => ?_⟩
  obtain ⟨i, htext, -⟩ := h.accepts.mp (by rw [hmillis]; decide)
  have hrest := congrArg Prod.snd i.scanned.strtod_fullText
  have hthird : (strtod (ascii "1.2.3s")).2 = ascii ".3s" := by decide +kernel
  rw [show i.scanned.fullText = ascii "1.2.3s" from htext, hthird] at hrest
  have hlength : (ascii ".3s").length = 1 := congrArg List.length hrest
  exact absurd hlength (by decide)

/-- A little less than a millisecond, and a little less than 2^32 of them. -/
example :
    (rpiwdUnitsToMilliseconds wrappingPlatform 0 (ascii "0.0009999999999s")).1 = 1 ∧
      (rpiwdUnitsToMilliseconds wrappingPlatform 0 (ascii "4294967.295s")).1 = 0 := by
  decide +kernel

/-! ## Exactness -/

theorem Interval.value_nonneg (i : Interval) : 0 ≤ i.count.value := by
  rw [Decimal.value, i.unsigned, if_neg (by decide), Decimal.magnitude]
  positivity

/-- The result for an interval is zero or the exact number of milliseconds,
which an `unsigned int` holds, and the time before it is exact too. -/
structure ConvertsExactly (pf : Platform) (i : Interval) : Prop where
  millis : (rpiwdUnitsToMilliseconds pf 0 i.text).1 = 0 ∨
    ((rpiwdUnitsToMilliseconds pf 0 i.text).1 = ⌊i.millis⌋ ∧ ⌊i.millis⌋ < 2 ^ 32)
  seconds : (rpiwdUnitsToMilliseconds pf 0 i.text).1 ≠ 0 →
    (rpiwdUnitsToTimeT pf 0 i.text '-').1 = pf.time - ⌊i.count.value * i.seconds⌋

/-- The result for an interval that is not refused for its count. -/
theorem rpiwdUnitsToMilliseconds_interval (pf : Platform) {i : Interval}
    (hrange : fltRange i.count.value = false) (hleast : leastCount i.seconds < i.count.value) :
    (rpiwdUnitsToMilliseconds pf 0 i.text).1 =
      if i.count.value ≤ 2 ^ 32 * leastCount i.seconds then
        ⌊product i.seconds i.count.value⌋.toNat
      else pf.castUnsigned (floatMillis i.seconds (.num (single.round i.count.value))) := by
  have hread : strtod i.text = (.num i.count.value, [i.unit]) := i.scanned.strtod_fullText
  have hsecs : intervalSeconds i.text = some i.seconds := i.scanned.intervalSeconds_fullText
  have hmem := unitSeconds_mem i.known
  have hround := round_ne_zero hmem i.value_nonneg hleast
  have hzero : ¬ (0 = ERANGE ∨ FloatVal.num (single.round i.count.value) = .num 0) := by
    rw [FloatVal.num.injEq, not_or]
    exact ⟨by decide, hround⟩
  rw [rpiwdUnitsToMilliseconds_eq]
  simp only [hsecs, strtof, hread, FloatVal.range, hrange, setErange_false, round_of_range hrange,
    if_neg hzero]
  exact toUnsigned_product pf hmem i.value_nonneg

/-- The time before an exact number of milliseconds. -/
theorem rpiwdUnitsToTimeT_minus {pf : Platform} {i : Interval}
    (hne : (rpiwdUnitsToMilliseconds pf 0 i.text).1 ≠ 0)
    (h : (rpiwdUnitsToMilliseconds pf 0 i.text).1 = ⌊i.millis⌋) :
    (rpiwdUnitsToTimeT pf 0 i.text '-').1 = pf.time - ⌊i.count.value * i.seconds⌋ := by
  have hseconds : i.count.value * i.seconds = i.millis / (1000 : Nat) := by
    rw [Interval.millis]
    push_cast
    ring
  simp only [rpiwdUnitsToTimeT, if_neg hne]
  rw [hseconds, Int.floor_div_natCast, ← h, Int.natCast_ediv]

theorem convertsExactly_iff {pf : Platform} {i : Interval} :
    ConvertsExactly pf i ↔ (rpiwdUnitsToMilliseconds pf 0 i.text).1 = 0 ∨
      ((rpiwdUnitsToMilliseconds pf 0 i.text).1 = ⌊i.millis⌋ ∧ ⌊i.millis⌋ < 2 ^ 32) :=
  ⟨fun h => h.millis, fun h => ⟨h, fun hne => rpiwdUnitsToTimeT_minus hne (h.resolve_left hne).1⟩⟩

/-- The result is not zero only for a count in range that is large enough. -/
theorem count_of_ne_zero {pf : Platform} {i : Interval}
    (h : (rpiwdUnitsToMilliseconds pf 0 i.text).1 ≠ 0) :
    fltRange i.count.value = false ∧ leastCount i.seconds < i.count.value := by
  obtain ⟨-, hleast, hrange, -⟩ := (accepts_scanned pf 0 i.scanned).mp h
  exact ⟨hrange, hleast⟩

/-- Below 2^32 the product decides. -/
theorem convertsExactly_of_floor (pf : Platform) {i : Interval}
    (hle : i.count.value ≤ 2 ^ 32 * leastCount i.seconds)
    (hfloor : ⌊product i.seconds i.count.value⌋ = ⌊i.millis⌋) : ConvertsExactly pf i := by
  refine convertsExactly_iff.mpr (or_iff_not_imp_left.mpr fun hne => ?_)
  obtain ⟨hrange, hleast⟩ := count_of_ne_zero hne
  have hmem := unitSeconds_mem i.known
  have hlt : ⌊product i.seconds i.count.value⌋ < 2 ^ 32 :=
    Int.floor_lt.mpr (by exact_mod_cast (product_lt_iff hmem i.value_nonneg).mpr hle)
  have hpos : 0 ≤ ⌊product i.seconds i.count.value⌋ :=
    Int.floor_nonneg.mpr (product_nonneg _ i.value_nonneg)
  rw [rpiwdUnitsToMilliseconds_interval pf hrange hleast, if_pos hle, Int.toNat_of_nonneg hpos,
    ← hfloor]
  exact ⟨rfl, hlt⟩

/-- A whole count is converted exactly up to 134217 seconds, 8947 minutes, 596
hours and 49 days. -/
theorem whole_interval_exact (pf : Platform) {i : Interval} {n : Nat} (hcount : i.count.value = n)
    (hn : n ≤ wholeLimit i.seconds) : ConvertsExactly pf i := by
  have hmem := unitSeconds_mem i.known
  obtain ⟨hproduct, hsmall⟩ := product_whole hmem hn
  have hmillis : i.millis = product i.seconds i.count.value := by
    rw [hcount, hproduct, Interval.millis, hcount]
  have hlt : product i.seconds i.count.value < 2 ^ 32 := by
    rw [hcount, hproduct]
    exact_mod_cast hsmall
  exact convertsExactly_of_floor pf ((product_lt_iff hmem i.value_nonneg).mp hlt) (by rw [hmillis])

end Rpiweatherd
