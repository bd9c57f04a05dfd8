import Rpiweatherd.L1Libc.Numeral

/-!
# Decimal numerals, read and printed

A `Decimal` is a number as it is written: digits with an optional sign and an
optional fraction. `strtod` reads its text as its value, whatever follows, as
long as that does not go on with the number (`strtod_decimal`).

`printInt` is `%d` of `printf`. What it prints is read back as the number
(`digitsVal_printInt`), and two numbers with a point between them are the
numeral they look like (`strtod_numeral`).
-/
namespace Rpiweatherd

/-! ## Reading -/

/-- Digits with an optional sign and an optional fraction. -/
structure Decimal where
  negative : Option Bool
  whole : Bytes
  fraction : Option Bytes
  whole_digits : ∀ b ∈ whole, isdigit b = true
  fraction_digits : ∀ f ∈ fraction, ∀ b ∈ f, isdigit b = true
  has_digit : whole ++ fraction.getD [] ≠ []

namespace Decimal

theorem no_fraction_digits : ∀ f ∈ (none : Option Bytes), ∀ b ∈ f, isdigit b = true :=
  fun f hf => absurd hf (Option.not_mem_none f)

/-- Digits alone. -/
def ofDigits (ds : Bytes) (h : ∀ b ∈ ds, isdigit b = true) (hne : ds ≠ []) : Decimal where
  negative := none
  whole := ds
  fraction := none
  whole_digits := h
  fraction_digits := no_fraction_digits
  has_digit h0 := hne (List.append_eq_nil_iff.mp h0).1

/-- `+` or `-`, if there is a sign. -/
def signText (d : Decimal) : Bytes :=
  match d.negative with
  | none => []
  | some false => [43]
  | some true => [45]

def fractionText (d : Decimal) : Bytes :=
  match d.fraction with
  | none => []
  | some f => 46 :: f

def text (d : Decimal) : Bytes := d.signText ++ (d.whole ++ d.fractionText)

def magnitude (d : Decimal) : ℚ :=
  (digitsVal 10 (d.whole ++ d.fraction.getD []) : ℚ) * 10 ^ (-((d.fraction.getD []).length : Int))

def value (d : Decimal) : ℚ := if d.negative = some true then -d.magnitude else d.magnitude

theorem mem_signText {d : Decimal} {b : UInt8} (h : b ∈ d.signText) : b = 43 ∨ b = 45 := by
  unfold signText at h
  split at h
  · cases h
  · exact .inl (List.mem_singleton.mp h)
  · exact .inr (List.mem_singleton.mp h)

theorem mem_fractionText {d : Decimal} {b : UInt8} (h : b ∈ d.fractionText) :
    b = 46 ∨ isdigit b = true := by
  unfold fractionText at h
  split at h
  · cases h
  · rename_i f hf
    rcases List.mem_cons.mp h with rfl | h
    · exact .inl rfl
    · exact .inr (d.fraction_digits f hf b h)

end Decimal

/-- What does not go on with a number: no digit, exponent or mark of a
hexadecimal number, and no point either unless there was one. -/
def Decimal.EndsBefore (d : Decimal) (rest : Bytes) : Prop :=
  ∀ b ∈ rest.head?,
    isdigit b = false ∧ (d.fraction = none → b ≠ 46) ∧ b ≠ 101 ∧ b ≠ 69 ∧ b ≠ 120 ∧ b ≠ 88

theorem Decimal.endsBefore_nil (d : Decimal) : d.EndsBefore [] :=
  fun _ hb => absurd hb (Option.not_mem_none _)

theorem takeWhile_digits {ds rest : Bytes} (h : ∀ b ∈ ds, isdigit b = true)
    (hrest : ∀ b ∈ rest.head?, isdigit b = false) :
    (ds ++ rest).takeWhile isdigit = ds ∧ (ds ++ rest).dropWhile isdigit = rest := by
  have hnil : rest.takeWhile isdigit = [] ∧ rest.dropWhile isdigit = rest := by
    cases rest with
    | nil => exact ⟨rfl, rfl⟩
    | cons b rest => simp [hrest b rfl]
  rw [List.takeWhile_append_of_pos h, List.dropWhile_append_of_pos h, hnil.1, hnil.2,
    List.append_nil]
  exact ⟨rfl, rfl⟩

theorem scanMantissa_decimal (d : Decimal) {rest : Bytes} (h : d.EndsBefore rest) :
    scanMantissa isdigit (d.whole ++ (d.fractionText ++ rest)) =
      some (d.whole, d.fraction.getD [], rest) := by
  have hdigits := d.has_digit
  unfold scanMantissa Decimal.fractionText
  cases hf : d.fraction with
  | none =>
    obtain ⟨htake, hdrop⟩ := takeWhile_digits d.whole_digits fun b hb => (h b hb).1
    rw [hf, Option.getD_none, List.append_nil] at hdigits
    simp only [List.nil_append, htake, hdrop, Option.getD_none]
    split
    · rename_i r
      exact absurd rfl ((h 46 rfl).2.1 hf)
    · rw [if_neg hdigits]
  | some f =>
    have hpoint : ∀ b ∈ (46 :: (f ++ rest)).head?, isdigit b = false := by
      intro b hb
      cases hb
      decide
    obtain ⟨htake, hdrop⟩ := takeWhile_digits d.whole_digits hpoint
    obtain ⟨htake', hdrop'⟩ := takeWhile_digits (d.fraction_digits f hf) fun b hb => (h b hb).1
    rw [hf, Option.getD_some] at hdigits
    have hne : ¬ (d.whole = [] ∧ f = []) := by
      rintro ⟨hw, hf⟩
      rw [hw, hf] at hdigits
      exact hdigits rfl
    simp only [List.cons_append, htake, hdrop, htake', hdrop', if_neg hne, Option.getD_some]

theorem scanDecimal_decimal (d : Decimal) {rest : Bytes} (h : d.EndsBefore rest) :
    scanDecimal (d.whole ++ (d.fractionText ++ rest)) = some (d.magnitude, rest) := by
  have hexp : scanExponent 101 69 rest = (0, rest) := by
    cases rest with
    | nil => rfl
    | cons b rest =>
      obtain ⟨-, -, he, hE, -⟩ := h b rfl
      simp [scanExponent, he, hE]
  rw [scanDecimal, scanMantissa_decimal d h]
  simp only [Option.map_some, hexp, Decimal.magnitude, zero_sub]

/-- A number starts with a digit or a point. -/
theorem decimal_head (d : Decimal) :
    ∃ c cs, d.whole ++ d.fractionText = c :: cs ∧ (isdigit c = true ∨ c = 46) := by
  have hdigits := d.has_digit
  unfold Decimal.fractionText
  cases hw : d.whole with
  | cons c cs =>
    have hc := d.whole_digits c (by rw [hw]; exact List.mem_cons_self ..)
    exact ⟨c, _, rfl, .inl hc⟩
  | nil =>
    cases hf : d.fraction with
    | none =>
      rw [hw, hf] at hdigits
      exact absurd rfl hdigits
    | some f => exact ⟨46, f, rfl, .inr rfl⟩

theorem scanHex_decimal (d : Decimal) {rest : Bytes} (h : d.EndsBefore rest) :
    scanHex (d.whole ++ (d.fractionText ++ rest)) = none := by
  obtain ⟨c, cs, hhead, -⟩ := decimal_head d
  have hdigit : ∀ b, isdigit b = true ∨ b = 46 → b ≠ 120 ∧ b ≠ 88 := by decide +kernel
  rw [← List.append_assoc, hhead, List.cons_append]
  unfold scanHex
  split
  · rename_i x r heq
    have hx : x ≠ 120 ∧ x ≠ 88 := by
      have htail : cs ++ rest = x :: r := (List.cons.inj heq).2
      cases cs with
      | nil => exact (h x (by rw [show rest = x :: r from htail]; rfl)).2.2.2.2
      | cons y ys =>
        obtain rfl : y = x := (List.cons.inj htail).1
        have hy : y ∈ d.whole ++ d.fractionText := by
          rw [hhead]
          exact List.mem_cons_of_mem _ (List.mem_cons_self ..)
        rcases List.mem_append.mp hy with hy | hy
        · exact hdigit y (.inl (d.whole_digits y hy))
        · exact hdigit y (Decimal.mem_fractionText hy).symm
    simp [hx]
  · rfl

/-- **A decimal number** is read as what it says, up to what ends it. -/
theorem strtod_decimal (d : Decimal) {rest : Bytes} (h : d.EndsBefore rest) :
    strtod (d.text ++ rest) = (.num d.value, rest) := by
  obtain ⟨c, cs, hhead, hc⟩ := decimal_head d
  have hbyte : isspace c = false ∧ c ≠ 43 ∧ c ≠ 45 := by
    have hall : ∀ c, isdigit c = true ∨ c = 46 → isspace c = false ∧ c ≠ 43 ∧ c ≠ 45 := by
      decide +kernel
    exact hall c hc
  have hplain : d.whole ++ (d.fractionText ++ rest) = c :: (cs ++ rest) := by
    rw [← List.append_assoc, hhead, List.cons_append]
  have hspace : (d.text ++ rest).dropWhile isspace = d.text ++ rest := by
    unfold Decimal.text Decimal.signText
    have hsigns : isspace 43 = false ∧ isspace 45 = false := by decide
    rcases d.negative with _ | _ | _
    · rw [List.nil_append, List.append_assoc, hplain, List.dropWhile_cons_of_neg (by simp [hbyte.1])]
    · simp [hsigns.1]
    · simp [hsigns.2]
  have hsign : scanSign (d.text ++ rest) =
      (decide (d.negative = some true), d.whole ++ (d.fractionText ++ rest)) := by
    unfold Decimal.text Decimal.signText
    rcases d.negative with _ | _ | _
    · rw [List.nil_append, List.append_assoc, hplain, scanSign_of_ne _ hbyte.2.1 hbyte.2.2]
      rfl
    · simp [scanSign]
    · simp [scanSign]
  unfold strtod
  simp only [hspace, hsign, scanHex_decimal d h, scanDecimal_decimal d h, decide_eq_true_eq,
    Decimal.value]

/-! ## Printing -/

/-- `sprintf("%d", n)` -/
def printInt (n : Int) : Bytes := ascii (toString n)

/-- The characters of a number: digits and a sign. -/
theorem mem_toString_int {n : Int} {c : Char} (h : c ∈ (toString n).toList) :
    c.isDigit = true ∨ c = '-' := by
  have hnat : ∀ m : Nat, c ∈ (Nat.repr m).toList → c.isDigit = true := fun m hm =>
    Nat.isDigit_of_mem_toDigits (b := 10) (n := m) (by decide) (by decide)
      (by simpa [Nat.repr] using hm)
  cases n with
  | ofNat m => exact .inl (hnat m h)
  | negSucc m =>
    have h' : c ∈ ("-" ++ Nat.repr (m + 1)).toList := h
    rw [String.toList_append, List.mem_append] at h'
    rcases h' with h' | h'
    · exact .inr (by simpa using h')
    · exact .inl (hnat _ h')

theorem digit_lt_128 {c : Char} (h : c.isDigit = true ∨ c = '-') : c.toNat < 128 ∧ c.toNat ≠ 46 := by
  rcases h with h | rfl
  · simp only [Char.isDigit, Bool.and_eq_true, decide_eq_true_eq, ge_iff_le,
      UInt32.le_iff_toNat_le] at h
    have h48 : 48 ≤ c.toNat := h.1
    have h57 : c.toNat ≤ 57 := h.2
    omega
  · decide

theorem dot_notMem_printInt (n : Int) : (46 : UInt8) ∉ printInt n := by
  intro h
  obtain ⟨c, hc, he⟩ := List.mem_map.mp h
  obtain ⟨hlt, hne⟩ := digit_lt_128 (mem_toString_int hc)
  have hnat : (UInt8.ofNat c.toNat).toNat = 46 := congrArg UInt8.toNat he
  rw [UInt8.toNat_ofNat'] at hnat
  omega

theorem printInt_injective : Function.Injective printInt := by
  intro n m h
  -- an ASCII text can be read back
  have hback : ∀ k : Int, (printInt k).map (fun b => Char.ofNat b.toNat) = (toString k).toList := by
    intro k
    rw [printInt, ascii, List.map_map]
    conv_rhs => rw [← List.map_id (toString k).toList]
    refine List.map_congr_left fun c hc => ?_
    have hlt := (digit_lt_128 (mem_toString_int hc)).1
    simp only [Function.comp, UInt8.toNat_ofNat', id_eq]
    rw [Nat.mod_eq_of_lt (by omega)]
    exact Char.ofNat_toNat c
  have hlist : (toString n).toList = (toString m).toList := by rw [← hback n, h, hback m]
  exact Int.repr_inj.mp (String.toList_inj.mp hlist)

/-- An `int` has at most eleven characters. -/
theorem printInt_length {n : Int} (h : -2 ^ 31 ≤ n ∧ n < 2 ^ 31) : (printInt n).length ≤ 11 := by
  have hlen : (printInt n).length = (toString n).length := by
    rw [printInt, ascii, List.length_map, String.length_toList]
  rw [hlen]
  cases n with
  | ofNat m =>
    have hm : m < 10 ^ 10 := by
      have : (m : Int) < 2 ^ 31 := h.2
      omega
    exact Nat.le_succ_of_le (Nat.repr_length m 10 (by decide) hm)
  | negSucc m =>
    have hm : (Nat.repr (m + 1)).length ≤ 10 := Nat.repr_length (m + 1) 10 (by decide) (by omega)
    have he : (toString (Int.negSucc m)).length = 1 + (Nat.repr (m + 1)).length := by
      show ("-" ++ Nat.repr (m + 1)).length = _
      rw [String.length_append]
      rfl
    omega

theorem printInt_nat (n : Nat) :
    printInt n = (Nat.toDigits 10 n).map fun c => UInt8.ofNat c.toNat := by
  have h : (toString (n : Int)).toList = Nat.toDigits 10 n := by
    show (Nat.repr n).toList = _
    simp [Nat.repr]
  rw [printInt, ascii, h]

theorem printInt_nat_length {n e : Nat} (he : 0 < e) (h : n < 10 ^ e) :
    (printInt n).length ≤ e := by
  rw [printInt_nat, List.length_map]
  exact Nat.toDigits_length 10 n e he h

theorem printInt_ne_nil (n : Nat) : printInt n ≠ [] := by
  rw [printInt_nat]
  simp [Nat.toDigits_ne_nil]

/-- A digit character as a byte. -/
theorem digit_byte {c : Char} (h : c.isDigit = true) :
    isdigit (UInt8.ofNat c.toNat) = true ∧
      (hexDigit (UInt8.ofNat c.toNat)).getD 0 = c.toNat - 48 := by
  simp only [Char.isDigit, Bool.and_eq_true, decide_eq_true_eq, ge_iff_le,
    UInt32.le_iff_toNat_le] at h
  have h48 : 48 ≤ c.toNat := h.1
  have h57 : c.toNat ≤ 57 := h.2
  have hdigit : isdigit (UInt8.ofNat c.toNat) = true := by
    simp only [isdigit, Bool.and_eq_true, decide_eq_true_eq, UInt8.le_iff_toNat_le,
      UInt8.toNat_ofNat']
    exact ⟨by simpa [Nat.mod_eq_of_lt (show c.toNat < 256 by omega)] using h48,
      by simpa [Nat.mod_eq_of_lt (show c.toNat < 256 by omega)] using h57⟩
  refine ⟨hdigit, ?_⟩
  simp only [hexDigit, hdigit, if_true, Option.getD_some, UInt8.toNat_ofNat']
  omega

theorem printInt_digits (n : Nat) : ∀ b ∈ printInt n, isdigit b = true := by
  intro b hb
  rw [printInt_nat] at hb
  obtain ⟨c, hc, rfl⟩ := List.mem_map.mp hb
  exact (digit_byte (Nat.isDigit_of_mem_toDigits (by decide) (by decide) hc)).1

/-- What `%d` prints is read as the number. -/
theorem digitsVal_printInt (n : Nat) : digitsVal 10 (printInt n) = n := by
  have hfold : ∀ (cs : List Char) (a : Nat), (∀ c ∈ cs, c.isDigit = true) →
      (cs.map fun c => UInt8.ofNat c.toNat).foldl (fun a b => a * 10 + (hexDigit b).getD 0) a =
        Nat.ofDigitChars 10 cs a := by
    intro cs
    induction cs with
    | nil => exact fun a _ => rfl
    | cons c cs ih =>
      intro a h
      obtain ⟨hc, hcs⟩ := List.forall_mem_cons.mp h
      rw [Nat.ofDigitChars_cons, List.map_cons, List.foldl_cons, (digit_byte hc).2, Nat.mul_comm,
        ih _ hcs]
      rfl
  rw [printInt_nat, digitsVal, hfold _ 0 fun c hc =>
    Nat.isDigit_of_mem_toDigits (by decide) (by decide) hc]
  exact Nat.ofDigitChars_toDigits (by decide) (by decide)

theorem digitsVal_append (base : Nat) (ds es : Bytes) :
    digitsVal base (ds ++ es) = digitsVal base ds * base ^ es.length + digitsVal base es := by
  have hfold : ∀ (es : Bytes) (a : Nat), es.foldl (fun a b => a * base + (hexDigit b).getD 0) a =
      a * base ^ es.length + digitsVal base es := by
    intro es
    induction es with
    | nil =>
      intro a
      simp [digitsVal]
    | cons e es ih =>
      intro a
      rw [digitsVal, List.foldl_cons, List.foldl_cons, ih, ih, List.length_cons, Nat.pow_succ]
      ring
  rw [digitsVal, List.foldl_append, hfold]
  rfl

/-! ## Two numbers with a point between them -/

/-- The value of the numeral `whole.frac`. -/
def numeral (whole frac : Nat) : ℚ := whole + frac / 10 ^ (Nat.toDigits 10 frac).length

/-- `sprintf("%d.%d", whole, frac)` as a numeral. -/
def printedDecimal (whole frac : Nat) : Decimal where
  negative := none
  whole := printInt whole
  fraction := some (printInt frac)
  whole_digits := printInt_digits whole
  fraction_digits f hf := by
    cases hf
    exact printInt_digits frac
  has_digit h := printInt_ne_nil whole (List.append_eq_nil_iff.mp h).1

theorem printedDecimal_value (whole frac : Nat) :
    (printedDecimal whole frac).value = numeral whole frac := by
  have hlen : (Nat.toDigits 10 frac).length = (printInt frac).length := by
    rw [printInt_nat, List.length_map]
  have hpow : (10 : ℚ) ^ (printInt frac).length ≠ 0 := pow_ne_zero _ (by norm_num)
  simp only [Decimal.value, Decimal.magnitude, printedDecimal, Option.getD_some,
    digitsVal_append, digitsVal_printInt, numeral, hlen]
  rw [if_neg (by simp), zpow_neg, zpow_natCast]
  push_cast
  field_simp

/-- **The text `whole.frac`** is read as the numeral it looks like. -/
theorem strtod_numeral (whole frac : Nat) :
    (strtod (printInt whole ++ 46 :: printInt frac)).1 = .num (numeral whole frac) := by
  have h := strtod_decimal (printedDecimal whole frac) (Decimal.endsBefore_nil _)
  rw [printedDecimal_value, List.append_nil] at h
  exact congrArg Prod.fst h

end Rpiweatherd
