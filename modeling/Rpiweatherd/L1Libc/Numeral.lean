import Rpiweatherd.L1Libc.CString
import Rpiweatherd.Rounding

/-!
# `strtol`, `strtod` and `strtof`

`strtod` is the number as it is written, an exact rational; infinities and
NaN, which it also reads, are kept apart. What the text becomes in a variable
is said where it is stored: `strtof` rounds to a `float`, `FloatVal.stored` is
a `double` that is put into one. What a conversion reports through `errno` is
decided by the exact value: `dblRange` / `fltRange` say when `strtod` /
`strtof` set `ERANGE` (overflow, or an inexact subnormal result).
-/
namespace Rpiweatherd

/-- `errno` values the program looks at or leaves behind. -/
abbrev Errno := Int

def ERANGE : Errno := 34

def sign (neg : Bool) (n : Int) : Int := if neg then -n else n

/-- An optional `+` or `-`. -/
def scanSign : Bytes → Bool × Bytes
  | 43 :: s => (false, s)
  | 45 :: s => (true, s)
  | s => (false, s)

theorem scanSign_of_ne {c : UInt8} (s : Bytes) (hplus : c ≠ 43) (hminus : c ≠ 45) :
    scanSign (c :: s) = (false, c :: s) := by
  unfold scanSign
  split
  · rename_i heq
    exact absurd (List.cons.inj heq).1 hplus
  · rename_i heq
    exact absurd (List.cons.inj heq).1 hminus
  · rfl

def hexDigit (b : UInt8) : Option Nat :=
  if isdigit b then some (b.toNat - 48)
  else if 97 ≤ b && b ≤ 102 then some (b.toNat - 87)
  else if 65 ≤ b && b ≤ 70 then some (b.toNat - 55)
  else none

/-- The value of a digit string in base `base`. -/
def digitsVal (base : Nat) (ds : Bytes) : Nat :=
  ds.foldl (fun a b => a * base + (hexDigit b).getD 0) 0

/-! ## strtol -/

def LONG_MAX : Int := 2 ^ 63 - 1
def LONG_MIN : Int := -2 ^ 63

/-- `strtol(s, NULL, 10)` with a 64-bit `long`: the clamped value and
whether `errno` becomes `ERANGE`. -/
def strtol (s : Bytes) : Int × Bool :=
  let (neg, t) := scanSign (s.dropWhile isspace)
  let n := sign neg (digitsVal 10 (t.takeWhile isdigit))
  if LONG_MAX < n then (LONG_MAX, true)
  else if n < LONG_MIN then (LONG_MIN, true)
  else (n, false)

/-- Conversion to a 32-bit `int`. -/
def toInt32 (n : Int) : Int := Int.bmod n (2 ^ 32)

/-! ## Integer literals -/

def INT_MAX : Int := 2 ^ 31 - 1
def INT_MIN : Int := -2 ^ 31

def InInt (n : Int) : Prop := INT_MIN ≤ n ∧ n ≤ INT_MAX

instance decidableInInt (n : Int) : Decidable (InInt n) := inferInstanceAs (Decidable (_ ∧ _))

/-- The value of a decimal literal: an optional sign and digits. -/
def literalValue (value : Bytes) : Option Int :=
  let (neg, t) := scanSign value
  if t ≠ [] ∧ ∀ b ∈ t, isdigit b = true then some (sign neg (digitsVal 10 t)) else none

/-- The number a value starts with, zero if there is none. -/
def leadingNumber (value : Bytes) : Int :=
  let (neg, t) := scanSign (value.dropWhile isspace)
  sign neg (digitsVal 10 (t.takeWhile isdigit))

theorem toInt32_eq_iff {m n : Int} (hn : InInt n) : toInt32 m = n ↔ (2 ^ 32 : Int) ∣ m - n := by
  unfold InInt INT_MIN INT_MAX at hn
  rw [toInt32, Int.bmod_def]
  split <;> omega

/-- `strtol` clamps the number its text starts with. -/
theorem strtol_eq (value : Bytes) :
    strtol value =
      if LONG_MAX < leadingNumber value then (LONG_MAX, true)
      else if leadingNumber value < LONG_MIN then (LONG_MIN, true)
      else (leadingNumber value, false) := rfl

/-- A literal does not start with a blank. -/
theorem dropWhile_of_literal {value : Bytes} {n : Int} (h : literalValue value = some n) :
    value.dropWhile isspace = value := by
  cases value with
  | nil => rfl
  | cons c cs =>
    refine List.dropWhile_cons_of_neg fun hspace => ?_
    have hbyte : ∀ c : UInt8, isspace c = true → isdigit c = false ∧ c ≠ 43 ∧ c ≠ 45 := by
      decide +kernel
    obtain ⟨hdigit, hplus, hminus⟩ := hbyte c hspace
    simp [literalValue, scanSign_of_ne cs hplus hminus, hdigit] at h

/-- A literal is read as a whole. -/
theorem leadingNumber_of_literal {value : Bytes} {n : Int} (h : literalValue value = some n) :
    leadingNumber value = n := by
  unfold leadingNumber
  rw [dropWhile_of_literal h]
  unfold literalValue at h
  dsimp only at h ⊢
  split at h
  · rename_i hdigits
    rw [List.takeWhile_eq_self_iff.mpr hdigits.2]
    exact Option.some.inj h
  · cases h

/-! ## strtod -/

/-- Digits with at most one point, at least one digit: integer digits,
fraction digits and the rest. -/
def scanMantissa (dig : UInt8 → Bool) (s : Bytes) : Option (Bytes × Bytes × Bytes) :=
  let i := s.takeWhile dig
  match s.dropWhile dig with
  | 46 :: r =>
    let f := r.takeWhile dig
    if i = [] ∧ f = [] then none else some (i, f, r.dropWhile dig)
  | r => if i = [] then none else some (i, [], r)

/-- An exponent introduced by `lo` or `up`; without digits it is not one. -/
def scanExponent (lo up : UInt8) : Bytes → Int × Bytes
  | [] => (0, [])
  | m :: r =>
    if m = lo ∨ m = up then
      let (neg, t) := scanSign r
      let ds := t.takeWhile isdigit
      if ds = [] then (0, m :: r) else (sign neg (digitsVal 10 ds), t.dropWhile isdigit)
    else (0, m :: r)

def scanDecimal (s : Bytes) : Option (ℚ × Bytes) :=
  (scanMantissa isdigit s).map fun (i, f, r) =>
    let (e, r') := scanExponent 101 69 r
    ((digitsVal 10 (i ++ f) : ℚ) * 10 ^ (e - f.length), r')

def scanHex (s : Bytes) : Option (ℚ × Bytes) :=
  match s with
  | 48 :: x :: r =>
    if x = 120 ∨ x = 88 then
      (scanMantissa (fun b => (hexDigit b).isSome) r).map fun (i, f, r) =>
        let (e, r') := scanExponent 112 80 r
        ((digitsVal 16 (i ++ f) : ℚ) * 2 ^ (e - 4 * f.length), r')
    else none
  | _ => none

/-- Case-insensitive prefix; the rest after it. -/
def stripWord (w : Bytes) (s : Bytes) : Option Bytes :=
  if (s.take w.length).map tolower = w then some (s.drop w.length) else none

/-- The optional `(chars)` after `nan`. -/
def skipNanTag (s : Bytes) : Bytes :=
  match s with
  | 40 :: r =>
    match r.dropWhile (fun b => isdigit b || isupper b || (97 ≤ b && b ≤ 122) || b = 95) with
    | 41 :: r' => r'
    | _ => s
  | _ => s

/-- `strtod(s, &end)`: the value and what `end` points at; no conversion
gives zero and `s` itself. -/
def strtod (s : Bytes) : FloatVal × Bytes :=
  let (neg, t) := scanSign (s.dropWhile isspace)
  let signed (p : ℚ × Bytes) : FloatVal × Bytes := (.num (if neg then -p.1 else p.1), p.2)
  match scanHex t with
  | some p => signed p
  | none =>
    match scanDecimal t with
    | some p => signed p
    | none =>
      match stripWord (ascii "infinity") t with
      | some r => (.inf neg, r)
      | none =>
        match stripWord (ascii "inf") t with
        | some r => (.inf neg, r)
        | none =>
          match stripWord (ascii "nan") t with
          | some r => (.nan neg, skipNanTag r)
          | none => (.num 0, s)

/-- The format of `float`. -/
def single : BinaryFormat := ⟨23, -149, 128⟩

/-- The format of `double`. -/
def double : BinaryFormat := ⟨52, -1074, 1024⟩

/-- Out of the range of a format: it overflows, or it is below the smallest
number with all its bits and no multiple of the smallest one. -/
def outOfRange (f : BinaryFormat) (q : ℚ) : Bool :=
  f.bound ≤ |q| || (q ≠ 0 && |q| < 2 ^ (f.tiny + f.frac) && (q / 2 ^ f.tiny).den ≠ 1)

def dblRange (q : ℚ) : Bool := outOfRange double q

def fltRange (q : ℚ) : Bool := outOfRange single q

def FloatVal.range (bad : ℚ → Bool) : FloatVal → Bool
  | .num q => bad q
  | _ => false

/-- `strtof(s, NULL)` -/
def strtof (s : Bytes) : FloatVal := (strtod s).1.round single

/-- A `float` that is assigned what `strtod` returns. -/
def FloatVal.stored (x : FloatVal) : FloatVal := (x.round double).round single

/-- The `float` is zero. -/
def FloatVal.isZero (x : FloatVal) : Bool := x.stored = .num 0

/-- `errno` after a conversion that reports `bad`. -/
def setErange (bad : Bool) (errno : Errno) : Errno := if bad then ERANGE else errno

@[simp] theorem setErange_false (e : Errno) : setErange false e = e := rfl

@[simp] theorem setErange_true (e : Errno) : setErange true e = ERANGE := rfl

@[simp] theorem setErange_erange (b : Bool) : setErange b ERANGE = ERANGE := by
  cases b <;> rfl

end Rpiweatherd
