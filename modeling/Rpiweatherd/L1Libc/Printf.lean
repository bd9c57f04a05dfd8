import Rpiweatherd.L1Libc.Decimal

/-!
# `sprintf` with `%s` and `%d`

A format is walked byte by byte. A directive takes the next argument, which
has to be of its kind; arguments that no directive takes are ignored. `%d`
prints the low 32 bits of its argument as an `int`. `sprintf` faults when the
text and its terminator do not fit the buffer.
-/
namespace Rpiweatherd

inductive PrintArg where
  | str (s : Bytes)
  | int (n : Int)

def printf : Bytes → List PrintArg → Except Fault Bytes
  | 37 :: 115 :: format, .str s :: args => (printf format args).map (s ++ ·)
  | 37 :: 100 :: format, .int n :: args => (printf format args).map (printInt (toInt32 n) ++ ·)
  | 37 :: _, _ => .error .typeConfusion
  | b :: format, args => (printf format args).map (b :: ·)
  | [], _ => .ok []

def sprintf (size : Nat) (format : Bytes) (args : List PrintArg) : Except Fault Bytes :=
  (printf format args).bind (strcpy size)

theorem printf_str (format s : Bytes) (args : List PrintArg) :
    printf (37 :: 115 :: format) (.str s :: args) = (printf format args).map (s ++ ·) := rfl

theorem printf_int (format : Bytes) (n : Int) (args : List PrintArg) :
    printf (37 :: 100 :: format) (.int n :: args) =
      (printf format args).map (printInt (toInt32 n) ++ ·) := rfl

theorem printf_byte {b : UInt8} (hb : b ≠ 37) (format : Bytes) (args : List PrintArg) :
    printf (b :: format) args = (printf format args).map (b :: ·) := by
  rw [printf]
  · exact hb
  · intro _ _ _ _ hpercent
    exact absurd hpercent hb
  · intro _ _ _ _ hpercent
    exact absurd hpercent hb

/-- Text without a percent sign is printed as it is. -/
theorem printf_text {text : Bytes} (h : 37 ∉ text) (format : Bytes) (args : List PrintArg) :
    printf (text ++ format) args = (printf format args).map (text ++ ·) := by
  induction text with
  | nil =>
    rw [List.nil_append]
    cases printf format args <;> rfl
  | cons b text ih =>
    rw [List.mem_cons, not_or] at h
    rw [List.cons_append, printf_byte (Ne.symm h.1), ih h.2]
    cases printf format args <;> rfl

theorem sprintf_ok {size : Nat} {format text : Bytes} {args : List PrintArg}
    (h : printf format args = .ok text) (hsize : text.length < size) :
    sprintf size format args = .ok text := by
  rw [sprintf, h]
  exact strcpy_ok hsize

end Rpiweatherd
