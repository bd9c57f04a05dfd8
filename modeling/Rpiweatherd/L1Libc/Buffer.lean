import Rpiweatherd.L1Libc.CString

/-!
# Raw buffers

A buffer is the list of all its bytes. Writing past its end, and looking for a
terminator that is not there, are faults.
-/
namespace Rpiweatherd

/-- `s` written at an offset. -/
def writeAt (mem : Bytes) (off : Nat) (s : Bytes) : Except Fault Bytes :=
  if off + s.length ≤ mem.length then .ok (mem.take off ++ (s ++ mem.drop (off + s.length)))
  else .error .overflow

/-- `strncpy(mem + off, src, n)` writes `n` bytes: NULs behind a shorter
string. -/
def strncpy (mem : Bytes) (off : Nat) (src : Bytes) (n : Nat) : Except Fault Bytes :=
  if off + n ≤ mem.length then writeAt mem off (src.take n ++ List.replicate (n - src.length) 0)
  else .error .overflow

/-- The string a buffer holds. -/
def cstr (mem : Bytes) : Bytes := mem.takeWhile (· ≠ 0)

def strlen (mem : Bytes) : Except Fault Nat :=
  if 0 ∈ mem then .ok (cstr mem).length else .error .outOfBounds

/-- The string from a pointer into `s` on. -/
def stringAt (s : Bytes) (off : Nat) : Except Fault Bytes :=
  if off ≤ s.length then .ok (s.drop off) else .error .outOfBounds

/-- `(size_t)(p - q)` -/
def pointerDiff (p q : Nat) : Nat := (((p : Int) - q) % 2 ^ 64).toNat

end Rpiweatherd
