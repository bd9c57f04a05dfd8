import Mathlib

/-!
# Loops that may not end

A `WhileLoop` has a test and a body; the body is told which round it is, so
that it can read what the world answers in that round. `run` gives the loop a
number of tests, and `run_eq_some_iff` says what it ends with: the state
`after` the first number of rounds whose test fails.
-/
namespace Rpiweatherd

structure WhileLoop (S : Type) where
  test : S → Bool
  body : Nat → S → S

namespace WhileLoop
variable {S : Type} (L : WhileLoop S)

/-- The state after `n` rounds, whether or not the test holds. -/
def after (s : S) : Nat → S
  | 0 => s
  | n + 1 => L.body n (after s n)

/-- At most `fuel` tests, the next round being the `k`-th. -/
def run : (fuel k : Nat) → S → Option S
  | 0, _, _ => none
  | fuel + 1, k, s => if L.test s then run fuel (k + 1) (L.body k s) else some s

/-- The loop is left after exactly `n` rounds. -/
structure ExitsAt (s : S) (n : Nat) : Prop where
  stops : L.test (L.after s n) = false
  goes_on : ∀ m < n, L.test (L.after s m) = true

variable {L} {s s' : S}

theorem exitsAt_of_run {fuel k : Nat} (hgo : ∀ m < k, L.test (L.after s m) = true)
    (h : L.run fuel k (L.after s k) = some s') : ∃ n, L.ExitsAt s n ∧ L.after s n = s' := by
  induction fuel generalizing k with
  | zero => cases h
  | succ fuel ih =>
    unfold run at h
    split at h
    · rename_i htest
      refine ih (k := k + 1) (fun m hm => ?_) h
      rcases Nat.lt_succ_iff_lt_or_eq.mp hm with hlt | rfl
      · exact hgo m hlt
      · exact htest
    · rename_i htest
      exact ⟨k, ⟨Bool.eq_false_iff.mpr htest, hgo⟩, Option.some.inj h⟩

theorem ExitsAt.run {n : Nat} (h : L.ExitsAt s n) (d : Nat) (hd : d ≤ n) :
    L.run (d + 1) (n - d) (L.after s (n - d)) = some (L.after s n) := by
  induction d with
  | zero =>
    unfold WhileLoop.run
    rw [Nat.sub_zero, if_neg (Bool.eq_false_iff.mp h.stops)]
  | succ d ih =>
    have hnext : n - (d + 1) + 1 = n - d := by omega
    unfold WhileLoop.run
    rw [if_pos (h.goes_on _ (by omega)), hnext]
    have hbody : L.body (n - (d + 1)) (L.after s (n - (d + 1))) = L.after s (n - d) := by
      rw [← hnext]
      rfl
    rw [hbody]
    exact ih (by omega)

/-- **A loop ends** with the state in which its test fails for the first
time, if there is one. -/
theorem run_eq_some_iff :
    (∃ fuel, L.run fuel 0 s = some s') ↔ ∃ n, L.ExitsAt s n ∧ L.after s n = s' := by
  constructor
  · rintro ⟨fuel, h⟩
    exact exitsAt_of_run (k := 0) (fun m hm => absurd hm (Nat.not_lt_zero m)) h
  · rintro ⟨n, h, rfl⟩
    refine ⟨n + 1, ?_⟩
    have hrun := h.run n le_rfl
    rwa [Nat.sub_self] at hrun

end WhileLoop
end Rpiweatherd
