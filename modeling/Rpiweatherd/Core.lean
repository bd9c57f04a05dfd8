import Mathlib

/-!
# Labelled transition systems, runs and inductive invariants

Every concurrent part of the daemon below is an `LTS`: an initial predicate
and a labelled step relation. `Reachable` is reachability from an initial
state, `Inductive` the usual invariant rule, and `guard` the runs all of
whose steps meet a side condition on the state before the step.
-/
namespace Rpiweatherd

structure LTS (S L : Type) where
  init : S → Prop
  step : S → L → S → Prop

namespace LTS
variable {S L : Type}

/-- The system of a partial step function: `none` means not enabled. -/
def ofFn (init : S → Prop) (f : S → L → Option S) : LTS S L where
  init := init
  step s l s' := f s l = some s'

/-- The state a partial step function reaches, if every step is enabled. -/
def runFn (f : S → L → Option S) (s : S) : List L → Option S
  | [] => some s
  | l :: ls => (f s l).bind fun t => runFn f t ls

/-- A finite run, with its labels in order. -/
inductive Run (M : LTS S L) : S → List L → S → Prop
  | nil (s : S) : Run M s [] s
  | cons {s s' s'' : S} {l : L} {ls : List L} :
      M.step s l s' → Run M s' ls s'' → Run M s (l :: ls) s''

def Reachable (M : LTS S L) (s : S) : Prop := ∃ s₀ ls, M.init s₀ ∧ M.Run s₀ ls s

/-- `I` holds initially and every step keeps it. -/
structure Inductive (M : LTS S L) (I : S → Prop) : Prop where
  init : ∀ s, M.init s → I s
  step : ∀ s l s', I s → M.step s l s' → I s'

/-- The runs in which every step meets `G` in the state it is taken from. -/
def guard (M : LTS S L) (G : S → L → Prop) : LTS S L where
  init := M.init
  step s l s' := M.step s l s' ∧ G s l

variable {M : LTS S L} {I : S → Prop}

theorem Inductive.run (h : M.Inductive I) {s s' : S} {ls : List L} (hr : M.Run s ls s')
    (hi : I s) : I s' := by
  induction hr with
  | nil => exact hi
  | cons hs _ ih => exact ih (h.step _ _ _ hi hs)

theorem Inductive.reachable (h : M.Inductive I) {s : S} (hr : M.Reachable s) : I s := by
  obtain ⟨s₀, ls, h0, hrun⟩ := hr
  exact h.run hrun (h.init _ h0)

theorem Run.of_guard {G : S → L → Prop} {s s' : S} {ls : List L} (hr : (M.guard G).Run s ls s') :
    M.Run s ls s' := by
  induction hr with
  | nil s => exact .nil s
  | cons hs _ ih => exact .cons hs.1 ih

theorem Reachable.of_guard {G : S → L → Prop} {s : S} (h : (M.guard G).Reachable s) :
    M.Reachable s := by
  obtain ⟨s₀, ls, h0, hrun⟩ := h
  exact ⟨s₀, ls, h0, hrun.of_guard⟩

/-! ## Runs by evaluation -/

variable {init : S → Prop} {f : S → L → Option S}

theorem runFn_append (s : S) (ls ls' : List L) :
    runFn f s (ls ++ ls') = (runFn f s ls).bind fun t => runFn f t ls' := by
  induction ls generalizing s with
  | nil => rfl
  | cons l ls ih =>
    simp only [List.cons_append, runFn]
    cases f s l with
    | none => rfl
    | some t => exact ih t

/-- An evaluated run whose states meet `G` is a run of the guarded system. -/
theorem runFn_guard {G : S → L → Prop} :
    ∀ {ls : List L} {s s' : S}, runFn f s ls = some s' →
      (∀ pre l post t, ls = pre ++ l :: post → runFn f s pre = some t → G t l) →
      ((ofFn init f).guard G).Run s ls s'
  | [], s, s', h, _ => by
    obtain rfl : s = s' := Option.some.inj h
    exact .nil s
  | l :: ls, s, s', h, hG => by
    obtain ⟨t, hs, ht⟩ := Option.bind_eq_some_iff.mp h
    refine .cons ⟨hs, hG [] l ls s rfl rfl⟩ (runFn_guard ht fun pre l' post u hl hu => ?_)
    apply hG (l :: pre) l' post u (by rw [hl]; rfl)
    simp only [runFn, hs, Option.bind_some, hu]

/-- The same for a condition that is checked on the way. -/
theorem runFn_checked {G : S → L → Prop} [∀ s l, Decidable (G s l)] {ls : List L} {s s' : S}
    (h : runFn (fun s l => if G s l then f s l else none) s ls = some s') :
    ((ofFn init f).guard G).Run s ls s' := by
  induction ls generalizing s with
  | nil =>
    obtain rfl : s = s' := Option.some.inj h
    exact .nil s
  | cons l ls ih =>
    obtain ⟨t, hs, ht⟩ := Option.bind_eq_some_iff.mp h
    obtain ⟨hG, hs⟩ := Option.ite_none_right_eq_some.mp hs
    exact .cons ⟨hs, hG⟩ (ih ht)

theorem runFn_run {ls : List L} {s s' : S} (h : runFn f s ls = some s') :
    (ofFn init f).Run s ls s' :=
  (runFn_guard (G := fun _ _ => True) h fun _ _ _ _ _ _ => trivial).of_guard

/-- When a step from a good state goes through to a good state exactly if
its label is fine, a whole run goes through good states exactly if all its
labels are. -/
theorem runFn_forall_iff {G : L → Prop}
    (hstep : ∀ s l, I s → (G l ↔ ∃ t, f s l = some t ∧ I t)) :
    ∀ {ls : List L} {s : S}, I s →
      ((∀ pre, pre <+: ls → ∃ t, runFn f s pre = some t ∧ I t) ↔ ∀ l ∈ ls, G l)
  | [], s, hs => by
    refine ⟨fun _ l hl => absurd hl List.not_mem_nil, fun _ pre hpre => ?_⟩
    rw [List.prefix_nil.mp hpre]
    exact ⟨s, rfl, hs⟩
  | l :: ls, s, hs => by
    constructor
    · intro h
      obtain ⟨t, ht, hIt⟩ := h [l] ⟨ls, rfl⟩
      have hfl : f s l = some t := by simpa [runFn] using ht
      have hrest : ∀ l ∈ ls, G l := (runFn_forall_iff hstep hIt).mp fun pre hpre => by
        obtain ⟨u, hu, hIu⟩ := h (l :: pre) (List.cons_prefix_cons.mpr ⟨rfl, hpre⟩)
        exact ⟨u, by simpa [runFn, hfl] using hu, hIu⟩
      exact List.forall_mem_cons.mpr ⟨(hstep s l hs).mpr ⟨t, hfl, hIt⟩, hrest⟩
    · intro h pre hpre
      obtain ⟨hl, hls⟩ := List.forall_mem_cons.mp h
      obtain ⟨t, hfl, hIt⟩ := (hstep s l hs).mp hl
      cases pre with
      | nil => exact ⟨s, rfl, hs⟩
      | cons l' pre =>
        obtain ⟨rfl, htail⟩ := List.cons_prefix_cons.mp hpre
        obtain ⟨u, hu, hIu⟩ := (runFn_forall_iff hstep hIt).mpr hls pre htail
        exact ⟨u, by simpa [runFn, hfl] using hu, hIu⟩

theorem runFn_reachable {ls : List L} {s₀ s : S} (h0 : init s₀) (h : runFn f s₀ ls = some s) :
    (ofFn init f).Reachable s := ⟨s₀, ls, h0, runFn_run h⟩

end LTS
end Rpiweatherd
