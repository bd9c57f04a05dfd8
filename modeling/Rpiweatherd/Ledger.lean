import Mathlib

/-!
# Tokens that own resources

A ledger keeps a list of tokens, each naming one open resource by its key,
and the history of every resource ever opened. Keys are reused: a resource
is identified by the number it got when it was opened, and `opened` says
which number a key stands for now.

`Ok` says that tokens and open resources correspond one to one, that each
token fits the history of its own resource, and that every resource no
longer open has a finished history. It is kept by the four things a system
can do: move tokens around (`Ok.perm`), open a resource (`Ok.acquire`), let
a token's resource make progress (`Ok.advance`) and end it (`Ok.release`).
-/
namespace Rpiweatherd

structure Ledger (T K E : Type) where
  tokens : List T
  opened : List (K × Nat)
  next : Nat
  hist : Nat → List E

namespace Ledger
variable {T K E : Type}

/-- Append `e` to the history of the resource `k` stands for. -/
def record [DecidableEq K] (opened : List (K × Nat)) (hist : Nat → List E) (k : K) (e : E) : Nat → List E :=
  match opened.lookup k with
  | some c => Function.update hist c (hist c ++ [e])
  | none => hist

/-- Remove the key. -/
def drop [DecidableEq K] (opened : List (K × Nat)) (k : K) : List (K × Nat) := opened.filter fun p => p.1 ≠ k

structure Ok (key : T → K) (Fits : T → List E → Prop) (Gone : List E → Prop)
    (L : Ledger T K E) : Prop where
  keys : (L.tokens.map key).Perm (L.opened.map Prod.fst)
  nodup : (L.opened.map Prod.fst).Nodup
  conns : (L.opened.map Prod.snd).Nodup
  lt : ∀ p ∈ L.opened, p.2 < L.next
  fits : ∀ t ∈ L.tokens, ∃ c, (key t, c) ∈ L.opened ∧ Fits t (L.hist c)
  gone : ∀ c < L.next, c ∉ L.opened.map Prod.snd → Gone (L.hist c)
  fresh : ∀ c, L.next ≤ c → L.hist c = []

/-! ## Keys -/

section Keys
variable [DecidableEq K]

theorem lookup_of_mem {k : K} {c : Nat} :
    ∀ {l : List (K × Nat)}, (l.map Prod.fst).Nodup → (k, c) ∈ l → l.lookup k = some c
  | (k', c') :: l, hn, hm => by
    rw [List.map_cons, List.nodup_cons] at hn
    rcases List.mem_cons.mp hm with he | hm'
    · cases he; simp
    · have hne : k ≠ k' := by
        intro he
        exact hn.1 (List.mem_map.mpr ⟨(k, c), hm', he⟩)
      have hb : (k == k') = false := by simpa using hne
      rw [List.lookup_cons, hb]
      exact lookup_of_mem hn.2 hm'

theorem record_of_mem {opened : List (K × Nat)} (hn : (opened.map Prod.fst).Nodup) {k : K} {c : Nat}
    (hm : (k, c) ∈ opened) (hist : Nat → List E) (e : E) :
    record opened hist k e = Function.update hist c (hist c ++ [e]) := by
  simp only [record, lookup_of_mem hn hm]

theorem mem_fst_unique {l : List (K × Nat)} (hn : (l.map Prod.fst).Nodup) {k : K} {c c' : Nat}
    (h : (k, c) ∈ l) (h' : (k, c') ∈ l) : c = c' := by
  have h1 := lookup_of_mem hn h
  rw [lookup_of_mem hn h'] at h1
  exact (Option.some.inj h1).symm

/-- Removing one key leaves what the others stand for. -/
theorem lookup_drop {k k' : K} (hne : k ≠ k') :
    ∀ l : List (K × Nat), (drop l k').lookup k = l.lookup k
  | [] => rfl
  | (k₁, c) :: l => by
    have ih := lookup_drop hne l
    unfold drop at ih ⊢
    by_cases hk : k₁ = k'
    · have hb : (k == k₁) = false := by simpa [hk] using hne
      rw [List.filter_cons_of_neg (by simpa using hk), ih, List.lookup_cons, hb]
    · rw [List.filter_cons_of_pos (by simpa using hk), List.lookup_cons, List.lookup_cons, ih]

theorem ne_of_mem_drop {l : List (K × Nat)} {k k' : K} (h : k ∈ (drop l k').map Prod.fst) :
    k ≠ k' := by
  obtain ⟨p, hp, rfl⟩ := List.mem_map.mp h
  simpa using (List.mem_filter.mp hp).2

end Keys

theorem mem_snd_unique :
    ∀ {l : List (K × Nat)}, (l.map Prod.snd).Nodup → ∀ {k k' : K} {c : Nat},
      (k, c) ∈ l → (k', c) ∈ l → k = k'
  | p :: l, hn, k, k', c, h, h' => by
    rw [List.map_cons, List.nodup_cons] at hn
    have hin : ∀ {k : K}, p.2 = c → (k, c) ∉ l := fun he hm =>
      hn.1 (List.mem_map.mpr ⟨_, hm, he.symm⟩)
    rcases List.mem_cons.mp h with he | hl
    · rcases List.mem_cons.mp h' with he' | hl'
      · exact (Prod.mk.inj (he.trans he'.symm)).1
      · exact absurd hl' (hin (congrArg Prod.snd he).symm)
    · rcases List.mem_cons.mp h' with he' | hl'
      · exact absurd hl (hin (congrArg Prod.snd he').symm)
      · exact mem_snd_unique hn.2 hl hl'

/-! ## What `Ok` gives -/

variable {key : T → K} {Fits : T → List E → Prop} {Gone : List E → Prop} {L : Ledger T K E}

theorem Ok.length (h : Ok key Fits Gone L) : L.tokens.length = L.opened.length := by
  simpa using h.keys.length_eq

/-- A resource is open with a token that fits it, or finished. -/
theorem Ok.hist_cases [DecidableEq K] (h : Ok key Fits Gone L) {c : Nat} (hc : c < L.next) :
    (∃ t ∈ L.tokens, (key t, c) ∈ L.opened ∧ Fits t (L.hist c)) ∨
      (c ∉ L.opened.map Prod.snd ∧ Gone (L.hist c)) := by
  by_cases hm : c ∈ L.opened.map Prod.snd
  · left
    obtain ⟨⟨k, c'⟩, hp, hcc⟩ := List.mem_map.mp hm
    obtain rfl : c' = c := hcc
    have hk : k ∈ L.tokens.map key := h.keys.symm.subset (List.mem_map.mpr ⟨_, hp, rfl⟩)
    obtain ⟨t, ht, rfl⟩ := List.mem_map.mp hk
    obtain ⟨d, hd, hf⟩ := h.fits t ht
    obtain rfl := mem_fst_unique h.nodup hd hp
    exact ⟨t, ht, hd, hf⟩
  · exact .inr ⟨hm, h.gone c hc hm⟩

/-! ## The four rules -/

theorem Ok.empty : Ok key Fits Gone (⟨[], [], 0, fun _ => []⟩ : Ledger T K E) where
  keys := .nil
  nodup := List.nodup_nil
  conns := List.nodup_nil
  lt := fun p hp => by cases hp
  fits := fun t ht => by cases ht
  gone := fun c hc => absurd hc (Nat.not_lt_zero c)
  fresh := fun _ _ => rfl

theorem Ok.perm (h : Ok key Fits Gone L) {ts : List T} (hp : ts.Perm L.tokens) :
    Ok key Fits Gone { L with tokens := ts } where
  keys := (hp.map key).trans h.keys
  nodup := h.nodup
  conns := h.conns
  lt := h.lt
  fits := fun t ht => h.fits t (hp.subset ht)
  gone := h.gone
  fresh := h.fresh

theorem Ok.acquire (h : Ok key Fits Gone L) {t : T} {e : E}
    (hk : key t ∉ L.opened.map Prod.fst) (hf : Fits t [e]) :
    Ok key Fits Gone ⟨t :: L.tokens, (key t, L.next) :: L.opened, L.next + 1,
      Function.update L.hist L.next [e]⟩ := by
  have hnew : ∀ {c}, c < L.next → Function.update L.hist L.next [e] c = L.hist c := fun hc =>
    Function.update_of_ne (by omega) _ _
  refine ⟨?_, ?_, ?_, ?_, ?_, ?_, ?_⟩
  · simpa using h.keys
  · exact List.nodup_cons.mpr ⟨hk, h.nodup⟩
  · refine List.nodup_cons.mpr ⟨fun hm => ?_, h.conns⟩
    obtain ⟨p, hp, hpe⟩ := List.mem_map.mp hm
    have := h.lt p hp
    omega
  · intro p hp
    rcases List.mem_cons.mp hp with rfl | hp
    · exact Nat.lt_succ_self _
    · exact Nat.lt_succ_of_lt (h.lt p hp)
  · intro u hu
    rcases List.mem_cons.mp hu with rfl | hu
    · exact ⟨L.next, List.mem_cons_self .., by simpa using hf⟩
    · obtain ⟨c, hc, hfc⟩ := h.fits u hu
      exact ⟨c, List.mem_cons_of_mem _ hc, by simpa only [hnew (h.lt _ hc)] using hfc⟩
  · intro c hc hnm
    have hne : c ≠ L.next := by
      rintro rfl
      exact hnm (List.mem_cons_self ..)
    have hlt : c < L.next := by simp only at hc; omega
    simp only [hnew hlt]
    exact h.gone c hlt fun hm => hnm (List.mem_cons_of_mem _ hm)
  · intro c hc
    simp only at hc
    simp only [Function.update_of_ne (show c ≠ L.next by omega)]
    exact h.fresh c (by omega)

/-- Another token keeps its resource when one resource's history grows. -/
theorem Ok.fits_update (h : Ok key Fits Gone L) {t u : T} {rest : List T}
    (hp : L.tokens.Perm (t :: rest)) (hu : u ∈ rest) {c : Nat} (hc : (key t, c) ∈ L.opened)
    (es : List E) :
    ∃ d, (key u, d) ∈ L.opened ∧ key u ≠ key t ∧ Fits u (Function.update L.hist c es d) := by
  have hnd : ((t :: rest).map key).Nodup := ((hp.map key).symm.trans h.keys).nodup_iff.mpr h.nodup
  rw [List.map_cons, List.nodup_cons] at hnd
  have hne : key u ≠ key t := fun he => hnd.1 (List.mem_map.mpr ⟨u, hu, he⟩)
  obtain ⟨d, hd, hf⟩ := h.fits u (hp.symm.subset (List.mem_cons_of_mem _ hu))
  have hdc : d ≠ c := by
    rintro rfl
    exact hne (mem_snd_unique h.conns hd hc)
  exact ⟨d, hd, hne, by rwa [Function.update_of_ne hdc]⟩

theorem Ok.advance [DecidableEq K] (h : Ok key Fits Gone L) {t t' : T} {rest : List T}
    (hp : L.tokens.Perm (t :: rest)) (hkey : key t' = key t) {e : E}
    (hstep : ∀ es, Fits t es → Fits t' (es ++ [e])) :
    Ok key Fits Gone ⟨t' :: rest, L.opened, L.next, record L.opened L.hist (key t) e⟩ := by
  obtain ⟨c, hc, hf⟩ := h.fits t (hp.symm.subset (List.mem_cons_self ..))
  rw [record_of_mem h.nodup hc]
  refine ⟨?_, h.nodup, h.conns, h.lt, ?_, ?_, ?_⟩
  · have hm := hp.map key
    rw [List.map_cons] at hm
    simp only [List.map_cons, hkey]
    exact hm.symm.trans h.keys
  · intro u hu
    rcases List.mem_cons.mp hu with rfl | hu
    · exact ⟨c, hkey ▸ hc, by simpa using hstep _ hf⟩
    · obtain ⟨d, hd, -, hfd⟩ := h.fits_update hp hu hc _
      exact ⟨d, hd, hfd⟩
  · intro d hd hnm
    have hdc : d ≠ c := by
      rintro rfl
      exact hnm (List.mem_map.mpr ⟨_, hc, rfl⟩)
    simp only [Function.update_of_ne hdc]
    exact h.gone d hd hnm
  · intro d hd
    have := h.lt _ hc
    simp only at hd this
    simp only [Function.update_of_ne (show d ≠ c by omega)]
    exact h.fresh d hd

/-- Progress that the resource does not see. -/
theorem Ok.replace (h : Ok key Fits Gone L) {t t' : T} {rest : List T}
    (hp : L.tokens.Perm (t :: rest)) (hkey : key t' = key t)
    (hstep : ∀ es, Fits t es → Fits t' es) :
    Ok key Fits Gone { L with tokens := t' :: rest } := by
  refine ⟨?_, h.nodup, h.conns, h.lt, ?_, h.gone, h.fresh⟩
  · have hm := hp.map key
    rw [List.map_cons] at hm
    simp only [List.map_cons, hkey]
    exact hm.symm.trans h.keys
  · intro u hu
    rcases List.mem_cons.mp hu with rfl | hu
    · obtain ⟨c, hc, hf⟩ := h.fits t (hp.symm.subset (List.mem_cons_self ..))
      exact ⟨c, hkey ▸ hc, hstep _ hf⟩
    · exact h.fits u (hp.symm.subset (List.mem_cons_of_mem _ hu))

theorem Ok.release [DecidableEq K] (h : Ok key Fits Gone L) {t : T} {rest : List T}
    (hp : L.tokens.Perm (t :: rest)) {e : E} (hend : ∀ es, Fits t es → Gone (es ++ [e])) :
    Ok key Fits Gone ⟨rest, drop L.opened (key t), L.next,
      record L.opened L.hist (key t) e⟩ := by
  obtain ⟨c, hc, hf⟩ := h.fits t (hp.symm.subset (List.mem_cons_self ..))
  rw [record_of_mem h.nodup hc]
  have hsub : (drop L.opened (key t)).Sublist L.opened := List.filter_sublist
  have hfst : (drop L.opened (key t)).map Prod.fst =
      (L.opened.map Prod.fst).filter fun k => k ≠ key t := by
    simp only [drop, List.filter_map, Function.comp_def]
  refine ⟨?_, h.nodup.sublist (hsub.map _), h.conns.sublist (hsub.map _),
    fun p hp => h.lt p (hsub.subset hp), ?_, ?_, ?_⟩
  · -- the keys of the other tokens are the keys other than `key t`
    have hm := ((hp.map key).symm.trans h.keys)
    have hnd : ((t :: rest).map key).Nodup := hm.nodup_iff.mpr h.nodup
    rw [List.map_cons, List.nodup_cons] at hnd
    rw [List.map_cons] at hm
    have hfil := hm.filter fun k => k ≠ key t
    have hself : (rest.map key).filter (fun k => decide (k ≠ key t)) = rest.map key := by
      apply List.filter_eq_self.mpr
      intro k hk
      simp only [ne_eq, decide_eq_true_eq]
      rintro rfl
      exact hnd.1 hk
    rw [List.filter_cons_of_neg (by simp), hself] at hfil
    rw [hfst]
    exact hfil
  · intro u hu
    obtain ⟨d, hd, hne, hfd⟩ := h.fits_update hp hu hc (L.hist c ++ [e])
    exact ⟨d, List.mem_filter.mpr ⟨hd, by simpa using hne⟩, hfd⟩
  · intro d hd hnm
    by_cases hdc : d = c
    · subst hdc
      simpa using hend _ hf
    · simp only [Function.update_of_ne hdc]
      apply h.gone d hd
      intro hm
      apply hnm
      obtain ⟨⟨k, d'⟩, hp', hdd⟩ := List.mem_map.mp hm
      obtain rfl : d' = d := hdd
      refine List.mem_map.mpr ⟨(k, d'), List.mem_filter.mpr ⟨hp', ?_⟩, rfl⟩
      simp only [ne_eq, decide_eq_true_eq]
      rintro rfl
      exact hdc (mem_fst_unique h.nodup hp' hc)
  · intro d hd
    have := h.lt _ hc
    simp only at hd this
    simp only [Function.update_of_ne (show d ≠ c by omega)]
    exact h.fresh d hd

end Ledger
end Rpiweatherd
