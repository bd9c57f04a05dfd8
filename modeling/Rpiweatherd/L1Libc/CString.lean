import Rpiweatherd.Core

/-!
# C strings, faults and the string functions of libc

A `char *` that may be NULL is an `Option Bytes`; a NUL-terminated string is
the list of its bytes without the terminator; a raw buffer (`mem` below) is
the list of all its bytes, terminators included. What C leaves undefined is
an explicit `Fault`, so "never dereferences NULL" or "never copies past the
end" is a statement about the result and not an assumption:

* `strcpy` faults when the string and its terminator do not fit;
* `strstr` on a raw buffer faults when it runs off the end of the buffer
  before it meets the needle or a NUL;
* `deref` faults on NULL.

`strtok` is `strtok_r` with the save pointer passed explicitly: it returns
the token and the string the save pointer is left at. `strtokAll` is the
usual loop around it.
-/
namespace Rpiweatherd

abbrev Bytes := List UInt8

def ascii (s : String) : Bytes := s.toList.map fun c => UInt8.ofNat c.toNat

/-- What holds of every byte of a text is decided along the text, and not by
trying all 256 bytes. -/
instance decidableForallMem (s : Bytes) (p : UInt8 → Prop) [DecidablePred p] :
    Decidable (∀ b ∈ s, p b) :=
  List.decidableBAll p s

inductive Fault where
  | nullDeref
  | overflow
  | outOfBounds
  | doubleFree
  | useAfterFree
  | typeConfusion
  deriving DecidableEq, Repr

/-- Use of a pointer that must not be NULL. -/
def deref {α : Type} : Option α → Except Fault α
  | none => .error .nullDeref
  | some a => .ok a

theorem bind_ok {α β : Type} {x : Except Fault α} {f : α → Except Fault β} {b : β}
    (h : x.bind f = .ok b) : ∃ a, x = .ok a ∧ f a = .ok b := by
  cases x with
  | error e => cases h
  | ok a => exact ⟨a, rfl, h⟩

theorem map_ok {α β : Type} {x : Except Fault α} {f : α → β} {b : β} (h : x.map f = .ok b) :
    ∃ a, x = .ok a ∧ f a = b := by
  cases x with
  | error e => cases h
  | ok a => exact ⟨a, rfl, Except.ok.inj h⟩

/-- A `char *` field of a record: the heap block it points at may be gone. -/
inductive StrPtr where
  | null
  | live (s : Bytes)
  | freed
  deriving DecidableEq

/-- `if (p) free(p)`; the pointer itself stays. -/
def freeField : StrPtr → Except Fault StrPtr
  | .null => .ok .null
  | .live _ => .ok .freed
  | .freed => .error .doubleFree

def StrPtr.released : StrPtr → StrPtr
  | .null => .null
  | _ => .freed

theorem freeField_eq (p : StrPtr) :
    freeField p = if p ≠ .freed then .ok p.released else .error .doubleFree := by
  cases p <;> rfl

/-- Copy into an array of `size` bytes, terminator included. -/
def strcpy (size : Nat) (s : Bytes) : Except Fault Bytes :=
  if s.length < size then .ok s else .error .overflow

/-- Offset of the first `needle` in a raw buffer, looking no further than
the first NUL. -/
def strstr (needle : Bytes) : Bytes → Except Fault (Option Nat)
  | [] => .error .outOfBounds
  | b :: mem =>
    if needle.isPrefixOf (b :: mem) then .ok (some 0)
    else if b = 0 then .ok none
    else (strstr needle mem).map (Option.map (· + 1))

/-- `strtok_r`: skip delimiters, take the token, step over the delimiter
that ended it. -/
def strtok (delim s : Bytes) : Option Bytes × Bytes :=
  match s.dropWhile (· ∈ delim) with
  | [] => (none, [])
  | c :: cs =>
    (some ((c :: cs).takeWhile (· ∉ delim)), ((c :: cs).dropWhile (· ∉ delim)).tail)

/-- All tokens, by repeated `strtok`; a token has at least one byte, so
`s.length` rounds are enough. -/
def strtokLoop (delim : Bytes) : Nat → Bytes → List Bytes
  | 0, _ => []
  | n + 1, s =>
    match strtok delim s with
    | (none, _) => []
    | (some t, r) => t :: strtokLoop delim n r

def strtokAll (delim s : Bytes) : List Bytes := strtokLoop delim s.length s

def isspace (b : UInt8) : Bool := b = 32 || (9 ≤ b && b ≤ 13)

def isdigit (b : UInt8) : Bool := 48 ≤ b && b ≤ 57

def isupper (b : UInt8) : Bool := 65 ≤ b && b ≤ 90

def tolower (b : UInt8) : UInt8 := if isupper b then b + 32 else b

/-! ## strcpy -/

theorem strcpy_ok {n : Nat} {s : Bytes} (h : s.length < n) : strcpy n s = .ok s := if_pos h

/-! ## strstr -/

theorem strstr_cons (needle : Bytes) (b : UInt8) (mem : Bytes) :
    strstr needle (b :: mem) = if needle.isPrefixOf (b :: mem) then .ok (some 0)
      else if b = 0 then .ok none else (strstr needle mem).map (Option.map (· + 1)) := rfl

/-- A hit inside `a` does not depend on what follows `a`. -/
theorem strstr_append_of_hit {needle : Bytes} :
    ∀ {a : Bytes}, needle ≠ [] → needle <:+: a → ∀ m₁ m₂,
      strstr needle (a ++ m₁) = strstr needle (a ++ m₂)
  | [], hne, h, _, _ => absurd (List.eq_nil_of_infix_nil h) hne
  | b :: a, hne, h, m₁, m₂ => by
    have hpre : ∀ m, needle.isPrefixOf (b :: (a ++ m)) = true →
        needle <+: b :: a ∨ ¬ needle.length ≤ (b :: a).length := by
      intro m hp
      by_cases hl : needle.length ≤ (b :: a).length
      · left
        exact List.prefix_of_prefix_length_le (List.isPrefixOf_iff_prefix.mp hp)
          (List.prefix_append (b :: a) m) hl
      · exact .inr hl
    have hlen : needle.length ≤ (b :: a).length := h.length_le
    have hiff : ∀ m, needle.isPrefixOf (b :: (a ++ m)) = true ↔ needle <+: b :: a := by
      intro m
      refine ⟨fun hp => (hpre m hp).resolve_right (fun hc => hc hlen), fun hp => ?_⟩
      exact List.isPrefixOf_iff_prefix.mpr (hp.trans (List.prefix_append (b :: a) m))
    simp only [List.cons_append, strstr_cons, hiff]
    by_cases hp : needle <+: b :: a
    · simp [hp]
    · rw [if_neg hp, if_neg hp]
      have hin : needle <:+: a := by
        rcases List.infix_cons_iff.mp h with h' | h'
        · exact absurd h' hp
        · exact h'
      rw [strstr_append_of_hit hne hin m₁ m₂]

/-- A NUL inside `a` stops the search there. -/
theorem strstr_append_of_nul {needle : Bytes} (hn : (0 : UInt8) ∉ needle) (hne : needle ≠ []) :
    ∀ {a : Bytes}, (0 : UInt8) ∈ a → ∀ m₁ m₂, strstr needle (a ++ m₁) = strstr needle (a ++ m₂)
  | b :: a, h, m₁, m₂ => by
    -- a prefix that contains no NUL lies inside `b :: a`, whose NUL comes first
    have hin : ∀ m, needle <+: b :: (a ++ m) → needle <+: b :: a := by
      intro m hp
      apply List.prefix_of_prefix_length_le hp (List.prefix_append (b :: a) m)
      by_contra hlt
      have hpa : b :: a <+: needle :=
        List.prefix_of_prefix_length_le (List.prefix_append (b :: a) m) hp (by omega)
      exact hn (hpa.subset h)
    have hiff : ∀ m, needle.isPrefixOf (b :: (a ++ m)) = true ↔ needle <+: b :: a := fun m =>
      ⟨fun hp => hin m (List.isPrefixOf_iff_prefix.mp hp),
        fun hp => List.isPrefixOf_iff_prefix.mpr (hp.trans (List.prefix_append (b :: a) m))⟩
    simp only [List.cons_append, strstr_cons, hiff]
    by_cases hp : needle <+: b :: a
    · simp [hp]
    · rw [if_neg hp, if_neg hp]
      by_cases hb : b = 0
      · simp [hb]
      · rw [if_neg hb, if_neg hb]
        have ha : (0 : UInt8) ∈ a := by
          rcases List.mem_cons.mp h with h' | h'
          · exact absurd h'.symm hb
          · exact h'
        rw [strstr_append_of_nul hn hne ha m₁ m₂]

/-- With neither in `a`, a NUL right behind it ends the search empty-handed. -/
theorem strstr_nul_of_miss {needle : Bytes} (hn : (0 : UInt8) ∉ needle) (hne : needle ≠ []) :
    ∀ {a : Bytes}, ¬ needle <:+: a → ∀ m, strstr needle (a ++ 0 :: m) = .ok none
  | [], _, m => by
    have h0 : needle.isPrefixOf (0 :: m) = false := by
      rw [← Bool.not_eq_true, List.isPrefixOf_iff_prefix]
      intro hp
      obtain ⟨c, cs, rfl⟩ := List.exists_cons_of_ne_nil hne
      rw [List.cons_prefix_cons] at hp
      exact hn (by simp [hp.1])
    simp [strstr_cons, h0]
  | b :: a, h, m => by
    have hp : needle.isPrefixOf (b :: (a ++ 0 :: m)) = false := by
      rw [← Bool.not_eq_true, List.isPrefixOf_iff_prefix]
      intro hp
      by_cases hl : needle.length ≤ (b :: a).length
      · have := List.prefix_of_prefix_length_le hp (List.prefix_append (b :: a) (0 :: m)) hl
        exact h this.isInfix
      · -- a longer prefix would run over the NUL
        have : b :: a ++ [0] <+: b :: (a ++ 0 :: m) := ⟨m, by simp⟩
        have := List.prefix_of_prefix_length_le this hp (by simp at hl ⊢; omega)
        exact hn (this.subset (by simp))
    rw [List.cons_append, strstr_cons, hp]
    by_cases hb : b = 0
    · simp [hb]
    · have ha : ¬ needle <:+: a := fun h' => h (List.infix_cons h')
      simp [hb, strstr_nul_of_miss hn hne ha m, Except.map]

/-- A hit does not reach into bytes the needle has none of. -/
theorem infix_of_append {needle r : Bytes} (hne : needle ≠ []) (hr : ∀ b ∈ needle, b ∉ r) :
    ∀ {a : Bytes}, needle <:+: a ++ r → needle <:+: a
  | [], h => by
    obtain ⟨c, cs, rfl⟩ := List.exists_cons_of_ne_nil hne
    exact absurd (h.subset (List.mem_cons_self ..)) (hr c (List.mem_cons_self ..))
  | x :: a, h => by
    rw [List.cons_append, List.infix_cons_iff] at h
    rcases h with h | h
    · by_cases hl : needle.length ≤ (x :: a).length
      · exact (List.prefix_of_prefix_length_le h (List.prefix_append (x :: a) r) hl).isInfix
      · -- longer than `x :: a`: its next byte comes from `r`
        obtain ⟨t, rfl⟩ := List.prefix_of_prefix_length_le (List.prefix_append (x :: a) r) h (by omega)
        cases t with
        | nil => simp at hl
        | cons c t =>
          rw [← List.cons_append, List.prefix_append_right_inj] at h
          exact absurd (h.subset (List.mem_cons_self ..)) (hr c (by simp))
    · exact List.infix_cons (infix_of_append hne hr h)

/-- A NUL at the end keeps the search inside the buffer. -/
theorem strstr_nul_isOk (needle : Bytes) : ∀ a : Bytes, ∃ o, strstr needle (a ++ [0]) = .ok o
  | [] => by
    rw [List.nil_append, strstr_cons]
    split
    · exact ⟨some 0, rfl⟩
    · exact ⟨none, rfl⟩
  | b :: a => by
    obtain ⟨o, ho⟩ := strstr_nul_isOk needle a
    rw [List.cons_append, strstr_cons, ho]
    split
    · exact ⟨some 0, rfl⟩
    · split <;> exact ⟨_, rfl⟩

/-- A hit lies inside the buffer. -/
theorem strstr_hit_length {needle : Bytes} :
    ∀ {mem : Bytes} {n : Nat}, strstr needle mem = .ok (some n) → n + needle.length ≤ mem.length
  | [], _, h => by cases h
  | b :: mem, n, h => by
    rw [strstr_cons] at h
    split at h
    · rename_i hp
      cases h
      have := (List.isPrefixOf_iff_prefix.mp hp).length_le
      omega
    · split at h
      · cases h
      · cases hs : strstr needle mem with
        | error e => rw [hs] at h; cases h
        | ok o =>
          rw [hs] at h
          cases o with
          | none => cases h
          | some k =>
            cases h
            have := strstr_hit_length hs
            simp only [List.length_cons]; omega

/-- No needle and no NUL anywhere: the search leaves the buffer. -/
theorem strstr_outOfBounds {needle : Bytes} :
    ∀ {mem : Bytes}, ¬ needle <:+: mem → (0 : UInt8) ∉ mem →
      strstr needle mem = .error .outOfBounds
  | [], _, _ => rfl
  | b :: mem, h, h0 => by
    have hp : needle.isPrefixOf (b :: mem) = false := by
      rw [← Bool.not_eq_true, List.isPrefixOf_iff_prefix]
      exact fun hp => h hp.isInfix
    have hb : b ≠ 0 := fun e => h0 (by simp [e])
    rw [strstr_cons, hp]
    simp only [Bool.false_eq_true, if_false, hb]
    rw [strstr_outOfBounds (fun h' => h (List.infix_cons h')) (fun h' => h0 (List.mem_cons_of_mem _ h'))]
    rfl

/-- A needle whose first byte does not occur before it is found there. -/
theorem strstr_found {c : UInt8} {cs : Bytes} :
    ∀ {a : Bytes}, (∀ b ∈ a, b ≠ c ∧ b ≠ 0) → ∀ m,
      strstr (c :: cs) (a ++ (c :: cs ++ m)) = .ok (some a.length)
  | [], _, m => by
    rw [List.nil_append, List.cons_append, strstr_cons, if_pos]
    · rfl
    · exact List.isPrefixOf_iff_prefix.mpr (List.prefix_append (c :: cs) m)
  | b :: a, h, m => by
    obtain ⟨hc, h0⟩ := h b (List.mem_cons_self ..)
    have hp : ¬ (c :: cs).isPrefixOf (b :: (a ++ (c :: cs ++ m))) = true := by
      rw [List.isPrefixOf_iff_prefix, List.cons_prefix_cons]
      exact fun hp => hc hp.1.symm
    have ih : strstr (c :: cs) (a ++ (c :: cs ++ m)) = .ok (some a.length) :=
      strstr_found (fun x hx => h x (List.mem_cons_of_mem _ hx)) m
    rw [List.cons_append, strstr_cons, if_neg hp, if_neg h0, ih]
    rfl

/-! ## strtok -/

/-- Delimiters in front are stepped over. -/
theorem strtok_skip {d : Bytes} {c : UInt8} (hc : c ∈ d) (s : Bytes) :
    strtok d (c :: s) = strtok d s := by
  simp [strtok, hc]

theorem strtok_skip_all {d : Bytes} :
    ∀ {pre : Bytes}, (∀ b ∈ pre, b ∈ d) → ∀ s, strtok d (pre ++ s) = strtok d s
  | [], _, _ => rfl
  | c :: pre, h, s => by
    rw [List.cons_append, strtok_skip (h c (List.mem_cons_self ..))]
    exact strtok_skip_all (fun b hb => h b (List.mem_cons_of_mem _ hb)) s

/-- A word up to the first delimiter is the token, and the delimiter is
consumed. -/
theorem strtok_word {d t : Bytes} (hne : t ≠ []) (ht : ∀ b ∈ t, b ∉ d) {c : UInt8} (hc : c ∈ d)
    (r : Bytes) : strtok d (t ++ c :: r) = (some t, r) := by
  obtain ⟨x, xs, rfl⟩ := List.exists_cons_of_ne_nil hne
  have hx : x ∉ d := ht x (List.mem_cons_self ..)
  have htake : (x :: xs ++ c :: r).takeWhile (· ∉ d) = x :: xs := by
    rw [List.takeWhile_append_of_pos (by simpa using ht)]
    simp [hc]
  have hdrop : (x :: xs ++ c :: r).dropWhile (· ∉ d) = c :: r := by
    rw [List.dropWhile_append_of_pos (by simpa using ht)]
    simp [hc]
  unfold strtok
  have hskip : (x :: xs ++ c :: r).dropWhile (· ∈ d) = x :: (xs ++ c :: r) := by simp [hx]
  rw [hskip]
  simp only [List.cons_append] at htake hdrop
  simp only [htake, hdrop, List.tail_cons]

/-- A word that ends the string is the last token. -/
theorem strtok_last {d t : Bytes} (hne : t ≠ []) (ht : ∀ b ∈ t, b ∉ d) :
    strtok d t = (some t, []) := by
  obtain ⟨x, xs, rfl⟩ := List.exists_cons_of_ne_nil hne
  have hx : x ∉ d := ht x (List.mem_cons_self ..)
  have htake : (x :: xs).takeWhile (· ∉ d) = x :: xs :=
    List.takeWhile_eq_self_iff.mpr (by simpa using ht)
  have hdrop : (x :: xs).dropWhile (· ∉ d) = [] :=
    List.dropWhile_eq_nil_iff.mpr (by simpa using ht)
  unfold strtok
  have hskip : (x :: xs).dropWhile (· ∈ d) = x :: xs := by simp [hx]
  rw [hskip]
  simp only [htake, hdrop, List.tail_nil]

/-- Pieces written one after another with `c` between them. -/
def joinSep (c : UInt8) : List Bytes → Bytes
  | [] => []
  | [s] => s
  | s :: t :: rest => s ++ c :: joinSep c (t :: rest)

/-- Repeated `strtok` undoes `joinSep` on non-empty pieces without the
separator. -/
theorem strtokLoop_joinSep {c : UInt8} :
    ∀ {segs : List Bytes}, (∀ s ∈ segs, s ≠ [] ∧ c ∉ s) → ∀ {n : Nat}, segs.length ≤ n →
      strtokLoop [c] n (joinSep c segs) = segs
  | [], _, n, _ => by cases n <;> rfl
  | [s], h, n + 1, _ => by
    obtain ⟨hne, hc⟩ := h s (List.mem_cons_self ..)
    have hs : ∀ b ∈ s, b ∉ [c] := fun b hb e => hc (List.mem_singleton.mp e ▸ hb)
    simp only [strtokLoop, joinSep, strtok_last hne hs]
    cases n <;> rfl
  | s :: t :: rest, h, n + 1, hn => by
    obtain ⟨hne, hc⟩ := h s (List.mem_cons_self ..)
    have hs : ∀ b ∈ s, b ∉ [c] := fun b hb e => hc (List.mem_singleton.mp e ▸ hb)
    have ih := strtokLoop_joinSep (fun x hx => h x (List.mem_cons_of_mem _ hx))
      (n := n) (by simpa using hn)
    simp only [strtokLoop, joinSep, strtok_word hne hs (List.mem_singleton.mpr rfl), ih]

theorem joinSep_length {c : UInt8} :
    ∀ {segs : List Bytes}, (∀ s ∈ segs, s ≠ []) → segs.length ≤ (joinSep c segs).length
  | [], _ => Nat.le_refl _
  | [s], h => List.length_pos_iff.mpr (h s (List.mem_cons_self ..))
  | s :: t :: rest, h => by
    have ih : (t :: rest).length ≤ (joinSep c (t :: rest)).length :=
      joinSep_length fun x hx => h x (List.mem_cons_of_mem _ hx)
    simp only [joinSep, List.length_append, List.length_cons] at ih ⊢
    omega

theorem strtokAll_joinSep {c : UInt8} {segs : List Bytes} (h : ∀ s ∈ segs, s ≠ [] ∧ c ∉ s) :
    strtokAll [c] (joinSep c segs) = segs :=
  strtokLoop_joinSep h (joinSep_length fun s hs => (h s hs).1)

/-- One separator fewer than pieces. -/
theorem joinSep_count {c : UInt8} :
    ∀ {segs : List Bytes}, (∀ s ∈ segs, c ∉ s) → (joinSep c segs).count c = segs.length - 1
  | [], _ => rfl
  | [s], h => List.count_eq_zero.mpr (h s (List.mem_cons_self ..))
  | s :: t :: rest, h => by
    have h0 := List.count_eq_zero.mpr (h s (List.mem_cons_self ..))
    have ih : (joinSep c (t :: rest)).count c = (t :: rest).length - 1 :=
      joinSep_count fun x hx => h x (List.mem_cons_of_mem _ hx)
    simp only [joinSep, List.count_append, List.count_cons_self, h0, ih, List.length_cons]
    omega

theorem mem_joinSep {c b : UInt8} :
    ∀ {segs : List Bytes}, b ∈ joinSep c segs → b = c ∨ ∃ s ∈ segs, b ∈ s
  | [], h => by cases h
  | [s], h => .inr ⟨s, List.mem_cons_self .., h⟩
  | s :: t :: rest, h => by
    simp only [joinSep, List.mem_append, List.mem_cons] at h
    rcases h with h | h | h
    · exact .inr ⟨s, List.mem_cons_self .., h⟩
    · exact .inl h
    · rcases mem_joinSep h with h | ⟨x, hx, hb⟩
      · exact .inl h
      · exact .inr ⟨x, List.mem_cons_of_mem _ hx, hb⟩

theorem strtok_none_iff {d s : Bytes} : (strtok d s).1 = none ↔ ∀ b ∈ s, b ∈ d := by
  unfold strtok
  split
  · rename_i h
    simpa [List.dropWhile_eq_nil_iff] using h
  · rename_i c cs h
    simp only [reduceCtorEq, false_iff]
    intro hall
    have : s.dropWhile (· ∈ d) = [] := by simpa [List.dropWhile_eq_nil_iff] using hall
    rw [this] at h; cases h

theorem strtok_none_rest {d s : Bytes} (h : (strtok d s).1 = none) : (strtok d s).2 = [] := by
  unfold strtok at h ⊢
  split at h
  · rfl
  · cases h

/-- What a token is: a non-empty run of non-delimiters; token and rest
together are shorter than the input. -/
theorem strtok_some {d s t r : Bytes} (h : strtok d s = (some t, r)) :
    t ≠ [] ∧ (∀ b ∈ t, b ∉ d) ∧ (∀ b ∈ t, b ∈ s) ∧ t.length + r.length ≤ s.length := by
  unfold strtok at h
  split at h
  · cases h
  · rename_i c cs hd
    simp only [Prod.mk.injEq, Option.some.injEq] at h
    obtain ⟨rfl, rfl⟩ := h
    have hc : c ∉ d := by
      have := List.dropWhile_get_zero_not (· ∈ d) s (by rw [hd]; simp)
      simpa [hd] using this
    have hsuf : c :: cs <:+ s := hd ▸ List.dropWhile_suffix _
    refine ⟨by simp [hc], fun b hb => ?_, fun b hb => ?_, ?_⟩
    · simpa using List.mem_takeWhile_imp hb
    · exact hsuf.subset ((List.takeWhile_prefix _).subset hb)
    · have h1 := congrArg List.length (List.takeWhile_append_dropWhile (p := (· ∉ d)) (l := c :: cs))
      rw [List.length_append] at h1
      have h2 := hsuf.length_le
      have h3 : (((c :: cs).dropWhile (· ∉ d)).tail).length ≤ ((c :: cs).dropWhile (· ∉ d)).length := by
        simp
      omega

theorem strtok_length {d s t : Bytes} (h : (strtok d s).1 = some t) : t.length ≤ s.length := by
  have := (strtok_some (Prod.ext h rfl : strtok d s = (some t, (strtok d s).2))).2.2.2
  omega

theorem strtok_rest_length (d s : Bytes) : (strtok d s).2.length ≤ s.length := by
  cases h : (strtok d s).1 with
  | none => rw [strtok_none_rest h]; simp
  | some t =>
    have := (strtok_some (Prod.ext h rfl : strtok d s = (some t, (strtok d s).2))).2.2.2
    omega

/-! ## All the tokens -/

/-- Where a token lies: behind delimiters, and at the end of the string or
in front of one more delimiter. -/
theorem strtok_split {d s t r : Bytes} (h : strtok d s = (some t, r)) :
    ∃ pre, (∀ b ∈ pre, b ∈ d) ∧ (s = pre ++ t ∧ r = [] ∨ ∃ c ∈ d, s = pre ++ (t ++ c :: r)) := by
  unfold strtok at h
  split at h
  · cases h
  · rename_i c cs hd
    simp only [Prod.mk.injEq, Option.some.injEq] at h
    obtain ⟨rfl, rfl⟩ := h
    refine ⟨s.takeWhile (· ∈ d), fun b hb => by simpa using List.mem_takeWhile_imp hb, ?_⟩
    have hs : s = s.takeWhile (· ∈ d) ++ (c :: cs) := by
      rw [← hd, List.takeWhile_append_dropWhile]
    have htok : c :: cs = (c :: cs).takeWhile (· ∉ d) ++ (c :: cs).dropWhile (· ∉ d) :=
      List.takeWhile_append_dropWhile.symm
    cases hrest : (c :: cs).dropWhile (· ∉ d) with
    | nil =>
      rw [hrest, List.append_nil] at htok
      exact .inl ⟨by rw [← htok, ← hs], rfl⟩
    | cons x xs =>
      have hx : x ∈ d := by
        have := List.head?_dropWhile_not (· ∉ d) (c :: cs)
        rw [hrest] at this
        simpa using this
      rw [hrest] at htok
      exact .inr ⟨x, hx, by rw [List.tail_cons, ← htok, ← hs]⟩

/-- The non-empty pieces between the delimiters. -/
def pieces (d s : Bytes) : List Bytes := (s.splitOnP (· ∈ d)).filter (· ≠ [])

theorem pieces_skip {d : Bytes} {c : UInt8} (hc : c ∈ d) (s : Bytes) :
    pieces d (c :: s) = pieces d s := by
  simp [pieces, List.splitOnP_cons_eq_if_modifyHead, hc]

theorem pieces_skip_all {d : Bytes} :
    ∀ {pre : Bytes}, (∀ b ∈ pre, b ∈ d) → ∀ s, pieces d (pre ++ s) = pieces d s
  | [], _, _ => rfl
  | c :: pre, h, s => by
    rw [List.cons_append, pieces_skip (h c (List.mem_cons_self ..))]
    exact pieces_skip_all (fun b hb => h b (List.mem_cons_of_mem _ hb)) s

theorem pieces_word {d t : Bytes} (hne : t ≠ []) (ht : ∀ b ∈ t, b ∉ d) {c : UInt8} (hc : c ∈ d)
    (r : Bytes) : pieces d (t ++ c :: r) = t :: pieces d r := by
  have hsplit : (t ++ c :: r).splitOnP (· ∈ d) = t :: r.splitOnP (· ∈ d) :=
    List.splitOnP_append_cons_of_forall_mem (by simpa using ht) c (by simpa using hc) r
  simp [pieces, hsplit, hne]

theorem pieces_last {d t : Bytes} (hne : t ≠ []) (ht : ∀ b ∈ t, b ∉ d) : pieces d t = [t] := by
  have hsplit : t.splitOnP (· ∈ d) = [t] := List.splitOnP_eq_singleton (by simpa using ht)
  simp [pieces, hsplit, hne]

theorem pieces_eq_nil {d s : Bytes} (h : ∀ b ∈ s, b ∈ d) : pieces d s = [] := by
  have := pieces_skip_all h []
  rwa [List.append_nil] at this

/-- A token is the first piece, and the others are in the rest. -/
theorem pieces_of_strtok {d s t r : Bytes} (h : strtok d s = (some t, r)) :
    pieces d s = t :: pieces d r := by
  obtain ⟨hne, ht, -⟩ := strtok_some h
  obtain ⟨pre, hpre, ⟨rfl, rfl⟩ | ⟨c, hc, rfl⟩⟩ := strtok_split h
  · rw [pieces_skip_all hpre, pieces_last hne ht]
    rfl
  · rw [pieces_skip_all hpre, pieces_word hne ht hc]

theorem pieces_of_strtok_none {d s : Bytes} (h : (strtok d s).1 = none) : pieces d s = [] :=
  pieces_eq_nil (strtok_none_iff.mp h)

theorem strtok_fst (d s : Bytes) : (strtok d s).1 = (pieces d s).head? := by
  cases h : (strtok d s).1 with
  | none => rw [pieces_of_strtok_none h]; rfl
  | some t => rw [pieces_of_strtok (Prod.ext h rfl)]; rfl

theorem pieces_strtok_snd (d s : Bytes) : pieces d (strtok d s).2 = (pieces d s).tail := by
  cases h : (strtok d s).1 with
  | none => rw [pieces_of_strtok_none h, strtok_none_rest h]; rfl
  | some t => rw [pieces_of_strtok (Prod.ext h rfl : strtok d s = (some t, (strtok d s).2))]; rfl

/-- Repeated `strtok` finds the pieces. -/
theorem strtokLoop_eq_pieces {d : Bytes} :
    ∀ {n : Nat} {s : Bytes}, s.length ≤ n → strtokLoop d n s = pieces d s := by
  intro n
  induction n with
  | zero =>
    intro s hs
    rw [List.length_eq_zero_iff.mp (Nat.le_zero.mp hs)]
    rfl
  | succ n ih =>
    intro s hs
    unfold strtokLoop
    split
    · rename_i r h
      rw [pieces_of_strtok_none (by rw [h])]
    · rename_i t r h
      obtain ⟨hne, -, -, hlen⟩ := strtok_some h
      have hpos := List.length_pos_iff.mpr hne
      rw [pieces_of_strtok h, ih (by omega)]

theorem strtokAll_eq_pieces (d s : Bytes) : strtokAll d s = pieces d s :=
  strtokLoop_eq_pieces (Nat.le_refl _)

end Rpiweatherd
