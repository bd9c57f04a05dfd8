import Mathlib

/-!
# Texts that are written in two passes

A C function that builds a text can be called twice: without a buffer, to
learn how long the text is, and then with a block of that size. A `Writer` is
told the place to write to, if there is one. It returns how many characters
the text has, in a type with a largest value, and the block afterwards.

`Writes` ties a writer to the text it stands for: both passes count the same,
and the second one leaves the text in the block. A writer that closes also
puts the terminator behind it. Writers are put together with `andThen` and
`seq`, which keep this; `Writes.fill` is the second pass into a block of
exactly the size the first pass found.
-/
namespace Rpiweatherd

abbrev Writer (α E : Type) := Option Nat → List α → Except E (Nat × List α)

/-- The terminator, the largest count, and what goes wrong when a count gets
larger or a character is put outside the block. -/
structure WriteRules (α E : Type) where
  nul : α
  limit : Nat
  tooLong : E
  outside : E

namespace Writer
variable {α E : Type} (R : WriteRules α E)

def done : Writer α E := fun _ mem => .ok (0, mem)

/-- No text: the call fails. -/
def fail (e : E) : Writer α E := fun _ _ => .error e

/-- The characters without a terminator. -/
def put (text : List α) : Writer α E
  | none, mem => .ok (text.length, mem)
  | some p, mem =>
    if p + text.length ≤ mem.length then
      .ok (text.length, mem.take p ++ (text ++ mem.drop (p + text.length)))
    else .error R.outside

/-- The characters and the terminator, which is not counted. -/
def append (text : List α) : Writer α E
  | none, mem => .ok (text.length, mem)
  | some p, mem =>
    if p + text.length < mem.length then
      .ok (text.length, mem.take p ++ (text ++ R.nul :: mem.drop (p + text.length + 1)))
    else .error R.outside

/-- The second text behind the first; the counts are added. -/
def andThen (w₁ w₂ : Writer α E) : Writer α E := fun place mem =>
  (w₁ place mem).bind fun (n, mem) =>
    (w₂ (place.map (· + n)) mem).bind fun (m, mem) =>
      if n + m ≤ R.limit then .ok (n + m, mem) else .error R.tooLong

/-- One text after the other, from the left. -/
def seq (ws : List (Writer α E)) : Writer α E := ws.foldl (andThen R) done

end Writer

/-- What a writer stands for; `close` tells whether it ends with the
terminator. -/
structure Writes {α E : Type} (R : WriteRules α E) (close : Bool) (w : Writer α E)
    (text : List α) : Prop where
  counts : ∀ mem, w none mem =
    if text.length ≤ R.limit then .ok (text.length, mem) else .error R.tooLong
  writes : ∀ mem p, text.length ≤ R.limit → p + text.length < mem.length →
    ∃ rest, w (some p) mem = .ok (text.length, mem.take p ++ (text ++ rest)) ∧
      p + text.length + rest.length = mem.length ∧ (close = true → rest.head? = some R.nul)

namespace Writes
variable {α E : Type} {R : WriteRules α E} {w w₁ w₂ : Writer α E} {t t₁ t₂ : List α}

theorem weaken {close : Bool} (h : Writes R close w t) : Writes R false w t where
  counts := h.counts
  writes mem p hlimit hroom := by
    obtain ⟨rest, hw, hlen, -⟩ := h.writes mem p hlimit hroom
    exact ⟨rest, hw, hlen, fun hfalse => by cases hfalse⟩

theorem done : Writes R false Writer.done [] where
  counts mem := (if_pos (Nat.zero_le R.limit)).symm
  writes mem p _ hroom := by
    refine ⟨mem.drop p, ?_, ?_, fun hfalse => by cases hfalse⟩
    · rw [List.nil_append, List.take_append_drop]
      rfl
    · simp only [List.length_nil, Nat.add_zero, List.length_drop] at hroom ⊢
      omega

theorem put (h : t.length ≤ R.limit) : Writes R false (Writer.put R t) t where
  counts mem := by
    rw [if_pos h]
    rfl
  writes mem p _ hroom := by
    refine ⟨mem.drop (p + t.length), ?_, ?_, fun hfalse => by cases hfalse⟩
    · exact if_pos (Nat.le_of_lt hroom)
    · rw [List.length_drop]
      omega

theorem append (h : t.length ≤ R.limit) : Writes R true (Writer.append R t) t where
  counts mem := by
    rw [if_pos h]
    rfl
  writes mem p _ hroom := by
    refine ⟨R.nul :: mem.drop (p + t.length + 1), ?_, ?_, fun _ => rfl⟩
    · exact if_pos hroom
    · rw [List.length_cons, List.length_drop]
      omega

theorem andThen {c₁ c₂ : Bool} (h₁ : Writes R c₁ w₁ t₁) (h₂ : Writes R c₂ w₂ t₂) :
    Writes R c₂ (Writer.andThen R w₁ w₂) (t₁ ++ t₂) where
  counts mem := by
    unfold Writer.andThen
    rw [List.length_append, h₁.counts]
    by_cases hl₁ : t₁.length ≤ R.limit
    · rw [if_pos hl₁]
      simp only [Except.bind, Option.map_none, h₂.counts]
      by_cases hl₂ : t₂.length ≤ R.limit
      · rw [if_pos hl₂]
      · rw [if_neg hl₂, if_neg (by omega)]
    · rw [if_neg hl₁, if_neg (by omega)]
      rfl
  writes mem p hlimit hroom := by
    rw [List.length_append] at hlimit hroom
    obtain ⟨rest₁, hw₁, hlen₁, -⟩ := h₁.writes mem p (by omega) (by omega)
    have hp : (mem.take p).length = p := List.length_take_of_le (by omega)
    have hmem : (mem.take p ++ (t₁ ++ rest₁)).length = mem.length := by
      simp only [List.length_append, hp]
      omega
    obtain ⟨rest₂, hw₂, hlen₂, hclose⟩ :=
      h₂.writes (mem.take p ++ (t₁ ++ rest₁)) (p + t₁.length) (by omega) (by omega)
    have hfront : (mem.take p ++ (t₁ ++ rest₁)).take (p + t₁.length) = mem.take p ++ t₁ := by
      rw [← List.append_assoc]
      exact List.take_left' (by rw [List.length_append, hp])
    refine ⟨rest₂, ?_, ?_, hclose⟩
    · unfold Writer.andThen
      rw [hw₁]
      simp only [Except.bind, Option.map_some, hw₂, hfront, List.length_append, if_pos hlimit,
        List.append_assoc]
    · rw [List.length_append]
      omega

/-- **The second pass** fills a block of the size the first pass found: the
text and its terminator, and nothing else. -/
theorem fill (h : Writes R true w t) (hlimit : t.length ≤ R.limit) {block : List α}
    (hsize : block.length = t.length + 1) : w (some 0) block = .ok (t.length, t ++ [R.nul]) := by
  obtain ⟨rest, hw, hlen, hclose⟩ := h.writes block 0 hlimit (by omega)
  have hrest : rest = [R.nul] := by
    obtain ⟨c, rfl⟩ := List.length_eq_one_iff.mp (show rest.length = 1 by omega)
    exact congrArg (fun c => [c]) (Option.some.inj (hclose rfl))
  rw [hw, hrest, List.take_zero, List.nil_append]

end Writes

/-- The writers of a list stand for one text, each for a piece of it. -/
inductive WritesAll {α E : Type} (R : WriteRules α E) : List (Writer α E) → List α → Prop
  | nil : WritesAll R [] []
  | cons {w : Writer α E} {ws : List (Writer α E)} {t s : List α} :
      Writes R false w t → WritesAll R ws s → WritesAll R (w :: ws) (t ++ s)

namespace WritesAll
variable {α E : Type} {R : WriteRules α E} {w : Writer α E} {ws us : List (Writer α E)}
  {s t : List α}

theorem singleton {close : Bool} (h : Writes R close w t) : WritesAll R [w] t := by
  rw [← List.append_nil t]
  exact .cons h.weaken .nil

theorem append (h : WritesAll R ws t) (h' : WritesAll R us s) :
    WritesAll R (ws ++ us) (t ++ s) := by
  induction h with
  | nil => exact h'
  | cons hw _ ih =>
    rw [List.cons_append, List.append_assoc]
    exact .cons hw ih

/-- A sequence writes the pieces one behind the other. -/
theorem seq (h : WritesAll R ws t) : Writes R false (Writer.seq R ws) t := by
  have hfold : ∀ {w s}, Writes R false w s →
      Writes R false (ws.foldl (Writer.andThen R) w) (s ++ t) := by
    induction h with
    | nil =>
      intro w s hw
      rwa [List.append_nil]
    | cons hw' _ ih =>
      intro w s hw
      rw [List.foldl_cons, ← List.append_assoc]
      exact ih (hw.andThen hw')
  exact hfold Writes.done

end WritesAll
end Rpiweatherd
