import Mathlib

/-!
# One server behind a queue

Any number of clients put messages into a queue, and one server takes them out
one by one: it answers a message from its state, and then changes the state.
How the world decides an outcome that the message leaves open (a failure, the
time) is the fate of the round.

`Object` is what the server does to one message. `Serial` compares a server in
the middle of its work with the same object used by one client that makes its
calls in the order of the queue: nothing is lost, doubled or overtaken, and
every answer is the one the object gives after exactly the messages that were
queued before. It is kept by the three things that can happen: a message is
queued (`Serial.enqueue`), taken (`Serial.receive`) and served
(`Serial.serve`).
-/
namespace Rpiweatherd

/-- A sequential object: the state after a message, and the answer from the
state before it. -/
structure Object (M F S A : Type) where
  apply : S → M → F → S
  answer : S → M → F → Option A

namespace Object
variable {M F S A : Type}

/-- The state after these rounds. -/
def after (o : Object M F S A) (init : S) (rounds : List (M × F)) : S :=
  rounds.foldl (fun s r => o.apply s r.1 r.2) init

theorem after_append (o : Object M F S A) (init : S) (rounds : List (M × F)) (m : M) (f : F) :
    o.after init (rounds ++ [(m, f)]) = o.apply (o.after init rounds) m f := by
  rw [after, List.foldl_append]
  rfl

/-- What every round keeps of the state before it, more rounds keep. -/
theorem after_rel (o : Object M F S A) {R : S → S → Prop} (hrefl : ∀ s, R s s)
    (htrans : ∀ s₁ s₂ s₃, R s₁ s₂ → R s₂ s₃ → R s₁ s₃) (hstep : ∀ s m f, R s (o.apply s m f))
    (init : S) {before rounds : List (M × F)} (h : before <+: rounds) :
    R (o.after init before) (o.after init rounds) := by
  obtain ⟨more, rfl⟩ := h
  induction more using List.reverseRecOn with
  | nil =>
    rw [List.append_nil]
    exact hrefl _
  | append_singleton more r ih =>
    rw [← List.append_assoc, after_append]
    exact htrans _ _ _ ih (hstep _ r.1 r.2)

end Object

/-- A server: every message ever queued, the rounds so far, the message in
hand, those still queued, the state, and the answers by the number of their
round. -/
structure Server (M F S A : Type) where
  queued : List M
  rounds : List (M × F)
  held : Option M
  pending : List M
  state : S
  answers : List (Nat × A)

variable {M F S A : Type}

structure Serial (o : Object M F S A) (init : S) (v : Server M F S A) : Prop where
  order : v.queued = v.rounds.map Prod.fst ++ (v.held.toList ++ v.pending)
  state : v.state = o.after init v.rounds
  answers : ∀ a ∈ v.answers, ∃ r, v.rounds[a.1]? = some r ∧
    o.answer (o.after init (v.rounds.take a.1)) r.1 r.2 = some a.2
  increasing : (v.answers.map Prod.fst).Pairwise (· < ·)

namespace Serial
variable {o : Object M F S A} {init : S} {v : Server M F S A}

theorem start (o : Object M F S A) (init : S) : Serial o init ⟨[], [], none, [], init, []⟩ :=
  ⟨rfl, rfl, List.forall_mem_nil _, List.Pairwise.nil⟩

theorem enqueue (h : Serial o init v) (m : M) :
    Serial o init { v with queued := v.queued ++ [m], pending := v.pending ++ [m] } :=
  { h with
    order := by
      show v.queued ++ [m] = _
      rw [h.order, List.append_assoc, List.append_assoc] }

theorem receive (h : Serial o init v) {m : M} {rest : List M} (hheld : v.held = none)
    (hpending : v.pending = m :: rest) :
    Serial o init { v with held := some m, pending := rest } :=
  { h with
    order := by
      rw [h.order, hheld, hpending]
      rfl }

/-- The answer of a round, if there is one, is that of the object after all the
earlier rounds. -/
theorem serve (h : Serial o init v) {m : M} (hheld : v.held = some m) (f : F) :
    Serial o init { v with
      held := none
      rounds := v.rounds ++ [(m, f)]
      state := o.apply v.state m f
      answers := v.answers ++ (o.answer v.state m f).toList.map fun a => (v.rounds.length, a) } where
  order := by
    show v.queued = (v.rounds ++ [(m, f)]).map Prod.fst ++ ([] ++ v.pending)
    rw [h.order, hheld, List.map_append, List.append_assoc]
    rfl
  state := by
    rw [Object.after_append, ← h.state]
  answers := by
    intro a ha
    rcases List.mem_append.mp ha with ha | ha
    · obtain ⟨r, hr, hanswer⟩ := h.answers a ha
      have hlt : a.1 < v.rounds.length := (List.getElem?_eq_some_iff.mp hr).1
      refine ⟨r, ?_, ?_⟩
      · rw [List.getElem?_append_left hlt]
        exact hr
      · rw [List.take_append_of_le_length (Nat.le_of_lt hlt)]
        exact hanswer
    · obtain ⟨b, hb, rfl⟩ := List.mem_map.mp ha
      refine ⟨(m, f), List.getElem?_concat_length, ?_⟩
      rw [List.take_left, ← h.state]
      exact Option.mem_toList.mp hb
  increasing := by
    rw [List.map_append, List.pairwise_append]
    refine ⟨h.increasing, ?_, ?_⟩
    · cases o.answer v.state m f with
      | none => exact List.Pairwise.nil
      | some b => exact List.pairwise_singleton _ _
    · intro i hi j hj
      obtain ⟨a, ha, rfl⟩ := List.mem_map.mp hi
      obtain ⟨b, hb, rfl⟩ := List.mem_map.mp hj
      obtain ⟨c, -, rfl⟩ := List.mem_map.mp hb
      obtain ⟨r, hr, -⟩ := h.answers a ha
      exact (List.getElem?_eq_some_iff.mp hr).1

/-- **One order.** An answer is that of the object after exactly the messages
that were queued before the one it answers. -/
theorem answer_at (h : Serial o init v) {a : Nat × A} (ha : a ∈ v.answers) :
    ∃ m f, v.queued[a.1]? = some m ∧ v.rounds[a.1]? = some (m, f) ∧
      (v.rounds.take a.1).map Prod.fst = v.queued.take a.1 ∧
      o.answer (o.after init (v.rounds.take a.1)) m f = some a.2 := by
  obtain ⟨⟨m, f⟩, hr, hanswer⟩ := h.answers a ha
  have hlt : a.1 < v.rounds.length := (List.getElem?_eq_some_iff.mp hr).1
  have hlt' : a.1 < (v.rounds.map Prod.fst).length := by rwa [List.length_map]
  refine ⟨m, f, ?_, hr, ?_, hanswer⟩
  · rw [h.order, List.getElem?_append_left hlt', List.getElem?_map, hr]
    rfl
  · rw [h.order, List.take_append_of_le_length (Nat.le_of_lt hlt'), List.map_take]

end Serial
end Rpiweatherd
