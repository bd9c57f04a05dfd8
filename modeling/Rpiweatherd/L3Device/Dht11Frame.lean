import Rpiweatherd.L3Device.Dht11

/-!
# Frames of the sensor

A `SensorFrame` is what a DHT11 that behaves puts on the line: five bytes as
runs of alternating level, with the run lengths counted in samples of the
reader. A bit is the length of the HIGH run that carries it, and the line is
idle behind the frame.

Each change of level costs the reader two samples, so a wait is two samples
shorter than the run it measures (`levels_eq_waits`); eighty-four rounds later
the bytes are back in the array (`dht11_inverts_frame`).
-/
namespace Rpiweatherd

/-- Runs of alternating level, the first one of level `l`, and then `s`. -/
def levels : Bool → List Nat → Samples → Samples
  | _, [], s => s
  | l, n :: ns, s => List.replicate n l ++ₛ levels (!l) ns s

/-- A run that is noticed at its change and does not time out. -/
def IsRun (n : Nat) : Prop := 2 ≤ n ∧ n < 255

instance decidableIsRun (n : Nat) : Decidable (IsRun n) := inferInstanceAs (Decidable (_ ∧ _))

/-- Bit `k` of five bytes, most significant first. -/
def frameBit (bytes : Fin 5 → UInt8) (k : Fin 40) : Bool :=
  (bytes ⟨k / 8, by omega⟩).toNat.testBit (7 - k % 8)

structure SensorFrame where
  bytes : Fin 5 → UInt8
  first : Nat
  response : Fin 3 → Nat
  high : Fin 40 → Nat
  low : Fin 40 → Nat
  idle : Nat
  rest : Samples
  first_short : first < 255
  response_run : ∀ k, IsRun (response k)
  high_run : ∀ k, IsRun (high k)
  low_run : ∀ k, IsRun (low k)
  idle_long : 256 < idle
  carries : ∀ k, 18 < high k ↔ frameBit bytes k = true

namespace SensorFrame

/-- Every five bytes have a frame: one in which a 1 lasts 19 samples and all
other runs as short as can be. -/
def encode (bytes : Fin 5 → UInt8) : SensorFrame where
  bytes := bytes
  first := 0
  response _ := 2
  high k := if frameBit bytes k then 19 else 2
  low _ := 2
  idle := 257
  rest := Stream'.const HIGH
  first_short := by decide
  response_run _ := by decide
  high_run k := by split <;> decide
  low_run _ := by decide
  idle_long := by decide
  carries k := by split <;> simp_all

instance : Inhabited SensorFrame := ⟨encode fun _ => 0⟩

/-- The runs behind the first: LOW, HIGH, LOW, then the bits. -/
def laterRuns (f : SensorFrame) : List Nat :=
  f.response 0 :: f.response 1 :: f.response 2 ::
    (List.finRange 40).flatMap fun k => [f.high k, f.low k]

/-- The line. -/
def samples (f : SensorFrame) : Samples :=
  levels HIGH (f.first :: f.laterRuns) (List.replicate f.idle HIGH ++ₛ f.rest)

theorem isRun_of_mem (f : SensorFrame) : ∀ n ∈ f.laterRuns, IsRun n := by
  intro n hn
  simp only [laterRuns, List.mem_cons, List.mem_flatMap, List.not_mem_nil, or_false] at hn
  rcases hn with rfl | rfl | rfl | ⟨k, -, rfl | rfl⟩
  · exact f.response_run 0
  · exact f.response_run 1
  · exact f.response_run 2
  · exact f.high_run k
  · exact f.low_run k

end SensorFrame

/-! ## Runs as waits -/

/-- The level behind runs that start with level `l`. -/
def levelAfter : Bool → List Nat → Bool
  | l, [] => l
  | l, _ :: ns => levelAfter (!l) ns

/-- Waits of the given lengths: each one ends at a change that shows twice. -/
def waits : Bool → List Nat → Samples → Samples
  | _, [], s => s
  | l, c :: cs, s => List.replicate c l ++ₛ ([!l, !l] ++ₛ waits (!l) cs s)

theorem replicate_run {n : Nat} (h : 2 ≤ n) (l : Bool) (s : Samples) :
    List.replicate n l ++ₛ s = [l, l] ++ₛ (List.replicate (n - 2) l ++ₛ s) := by
  obtain ⟨n, rfl⟩ := Nat.exists_eq_add_of_le' h
  rfl

theorem levels_eq_waits {ns : List Nat} :
    ∀ {l : Bool} {c : Nat} {t : Samples}, (∀ n ∈ ns, 2 ≤ n) →
      levels l (c :: ns) ([levelAfter l (c :: ns), levelAfter l (c :: ns)] ++ₛ t) =
        waits l (c :: ns.map (· - 2)) t := by
  induction ns with
  | nil => exact fun _ => rfl
  | cons n ns ih =>
    intro l c t h
    obtain ⟨hn, hns⟩ := List.forall_mem_cons.mp h
    have hlater : levels (!l) (n :: ns) ([levelAfter l (c :: n :: ns),
        levelAfter l (c :: n :: ns)] ++ₛ t) =
          [!l, !l] ++ₛ waits (!l) ((n - 2) :: ns.map (· - 2)) t := by
      rw [← ih hns, levels, replicate_run hn]
      rfl
    rw [levels, hlater]
    rfl

/-- The start of a wait, as the reader sees it. -/
theorem changesAt_wait (l : Bool) (c : Nat) (s : Samples) :
    ChangesAt l (List.replicate c l ++ₛ ([!l, !l] ++ₛ s)) c ∧
      (List.replicate c l ++ₛ ([!l, !l] ++ₛ s)).get (c + 1) = !l ∧
      (List.replicate c l ++ₛ ([!l, !l] ++ₛ s)).drop (c + 2) = s := by
  induction c with
  | zero => exact ⟨⟨fun k hk => absurd hk (Nat.not_lt_zero k), Bool.not_ne_self l⟩, rfl, rfl⟩
  | succ c ih =>
    obtain ⟨⟨hsame, hdiff⟩, hget, hdrop⟩ := ih
    refine ⟨⟨fun k hk => ?_, hdiff⟩, hget, hdrop⟩
    cases k with
    | zero => rfl
    | succ k => exact hsame k (Nat.lt_of_succ_lt_succ hk)

/-! ## Reading waits -/

/-- The bits after rounds with these waits. -/
def bitsAfterAll : Nat → List Bool → List Nat → List Bool
  | _, bs, [] => bs
  | i, bs, c :: cs => bitsAfterAll (i + 1) (bitsAfter i bs c) cs

/-- Waits that end before round 84, and then no change: the loop returns
with their bits. -/
theorem readLoop_waits {cs : List Nat} :
    ∀ {i left : Nat} {bs : List Bool} {st : ReadState} {t : Samples}, RoundStart i bs st →
      i + cs.length ≤ 84 → cs.length < left → (∀ c ∈ cs, c < 255) →
      st.samples = waits st.lastState cs t →
      (∀ k < 255, t.get k = levelAfter st.lastState cs) →
      ∃ st', readLoop left i st = .ok st' ∧ Stored (bitsAfterAll i bs cs) st' := by
  induction cs with
  | nil =>
    intro i left bs st t h _ hleft _ hsamples hidle
    obtain ⟨left, rfl⟩ := Nat.exists_eq_add_one_of_ne_zero (Nat.ne_of_gt hleft)
    have hsteady : ∀ k < 255, st.samples.get k = st.lastState := by
      rw [hsamples]
      exact hidle
    obtain ⟨st', hst', hstored⟩ := readRound_steady (i := i) h.toStored hsteady
    exact ⟨st', by rw [readLoop, hst'], hstored⟩
  | cons c cs ih =>
    intro i left bs st t h hi hleft hcs hsamples hidle
    obtain ⟨left, rfl⟩ := Nat.exists_eq_add_one_of_ne_zero (Nat.ne_of_gt (Nat.zero_lt_of_lt hleft))
    obtain ⟨hc, hcs⟩ := List.forall_mem_cons.mp hcs
    obtain ⟨hch, hget, hdrop⟩ := changesAt_wait st.lastState c (waits (!st.lastState) cs t)
    rw [List.length_cons] at hi hleft
    rw [waits] at hsamples
    rw [← hsamples] at hch hget hdrop
    obtain ⟨st', hst', hnext, hlast, hrest⟩ := readRound_ok h (by omega) hc hch
    rw [hget] at hlast
    rw [hdrop] at hrest
    rw [readLoop_step hst']
    refine ih (t := t) hnext (by omega) (by omega) hcs ?_ ?_
    · rw [hlast]
      exact hrest
    · rw [hlast]
      exact hidle

/-- A HIGH and a LOW run for each bit: the waits of the HIGH runs count. -/
theorem bitsAfterAll_pairs {α : Type} (high low : α → Nat) (ks : List α) :
    ∀ {i : Nat} {bs : List Bool}, IsDataRound i →
      bitsAfterAll i bs (ks.flatMap fun k => [high k, low k]) =
        bs ++ ks.map fun k => decide (16 < high k) := by
  induction ks with
  | nil => exact fun _ => (List.append_nil _).symm
  | cons k ks ih =>
    intro i bs h
    have hodd : ¬ IsDataRound (i + 1) := by
      unfold IsDataRound at h ⊢
      omega
    have hnext : IsDataRound (i + 1 + 1) := by
      unfold IsDataRound at h ⊢
      omega
    rw [List.flatMap_cons, List.cons_append, List.cons_append, List.nil_append, bitsAfterAll,
      bitsAfterAll, ih hnext, bitsAfter, if_neg hodd, bitsAfter, if_pos h, List.append_assoc]
    rfl

/-! ## The bytes of a frame -/

/-- The bits of a byte, most significant first. -/
def byteBits (b : UInt8) : List Bool := [7, 6, 5, 4, 3, 2, 1, 0].map b.toNat.testBit

theorem ofBits_byteBits : ∀ b : UInt8, ofBits (byteBits b) = b.toNat := by decide +kernel

theorem byteOf_frameBits (bytes : Fin 5 → UInt8) (k : Fin 5) :
    byteOf ((List.finRange 40).map (frameBit bytes)) k = (bytes k).toNat := by
  rw [← ofBits_byteBits, byteOf]
  fin_cases k <;> rfl

namespace SensorFrame

/-- The bits the reader stores are those of the frame. -/
theorem bitsAfterAll_waits (f : SensorFrame) :
    bitsAfterAll 0 [] (f.first :: f.laterRuns.map (· - 2)) =
      (List.finRange 40).map (frameBit f.bytes) := by
  have hpairs : f.laterRuns.map (· - 2) = (f.response 0 - 2) :: (f.response 1 - 2) ::
      (f.response 2 - 2) ::
        (List.finRange 40).flatMap fun k => [f.high k - 2, f.low k - 2] := by
    simp only [laterRuns, List.map_cons, List.map_flatMap, List.map_nil]
  have hbit : ∀ k, decide (16 < f.high k - 2) = frameBit f.bytes k := by
    intro k
    rw [Bool.eq_iff_iff, decide_eq_true_iff, ← f.carries k]
    omega
  rw [hpairs]
  show bitsAfterAll 4 [] _ = _
  rw [bitsAfterAll_pairs (fun k => f.high k - 2) (fun k => f.low k - 2) _ (by decide),
    List.nil_append]
  exact List.map_congr_left fun k _ => hbit k

/-- The read loop ends in the idle time, with the bytes of the frame. -/
theorem readLoop_samples (f : SensorFrame) :
    ∃ st, readLoop DHT11_MAX_READS 0 (.start f.samples) = .ok st ∧
      Stored ((List.finRange 40).map (frameBit f.bytes)) st := by
  have hlevel : levelAfter HIGH (f.first :: f.laterRuns) = HIGH := rfl
  have hidle := f.idle_long
  have hsamples : f.samples = waits HIGH (f.first :: f.laterRuns.map (· - 2))
      (List.replicate (f.idle - 2) HIGH ++ₛ f.rest) := by
    rw [samples, replicate_run (by omega)]
    have h := levels_eq_waits (l := HIGH) (c := f.first)
      (t := List.replicate (f.idle - 2) HIGH ++ₛ f.rest) fun n hn => (f.isRun_of_mem n hn).1
    rw [hlevel] at h
    exact h
  have hlen : (f.first :: f.laterRuns.map (· - 2)).length = 84 := rfl
  rw [← f.bitsAfterAll_waits]
  refine readLoop_waits (roundStart_start f.samples) (Nat.le_of_eq ?_) ?_ ?_ hsamples ?_
  · rw [hlen]
  · rw [hlen]
    decide
  · intro c hc
    rcases List.mem_cons.mp hc with rfl | hc
    · exact f.first_short
    · obtain ⟨n, hn, rfl⟩ := List.mem_map.mp hc
      have := (f.isRun_of_mem n hn).2
      omega
  · intro k hk
    have hget : (List.replicate (f.idle - 2) HIGH ++ₛ f.rest).get k = HIGH := by
      rw [Stream'.get_append_left _ _ _ (by simp; omega), List.getElem_replicate]
    exact hget

end SensorFrame

/-- **The reader inverts the sensor.** On the line of a frame the callback
succeeds exactly if the checksum is right, and then returns the numbers the
first four bytes spell. -/
theorem dht11_inverts_frame (f : SensorFrame) (arr : Measurements) :
    ∃ code arr', dht11QueryCallback f.samples (some arr) = .ok (code, some arr') ∧
      (code = RPIWD_DEVRETCODE_SUCCESS ↔ (f.bytes 4).toNat =
        ((f.bytes 0).toNat + (f.bytes 1).toNat + (f.bytes 2).toNat + (f.bytes 3).toNat) % 256) ∧
      (code = RPIWD_DEVRETCODE_SUCCESS →
        arr' temperatureAt = numeral (f.bytes 2).toNat (f.bytes 3).toNat ∧
        arr' humidityAt = numeral (f.bytes 0).toNat (f.bytes 1).toNat) := by
  obtain ⟨st, hst, hstored⟩ := f.readLoop_samples
  have hbyte : ∀ k : Fin 5, byteOf ((List.finRange 40).map (frameBit f.bytes)) k =
      (f.bytes k).toNat := byteOf_frameBits f.bytes
  have hne : temperatureAt ≠ humidityAt := by decide
  rw [dht11QueryCallback, hst]
  show ∃ code arr', checkResult st (some arr) = _ ∧ _
  rw [checkResult_stored hstored]
  rw [show byteOf ((List.finRange 40).map (frameBit f.bytes)) 0 = _ from hbyte 0,
    show byteOf ((List.finRange 40).map (frameBit f.bytes)) 1 = _ from hbyte 1,
    show byteOf ((List.finRange 40).map (frameBit f.bytes)) 2 = _ from hbyte 2,
    show byteOf ((List.finRange 40).map (frameBit f.bytes)) 3 = _ from hbyte 3,
    show byteOf ((List.finRange 40).map (frameBit f.bytes)) 4 = _ from hbyte 4,
    List.length_map, List.length_finRange]
  split
  · rename_i h
    refine ⟨_, _, rfl, ⟨fun _ => h.2, fun _ => rfl⟩, fun _ => ⟨?_, Function.update_self ..⟩⟩
    rw [Function.update_of_ne hne, Function.update_self]
  · rename_i h
    have hsum : ¬ (f.bytes 4).toNat = ((f.bytes 0).toNat + (f.bytes 1).toNat +
        (f.bytes 2).toNat + (f.bytes 3).toNat) % 256 := fun hs => h ⟨Nat.le_refl 40, hs⟩
    have hcode : RPIWD_DEVRETCODE_DATA_FAILURE ≠ RPIWD_DEVRETCODE_SUCCESS := by decide
    exact ⟨_, _, rfl, ⟨fun he => absurd he hcode, fun hs => absurd hs hsum⟩,
      fun he => absurd he hcode⟩

end Rpiweatherd
