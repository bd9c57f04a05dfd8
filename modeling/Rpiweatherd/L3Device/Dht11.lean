import Rpiweatherd.L1Libc.Decimal
import Rpiweatherd.L3Listener.Message

/-!
# The DHT11 read loop (`devices/dht11.c`)

`dht11_query_callback` samples the data pin. Each of at most 96 rounds waits
for the level to change, counting up to 255 samples, and reads the new level
with one more sample; from the fifth round on, the length of every other wait
is a bit. The pin is an infinite stream of samples, about which nothing is
assumed; delays cost no sample.

The loop stops at a wait of 255 samples or after 96 rounds. The bits of the
rounds before round 84 fill the five bytes, so a line that keeps changing has
its next bit stored behind the array: `dht11_in_bounds_iff`.
-/
namespace Rpiweatherd

def DHT11_MAX_READS : Nat := 96
def DHT11_MAX_RESULT_STRING_LEN : Nat := 8

def RPIWD_DEVRETCODE_DATA_FAILURE : Int := -2
def RPIWD_DEVRETCODE_MEMORY_ERROR : Int := -4

def HIGH : Bool := true

/-- What `digitalRead(data_pin)` returns, call by call. -/
abbrev Samples := Stream' Bool

/-- The local variables of the read loop and the samples not read yet. -/
structure ReadState where
  lastState : Bool
  j : Nat
  data : Vector Nat 5
  samples : Samples

def ReadState.start (samples : Samples) : ReadState := ⟨HIGH, 0, Vector.replicate 5 0, samples⟩

/-- `while (digitalRead(data_pin) == last_state)`, with `left` samples to the
`break`: the counter and the samples behind the loop.
mirrors devices/dht11.c:39-44 -/
def waitLoop (last : Bool) : (left counter : Nat) → Samples → Nat × Samples
  | 0, counter, s => (counter, s)
  | left + 1, counter, s =>
    if s.head = last then waitLoop last left (counter + 1) s.tail else (counter, s.tail)

/-- `(i >= 4) && (i % 2 == 0)` -/
def IsDataRound (i : Nat) : Prop := 4 ≤ i ∧ i % 2 = 0

instance decidableIsDataRound (i : Nat) : Decidable (IsDataRound i) :=
  inferInstanceAs (Decidable (_ ∧ _))

/-- mirrors devices/dht11.c:49-54 -/
def storeBit (counter : Nat) (st : ReadState) : Except Fault ReadState :=
  if h : st.j / 8 < 5 then
    let shifted := st.data[st.j / 8] <<< 1
    .ok { st with
      data := st.data.set (st.j / 8) (if 16 < counter then shifted ||| 1 else shifted)
      j := st.j + 1 }
  else .error .outOfBounds

/-- One round; the flag is false on `break`. mirrors devices/dht11.c:38-55 -/
def readRound (i : Nat) (st : ReadState) : Except Fault (ReadState × Bool) :=
  let (counter, s) := waitLoop st.lastState 255 0 st.samples
  let st := { st with lastState := s.head, samples := s.tail }
  if counter = 255 then .ok (st, false)
  else if IsDataRound i then (storeBit counter st).map fun st => (st, true)
  else .ok (st, true)

/-- `left` more rounds, the next one being the `i`-th.
mirrors devices/dht11.c:37-56 -/
def readLoop : (left i : Nat) → ReadState → Except Fault ReadState
  | 0, _, st => .ok st
  | left + 1, i, st =>
    match readRound i st with
    | .error e => .error e
    | .ok (st, false) => .ok st
    | .ok (st, true) => readLoop left (i + 1) st

/-- `sprintf` into the buffer of eight bytes, and what `atof` makes of it. A
text of two numbers and a point is a number (`strtod_numeral`).
mirrors devices/dht11.c:65-66,70-71 -/
def printAndRead (whole frac : Nat) : Except Fault ℚ :=
  (strcpy DHT11_MAX_RESULT_STRING_LEN (printInt whole ++ 46 :: printInt frac)).map fun buffer =>
    match (strtod buffer).1 with
    | .num q => q
    | _ => 0

/-- What the callback returns for the state the loop ends in.
mirrors devices/dht11.c:59-76 -/
def checkResult (st : ReadState) (arr : Option Measurements) :
    Except Fault (Int × Option Measurements) :=
  if 40 ≤ st.j ∧
      st.data[4] = (st.data[0] + st.data[1] + st.data[2] + st.data[3]) &&& 0xFF then
    match arr with
    | none => .ok (RPIWD_DEVRETCODE_MEMORY_ERROR, none)
    | some arr => do
      let temperature ← printAndRead st.data[2] st.data[3]
      let humidity ← printAndRead st.data[0] st.data[1]
      return (RPIWD_DEVRETCODE_SUCCESS,
        some (Function.update (Function.update arr temperatureAt temperature) humidityAt humidity))
  else .ok (RPIWD_DEVRETCODE_DATA_FAILURE, arr)

/-- The return code and the array; a NULL `arr` is `none`.
mirrors devices/dht11.c:19-77 -/
def dht11QueryCallback (samples : Samples) (arr : Option Measurements) :
    Except Fault (Int × Option Measurements) := do
  let st ← readLoop DHT11_MAX_READS 0 (.start samples)
  checkResult st arr

/-! ## Waiting for the level to change -/

/-- The level stays for `c` samples and differs in the next. -/
def ChangesAt (l : Bool) (s : Samples) (c : Nat) : Prop :=
  (∀ k < c, s.get k = l) ∧ s.get c ≠ l

theorem ChangesAt.tail {l : Bool} {s : Samples} {c : Nat} (h : ChangesAt l s (c + 1)) :
    s.head = l ∧ ChangesAt l s.tail c :=
  ⟨h.1 0 (Nat.succ_pos c), fun k hk => h.1 (k + 1) (Nat.succ_lt_succ hk), h.2⟩

theorem steady_or_changes (l : Bool) (s : Samples) (n : Nat) :
    (∀ k < n, s.get k = l) ∨ ∃ c < n, ChangesAt l s c := by
  induction n with
  | zero => exact .inl fun k hk => absurd hk (Nat.not_lt_zero k)
  | succ n ih =>
    rcases ih with h | ⟨c, hc, h⟩
    · by_cases hn : s.get n = l
      · refine .inl fun k hk => ?_
        rcases Nat.lt_succ_iff_lt_or_eq.mp hk with hk | rfl
        · exact h k hk
        · exact hn
      · exact .inr ⟨n, Nat.lt_succ_self n, h, hn⟩
    · exact .inr ⟨c, Nat.lt_succ_of_lt hc, h⟩

theorem waitLoop_steady {l : Bool} {left : Nat} :
    ∀ {n : Nat} {s : Samples}, (∀ k < left, s.get k = l) →
      waitLoop l left n s = (n + left, s.drop left) := by
  induction left with
  | zero => exact fun _ => rfl
  | succ left ih =>
    intro n s h
    have htail : ∀ k < left, s.tail.get k = l := fun k hk => h (k + 1) (Nat.succ_lt_succ hk)
    rw [waitLoop, if_pos (h 0 (Nat.succ_pos left)), ih htail]
    rw [Nat.add_right_comm, Nat.add_assoc]
    rfl

theorem waitLoop_changes {l : Bool} {c : Nat} :
    ∀ {left n : Nat} {s : Samples}, c < left → ChangesAt l s c →
      waitLoop l left n s = (n + c, s.drop (c + 1)) := by
  induction c with
  | zero =>
    intro left n s hlt h
    obtain ⟨left, rfl⟩ := Nat.exists_eq_add_one_of_ne_zero (Nat.ne_of_gt hlt)
    rw [waitLoop, if_neg h.2]
    rfl
  | succ c ih =>
    intro left n s hlt h
    obtain ⟨left, rfl⟩ := Nat.exists_eq_add_one_of_ne_zero (Nat.ne_of_gt (Nat.zero_lt_of_lt hlt))
    rw [waitLoop, if_pos h.tail.1, ih (Nat.lt_of_succ_lt_succ hlt) h.tail.2]
    rw [Nat.add_right_comm, Nat.add_assoc]
    rfl

/-! ## The bits in the array -/

/-- The value of bits, most significant first. -/
def ofBits (bs : List Bool) : Nat := bs.foldl (fun a b => 2 * a + b.toNat) 0

theorem ofBits_push (bs : List Bool) (b : Bool) : ofBits (bs ++ [b]) = 2 * ofBits bs + b.toNat := by
  rw [ofBits, List.foldl_append]
  rfl

theorem ofBits_lt (bs : List Bool) : ofBits bs < 2 ^ bs.length := by
  induction bs using List.reverseRecOn with
  | nil => decide
  | append_singleton bs b ih =>
    have hb := Bool.toNat_le b
    rw [ofBits_push, List.length_append, List.length_singleton, Nat.pow_succ]
    omega

/-- The `k`-th byte of a string of bits. -/
def byteOf (bs : List Bool) (k : Nat) : Nat := ofBits ((bs.drop (8 * k)).take 8)

theorem byteOf_le (bs : List Bool) (k : Nat) : byteOf bs k ≤ 255 := by
  have hlt := ofBits_lt ((bs.drop (8 * k)).take 8)
  have hpow : 2 ^ ((bs.drop (8 * k)).take 8).length ≤ 2 ^ 8 :=
    Nat.pow_le_pow_right (by decide) (List.length_take_le 8 _)
  unfold byteOf
  omega

/-- One more bit goes to the end of the byte it belongs to. -/
theorem byteOf_push (bs : List Bool) (b : Bool) (k : Nat) :
    byteOf (bs ++ [b]) k =
      if k = bs.length / 8 then 2 * byteOf bs k + b.toNat else byteOf bs k := by
  unfold byteOf
  by_cases hbefore : bs.length < 8 * k
  · rw [if_neg (by omega), List.drop_eq_nil_of_le (by simpa using hbefore),
      List.drop_eq_nil_of_le (by omega)]
  · have hdrop : (bs ++ [b]).drop (8 * k) = bs.drop (8 * k) ++ [b] :=
      List.drop_append_of_le_length (by omega)
    rw [hdrop]
    have hlen : (bs.drop (8 * k)).length = bs.length - 8 * k := List.length_drop ..
    by_cases hin : k = bs.length / 8
    · rw [if_pos hin, List.take_of_length_le (by simp; omega),
        List.take_of_length_le (by omega), ofBits_push]
    · rw [if_neg hin, List.take_append_of_le_length (by omega)]

/-- `bs` are the bits stored so far. -/
structure Stored (bs : List Bool) (st : ReadState) : Prop where
  j : st.j = bs.length
  data : ∀ k (h : k < 5), st.data[k] = byteOf bs k

theorem stored_start (samples : Samples) : Stored [] (.start samples) where
  j := rfl
  data k h := by
    simp only [ReadState.start, Vector.getElem_replicate, byteOf, List.drop_nil, List.take_nil]
    rfl

/-- The data values are bytes. -/
theorem Stored.data_le {bs : List Bool} {st : ReadState} (h : Stored bs st) :
    ∀ k (hk : k < 5), st.data[k] ≤ 255 := by
  intro k hk
  rw [h.data k hk]
  exact byteOf_le bs k

/-- `<<= 1` and `|= 1` append a bit. -/
theorem shift_or (d : Nat) (p : Prop) [Decidable p] :
    (if p then d <<< 1 ||| 1 else d <<< 1) = 2 * d + (decide p).toNat := by
  have hshift : d <<< 1 = 2 * d := by rw [Nat.shiftLeft_eq, Nat.mul_comm, Nat.pow_one]
  split
  · rename_i hp
    have hor : 2 ^ 1 * d ||| 1 = 2 ^ 1 * d + 1 := (Nat.two_pow_add_eq_or_of_lt (by decide) d).symm
    rw [hshift, decide_eq_true hp]
    exact hor
  · rename_i hp
    rw [hshift, decide_eq_false hp]
    rfl

theorem storeBit_ok {bs : List Bool} {st : ReadState} (h : Stored bs st) (hroom : bs.length < 40)
    (counter : Nat) :
    ∃ st', storeBit counter st = .ok st' ∧ Stored (bs ++ [decide (16 < counter)]) st' ∧
      st'.lastState = st.lastState ∧ st'.samples = st.samples := by
  have hj : st.j / 8 < 5 := by
    rw [h.j]
    omega
  unfold storeBit
  rw [dif_pos hj]
  refine ⟨_, rfl, ⟨?_, fun k hk => ?_⟩, rfl, rfl⟩
  · simp only [h.j, List.length_append, List.length_singleton]
  · simp only [shift_or, byteOf_push, Vector.getElem_set, h.j, eq_comm (a := k)]
    split
    · rename_i heq
      subst heq
      rw [h.data]
    · exact h.data k hk

theorem storeBit_full {bs : List Bool} {st : ReadState} (h : Stored bs st) (hfull : 40 ≤ bs.length)
    (counter : Nat) : storeBit counter st = .error .outOfBounds := by
  have hj : ¬ st.j / 8 < 5 := by
    rw [h.j]
    omega
  exact dif_neg hj

/-! ## Rounds -/

/-- Round `i` starts: the bits of the data rounds before it are stored. -/
structure RoundStart (i : Nat) (bs : List Bool) (st : ReadState) : Prop extends Stored bs st where
  rounds : bs.length = (i - 3) / 2

theorem roundStart_start (samples : Samples) : RoundStart 0 [] (.start samples) where
  toStored := stored_start samples
  rounds := rfl

/-- The bits after a round whose wait was `c`. -/
def bitsAfter (i : Nat) (bs : List Bool) (c : Nat) : List Bool :=
  if IsDataRound i then bs ++ [decide (16 < c)] else bs

/-- No change for 255 samples ends the loop. -/
theorem readRound_steady {i : Nat} {bs : List Bool} {st : ReadState} (h : Stored bs st)
    (hsteady : ∀ k < 255, st.samples.get k = st.lastState) :
    ∃ st', readRound i st = .ok (st', false) ∧ Stored bs st' := by
  unfold readRound
  rw [waitLoop_steady hsteady]
  exact ⟨_, rfl, h.j, h.data⟩

/-- The state a wait of `c` samples leaves for the rest of the round. -/
def ReadState.waited (st : ReadState) (c : Nat) : ReadState :=
  { st with
    lastState := st.samples.get (c + 1)
    samples := st.samples.drop (c + 2) }

theorem readRound_changes {i c : Nat} {st : ReadState} (hc : c < 255)
    (h : ChangesAt st.lastState st.samples c) :
    readRound i st = if IsDataRound i then (storeBit c (st.waited c)).map fun st => (st, true)
      else .ok (st.waited c, true) := by
  have hhead : (st.samples.drop (c + 1)).head = st.samples.get (c + 1) := Stream'.head_drop ..
  have htail : (st.samples.drop (c + 1)).tail = st.samples.drop (c + 2) := Stream'.tail_drop'
  unfold readRound
  rw [waitLoop_changes hc h, Nat.zero_add]
  simp only [hhead, htail, if_neg (Nat.ne_of_lt hc), ReadState.waited]

/-- Before round 84 a change is taken with room for its bit. -/
theorem readRound_ok {i c : Nat} {bs : List Bool} {st : ReadState} (h : RoundStart i bs st)
    (hi : i < 84) (hc : c < 255) (hch : ChangesAt st.lastState st.samples c) :
    ∃ st', readRound i st = .ok (st', true) ∧ RoundStart (i + 1) (bitsAfter i bs c) st' ∧
      st'.lastState = st.samples.get (c + 1) ∧ st'.samples = st.samples.drop (c + 2) := by
  have hrounds := h.rounds
  have hwaited : Stored bs (st.waited c) := ⟨h.j, h.data⟩
  rw [readRound_changes hc hch]
  unfold bitsAfter
  by_cases hdata : IsDataRound i
  · obtain ⟨h4, h2⟩ := hdata
    obtain ⟨st', hst', hstored, hlast, hsamples⟩ := storeBit_ok hwaited (by omega) c
    rw [if_pos ⟨h4, h2⟩, if_pos ⟨h4, h2⟩, hst']
    refine ⟨st', rfl, ⟨hstored, ?_⟩, hlast, hsamples⟩
    rw [List.length_append, List.length_singleton]
    omega
  · rw [if_neg hdata, if_neg hdata]
    refine ⟨_, rfl, ⟨hwaited, ?_⟩, rfl, rfl⟩
    unfold IsDataRound at hdata
    omega

/-- In round 84 the next change stores behind the array. -/
theorem readRound_overrun {c : Nat} {bs : List Bool} {st : ReadState} (h : RoundStart 84 bs st)
    (hc : c < 255) (hch : ChangesAt st.lastState st.samples c) :
    readRound 84 st = .error .outOfBounds := by
  have hwaited : Stored bs (st.waited c) := ⟨h.j, h.data⟩
  rw [readRound_changes hc hch, if_pos (by decide), storeBit_full hwaited (by rw [h.rounds])]
  rfl

/-! ## The loop -/

/-- The line changes its level `n` times without a pause of 255 samples. Two
samples go by at each change: one ends the wait, one is the new level. -/
def KeepsChanging : Nat → Bool → Samples → Prop
  | 0, _, _ => True
  | n + 1, l, s => ∃ c < 255, ChangesAt l s c ∧ KeepsChanging n (s.get (c + 1)) (s.drop (c + 2))

theorem readLoop_step {left i : Nat} {st st' : ReadState} (h : readRound i st = .ok (st', true)) :
    readLoop (left + 1) i st = readLoop left (i + 1) st' := by
  rw [readLoop, h]

/-- Changes in round 84 and all rounds before it overrun the array. -/
theorem readLoop_overrun {m : Nat} :
    ∀ {i left : Nat} {bs : List Bool} {st : ReadState}, RoundStart i bs st → i + m = 84 →
      m < left → KeepsChanging (m + 1) st.lastState st.samples →
      readLoop left i st = .error .outOfBounds := by
  induction m with
  | zero =>
    intro i left bs st h hi hleft hk
    obtain ⟨c, hc, hch, -⟩ := hk
    obtain ⟨left, rfl⟩ := Nat.exists_eq_add_one_of_ne_zero (Nat.ne_of_gt hleft)
    obtain rfl : i = 84 := hi
    rw [readLoop, readRound_overrun h hc hch]
  | succ m ih =>
    intro i left bs st h hi hleft hk
    obtain ⟨c, hc, hch, hrest⟩ := hk
    obtain ⟨left, rfl⟩ := Nat.exists_eq_add_one_of_ne_zero (Nat.ne_of_gt (Nat.zero_lt_of_lt hleft))
    obtain ⟨st', hst', hnext, hlast, hsamples⟩ := readRound_ok h (by omega) hc hch
    rw [readLoop_step hst']
    refine ih hnext (by omega) (by omega) ?_
    rw [hlast, hsamples]
    exact hrest

/-- A pause before that ends the loop in time. -/
theorem readLoop_paused {m : Nat} :
    ∀ {i : Nat} {bs : List Bool} {st : ReadState}, RoundStart i bs st → i + m = 84 →
      ¬ KeepsChanging (m + 1) st.lastState st.samples → ∀ left,
      ∃ bs' st', readLoop left i st = .ok st' ∧ Stored bs' st' := by
  induction m with
  | zero =>
    intro i bs st h hi hk left
    cases left with
    | zero => exact ⟨bs, st, rfl, h.toStored⟩
    | succ left =>
      rcases steady_or_changes st.lastState st.samples 255 with hsteady | ⟨c, hc, hch⟩
      · obtain ⟨st', hst', hstored⟩ := readRound_steady (i := i) h.toStored hsteady
        exact ⟨bs, st', by rw [readLoop, hst'], hstored⟩
      · exact absurd ⟨c, hc, hch, trivial⟩ hk
  | succ m ih =>
    intro i bs st h hi hk left
    cases left with
    | zero => exact ⟨bs, st, rfl, h.toStored⟩
    | succ left =>
      rcases steady_or_changes st.lastState st.samples 255 with hsteady | ⟨c, hc, hch⟩
      · obtain ⟨st', hst', hstored⟩ := readRound_steady (i := i) h.toStored hsteady
        exact ⟨bs, st', by rw [readLoop, hst'], hstored⟩
      · obtain ⟨st', hst', hnext, hlast, hsamples⟩ := readRound_ok h (by omega) hc hch
        rw [readLoop_step hst']
        refine ih hnext (by omega) (fun hrest => hk ⟨c, hc, hch, ?_⟩) left
        rw [hlast, hsamples] at hrest
        exact hrest

/-! ## The texts -/

/-- Two bytes with a point between them fit the buffer. -/
theorem printAndRead_ok {whole frac : Nat} (hw : whole ≤ 255) (hf : frac ≤ 255) :
    printAndRead whole frac = .ok (numeral whole frac) := by
  have hlen : (printInt whole ++ 46 :: printInt frac).length < DHT11_MAX_RESULT_STRING_LEN := by
    have h1 : (printInt whole).length ≤ 3 := printInt_nat_length (by decide) (by omega)
    have h2 : (printInt frac).length ≤ 3 := printInt_nat_length (by decide) (by omega)
    simp only [List.length_append, List.length_cons, DHT11_MAX_RESULT_STRING_LEN]
    omega
  rw [printAndRead, strcpy_ok hlen, Except.map, strtod_numeral]

/-- With an array to write to there is no memory error. -/
theorem checkResult_code {rs : ReadState} {arr : Measurements} {code : Int}
    {arr' : Option Measurements} (h : checkResult rs (some arr) = .ok (code, arr')) :
    code = RPIWD_DEVRETCODE_SUCCESS ∨ code = RPIWD_DEVRETCODE_DATA_FAILURE := by
  unfold checkResult at h
  split at h
  · obtain ⟨temperature, -, h⟩ := bind_ok h
    obtain ⟨humidity, -, h⟩ := bind_ok h
    cases h
    exact .inl rfl
  · cases h
    exact .inr rfl

/-- What the callback makes of stored bits. -/
theorem checkResult_stored {bs : List Bool} {st : ReadState} (h : Stored bs st)
    (arr : Option Measurements) :
    checkResult st arr =
      if 40 ≤ bs.length ∧
          byteOf bs 4 = (byteOf bs 0 + byteOf bs 1 + byteOf bs 2 + byteOf bs 3) % 256 then
        .ok (match arr with
          | none => (RPIWD_DEVRETCODE_MEMORY_ERROR, none)
          | some arr => (RPIWD_DEVRETCODE_SUCCESS,
              some (Function.update
                (Function.update arr temperatureAt (numeral (byteOf bs 2) (byteOf bs 3)))
                humidityAt (numeral (byteOf bs 0) (byteOf bs 1)))))
      else .ok (RPIWD_DEVRETCODE_DATA_FAILURE, arr) := by
  have hand : ∀ n : Nat, n &&& 0xFF = n % 256 := fun n => Nat.and_two_pow_sub_one_eq_mod n 8
  unfold checkResult
  simp only [h.j, h.data, hand]
  split
  · cases arr with
    | none => rfl
    | some arr =>
      simp only [printAndRead_ok (byteOf_le bs _) (byteOf_le bs _)]
      rfl
  · rfl

/-! ## Staying inside the buffers -/

/-- However far the loop has got, no bit was stored outside the array and the
data values are bytes; and the texts fit their buffer, since the callback
returns. -/
structure InBounds (samples : Samples) : Prop where
  loop : ∀ n ≤ DHT11_MAX_READS, ∃ st, readLoop n 0 (.start samples) = .ok st ∧
    ∀ k (h : k < 5), st.data[k] ≤ 255
  texts : ∀ arr, ∃ r, dht11QueryCallback samples arr = .ok r

/-- **Bounds of the DHT11 reading.** It stays inside its buffers exactly on
lines that pause before their 85th change. -/
theorem dht11_in_bounds_iff (samples : Samples) :
    InBounds samples ↔ ¬ KeepsChanging 85 HIGH samples := by
  have hstart := roundStart_start samples
  constructor
  · intro h hk
    obtain ⟨st, hst, -⟩ := h.loop DHT11_MAX_READS (Nat.le_refl _)
    rw [readLoop_overrun hstart (m := 84) (by decide) (by decide) hk] at hst
    cases hst
  · intro hk
    have hloop := readLoop_paused hstart (m := 84) (by decide) hk
    refine ⟨fun n _ => ?_, fun arr => ?_⟩
    · obtain ⟨bs, st, hst, hstored⟩ := hloop n
      exact ⟨st, hst, hstored.data_le⟩
    · obtain ⟨bs, st, hst, hstored⟩ := hloop DHT11_MAX_READS
      have hcheck : ∃ r, checkResult st arr = .ok r := by
        rw [checkResult_stored hstored]
        split <;> exact ⟨_, rfl⟩
      obtain ⟨r, hr⟩ := hcheck
      refine ⟨r, ?_⟩
      rw [dht11QueryCallback, hst]
      exact hr

/-- A line that shows another level in every sample. -/
def alternating : Samples := fun n => n % 2 = 1

theorem alternating_keepsChanging (n : Nat) : KeepsChanging n HIGH alternating := by
  have hdrop : alternating.drop 2 = alternating := by
    funext k
    show decide ((k + 2) % 2 = 1) = decide (k % 2 = 1)
    rw [Nat.add_mod_right]
  have hchange : ChangesAt HIGH alternating 0 :=
    ⟨fun k hk => absurd hk (Nat.not_lt_zero k), by decide⟩
  induction n with
  | zero => trivial
  | succ n ih =>
    refine ⟨0, by decide, hchange, ?_⟩
    rw [hdrop]
    exact ih

theorem alternating_overruns : ¬ InBounds alternating := by
  intro h
  obtain ⟨st, hst, -⟩ := h.loop DHT11_MAX_READS (Nat.le_refl _)
  rw [readLoop_overrun (roundStart_start alternating) (m := 84) (by decide) (by decide)
    (alternating_keepsChanging 85)] at hst
  cases hst

end Rpiweatherd
