import Rpiweatherd.L1Libc.CString

/-!
# The blank configuration (`src/util.c:202-235`, `src/confighandler.c:127-136`)

`generate_blank_config` copies the file of defaults. `rpiwd_copyfile` returns
0 if a file cannot be opened, -1 after a short write and 1 otherwise, and its
caller only looks for the 0. An `fread` that fails returns 0 like one at the
end of the file, and ends the copy.

`CopyOutcomes` is what the calls return. `blank_config_iff` says that a 1 is
to be trusted exactly if no call falls short before the source is read.
-/
namespace Rpiweatherd

def RPIWD_COPYFILE_BUFFSIZE : Nat := 2048

/-- The number of bytes the first `i` calls of `fread` have returned. -/
def readBefore (reads : Nat → Nat) : Nat → Nat
  | 0 => 0
  | i + 1 => readBefore reads i + reads i

/-- What `fread` and `fwrite` return in round `i` of a copy of `source`: not
more than the buffer holds, the file has left and the call was given. -/
structure CopyOutcomes (source : Bytes) where
  reads : Nat → Nat
  writes : Nat → Nat
  reads_buffer : ∀ i, reads i ≤ RPIWD_COPYFILE_BUFFSIZE
  reads_left : ∀ i, readBefore reads i + reads i ≤ source.length
  writes_le : ∀ i, writes i ≤ reads i

section Copy
variable {source : Bytes}

/-- How far the source is read before round `i`. -/
def CopyOutcomes.pos (o : CopyOutcomes source) (i : Nat) : Nat := readBefore o.reads i

theorem CopyOutcomes.pos_succ (o : CopyOutcomes source) (i : Nat) :
    o.pos (i + 1) = o.pos i + o.reads i := rfl

theorem CopyOutcomes.pos_succ_le (o : CopyOutcomes source) (i : Nat) :
    o.pos i + o.reads i ≤ source.length := o.reads_left i

/-- The loop from round `i` on: the result and the destination.
mirrors src/util.c:217-234 -/
def copyLoop (o : CopyOutcomes source) (i : Nat) (dest : Bytes) : Int × Bytes :=
  if o.reads i = 0 then (1, dest)
  else
    let buffer := (source.drop (o.pos i)).take (o.reads i)
    let dest := dest ++ buffer.take (o.writes i)
    if o.writes i ≠ o.reads i then (-1, dest) else copyLoop o (i + 1) dest
termination_by source.length - o.pos i
decreasing_by
  have hle := o.pos_succ_le i
  rw [o.pos_succ]
  omega

/-- The two files: whether `fopen` succeeds, and the destination as it was. -/
structure CopyFiles where
  opensSource : Bool
  opensDest : Bool
  oldDest : Option Bytes

/-- The result and the destination. mirrors src/util.c:202-235 -/
def rpiwdCopyfile (files : CopyFiles) (o : CopyOutcomes source) : Int × Option Bytes :=
  if !files.opensSource then (0, files.oldDest)
  else if !files.opensDest then (0, files.oldDest)
  else
    let (status, dest) := copyLoop o 0 []
    (status, some dest)

/-- mirrors src/confighandler.c:127-136 -/
def generateBlankConfig (files : CopyFiles) (o : CopyOutcomes source) : Int × Option Bytes :=
  let (status, dest) := rpiwdCopyfile files o
  if status = 0 then (-1, dest) else (1, dest)

/-! ## The loop -/

theorem CopyOutcomes.pos_mono (o : CopyOutcomes source) {i j : Nat} (h : i ≤ j) :
    o.pos i ≤ o.pos j := by
  induction j, h using Nat.le_induction with
  | base => exact Nat.le_refl _
  | succ j _ ih =>
    rw [o.pos_succ]
    omega

/-- A whole round appends what was read. -/
theorem take_pos_succ (o : CopyOutcomes source) (i : Nat) :
    source.take (o.pos i) ++ (source.drop (o.pos i)).take (o.reads i) =
      source.take (o.pos (i + 1)) := by
  rw [o.pos_succ, List.take_add]

/-- While the source is not at its end, round `i` reads something and writes
all of it. -/
def CopyOutcomes.Full (o : CopyOutcomes source) (i : Nat) : Prop :=
  o.pos i < source.length → 0 < o.reads i ∧ o.writes i = o.reads i

/-- From round `i` on, the loop completes the destination exactly if the
rounds are full. -/
theorem copyLoop_dest_iff (o : CopyOutcomes source) (i : Nat) (dest : Bytes)
    (hdest : dest = source.take (o.pos i)) :
    (copyLoop o i dest).2 = source ↔ ∀ j ≥ i, o.Full j := by
  fun_induction copyLoop o i dest with
  | case1 i dest hread =>
    -- the copy ends here, so the source has to end here too
    rw [hdest, List.take_eq_self_iff]
    constructor
    · intro hend j hj hlt
      have hmono := o.pos_mono hj
      omega
    · intro hfull
      by_contra hlt
      have hpos := (hfull i (Nat.le_refl i) (by omega)).1
      omega
  | case2 i dest hread buffer dest' hwrite =>
    have hle := o.pos_succ_le i
    have hshort := o.writes_le i
    refine iff_of_false (fun heq => ?_) fun hfull => ?_
    · have hlen := congrArg List.length heq
      simp only [dest', buffer, hdest, List.length_append, List.length_take,
        List.length_drop] at hlen
      omega
    · exact hwrite (hfull i (Nat.le_refl i) (by omega)).2
  | case3 i dest hread buffer dest' hwrite ih =>
    have hwhole : o.writes i = o.reads i := not_not.mp hwrite
    have hnext : dest' = source.take (o.pos (i + 1)) := by
      rw [← take_pos_succ, ← hdest]
      simp only [dest', buffer, hwhole, List.take_take, Nat.min_self]
    rw [ih hnext]
    constructor
    · intro hfull j hj
      rcases Nat.eq_or_lt_of_le hj with rfl | hlt
      · exact fun _ => ⟨Nat.pos_of_ne_zero hread, hwhole⟩
      · exact hfull j hlt
    · exact fun hfull j hj => hfull j (Nat.le_of_succ_le hj)

theorem copyLoop_status (o : CopyOutcomes source) (i : Nat) (dest : Bytes) :
    (copyLoop o i dest).1 ≠ 0 := by
  fun_induction copyLoop o i dest with
  | case1 i dest hread => exact one_ne_zero
  | case2 i dest hread buffer dest' hwrite => exact neg_ne_zero.mpr one_ne_zero
  | case3 i dest hread buffer dest' hwrite ih => exact ih

/-! ## The result -/

/-- A 1 means that the destination is the source, and anything else is
a -1. -/
structure AllOrReported (files : CopyFiles) (o : CopyOutcomes source) : Prop where
  success : (generateBlankConfig files o).1 = 1 →
    (generateBlankConfig files o).2 = some source
  failure : (generateBlankConfig files o).1 ≠ 1 → (generateBlankConfig files o).1 = -1

theorem generateBlankConfig_unopened {files : CopyFiles} (o : CopyOutcomes source)
    (h : files.opensSource = false ∨ files.opensDest = false) :
    generateBlankConfig files o = (-1, files.oldDest) := by
  have hcopy : rpiwdCopyfile files o = (0, files.oldDest) := by
    unfold rpiwdCopyfile
    rcases h with h | h
    · simp [h]
    · simp [h]
  simp only [generateBlankConfig, hcopy, if_true]

/-- With both files open the answer is 1, whatever was copied. -/
theorem generateBlankConfig_opened {files : CopyFiles} (o : CopyOutcomes source)
    (hsource : files.opensSource = true) (hdest : files.opensDest = true) :
    generateBlankConfig files o = (1, some (copyLoop o 0 []).2) := by
  have hstatus := copyLoop_status o 0 []
  have hcopy : rpiwdCopyfile files o = ((copyLoop o 0 []).1, some (copyLoop o 0 []).2) := by
    simp [rpiwdCopyfile, hsource, hdest]
  simp only [generateBlankConfig, hcopy, if_neg hstatus]

/-- **All or reported** exactly if a file cannot be opened, or every round
before the end of the source is full. -/
theorem blank_config_iff (files : CopyFiles) (o : CopyOutcomes source) :
    AllOrReported files o ↔
      files.opensSource = false ∨ files.opensDest = false ∨
        ∀ i, o.pos i < source.length → 0 < o.reads i ∧ o.writes i = o.reads i := by
  by_cases hopen : files.opensSource = false ∨ files.opensDest = false
  · have hrun := generateBlankConfig_unopened o hopen
    have hreported : AllOrReported files o := by
      constructor
      · intro h
        rw [hrun] at h
        cases h
      · intro _
        rw [hrun]
    exact iff_of_true hreported (by rw [← or_assoc]; exact .inl hopen)
  · have hopened := not_or.mp hopen
    simp only [Bool.not_eq_false] at hopened
    have hrun := generateBlankConfig_opened o hopened.1 hopened.2
    have hdest := copyLoop_dest_iff o 0 [] rfl
    have hfull : (copyLoop o 0 []).2 = source ↔ ∀ i, o.Full i :=
      hdest.trans ⟨fun h i => h i (Nat.zero_le i), fun h i _ => h i⟩
    rw [← or_assoc, or_iff_right hopen]
    refine Iff.trans ⟨fun h => ?_, fun h => ?_⟩ hfull
    · have hsome := h.success (by rw [hrun])
      rw [hrun] at hsome
      exact Option.some.inj hsome
    · constructor
      · intro _
        rw [hrun, h]
      · intro hne
        rw [hrun] at hne
        exact absurd rfl hne

end Copy

/-- Of two bytes that were read, one is written. -/
def shortWrite : CopyOutcomes (ascii "ab") where
  reads i := if i = 0 then 2 else 0
  writes i := if i = 0 then 1 else 0
  reads_buffer i := by
    split <;> decide
  reads_left i := by
    have hread : ∀ i, readBefore (fun i => if i = 0 then 2 else 0) (i + 1) = 2 := by
      intro i
      induction i with
      | zero => rfl
      | succ i ih => rw [readBefore, ih, if_neg (Nat.succ_ne_zero i)]
    cases i with
    | zero => decide
    | succ i =>
      rw [hread, if_neg (Nat.succ_ne_zero i)]
      decide
  writes_le i := by
    split <;> decide

/-- A disk that is full after one byte: the half of the file counts as a
success. -/
theorem short_write_succeeds :
    generateBlankConfig ⟨true, true, none⟩ shortWrite = (1, some (ascii "a")) ∧
      ¬ AllOrReported ⟨true, true, none⟩ shortWrite := by
  have hrun : generateBlankConfig ⟨true, true, none⟩ shortWrite = (1, some (ascii "a")) := by
    have hread : ¬ shortWrite.reads 0 = 0 := by decide
    have hwrite : shortWrite.writes 0 ≠ shortWrite.reads 0 := by decide
    rw [generateBlankConfig_opened shortWrite rfl rfl, copyLoop, if_neg hread]
    dsimp only
    rw [if_pos hwrite]
    decide +kernel
  refine ⟨hrun, fun h => ?_⟩
  have hdest := h.success (by rw [hrun])
  rw [hrun] at hdest
  exact absurd hdest (by decide +kernel)

end Rpiweatherd
