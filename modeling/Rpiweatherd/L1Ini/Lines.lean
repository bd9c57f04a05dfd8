import Rpiweatherd.L1Ini.Inih

/-!
# Lines that are read as they were written (`deps/ini.c`)

A blank line, a section and a pair, each with its newline, are what a program
writes into an INI file. Of what it puts there the parser gives back some:
blanks around a value are dropped, a `;` behind a blank starts a comment, a
NUL ends the line, and a line of more than `INI_MAX_LINE - 1` bytes is two.

* `render_read`: a text of plain lines whose pairs are all accepted is read to
  its end, and its calls are its pairs, in their order and with their sections.
* `calls_fit`: in a file whose lines are not indented, every value the parser
  hands out is plain again and was on one line with its name.
-/
namespace Rpiweatherd.Ini

/-! ## Comments -/

/-- No `;` behind a blank. -/
def CommentFree (wasSpace : Bool) (s : Bytes) : Prop := (findCharsOrComment [] wasSpace s).2 = []

theorem commentFree_cons {wasSpace : Bool} {b : UInt8} {s : Bytes} :
    CommentFree wasSpace (b :: s) ↔ ¬ (wasSpace = true ∧ b = 59) ∧ CommentFree (isspace b) s := by
  unfold CommentFree
  by_cases h : wasSpace = true ∧ b = 59
  · simp [findCharsOrComment, h]
  · simp [findCharsOrComment, h]

theorem CommentFree.start {wasSpace : Bool} {s : Bytes} (h : CommentFree wasSpace s) :
    CommentFree false s := by
  cases s with
  | nil => exact h
  | cons b s =>
    rw [commentFree_cons] at h ⊢
    exact ⟨by simp, h.2⟩

theorem CommentFree.left {wasSpace : Bool} {s t : Bytes} (h : CommentFree wasSpace (s ++ t)) :
    CommentFree wasSpace s := by
  induction s generalizing wasSpace with
  | nil => rfl
  | cons b s ih =>
    rw [List.cons_append, commentFree_cons] at h
    exact commentFree_cons.mpr ⟨h.1, ih h.2⟩

theorem CommentFree.right {wasSpace : Bool} {s t : Bytes} (h : CommentFree wasSpace (s ++ t)) :
    CommentFree false t := by
  induction s generalizing wasSpace with
  | nil => exact h.start
  | cons b s ih =>
    rw [List.cons_append, commentFree_cons] at h
    exact ih h.2

theorem findCharsOrComment_append (chars : Bytes) (wasSpace : Bool) (s : Bytes) :
    (findCharsOrComment chars wasSpace s).1 ++ (findCharsOrComment chars wasSpace s).2 = s := by
  induction s generalizing wasSpace with
  | nil => rfl
  | cons b s ih =>
    unfold findCharsOrComment
    split
    · rfl
    · rw [List.cons_append, ih]

theorem CommentFree.find {wasSpace : Bool} {s : Bytes} (h : CommentFree wasSpace s) :
    (findCharsOrComment [] wasSpace s).1 = s := by
  have happend := findCharsOrComment_append [] wasSpace s
  rwa [show (findCharsOrComment [] wasSpace s).2 = [] from h, List.append_nil] at happend

theorem commentFree_find (wasSpace : Bool) (s : Bytes) :
    CommentFree wasSpace (findCharsOrComment [] wasSpace s).1 := by
  induction s generalizing wasSpace with
  | nil => rfl
  | cons b s ih =>
    unfold findCharsOrComment
    split
    · rfl
    · rename_i hfound
      refine commentFree_cons.mpr ⟨fun hcomment => hfound (.inr hcomment), ih _⟩

/-! ## Plain pieces -/

/-- A value that is read as it stands. -/
structure PlainValue (value : Bytes) : Prop where
  bytes : ∀ b ∈ value, b ≠ 0 ∧ b ≠ 10
  front : lskip value = value
  back : rstrip value = value
  comment : CommentFree false value

theorem commentFree_of_notMem {wasSpace : Bool} {s : Bytes} (h : 59 ∉ s) :
    CommentFree wasSpace s := by
  induction s generalizing wasSpace with
  | nil => rfl
  | cons b s ih =>
    rw [List.mem_cons, not_or] at h
    exact commentFree_cons.mpr ⟨fun hcomment => h.1 hcomment.2.symm, ih h.2⟩

/-- A word is plain. -/
theorem plainValue_of_word {value : Bytes} (h : ∀ b ∈ value, isspace b = false ∧ b ≠ 0 ∧ b ≠ 59) :
    PlainValue value where
  bytes b hb := ⟨(h b hb).2.1, fun h10 => absurd (h b hb).1 (by rw [h10]; decide)⟩
  front := List.dropWhile_eq_self_iff.mpr fun hlen => by
    have hfirst := (h _ (List.getElem_mem hlen)).1
    rw [hfirst]
    decide
  back := List.rdropWhile_eq_self_iff.mpr fun hne => by
    have hlast := (h _ (List.getLast_mem hne)).1
    rw [hlast]
    decide
  comment := commentFree_of_notMem fun h59 => (h 59 h59).2.2 rfl

/-- A byte of a name: no blank, and nothing that could begin another kind of
line or end the name. -/
def NameByte (b : UInt8) : Prop := isspace b = false ∧ b ∉ [0, 35, 58, 59, 61, 91, 0xEF]

instance decidableNameByte (b : UInt8) : Decidable (NameByte b) := inferInstanceAs (Decidable (_ ∧ _))

def PlainName (name : Bytes) : Prop := name ≠ [] ∧ ∀ b ∈ name, NameByte b

instance decidablePlainName (name : Bytes) : Decidable (PlainName name) :=
  inferInstanceAs (Decidable (_ ∧ _))

def PlainSection (name : Bytes) : Prop := ∀ b ∈ name, b ∉ [0, 10, 59, 93]

instance decidablePlainSection (name : Bytes) : Decidable (PlainSection name) :=
  inferInstanceAs (Decidable (∀ b ∈ name, _))

theorem findCharsOrComment_stop {chars : Bytes} {c : UInt8} (hc : c ∈ chars) {s : Bytes}
    (hs : ∀ b ∈ s, b ∉ chars ∧ b ≠ 59) (wasSpace : Bool) (rest : Bytes) :
    findCharsOrComment chars wasSpace (s ++ c :: rest) = (s, c :: rest) := by
  induction s generalizing wasSpace with
  | nil => simp [findCharsOrComment, hc]
  | cons b s ih =>
    obtain ⟨⟨hb, hsemi⟩, hrest⟩ := List.forall_mem_cons.mp hs
    rw [List.cons_append, findCharsOrComment, if_neg (by simp [hb, hsemi]), ih hrest]

theorem rstrip_eq_self {s : Bytes} {b : UInt8} (hb : isspace b = false) :
    rstrip (s ++ [b]) = s ++ [b] := List.rdropWhile_concat_neg _ _ _ (by simp [hb])

theorem rstrip_append_blank {s blank : Bytes} (h : ∀ b ∈ blank, isspace b = true) :
    rstrip (s ++ blank) = rstrip s := by
  induction blank using List.reverseRecOn with
  | nil => rw [List.append_nil]
  | append_singleton blank b ih =>
    obtain ⟨hblank, hb⟩ := List.forall_mem_append.mp h
    rw [← List.append_assoc]
    exact (List.rdropWhile_concat_pos _ _ _ (hb b (List.mem_singleton.mpr rfl))).trans (ih hblank)

theorem PlainName.rstrip {name : Bytes} (h : PlainName name) : rstrip name = name := by
  rcases List.eq_nil_or_concat' name with rfl | ⟨front, b, rfl⟩
  · exact absurd rfl h.1
  · exact rstrip_eq_self (h.2 b (by simp)).1

theorem pairAction_eq {name value : Bytes} (hname : PlainName name) (hvalue : PlainValue value) :
    pairAction (name ++ 61 :: value) = .handle name value (strncpy0 name MAX_NAME) := by
  have hstop : findCharsOrComment [61, 58] false (name ++ 61 :: value) = (name, 61 :: value) := by
    refine findCharsOrComment_stop (by decide) (fun b hb => ?_) false value
    have := (hname.2 b hb).2
    simp only [List.mem_cons, List.not_mem_nil, or_false, not_or] at this ⊢
    tauto
  simp only [pairAction, hstop, hvalue.comment.find, hvalue.front, hvalue.back, hname.rstrip,
    true_or, if_true]

theorem sectionAction_eq {name : Bytes} (h : PlainSection name) :
    sectionAction (name ++ [93]) = .startSection (strncpy0 name MAX_SECTION) := by
  have hstop : findCharsOrComment [93] false (name ++ [93]) = (name, [93]) := by
    refine findCharsOrComment_stop (by decide) (fun b hb => ?_) false []
    have := h b hb
    simp only [List.mem_cons, List.not_mem_nil, or_false, not_or] at this ⊢
    tauto
  simp only [sectionAction, hstop]

/-! ## Plain lines -/

/-- A line that begins with no blank, comment or byte order mark, with or
without its newline. -/
theorem lineAction_plain {first : Bool} {prevName : Bytes} {b : UInt8} {s blank : Bytes}
    (hb : isspace b = false ∧ b ≠ 59 ∧ b ≠ 35 ∧ b ≠ 0xEF) (hnul : 0 ∉ b :: s)
    (hback : rstrip (b :: s) = b :: s) (hblank : ∀ c ∈ blank, isspace c = true) :
    lineAction first prevName (b :: s ++ blank) =
      if b = 91 then sectionAction s else pairAction (b :: s) := by
  have hzero : ∀ c ∈ b :: s ++ blank, decide (c ≠ 0) = true := by
    intro c hc
    rw [decide_eq_true_eq]
    rintro rfl
    rcases List.mem_append.mp hc with hc | hc
    · exact hnul hc
    · exact absurd (hblank 0 hc) (by decide)
  have hbom : (first && decide ((b :: s ++ blank).take 3 = BOM)) = false := by
    simp [BOM, hb.2.2.2]
  have hskip : lskip (b :: s) = b :: s := by
    simp [lskip, hb.1]
  unfold lineAction
  rw [List.takeWhile_eq_self_iff.mpr hzero]
  simp only [hbom, Bool.false_eq_true, if_false, rstrip_append_blank hblank, hback, hskip,
    lt_irrefl, decide_false, Bool.or_false, and_false, if_neg (not_or.mpr ⟨hb.2.1, hb.2.2.1⟩)]

theorem lineAction_blank {first : Bool} {prevName blank : Bytes}
    (h : ∀ c ∈ blank, isspace c = true) : lineAction first prevName blank = .skip := by
  have hsub : ∀ c ∈ blank.takeWhile (· ≠ 0), isspace c = true :=
    fun c hc => h c ((List.takeWhile_sublist _).subset hc)
  have hbom : (first && decide ((blank.takeWhile (· ≠ 0)).take 3 = BOM)) = false := by
    rw [Bool.and_eq_false_imp]
    intro _
    rw [decide_eq_false_iff_not]
    intro hbom
    have hmem : 0xEF ∈ blank.takeWhile (· ≠ 0) := by
      apply List.mem_of_mem_take (i := 3)
      rw [hbom]
      exact List.mem_cons_self ..
    exact absurd (hsub _ hmem) (by decide)
  have hstrip : rstrip (blank.takeWhile (· ≠ 0)) = [] := List.rdropWhile_eq_nil_iff.mpr hsub
  unfold lineAction
  simp only [hbom, Bool.false_eq_true, if_false, hstrip]
  rfl

inductive Line where
  | blank
  | header (name : Bytes)
  | pair (name value : Bytes)

def Line.text : Line → Bytes
  | .blank => []
  | .header name => 91 :: (name ++ [93])
  | .pair name value => name ++ 61 :: value

def Line.Plain (l : Line) : Prop :=
  l.text.length < INI_MAX_LINE ∧
  match l with
  | .blank => True
  | .header name => PlainSection name
  | .pair name value => PlainName name ∧ PlainValue value

/-- The section and the calls behind a line. -/
def Line.read (st : Bytes × List Call) : Line → Bytes × List Call
  | .blank => st
  | .header name => (strncpy0 name MAX_SECTION, st.2)
  | .pair name value => (st.1, st.2 ++ [⟨st.1, name, value⟩])

theorem Line.read_calls (st : Bytes × List Call) (l : Line) : st.2 <+: (Line.read st l).2 := by
  cases l with
  | blank => exact List.prefix_refl _
  | header name => exact List.prefix_refl _
  | pair name value => exact List.prefix_append _ _

theorem Line.read_lines_calls (ls : List Line) :
    ∀ st : Bytes × List Call, st.2 <+: (ls.foldl Line.read st).2 := by
  induction ls with
  | nil => exact fun st => List.prefix_refl _
  | cons l ls ih => exact fun st => (Line.read_calls st l).trans (ih _)

/-- The lines of a file. -/
def render (ls : List Line) : Bytes := ls.flatMap fun l => l.text ++ [10]

/-- The action of a plain line. -/
def Line.action : Line → Action
  | .blank => .skip
  | .header name => .startSection (strncpy0 name MAX_SECTION)
  | .pair name value => .handle name value (strncpy0 name MAX_NAME)

theorem PlainValue.back_pair {value : Bytes} (hvalue : PlainValue value) (name : Bytes) :
    rstrip (name ++ 61 :: value) = name ++ 61 :: value := by
  rcases List.eq_nil_or_concat' value with rfl | ⟨front, b, rfl⟩
  · exact rstrip_eq_self (by decide)
  · have hb : isspace b = false := by
      have hback := List.rdropWhile_eq_self_iff.mp hvalue.back (by simp)
      simpa using hback
    have hassoc : name ++ 61 :: (front ++ [b]) = (name ++ 61 :: front) ++ [b] := by simp
    rw [hassoc]
    exact rstrip_eq_self hb

theorem Line.Plain.action {l : Line} (h : l.Plain) (first : Bool) (prevName : Bytes) {blank : Bytes}
    (hblank : ∀ c ∈ blank, isspace c = true) :
    lineAction first prevName (l.text ++ blank) = l.action := by
  cases l with
  | blank => exact lineAction_blank hblank
  | header name =>
    have hsection : PlainSection name := h.2
    have hnul : 0 ∉ 91 :: (name ++ [93]) := by
      intro h0
      simp only [List.mem_cons, List.mem_append, List.not_mem_nil, or_false] at h0
      rcases h0 with h0 | h0 | h0
      · exact absurd h0 (by decide)
      · exact absurd (hsection 0 h0) (by decide)
      · exact absurd h0 (by decide)
    have hback : rstrip (91 :: (name ++ [93])) = 91 :: (name ++ [93]) :=
      rstrip_eq_self (s := 91 :: name) (by decide)
    refine (lineAction_plain (by decide) hnul hback hblank).trans ?_
    rw [if_pos rfl, sectionAction_eq hsection, Line.action]
  | pair name value =>
    obtain ⟨hname, hvalue⟩ : PlainName name ∧ PlainValue value := h.2
    cases name with
    | nil => exact absurd rfl hname.1
    | cons b s =>
      have hb := hname.2 b (List.mem_cons_self ..)
      have hbytes := hb.2
      simp only [List.mem_cons, List.not_mem_nil, or_false, not_or] at hbytes
      have hnul : 0 ∉ b :: (s ++ 61 :: value) := by
        intro h0
        have h0 : 0 ∈ (b :: s) ++ 61 :: value := h0
        rcases List.mem_append.mp h0 with h0 | h0
        · exact absurd (hname.2 0 h0).2 (by decide)
        · rcases List.mem_cons.mp h0 with h0 | h0
          · exact absurd h0 (by decide)
          · exact (hvalue.bytes 0 h0).1 rfl
      refine (lineAction_plain ⟨hb.1, by tauto, by tauto, by tauto⟩ hnul
        (hvalue.back_pair (b :: s)) hblank).trans ?_
      rw [if_neg (by tauto)]
      exact pairAction_eq hname hvalue

/-! ## The lines of the reader -/

theorem fgetsLoop_line {content : Bytes} (h : 10 ∉ content) (rest : Bytes) {room : Nat}
    (hroom : content.length < room) (line : Bytes) :
    fgetsLoop room line (content ++ 10 :: rest) =
      (line.reverse ++ content ++ [10]) :: fgetsLines rest := by
  induction content generalizing room line with
  | nil => simp [fgetsLoop, fgetsLines]
  | cons b s ih =>
    rw [List.mem_cons, not_or] at h
    obtain ⟨hb, hs⟩ := h
    rw [List.length_cons] at hroom
    rw [List.cons_append, fgetsLoop, if_neg (by simp [Ne.symm hb]; omega),
      ih hs (by omega) (b :: line)]
    simp

/-- A line that fills the buffer is cut before its newline. -/
theorem fgetsLoop_full {content : Bytes} (h : 10 ∉ content) (rest : Bytes) {room : Nat}
    (hroom : content.length = room) (hne : content ≠ []) (line : Bytes) :
    fgetsLoop room line (content ++ rest) = (line.reverse ++ content) :: fgetsLines rest := by
  induction content generalizing room line with
  | nil => exact absurd rfl hne
  | cons b s ih =>
    rw [List.mem_cons, not_or] at h
    obtain ⟨hb, hs⟩ := h
    rw [List.length_cons] at hroom
    cases s with
    | nil =>
      rw [List.cons_append, fgetsLoop, if_pos (.inr (by simpa using hroom.symm.le))]
      simp [fgetsLines]
    | cons b' s =>
      rw [List.length_cons] at hroom
      rw [List.cons_append, fgetsLoop, if_neg (by simp [Ne.symm hb]; omega),
        ih hs (by rw [List.length_cons]; omega) (List.cons_ne_nil _ _) (b :: line)]
      simp

section Scan
variable {σ : Type} (handler : Handler σ)

def scanText (st : Scan σ) (text : Bytes) : Scan σ := scanLines handler st (fgetsLines text)

/-- One line of the text is one line for the parser, apart from its number. -/
theorem scanText_line {l : Line} (hplain : l.Plain) (h10 : 10 ∉ l.text) {st : Scan σ}
    (hgood : ∀ blank : Bytes, (∀ c ∈ blank, isspace c = true) →
      (scanLine handler st (l.text ++ blank)).error = 0) (rest : Bytes) :
    ∃ blank lineno, (∀ c ∈ blank, isspace c = true) ∧
      scanText handler st (l.text ++ 10 :: rest) =
        scanText handler { scanLine handler st (l.text ++ blank) with lineno := lineno } rest := by
  have hten : ∀ c ∈ ([10] : Bytes), isspace c = true := by decide
  rcases Nat.lt_or_ge l.text.length (INI_MAX_LINE - 1) with hlt | hge
  · refine ⟨[10], (scanLine handler st (l.text ++ [10])).lineno, hten, ?_⟩
    rw [scanText, fgetsLines, fgetsLoop_line h10 rest hlt, List.reverse_nil, List.nil_append,
      scanLines_good (hgood [10] hten)]
    rfl
  · have hlen : l.text.length = INI_MAX_LINE - 1 := by
      have := hplain.1
      omega
    have hne : l.text ≠ [] := by
      rintro hnil
      rw [hnil] at hlen
      exact absurd hlen (by decide)
    have hskip : ∀ st : Scan σ, scanLine handler st [10] = { st with lineno := st.lineno + 1 } := by
      intro st
      rw [scanLine, lineAction_blank hten]
    have hfull := hgood [] (List.forall_mem_nil _)
    rw [List.append_nil] at hfull
    refine ⟨[], (scanLine handler st l.text).lineno + 1, List.forall_mem_nil _, ?_⟩
    rw [scanText, fgetsLines, fgetsLoop_full h10 _ hlen hne, List.reverse_nil, List.nil_append,
      scanLines_good hfull]
    have hrest : fgetsLines (10 :: rest) = [10] :: fgetsLines rest :=
      fgetsLoop_line List.not_mem_nil rest (by decide) []
    rw [hrest, scanLines_good (by rw [hskip]; exact hfull), hskip, List.append_nil]
    rfl

end Scan

theorem Line.Plain.no_newline {l : Line} (h : l.Plain) : 10 ∉ l.text := by
  cases l with
  | blank => exact List.not_mem_nil
  | header name =>
    have hsection : PlainSection name := h.2
    intro h10
    simp only [Line.text, List.mem_cons, List.mem_append, List.not_mem_nil, or_false] at h10
    rcases h10 with h10 | h10 | h10
    · exact absurd h10 (by decide)
    · exact absurd (hsection 10 h10) (by decide)
    · exact absurd h10 (by decide)
  | pair name value =>
    obtain ⟨hname, hvalue⟩ : PlainName name ∧ PlainValue value := h.2
    intro h10
    rcases List.mem_append.mp h10 with h10 | h10
    · exact absurd (hname.2 10 h10).1 (by decide)
    · rcases List.mem_cons.mp h10 with h10 | h10
      · exact absurd h10 (by decide)
      · exact (hvalue.bytes 10 h10).2 rfl

/-- The scan has read these calls, and no bad line. -/
structure Scan.Has (st : Scan (List Call)) (read : Bytes × List Call) : Prop where
  sectionName : st.sectionName = read.1
  user : st.user = read.2
  error : st.error = 0

theorem Line.Plain.scan {accepts : Call → Bool} {l : Line} (h : l.Plain) {st : Scan (List Call)}
    {read : Bytes × List Call} (hst : st.Has read)
    (haccepts : ∀ c ∈ (Line.read read l).2, accepts c = true) {blank : Bytes}
    (hblank : ∀ c ∈ blank, isspace c = true) (lineno : Nat) :
    Scan.Has { scanLine (record accepts) st (l.text ++ blank) with lineno := lineno }
      (Line.read read l) := by
  obtain ⟨hsection, huser, herror⟩ := hst
  rw [scanLine, h.action _ _ hblank]
  cases l with
  | blank => exact ⟨hsection, huser, herror⟩
  | header name => exact ⟨rfl, huser, herror⟩
  | pair name value =>
    have hpair := haccepts ⟨read.1, name, value⟩
      (List.mem_append_right _ (List.mem_singleton_self _))
    refine ⟨hsection, ?_, ?_⟩
    · simp only [Line.action, record, Line.read, huser, hsection]
    · simp only [Line.action, record, noteError, herror, hsection, hpair]
      rfl

/-- **Plain lines are read as they were written.** -/
theorem render_read {accepts : Call → Bool} {ls : List Line} (h : ∀ l ∈ ls, l.Plain)
    (haccepts : ∀ c ∈ (ls.foldl Line.read ([], [])).2, accepts c = true) :
    NoBadLine (render ls) ∧ calls accepts (render ls) = (ls.foldl Line.read ([], [])).2 := by
  have hscan : ∀ (ls : List Line) (st : Scan (List Call)) (read : Bytes × List Call),
      (∀ l ∈ ls, l.Plain) → (∀ c ∈ (ls.foldl Line.read read).2, accepts c = true) → st.Has read →
      Scan.Has (scanText (record accepts) st (render ls)) (ls.foldl Line.read read) := by
    intro ls
    induction ls with
    | nil => exact fun st read _ _ hst => hst
    | cons l ls ih =>
      intro st read hls haccepts hst
      obtain ⟨hl, hrest⟩ := List.forall_mem_cons.mp hls
      have htext : render (l :: ls) = l.text ++ 10 :: render ls := by
        simp [render]
      have hread : ∀ c ∈ (Line.read read l).2, accepts c = true :=
        fun c hc => haccepts c ((Line.read_lines_calls ls _).subset hc)
      obtain ⟨blank, lineno, hblank, heq⟩ := scanText_line (record accepts) hl hl.no_newline
        (fun blank hblank => (hl.scan hst hread hblank 0).error) (render ls)
      rw [htext, heq, List.foldl_cons]
      exact ih _ _ hrest haccepts (hl.scan hst hread hblank lineno)
  have hall := hscan ls ⟨[], [], 0, 0, []⟩ ([], []) h haccepts ⟨rfl, rfl, rfl⟩
  exact ⟨((record_error_eq_zero_iff accepts _).mp hall.error).1, hall.user⟩

/-! ## Values the parser hands out -/

/-- A line of the reader: no longer than its buffer, with a newline at most at
its end. -/
structure ReaderLine (line : Bytes) : Prop where
  length : line.length < INI_MAX_LINE
  newline : 10 ∉ line.dropLast

theorem fgetsLoop_readerLine {text : Bytes} :
    ∀ {room : Nat} {line : Bytes}, 1 ≤ room → line.length + room < INI_MAX_LINE → 10 ∉ line →
      ∀ l ∈ fgetsLoop room line text, ReaderLine l := by
  induction text with
  | nil =>
    intro room line hroom hlen h10 l hl
    unfold fgetsLoop at hl
    split at hl
    · cases hl
    · rw [List.mem_singleton.mp hl]
      refine ⟨by rw [List.length_reverse]; omega, fun hmem => h10 ?_⟩
      exact List.mem_reverse.mp (List.mem_of_mem_dropLast hmem)
  | cons b s ih =>
    intro room line hroom hlen h10 l hl
    unfold fgetsLoop at hl
    split at hl
    · rcases List.mem_cons.mp hl with rfl | hl
      · refine ⟨?_, ?_⟩
        · rw [List.length_reverse, List.length_cons]
          omega
        · rw [List.reverse_cons, List.dropLast_concat, List.mem_reverse]
          exact h10
      · exact ih (by decide) (by decide) List.not_mem_nil l hl
    · rename_i hgo
      rw [not_or] at hgo
      refine ih (by omega) (by rw [List.length_cons]; omega) ?_ l hl
      rw [List.mem_cons, not_or]
      exact ⟨Ne.symm hgo.1, h10⟩

theorem readerLine_of_mem {text line : Bytes} (h : line ∈ fgetsLines text) : ReaderLine line :=
  fgetsLoop_readerLine (by decide) (by decide) List.not_mem_nil line h

/-- No line with text on it begins with a blank or a byte order mark. -/
def Unindented (text : Bytes) : Prop :=
  ∀ line ∈ fgetsLines text, line.take 3 ≠ BOM ∧
    (rstrip line ≠ [] → ∀ b ∈ line.head?, isspace b = false)

instance decidableUnindented (text : Bytes) : Decidable (Unindented text) :=
  inferInstanceAs (Decidable (∀ line ∈ fgetsLines text, _))

/-- The value is plain, and the line with its name has room for both. -/
structure FitCall (c : Call) : Prop where
  value : PlainValue c.value
  length : c.name.length + 1 + c.value.length < INI_MAX_LINE

theorem rstrip_prefix_self (s : Bytes) : rstrip s <+: s := List.rdropWhile_prefix isspace s

theorem rstrip_getLast {s : Bytes} (h : rstrip s ≠ []) : isspace ((rstrip s).getLast h) = false :=
  eq_false_of_ne_true (List.rdropWhile_last_not isspace s h)

theorem lskip_rstrip {s : Bytes} (h : lskip s = s) : lskip (rstrip s) = rstrip s := by
  cases hs : rstrip s with
  | nil => rfl
  | cons b t =>
    obtain ⟨more, hmore⟩ := rstrip_prefix_self s
    rw [hs] at hmore
    rw [← hmore] at h
    have hb : isspace b = false := by
      by_contra hb
      rw [Bool.not_eq_false] at hb
      have hlen := congrArg List.length h
      have hdrop := (List.dropWhile_sublist isspace (l := t ++ more)).length_le
      simp only [lskip, List.cons_append, List.dropWhile_cons, hb, if_true, List.length_cons] at hlen
      omega
    simp [lskip, hb]

theorem sectionAction_ne_handle (rest name value prevName : Bytes) :
    sectionAction rest ≠ .handle name value prevName := by
  unfold sectionAction
  split <;> exact fun h => nomatch h

theorem pairAction_fit {start name value prevName : Bytes} (hbytes : ∀ b ∈ start, b ≠ 0 ∧ b ≠ 10)
    (hlen : start.length < INI_MAX_LINE) (h : pairAction start = .handle name value prevName) :
    PlainValue value ∧ name.length + 1 + value.length < INI_MAX_LINE := by
  unfold pairAction at h
  have happend := findCharsOrComment_append [61, 58] false start
  split at h
  · cases h
  · rename_i found b rest hfind
    rw [hfind] at happend
    split at h
    · cases h
      have hsplit := findCharsOrComment_append [] false rest
      obtain ⟨blanks, hblanks⟩ : lskip (findCharsOrComment [] false rest).1 <:+ _ :=
        List.dropWhile_suffix isspace
      obtain ⟨tail, htail⟩ := rstrip_prefix_self (lskip (findCharsOrComment [] false rest).1)
      have hfree := commentFree_find false rest
      rw [← hblanks, ← htail] at hfree
      have hlengths := congrArg List.length happend
      have hrest := congrArg List.length hsplit
      have hvalue := congrArg List.length hblanks
      have htails := congrArg List.length htail
      have hname := (rstrip_prefix_self found).length_le
      simp only [List.length_append, List.length_cons] at hlengths hrest hvalue htails
      refine ⟨⟨?_, lskip_rstrip (List.dropWhile_idempotent isspace _), List.rdropWhile_idempotent _ _,
        hfree.right.left⟩, ?_⟩
      · intro c hc
        apply hbytes
        rw [← happend, ← hsplit, ← hblanks, ← htail]
        simp [hc]
      · omega
    · cases h

/-- What is left of a reader's line has no terminator and no newline. -/
theorem ReaderLine.stripped {line : Bytes} (h : ReaderLine line) :
    ∀ b ∈ rstrip (line.takeWhile (· ≠ 0)), b ≠ 0 ∧ b ≠ 10 := by
  intro b hb
  have hcut : b ∈ line.takeWhile (· ≠ 0) := (rstrip_prefix_self _).subset hb
  refine ⟨by simpa using List.mem_takeWhile_imp hcut, ?_⟩
  rintro rfl
  obtain ⟨more, hmore⟩ := (rstrip_prefix_self (line.takeWhile (· ≠ 0))).trans
    (List.takeWhile_prefix _)
  -- a newline could only be the last byte, and that is stripped
  rcases List.eq_nil_or_concat' more with rfl | ⟨front, c, rfl⟩
  · rw [List.append_nil] at hmore
    have hne : rstrip (line.takeWhile (· ≠ 0)) ≠ [] := List.ne_nil_of_mem hb
    have hlast := rstrip_getLast hne
    have hinner := List.mem_dropLast_of_mem_of_ne_getLast hb
      (fun heq => by rw [← heq] at hlast; exact absurd hlast (by decide))
    rw [hmore] at hinner
    exact h.newline hinner
  · refine h.newline ?_
    rw [← hmore, ← List.append_assoc, List.dropLast_concat]
    exact List.mem_append_left _ hb

/-- On a line that is not indented a call comes from its own pair. -/
theorem lineAction_fit {first : Bool} {prevName line name value p : Bytes} (hline : ReaderLine line)
    (hbom : line.take 3 ≠ BOM) (hhead : rstrip line ≠ [] → ∀ b ∈ line.head?, isspace b = false)
    (h : lineAction first prevName line = .handle name value p) :
    PlainValue value ∧ name.length + 1 + value.length < INI_MAX_LINE := by
  have hcut : line.takeWhile (· ≠ 0) <+: line := List.takeWhile_prefix _
  have hmark : (first && decide ((line.takeWhile (· ≠ 0)).take 3 = BOM)) = false := by
    rw [Bool.and_eq_false_imp]
    intro _
    rw [decide_eq_false_iff_not]
    intro hmark
    have hthree : 3 ≤ (line.takeWhile (· ≠ 0)).length := by
      have hlen := congrArg List.length hmark
      rw [List.length_take] at hlen
      have hbom : BOM.length = 3 := rfl
      omega
    obtain ⟨more, hmore⟩ := hcut
    rw [← hmore, List.take_append_of_le_length hthree] at hbom
    exact hbom hmark
  unfold lineAction at h
  simp only [hmark, Bool.false_eq_true, if_false, Bool.false_or] at h
  have hbytes := hline.stripped
  have hfront := (rstrip_prefix_self (line.takeWhile (· ≠ 0))).trans hcut
  have hlen : (rstrip (line.takeWhile (· ≠ 0))).length < INI_MAX_LINE :=
    Nat.lt_of_le_of_lt hfront.length_le hline.length
  cases htext : rstrip (line.takeWhile (· ≠ 0)) with
  | nil =>
    rw [htext] at h
    cases h
  | cons b s =>
    rw [htext] at h hbytes hlen hfront
    obtain ⟨more, hmore⟩ := hfront
    have hfull : rstrip line ≠ [] := by
      intro hnil
      have hall := List.rdropWhile_eq_nil_iff.mp hnil
      have hne : rstrip (line.takeWhile (· ≠ 0)) ≠ [] := by
        rw [htext]
        exact List.cons_ne_nil b s
      have hmem := hcut.subset ((rstrip_prefix_self _).subset (List.getLast_mem hne))
      exact absurd (hall _ hmem) (Bool.eq_false_iff.mp (rstrip_getLast hne))
    have hb : isspace b = false := hhead hfull b (by rw [← hmore]; rfl)
    have hskip : lskip (b :: s) = b :: s := List.dropWhile_cons_of_neg (by rw [hb]; decide)
    rw [hskip] at h
    simp only [Nat.lt_irrefl, decide_false, Bool.false_eq_true, and_false, if_false] at h
    split at h
    · cases h
    · split at h
      · exact absurd h (sectionAction_ne_handle _ _ _ _)
      · exact pairAction_fit hbytes hlen h

/-- **The calls of a text that is not indented can be written down again.** -/
theorem calls_fit {accepts : Call → Bool} {text : Bytes} (h : Unindented text) :
    ∀ c ∈ calls accepts text, FitCall c := by
  unfold calls iniParseStream
  refine scanLines_induct (motive := fun st : Scan (List Call) => ∀ c ∈ st.user, FitCall c) ?_
    (List.forall_mem_nil _)
  intro line hline st hst
  obtain ⟨hbom, hhead⟩ := h line hline
  simp only [scanLine]
  cases haction : lineAction (decide (st.lineno + 1 = 1)) st.prevName line with
  | skip => exact hst
  | startSection name => exact hst
  | bad => exact hst
  | handle name value prevName =>
    obtain ⟨hvalue, hlen⟩ := lineAction_fit (readerLine_of_mem hline) hbom hhead haction
    intro c hc
    rcases List.mem_append.mp hc with hc | hc
    · exact hst c hc
    · rw [List.mem_singleton.mp hc]
      exact ⟨hvalue, hlen⟩

end Rpiweatherd.Ini
