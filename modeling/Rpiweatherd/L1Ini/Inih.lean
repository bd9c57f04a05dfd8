import Mathlib.Data.List.DropRight
import Rpiweatherd.L1Libc.CString

/-!
# The INI parser (`deps/ini.c`)

`ini_parse` reads a file line by line and calls a handler for every
`name=value` pair and for every continuation of one. A byte order mark,
continuation lines and inline comments are allowed and lines are read in
pieces of `INI_MAX_LINE`, which are the defaults; but the daemon is built with
`INI_STOP_ON_FIRST_ERROR`, so that nothing is read behind the first bad line
or the first call that the handler rejects. `iniParseStream_follows` is about
handlers whose answer depends on the call only: they are folded over `calls`,
which ends with the first call that is not accepted.
-/
namespace Rpiweatherd.Ini

def INI_MAX_LINE : Nat := 200
def MAX_SECTION : Nat := 50
def MAX_NAME : Nat := 50

/-- The successive results of `fgets(line, INI_MAX_LINE, file)`; `room` is
the number of bytes that still fit and `line` what has been read, last byte
first. -/
def fgetsLoop (room : Nat) (line : Bytes) : Bytes → List Bytes
  | [] => if line = [] then [] else [line.reverse]
  | b :: s =>
    if b = 10 ∨ room ≤ 1 then (b :: line).reverse :: fgetsLoop (INI_MAX_LINE - 1) [] s
    else fgetsLoop (room - 1) (b :: line) s

def fgetsLines (text : Bytes) : List Bytes := fgetsLoop (INI_MAX_LINE - 1) [] text

/-- mirrors deps/ini.c:28-34 -/
def rstrip (s : Bytes) : Bytes := s.rdropWhile isspace

/-- mirrors deps/ini.c:37-42 -/
def lskip (s : Bytes) : Bytes := s.dropWhile isspace

/-- What stands before the place found, and the rest from there; a `;` behind
a blank is a comment. mirrors deps/ini.c:47-63 -/
def findCharsOrComment (chars : Bytes) (wasSpace : Bool) : Bytes → Bytes × Bytes
  | [] => ([], [])
  | b :: s =>
    if b ∈ chars ∨ wasSpace ∧ b = 59 then ([], b :: s)
    else
      let (found, rest) := findCharsOrComment chars (isspace b) s
      (b :: found, rest)

/-- mirrors deps/ini.c:66-71 -/
def strncpy0 (src : Bytes) (size : Nat) : Bytes := src.take (size - 1)

/-- What a line asks for. -/
inductive Action where
  | skip
  | handle (name value prevName : Bytes)
  | startSection (name : Bytes)
  | bad

def BOM : Bytes := [0xEF, 0xBB, 0xBF]

/-- A `name[=:]value` line. mirrors deps/ini.c:133-156 -/
def pairAction (start : Bytes) : Action :=
  match findCharsOrComment [61, 58] false start with
  | (_, []) => .bad
  | (found, b :: rest) =>
    if b = 61 ∨ b = 58 then
      let name := rstrip found
      let value := rstrip (lskip (findCharsOrComment [] false rest).1)
      .handle name value (strncpy0 name MAX_NAME)
    else .bad

/-- A `[section]` line. mirrors deps/ini.c:120-131 -/
def sectionAction (rest : Bytes) : Action :=
  match findCharsOrComment [93] false rest with
  | (name, 93 :: _) => .startSection (strncpy0 name MAX_SECTION)
  | _ => .bad

/-- The line up to its first NUL; `first` allows a byte order mark.
mirrors deps/ini.c:98-161 -/
def lineAction (first : Bool) (prevName line : Bytes) : Action :=
  let line := line.takeWhile (· ≠ 0)
  let bom := first && line.take 3 = BOM
  let text := rstrip (if bom then line.drop 3 else line)
  let start := lskip text
  let moved := bom || start.length < text.length
  match start with
  | [] => .skip
  | b :: rest =>
    if b = 59 ∨ b = 35 then .skip
    else if prevName ≠ [] ∧ moved then .handle prevName start prevName
    else if b = 91 then sectionAction rest
    else pairAction start

section Parser
variable {σ : Type}

/-- The variables of the loop, and what the handler works on. -/
structure Scan (σ : Type) where
  sectionName : Bytes
  prevName : Bytes
  lineno : Nat
  error : Nat
  user : σ

/-- A handler: what it is called with is the section, the name and the value;
`false` is an error. -/
abbrev Handler (σ : Type) := σ → Bytes → Bytes → Bytes → σ × Bool

/-- The first error is kept. -/
def noteError (ok : Bool) (error lineno : Nat) : Nat :=
  if !ok && error = 0 then lineno else error

/-- mirrors deps/ini.c:95-167 -/
def scanLine (handler : Handler σ) (st : Scan σ) (line : Bytes) : Scan σ :=
  let lineno := st.lineno + 1
  match lineAction (lineno = 1) st.prevName line with
  | .skip => { st with lineno := lineno }
  | .handle name value prevName =>
    let (user, ok) := handler st.user st.sectionName name value
    { st with
      prevName := prevName, lineno := lineno, error := noteError ok st.error lineno, user := user }
  | .startSection name => { st with sectionName := name, prevName := [], lineno := lineno }
  | .bad => { st with lineno := lineno, error := noteError false st.error lineno }

/-- The loop over the lines; an error ends it. mirrors deps/ini.c:100-168 -/
def scanLines (handler : Handler σ) (st : Scan σ) : List Bytes → Scan σ
  | [] => st
  | line :: lines =>
    let st := scanLine handler st line
    if st.error ≠ 0 then st else scanLines handler st lines

/-- A line without an error: the loop goes on behind it. -/
theorem scanLines_good {handler : Handler σ} {st : Scan σ} {line : Bytes} {lines : List Bytes}
    (h : (scanLine handler st line).error = 0) :
    scanLines handler st (line :: lines) = scanLines handler (scanLine handler st line) lines := by
  rw [scanLines, if_neg (not_not_intro h)]

/-- mirrors deps/ini.c:74-175 -/
def iniParseStream (handler : Handler σ) (text : Bytes) (user : σ) : Scan σ :=
  scanLines handler ⟨[], [], 0, 0, user⟩ (fgetsLines text)

/-- `none` is a file that cannot be opened. mirrors deps/ini.c:183-194 -/
def iniParse (handler : Handler σ) (file : Option Bytes) (user : σ) : σ × Int :=
  match file with
  | none => (user, -1)
  | some text =>
    let st := iniParseStream handler text user
    (st.user, st.error)

/-! ## The calls -/

structure Call where
  sectionName : Bytes
  name : Bytes
  value : Bytes
  deriving DecidableEq

/-- A handler that writes down what it is called with. -/
def record (accepts : Call → Bool) : Handler (List Call) := fun cs sectionName name value =>
  (cs ++ [⟨sectionName, name, value⟩], accepts ⟨sectionName, name, value⟩)

/-- The calls of a text, up to the first that is not accepted or the first bad
line. -/
def calls (accepts : Call → Bool) (text : Bytes) : List Call :=
  (iniParseStream (record accepts) text []).user

/-- The handler after a list of calls. -/
def replay (handler : Handler σ) (user : σ) (cs : List Call) : σ :=
  cs.foldl (fun u c => (handler u c.sectionName c.name c.value).1) user

/-- What one line keeps holds at the end, whether or not the loop is left
before. -/
theorem scanLines_induct {handler : Handler σ} {motive : Scan σ → Prop} {lines : List Bytes}
    (hstep : ∀ line ∈ lines, ∀ st, motive st → motive (scanLine handler st line)) :
    ∀ {st : Scan σ}, motive st → motive (scanLines handler st lines) := by
  induction lines with
  | nil => exact fun hst => hst
  | cons line lines ih =>
    intro st hst
    obtain ⟨hline, hlines⟩ := List.forall_mem_cons.mp hstep
    rw [scanLines]
    split
    · exact hline st hst
    · exact ih hlines (hline st hst)

/-- Two scans that stay together line by line end together. -/
theorem scanLines_rel {τ : Type} {handler : Handler σ} {handler' : Handler τ}
    {r : Scan σ → Scan τ → Prop} (herror : ∀ st st', r st st' → st.error = st'.error)
    (hstep : ∀ line st st', r st st' → r (scanLine handler st line) (scanLine handler' st' line))
    (lines : List Bytes) :
    ∀ {st : Scan σ} {st' : Scan τ}, r st st' →
      r (scanLines handler st lines) (scanLines handler' st' lines) := by
  induction lines with
  | nil => exact fun h => h
  | cons line lines ih =>
    intro st st' h
    have hline := hstep line st st' h
    rw [scanLines, scanLines, herror _ _ hline]
    split
    · exact hline
    · exact ih hline

section Answers
variable {handler : Handler σ} {accepts : Call → Bool}

/-- Two scans are at the same place, and one has called what the other has
written down. -/
structure Follows (handler : Handler σ) (user : σ) (st : Scan σ) (rec : Scan (List Call)) :
    Prop where
  sectionName : st.sectionName = rec.sectionName
  prevName : st.prevName = rec.prevName
  lineno : st.lineno = rec.lineno
  error : st.error = rec.error
  user_eq : st.user = replay handler user rec.user

theorem scanLine_follows {user : σ}
    (haccepts : ∀ u c, (handler u c.sectionName c.name c.value).2 = accepts c) (line : Bytes)
    (st : Scan σ) (rec : Scan (List Call)) (h : Follows handler user st rec) :
    Follows handler user (scanLine handler st line) (scanLine (record accepts) rec line) := by
  obtain ⟨hs, hp, hl, he, hu⟩ := h
  simp only [scanLine, hl, hp, he]
  cases lineAction (decide (rec.lineno + 1 = 1)) rec.prevName line with
  | skip => exact ⟨hs, rfl, rfl, rfl, hu⟩
  | startSection name => exact ⟨rfl, rfl, rfl, rfl, hu⟩
  | bad => exact ⟨hs, rfl, rfl, rfl, hu⟩
  | handle name value prevName =>
    have hanswer := haccepts st.user ⟨rec.sectionName, name, value⟩
    refine ⟨hs, rfl, rfl, ?_, ?_⟩
    · simp only [record, hs, hanswer]
    · simp only [record, replay, List.foldl_append, List.foldl_cons, List.foldl_nil, hs]
      rw [hu, replay]

/-- **A handler whose answer depends on the call only** is folded over the
calls of the text, and its first error is where they end. -/
theorem iniParseStream_follows
    (haccepts : ∀ u c, (handler u c.sectionName c.name c.value).2 = accepts c) (text : Bytes)
    (user : σ) :
    Follows handler user (iniParseStream handler text user)
      (iniParseStream (record accepts) text []) :=
  scanLines_rel (fun _ _ h => h.error) (scanLine_follows haccepts) (fgetsLines text)
    ⟨rfl, rfl, rfl, rfl, rfl⟩

/-! ## Errors -/

/-- No line of the text is bad. -/
def NoBadLine (text : Bytes) : Prop := (iniParseStream (record fun _ => true) text []).error = 0

instance decidableNoBadLine (text : Bytes) : Decidable (NoBadLine text) :=
  inferInstanceAs (Decidable (_ = _))

theorem noteError_eq_zero_iff (ok : Bool) (error lineno : Nat) :
    noteError ok error (lineno + 1) = 0 ↔ error = 0 ∧ ok = true := by
  unfold noteError
  by_cases herror : error = 0
  · cases ok <;> simp [herror]
  · simp [herror]

/-- A line on which a call is rejected ends the loop; on any other it makes no
difference that one could be. -/
theorem scanLine_record (accepts : Call → Bool) {st : Scan (List Call)} (line : Bytes)
    (hst : ∀ c ∈ st.user, accepts c = true) :
    (scanLine (record accepts) st line = scanLine (record fun _ => true) st line ∧
        ∀ c ∈ (scanLine (record accepts) st line).user, accepts c = true) ∨
      ((scanLine (record accepts) st line).error ≠ 0 ∧
        ∃ c ∈ (scanLine (record accepts) st line).user, accepts c = false) := by
  simp only [scanLine]
  cases lineAction (decide (st.lineno + 1 = 1)) st.prevName line with
  | skip => exact .inl ⟨rfl, hst⟩
  | startSection name => exact .inl ⟨rfl, hst⟩
  | bad => exact .inl ⟨rfl, hst⟩
  | handle name value prevName =>
    simp only [record]
    cases haccepts : accepts ⟨st.sectionName, name, value⟩ with
    | true =>
      refine .inl ⟨rfl, fun c hc => ?_⟩
      rcases List.mem_append.mp hc with hc | hc
      · exact hst c hc
      · rw [List.mem_singleton.mp hc]
        exact haccepts
    | false =>
      refine .inr ⟨fun herror => ?_, _, List.mem_append_right _ (List.mem_singleton_self _), haccepts⟩
      exact absurd ((noteError_eq_zero_iff _ _ _).mp herror).2 Bool.false_ne_true

theorem scanLines_record (accepts : Call → Bool) (lines : List Bytes) :
    ∀ st : Scan (List Call), (∀ c ∈ st.user, accepts c = true) →
      ((scanLines (record accepts) st lines).error = 0 ↔
        (scanLines (record fun _ => true) st lines).error = 0 ∧
          ∀ c ∈ (scanLines (record accepts) st lines).user, accepts c = true) := by
  induction lines with
  | nil => exact fun st hst => (and_iff_left hst).symm
  | cons line lines ih =>
    intro st hst
    rw [scanLines, scanLines]
    rcases scanLine_record accepts line hst with ⟨hsame, hall⟩ | ⟨herror, c, hc, hrejected⟩
    · rw [← hsame]
      split
      · exact (and_iff_left hall).symm
      · exact ih _ hall
    · rw [if_pos herror]
      refine iff_of_false herror fun h => ?_
      rw [h.2 c hc] at hrejected
      cases hrejected

/-- The loop ends without an error exactly for a text without bad lines whose
calls are all accepted. -/
theorem record_error_eq_zero_iff (accepts : Call → Bool) (text : Bytes) :
    (iniParseStream (record accepts) text []).error = 0 ↔
      NoBadLine text ∧ ∀ c ∈ calls accepts text, accepts c = true :=
  scanLines_record accepts (fgetsLines text) _ (List.forall_mem_nil _)

end Answers

end Parser

example : calls (fun _ => true) (ascii "[General]\n a = 1 ; one\nb:2\n  3\nbad\nc=4\n") =
    [⟨ascii "General", ascii "a", ascii "1"⟩, ⟨ascii "General", ascii "b", ascii "2"⟩,
      ⟨ascii "General", ascii "b", ascii "3"⟩] := by decide +kernel

end Rpiweatherd.Ini
