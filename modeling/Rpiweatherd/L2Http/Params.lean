import Rpiweatherd.L2Http.Bounds

/-!
# What the parser makes of an argument string

`paramSegs args` are the pieces of the argument string that end up in the
parameter array: all of it when it has no `&`, else its non-empty pieces,
the last of which is cut off when there are redundant separators. The only
faults are on NULL: an argument string made of `&` alone hands NULL to
`parse_http_param`, and a piece made of `=` alone gives a parameter without
a name, which the duplicate check passes to `strcmp`.
-/
namespace Rpiweatherd

/-- The parameter of a non-NULL piece. -/
def paramOf (s : Bytes) : HttpCmdParam :=
  ⟨(strtok (ascii "=") s).1, (strtok (ascii "=") (strtok (ascii "=") s).2).1⟩

/-- Some byte of the piece is not `=`, so it has a name. -/
def HasName (s : Bytes) : Prop := ∃ b ∈ s, b ∉ ascii "="

instance (s : Bytes) : Decidable (HasName s) := inferInstanceAs (Decidable (∃ b ∈ s, b ∉ ascii "="))

theorem parseHttpParam_some (s : Bytes) : parseHttpParam (some s) = .ok (paramOf s) := rfl

theorem paramOf_name_isSome {s : Bytes} : (paramOf s).name.isSome = true ↔ HasName s := by
  rw [← not_iff_not, Bool.not_eq_true, Option.isSome_eq_false_iff, Option.isNone_iff_eq_none]
  simp only [paramOf, strtok_none_iff, HasName]
  push Not
  rfl

def paramSegs (args : Bytes) : List Bytes :=
  let segs := strtokAll (ascii "&") args
  if args.count 38 = 0 then (if HasName args then [args] else [])
  else if segs.length - 1 ≠ args.count 38 then segs.take (segs.length - 1) else segs

theorem mapM_ok {α β : Type} (f : α → β) :
    ∀ l : List α, l.mapM (fun a => (.ok (f a) : Except Fault β)) = .ok (l.map f)
  | [] => rfl
  | a :: l => by
    rw [List.mapM_cons, mapM_ok f l]
    rfl

theorem parseSegments_nil {args : Bytes} (h : strtokAll (ascii "&") args = []) :
    parseSegments args = .error .nullDeref := by
  simp [parseSegments, h, parseHttpParam, deref, bind, Except.bind]

theorem parseSegments_ok {args : Bytes} (h : strtokAll (ascii "&") args ≠ []) :
    parseSegments args = .ok ((strtokAll (ascii "&") args).map paramOf) := by
  unfold parseSegments
  split
  · rename_i h0; exact absurd h0 h
  · simp only [parseHttpParam_some]
    exact mapM_ok _ _

theorem parseParams_null {args : Bytes} (ha : args.count 38 ≠ 0)
    (h : strtokAll (ascii "&") args = []) : parseParams args = .error .nullDeref := by
  simp [parseParams, ha, parseSegments_nil h, bind, Except.bind]

/-- Without that fault the array holds the parameters of `paramSegs`; it is
lost to `realloc` when separators leave it empty. -/
theorem parseParams_ok {args : Bytes} (h : args.count 38 ≠ 0 → strtokAll (ascii "&") args ≠ []) :
    parseParams args = .ok (if args.count 38 ≠ 0 ∧ paramSegs args = [] then none
      else some ((paramSegs args).map paramOf)) := by
  unfold parseParams paramSegs
  by_cases h0 : args.count 38 = 0
  · simp only [h0, if_true, parseHttpParam_some, bind, Except.bind, pure, Except.pure, ne_eq,
      not_true_eq_false, false_and, if_false, Except.ok.injEq, Option.some.injEq]
    by_cases hn : HasName args
    · simp [paramOf_name_isSome.mpr hn, hn]
    · have : ¬ (paramOf args).name.isSome = true := fun e => hn (paramOf_name_isSome.mp e)
      simp [this, hn]
  · have hs := h h0
    simp only [h0, if_false, parseSegments_ok hs, bind, Except.bind, pure, Except.pure,
      List.length_map, ne_eq, not_false_eq_true, true_and]
    by_cases hl : (strtokAll (ascii "&") args).length - 1 = args.count 38
    · simp [hl, hs]
    · have hpos : (strtokAll (ascii "&") args).length ≠ 0 := by simpa using hs
      simp only [hl, not_false_eq_true, if_true, List.take_eq_nil_iff, hs, or_false,
        List.map_take]

/-! ## The duplicate check -/

/-- With every name present, the count is the number of equal names. -/
theorem httpCmdParamCount_ok (name : Bytes) :
    ∀ ps : List HttpCmdParam, (∀ p ∈ ps, p.name.isSome = true) →
      httpCmdParamCount ps (some name) = .ok ((ps.map (·.name)).count (some name)) := by
  intro ps hps
  have key : ∀ n, ps.foldlM (fun n (p : HttpCmdParam) => do
        let a ← deref p.name
        let b ← deref (some name)
        return if a = b then n + 1 else n) n
      = (.ok (n + (ps.map (·.name)).count (some name)) : Except Fault Nat) := by
    induction ps with
    | nil => intro n; rfl
    | cons p ps ih =>
      intro n
      obtain ⟨a, ha⟩ := Option.isSome_iff_exists.mp (hps p (List.mem_cons_self ..))
      have ih' := ih (fun q hq => hps q (List.mem_cons_of_mem _ hq))
      simp only [List.foldlM_cons, ha, deref, bind, Except.bind, pure, Except.pure] at ih' ⊢
      rw [ih', List.map_cons, ha, List.count_cons]
      by_cases hab : a = name
      · simp [hab]; omega
      · simp [hab]
  unfold httpCmdParamCount
  rw [key 0, Nat.zero_add]

/-- A parameter without a name is a NULL argument of `strcmp`. -/
theorem httpCmdParamCount_null (name : Option Bytes) :
    ∀ ps : List HttpCmdParam, (∃ p ∈ ps, p.name = none) →
      httpCmdParamCount ps name = .error .nullDeref := by
  intro ps hps
  have key : ∀ n, ps.foldlM (fun n (p : HttpCmdParam) => do
        let a ← deref p.name
        let b ← deref name
        return if a = b then n + 1 else n) n = (.error .nullDeref : Except Fault Nat) := by
    induction ps with
    | nil => obtain ⟨p, hp, -⟩ := hps; cases hp
    | cons p ps ih =>
      intro n
      rw [List.foldlM_cons]
      cases hp : p.name with
      | none => rfl
      | some a =>
        cases name with
        | none => rfl
        | some b =>
          simp only [deref, bind, Except.bind, pure, Except.pure] at ih ⊢
          apply ih
          obtain ⟨q, hq, hqn⟩ := hps
          rcases List.mem_cons.mp hq with rfl | hq
          · rw [hp] at hqn; cases hqn
          · exact ⟨q, hq, hqn⟩
  exact key 0

theorem hasDuplicate_ok (ps : List HttpCmdParam) (hps : ∀ p ∈ ps, p.name.isSome = true) :
    ∀ l : List HttpCmdParam, (∀ p ∈ l, p.name.isSome = true) →
      hasDuplicate ps l = .ok (l.any fun p => 1 < (ps.map (·.name)).count p.name)
  | [], _ => rfl
  | p :: l, hl => by
    obtain ⟨a, ha⟩ := Option.isSome_iff_exists.mp (hl p (List.mem_cons_self ..))
    have ih := hasDuplicate_ok ps hps l fun q hq => hl q (List.mem_cons_of_mem _ hq)
    simp only [hasDuplicate, ha, httpCmdParamCount_ok a ps hps, bind, Except.bind, pure,
      Except.pure, ih, List.any_cons, gt_iff_lt]
    by_cases h1 : 1 < (ps.map (·.name)).count (some a)
    · simp [h1]
    · simp [h1]

theorem hasDuplicate_null (ps : List HttpCmdParam) (hps : ∃ p ∈ ps, p.name = none) :
    hasDuplicate ps ps = .error .nullDeref := by
  have hnull := httpCmdParamCount_null (ps.head?.bind (·.name)) ps hps
  cases ps with
  | nil => obtain ⟨p, hp, -⟩ := hps; cases hp
  | cons p ps =>
    simp only [List.head?_cons, Option.bind_some] at hnull
    simp [hasDuplicate, hnull, bind, Except.bind]

/-- Some counted name occurs twice. -/
def Duplicated (args : Bytes) : Bool :=
  (paramSegs args).any fun s =>
    1 < ((paramSegs args).map fun s => (paramOf s).name).count (paramOf s).name

/-! ## `buildCmd` -/

/-- The argument strings the parser survives. -/
def ArgsSafe (args : Bytes) : Prop :=
  (args.count 38 ≠ 0 → strtokAll (ascii "&") args ≠ []) ∧ ∀ s ∈ paramSegs args, HasName s

instance (args : Bytes) : Decidable (ArgsSafe args) := inferInstanceAs (Decidable (_ ∧ _))

theorem buildCmd_safe {b : Broken} (h : ArgsSafe b.args) (resp : Int) :
    buildCmd b resp = .ok (
      if b.args.count 38 ≠ 0 ∧ paramSegs b.args = [] then (none, HTTP_PARSER_ERROR_NO_MEMORY)
      else if Duplicated b.args then (none, HTTP_PARSER_ERROR_DUPLICATE_PARAMS)
      else (some ⟨b.command, some ((paramSegs b.args).map paramOf)⟩, resp)) := by
  have hps : ∀ p ∈ (paramSegs b.args).map paramOf, p.name.isSome = true := by
    intro p hp
    obtain ⟨s, hs, rfl⟩ := List.mem_map.mp hp
    exact paramOf_name_isSome.mpr (h.2 s hs)
  have hdup : hasDuplicate ((paramSegs b.args).map paramOf) ((paramSegs b.args).map paramOf) =
      .ok (Duplicated b.args) := by
    rw [hasDuplicate_ok _ hps _ hps]
    simp [Duplicated, List.any_map, Function.comp_def]
  unfold buildCmd
  simp only [parseParams_ok h.1, bind, Except.bind, pure, Except.pure]
  by_cases hr : b.args.count 38 ≠ 0 ∧ paramSegs b.args = []
  · simp [hr]
  · simp only [if_neg hr, hdup]
    cases Duplicated b.args <;> rfl

theorem buildCmd_not_safe {b : Broken} (h : ¬ ArgsSafe b.args) (resp : Int) :
    buildCmd b resp = .error .nullDeref := by
  by_cases h1 : b.args.count 38 ≠ 0 → strtokAll (ascii "&") b.args ≠ []
  · have h2 : ∃ s ∈ paramSegs b.args, ¬ HasName s := by
      by_contra hc
      push Not at hc
      exact h ⟨h1, hc⟩
    obtain ⟨s, hs, hn⟩ := h2
    have hnull : ∃ p ∈ (paramSegs b.args).map paramOf, p.name = none := by
      refine ⟨paramOf s, List.mem_map_of_mem hs, ?_⟩
      have : ¬ (paramOf s).name.isSome = true := fun e => hn (paramOf_name_isSome.mp e)
      simpa using this
    have hr : ¬ (b.args.count 38 ≠ 0 ∧ paramSegs b.args = []) := by
      rintro ⟨-, he⟩
      rw [he] at hs; cases hs
    simp [buildCmd, parseParams_ok h1, hr, hasDuplicate_null _ hnull, bind, Except.bind]
  · push Not at h1
    simp [buildCmd, parseParams_null h1.1 h1.2, bind, Except.bind]

/-! ## The whole request line -/

/-- The line names a supported protocol, so its arguments are parsed. -/
def Accepted (line : Bytes) : Prop :=
  ¬ (broken (requestTokens line)).flag < 0 ∧
    ((broken (requestTokens line)).proto = HTTP11 ∨ (broken (requestTokens line)).proto = HTTP10)

instance (line : Bytes) : Decidable (Accepted line) := inferInstanceAs (Decidable (_ ∧ _))

/-- The verdict on a line that fits but is not accepted. -/
def lineError (line : Bytes) : Int :=
  if (broken (requestTokens line)).flag < 0 then (broken (requestTokens line)).flag
  else HTTP_PARSER_ERROR_WRONG_PROTOCOL

theorem parseRequestLine_overflow {line : Bytes} (h : ¬ LineFits line) (resp : Int) :
    parseRequestLine (some line) resp = .error .overflow := by
  simp [parseRequestLine, breakRequest_of_not_fits h, bind, Except.bind]

theorem parseRequestLine_rejected {line : Bytes} (h : LineFits line) (ha : ¬ Accepted line)
    (resp : Int) : parseRequestLine (some line) resp = .ok (none, lineError line) := by
  simp only [parseRequestLine, breakRequest_of_fits h, bind, Except.bind, pure, Except.pure,
    lineError]
  by_cases hf : (broken (requestTokens line)).flag < 0
  · simp [hf]
  · have hp : (broken (requestTokens line)).proto ≠ HTTP11 ∧
        (broken (requestTokens line)).proto ≠ HTTP10 := by
      constructor <;> intro e <;> exact ha ⟨hf, by simp [e]⟩
    simp [hf, hp]

theorem parseRequestLine_accepted {line : Bytes} (h : LineFits line) (ha : Accepted line)
    (resp : Int) :
    parseRequestLine (some line) resp = buildCmd (broken (requestTokens line)) resp := by
  have hp : ¬ ((broken (requestTokens line)).proto ≠ HTTP11 ∧
      (broken (requestTokens line)).proto ≠ HTTP10) := by
    rcases ha.2 with e | e <;> simp [e]
  simp only [parseRequestLine, breakRequest_of_fits h, bind, Except.bind, pure, Except.pure,
    if_neg ha.1, if_neg hp]

/-- Parsing the line runs into no fault. -/
def LineSafe (line : Bytes) : Prop :=
  LineFits line ∧ (Accepted line → ArgsSafe (broken (requestTokens line)).args)

/-- An accepted line gives a command unless separators lose the parameter
array or a name occurs twice. -/
def HasCommand (line : Bytes) : Prop :=
  Accepted line ∧
    ¬ ((broken (requestTokens line)).args.count 38 ≠ 0 ∧
      paramSegs (broken (requestTokens line)).args = []) ∧
    Duplicated (broken (requestTokens line)).args = false

instance (line : Bytes) : Decidable (HasCommand line) := inferInstanceAs (Decidable (_ ∧ _ ∧ _))

def lineCommand (line : Bytes) : HttpCmd :=
  ⟨(broken (requestTokens line)).command,
    some ((paramSegs (broken (requestTokens line)).args).map paramOf)⟩

/-- The error a safe line without a command is refused with. -/
def refusal (line : Bytes) : Int :=
  if ¬ Accepted line then lineError line
  else if (broken (requestTokens line)).args.count 38 ≠ 0 ∧
      paramSegs (broken (requestTokens line)).args = [] then HTTP_PARSER_ERROR_NO_MEMORY
  else HTTP_PARSER_ERROR_DUPLICATE_PARAMS

/-- On a safe line the parser is a function of the line, and `*response` is
written exactly when there is no command. -/
theorem parseRequestLine_safe {line : Bytes} (h : LineSafe line) (resp : Int) :
    parseRequestLine (some line) resp =
      .ok (if HasCommand line then (some (lineCommand line), resp) else (none, refusal line)) := by
  by_cases ha : Accepted line
  · rw [parseRequestLine_accepted h.1 ha, buildCmd_safe (h.2 ha)]
    by_cases hp : (broken (requestTokens line)).args.count 38 ≠ 0 ∧
        paramSegs (broken (requestTokens line)).args = []
    · simp only [HasCommand, refusal, ha, hp, not_true_eq_false, if_true, if_false, and_false,
        false_and, ne_eq, not_false_eq_true, and_self]
    · cases hd : Duplicated (broken (requestTokens line)).args <;>
        simp only [HasCommand, refusal, lineCommand, ha, hp, hd, not_true_eq_false, if_false,
          if_true, not_false_eq_true, Bool.false_eq_true, and_self, and_false,
          Bool.true_eq_false]
  · rw [parseRequestLine_rejected h.1 ha]
    simp only [HasCommand, refusal, ha, false_and, if_false, not_false_eq_true, if_true]

/-- On any other line it stops, whatever `*response` was. -/
theorem parseRequestLine_not_safe {line : Bytes} (h : ¬ LineSafe line) :
    ∃ e, (e = .overflow ∨ e = .nullDeref) ∧
      ∀ resp, parseRequestLine (some line) resp = .error e := by
  by_cases hf : LineFits line
  · have ha : Accepted line ∧ ¬ ArgsSafe (broken (requestTokens line)).args := by
      by_contra hc
      push Not at hc
      exact h ⟨hf, hc⟩
    refine ⟨.nullDeref, .inr rfl, fun resp => ?_⟩
    rw [parseRequestLine_accepted hf ha.1]
    exact buildCmd_not_safe ha.2 resp
  · exact ⟨.overflow, .inl rfl, fun resp => parseRequestLine_overflow hf resp⟩

/-- Whatever the line, the parser stops only on NULL or past an array. -/
theorem parseRequestLine_fault {line : Option Bytes} {resp : Int} {e : Fault}
    (h : parseRequestLine line resp = .error e) : e = .overflow ∨ e = .nullDeref := by
  cases line with
  | none => cases h
  | some line =>
    by_cases hs : LineSafe line
    · rw [parseRequestLine_safe hs] at h; cases h
    · obtain ⟨e', he', hall⟩ := parseRequestLine_not_safe hs
      rw [hall] at h; cases h; exact he'

theorem not_duplicated_iff (args : Bytes) :
    Duplicated args = false ↔ ((paramSegs args).map fun s => (paramOf s).name).Nodup := by
  rw [List.nodup_iff_count_le_one, Duplicated, List.any_eq_false]
  simp only [decide_eq_true_eq, Nat.not_lt]
  constructor
  · intro h name
    by_cases hmem : name ∈ (paramSegs args).map fun s => (paramOf s).name
    · obtain ⟨s, hs, rfl⟩ := List.mem_map.mp hmem
      exact h s hs
    · rw [List.count_eq_zero.mpr hmem]
      exact Nat.zero_le 1
  · intro h s _
    exact h (paramOf s).name

/-- A command comes from a safe line that has one. -/
theorem parseRequestLine_some {line : Option Bytes} {resp r : Int} {cmd : HttpCmd}
    (h : parseRequestLine line resp = .ok (some cmd, r)) :
    ∃ l, line = some l ∧ LineSafe l ∧ HasCommand l ∧ cmd = lineCommand l := by
  cases line with
  | none => cases h
  | some l =>
    by_cases hs : LineSafe l
    · rw [parseRequestLine_safe hs] at h
      split at h
      · rename_i hc
        cases h
        exact ⟨l, rfl, hs, hc, rfl⟩
      · cases h
    · obtain ⟨e, -, hall⟩ := parseRequestLine_not_safe hs
      rw [hall] at h
      cases h

/-- Every parameter of a parsed command has a name. -/
theorem parseRequestLine_named {line : Option Bytes} {resp r : Int} {cmd : HttpCmd}
    (h : parseRequestLine line resp = .ok (some cmd, r)) :
    ∀ p ∈ cmd.params.getD [], p.name.isSome = true := by
  obtain ⟨l, -, hs, hc, rfl⟩ := parseRequestLine_some h
  intro p hp
  obtain ⟨s, hseg, rfl⟩ := List.mem_map.mp hp
  exact paramOf_name_isSome.mpr ((hs.2 hc.1).2 s hseg)

end Rpiweatherd
