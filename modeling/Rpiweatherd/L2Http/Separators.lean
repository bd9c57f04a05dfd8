import Rpiweatherd.L2Http.Params

/-!
# Redundant separators in an argument string

The parser counts the `&` of an argument string and the pieces `strtok_r`
finds between them, and takes a difference between the two counts for a
terminating entry: it drops the last piece. So a redundant `&` costs a
parameter, or the whole command when there was only one
(`separators_iff`).
-/
namespace Rpiweatherd

/-- The name of a `name=value` piece. -/
def segmentName (s : Bytes) : Bytes := (s.dropWhile (· = 61)).takeWhile (· ≠ 61)

/-- More `&` than stand between the pieces. -/
def Redundant (args : Bytes) : Prop := args.count 38 ≠ (pieces (ascii "&") args).length - 1

instance decidableRedundant (args : Bytes) : Decidable (Redundant args) :=
  inferInstanceAs (Decidable (_ ≠ _))

/-- What a request with the pieces `segs` is to give. -/
def segmentsResult (command : Bytes) (segs : List Bytes) (response : Int) : Option HttpCmd × Int :=
  if (segs.map segmentName).Nodup then (some ⟨command, some (segs.map paramOf)⟩, response)
  else (none, HTTP_PARSER_ERROR_DUPLICATE_PARAMS)

/-! ## Names -/

theorem segmentName_ne_nil (s : Bytes) : segmentName s ≠ [] ↔ HasName s := by
  constructor
  · intro h
    obtain ⟨b, hb⟩ := List.exists_mem_of_ne_nil _ h
    refine ⟨b, (List.dropWhile_suffix _).subset ((List.takeWhile_prefix _).subset hb), ?_⟩
    have := List.mem_takeWhile_imp hb
    simpa [ascii] using this
  · rintro ⟨b, hb, hne⟩
    have hdrop : s.dropWhile (· = 61) ≠ [] := by
      rw [ne_eq, List.dropWhile_eq_nil_iff]
      intro hall
      exact hne (by simpa [ascii] using hall b hb)
    obtain ⟨c, cs, hc⟩ := List.exists_cons_of_ne_nil hdrop
    have hhead := List.head?_dropWhile_not (· = 61) s
    rw [hc] at hhead
    have hc61 : c ≠ 61 := by simpa using hhead
    simp [segmentName, hc, hc61]

theorem paramOf_name {s : Bytes} (h : HasName s) : (paramOf s).name = some (segmentName s) := by
  obtain ⟨name, hname⟩ := Option.isSome_iff_exists.mp (paramOf_name_isSome.mpr h)
  rw [hname]
  simp only [paramOf, strtok] at hname
  split at hname
  · cases hname
  · rename_i c cs hd
    have hd' : s.dropWhile (· = 61) = c :: cs := by simpa [ascii] using hd
    simp only [Option.some.injEq] at hname
    rw [← hname, segmentName, hd']
    simp [ascii]

/-- Names are compared as the parser compares them. -/
theorem names_nodup_iff {segs : List Bytes} (h : ∀ s ∈ segs, HasName s) :
    (segs.map fun s => (paramOf s).name).Nodup ↔ (segs.map segmentName).Nodup := by
  have hmap : (segs.map fun s => (paramOf s).name) = (segs.map segmentName).map some := by
    rw [List.map_map]
    exact List.map_congr_left fun s hs => paramOf_name (h s hs)
  rw [hmap]
  exact List.nodup_map_iff (Option.some_injective _)

/-! ## The pieces that are kept -/

/-- Without `&` the string is its only piece. -/
theorem pieces_without_separator {args : Bytes} (h : args.count 38 = 0) (hne : args ≠ []) :
    pieces (ascii "&") args = [args] := by
  refine pieces_last hne fun b hb hmem => ?_
  have hb38 : b = 38 := by simpa [ascii] using hmem
  exact List.count_eq_zero.mp h (hb38 ▸ hb)

theorem count_ne_zero_of_redundant {args : Bytes} (h : Redundant args) : args.count 38 ≠ 0 := by
  intro h0
  by_cases hne : args = []
  · subst hne
    exact h rfl
  · exact h (by rw [h0, pieces_without_separator h0 hne]; rfl)

/-- All pieces, without the last one if a separator is redundant. -/
theorem paramSegs_eq {args : Bytes} (h : ∀ s ∈ pieces (ascii "&") args, HasName s) :
    paramSegs args = if Redundant args then (pieces (ascii "&") args).dropLast
      else pieces (ascii "&") args := by
  unfold paramSegs
  simp only [strtokAll_eq_pieces]
  by_cases h0 : args.count 38 = 0
  · have hr : ¬ Redundant args := fun hr => count_ne_zero_of_redundant hr h0
    by_cases hne : args = []
    · subst hne
      rfl
    · have hp := pieces_without_separator h0 hne
      rw [hp] at h
      simp [h0, hp, hr, h args (List.mem_singleton.mpr rfl)]
  · simp only [h0, if_false, Redundant, ne_comm, List.dropLast_eq_take]

/-- What becomes of an argument string with some piece: a redundant
separator costs the last piece, or everything. -/
theorem buildCmd_segments {b : Broken} (h : ∀ s ∈ pieces (ascii "&") b.args, HasName s)
    (hne : b.args.count 38 ≠ 0 → pieces (ascii "&") b.args ≠ []) (response : Int) :
    buildCmd b response = .ok (
      if Redundant b.args then
        if (pieces (ascii "&") b.args).dropLast = [] then (none, HTTP_PARSER_ERROR_NO_MEMORY)
        else segmentsResult b.command (pieces (ascii "&") b.args).dropLast response
      else segmentsResult b.command (pieces (ascii "&") b.args) response) := by
  have hsegs := paramSegs_eq h
  have hall : ∀ s ∈ paramSegs b.args, HasName s := by
    intro s hs
    rw [hsegs] at hs
    split at hs
    · exact h s (List.mem_of_mem_dropLast hs)
    · exact h s hs
  have hdup : Duplicated b.args = false ↔ ((paramSegs b.args).map segmentName).Nodup := by
    rw [not_duplicated_iff, names_nodup_iff hall]
  rw [buildCmd_safe ⟨by rwa [strtokAll_eq_pieces], hall⟩]
  have hresult : (if Duplicated b.args then (none, HTTP_PARSER_ERROR_DUPLICATE_PARAMS)
      else (some ⟨b.command, some ((paramSegs b.args).map paramOf)⟩, response)) =
      segmentsResult b.command (paramSegs b.args) response := by
    unfold segmentsResult
    cases hd : Duplicated b.args with
    | false =>
      rw [if_pos (hdup.mp hd)]
      rfl
    | true =>
      have hn : ¬ ((paramSegs b.args).map segmentName).Nodup := by
        rw [← hdup, hd]
        decide
      rw [if_neg hn]
      rfl
  rw [hresult, hsegs]
  by_cases hr : Redundant b.args
  · simp [hr, count_ne_zero_of_redundant hr]
  · have hnil : ¬ (b.args.count 38 ≠ 0 ∧ pieces (ascii "&") b.args = []) := fun hc => hne hc.1 hc.2
    simp only [hr, if_false, if_neg hnil]

/-- A piece less makes a difference, unless the others repeat a name. -/
theorem segmentsResult_dropLast {segs : List Bytes} (hne : segs ≠ []) (command : Bytes)
    (response : Int) :
    segmentsResult command segs.dropLast response = segmentsResult command segs response ↔
      ¬ (segs.dropLast.map segmentName).Nodup := by
  have hsub : (segs.dropLast.map segmentName).Sublist (segs.map segmentName) :=
    (List.dropLast_sublist segs).map segmentName
  unfold segmentsResult
  by_cases hd : (segs.dropLast.map segmentName).Nodup
  · simp only [hd, if_true, not_true_eq_false, iff_false]
    split
    · intro heq
      have hlen := congrArg (fun p => (p.1.map HttpCmd.length).getD 0) heq
      simp only [Option.map_some, Option.getD_some, HttpCmd.length, List.length_map,
        List.length_dropLast] at hlen
      have := List.length_pos_iff.mpr hne
      omega
    · intro heq
      cases heq
  · have hs : ¬ (segs.map segmentName).Nodup := fun hn => hd (hn.sublist hsub)
    simp only [hd, hs, if_false, not_false_eq_true]

theorem segmentsResult_ne_noMemory (command : Bytes) (segs : List Bytes) (response : Int) :
    (none, HTTP_PARSER_ERROR_NO_MEMORY) ≠ segmentsResult command segs response := by
  unfold segmentsResult
  split
  · intro heq
    cases heq
  · intro heq
    exact absurd (congrArg Prod.snd heq) (by decide)

/-- The arguments alone: every piece is kept exactly if no separator is
redundant or the pieces before the last repeat a name. -/
theorem buildCmd_keeps_iff {b : Broken} (h : ∀ s ∈ pieces (ascii "&") b.args, HasName s)
    (response : Int) :
    buildCmd b response =
        .ok (segmentsResult b.command (pieces (ascii "&") b.args) response) ↔
      ¬ Redundant b.args ∨ ¬ ((pieces (ascii "&") b.args).dropLast.map segmentName).Nodup := by
  by_cases hr : Redundant b.args
  swap
  · have hne : b.args.count 38 ≠ 0 → pieces (ascii "&") b.args ≠ [] := by
      intro hc hnil
      rw [Redundant, hnil] at hr
      exact hr hc
    rw [buildCmd_segments h hne, if_neg hr]
    exact iff_of_true rfl (.inl hr)
  simp only [hr, not_true_eq_false, false_or]
  by_cases hnil : pieces (ascii "&") b.args = []
  · -- nothing but separators: NULL is passed to `parse_http_param`
    have hsafe : ¬ ArgsSafe b.args := by
      intro hs
      exact hs.1 (count_ne_zero_of_redundant hr) (by rw [strtokAll_eq_pieces, hnil])
    rw [buildCmd_not_safe hsafe, hnil]
    simp
  rw [buildCmd_segments h (fun _ => hnil), if_pos hr, Except.ok.injEq]
  by_cases hlast : (pieces (ascii "&") b.args).dropLast = []
  · -- one piece: `realloc` of no entries
    rw [if_pos hlast, hlast]
    exact iff_of_false (segmentsResult_ne_noMemory _ _ _) (not_not.mpr List.nodup_nil)
  · rw [if_neg hlast]
    exact segmentsResult_dropLast hnil b.command response

/-- **Redundant separators.** For every accepted request whose pieces all
have a name, the parser gives one parameter for each piece, or the error for
a name given twice, exactly if the line fits and no separator is redundant
or the pieces before the last repeat a name anyway. -/
theorem separators_iff (request line : Bytes) (response : Int)
    (hline : rpiwdGetline request CRLF = .ok (some line)) (hacc : Accepted line)
    (hnames : ∀ s ∈ pieces (ascii "&") (broken (requestTokens line)).args, segmentName s ≠ []) :
    parseHttpRequest request response =
        .ok (segmentsResult (broken (requestTokens line)).command
          (pieces (ascii "&") (broken (requestTokens line)).args) response) ↔
      LineFits line ∧ (¬ Redundant (broken (requestTokens line)).args ∨
        ¬ ((pieces (ascii "&") (broken (requestTokens line)).args).dropLast.map
          segmentName).Nodup) := by
  have hparse : parseHttpRequest request response = parseRequestLine (some line) response := by
    simp only [parseHttpRequest, hline, bind, Except.bind]
  rw [hparse]
  by_cases hf : LineFits line
  · have hkeeps := buildCmd_keeps_iff
      (fun s hs => (segmentName_ne_nil s).mp (hnames s hs)) response
    rw [parseRequestLine_accepted hf hacc, hkeeps]
    simp only [hf, true_and]
  · rw [parseRequestLine_overflow hf]
    simp [hf]

/-- `GET /fetch?from=-2d&to=-1d HTTP/1.1`: no separator is redundant. -/
theorem separators_none :
    parseHttpRequest (ascii "GET /fetch?from=-2d&to=-1d HTTP/1.1\r\n") 0 =
      .ok (segmentsResult (ascii "fetch") [ascii "from=-2d", ascii "to=-1d"] 0) := by
  have hargs : broken (requestTokens (ascii "GET /fetch?from=-2d&to=-1d HTTP/1.1")) =
      ⟨0, HTTP11, ascii "from=-2d&to=-1d", ascii "fetch"⟩ := by decide +kernel
  have hsegs : pieces (ascii "&") (ascii "from=-2d&to=-1d") =
      [ascii "from=-2d", ascii "to=-1d"] := by decide +kernel
  have h := separators_iff (ascii "GET /fetch?from=-2d&to=-1d HTTP/1.1\r\n")
    (ascii "GET /fetch?from=-2d&to=-1d HTTP/1.1") 0 (by decide +kernel)
  rw [Accepted, hargs, hsegs] at h
  exact (h ⟨by decide, .inl rfl⟩ (by decide +kernel)).mpr
    ⟨by decide +kernel, .inl (by decide +kernel)⟩

/-- A `&` in front loses the last parameter; one behind an only parameter
loses the command. -/
theorem separators_lose :
    pieces (ascii "&") (ascii "&from=-2d&to=-1d") = [ascii "from=-2d", ascii "to=-1d"] ∧
    parseHttpRequest (ascii "GET /fetch?&from=-2d&to=-1d HTTP/1.1\r\n") 0 =
      .ok (some ⟨ascii "fetch", some [⟨some (ascii "from"), some (ascii "-2d")⟩]⟩, 0) ∧
    parseHttpRequest (ascii "GET /fetch?from=-2d& HTTP/1.1\r\n") 0 =
      .ok (none, HTTP_PARSER_ERROR_NO_MEMORY) := by
  decide +kernel

end Rpiweatherd
