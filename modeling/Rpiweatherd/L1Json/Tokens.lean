import Rpiweatherd.L1Json.Parser

/-!
# Strings and numbers are read back

Each reader is run on the text of its part with anything behind it that can
follow a value. A string comes back as it was (`getQuotedString_text`), a
number rounded to its sixth decimal (`parseNumberValue_text`). Of the values
of a `double`, only plus infinity has a text that is not a number.
-/
namespace Rpiweatherd

/-- What can follow a value in a text. -/
def EndsValue (rest : Bytes) : Prop := ∀ b ∈ rest.head?, b = 44 ∨ b = 93 ∨ b = 125 ∨ b = 10

theorem endsValue_nil : EndsValue [] := fun _ hb => absurd hb (Option.not_mem_none _)

theorem endsValue_cons {c : UInt8} (h : c = 44 ∨ c = 93 ∨ c = 125 ∨ c = 10) (s : Bytes) :
    EndsValue (c :: s) := by
  intro b hb
  cases hb
  exact h

/-! ## Blanks -/

theorem skipWhitespaces_blank {w : Bytes} (h : ∀ b ∈ w, isspace b = true) (s : Bytes) :
    skipWhitespaces (w ++ s) = skipWhitespaces s := List.dropWhile_append_of_pos h

theorem skipWhitespaces_word {c : UInt8} (h : isspace c = false) (s : Bytes) :
    skipWhitespaces (c :: s) = c :: s := List.dropWhile_cons_of_neg (by simp [h])

theorem newlineText_blank (pretty : Bool) : ∀ b ∈ newlineText pretty, isspace b = true := by
  cases pretty <;> decide

theorem indentText_blank (pretty : Bool) (level : Nat) :
    ∀ b ∈ indentText pretty level, isspace b = true := by
  intro b hb
  unfold indentText at hb
  split at hb
  · rw [List.eq_of_mem_replicate hb]
    decide
  · cases hb

theorem expect_self (c : UInt8) (s : Bytes) : expect c (c :: s) = some s := if_pos rfl

theorem expect_ne {b c : UInt8} (h : b ≠ c) (s : Bytes) : expect c (b :: s) = none := if_neg h

/-! ## Strings -/

theorem hexChar_clean : ∀ c : UInt8, c < 32 →
    hexChar (c / 16) ≠ 34 ∧ hexChar (c / 16) ≠ 92 ∧ hexChar (c % 16) ≠ 34 ∧ hexChar (c % 16) ≠ 92 := by
  decide +kernel

theorem skipToQuote_quote (s : Bytes) : skipToQuote (34 :: s) = some s := by
  rw [skipToQuote.eq_def]
  rfl

theorem skipToQuote_escape (c : UInt8) (s : Bytes) :
    skipToQuote (92 :: c :: s) = skipToQuote s := by
  rw [skipToQuote.eq_def]
  rfl

theorem skipToQuote_plain {c : UInt8} (h34 : c ≠ 34) (h92 : c ≠ 92) (s : Bytes) :
    skipToQuote (c :: s) = skipToQuote s := by
  rw [skipToQuote.eq_def]
  simp [h34, h92]

theorem skipToQuote_escaped (c : UInt8) (s : Bytes) :
    skipToQuote (escaped c ++ s) = skipToQuote s := by
  unfold escaped escapeOf
  split_ifs with h34 h92 _ _ _ _ _ _ hctrl
  iterate 8 exact skipToQuote_escape _ s
  · obtain ⟨h1, h2, h3, h4⟩ := hexChar_clean c hctrl
    have hzero : skipToQuote (48 :: 48 :: hexChar (c / 16) :: hexChar (c % 16) :: s) =
        skipToQuote (hexChar (c / 16) :: hexChar (c % 16) :: s) := by
      rw [skipToQuote_plain (by decide) (by decide), skipToQuote_plain (by decide) (by decide)]
    exact (skipToQuote_escape 117 _).trans
      (hzero.trans ((skipToQuote_plain h1 h2 _).trans (skipToQuote_plain h3 h4 s)))
  · exact skipToQuote_plain h34 h92 s

theorem skipToQuote_text (s rest : Bytes) :
    skipToQuote (s.flatMap escaped ++ 34 :: rest) = some rest := by
  induction s with
  | nil => exact skipToQuote_quote rest
  | cons c s ih => rw [List.flatMap_cons, List.append_assoc, skipToQuote_escaped, ih]

theorem hexChar_unit : ∀ c : UInt8, c < 32 →
    (([48, 48, hexChar (c / 16), hexChar (c % 16)] : Bytes).all fun b => (hexDigit b).isSome) = true ∧
      digitsVal 16 [48, 48, hexChar (c / 16), hexChar (c % 16)] = c.toNat ∧ c.toNat < 128 ∧
        UInt8.ofNat c.toNat = c := by
  decide +kernel

theorem processChar_escaped (c : UInt8) (s : Bytes) :
    processChar (escaped c ++ s) = some ([c], s) := by
  unfold escaped escapeOf
  split_ifs with h34 h92 h47 h8 h12 h10 h13 h9 hctrl
  · rw [h34]; rfl
  · rw [h92]; rfl
  · rw [h47]; rfl
  · rw [h8]; rfl
  · rw [h12]; rfl
  · rw [h10]; rfl
  · rw [h13]; rfl
  · rw [h9]; rfl
  · obtain ⟨hall, hunit, hlt, hback⟩ := hexChar_unit c hctrl
    have hutf : parseUtf16 ([48, 48, hexChar (c / 16), hexChar (c % 16)] ++ s) = some ([c], s) := by
      have hhex : isUtf16Hex ([48, 48, hexChar (c / 16), hexChar (c % 16)] ++ s) = true := by
        simp [isUtf16Hex, hall]
      have hcp : utf16Unit ([48, 48, hexChar (c / 16), hexChar (c % 16)] ++ s) = c.toNat := hunit
      unfold parseUtf16
      simp only [hhex, hcp, if_true, hlt, hback]
      rfl
    exact hutf
  · have hplain : ¬ c < 32 := hctrl
    simp [processChar, h92, hplain]

theorem processLoop_escaped (s : Bytes) {n : Nat} (hn : s.length ≤ n) :
    processLoop n (s.flatMap escaped) = some s := by
  induction s generalizing n with
  | nil => cases n <;> rfl
  | cons c s ih =>
    obtain ⟨m, rfl⟩ : ∃ m, n = m + 1 := ⟨n - 1, by simp at hn; omega⟩
    have hne : escaped c ++ s.flatMap escaped ≠ [] := by
      intro h
      have := processChar_escaped c (s.flatMap escaped)
      rw [h] at this
      cases this
    obtain ⟨b, t, hbt⟩ := List.exists_cons_of_ne_nil hne
    have hround : processLoop (m + 1) (b :: t) =
        (processChar (b :: t)).bind fun p => (processLoop m p.2).map (p.1 ++ ·) := rfl
    rw [List.flatMap_cons, hbt, hround, ← hbt, processChar_escaped, Option.bind_some,
      ih (by simpa using hn)]
    rfl

theorem escaped_length (c : UInt8) : 1 ≤ (escaped c).length := by
  unfold escaped escapeOf
  split_ifs <;> simp

theorem cstr_of_notMem {s : Bytes} (h : 0 ∉ s) : cstr s = s := by
  refine List.takeWhile_eq_self_iff.mpr fun b hb => ?_
  simpa using fun he : b = 0 => h (he ▸ hb)

theorem flatMap_escaped_length (s : Bytes) : s.length ≤ (s.flatMap escaped).length := by
  induction s with
  | nil => exact Nat.le_refl _
  | cons c s ih =>
    have := escaped_length c
    simp only [List.flatMap_cons, List.length_append, List.length_cons]
    omega

theorem getQuotedString_text {s : Bytes} (h : 0 ∉ s) (rest : Bytes) :
    getQuotedString (stringText s ++ rest) = some (s, rest) := by
  have hraw : ((stringText s ++ rest).drop 1).take
      ((stringText s ++ rest).length - rest.length - 2) = s.flatMap escaped := by
    rw [stringText, List.cons_append, List.drop_succ_cons, List.drop_zero, List.append_assoc]
    apply List.take_left'
    simp only [List.length_cons, List.length_append, List.length_nil]
    omega
  have hskip : skipQuotes (stringText s ++ rest) = some rest := by
    rw [skipQuotes, stringText, List.cons_append, expect_self, Option.bind_some, List.append_assoc]
    exact skipToQuote_text s rest
  rw [getQuotedString, hskip, Option.bind_some, hraw, processString,
    processLoop_escaped s (flatMap_escaped_length s), Option.map_some, cstr_of_notMem h]
  rfl

/-! ## Numbers -/

theorem isDecimal_text {d : Decimal} (hne : d.whole ≠ [])
    (hzero : d.whole = [48] ∨ d.whole.head? ≠ some 48) : isDecimal d.text = true := by
  have hhex : (d.text.all fun b => b ≠ 120 && b ≠ 88) = true := by
    have hbyte : ∀ b : UInt8, b = 43 ∨ b = 45 ∨ b = 46 ∨ isdigit b = true →
        (b ≠ 120 && b ≠ 88) = true := by decide +kernel
    rw [List.all_eq_true]
    intro b hb
    apply hbyte
    rcases List.mem_append.mp hb with hb | hb
    · rcases Decimal.mem_signText hb with rfl | rfl
      · exact .inl rfl
      · exact .inr (.inl rfl)
    · rcases List.mem_append.mp hb with hb | hb
      · exact .inr (.inr (.inr (d.whole_digits b hb)))
      · exact .inr (.inr (Decimal.mem_fractionText hb))
  have hfraction : d.fractionText = [] ∨ ∃ f, d.fractionText = 46 :: f := by
    unfold Decimal.fractionText
    cases d.fraction with
    | none => exact .inl rfl
    | some f => exact .inr ⟨f, rfl⟩
  obtain ⟨c, cs, hcs⟩ := List.exists_cons_of_ne_nil hne
  have hc : c ≠ 45 := by
    have hdigit := d.whole_digits c (by rw [hcs]; exact List.mem_cons_self ..)
    rintro rfl
    cases hdigit
  have hcs0 : c = 48 → cs = [] := by
    rintro rfl
    rcases hzero with h | h
    · rw [hcs] at h
      exact (List.cons.inj h).2
    · rw [hcs] at h
      exact absurd rfl h
  unfold isDecimal
  rw [hhex]
  unfold Decimal.text Decimal.signText
  rw [hcs]
  by_cases h0 : c = 48
  · rw [h0, hcs0 h0]
    rcases hfraction with hf | ⟨f, hf⟩
    · rcases d.negative with _ | _ | _ <;> simp [hf, ascii]
    · rcases d.negative with _ | _ | _ <;> simp [hf, ascii, List.isPrefixOf]
  · rcases d.negative with _ | _ | _ <;> simp [h0, Ne.symm hc, Ne.symm h0, ascii, List.isPrefixOf]

theorem endsBefore_of_endsValue {rest : Bytes} (h : EndsValue rest) (d : Decimal) :
    d.EndsBefore rest := by
  have hbyte : ∀ b : UInt8, b = 44 ∨ b = 93 ∨ b = 125 ∨ b = 10 →
      isdigit b = false ∧ b ≠ 46 ∧ b ≠ 101 ∧ b ≠ 69 ∧ b ≠ 120 ∧ b ≠ 88 := by decide +kernel
  intro b hb
  obtain ⟨hdigit, hpoint, hrest⟩ := hbyte b (h b hb)
  exact ⟨hdigit, fun _ => hpoint, hrest⟩

theorem parseNumberValue_word {x : FloatVal} {word rest : Bytes} (hx : x.toDouble = x)
    (hread : strtod (word ++ rest) = (x, rest)) (hword : isDecimal word = true) :
    parseNumberValue (word ++ rest) = some (.number x, rest) := by
  have htoken : (word ++ rest).take ((word ++ rest).length - rest.length) = word := by
    apply List.take_left'
    rw [List.length_append]
    omega
  unfold parseNumberValue
  rw [hread]
  dsimp only
  rw [htoken, if_pos hword, hx]

theorem parseNumberValue_decimal {d : Decimal} (hne : d.whole ≠ [])
    (hzero : d.whole = [48] ∨ d.whole.head? ≠ some 48) (hsize : |d.value| < DBL_OVERFLOW)
    {rest : Bytes} (hrest : EndsValue rest) :
    parseNumberValue (d.text ++ rest) = some (.number (.num d.value), rest) := by
  have hdouble : (FloatVal.num d.value).toDouble = .num d.value := if_neg (not_le.mpr hsize)
  exact parseNumberValue_word hdouble (strtod_decimal d (endsBefore_of_endsValue hrest d))
    (isDecimal_text hne hzero)

/-- The numbers whose text is a number: without a sign `inf` and `nan` are
none. -/
def Readable : FloatVal → Prop
  | .num q => |fixedValue 6 q| < DBL_OVERFLOW
  | .inf neg => neg = true
  | .nan neg => neg = true

/-- Behind a sign, a letter is neither a hexadecimal nor a decimal number. -/
theorem scan_letter {c : UInt8} (hc : c = 105 ∨ c = 110) (s : Bytes) :
    scanSign ((45 :: c :: s).dropWhile isspace) = (true, c :: s) ∧ scanHex (c :: s) = none ∧
      scanDecimal (c :: s) = none := by
  rcases hc with rfl | rfl <;> exact ⟨rfl, rfl, rfl⟩

theorem strtod_negInf {rest : Bytes} (h : EndsValue rest) :
    strtod (ascii "-inf" ++ rest) = (.inf true, rest) := by
  have hlong : stripWord (ascii "infinity") (105 :: 110 :: 102 :: rest) = none := by
    refine if_neg fun heq => ?_
    cases rest with
    | nil => exact absurd heq (by decide)
    | cons b rest =>
      have hb : tolower b = 105 := by
        have := congrArg (fun l => l[3]?) heq
        simpa [ascii] using this
      have hbyte : ∀ b : UInt8, b = 44 ∨ b = 93 ∨ b = 125 ∨ b = 10 → tolower b ≠ 105 := by
        decide +kernel
      exact hbyte b (h b rfl) hb
  have hshort : stripWord (ascii "inf") (105 :: 110 :: 102 :: rest) = some rest := rfl
  obtain ⟨hsign, hhex, hdecimal⟩ := scan_letter (.inl rfl) (110 :: 102 :: rest)
  show strtod (45 :: 105 :: 110 :: 102 :: rest) = _
  unfold strtod
  simp only [hsign, hhex, hdecimal, hlong, hshort]

theorem strtod_negNan {rest : Bytes} (h : EndsValue rest) :
    strtod (ascii "-nan" ++ rest) = (.nan true, rest) := by
  have hinf : stripWord (ascii "infinity") (110 :: 97 :: 110 :: rest) = none := by
    refine if_neg fun heq => ?_
    have := congrArg List.head? heq
    cases this
  have hinf' : stripWord (ascii "inf") (110 :: 97 :: 110 :: rest) = none := rfl
  have hnan : stripWord (ascii "nan") (110 :: 97 :: 110 :: rest) = some rest := rfl
  have htag : skipNanTag rest = rest := by
    unfold skipNanTag
    split
    · have hbyte : ∀ b : UInt8, b = 44 ∨ b = 93 ∨ b = 125 ∨ b = 10 → b ≠ 40 := by decide +kernel
      exact absurd rfl (hbyte 40 (h 40 rfl))
    · rfl
  obtain ⟨hsign, hhex, hdecimal⟩ := scan_letter (.inr rfl) (97 :: 110 :: rest)
  show strtod (45 :: 110 :: 97 :: 110 :: rest) = _
  unfold strtod
  simp only [hsign, hhex, hdecimal, hinf, hinf', hnan, htag]

/-- **A number** is read as the number it was, up to its sixth decimal. -/
theorem parseNumberValue_text {x : FloatVal} (h : Readable x) {rest : Bytes}
    (hrest : EndsValue rest) :
    parseNumberValue (numberText x ++ rest) = some (.number (Json.rereadNumber x), rest) := by
  cases x with
  | num q =>
    have hsize : |fixedValue 6 q| < DBL_OVERFLOW := h
    rw [numberText, Json.rereadNumber]
    split
    · rename_i hint
      have hq : fixedValue 6 q = ((q.num : Int) : ℚ) := by
        have hcast : ((q.num : Int) : ℚ) = q := Rat.coe_int_num_of_den_eq_one hint.1
        rw [hcast]
        refine fixedValue_of_int (n := q.num * 10 ^ 6) ?_
        push_cast
        rw [hcast]
        norm_num
      rw [hq, ← intDecimal_value q.num] at hsize
      rw [hq, ← intDecimal_text, ← intDecimal_value q.num]
      exact parseNumberValue_decimal (printInt_ne_nil _) (printInt_head _) hsize hrest
    · rw [← fixedDecimal_value (by decide)] at hsize
      rw [← fixedDecimal_text, ← fixedDecimal_value (by decide)]
      exact parseNumberValue_decimal (printInt_ne_nil _) (printInt_head _) hsize hrest
  | inf neg =>
    obtain rfl : neg = true := h
    exact parseNumberValue_word rfl (strtod_negInf hrest) (by decide)
  | nan neg =>
    obtain rfl : neg = true := h
    exact parseNumberValue_word rfl (strtod_negNan hrest) (by decide)

end Rpiweatherd
