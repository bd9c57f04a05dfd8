import Rpiweatherd.L1Json.Json
import Rpiweatherd.L1Libc.Buffer

/-!
# Reading a JSON text (`deps/parson.c:145-230,461-754,1003-1008`)

A reader gets the rest of the text and returns what it read and what is behind
it; `none` is NULL. `parseValue left` is `parse_value` with `left` levels to
go: `nesting` is `MAX_NESTING + 1 - left`. What follows the value that was
read is not looked at.

**Result.** `parseValue_wellFormed`: whatever the text, a value that was read
has distinct names in every object, keeps the limits on members, items and
levels, and has no terminator inside a string.
-/
namespace Rpiweatherd

/-- `SKIP_WHITESPACES` -/
def skipWhitespaces (s : Bytes) : Bytes := s.dropWhile isspace

/-- The text behind this character. -/
def expect (c : UInt8) : Bytes → Option Bytes
  | [] => none
  | b :: s => if b = c then some s else none

/-! ## Strings -/

/-- Behind the quote that ends a string. mirrors deps/parson.c:466-477 -/
def skipToQuote : Bytes → Option Bytes
  | [] => none
  | c :: s =>
    if c = 34 then some s
    else if c = 92 then
      match s with
      | [] => none
      | _ :: s => skipToQuote s
    else skipToQuote s

/-- mirrors deps/parson.c:461-479 -/
def skipQuotes (s : Bytes) : Option Bytes := (expect 34 s).bind skipToQuote

/-- mirrors deps/parson.c:145-147 -/
def isUtf16Hex (s : Bytes) : Bool := s.length ≥ 4 && (s.take 4).all fun b => (hexDigit b).isSome

/-- `sscanf("%4x")` of four digits -/
def utf16Unit (s : Bytes) : Nat := digitsVal 16 (s.take 4)

def utf8Head (cp shift mask mark : Nat) : UInt8 := UInt8.ofNat (((cp >>> shift) &&& mask) ||| mark)

def utf8Tail (cp shift : Nat) : UInt8 := utf8Head cp shift 0x3F 0x80

/-- The bytes of a `\u` escape and what is behind it. mirrors
deps/parson.c:481-519 -/
def parseUtf16 (s : Bytes) : Option (Bytes × Bytes) :=
  if isUtf16Hex s then
    let cp := utf16Unit s
    let rest := s.drop 4
    if cp < 0x80 then some ([UInt8.ofNat cp], rest)
    else if cp < 0x800 then some ([utf8Head cp 6 0x1F 0xC0, utf8Tail cp 0], rest)
    else if cp < 0xD800 ∨ 0xDFFF < cp then
      some ([utf8Head cp 12 0xF 0xE0, utf8Tail cp 6, utf8Tail cp 0], rest)
    else if cp ≤ 0xDBFF then
      ((expect 92 rest).bind (expect 117)).bind fun rest =>
        let trail := utf16Unit rest
        if isUtf16Hex rest ∧ 0xDC00 ≤ trail ∧ trail ≤ 0xDFFF then
          let cp := ((cp - 0xD800) &&& 0x3FF) <<< 10 ||| ((trail - 0xDC00) &&& 0x3FF)
          let cp := cp + 0x10000
          some ([utf8Head cp 18 0x7 0xF0, utf8Tail cp 12, utf8Tail cp 6, utf8Tail cp 0],
            rest.drop 4)
        else none
    else none
  else none

/-- Behind a backslash. mirrors deps/parson.c:533-551 -/
def processEscape : Bytes → Option (Bytes × Bytes)
  | [] => none
  | c :: s =>
    if c = 34 then some ([34], s)
    else if c = 92 then some ([92], s)
    else if c = 47 then some ([47], s)
    else if c = 98 then some ([8], s)
    else if c = 102 then some ([12], s)
    else if c = 110 then some ([10], s)
    else if c = 114 then some ([13], s)
    else if c = 116 then some ([9], s)
    else if c = 117 then parseUtf16 s
    else none

/-- One round of the loop: what it puts out and the input it goes on with.
mirrors deps/parson.c:532-558 -/
def processChar : Bytes → Option (Bytes × Bytes)
  | [] => none
  | c :: s =>
    if c = 92 then processEscape s
    else if c < 0x20 then none
    else some ([c], s)

/-- A round reads at least one byte, so `n` rounds are enough for `n` bytes. -/
def processLoop : Nat → Bytes → Option Bytes
  | _, [] => some []
  | 0, _ :: _ => none
  | n + 1, s => (processChar s).bind fun p => (processLoop n p.2).map (p.1 ++ ·)

/-- The string between the quotes; the closing quote, which no escape accepts,
stands for the end of the input. A terminator that an escape put into the
output ends it. mirrors deps/parson.c:524-573 -/
def processString (input : Bytes) : Option Bytes := (processLoop input.length input).map cstr

/-- mirrors deps/parson.c:577-586 -/
def getQuotedString (s : Bytes) : Option (Bytes × Bytes) :=
  (skipQuotes s).bind fun rest =>
    (processString ((s.drop 1).take (s.length - rest.length - 2))).map fun string => (string, rest)

/-! ## Words and numbers -/

/-- `strncmp(token, *string, size) == 0` -/
def parseToken (token : Bytes) (v : Json) (s : Bytes) : Option (Json × Bytes) :=
  if token.isPrefixOf s then some (v, s.drop token.length) else none

/-- mirrors deps/parson.c:718-729 -/
def parseBooleanValue (s : Bytes) : Option (Json × Bytes) :=
  (parseToken (ascii "true") (.boolean true) s).or (parseToken (ascii "false") (.boolean false) s)

/-- mirrors deps/parson.c:744-751 -/
def parseNullValue (s : Bytes) : Option (Json × Bytes) := parseToken (ascii "null") .null s

/-- mirrors deps/parson.c:704-716 -/
def parseStringValue (s : Bytes) : Option (Json × Bytes) :=
  (getQuotedString s).map fun (string, rest) => (.string string, rest)

/-- No leading zeros and no hexadecimal digits. mirrors
deps/parson.c:218-230 -/
def isDecimal (token : Bytes) : Bool :=
  !(token.length > 1 && token[0]? = some 48 && token[1]? ≠ some 46) &&
    (!(token.length > 2 && (ascii "-0").isPrefixOf token && token[2]? ≠ some 46) &&
      token.all fun b => b ≠ 120 && b ≠ 88)

/-- From here on a number is rounded to infinity. -/
def DBL_OVERFLOW : ℚ := 2 ^ DBL_MAX_EXP - 2 ^ 970

def FloatVal.toDouble : FloatVal → FloatVal
  | .num q => if DBL_OVERFLOW ≤ |q| then .inf (q < 0) else .num q
  | x => x

/-- mirrors deps/parson.c:731-742 -/
def parseNumberValue (s : Bytes) : Option (Json × Bytes) :=
  let (number, rest) := strtod s
  if isDecimal (s.take (s.length - rest.length)) then some (.number number.toDouble, rest)
  else none

/-! ## Arrays and objects -/

/-- The items of an array or object that grows by doubling. -/
structure Growing (α : Type) where
  capacity : Nat
  items : List α

namespace Growing
variable {α : Type}

def empty : Growing α := ⟨0, []⟩

/-- mirrors deps/parson.c:321-335,410-421 -/
def push (limit : Nat) (g : Growing α) (a : α) : Option (Growing α) :=
  if g.items.length < g.capacity then some ⟨g.capacity, g.items ++ [a]⟩
  else
    let newCapacity := max (g.capacity * 2) STARTING_CAPACITY
    if limit < newCapacity then none else some ⟨newCapacity, g.items ++ [a]⟩

end Growing

/-- `json_object_add`: a name that is taken is refused. mirrors
deps/parson.c:313-338 -/
def objectAdd (g : Growing (Bytes × Json)) (name : Bytes) (v : Json) :
    Option (Growing (Bytes × Json)) :=
  if (g.items.lookup name).isSome then none else g.push OBJECT_MAX_CAPACITY (name, v)

/-- The loop over the items: one, and another behind every comma. An item has
at least one byte, so `n` rounds are enough for `n` bytes. mirrors
deps/parson.c:626-653,676-693 -/
def parseItems {α : Type} (item : Growing α → Bytes → Option (Growing α × Bytes)) :
    Nat → Growing α → Bytes → Option (Growing α × Bytes)
  | _, g, [] => some (g, [])
  | 0, _, _ :: _ => none
  | n + 1, g, s =>
    (item g s).bind fun (g, s) =>
      match expect 44 (skipWhitespaces s) with
      | some s => parseItems item n g (skipWhitespaces s)
      | none => some (g, skipWhitespaces s)

/-- Behind the opening bracket; a container with items is trimmed to their
number, which fails for none. mirrors deps/parson.c:620-661,671-701 -/
def parseContainer {α : Type} (closing : UInt8) (make : Nat → List α → Json)
    (item : Growing α → Bytes → Option (Growing α × Bytes)) (s : Bytes) : Option (Json × Bytes) :=
  let s := skipWhitespaces s
  match expect closing s with
  | some rest => some (make 0 [], rest)
  | none =>
    (parseItems item s.length .empty s).bind fun (g, s) =>
      (expect closing (skipWhitespaces s)).bind fun rest =>
        if g.items.length = 0 then none else some (make g.items.length g.items, rest)

/-- mirrors deps/parson.c:627-646 -/
def parseMember (value : Bytes → Option (Json × Bytes)) (g : Growing (Bytes × Json)) (s : Bytes) :
    Option (Growing (Bytes × Json) × Bytes) :=
  (getQuotedString s).bind fun (name, s) =>
    (expect 58 (skipWhitespaces s)).bind fun s =>
      (value s).bind fun (v, s) => (objectAdd g name v).map fun g => (g, s)

/-- mirrors deps/parson.c:677-686 -/
def parseItem (value : Bytes → Option (Json × Bytes)) (g : Growing Json) (s : Bytes) :
    Option (Growing Json × Bytes) :=
  (value s).bind fun (v, s) => (g.push ARRAY_MAX_CAPACITY v).map fun g => (g, s)

/-- mirrors deps/parson.c:613-662 -/
def parseObjectValue (value : Bytes → Option (Json × Bytes)) (s : Bytes) : Option (Json × Bytes) :=
  (expect 123 s).bind (parseContainer 125 .object (parseMember value))

/-- mirrors deps/parson.c:664-702 -/
def parseArrayValue (value : Bytes → Option (Json × Bytes)) (s : Bytes) : Option (Json × Bytes) :=
  (expect 91 s).bind (parseContainer 93 .array (parseItem value))

/-- mirrors deps/parson.c:588-611 -/
def parseValue : (left : Nat) → Bytes → Option (Json × Bytes)
  | 0, _ => none
  | left + 1, s =>
    let s := skipWhitespaces s
    match s.head? with
    | none => none
    | some c =>
      if c = 123 then parseObjectValue (parseValue left) s
      else if c = 91 then parseArrayValue (parseValue left) s
      else if c = 34 then parseStringValue s
      else if c = 102 ∨ c = 116 then parseBooleanValue s
      else if c = 45 ∨ isdigit c then parseNumberValue s
      else if c = 110 then parseNullValue s
      else none

/-- mirrors deps/parson.c:1003-1008 -/
def jsonParseString (string : Option Bytes) : Option Json :=
  string.bind fun s => (parseValue (MAX_NESTING + 1) s).map Prod.fst

/-! ## What is read is well formed -/

theorem nul_notMem_cstr (mem : Bytes) : 0 ∉ cstr mem := by
  intro h
  simpa using List.mem_takeWhile_imp h

theorem getQuotedString_string {s string rest : Bytes} (h : getQuotedString s = some (string, rest)) :
    0 ∉ string := by
  obtain ⟨rest', -, h⟩ := Option.bind_eq_some_iff.mp h
  obtain ⟨string', hstring, h⟩ := Option.map_eq_some_iff.mp h
  obtain ⟨out, -, rfl⟩ := Option.map_eq_some_iff.mp hstring
  cases h
  exact nul_notMem_cstr out

theorem toDouble_isDouble (x : FloatVal) : IsDouble x.toDouble := by
  cases x with
  | num q =>
    rw [FloatVal.toDouble]
    split
    · trivial
    · rename_i hlt
      have hpos : (0 : ℚ) < 2 ^ 970 := by positivity
      have hq : |q| < 2 ^ DBL_MAX_EXP - 2 ^ 970 := not_le.mp hlt
      exact hq.trans (sub_lt_self _ hpos)
  | inf neg => trivial
  | nan neg => trivial

section Growing
variable {α : Type} {limit : Nat} {g g' : Growing α} {a : α}

/-- The items lie within the capacity, and the capacity within its limit. -/
def Growing.Within (limit : Nat) (g : Growing α) : Prop :=
  g.items.length ≤ g.capacity ∧ g.capacity ≤ limit

theorem push_items (h : g.push limit a = some g') : g'.items = g.items ++ [a] := by
  unfold Growing.push at h
  dsimp only at h
  split_ifs at h
  all_goals
    cases h
    rfl

theorem push_within (hg : g.Within limit) (h : g.push limit a = some g') : g'.Within limit := by
  have hitems := push_items h
  unfold Growing.push at h
  unfold Growing.Within at hg ⊢
  rw [hitems, List.length_append, List.length_singleton]
  dsimp only at h
  split_ifs at h with hroom hlimit
  · cases h
    exact ⟨hroom, hg.2⟩
  · cases h
    have hgrows : g.items.length + 1 ≤ max (g.capacity * 2) STARTING_CAPACITY := by
      unfold STARTING_CAPACITY
      omega
    exact ⟨hgrows, not_lt.mp hlimit⟩

variable {item : Growing α → Bytes → Option (Growing α × Bytes)} {P : Growing α → Prop}

/-- What every item keeps holds behind the loop. -/
theorem parseItems_keeps (hitem : ∀ g s g' s', P g → item g s = some (g', s') → P g')
    {n : Nat} {s s' : Bytes} (hg : P g) (h : parseItems item n g s = some (g', s')) : P g' := by
  induction n generalizing g s with
  | zero =>
    cases s with
    | nil =>
      cases h
      exact hg
    | cons c s => cases h
  | succ n ih =>
    cases s with
    | nil =>
      cases h
      exact hg
    | cons c s =>
      obtain ⟨⟨g₁, s₁⟩, h₁, h⟩ := Option.bind_eq_some_iff.mp h
      have hg₁ := hitem g (c :: s) g₁ s₁ hg h₁
      dsimp only at h
      split at h
      · exact ih hg₁ h
      · cases h
        exact hg₁

/-- A container is empty, or it has the items of its loop. -/
theorem parseContainer_some {closing : UInt8} {make : Nat → List α → Json}
    (hitem : ∀ g s g' s', P g → item g s = some (g', s') → P g') (hempty : P .empty)
    {s rest : Bytes} {v : Json} (h : parseContainer closing make item s = some (v, rest)) :
    ∃ g, P g ∧ v = make g.items.length g.items := by
  unfold parseContainer at h
  dsimp only at h
  split at h
  · cases h
    exact ⟨.empty, hempty, rfl⟩
  · obtain ⟨⟨g, s'⟩, hitems, h⟩ := Option.bind_eq_some_iff.mp h
    obtain ⟨rest', -, h⟩ := Option.bind_eq_some_iff.mp h
    split at h
    · cases h
    · cases h
      exact ⟨g, parseItems_keeps hitem hempty hitems, rfl⟩

end Growing

/-- What a reader of values returns. -/
def ReadsWell (left : Nat) (value : Bytes → Option (Json × Bytes)) : Prop :=
  ∀ s v rest, value s = some (v, rest) → v.WellFormed IsDouble ∧ v.depth < left

section Containers
variable {left : Nat} {value : Bytes → Option (Json × Bytes)}

theorem parseArrayValue_well (hvalue : ReadsWell left value) :
    ReadsWell (left + 1) (parseArrayValue value) := by
  intro s v rest h
  obtain ⟨s', -, h⟩ := Option.bind_eq_some_iff.mp h
  have hkeeps : ∀ (g : Growing Json) s g' s',
      (g.Within ARRAY_MAX_CAPACITY ∧ ∀ v ∈ g.items, v.WellFormed IsDouble ∧ v.depth < left) →
      parseItem value g s = some (g', s') →
      g'.Within ARRAY_MAX_CAPACITY ∧ ∀ v ∈ g'.items, v.WellFormed IsDouble ∧ v.depth < left := by
    intro g s g' s' hg h
    obtain ⟨⟨v, s₁⟩, hv, h⟩ := Option.bind_eq_some_iff.mp h
    obtain ⟨g₁, hpush, h⟩ := Option.map_eq_some_iff.mp h
    cases h
    refine ⟨push_within hg.1 hpush, ?_⟩
    rw [push_items hpush, List.forall_mem_append, List.forall_mem_singleton]
    exact ⟨hg.2, hvalue s v s' hv⟩
  obtain ⟨g, ⟨hwithin, hitems⟩, rfl⟩ := parseContainer_some hkeeps
    ⟨⟨Nat.le_refl _, Nat.zero_le _⟩, fun v hv => absurd hv List.not_mem_nil⟩ h
  refine ⟨.array (hwithin.1.trans hwithin.2) fun v hv => (hitems v hv).1, ?_⟩
  exact Json.depthItems_lt.mpr fun v hv => (hitems v hv).2

/-- Members that can be the members of an object. -/
structure GoodMembers (left : Nat) (g : Growing (Bytes × Json)) : Prop where
  within : g.Within OBJECT_MAX_CAPACITY
  names : (g.items.map Prod.fst).Nodup
  strings : ∀ m ∈ g.items, 0 ∉ m.1
  values : ∀ m ∈ g.items, m.2.WellFormed IsDouble ∧ m.2.depth < left

theorem objectAdd_good {g g' : Growing (Bytes × Json)} {name : Bytes} {v : Json}
    (hg : GoodMembers left g) (hname : 0 ∉ name) (hv : v.WellFormed IsDouble ∧ v.depth < left)
    (h : objectAdd g name v = some g') : GoodMembers left g' := by
  unfold objectAdd at h
  split at h
  · cases h
  · rename_i hfree
    have hitems := push_items h
    refine ⟨push_within hg.within h, ?_, ?_, ?_⟩
    · rw [hitems, List.map_append, List.nodup_append]
      refine ⟨hg.names, List.nodup_singleton name, ?_⟩
      intro n hn n' hn'
      obtain rfl : n' = name := by simpa using hn'
      rintro rfl
      obtain ⟨m, hm, rfl⟩ := List.mem_map.mp hn
      apply hfree
      rw [Option.isSome_iff_ne_none, ne_eq, List.lookup_eq_none_iff]
      exact fun hnone => absurd (hnone m hm) (by simp)
    · rw [hitems, List.forall_mem_append, List.forall_mem_singleton]
      exact ⟨hg.strings, hname⟩
    · rw [hitems, List.forall_mem_append, List.forall_mem_singleton]
      exact ⟨hg.values, hv⟩

theorem parseObjectValue_well (hvalue : ReadsWell left value) :
    ReadsWell (left + 1) (parseObjectValue value) := by
  intro s v rest h
  obtain ⟨s', -, h⟩ := Option.bind_eq_some_iff.mp h
  have hkeeps : ∀ (g : Growing (Bytes × Json)) s g' s', GoodMembers left g →
      parseMember value g s = some (g', s') → GoodMembers left g' := by
    intro g s g' s' hg h
    obtain ⟨⟨name, s₁⟩, hname, h⟩ := Option.bind_eq_some_iff.mp h
    obtain ⟨s₂, -, h⟩ := Option.bind_eq_some_iff.mp h
    obtain ⟨⟨v, s₃⟩, hv, h⟩ := Option.bind_eq_some_iff.mp h
    obtain ⟨g₁, hadd, h⟩ := Option.map_eq_some_iff.mp h
    cases h
    exact objectAdd_good hg (getQuotedString_string hname) (hvalue s₂ v s' hv) hadd
  have hempty : GoodMembers left .empty :=
    ⟨⟨Nat.le_refl _, Nat.zero_le _⟩, List.nodup_nil, fun m hm => absurd hm List.not_mem_nil,
      fun m hm => absurd hm List.not_mem_nil⟩
  obtain ⟨g, hg, rfl⟩ := parseContainer_some hkeeps hempty h
  refine ⟨.object (hg.within.1.trans hg.within.2) hg.names hg.strings
    fun m hm => (hg.values m hm).1, ?_⟩
  exact Json.depthMembers_lt.mpr fun m hm => (hg.values m hm).2

end Containers

theorem parseToken_some {token s rest : Bytes} {v v' : Json}
    (h : parseToken token v s = some (v', rest)) : v' = v := by
  unfold parseToken at h
  split at h
  · cases h
    rfl
  · cases h

/-- **What is read is well formed**, and no deeper than the levels allow. -/
theorem parseValue_wellFormed (left : Nat) : ReadsWell left (parseValue left) := by
  induction left with
  | zero =>
    intro s v rest h
    cases h
  | succ left ih =>
    intro s v rest h
    unfold parseValue at h
    dsimp only at h
    split at h
    · cases h
    · split_ifs at h
      · exact parseObjectValue_well ih _ v rest h
      · exact parseArrayValue_well ih _ v rest h
      · obtain ⟨⟨string, rest'⟩, hstring, h⟩ := Option.map_eq_some_iff.mp h
        cases h
        exact ⟨.string (getQuotedString_string hstring), Nat.succ_pos left⟩
      · unfold parseBooleanValue at h
        rcases Option.or_eq_some_iff.mp h with h | ⟨-, h⟩
        · rw [parseToken_some h]
          exact ⟨.boolean true, Nat.succ_pos left⟩
        · rw [parseToken_some h]
          exact ⟨.boolean false, Nat.succ_pos left⟩
      · unfold parseNumberValue at h
        dsimp only at h
        split at h
        · cases h
          exact ⟨.number (toDouble_isDouble _), Nat.succ_pos left⟩
        · cases h
      · rw [parseToken_some h]
        exact ⟨.null, Nat.succ_pos left⟩

end Rpiweatherd
