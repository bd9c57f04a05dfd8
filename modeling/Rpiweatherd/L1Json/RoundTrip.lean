import Rpiweatherd.L1Json.Serializer
import Rpiweatherd.L1Json.Tokens

/-!
# The text of a value is read as the value

Blanks between the parts are those of the indented form; the one-line form has
none. What parson can add to an array or object while it reads is what the
value had, in the same order.

* `serialize_parse`: what the serializer writes, in either form, is read as the
  same value, `Json.reread`, if no more than `MAX_NESTING` levels lie around its
  innermost part, and as nothing otherwise.
* `parse_sound`: what is read at all is well formed and within the levels, and
  what it is written and read as is from then on read as itself.
-/
namespace Rpiweatherd

/-! ## Items -/

section Items
variable {α X : Type} {item : Growing α → Bytes → Option (Growing α × Bytes)}
  {add : Growing α → X → Option (Growing α)} {txt : X → Bytes} {pretty : Bool} {level : Nat}
  {closing : UInt8} {xs : List X} {rest : Bytes}

/-- A text that starts a value or a name. -/
def StartsItem (t : Bytes) : Prop :=
  ∃ c s, t = c :: s ∧ isspace c = false ∧ c ≠ 93 ∧ c ≠ 125

theorem skip_startsItem {t : Bytes} (h : StartsItem t) (s : Bytes) :
    skipWhitespaces (t ++ s) = t ++ s := by
  obtain ⟨c, t, rfl, hc, -⟩ := h
  exact skipWhitespaces_word hc _

/-- What stands behind an item: a comma and the next items, or the end. -/
def behindItem (pretty : Bool) (level : Nat) (closing : UInt8) (rest : Bytes) (ts : List Bytes) :
    Bytes :=
  (if ts.isEmpty then [] else [44]) ++ (newlineText pretty ++
    (itemsText pretty level ts ++ (indentText pretty level ++ closing :: rest)))

theorem endsValue_behindItem (hclosing : closing = 93 ∨ closing = 125) (ts : List Bytes) :
    EndsValue (behindItem pretty level closing rest ts) := by
  cases ts with
  | cons t ts => exact endsValue_cons (.inl rfl) _
  | nil =>
    cases pretty with
    | true => exact endsValue_cons (.inr (.inr (.inr rfl))) _
    | false =>
      rcases hclosing with rfl | rfl
      · exact endsValue_cons (.inr (.inl rfl)) rest
      · exact endsValue_cons (.inr (.inr (.inl rfl))) rest

theorem expect_behindItem_nil (pretty : Bool) (level : Nat) (rest : Bytes)
    (hclosing : closing = 93 ∨ closing = 125) :
    skipWhitespaces (behindItem pretty level closing rest []) = closing :: rest ∧
      expect 44 (closing :: rest) = none := by
  have hc : isspace closing = false ∧ closing ≠ 44 := by rcases hclosing with rfl | rfl <;> decide
  refine ⟨?_, expect_ne hc.2 rest⟩
  show skipWhitespaces (newlineText pretty ++ (indentText pretty level ++ closing :: rest)) = _
  rw [skipWhitespaces_blank (newlineText_blank pretty),
    skipWhitespaces_blank (indentText_blank pretty level), skipWhitespaces_word hc.1]

theorem expect_behindItem_cons (t : Bytes) (ts : List Bytes) :
    expect 44 (skipWhitespaces (behindItem pretty level closing rest (t :: ts))) =
      some (newlineText pretty ++ (itemsText pretty level (t :: ts) ++
        (indentText pretty level ++ closing :: rest))) := by
  have h44 : isspace 44 = false := by decide
  show expect 44 (skipWhitespaces (44 :: _)) = _
  rw [skipWhitespaces_word h44, expect_self]
  rfl

theorem skip_itemsText {t : Bytes} (h : StartsItem t) (ts : List Bytes) :
    skipWhitespaces (itemsText pretty level (t :: ts) ++ (indentText pretty level ++
      closing :: rest)) = t ++ behindItem pretty level closing rest ts := by
  unfold behindItem
  rw [itemsText]
  simp only [List.append_assoc]
  rw [skipWhitespaces_blank (indentText_blank pretty (level + 1)), skip_startsItem h]

/-- The loop adds one item after the other. -/
theorem parseItems_text (pretty : Bool) (level : Nat) (rest : Bytes)
    (hclosing : closing = 93 ∨ closing = 125)
    (hitem : ∀ x ∈ xs, ∀ g r, EndsValue r → item g (txt x ++ r) = (add g x).map fun g => (g, r))
    (hstart : ∀ x ∈ xs, StartsItem (txt x)) (hne : xs ≠ []) {n : Nat} (hn : xs.length ≤ n)
    (g : Growing α) :
    parseItems item n g (skipWhitespaces (itemsText pretty level (xs.map txt) ++
      (indentText pretty level ++ closing :: rest))) =
        (xs.foldlM add g).map fun g => (g, closing :: rest) := by
  induction xs generalizing n g with
  | nil => exact absurd rfl hne
  | cons x xs ih =>
    obtain ⟨m, rfl⟩ : ∃ m, n = m + 1 := ⟨n - 1, by simp at hn; omega⟩
    obtain ⟨hx, hxs⟩ := List.forall_mem_cons.mp hitem
    obtain ⟨hstartx, hstartxs⟩ := List.forall_mem_cons.mp hstart
    have hread : item g (txt x ++ behindItem pretty level closing rest (xs.map txt)) =
        (add g x).map fun g => (g, behindItem pretty level closing rest (xs.map txt)) :=
      hx g _ (endsValue_behindItem hclosing _)
    have hcons : ∃ c t, txt x ++ behindItem pretty level closing rest (xs.map txt) = c :: t := by
      obtain ⟨c, t, ht, -⟩ := hstartx
      exact ⟨c, _, by rw [ht, List.cons_append]⟩
    rw [List.map_cons, skip_itemsText hstartx, List.foldlM_cons]
    obtain ⟨c, t, ht⟩ := hcons
    rw [ht] at hread ⊢
    rw [parseItems, hread]
    · cases add g x with
      | none => rfl
      | some g' =>
        cases xs with
        | nil =>
          obtain ⟨hskip, hexpect⟩ := expect_behindItem_nil pretty level rest hclosing
          simp only [Option.map_some, Option.bind_some, List.map_nil, hskip, hexpect]
          rfl
        | cons y ys =>
          simp only [Option.map_some, Option.bind_some, List.map_cons, expect_behindItem_cons]
          rw [skipWhitespaces_blank (newlineText_blank pretty)]
          exact ih hxs hstartxs (List.cons_ne_nil y ys) (by simpa using hn) g'
    · exact List.cons_ne_nil c t

theorem itemsText_length (pretty : Bool) (level : Nat) {ts : List Bytes} (h : ∀ t ∈ ts, StartsItem t) :
    ts.length ≤ (itemsText pretty level ts).length := by
  induction ts with
  | nil => exact Nat.zero_le _
  | cons t ts ih =>
    obtain ⟨⟨c, s, rfl, -⟩, hts⟩ := List.forall_mem_cons.mp h
    have := ih hts
    simp only [itemsText, List.length_append, List.length_cons]
    omega

/-- Behind its opening bracket a container is read as the items that can be
added. -/
theorem parseContainer_text (make : Nat → List α → Json) (hclosing : closing = 93 ∨ closing = 125)
    (hitem : ∀ x ∈ xs, ∀ g r, EndsValue r → item g (txt x ++ r) = (add g x).map fun g => (g, r))
    (hstart : ∀ x ∈ xs, StartsItem (txt x))
    (hcount : ∀ g, xs.foldlM add .empty = some g → g.items.length = xs.length) {opening : UInt8} :
    (expect opening (containerText opening closing pretty level (xs.map txt) ++ rest)).bind
      (parseContainer closing make item) =
        (xs.foldlM add .empty).map fun g => (make g.items.length g.items, rest) := by
  have hc : isspace closing = false := by rcases hclosing with rfl | rfl <;> decide
  unfold containerText
  rw [List.cons_append, expect_self, Option.bind_some]
  simp only [List.append_assoc, List.singleton_append]
  cases xs with
  | nil =>
    show parseContainer closing make item (closing :: rest) = _
    unfold parseContainer
    simp only [skipWhitespaces_word hc, expect_self]
    rfl
  | cons x xs =>
    have hx := hstart x (List.mem_cons_self ..)
    have hblank := skipWhitespaces_blank (newlineText_blank pretty)
      (itemsText pretty level ((x :: xs).map txt) ++ (indentText pretty level ++ closing :: rest))
    have hfuel : (x :: xs).length ≤ (txt x ++ behindItem pretty level closing rest
        (xs.map txt)).length := by
      have hstarts : ∀ t ∈ xs.map txt, StartsItem t :=
        List.forall_mem_map.mpr fun y hy => hstart y (List.mem_cons_of_mem x hy)
      have hlen := itemsText_length pretty level hstarts
      obtain ⟨c, t, ht, -⟩ := hx
      simp only [behindItem, ht, List.length_append, List.length_cons, List.length_map] at hlen ⊢
      omega
    have hloop := parseItems_text pretty level rest hclosing hitem hstart (List.cons_ne_nil x xs)
      hfuel .empty
    have hopen : expect closing (txt x ++ behindItem pretty level closing rest (xs.map txt)) = none := by
      obtain ⟨c, t, ht, -, h93, h125⟩ := hx
      rw [ht, List.cons_append]
      rcases hclosing with rfl | rfl
      · exact expect_ne h93 _
      · exact expect_ne h125 _
    rw [List.map_cons, skip_itemsText hx] at hloop hblank
    unfold parseContainer
    simp only [List.map_cons, List.isEmpty_cons, Bool.false_eq_true, if_false, hblank, hopen, hloop]
    cases hfold : (x :: xs).foldlM add .empty with
    | none => rfl
    | some g =>
      have hg := hcount g hfold
      simp only [Option.map_some, Option.bind_some, skipWhitespaces_word hc, expect_self, hg]
      rfl

end Items

/-! ## Adding the items -/

section Adding
variable {α X : Type} {limit : Nat} {add : Growing α → X → Option (Growing α)} {out : X → α}

/-- The capacities are those of doubling. -/
def Growing.Doubled (g : Growing α) : Prop :=
  g.items.length ≤ g.capacity ∧ (g.capacity = 0 ∨ ∃ k, g.capacity = STARTING_CAPACITY * 2 ^ k)

theorem push_room {K : Nat} (hlimit : limit = STARTING_CAPACITY * 2 ^ K) {g : Growing α}
    (hg : g.Doubled) (hroom : g.items.length < limit) (a : α) :
    ∃ g', g.push limit a = some g' ∧ g'.Doubled := by
  obtain ⟨hle, hcap⟩ := hg
  unfold Growing.push
  by_cases hfits : g.items.length < g.capacity
  · rw [if_pos hfits]
    refine ⟨_, rfl, ?_, hcap⟩
    rw [List.length_append, List.length_singleton]
    exact hfits
  · have hgrown : ∃ k, max (g.capacity * 2) STARTING_CAPACITY = STARTING_CAPACITY * 2 ^ k ∧ k ≤ K := by
      rcases hcap with h0 | ⟨k, hk⟩
      · exact ⟨0, by rw [h0]; rfl, Nat.zero_le K⟩
      · refine ⟨k + 1, ?_, ?_⟩
        · have hpos := Nat.two_pow_pos k
          rw [hk, Nat.pow_succ]
          unfold STARTING_CAPACITY
          omega
        · have hpow : 2 ^ k < 2 ^ K := by
            unfold STARTING_CAPACITY at hk hlimit
            omega
          exact (Nat.pow_lt_pow_iff_right (by decide)).mp hpow
    obtain ⟨k, hk, hkK⟩ := hgrown
    have hfit : ¬ limit < max (g.capacity * 2) STARTING_CAPACITY := by
      rw [hk, hlimit]
      exact Nat.not_lt.mpr (Nat.mul_le_mul_left _ (Nat.pow_le_pow_right (by decide) hkK))
    rw [if_neg hfits]
    simp only [if_neg hfit]
    refine ⟨_, rfl, ?_, .inr ⟨k, hk⟩⟩
    show (g.items ++ [a]).length ≤ max (g.capacity * 2) STARTING_CAPACITY
    rw [List.length_append, List.length_singleton]
    unfold STARTING_CAPACITY
    omega

/-- Items that can be added are added, in their order. -/
theorem foldlM_push {K : Nat} (hlimit : limit = STARTING_CAPACITY * 2 ^ K) {xs : List X}
    (hadd : ∀ pre x post, xs = pre ++ x :: post → ∀ g : Growing α, g.items = pre.map out →
      add g x = g.push limit (out x)) (hroom : xs.length ≤ limit) :
    ∃ g, xs.foldlM add .empty = some g ∧ g.items = xs.map out := by
  have hfrom : ∀ post pre (g : Growing α), xs = pre ++ post → g.items = pre.map out → g.Doubled →
      ∃ g', post.foldlM add g = some g' ∧ g'.items = xs.map out := by
    intro post
    induction post with
    | nil =>
      intro pre g hxs hg _
      rw [List.append_nil] at hxs
      exact ⟨g, rfl, by rw [hg, hxs]⟩
    | cons x post ih =>
      intro pre g hxs hg hdoubled
      have hlen : g.items.length < limit := by
        rw [hg, List.length_map]
        rw [hxs, List.length_append, List.length_cons] at hroom
        omega
      obtain ⟨g', hpush, hdoubled'⟩ := push_room hlimit hdoubled hlen (out x)
      have hg' : g'.items = (pre ++ [x]).map out := by
        rw [push_items hpush, hg, List.map_append, List.map_singleton]
      obtain ⟨g'', hfold, hitems⟩ := ih (pre ++ [x]) g' (by rw [hxs]; simp) hg' hdoubled'
      refine ⟨g'', ?_, hitems⟩
      rw [List.foldlM_cons, hadd pre x post hxs g hg, hpush]
      exact hfold
  exact hfrom xs [] .empty rfl rfl ⟨Nat.le_refl _, .inl rfl⟩

/-- One item that cannot be added is the end. -/
theorem foldlM_none {xs : List X} {x : X} (hx : x ∈ xs) (hnone : ∀ g, add g x = none)
    (g : Growing α) : xs.foldlM add g = none := by
  induction xs generalizing g with
  | nil => cases hx
  | cons y ys ih =>
    rw [List.foldlM_cons]
    rcases List.mem_cons.mp hx with rfl | hx
    · rw [hnone g]
      rfl
    · cases add g y with
      | none => rfl
      | some g' => exact ih hx g'

end Adding

/-! ## Values -/

theorem startsItem_cons {c : UInt8} (h : isspace c = false ∧ c ≠ 93 ∧ c ≠ 125) (s : Bytes) :
    StartsItem (c :: s) := ⟨c, s, rfl, h⟩

theorem startsItem_append {t : Bytes} (h : StartsItem t) (s : Bytes) : StartsItem (t ++ s) := by
  obtain ⟨c, t, rfl, hc⟩ := h
  exact startsItem_cons hc _

theorem startsItem_memberText (pretty : Bool) (name value : Bytes) :
    StartsItem (memberText pretty name value) :=
  startsItem_append (startsItem_cons (by decide) _) _

/-- A numeral starts with a sign or a digit. -/
theorem decimal_start {d : Decimal} (hsign : d.negative ≠ some false) (hne : d.whole ≠ []) :
    ∃ c s, d.text = c :: s ∧ (c = 45 ∨ isdigit c = true) := by
  obtain ⟨c, cs, hcs⟩ := List.exists_cons_of_ne_nil hne
  unfold Decimal.text Decimal.signText
  rw [hcs]
  cases hd : d.negative with
  | none => exact ⟨c, _, rfl, .inr (d.whole_digits c (by rw [hcs]; exact List.mem_cons_self ..))⟩
  | some neg =>
    cases neg with
    | false => exact absurd hd hsign
    | true => exact ⟨45, _, rfl, .inl rfl⟩

theorem numberText_start {x : FloatVal} (h : Readable x) :
    ∃ c s, numberText x = c :: s ∧ (c = 45 ∨ isdigit c = true) := by
  cases x with
  | num q =>
    have hsign : ∀ p : Prop, [Decidable p] → (if p then some true else none) ≠ some false := by
      intro p _
      split <;> simp
    rw [numberText]
    split
    · rw [← intDecimal_text]
      exact decimal_start (hsign _) (printInt_ne_nil _)
    · rw [← fixedDecimal_text]
      exact decimal_start (hsign _) (printInt_ne_nil _)
  | inf neg =>
    obtain rfl : neg = true := h
    exact ⟨45, _, rfl, .inl rfl⟩
  | nan neg =>
    obtain rfl : neg = true := h
    exact ⟨45, _, rfl, .inl rfl⟩

theorem startsItem_text {v : Json} (h : v.WellFormed Readable) (pretty : Bool) (level : Nat) :
    StartsItem (v.text pretty level) := by
  cases h with
  | null => exact startsItem_cons (by decide) _
  | boolean b => cases b <;> exact startsItem_cons (by decide) _
  | number hx =>
    obtain ⟨c, s, htext, hc⟩ := numberText_start hx
    have hbyte : ∀ c : UInt8, c = 45 ∨ isdigit c = true → isspace c = false ∧ c ≠ 93 ∧ c ≠ 125 := by
      decide +kernel
    exact ⟨c, s, htext, hbyte c hc⟩
  | string _ => exact startsItem_cons (by decide) _
  | array _ _ => exact startsItem_cons (by decide) _
  | object _ _ _ _ => exact startsItem_cons (by decide) _

theorem parseValue_start {s : Bytes} {c : UInt8} {t : Bytes} (hs : s = c :: t)
    (hc : isspace c = false) (left : Nat) :
    parseValue (left + 1) s =
      if c = 123 then parseObjectValue (parseValue left) s
      else if c = 91 then parseArrayValue (parseValue left) s
      else if c = 34 then parseStringValue s
      else if c = 102 ∨ c = 116 then parseBooleanValue s
      else if c = 45 ∨ isdigit c then parseNumberValue s
      else if c = 110 then parseNullValue s
      else none := by
  rw [hs, parseValue, skipWhitespaces_word hc]
  rfl

section Values
variable {pretty : Bool} {level left : Nat} {rest : Bytes}

theorem parseValue_array (ts : List Bytes) :
    parseValue (left + 1) (containerText 91 93 pretty level ts ++ rest) =
      parseArrayValue (parseValue left) (containerText 91 93 pretty level ts ++ rest) := by
  have h := parseValue_start (s := containerText 91 93 pretty level ts ++ rest) (c := 91) rfl
    (by decide) left
  rwa [if_neg (by decide), if_pos rfl] at h

theorem parseValue_object (ts : List Bytes) :
    parseValue (left + 1) (containerText 123 125 pretty level ts ++ rest) =
      parseObjectValue (parseValue left) (containerText 123 125 pretty level ts ++ rest) := by
  have h := parseValue_start (s := containerText 123 125 pretty level ts ++ rest) (c := 123) rfl
    (by decide) left
  rwa [if_pos rfl] at h

/-- The items whose levels fit. -/
def addItem (left : Nat) (g : Growing Json) (v : Json) : Option (Growing Json) :=
  if v.depth < left then g.push ARRAY_MAX_CAPACITY v.reread else none

def addMember (left : Nat) (g : Growing (Bytes × Json)) (m : Bytes × Json) :
    Option (Growing (Bytes × Json)) :=
  if m.2.depth < left then objectAdd g m.1 m.2.reread else none

/-- A value is read, with anything behind it that can follow it. -/
def ReadsBack (pretty : Bool) (v : Json) : Prop :=
  ∀ level left rest, EndsValue rest → parseValue left (v.text pretty level ++ rest) =
    if v.depth < left then some (v.reread, rest) else none

theorem parseItem_text {v : Json} (h : ReadsBack pretty v) (g : Growing Json)
    (hrest : EndsValue rest) :
    parseItem (parseValue left) g (v.text pretty level ++ rest) =
      (addItem left g v).map fun g => (g, rest) := by
  unfold parseItem addItem
  rw [h level left rest hrest]
  split
  · rfl
  · rfl

theorem parseValue_blank {w : Bytes} (h : ∀ b ∈ w, isspace b = true) (left : Nat) (s : Bytes) :
    parseValue left (w ++ s) = parseValue left s := by
  cases left with
  | zero => rfl
  | succ left => rw [parseValue, parseValue, skipWhitespaces_blank h]

theorem parseMember_text {m : Bytes × Json} (hname : 0 ∉ m.1) (h : ReadsBack pretty m.2)
    (g : Growing (Bytes × Json)) (hrest : EndsValue rest) :
    parseMember (parseValue left) g (memberText pretty m.1 (m.2.text pretty level) ++ rest) =
      (addMember left g m).map fun g => (g, rest) := by
  have hblank : ∀ b ∈ (if pretty then [32] else [] : Bytes), isspace b = true := by
    cases pretty <;> decide
  have hcolon : isspace 58 = false := by decide
  unfold parseMember memberText addMember
  simp only [List.append_assoc, List.cons_append, getQuotedString_text hname, Option.bind_some,
    skipWhitespaces_word hcolon, expect_self, parseValue_blank hblank, h level left rest hrest]
  split
  · rfl
  · rfl

/-- A container whose items are added, if the levels of all of them fit. -/
theorem parseContainer_reads {α X : Type} {item : Growing α → Bytes → Option (Growing α × Bytes)}
    {add : Growing α → X → Option (Growing α)} {txt : X → Bytes} {out : X → α} {value : X → Json}
    {opening closing : UInt8} {xs : List X} {limit K : Nat} (make : Nat → List α → Json)
    (hclosing : closing = 93 ∨ closing = 125) (hlimit : limit = STARTING_CAPACITY * 2 ^ K)
    (hcount : xs.length ≤ limit)
    (hitem : ∀ x ∈ xs, ∀ g r, EndsValue r → item g (txt x ++ r) = (add g x).map fun g => (g, r))
    (hstart : ∀ x ∈ xs, StartsItem (txt x))
    (hadd : ∀ pre x post, xs = pre ++ x :: post → ∀ g : Growing α, g.items = pre.map out →
      (value x).depth < left → add g x = g.push limit (out x))
    (hdeep : ∀ g x, ¬ (value x).depth < left → add g x = none) :
    (expect opening (containerText opening closing pretty level (xs.map txt) ++ rest)).bind
      (parseContainer closing make item) =
        if ∀ x ∈ xs, (value x).depth < left then some (make xs.length (xs.map out), rest)
        else none := by
  by_cases hall : ∀ x ∈ xs, (value x).depth < left
  · obtain ⟨g, hfold, hg⟩ := foldlM_push hlimit (fun pre x post hxs g hitems =>
      hadd pre x post hxs g hitems (hall x (by rw [hxs]; simp))) hcount
    have hlen : g.items.length = xs.length := by rw [hg, List.length_map]
    rw [if_pos hall, parseContainer_text make hclosing hitem hstart, hfold]
    · rw [Option.map_some, hlen, hg]
    · intro g' hg'
      rw [hfold] at hg'
      cases hg'
      exact hlen
  · obtain ⟨x, hx, hdepth⟩ : ∃ x ∈ xs, ¬ (value x).depth < left := by
      simpa using hall
    have hnone := foldlM_none hx (fun g => hdeep g x hdepth) .empty
    rw [if_neg hall, parseContainer_text make hclosing hitem hstart, hnone]
    · rfl
    · intro g hg
      rw [hnone] at hg
      cases hg

theorem readsBack_array {capacity : Nat} {items : List Json}
    (hcount : items.length ≤ ARRAY_MAX_CAPACITY) (hitems : ∀ v ∈ items, v.WellFormed Readable)
    (ih : ∀ v ∈ items, ReadsBack pretty v) : ReadsBack pretty (.array capacity items) := by
  intro level left rest hrest
  cases left with
  | zero => rfl
  | succ left =>
    rw [Json.depth, Json.reread, Json.text, Json.itemTexts_eq, Json.rereadItems_eq,
      parseValue_array]
    simp only [Json.depthItems_lt]
    exact parseContainer_reads .array (.inl rfl) (K := 13) rfl hcount
      (fun v hv g r hr => parseItem_text (ih v hv) g hr)
      (fun v hv => startsItem_text (hitems v hv) pretty (level + 1))
      (fun pre v post _ g _ hdepth => if_pos hdepth) (fun g v hdepth => if_neg hdepth)

theorem readsBack_object {capacity : Nat} {members : List (Bytes × Json)}
    (hcount : members.length ≤ OBJECT_MAX_CAPACITY) (hnames : (members.map Prod.fst).Nodup)
    (hstrings : ∀ m ∈ members, 0 ∉ m.1)
    (ih : ∀ m ∈ members, ReadsBack pretty m.2) : ReadsBack pretty (.object capacity members) := by
  intro level left rest hrest
  cases left with
  | zero => rfl
  | succ left =>
    rw [Json.depth, Json.reread, Json.text, Json.memberTexts_eq, Json.rereadMembers_eq,
      parseValue_object]
    simp only [Json.depthMembers_lt]
    have hadd : ∀ pre m post, members = pre ++ m :: post → ∀ g : Growing (Bytes × Json),
        g.items = pre.map (fun m => (m.1, m.2.reread)) → m.2.depth < left →
        addMember left g m = g.push OBJECT_MAX_CAPACITY (m.1, m.2.reread) := by
      intro pre m post hmembers g hg hdepth
      have hfresh : g.items.lookup m.1 = none := by
        rw [List.lookup_eq_none_iff, hg]
        intro p hp
        obtain ⟨m', hm', rfl⟩ := List.mem_map.mp hp
        rw [hmembers, List.map_append, List.map_cons, List.nodup_append] at hnames
        have hne := hnames.2.2 m'.1 (List.mem_map_of_mem hm') m.1 (List.mem_cons_self ..)
        simpa using Ne.symm hne
      unfold addMember objectAdd
      rw [if_pos hdepth, hfresh]
      rfl
    exact parseContainer_reads .object (.inr rfl) (K := 6) rfl hcount
      (fun m hm g r hr => parseMember_text (hstrings m hm) (ih m hm) g hr)
      (fun m _ => startsItem_memberText pretty m.1 _)
      hadd (fun g m hdepth => if_neg hdepth)

/-- **The text of a value is read as the value**, if its levels fit. -/
theorem parseValue_text {v : Json} (h : v.WellFormed Readable) (pretty : Bool) :
    ReadsBack pretty v := by
  induction h with
  | null =>
    intro level left rest _
    cases left <;> rfl
  | boolean b =>
    intro level left rest _
    cases left <;> cases b <;> rfl
  | @number x hx =>
    intro level left rest hrest
    cases left with
    | zero => rfl
    | succ left =>
      obtain ⟨c, s, htext, hc⟩ := numberText_start hx
      have hbyte : ∀ c : UInt8, c = 45 ∨ isdigit c = true → isspace c = false ∧ c ≠ 123 ∧ c ≠ 91 ∧
          c ≠ 34 ∧ ¬ (c = 102 ∨ c = 116) := by decide +kernel
      obtain ⟨hspace, h123, h91, h34, hword⟩ := hbyte c hc
      have hs : numberText x ++ rest = c :: (s ++ rest) := by rw [htext, List.cons_append]
      rw [Json.text, parseValue_start hs hspace, if_neg h123, if_neg h91, if_neg h34, if_neg hword,
        if_pos hc, parseNumberValue_text hx hrest]
      rfl
  | @string s hs =>
    intro level left rest _
    cases left with
    | zero => rfl
    | succ left =>
      have hquote : isspace 34 = false := by decide
      rw [Json.text]
      refine (parseValue_start (c := 34) rfl hquote left).trans ?_
      show parseStringValue (stringText s ++ rest) = _
      rw [parseStringValue, getQuotedString_text hs]
      rfl
  | array hcount hitems ih => exact readsBack_array hcount hitems ih
  | object hcount hnames hstrings _ ih => exact readsBack_object hcount hnames hstrings ih

end Values

/-- Both forms of the text give the same value. -/
theorem parse_text {v : Json} (h : v.WellFormed Readable) (pretty : Bool) :
    jsonParseString (some (v.text pretty 0)) =
      if v.depth ≤ MAX_NESTING then some v.reread else none := by
  have hread := parseValue_text h pretty 0 (MAX_NESTING + 1) [] endsValue_nil
  rw [List.append_nil] at hread
  rw [jsonParseString, Option.bind_some, hread]
  simp only [Nat.lt_succ_iff]
  split <;> rfl

/-! ## The text as a C string -/

theorem isDouble_of_readable {x : FloatVal} (h : Readable x) : IsDouble x := by
  cases x with
  | num q =>
    have hnear := (abs_le.mp (fixedValue_near 6 q))
    have hsize := abs_lt.mp (show |fixedValue 6 q| < DBL_OVERFLOW from h)
    have hslack : DBL_OVERFLOW + 1 ≤ 2 ^ DBL_MAX_EXP := by
      have hpow : (1 : ℚ) ≤ 2 ^ 970 := one_le_pow₀ (by norm_num)
      exact (add_le_add_left (sub_le_sub_left hpow _) 1).trans_eq (sub_add_cancel _ 1)
    show |q| < 2 ^ DBL_MAX_EXP
    rw [abs_lt]
    norm_num at hnear
    constructor <;> linarith
  | inf neg => trivial
  | nan neg => trivial

theorem nul_notMem_escaped {c : UInt8} (hc : c ≠ 0) : 0 ∉ escaped c := by
  revert hc
  revert c
  decide +kernel

theorem nul_notMem_stringText {s : Bytes} (h : 0 ∉ s) : 0 ∉ stringText s := by
  unfold stringText
  rw [List.mem_cons, List.mem_append, List.mem_flatMap, not_or, not_or]
  refine ⟨by decide, ?_, by decide⟩
  rintro ⟨c, hc, h0⟩
  exact nul_notMem_escaped (fun he => h (he ▸ hc)) h0

theorem nul_notMem_decimal (d : Decimal) : 0 ∉ d.text := by
  intro h
  rcases List.mem_append.mp h with h | h
  · rcases Decimal.mem_signText h with h | h <;> cases h
  · rcases List.mem_append.mp h with h | h
    · cases d.whole_digits 0 h
    · rcases Decimal.mem_fractionText h with h | h <;> cases h

theorem nul_notMem_numberText (x : FloatVal) : 0 ∉ numberText x := by
  cases x with
  | num q =>
    rw [numberText]
    split
    · rw [← intDecimal_text]
      exact nul_notMem_decimal _
    · rw [← fixedDecimal_text]
      exact nul_notMem_decimal _
  | inf neg => cases neg <;> decide
  | nan neg => cases neg <;> decide

theorem nul_notMem_blank {w : Bytes} (h : ∀ b ∈ w, isspace b = true) : 0 ∉ w :=
  fun h0 => absurd (h 0 h0) (by decide)

theorem nul_notMem_itemsText (pretty : Bool) (level : Nat) {ts : List Bytes} (h : ∀ t ∈ ts, 0 ∉ t) :
    0 ∉ itemsText pretty level ts := by
  induction ts with
  | nil => exact List.not_mem_nil
  | cons t ts ih =>
    obtain ⟨ht, hts⟩ := List.forall_mem_cons.mp h
    have hcomma : 0 ∉ (if ts.isEmpty then [] else [44] : Bytes) := by split <;> decide
    simp only [itemsText, List.mem_append, not_or]
    exact ⟨nul_notMem_blank (indentText_blank pretty _), ht, hcomma,
      nul_notMem_blank (newlineText_blank pretty), ih hts⟩

theorem nul_notMem_containerText {opening closing : UInt8} (hopening : opening ≠ 0)
    (hclosing : closing ≠ 0) (pretty : Bool) (level : Nat) {ts : List Bytes}
    (h : ∀ t ∈ ts, 0 ∉ t) : 0 ∉ containerText opening closing pretty level ts := by
  have hnewline : 0 ∉ (if ts.isEmpty then [] else newlineText pretty) := by
    split
    · exact List.not_mem_nil
    · exact nul_notMem_blank (newlineText_blank pretty)
  have hindent : 0 ∉ (if ts.isEmpty then [] else indentText pretty level) := by
    split
    · exact List.not_mem_nil
    · exact nul_notMem_blank (indentText_blank pretty level)
  simp only [containerText, List.mem_cons, List.mem_append, List.not_mem_nil, or_false, not_or]
  exact ⟨hopening.symm, hnewline, nul_notMem_itemsText pretty level h, hindent, hclosing.symm⟩

/-- The terminator behind the text is the first one. -/
theorem nul_notMem_text {N : FloatVal → Prop} {v : Json} (h : v.WellFormed N) (pretty : Bool)
    (level : Nat) : 0 ∉ v.text pretty level := by
  induction h generalizing level with
  | null =>
    show 0 ∉ ascii "null"
    decide
  | boolean b =>
    show 0 ∉ if b then ascii "true" else ascii "false"
    cases b <;> decide
  | number _ => exact nul_notMem_numberText _
  | string hs => exact nul_notMem_stringText hs
  | array _ _ ih =>
    rw [Json.text, Json.itemTexts_eq]
    refine nul_notMem_containerText (by decide) (by decide) pretty level ?_
    exact List.forall_mem_map.mpr fun v hv => ih v hv (level + 1)
  | object _ _ hstrings _ ih =>
    rw [Json.text, Json.memberTexts_eq]
    refine nul_notMem_containerText (by decide) (by decide) pretty level ?_
    refine List.forall_mem_map.mpr fun m hm => ?_
    have hblank : 0 ∉ (if pretty then [32] else [] : Bytes) := by cases pretty <;> decide
    simp only [memberText, List.mem_append, List.mem_cons, not_or]
    exact ⟨nul_notMem_stringText (hstrings m hm), by decide, hblank, ih m hm (level + 1)⟩

theorem cstr_append_nul {s : Bytes} (h : 0 ∉ s) : cstr (s ++ [0]) = s := by
  unfold cstr
  rw [List.takeWhile_append_of_pos]
  · simp
  · intro b hb
    simpa using fun he : b = 0 => h (he ▸ hb)

/-- **Written and read.** A value whose text fits the counts is written to a
block that, read as a string, gives the value back: its numbers to six
decimals, and only if its levels are within the limit of the parser. -/
theorem serialize_parse (cast : NumCast) (pretty : Bool)
    (malloc : (size : Nat) → Option {block : Bytes // block.length = size}) {v : Json}
    (h : v.WellFormed Readable) (hfits : (v.text pretty 0).length < INT_MAX.toNat) :
    ∃ written, jsonSerializeToString cast pretty malloc (some v) = .ok written ∧
      (written.isSome = (malloc ((v.text pretty 0).length + 1)).isSome) ∧
      ∀ block ∈ written, jsonParseString (some (cstr block)) =
        if v.depth ≤ MAX_NESTING then some v.reread else none := by
  have hwrite := jsonSerializeToString_eq cast pretty malloc (h.mono fun x => isDouble_of_readable)
  rw [if_pos hfits] at hwrite
  refine ⟨_, hwrite, Option.isSome_map, ?_⟩
  intro block hblock
  obtain ⟨-, -, rfl⟩ := Option.map_eq_some_iff.mp hblock
  rw [cstr_append_nul (nul_notMem_text h pretty 0), parse_text h]

/-- A reading of the cellar, with a temperature that six decimals do not hold. -/
def cellarValue : Json :=
  .object STARTING_CAPACITY [(ascii "location", .string (ascii "the \"cellar\"")),
    (ascii "temp", .array STARTING_CAPACITY [.number (.num (34 / 3)), .null, .boolean true])]

theorem cellarValue_wellFormed : cellarValue.WellFormed Readable := by
  have hsmall : (12 : ℚ) ≤ DBL_OVERFLOW := by
    have hpow : (12 : ℚ) ≤ 2 ^ 970 := by
      exact (show (12 : ℚ) ≤ 2 ^ 4 by norm_num).trans (pow_le_pow_right₀ (by norm_num) (by decide))
    have htwice : (2 : ℚ) ^ 970 + 2 ^ 970 ≤ 2 ^ DBL_MAX_EXP := by
      rw [← two_mul, ← pow_succ']
      exact pow_le_pow_right₀ (by norm_num) (by decide)
    exact hpow.trans (le_sub_iff_add_le.mpr htwice)
  have hfixed : |fixedValue 6 (34 / 3)| < 12 := by decide +kernel
  have htemp : Json.WellFormed Readable (.array STARTING_CAPACITY
      [.number (.num (34 / 3)), .null, .boolean true]) := by
    refine .array (by decide) ?_
    simp only [List.forall_mem_cons]
    exact ⟨.number (hfixed.trans_le hsmall), .null, .boolean true, List.forall_mem_nil _⟩
  refine .object (by decide) (by decide +kernel) (by decide +kernel) ?_
  simp only [List.forall_mem_cons]
  exact ⟨.string (by decide +kernel), htemp, List.forall_mem_nil _⟩

/-- It comes back with the temperature to six decimals. -/
theorem cellarValue_read :
    ∃ written, jsonSerializeToString .zeroing false (fun n => some ⟨List.replicate n 0, by simp⟩)
        (some cellarValue) = .ok written ∧ written.isSome = true ∧
      ∀ block ∈ written, jsonParseString (some (cstr block)) =
        some (.object 2 [(ascii "location", .string (ascii "the \"cellar\"")),
          (ascii "temp", .array 3 [.number (.num (11333333 / 1000000)), .null, .boolean true])]) := by
  have hdepth : cellarValue.depth ≤ MAX_NESTING := by decide +kernel
  obtain ⟨written, hwritten, hsome, hread⟩ := serialize_parse .zeroing false
    (fun n => some ⟨List.replicate n 0, by simp⟩) cellarValue_wellFormed (by decide +kernel)
  refine ⟨written, hwritten, hsome, fun block hblock => ?_⟩
  have hfixed : fixedValue 6 (34 / 3) = 11333333 / 1000000 := by decide +kernel
  rw [hread block hblock, if_pos hdepth, ← hfixed]
  rfl

/-! ## Texts of others -/

theorem readable_rereadNumber {x : FloatVal} (h : Readable x) : Readable (Json.rereadNumber x) := by
  cases x with
  | num q =>
    show |fixedValue 6 (fixedValue 6 q)| < DBL_OVERFLOW
    rw [fixedValue_idem]
    exact h
  | inf neg => exact h
  | nan neg => exact h

/-- What was written and read is a value of the same kind, and is kept. -/
structure Rewritten (v : Json) : Prop where
  wellFormed : v.reread.WellFormed Readable
  depth : v.reread.depth = v.depth
  kept : v.reread.reread = v.reread

theorem depthItems_congr {f : Json → Json} {items : List Json}
    (h : ∀ v ∈ items, (f v).depth = v.depth) :
    Json.depthItems (items.map f) = Json.depthItems items := by
  induction items with
  | nil => rfl
  | cons v vs ih =>
    obtain ⟨hv, hvs⟩ := List.forall_mem_cons.mp h
    rw [List.map_cons, Json.depthItems, Json.depthItems, hv, ih hvs]

theorem depthMembers_congr {f : Json → Json} {members : List (Bytes × Json)}
    (h : ∀ m ∈ members, (f m.2).depth = m.2.depth) :
    Json.depthMembers (members.map fun m => (m.1, f m.2)) = Json.depthMembers members := by
  induction members with
  | nil => rfl
  | cons m ms ih =>
    obtain ⟨hm, hms⟩ := List.forall_mem_cons.mp h
    rw [List.map_cons, Json.depthMembers, Json.depthMembers, hm, ih hms]

theorem rewritten {v : Json} (h : v.WellFormed Readable) : Rewritten v := by
  induction h with
  | null => exact ⟨.null, rfl, rfl⟩
  | boolean b => exact ⟨.boolean b, rfl, rfl⟩
  | @number x hx =>
    refine ⟨.number (readable_rereadNumber hx), rfl, ?_⟩
    cases x with
    | num q => exact congrArg (fun q => Json.number (.num q)) (fixedValue_idem 6 q)
    | inf neg => rfl
    | nan neg => rfl
  | string hs => exact ⟨.string hs, rfl, rfl⟩
  | @array capacity items hcount _ ih =>
    refine ⟨?_, ?_, ?_⟩
    · rw [Json.reread, Json.rereadItems_eq]
      refine .array (by rwa [List.length_map]) ?_
      exact List.forall_mem_map.mpr fun v hv => (ih v hv).wellFormed
    · rw [Json.reread, Json.rereadItems_eq]
      exact depthItems_congr fun v hv => (ih v hv).depth
    · simp only [Json.reread, Json.rereadItems_eq, List.length_map, List.map_map]
      congr 1
      exact List.map_congr_left fun v hv => (ih v hv).kept
  | @object capacity members hcount hnames hstrings _ ih =>
    refine ⟨?_, ?_, ?_⟩
    · rw [Json.reread, Json.rereadMembers_eq]
      refine .object (by rwa [List.length_map]) (by rwa [List.map_map]) ?_ ?_
      · exact List.forall_mem_map.mpr hstrings
      · exact List.forall_mem_map.mpr fun m hm => (ih m hm).wellFormed
    · rw [Json.reread, Json.rereadMembers_eq]
      exact depthMembers_congr fun m hm => (ih m hm).depth
    · simp only [Json.reread, Json.rereadMembers_eq, List.length_map, List.map_map]
      congr 1
      exact List.map_congr_left fun m hm => congrArg (m.1, ·) (ih m hm).kept

/-- **What is read is a value**, whatever the text: the names of each object
differ, no string holds a terminator, sizes and levels are within their
limits. If its numbers can be written, both forms of its text are read as one
value, and that value is read as itself. -/
theorem parse_sound {s : Bytes} {v : Json} (h : jsonParseString (some s) = some v) :
    v.WellFormed IsDouble ∧ v.depth ≤ MAX_NESTING ∧
      (v.WellFormed Readable → ∀ pretty,
        jsonParseString (some (v.text pretty 0)) = some v.reread ∧
        jsonParseString (some (v.reread.text pretty 0)) = some v.reread) := by
  rw [jsonParseString, Option.bind_some] at h
  obtain ⟨⟨v, rest⟩, hparse, rfl⟩ := Option.map_eq_some_iff.mp h
  obtain ⟨hwell, hdepth⟩ := parseValue_wellFormed _ _ _ _ hparse
  have hlevels : v.depth ≤ MAX_NESTING := Nat.lt_succ_iff.mp hdepth
  refine ⟨hwell, hlevels, fun hreadable pretty => ?_⟩
  have hre := rewritten hreadable
  refine ⟨by rw [parse_text hreadable, if_pos hlevels], ?_⟩
  rw [parse_text hre.wellFormed, hre.depth, if_pos hlevels, hre.kept]

/-- An object with blanks between its parts. -/
def spacedText : Bytes := ascii "\x7b \"temp\" : [ 11.5 , null ] \x7d"

theorem spaced_text_sound : ∃ v, jsonParseString (some spacedText) = some v ∧
    v.WellFormed IsDouble ∧ v.depth ≤ MAX_NESTING ∧
      (v.WellFormed Readable → ∀ pretty,
        jsonParseString (some (v.text pretty 0)) = some v.reread ∧
        jsonParseString (some (v.reread.text pretty 0)) = some v.reread) := by
  have hsome : (jsonParseString (some spacedText)).isSome = true := by decide +kernel
  obtain ⟨v, hv⟩ := Option.isSome_iff_exists.mp hsome
  exact ⟨v, hv, parse_sound hv⟩

end Rpiweatherd
