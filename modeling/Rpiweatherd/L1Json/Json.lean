import Rpiweatherd.L1Json.Parson
import Rpiweatherd.L1Libc.Fixed

/-!
# JSON values and the text that stands for them (`deps/parson.c`)

`Json` is `JSON_Value` in full; the documents the daemon puts together
(`JsonValue`) use three of its six kinds and are embedded by
`JsonValue.toJson`. `Json.text` is the text of a value, in one line or
indented. It lies between the serializer, which has to write it
(`Serializer.lean`), and the parser, which has to read it back
(`RoundTrip.lean`).

What the text keeps is `Json.reread`: numbers are rounded to the six decimals
of `%f`, and an object or array that was read has no spare capacity.
-/
namespace Rpiweatherd

def ARRAY_MAX_CAPACITY : Nat := 122880
def MAX_NESTING : Nat := 19
def UINT_MAX : Int := 2 ^ 32 - 1

def DBL_MAX_EXP : Nat := 1024

/-- How large a finite `double` can be. -/
def IsDouble : FloatVal → Prop
  | .num q => |q| < 2 ^ DBL_MAX_EXP
  | _ => True

inductive Json where
  | null
  | boolean (b : Bool)
  | number (x : FloatVal)
  | string (s : Bytes)
  | array (capacity : Nat) (items : List Json)
  | object (capacity : Nat) (members : List (Bytes × Json))

namespace Json

/-- What parson keeps: the names of an object differ, strings end at their
terminator, and arrays and objects have a largest size. Numbers are left to
`N`. -/
inductive WellFormed (N : FloatVal → Prop) : Json → Prop
  | null : WellFormed N .null
  | boolean (b : Bool) : WellFormed N (.boolean b)
  | number {x : FloatVal} (h : N x) : WellFormed N (.number x)
  | string {s : Bytes} (h : 0 ∉ s) : WellFormed N (.string s)
  | array {capacity : Nat} {items : List Json} (hcount : items.length ≤ ARRAY_MAX_CAPACITY)
      (hitems : ∀ v ∈ items, WellFormed N v) : WellFormed N (.array capacity items)
  | object {capacity : Nat} {members : List (Bytes × Json)}
      (hcount : members.length ≤ OBJECT_MAX_CAPACITY) (hnames : (members.map Prod.fst).Nodup)
      (hstrings : ∀ m ∈ members, 0 ∉ m.1) (hmembers : ∀ m ∈ members, WellFormed N m.2) :
      WellFormed N (.object capacity members)

theorem WellFormed.mono {N M : FloatVal → Prop} (hNM : ∀ x, N x → M x) {v : Json}
    (h : v.WellFormed N) : v.WellFormed M := by
  induction h with
  | null => exact .null
  | boolean b => exact .boolean b
  | number hx => exact .number (hNM _ hx)
  | string hs => exact .string hs
  | array hcount _ ih => exact .array hcount ih
  | object hcount hnames hstrings _ ih => exact .object hcount hnames hstrings ih

/-! ## The levels of a value -/

mutual
/-- How many values lie around the innermost one. -/
def depth : Json → Nat
  | .array _ items => depthItems items
  | .object _ members => depthMembers members
  | _ => 0
termination_by structural v => v

def depthItems : List Json → Nat
  | [] => 0
  | v :: vs => max (v.depth + 1) (depthItems vs)
termination_by structural vs => vs

def depthMembers : List (Bytes × Json) → Nat
  | [] => 0
  | (_, v) :: ms => max (v.depth + 1) (depthMembers ms)
termination_by structural ms => ms
end

theorem depthItems_lt {left : Nat} {items : List Json} :
    depthItems items < left + 1 ↔ ∀ v ∈ items, v.depth < left := by
  induction items with
  | nil => simp [depthItems]
  | cons v vs ih =>
    rw [depthItems, Nat.max_lt, ih, List.forall_mem_cons, Nat.add_lt_add_iff_right]

theorem depthMembers_lt {left : Nat} {members : List (Bytes × Json)} :
    depthMembers members < left + 1 ↔ ∀ m ∈ members, m.2.depth < left := by
  induction members with
  | nil => simp [depthMembers]
  | cons m ms ih =>
    rw [depthMembers, Nat.max_lt, ih, List.forall_mem_cons, Nat.add_lt_add_iff_right]

/-! ## What is left after writing and reading -/

def rereadNumber : FloatVal → FloatVal
  | .num q => .num (fixedValue 6 q)
  | x => x

mutual
def reread : Json → Json
  | .number x => .number (rereadNumber x)
  | .array _ items => .array items.length (rereadItems items)
  | .object _ members => .object members.length (rereadMembers members)
  | v => v
termination_by structural v => v

def rereadItems : List Json → List Json
  | [] => []
  | v :: vs => v.reread :: rereadItems vs
termination_by structural vs => vs

def rereadMembers : List (Bytes × Json) → List (Bytes × Json)
  | [] => []
  | (name, v) :: ms => (name, v.reread) :: rereadMembers ms
termination_by structural ms => ms
end

theorem rereadItems_eq (items : List Json) : rereadItems items = items.map reread := by
  induction items with
  | nil => rfl
  | cons v vs ih => rw [rereadItems, ih, List.map_cons]

theorem rereadMembers_eq (members : List (Bytes × Json)) :
    rereadMembers members = members.map fun m => (m.1, m.2.reread) := by
  induction members with
  | nil => rfl
  | cons m ms ih => rw [rereadMembers, ih, List.map_cons]

end Json

/-! ## Texts -/

def hexChar (n : UInt8) : UInt8 := if n < 10 then 48 + n else 87 + n

/-- What a character is written as, `none` for itself. mirrors
deps/parson.c:907-949 -/
def escapeOf (c : UInt8) : Option Bytes :=
  if c = 34 then some [92, 34]
  else if c = 92 then some [92, 92]
  else if c = 47 then some [92, 47]
  else if c = 8 then some [92, 98]
  else if c = 12 then some [92, 102]
  else if c = 10 then some [92, 110]
  else if c = 13 then some [92, 114]
  else if c = 9 then some [92, 116]
  else if c < 32 then some [92, 117, 48, 48, hexChar (c / 16), hexChar (c % 16)]
  else none

def escaped (c : UInt8) : Bytes := (escapeOf c).getD [c]

def stringText (s : Bytes) : Bytes := 34 :: (s.flatMap escaped ++ [34])

/-- A number `%d` or `%u` prints, and otherwise `%f`. -/
def numberText : FloatVal → Bytes
  | .num q => if q.den = 1 ∧ INT_MIN ≤ q.num ∧ q.num ≤ UINT_MAX then printInt q.num
      else printFixed 6 q
  | .inf neg => (if neg then [45] else []) ++ ascii "inf"
  | .nan neg => (if neg then [45] else []) ++ ascii "nan"

def newlineText (pretty : Bool) : Bytes := if pretty then [10] else []

def indentText (pretty : Bool) (level : Nat) : Bytes :=
  if pretty then List.replicate (4 * level) 32 else []

/-- The items, with a comma behind each but the last. -/
def itemsText (pretty : Bool) (level : Nat) : List Bytes → Bytes
  | [] => []
  | t :: ts => indentText pretty (level + 1) ++ (t ++ ((if ts.isEmpty then [] else [44]) ++
      (newlineText pretty ++ itemsText pretty level ts)))

def containerText (opening closing : UInt8) (pretty : Bool) (level : Nat) (ts : List Bytes) :
    Bytes :=
  opening :: ((if ts.isEmpty then [] else newlineText pretty) ++ (itemsText pretty level ts ++
    ((if ts.isEmpty then [] else indentText pretty level) ++ [closing])))

def memberText (pretty : Bool) (name value : Bytes) : Bytes :=
  stringText name ++ (58 :: ((if pretty then [32] else []) ++ value))

namespace Json

mutual
def text (pretty : Bool) : Json → Nat → Bytes
  | .null, _ => ascii "null"
  | .boolean b, _ => if b then ascii "true" else ascii "false"
  | .number x, _ => numberText x
  | .string s, _ => stringText s
  | .array _ items, level => containerText 91 93 pretty level (itemTexts pretty items (level + 1))
  | .object _ members, level =>
    containerText 123 125 pretty level (memberTexts pretty members (level + 1))
termination_by structural v => v

def itemTexts (pretty : Bool) : List Json → Nat → List Bytes
  | [], _ => []
  | v :: vs, level => v.text pretty level :: itemTexts pretty vs level
termination_by structural vs => vs

def memberTexts (pretty : Bool) : List (Bytes × Json) → Nat → List Bytes
  | [], _ => []
  | (name, v) :: ms, level =>
    memberText pretty name (v.text pretty level) :: memberTexts pretty ms level
termination_by structural ms => ms
end

theorem itemTexts_eq (pretty : Bool) (items : List Json) (level : Nat) :
    itemTexts pretty items level = items.map fun v => v.text pretty level := by
  induction items with
  | nil => rfl
  | cons v vs ih => rw [itemTexts, ih, List.map_cons]

theorem memberTexts_eq (pretty : Bool) (members : List (Bytes × Json)) (level : Nat) :
    memberTexts pretty members level =
      members.map fun m => memberText pretty m.1 (m.2.text pretty level) := by
  induction members with
  | nil => rfl
  | cons m ms ih => rw [memberTexts, ih, List.map_cons]

end Json

/-! ## The documents of the daemon -/

namespace JsonValue

mutual
def toJson : JsonValue → Json
  | .number q => .number (.num q)
  | .string s => .string s
  | .object capacity members => .object capacity (toJsonMembers members)
termination_by structural v => v

def toJsonMembers : List (Bytes × JsonValue) → List (Bytes × Json)
  | [] => []
  | (name, v) :: ms => (name, v.toJson) :: toJsonMembers ms
termination_by structural ms => ms
end

theorem toJsonMembers_eq (members : List (Bytes × JsonValue)) :
    toJsonMembers members = members.map fun m => (m.1, m.2.toJson) := by
  induction members with
  | nil => rfl
  | cons m ms ih => rw [toJsonMembers, ih, List.map_cons]

end JsonValue
end Rpiweatherd
