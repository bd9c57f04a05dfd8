import Rpiweatherd.L1Json.RoundTrip

/-!
# Documents that are put together (`deps/parson.c:313-338, 1617-1683`)

`JsonValue.Kept n` are the values whose text can be written and read back:
names differ and end at their terminator, an object is within its limits,
numbers stay in the range of a `double`, and there are at most `n` levels.
Every operation the daemon builds its documents with keeps it: a set at the
root, and a set by a dotted path, which needs one more level for each piece.

* `dotsetPath_kept`: a dotted set, whether it succeeds or fails on the way.
* `Kept.wellFormed`, `Kept.depth_le`: what the round trip asks for.
-/
namespace Rpiweatherd

namespace JsonValue

/-- A value of at most `n` levels that survives being written and read. -/
inductive Kept : Nat → JsonValue → Prop
  | number {n : Nat} {q : ℚ} (h : Readable (.num q)) : Kept n (.number q)
  | string {n : Nat} {s : Bytes} (h : 0 ∉ s) : Kept n (.string s)
  | object {n : Nat} {o : JsonObject} (hsized : o.Sized) (hnames : (o.members.map Prod.fst).Nodup)
      (hstrings : ∀ m ∈ o.members, 0 ∉ m.1) (hmembers : ∀ m ∈ o.members, Kept n m.2) :
      Kept (n + 1) o.toValue

theorem Kept.mono {n k : Nat} {v : JsonValue} (h : v.Kept n) (hk : n ≤ k) : v.Kept k := by
  induction h generalizing k with
  | number hq => exact .number hq
  | string hs => exact .string hs
  | object hsized hnames hstrings _ ih =>
    obtain ⟨k, rfl⟩ : ∃ j, k = j + 1 := ⟨k - 1, by omega⟩
    exact .object hsized hnames hstrings fun m hm => ih m hm (by omega)

theorem map_fst_toJsonMembers (members : List (Bytes × JsonValue)) :
    (toJsonMembers members).map Prod.fst = members.map Prod.fst := by
  rw [toJsonMembers_eq, List.map_map]
  rfl

theorem Kept.wellFormed {n : Nat} {v : JsonValue} (h : v.Kept n) :
    v.toJson.WellFormed Readable := by
  induction h with
  | number hq => exact .number hq
  | string hs => exact .string hs
  | @object n o hsized hnames hstrings _ ih =>
    have hlimit : ∀ c ∈ JsonObject.CAPACITIES, c ≤ OBJECT_MAX_CAPACITY := by decide
    refine .object ?_ ?_ ?_ ?_
    · rw [toJsonMembers_eq, List.length_map]
      exact hsized.1.trans (hlimit _ hsized.2)
    · rw [map_fst_toJsonMembers]
      exact hnames
    · rw [toJsonMembers_eq]
      exact List.forall_mem_map.mpr hstrings
    · rw [toJsonMembers_eq]
      exact List.forall_mem_map.mpr ih

theorem Kept.depth_le {n : Nat} {v : JsonValue} (h : v.Kept n) : v.toJson.depth ≤ n := by
  induction h with
  | number _ => exact Nat.zero_le _
  | string _ => exact Nat.zero_le _
  | @object n o _ _ _ _ ih =>
    show Json.depthMembers (toJsonMembers o.members) ≤ n + 1
    rw [← Nat.lt_succ_iff, Json.depthMembers_lt, toJsonMembers_eq]
    exact List.forall_mem_map.mpr fun m hm => Nat.lt_succ_iff.mpr (ih m hm)

end JsonValue

namespace JsonObject
variable {n : Nat} {o : JsonObject} {name : Bytes} {v : JsonValue}

/-- An object whose values have at most `n` levels. -/
structure Kept (n : Nat) (o : JsonObject) : Prop where
  sized : o.Sized
  names : (o.members.map Prod.fst).Nodup
  strings : ∀ m ∈ o.members, 0 ∉ m.1
  members : ∀ m ∈ o.members, m.2.Kept n

theorem Kept.toValue (h : o.Kept n) : o.toValue.Kept (n + 1) :=
  .object h.sized h.names h.strings h.members

theorem kept_of_toValue (h : o.toValue.Kept (n + 1)) : o.Kept n := by
  generalize hv : o.toValue = v at h
  cases h with
  | number _ => cases hv
  | string _ => cases hv
  | @object n o' hsized hnames hstrings hmembers =>
    obtain rfl : o = o' := by
      cases o
      cases o'
      cases hv
      rfl
    exact ⟨hsized, hnames, hstrings, hmembers⟩

theorem kept_init (n : Nat) : init.Kept n :=
  ⟨sized_init, List.nodup_nil, List.forall_mem_nil _, List.forall_mem_nil _⟩

/-! ## One object -/

/-- A member after an overwrite is one from before, or has the new value. -/
theorem mem_replace {ms : List (Bytes × JsonValue)} {m : Bytes × JsonValue}
    (h : m ∈ replace name v ms) : m ∈ ms ∨ m.2 = v := by
  induction ms with
  | nil => cases h
  | cons p ms ih =>
    obtain ⟨k, x⟩ := p
    rw [replace] at h
    split at h
    · rcases List.mem_cons.mp h with rfl | h
      · exact .inr rfl
      · exact .inl (List.mem_cons_of_mem _ h)
    · rcases List.mem_cons.mp h with rfl | h
      · exact .inl List.mem_cons_self
      · exact (ih h).imp_left (List.mem_cons_of_mem _)

theorem Kept.replace (h : o.Kept n) (name : Bytes) (hv : v.Kept n) :
    Kept n ⟨o.capacity, replace name v o.members⟩ := by
  have hfst := map_fst_replace name v o.members
  refine ⟨⟨?_, h.sized.2⟩, hfst ▸ h.names, ?_, ?_⟩
  · have hlen := congrArg List.length hfst
    rw [List.length_map, List.length_map] at hlen
    exact hlen.trans_le h.sized.1
  · intro m hm
    have hmem : m.1 ∈ o.members.map Prod.fst := hfst ▸ List.mem_map_of_mem (f := Prod.fst) hm
    obtain ⟨p, hp, hpm⟩ := List.mem_map.mp hmem
    exact hpm ▸ h.strings p hp
  · intro m hm
    rcases mem_replace hm with hm | hm
    · exact h.members m hm
    · exact hm ▸ hv

/-- A new member finds room, or the capacity goes to the next size. -/
theorem sized_of_add {o' : JsonObject} (hs : o.Sized) (h : o.add name v = some o') : o'.Sized := by
  unfold add at h
  dsimp only at h
  split_ifs at h with htaken hfull hmax
  · cases h
    have hgrow := grow_capacities o.capacity hs.2
    rw [if_neg hmax] at hgrow
    exact sized_append.mpr ⟨Nat.lt_of_le_of_lt hs.1 hgrow.2, hgrow.1⟩
  · cases h
    exact sized_append.mpr ⟨Nat.lt_of_not_le hfull, hs.2⟩

theorem Kept.add {o' : JsonObject} (h : o.Kept n) (hname : 0 ∉ name) (hv : v.Kept n)
    (hadd : o.add name v = some o') : o'.Kept n := by
  obtain ⟨hm, hnone⟩ := add_some hadd
  have hfresh := fresh_of_getValue hnone
  refine ⟨sized_of_add h.sized hadd, ?_, ?_, ?_⟩
  · rw [hm, List.map_append]
    exact List.concat_eq_append ▸ h.names.concat hfresh
  · rw [hm]
    exact List.forall_mem_append.mpr ⟨h.strings, List.forall_mem_singleton.mpr hname⟩
  · rw [hm]
    exact List.forall_mem_append.mpr ⟨h.members, List.forall_mem_singleton.mpr hv⟩

theorem Kept.setValue (h : o.Kept n) (hname : 0 ∉ name) (hv : v.Kept n) :
    (o.setValue name v).1.Kept n := by
  unfold JsonObject.setValue
  split
  · exact h.replace name hv
  · cases hadd : o.add name v with
    | none => exact h
    | some o' => exact h.add hname hv hadd

/-! ## A path -/

/-- The object found under a name has a level less. -/
theorem Kept.getObject {t : JsonObject} (h : o.Kept (n + 1)) (hget : o.getObject name = some t) :
    t.Kept n := by
  unfold JsonObject.getObject at hget
  split at hget
  · rename_i c m hvalue
    cases hget
    obtain ⟨a, b, hms, -⟩ := List.lookup_eq_some_iff.mp hvalue
    exact kept_of_toValue (o := ⟨c, m⟩) (h.members (name, .object c m) (by rw [hms]; simp))
  · cases hget

/-- **A dotted set** keeps a document whose levels leave room for its path,
also when it stops on the way. -/
theorem dotsetPath_kept {path : List Bytes} (hpath : ∀ name ∈ path, 0 ∉ name) (hv : v.Kept n)
    {k : Nat} (hk : n + path.length ≤ k + 1) (h : o.Kept k) : (dotsetPath v path o).1.Kept k := by
  induction path generalizing o k with
  | nil => exact h
  | cons current rest ih =>
    obtain ⟨hcurrent, hrest⟩ := List.forall_mem_cons.mp hpath
    cases rest with
    | nil =>
      rw [List.length_singleton] at hk
      exact h.setValue hcurrent (hv.mono (by omega))
    | cons next rest =>
      obtain ⟨k, rfl⟩ : ∃ j, k = j + 1 := ⟨k - 1, by rw [List.length_cons, List.length_cons] at hk; omega⟩
      rw [List.length_cons] at hk
      simp only [dotsetPath]
      cases hget : o.getObject current with
      | some t =>
        have ht := ih hrest (by omega) (h.getObject hget)
        exact h.replace current ht.toValue
      | none =>
        cases hadd : o.add current init.toValue with
        | none => exact h
        | some o' =>
          have ht := ih hrest (by omega) (kept_init k)
          exact (h.add hcurrent (kept_init k).toValue hadd).replace current ht.toValue

end JsonObject
end Rpiweatherd
