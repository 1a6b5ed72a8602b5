import BlockPipeline.Json.Value
import Mathlib.Data.List.Induction
import Mathlib.Data.List.Nodup

/-!
# Looking up members

What stands under a key, in a list of members and in a free object. Where the keys are distinct, and
so in every list with ascending keys, a member stands in the list exactly if it is what is found
under its key. Putting a member in changes what is found under its own key alone, so of several
members that are put in under one key the last one stands (`lookup_foldl_insertMember`).
-/

set_option autoImplicit false

namespace BlockPipeline

variable {α : Type}

/-! ## Lists of members -/

theorem lookup_cons_eq (key k : String) (value : α) (members : List (String × α)) :
    ((k, value) :: members).lookup key = if key = k then some value else members.lookup key := by
  by_cases h : key = k
  · simp [h]
  · simp [List.lookup_cons, beq_false_of_ne h, h]

/-- A function of the values is applied to what is found. -/
theorem lookup_map {β : Type} (f : α → β) (key : String) (members : List (String × α)) :
    (members.map fun member => (member.1, f member.2)).lookup key = (members.lookup key).map f := by
  induction members with
  | nil => rfl
  | cons member members ih =>
    obtain ⟨k, value⟩ := member
    rw [List.map_cons, lookup_cons_eq, lookup_cons_eq]
    split
    · rfl
    · exact ih

/-- **Putting a member in** changes what is found under its key alone. -/
theorem lookup_insertMember (key other : String) (value : α) (members : List (String × α)) :
    (insertMember key value members).lookup other =
      if other = key then some value else members.lookup other := by
  induction members with
  | nil => rw [insertMember, lookup_cons_eq]
  | cons head members ih =>
    obtain ⟨k, v⟩ := head
    simp only [insertMember]
    split
    · rw [lookup_cons_eq]
    · split
      next same =>
        subst same
        by_cases h : other = key <;> simp [lookup_cons_eq, h]
      next differ =>
        rw [lookup_cons_eq, ih, lookup_cons_eq]
        by_cases h : other = key
        · have apart : other ≠ k := h ▸ differ
          simp only [if_neg apart, if_pos h]
        · simp only [if_neg h]

/-- What is found stands in the list. -/
theorem mem_of_lookup {members : List (String × α)} {key : String} {value : α}
    (found : members.lookup key = some value) : (key, value) ∈ members := by
  obtain ⟨before, behind, rfl, -⟩ := List.lookup_eq_some_iff.mp found
  exact List.mem_append_right _ List.mem_cons_self

/-- What stands in a list without repeated keys is found. -/
theorem lookup_of_mem {members : List (String × α)} (distinct : (members.map Prod.fst).Nodup)
    {key : String} {value : α} (mem : (key, value) ∈ members) :
    members.lookup key = some value := by
  induction members with
  | nil => cases mem
  | cons head members ih =>
    obtain ⟨k, v⟩ := head
    obtain ⟨new, distinct⟩ := List.nodup_cons.mp distinct
    rcases List.mem_cons.mp mem with same | mem
    · cases same
      exact List.lookup_cons_self
    · have differ : key ≠ k := fun same =>
        new (List.mem_map.mpr ⟨(key, value), mem, same⟩)
      rw [lookup_cons_eq, if_neg differ, ih distinct mem]

theorem lookup_eq_some_iff_mem {members : List (String × α)}
    (distinct : (members.map Prod.fst).Nodup) {key : String} {value : α} :
    members.lookup key = some value ↔ (key, value) ∈ members :=
  ⟨mem_of_lookup, lookup_of_mem distinct⟩

/-- Leaving out keys changes nothing under the others. -/
theorem lookup_filter_key (keep : String → Bool) (members : List (String × α)) (key : String) :
    (members.filter fun member => keep member.1).lookup key =
      if keep key then members.lookup key else none := by
  induction members with
  | nil => simp
  | cons head members ih =>
    obtain ⟨k, v⟩ := head
    rw [List.filter_cons, lookup_cons_eq]
    by_cases same : key = k
    · subst same
      cases kept : keep key <;> simp [kept, ih]
    · cases kept : keep k <;> simp [same, ih, lookup_cons_eq]

/-- Ascending keys are distinct. -/
theorem AscendingKeys.nodup {members : List (String × α)} (ascending : AscendingKeys members) :
    (members.map Prod.fst).Nodup := by
  refine List.Pairwise.imp (fun {a b} (lt : a < b) => ?_) ascending
  rintro rfl
  exact String.lt_irrefl a lt

/-! ## The last one of several -/

/-- **The last element of a list with a property.** -/
def LastWith (P : α → Prop) (l : List α) (a : α) : Prop :=
  ∃ front behind, l = front ++ a :: behind ∧ P a ∧ ∀ b ∈ behind, ¬ P b

/-- What is made last of a list is made of the last element of which something is made. -/
theorem getLast?_filterMap_eq_some_iff {β : Type} {f : α → Option β} {l : List α} {b : β} :
    (l.filterMap f).getLast? = some b ↔
      ∃ a, LastWith (fun a => (f a).isSome = true) l a ∧ f a = some b := by
  rw [List.getLast?_eq_some_iff]
  constructor
  · rintro ⟨earlier, made⟩
    obtain ⟨front, rest, rfl, -, made⟩ := List.filterMap_eq_append_iff.mp made
    obtain ⟨skipped, a, behind, rfl, -, here, made⟩ := List.filterMap_eq_cons_iff.mp made
    refine ⟨a, ⟨front ++ skipped, behind, by rw [List.append_assoc], ?_, ?_⟩, here⟩
    · exact Option.isSome_of_eq_some here
    · intro c hc made'
      rw [List.filterMap_eq_nil_iff.mp made c hc] at made'
      cases made'
  · rintro ⟨a, ⟨front, behind, rfl, -, nothing⟩, here⟩
    have later : behind.filterMap f = [] :=
      List.filterMap_eq_nil_iff.mpr fun c hc => Option.not_isSome_iff_eq_none.mp (nothing c hc)
    exact ⟨front.filterMap f, by rw [List.filterMap_append, List.filterMap_cons_some here, later]⟩

theorem getLast?_filter_eq_some_iff {p : α → Bool} {l : List α} {a : α} :
    (l.filter p).getLast? = some a ↔ LastWith (p · = true) l a := by
  rw [← List.filterMap_eq_filter, getLast?_filterMap_eq_some_iff]
  simp only [Option.isSome_guard, Option.guard_eq_some_iff]
  constructor
  · rintro ⟨b, last, rfl, -⟩
    exact last
  · rintro ⟨front, behind, split, here, nothing⟩
    exact ⟨a, ⟨front, behind, split, here, nothing⟩, rfl, here⟩

/-- **Of the members that are put in under one key the last one stands**, and where none is, what
was there before. -/
theorem lookup_foldl_insertMember (entries members : List (String × α)) (key : String) :
    (entries.foldl (fun members entry => insertMember entry.1 entry.2 members) members).lookup key =
      ((entries.filter (·.1 == key)).getLast?.map Prod.snd).or (members.lookup key) := by
  -- the member that stands is put in last, so the induction is from the end
  induction entries using List.reverseRecOn with
  | nil => rfl
  | append_singleton entries entry ih =>
    rw [List.foldl_append, List.foldl_cons, List.foldl_nil, lookup_insertMember, ih,
      List.filter_append]
    by_cases same : key = entry.1
    · simp [same]
    · have other : (entry.1 == key) = false := beq_false_of_ne fun h => same h.symm
      simp [same, other]

/-! ## Free objects -/

namespace FreeObject

/-- The members without the proofs that their values are in normal form. -/
theorem entries_map_json (o : FreeObject) :
    o.entries.map (fun entry => (entry.1, entry.2.json)) = o.members := by
  rw [entries, List.map_map]
  exact List.attach_map_subtype_val o.members

theorem entries_keys (o : FreeObject) : o.entries.map Prod.fst = o.members.map Prod.fst := by
  conv_rhs => rw [← o.entries_map_json]
  rw [List.map_map]
  rfl

/-- What stands under a key, without the proof that it is in normal form. -/
theorem get?_map_json (o : FreeObject) (key : String) :
    (o.get? key).map FreeJson.json = o.members.lookup key := by
  rw [get?, ← lookup_map, entries_map_json]

/-- A value stands under a key exactly if it does so in one of the entries. -/
theorem get?_eq_some_iff {o : FreeObject} {key : String} {value : FreeJson} :
    o.get? key = some value ↔ (key, value) ∈ o.entries :=
  lookup_eq_some_iff_mem (o.entries_keys ▸ o.ascending.nodup)

theorem json_injective : Function.Injective FreeJson.json := fun _ _ => FreeJson.ext

@[simp] theorem get?_empty (key : String) : empty.get? key = none := rfl

/-- Putting a value in changes what stands under its key alone. -/
theorem get?_insert (o : FreeObject) (key other : String) (value : FreeJson) :
    (o.insert key value).get? other = if other = key then some value else o.get? other := by
  refine Option.map_injective json_injective ?_
  rw [get?_map_json, insert, lookup_insertMember, ← get?_map_json]
  split <;> rfl

/-- What is kept stands under its key as before. -/
theorem get?_filterKeys (o : FreeObject) (keep : String → Bool) (key : String) :
    (o.filterKeys keep).get? key = if keep key then o.get? key else none := by
  refine Option.map_injective json_injective ?_
  rw [get?_map_json, filterKeys, lookup_filter_key, ← get?_map_json]
  split <;> rfl

/-- **An object is what stands under its keys**: the order of its members follows from the keys. -/
theorem ext_get? {a b : FreeObject} (same : ∀ key, a.get? key = b.get? key) : a = b := by
  have members : ∀ member, member ∈ a.members ↔ member ∈ b.members := by
    rintro ⟨key, value⟩
    rw [← lookup_eq_some_iff_mem a.ascending.nodup, ← lookup_eq_some_iff_mem b.ascending.nodup,
      ← get?_map_json, ← get?_map_json, same]
  have perm : a.members.Perm b.members :=
    (List.perm_ext_iff_of_nodup (.of_map _ a.ascending.nodup) (.of_map _ b.ascending.nodup)).mpr
      members
  refine FreeObject.ext (perm.eq_of_pairwise ?_ (List.pairwise_map.mp a.ascending)
    (List.pairwise_map.mp b.ascending))
  intro x y _ _ below above
  exact absurd (String.lt_trans below above) (String.lt_irrefl _)

end FreeObject

/-! ## What kind of value it is -/

namespace FreeJson

theorem object?_eq_some_iff {value : FreeJson} {o : FreeObject} :
    value.object? = some o ↔ value = o.toFreeJson := by
  obtain ⟨json, canonical⟩ := value
  cases json <;> simp [object?, FreeObject.toFreeJson, FreeJson.ext_iff, FreeObject.ext_iff]

theorem string?_eq_some_iff {value : FreeJson} {s : String} :
    value.string? = some s ↔ value = .string s := by
  obtain ⟨json, canonical⟩ := value
  cases json <;> simp [string?, string, FreeJson.ext_iff]

theorem bool?_eq_some_iff {value : FreeJson} {b : Bool} :
    value.bool? = some b ↔ value = .bool b := by
  obtain ⟨json, canonical⟩ := value
  cases json <;> simp [bool?, bool, FreeJson.ext_iff]

end FreeJson

end BlockPipeline
