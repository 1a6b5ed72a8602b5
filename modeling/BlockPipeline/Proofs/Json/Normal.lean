import BlockPipeline.Json.Document
import BlockPipeline.Proofs.Json.Members

/-!
# Normal forms

What a written value becomes when it is read as a free value: its objects keep one member under each
key, the last one, and have their keys in ascending order (`Json.normal`). A value without marks
always is read so (`Document.free_ofJson`), and a value in normal form is read as itself
(`FreeJson.normal_json`).
-/

set_option autoImplicit false

namespace BlockPipeline

/-! ## Objects made of members -/

namespace FreeObject

/-- Putting members in, one after the other, keeps only what was there and what is put in. -/
theorem mem_foldl_insert {members : List (String × FreeJson)} {o : FreeObject}
    {member : String × Json}
    (mem : member ∈ (members.foldl (fun o entry => o.insert entry.1 entry.2) o).members) :
    member ∈ o.members ∨ ∃ entry ∈ members, member = (entry.1, entry.2.json) := by
  induction members generalizing o with
  | nil => exact .inl mem
  | cons head members ih =>
    rcases ih mem with there | ⟨entry, later, same⟩
    · rcases mem_insertMember there with rfl | there
      · exact .inr ⟨head, List.mem_cons_self, rfl⟩
      · exact .inl there
    · exact .inr ⟨entry, List.mem_cons_of_mem _ later, same⟩

/-- What is in an object stood in the list that it was made of. -/
theorem mem_ofList {members : List (String × FreeJson)} {member : String × Json}
    (mem : member ∈ (ofList members).members) :
    ∃ entry ∈ members, member = (entry.1, entry.2.json) :=
  (mem_foldl_insert mem).resolve_left List.not_mem_nil

/-- Putting members in, without the proofs that their values are in normal form. -/
theorem members_foldl_insert_eq (members : List (String × FreeJson)) (o : FreeObject) :
    (members.foldl (fun o entry => o.insert entry.1 entry.2) o).members =
      (members.map fun entry => (entry.1, entry.2.json)).foldl
        (fun members entry => insertMember entry.1 entry.2 members) o.members := by
  rw [List.foldl_map]
  exact (List.foldl_hom FreeObject.members fun _ _ => rfl).symm

/-- What is under a key is the last of the members that are put in under it, or what was there. -/
theorem get?_foldl_insert (members : List (String × FreeJson)) (o : FreeObject) (key : String) :
    (members.foldl (fun o entry => o.insert entry.1 entry.2) o).get? key =
      ((members.filter (·.1 == key)).getLast?.map Prod.snd).or (o.get? key) := by
  refine Option.map_injective json_injective ?_
  rw [get?_map_json, members_foldl_insert_eq, lookup_foldl_insertMember, List.filter_map,
    List.getLast?_map, Option.map_or, Option.map_map, Option.map_map, get?_map_json]
  rfl

/-- What is under a key of an object is the last of the members that it was made of. -/
theorem get?_ofList (members : List (String × FreeJson)) (key : String) :
    (ofList members).get? key = (members.filter (·.1 == key)).getLast?.map Prod.snd := by
  rw [ofList, get?_foldl_insert, get?_empty, Option.or_none]

/-- **Of several members under one key the last one stands.** -/
theorem get?_ofList_eq_some_iff {members : List (String × FreeJson)} {key : String}
    {value : FreeJson} :
    (ofList members).get? key = some value ↔ LastWith (·.1 = key) members (key, value) := by
  simp only [get?_ofList, Option.map_eq_some_iff, getLast?_filter_eq_some_iff, beq_iff_eq]
  constructor
  · rintro ⟨⟨k, v⟩, last, rfl⟩
    obtain ⟨front, behind, split, rfl, later⟩ := last
    exact ⟨front, behind, split, rfl, later⟩
  · intro last
    exact ⟨(key, value), last, rfl⟩

/-- Where each key comes once, what is found under a key was found there before. -/
theorem lookup_ofList {members : List (String × FreeJson)}
    (distinct : (members.map Prod.fst).Nodup) (key : String) :
    (ofList members).members.lookup key = (members.lookup key).map FreeJson.json := by
  rw [← get?_map_json]
  congr 1
  ext value
  rw [get?_ofList_eq_some_iff, lookup_eq_some_iff_mem distinct]
  constructor
  · rintro ⟨front, behind, rfl, -⟩
    exact List.mem_append_right _ List.mem_cons_self
  · intro mem
    obtain ⟨front, behind, rfl⟩ := List.append_of_mem mem
    refine ⟨front, behind, rfl, rfl, fun entry later same => ?_⟩
    rw [List.map_append, List.map_cons] at distinct
    refine (List.nodup_cons.mp (List.nodup_append.mp distinct).2.1).1 ?_
    exact List.mem_map.mpr ⟨entry, later, same⟩

/-- A key above all others goes to the end. -/
theorem insertMember_of_forall_lt {α : Type} {key : String} {value : α}
    {members : List (String × α)} (above : ∀ k ∈ members.map Prod.fst, k < key) :
    insertMember key value members = members ++ [(key, value)] := by
  induction members with
  | nil => rfl
  | cons head members ih =>
    obtain ⟨k, v⟩ := head
    obtain ⟨below, above⟩ := List.forall_mem_cons.mp above
    have later : ¬ key < k := fun lt => String.lt_irrefl k (String.lt_trans below lt)
    have differ : key ≠ k := fun same => String.lt_irrefl k (same ▸ below)
    simp only [insertMember, if_neg later, if_neg differ, ih above, List.cons_append]

/-- Members with ascending keys are put in one behind the other. -/
theorem members_foldl_insert {members : List (String × FreeJson)} {o : FreeObject}
    (ascending : ((o.members.map Prod.fst) ++ members.map Prod.fst).Pairwise (· < ·)) :
    (members.foldl (fun o entry => o.insert entry.1 entry.2) o).members =
      o.members ++ members.map fun entry => (entry.1, entry.2.json) := by
  induction members generalizing o with
  | nil => simp
  | cons head members ih =>
    have last : (o.insert head.1 head.2).members = o.members ++ [(head.1, head.2.json)] :=
      insertMember_of_forall_lt fun k hk =>
        (List.pairwise_append.mp ascending).2.2 k hk head.1 List.mem_cons_self
    rw [List.foldl_cons, ih, last, List.append_assoc]
    · rfl
    · rw [last]
      simpa using ascending

/-- **Members with ascending keys are kept as they are.** -/
theorem members_ofList {members : List (String × FreeJson)} (ascending : AscendingKeys members) :
    (ofList members).members = members.map fun entry => (entry.1, entry.2.json) :=
  members_foldl_insert ascending

/-- An object is made of its entries. -/
theorem ofList_entries (o : FreeObject) : ofList o.entries = o := by
  have ascending : AscendingKeys o.entries := by
    rw [AscendingKeys, entries_keys]
    exact o.ascending
  exact FreeObject.ext ((members_ofList ascending).trans o.entries_map_json)

end FreeObject

/-! ## The normal form of a written value -/

namespace Json

mutual

/-- The free value that a written value is read as. -/
def normal : Json → FreeJson
  | .null => .null
  | .bool b => .bool b
  | .number n => .number n
  | .string s => .string s
  | .array items => .array (normalItems items)
  | .object members => (FreeObject.ofList (normalMembers members)).toFreeJson

def normalItems : List Json → List FreeJson
  | [] => []
  | item :: items => item.normal :: normalItems items

def normalMembers : List (String × Json) → List (String × FreeJson)
  | [] => []
  | (key, value) :: members => (key, value.normal) :: normalMembers members

end

theorem normalMembers_eq_map (members : List (String × Json)) :
    normalMembers members = members.map fun member => (member.1, member.2.normal) := by
  induction members with
  | nil => rfl
  | cons member members ih => rw [normalMembers, ih, List.map_cons]

theorem keys_normalMembers (members : List (String × Json)) :
    (normalMembers members).map Prod.fst = members.map Prod.fst := by
  rw [normalMembers_eq_map, List.map_map]
  rfl

end Json

mutual

theorem Json.json_normal : ∀ {value : Json}, value.Canonical → value.normal.json = value
  | .null, _ | .bool _, _ | .number _, _ | .string _, _ => rfl
  | .array _, canonical => congrArg Json.array (json_normalItems canonical)
  | .object members, ⟨ascending, canonical⟩ => by
    have each := json_normalMembers canonical
    have kept := FreeObject.members_ofList (show AscendingKeys (normalMembers members) by
      rw [AscendingKeys, keys_normalMembers]
      exact ascending)
    exact congrArg Json.object (kept.trans each)

theorem Json.json_normalItems : ∀ {items : List Json}, CanonicalItems items →
    (normalItems items).map FreeJson.json = items
  | [], _ => rfl
  | _ :: _, ⟨first, others⟩ => by
    rw [normalItems, List.map_cons, json_normal first, json_normalItems others]

theorem Json.json_normalMembers : ∀ {members : List (String × Json)}, CanonicalMembers members →
    (normalMembers members).map (fun entry => (entry.1, entry.2.json)) = members
  | [], _ => rfl
  | (_, _) :: _, ⟨first, others⟩ => by
    rw [normalMembers, List.map_cons, json_normal first, json_normalMembers others]

end

/-- **A value in normal form is read as itself.** -/
@[simp] theorem FreeJson.normal_json (value : FreeJson) : value.json.normal = value :=
  FreeJson.ext (Json.json_normal value.canonical)

/-! ## Reading documents without marks -/

namespace Document

mutual

/-- **A document without marks is read as the normal form** of its value. -/
theorem free_ofJson : ∀ value : Json, (ofJson value).free = .ok value.normal
  | .null | .bool _ | .number _ | .string _ => rfl
  | .array items => by
    simp only [ofJson, free, freeItems_ofItems items]
    rfl
  | .object members => by
    simp only [ofJson, free, freeMembers_ofMembers members]
    rfl

theorem freeItems_ofItems : ∀ items : List Json,
    freeItems (ofItems items) = .ok (Json.normalItems items)
  | [] => rfl
  | item :: items => by
    simp only [ofItems, freeItems, free_ofJson item, freeItems_ofItems items]
    rfl

theorem freeMembers_ofMembers : ∀ members : List (String × Json),
    freeMembers (ofMembers members) = .ok (Json.normalMembers members)
  | [] => rfl
  | (key, value) :: members => by
    simp only [ofMembers, freeMembers, Document.key, free_ofJson value,
      freeMembers_ofMembers members]
    rfl

end

end Document

end BlockPipeline
