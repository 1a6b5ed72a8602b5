import BlockPipeline.Number.Literal

/-!
# JSON values

`Json` is a written document: an object is the list of its members in the order in which
they stand in the text. The encoders of this library produce such trees, and the order of
their members is part of what they say.

A *free* value is one whose shape no type of this library fixes: a node's configuration, a
block's schema, the metrics of a run. It is kept in one normal form, in which every object
has each key once and its keys ascend (`Json.Canonical`). The invariant stands in the types
`FreeJson` and `FreeObject`, so equal free values are equal trees, and a walk over a free
object meets its keys in ascending order.
-/

namespace BlockPipeline

/-- A JSON document. -/
inductive Json where
  | null
  | bool (b : Bool)
  | number (n : Number)
  | string (s : String)
  | array (items : List Json)
  | object (members : List (String × Json))

instance : Inhabited Json := ⟨.null⟩

/-- Keys in ascending order, each once. Strings are ordered by their characters' codes,
which is also the order of their UTF-8 bytes. -/
def AscendingKeys {α : Type} (members : List (String × α)) : Prop :=
  (members.map Prod.fst).Pairwise (· < ·)

mutual

/-- Every object in the tree has ascending keys. -/
def Json.Canonical : Json → Prop
  | .array items => CanonicalItems items
  | .object members => AscendingKeys members ∧ CanonicalMembers members
  | _ => True

def CanonicalItems : List Json → Prop
  | [] => True
  | item :: items => item.Canonical ∧ CanonicalItems items

def CanonicalMembers : List (String × Json) → Prop
  | [] => True
  | (_, value) :: members => value.Canonical ∧ CanonicalMembers members

end

theorem canonicalItems_iff {items : List Json} :
    CanonicalItems items ↔ ∀ item ∈ items, item.Canonical := by
  induction items with
  | nil => simp [CanonicalItems]
  | cons item items ih => simp [CanonicalItems, ih]

theorem canonicalMembers_iff {members : List (String × Json)} :
    CanonicalMembers members ↔ ∀ member ∈ members, member.2.Canonical := by
  induction members with
  | nil => simp [CanonicalMembers]
  | cons member members ih => simp [CanonicalMembers, ih]

/-! ## Free values -/

/-- A JSON value in normal form. -/
structure FreeJson where
  json : Json
  canonical : json.Canonical

/-- A JSON object in normal form. -/
structure FreeObject where
  members : List (String × Json)
  canonical : (Json.object members).Canonical

namespace FreeJson

def null : FreeJson := ⟨.null, trivial⟩

def bool (b : Bool) : FreeJson := ⟨.bool b, trivial⟩

def number (n : Number) : FreeJson := ⟨.number n, trivial⟩

def string (s : String) : FreeJson := ⟨.string s, trivial⟩

instance : Inhabited FreeJson := ⟨null⟩

theorem canonical_map_json (items : List FreeJson) : CanonicalItems (items.map json) := by
  simp only [canonicalItems_iff, List.mem_map]
  rintro _ ⟨item, _, rfl⟩
  exact item.canonical

def array (items : List FreeJson) : FreeJson :=
  ⟨.array (items.map json), by simpa only [Json.Canonical] using canonical_map_json items⟩

/-- The object that a value is, if it is one. -/
def object? (value : FreeJson) : Option FreeObject :=
  match h : value.json with
  | .object members => some ⟨members, h ▸ value.canonical⟩
  | _ => none

def string? (value : FreeJson) : Option String :=
  match value.json with
  | .string s => some s
  | _ => none

def bool? (value : FreeJson) : Option Bool :=
  match value.json with
  | .bool b => some b
  | _ => none

def number? (value : FreeJson) : Option Number :=
  match value.json with
  | .number n => some n
  | _ => none

def isNull (value : FreeJson) : Bool :=
  match value.json with
  | .null => true
  | _ => false

def isArray (value : FreeJson) : Bool :=
  match value.json with
  | .array _ => true
  | _ => false

@[ext] theorem ext {a b : FreeJson} (h : a.json = b.json) : a = b := by
  cases a; cases b; cases h; rfl

end FreeJson

/-! ## Free objects -/

/-- Puts a value under a key, in place of an earlier one, or else where the key belongs. -/
def insertMember {α : Type} (key : String) (value : α) : List (String × α) → List (String × α)
  | [] => [(key, value)]
  | (k, v) :: members =>
    if key < k then (key, value) :: (k, v) :: members
    else if key = k then (key, value) :: members
    else (k, v) :: insertMember key value members

theorem mem_insertMember {α : Type} {key : String} {value : α} {members : List (String × α)}
    {entry : String × α} (h : entry ∈ insertMember key value members) :
    entry = (key, value) ∨ entry ∈ members := by
  induction members with
  | nil => simpa [insertMember] using h
  | cons head members ih =>
    obtain ⟨k, v⟩ := head
    simp only [insertMember] at h
    split at h
    · simpa using h
    · split at h
      · rcases List.mem_cons.1 h with h | h
        · exact .inl h
        · exact .inr (List.mem_cons_of_mem _ h)
      · rcases List.mem_cons.1 h with h | h
        · exact .inr (h ▸ List.mem_cons_self)
        · exact (ih h).imp id (List.mem_cons_of_mem _)

/-- Two strings of which neither is below the other are equal. -/
theorem lt_of_not_lt_of_ne {a b : String} (h : ¬ a < b) (hne : a ≠ b) : b < a := by
  refine Decidable.byContradiction fun hba => hne ?_
  exact String.le_antisymm (String.not_lt.1 hba) (String.not_lt.1 h)

theorem ascendingKeys_insertMember {α : Type} {members : List (String × α)}
    (h : AscendingKeys members) (key : String) (value : α) :
    AscendingKeys (insertMember key value members) := by
  induction members with
  | nil => simp [insertMember, AscendingKeys]
  | cons head members ih =>
    obtain ⟨k, v⟩ := head
    simp only [AscendingKeys, List.map_cons, List.pairwise_cons] at h
    simp only [insertMember]
    split
    · rename_i hlt
      simp only [AscendingKeys, List.map_cons, List.pairwise_cons, List.mem_cons]
      refine ⟨?_, h⟩
      rintro k' (rfl | hk')
      · exact hlt
      · exact String.lt_trans hlt (h.1 k' hk')
    · split
      · rename_i heq
        subst heq
        simpa only [AscendingKeys, List.map_cons, List.pairwise_cons] using h
      · rename_i hlt hne
        simp only [AscendingKeys, List.map_cons, List.pairwise_cons]
        refine ⟨?_, ih h.2⟩
        intro k' hk'
        obtain ⟨entry, hentry, rfl⟩ := List.mem_map.1 hk'
        rcases mem_insertMember hentry with rfl | hmem
        · exact lt_of_not_lt_of_ne hlt hne
        · exact h.1 _ (List.mem_map_of_mem hmem)

namespace FreeObject

def empty : FreeObject := ⟨[], by simp [Json.Canonical, AscendingKeys, CanonicalMembers]⟩

instance : Inhabited FreeObject := ⟨empty⟩

def isEmpty (o : FreeObject) : Bool := o.members.isEmpty

/-- The object as a value. -/
def toFreeJson (o : FreeObject) : FreeJson := ⟨.object o.members, o.canonical⟩

theorem ascending (o : FreeObject) : AscendingKeys o.members := by
  have h := o.canonical
  simp only [Json.Canonical] at h
  exact h.1

theorem canonical_of_mem (o : FreeObject) {member : String × Json} (h : member ∈ o.members) :
    member.2.Canonical := by
  have hc := o.canonical
  simp only [Json.Canonical] at hc
  exact canonicalMembers_iff.1 hc.2 member h

/-- The members with their values as free values, in ascending order of their keys. -/
def entries (o : FreeObject) : List (String × FreeJson) :=
  o.members.attach.map fun ⟨member, h⟩ => (member.1, ⟨member.2, o.canonical_of_mem h⟩)

/-- The value under a key. -/
def get? (o : FreeObject) (key : String) : Option FreeJson :=
  o.entries.lookup key

/-- Puts a value under a key, in place of an earlier one. -/
def insert (o : FreeObject) (key : String) (value : FreeJson) : FreeObject :=
  ⟨insertMember key value.json o.members, by
    simp only [Json.Canonical]
    refine ⟨ascendingKeys_insertMember o.ascending key value.json, ?_⟩
    refine canonicalMembers_iff.2 fun member hmember => ?_
    rcases mem_insertMember hmember with rfl | h
    · exact value.canonical
    · exact o.canonical_of_mem h⟩

/-- Drops the keys that fail a test. -/
def filterKeys (o : FreeObject) (keep : String → Bool) : FreeObject :=
  ⟨o.members.filter fun member => keep member.1, by
    simp only [Json.Canonical]
    refine ⟨?_, ?_⟩
    · exact List.Pairwise.sublist (List.Sublist.map _ List.filter_sublist) o.ascending
    · exact canonicalMembers_iff.2 fun member hmember =>
        o.canonical_of_mem (List.mem_filter.1 hmember).1⟩

/-- Drops a key. -/
def erase (o : FreeObject) (key : String) : FreeObject := o.filterKeys (· != key)

/-- The object with the given members; of two under one key the last one stands. -/
def ofList (members : List (String × FreeJson)) : FreeObject :=
  members.foldl (fun o member => o.insert member.1 member.2) empty

@[ext] theorem ext {a b : FreeObject} (h : a.members = b.members) : a = b := by
  cases a; cases b; cases h; rfl

end FreeObject

/-- The member of a value that is an object. -/
def FreeJson.member? (value : FreeJson) (key : String) : Option FreeJson :=
  value.object?.bind (·.get? key)

end BlockPipeline
