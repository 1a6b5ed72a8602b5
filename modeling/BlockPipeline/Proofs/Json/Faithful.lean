import BlockPipeline.Json.Record
import BlockPipeline.Proofs.Fallible
import BlockPipeline.Proofs.Json.Normal

/-!
# What is written is read back

A codec is *faithful* if every value is decoded from what is written for it (`Codec.Faithful`). The
written value goes through its normal form on the way, in which the members of an object are sorted,
and nothing else about the order of fields survives.

For a record this comes down to its fields, one at a time (`Record.Restores`): a field that is
written has to be decoded again, and a field that is not written has to have the value that its
absence means. The names of the fields have to differ.
-/

set_option autoImplicit false

namespace BlockPipeline

variable {α β σ : Type}

/-- **Every value is decoded from what is written for it.** -/
def Codec.Faithful (c : Codec α) : Prop := ∀ a, c.decodeValue (c.encode a).normal = .ok a

namespace Codec

/-! ## Writing anew -/

/-- What is written for the value that is decoded. -/
def rewritten (c : Codec α) (value : FreeJson) : Except DecodeError FreeJson :=
  (c.decodeValue value).map fun a => (c.encode a).normal

/-- **What is written anew is in a normal form**: the same is decoded from it, and it is written anew
as itself. -/
theorem Faithful.rewritten {c : Codec α} (faithful : c.Faithful) {value : FreeJson} {a : α}
    (decoded : c.decodeValue value = .ok a) :
    ∃ form, c.rewritten value = .ok form ∧ c.decodeValue form = .ok a ∧
      c.rewritten form = .ok form := by
  refine ⟨(c.encode a).normal, ?_, faithful a, ?_⟩
  · rw [Codec.rewritten, decoded]
    rfl
  · rw [Codec.rewritten, faithful a]
    rfl

/-! ## Types without fields -/

theorem string_faithful : string.Faithful := fun _ => rfl

theorem bool_faithful : bool.Faithful := fun _ => rfl

theorem double_faithful : double.Faithful := fun _ => rfl

theorem double_visible (x : Double) : double.encode x ≠ .null := nofun

theorem word_faithful : word.Faithful := fun w => by
  have back := WordInt.toUInt64?_ofUInt64 w
  simp only [decodeValue, word, Json.normal, FreeJson.number, Document.ofJson, back]

theorem object_faithful : object.Faithful := fun o => by
  have own : (FreeObject.ofList (Json.normalMembers o.members)).toFreeJson = o.toFreeJson :=
    FreeJson.normal_json o.toFreeJson
  have same : FreeObject.ofList (Json.normalMembers o.members) = o :=
    FreeObject.ext (Json.object.inj (congrArg FreeJson.json own))
  have written : Document.ofJson (object.encode o).normal.json =
      .object (Document.ofMembers o.members) none :=
    congrArg (fun value => Document.ofJson value.json) own
  have read : object.decode .value (.object (Document.ofMembers o.members) none) =
      .ok (.ofList (Json.normalMembers o.members)) := by
    simp only [object, Document.freeMembers_ofMembers]
    rfl
  rw [decodeValue, written, read, same]

/-- A list is read back where its items are. -/
theorem Faithful.list {c : Codec α} (faithful : c.Faithful) : c.list.Faithful := fun values => by
  have each : (Document.ofItems ((Json.normalItems (values.map c.encode)).map FreeJson.json)).mapM
      (c.decode .value) = .ok values := by
    induction values with
    | nil => rfl
    | cons a values ih =>
      have first : c.decode .value (.ofJson (c.encode a).normal.json) = .ok a := faithful a
      simp only [List.map_cons, Json.normalItems, Document.ofItems, List.mapM_cons, first, ih]
      rfl
  show c.list.decode .value (.array _ none) = .ok values
  simp only [Codec.list, each]
  rfl

/-- A value that may be absent is read back where it is never written as `null`. -/
theorem Faithful.nullable {c : Codec α} (faithful : c.Faithful)
    (visible : ∀ a, c.encode a ≠ .null) : c.nullable.Faithful := by
  rintro (_ | a)
  · rfl
  · have read : c.decode .value (.ofJson (c.encode a).normal.json) = .ok a := faithful a
    have shown : Document.ofJson (c.encode a).normal.json ≠ .null := by
      cases written : c.encode a <;> first | exact absurd written (visible a) | exact nofun
    show c.nullable.decode .value (.ofJson (c.encode a).normal.json) = .ok (some a)
    have passed : c.nullable.decode .value (.ofJson (c.encode a).normal.json) =
        (c.decode .value (.ofJson (c.encode a).normal.json)).map some := by
      simp only [Codec.nullable]
    rw [passed, read]
    rfl

theorem variant_faithful {cases : List (String × α)} {name : α → String}
    (named : ∀ a, cases.lookup (name a) = some a) : (variant cases name).Faithful := fun a => by
  simp only [decodeValue, variant, Json.normal, FreeJson.string, Document.ofJson, pickVariant,
    named]

end Codec

/-! ## Records -/

@[simp] theorem liftFault_ok (a : α) : liftFault (.ok a) = .ok a := rfl

namespace Document

/-- The member with a name, in a document without marks. -/
theorem memberNamed_ofMembers (members : List (String × Json)) (name : String) :
    Record.memberNamed (ofMembers members) name = (members.lookup name).map ofJson := by
  induction members with
  | nil => rfl
  | cons member members ih =>
    obtain ⟨key, value⟩ := member
    rw [lookup_cons_eq]
    by_cases same : name = key
    · simp [Record.memberNamed, ofMembers, same]
    · have differ : (key == name) = false := beq_false_of_ne fun h => same h.symm
      rw [if_neg same, ← ih]
      simp [Record.memberNamed, ofMembers, differ]

end Document

namespace Record

/-- A field is found under its name. -/
theorem find?_name {fields : List Field} (names : (fields.map Field.name).Nodup) {f : Field}
    (mem : f ∈ fields) : fields.find? (·.name == f.name) = some f := by
  induction fields with
  | nil => cases mem
  | cons g fields ih =>
    obtain ⟨new, names⟩ := List.nodup_cons.mp names
    rcases List.mem_cons.mp mem with rfl | mem
    · simp
    · have differ : (g.name == f.name) = false := beq_false_of_ne fun same =>
        new (same ▸ List.mem_map_of_mem mem)
      rw [List.find?_cons, differ]
      exact ih names mem

/-- Nothing is wrong with members of distinct names if each is under the name of a field that takes
it. -/
theorem checkMembers_ofMembers {fields : List Field} (names : (fields.map Field.name).Nodup)
    {members : List (String × Json)} (distinct : (members.map Prod.fst).Nodup)
    (checks : ∀ member ∈ members, ∃ f ∈ fields, f.name = member.1 ∧
      f.check .value (.ofJson member.2) = .ok ())
    {seen : List String} (new : ∀ member ∈ members, member.1 ∉ seen) :
    checkMembers fields .value seen (Document.ofMembers members) = .ok () := by
  induction members generalizing seen with
  | nil => rfl
  | cons member members ih =>
    obtain ⟨key, value⟩ := member
    obtain ⟨⟨f, mem, rfl, taken⟩, later⟩ := List.forall_mem_cons.mp checks
    obtain ⟨differ, apart⟩ := List.nodup_cons.mp distinct
    obtain ⟨unseen, rest⟩ := List.forall_mem_cons.mp new
    have newer : ∀ member ∈ members, member.1 ∉ f.name :: seen := by
      intro m hm given
      rcases List.mem_cons.mp given with same | given
      · exact differ (List.mem_map.mpr ⟨m, hm, same⟩)
      · exact rest m hm given
    have others := ih apart later newer
    simp [Document.ofMembers, checkMembers, Document.key, find?_name names mem, unseen, taken,
      others]

variable {x : σ}

/-! ### One more field -/

section Field

variable {r : Record σ (β → α)} {name : String} {c : Codec β} {absent : Option β}
  {write : σ → Option Json}

theorem names_field : (r.field name c absent write).fields.map Field.name =
    r.fields.map Field.name ++ [name] := List.map_append

theorem mem_members_field {member : String × Json} :
    member ∈ (r.field name c absent write).members x ↔
      member ∈ r.members x ∨ member.1 = name ∧ write x = some member.2 := by
  simp only [Record.field, List.mem_append]
  cases write x with
  | none => simp
  | some json => simp [Prod.ext_iff, eq_comm]

/-- What is written for the fields in front is found as before. -/
theorem lookup_members_field_of_ne {other : String} (differ : other ≠ name) :
    ((r.field name c absent write).members x).lookup other = (r.members x).lookup other := by
  rw [Record.field, List.lookup_append]
  cases write x with
  | none => simp
  | some json => simp [lookup_cons_eq, differ]

/-- What is written for the field is found under its name, which is new. -/
theorem lookup_members_field_self (new : name ∉ (r.members x).map Prod.fst) :
    ((r.field name c absent write).members x).lookup name = write x := by
  have before : (r.members x).lookup name = none :=
    List.lookup_eq_none_iff.mpr fun member mem => bne_iff_ne.mpr fun same =>
      new (List.mem_map.mpr ⟨member, mem, same.symm⟩)
  rw [Record.field, List.lookup_append, before]
  cases write x <;> simp

end Field

/-- **What is written for `x` is put together to `a`**, field by field. -/
structure Restores (r : Record σ α) (x : σ) (a : α) : Prop where
  /-- The members are written in the order of the fields. -/
  keys : ((r.members x).map Prod.fst).Sublist (r.fields.map Field.name)
  checks : ∀ member ∈ r.members x, ∃ f ∈ r.fields, f.name = member.1 ∧
    f.check .value (.ofJson member.2.normal.json) = .ok ()
  assemble : (r.fields.map Field.name).Nodup → ∀ documents missing,
    (∀ name ∈ r.fields.map Field.name, documents name =
      ((r.members x).lookup name).map fun value => .ofJson value.normal.json) →
    r.assemble .value documents missing = .ok a

theorem restores_start (a : α) : (start a : Record σ α).Restores x a where
  keys := List.nil_sublist _
  checks := nofun
  assemble _ _ _ _ := rfl

/-- One more field: it is decoded from what is written for it, or its absence means its value. -/
theorem Restores.field {r : Record σ (β → α)} {g : β → α} (restores : r.Restores x g)
    {name : String} {c : Codec β} {absent : Option β} {write : σ → Option Json} {b : β}
    (written : ∀ json, write x = some json → c.decodeValue json.normal = .ok b)
    (unwritten : write x = none → absent = some b) :
    (r.field name c absent write).Restores x (g b) := by
  constructor
  · rw [names_field]
    simp only [Record.field, List.map_append]
    refine restores.keys.append ?_
    cases write x with
    | none => exact List.nil_sublist _
    | some json => exact List.Sublist.refl _
  · intro member mem
    rcases mem_members_field.mp mem with mem | ⟨named, there⟩
    · obtain ⟨f, hf, named, taken⟩ := restores.checks member mem
      exact ⟨f, List.mem_append_left _ hf, named, taken⟩
    · refine ⟨_, List.mem_append_right _ (List.mem_singleton_self _), named.symm, ?_⟩
      have read : c.decode .value (.ofJson member.2.normal.json) = .ok b := written _ there
      simp only [read]
      rfl
  · intro distinct documents missing there
    simp only [names_field, List.mem_append, List.mem_singleton] at distinct there
    obtain ⟨new, distinct⟩ := List.nodup_cons.mp
      ((List.perm_append_singleton name _).nodup_iff.mp distinct)
    have front : r.assemble .value documents missing = .ok g :=
      restores.assemble distinct documents missing fun other mem => by
        have differ : other ≠ name := fun same => new (same ▸ mem)
        rw [there other (.inl mem), lookup_members_field_of_ne differ]
    have own : documents name = (write x).map fun value => .ofJson value.normal.json := by
      rw [there name (.inr rfl),
        lookup_members_field_self fun mem => new (restores.keys.subset mem)]
    simp only [Record.field, front, ok_bind, own]
    cases present : write x with
    | none =>
      rw [unwritten present]
      rfl
    | some json =>
      have read : c.decode .value (.ofJson json.normal.json) = .ok b := written json present
      simp only [Option.map_some, read]
      rfl

/-- A required field is read back where its type is. -/
theorem Restores.required {r : Record σ (β → α)} {g : β → α} (restores : r.Restores x g)
    {name : String} {c : Codec β} (faithful : c.Faithful) (get : σ → β) :
    (r.required name c get).Restores x (g (get x)) :=
  restores.field (fun _ written => Option.some.inj written ▸ faithful (get x)) nofun

/-- So is a field with a value of its own, since it is always written. -/
theorem Restores.defaulted {r : Record σ (β → α)} {g : β → α} (restores : r.Restores x g)
    {name : String} {c : Codec β} (faithful : c.Faithful) (absent : β) (get : σ → β) :
    (r.defaulted name c absent get).Restores x (g (get x)) :=
  restores.field (fun _ written => Option.some.inj written ▸ faithful (get x)) nofun

/-- So is a field that is written as `null` where there is no value, if no value is. -/
theorem Restores.nullable {r : Record σ (Option β → α)} {g : Option β → α}
    (restores : r.Restores x g) {name : String} {c : Codec β} (faithful : c.Faithful)
    (visible : ∀ b, c.encode b ≠ .null) (get : σ → Option β) :
    (r.nullable name c get).Restores x (g (get x)) :=
  restores.defaulted (faithful.nullable visible) none get

/-- A field that is not written has no value, and without it none is read. -/
theorem Restores.optional {r : Record σ (Option β → α)} {g : Option β → α}
    (restores : r.Restores x g) {name : String} {c : Codec β} (faithful : c.Faithful)
    (visible : ∀ b, c.encode b ≠ .null) (get : σ → Option β) :
    (r.optional name c get).Restores x (g (get x)) := by
  refine restores.field ?_ ?_
  · intro json written
    obtain ⟨b, there, rfl⟩ := Option.map_eq_some_iff.mp written
    rw [there]
    exact (faithful.nullable visible) (some b)
  · intro unwritten
    rw [Option.map_eq_none_iff.mp unwritten]

/-- What is written under a name is found there when the members are sorted. -/
theorem lookup_sorted {members : List (String × Json)} (distinct : (members.map Prod.fst).Nodup)
    (name : String) :
    (FreeObject.ofList (Json.normalMembers members)).members.lookup name =
      (members.lookup name).map fun value => value.normal.json := by
  have keys := Json.keys_normalMembers members
  rw [FreeObject.lookup_ofList (keys ▸ distinct), Json.normalMembers_eq_map, lookup_map,
    Option.map_map]
  rfl

theorem codec_visible {r : Record α α} {typeName : String} (a : α) :
    (r.codec typeName).encode a ≠ .null := nofun

/-- **A record whose description restores every value is read back.** -/
theorem codec_faithful {r : Record α α} {typeName : String}
    (names : (r.fields.map Field.name).Nodup) (restores : ∀ a, r.Restores a a) :
    (r.codec typeName).Faithful := fun a => by
  obtain ⟨keys, checks, assemble⟩ := restores a
  have distinct : ((r.members a).map Prod.fst).Nodup := keys.nodup names
  let sorted := FreeObject.ofList (Json.normalMembers (r.members a))
  have taken : checkMembers r.fields .value [] (Document.ofMembers sorted.members) = .ok () := by
    refine checkMembers_ofMembers names sorted.ascending.nodup ?_ fun _ _ => List.not_mem_nil
    intro member mem
    obtain ⟨entry, there, rfl⟩ := FreeObject.mem_ofList mem
    rw [Json.normalMembers_eq_map] at there
    obtain ⟨written, member, rfl⟩ := List.mem_map.mp there
    exact checks written member
  have put : r.assemble .value (memberNamed (Document.ofMembers sorted.members)) .missingField =
      .ok a := by
    refine assemble names _ _ fun name _ => ?_
    rw [Document.memberNamed_ofMembers, lookup_sorted distinct, Option.map_map]
    rfl
  show r.ofMembers .value (Document.ofMembers sorted.members) none = .ok a
  simp only [ofMembers, taken, put, ok_bind, Document.cutFault, liftFault_ok]

end Record

end BlockPipeline
