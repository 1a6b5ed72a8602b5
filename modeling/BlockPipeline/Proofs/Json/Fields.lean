import BlockPipeline.Proofs.Json.Faithful
import BlockPipeline.Proofs.Json.Shallow

/-!
# Fields as they are given

What a text says about a field, before anything is decoded, and what is known of the field when it
is decoded. A text that is read as an object has its members in an order, and the object has the
last one under each key (`FreeJson.read_eq_object_iff`). A record is decoded from an object, which
gives the fields by name, or from an array, which gives them by position
(`Record.Reads.decodeValue`).
-/

set_option autoImplicit false

namespace BlockPipeline

/-! ## Texts that are objects -/

/-- **The text is an object with these members**, in the order of the text. -/
def ObjectText (text : String) (members : List (String × FreeJson)) : Prop :=
  ∃ docs, Document.read text = (.object docs none, none) ∧ Document.freeMembers docs = .ok members

theorem FreeObject.toFreeJson_injective : Function.Injective FreeObject.toFreeJson :=
  fun _ _ same => FreeObject.ext (Json.object.inj (congrArg FreeJson.json same))

theorem Document.cutFault_eq_ok {cut : Option Fault} : cutFault cut = .ok () ↔ cut = none := by
  cases cut with
  | none => exact ⟨fun _ => rfl, fun _ => rfl⟩
  | some fault => exact ⟨nofun, nofun⟩

/-- A document denotes an object exactly if it is one, whole, and its members denote those that the
object is made of. -/
theorem Document.free_eq_object_iff {root : Document} {o : FreeObject} :
    root.free = .ok o.toFreeJson ↔
      ∃ docs members, root = .object docs none ∧ freeMembers docs = .ok members ∧
        .ofList members = o := by
  constructor
  · intro read
    cases root with
    | object docs cut =>
      simp only [free, bind_eq_ok] at read
      obtain ⟨members, read, ⟨⟩, closed, same⟩ := read
      obtain rfl := cutFault_eq_ok.mp closed
      exact ⟨docs, members, rfl, read, FreeObject.toFreeJson_injective (Except.ok.inj same)⟩
    | array items cut =>
      simp only [free, bind_eq_ok] at read
      obtain ⟨items, -, -, -, same⟩ := read
      cases congrArg FreeJson.json (Except.ok.inj same)
    | null => cases congrArg FreeJson.json (Except.ok.inj read)
    | bool b => cases congrArg FreeJson.json (Except.ok.inj read)
    | number n => cases congrArg FreeJson.json (Except.ok.inj read)
    | string s => cases congrArg FreeJson.json (Except.ok.inj read)
    | broken fault skip => cases read
    | brokenScalar fault skip => cases read
  · rintro ⟨docs, members, rfl, read, rfl⟩
    simp only [free, read, ok_bind]
    rfl

/-- **A text is read as an object** exactly if it is one, and the object is made of its members. -/
theorem FreeJson.read_eq_object_iff {text : String} {o : FreeObject} :
    FreeJson.read text = .ok o.toFreeJson ↔
      ∃ members, ObjectText text members ∧ .ofList members = o := by
  unfold FreeJson.read ObjectText
  rcases Document.read text with ⟨root, trailing⟩
  simp only [bind_eq_ok]
  constructor
  · rintro ⟨value, read, ⟨⟩, ended, ⟨⟩⟩
    obtain rfl := Document.cutFault_eq_ok.mp ended
    obtain ⟨docs, members, rfl, read, made⟩ := Document.free_eq_object_iff.mp read
    exact ⟨members, ⟨docs, rfl, read⟩, made⟩
  · rintro ⟨members, ⟨docs, ⟨⟩, read⟩, made⟩
    exact ⟨_, Document.free_eq_object_iff.mpr ⟨docs, members, rfl, read, made⟩, (), rfl, rfl⟩

/-! ## What is known of a field -/

namespace Record

variable {σ α β : Type} {name : String} {c : Codec β} {documents : String → Option Document}

/-- **What is known of a record that is put together** from these documents. -/
def Reads (r : Record σ α) (documents : String → Option Document) (Q : α → Prop) : Prop :=
  ∀ origin missing a, r.assemble origin documents missing = .ok a → Q a

theorem Reads.start {Q : α → Prop} (a : α) (known : Q a) :
    (Record.start a : Record σ α).Reads documents Q := by
  intro origin missing b put
  cases put
  exact known

/-- A field was decoded, or else it has its default. -/
theorem Reads.field {r : Record σ (β → α)} {Q : α → Prop} {absent : Option β}
    {write : σ → Option Json}
    (reads : r.Reads documents fun g => ∀ b,
      ((∃ origin doc, documents name = some doc ∧ c.decode origin doc = .ok b) ∨
        documents name = none ∧ absent = some b) → Q (g b)) :
    (r.field name c absent write).Reads documents Q := by
  intro origin missing a put
  obtain ⟨g, b, front, rfl, ⟨doc, there, read⟩ | default'⟩ := assemble_field_eq_ok.mp put
  · exact reads origin missing g front b (.inl ⟨origin, doc, there, read⟩)
  · exact reads origin missing g front b (.inr default')

/-- **What is known of a record that was decoded from a value**: its fields stand in an object under
their names, or in an array at their positions. -/
theorem Reads.decodeValue {r : Record α α} {typeName : String}
    (Q : (String → Option Document) → α → Prop)
    (reads : ∀ documents, r.Reads documents (Q documents)) {value : FreeJson} {a : α}
    (decoded : (r.codec typeName).decodeValue value = .ok a) :
    (∃ members, value.json = .object members ∧
      Q (fun name => (members.lookup name).map .ofJson) a) ∨
    ∃ items, value.json = .array items ∧
      Q (fun name => (Document.ofItems items)[r.position name]?) a := by
  obtain ⟨json, canonical⟩ := value
  cases json with
  | object members =>
    have read : r.ofMembers .value (Document.ofMembers members) none = .ok a := decoded
    simp only [ofMembers, bind_eq_ok] at read
    obtain ⟨-, -, -, -, put⟩ := read
    have named : memberNamed (Document.ofMembers members) =
        fun name => (members.lookup name).map .ofJson :=
      funext fun name => Document.memberNamed_ofMembers members name
    rw [named] at put
    exact .inl ⟨members, rfl, reads _ _ _ a put⟩
  | array items =>
    have read : r.ofItems typeName .value (Document.ofItems items) none = .ok a := decoded
    obtain ⟨missing, put⟩ := ofItems_eq_ok read
    exact .inr ⟨items, rfl, reads _ _ _ a put⟩
  | _ => exact absurd decoded Codec.mismatch_ne_ok

end Record

end BlockPipeline
