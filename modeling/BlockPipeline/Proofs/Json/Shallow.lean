import BlockPipeline.Json.Record
import BlockPipeline.Proofs.Json.Depth

/-!
# Decoding does not deepen

What is decoded from a document is written no deeper than the document, up to the few levels that a
type always has, because a field that was absent is written with its default (`Codec.Shallow`).
A text that is read keeps to `Document.depthLimit` levels, so whatever is decoded from a text is
written within them.

For a record the depth is that of its fields. What is known of the fields when they are decoded is
carried up to the record that is put together from them (`Record.Ensures`).
-/

set_option autoImplicit false

namespace BlockPipeline

variable {α β σ : Type}

/-- **What is decoded is written no deeper than the document**, or no deeper than `k` levels. -/
def Codec.Shallow (c : Codec α) (k : Nat) : Prop :=
  ∀ origin doc a, c.decode origin doc = .ok a → (c.encode a).depth ≤ max doc.depth k

/-- A fault of the text is the only failure that is passed on. -/
theorem liftFault_eq_ok {result : Except Fault α} {a : α} :
    liftFault result = .ok a ↔ result = .ok a := by
  cases result <;> simp [liftFault]

namespace Codec

/-- What is decoded from a text is written within the limit of a text. -/
theorem Shallow.decodeText_depth_le {c : Codec α} {k : Nat} (shallow : c.Shallow k)
    (le : k ≤ Document.depthLimit) {text : String} {a : α} (read : c.decodeText text = .ok a) :
    (c.encode a).depth ≤ Document.depthLimit := by
  simp only [decodeText, bind_eq_ok] at read
  obtain ⟨_, decoded, -, -, ⟨⟩⟩ := read
  exact Nat.le_trans (shallow .text _ a decoded)
    (Nat.max_le.mpr ⟨Document.read_depth_le text, le⟩)

/-! ## Types without fields -/

@[simp] theorem string_depth (s : String) : (string.encode s).depth = 0 := rfl

theorem string_shallow : string.Shallow 0 := fun _ _ _ _ => Nat.zero_le _

@[simp] theorem bool_depth (b : Bool) : (bool.encode b).depth = 0 := rfl

theorem bool_shallow : bool.Shallow 0 := fun _ _ _ _ => Nat.zero_le _

@[simp] theorem word_depth (w : UInt64) : (word.encode w).depth = 0 := rfl

theorem word_shallow : word.Shallow 0 := fun _ _ _ _ => Nat.zero_le _

@[simp] theorem double_depth (x : Double) : (double.encode x).depth = 0 := rfl

theorem double_shallow : double.Shallow 0 := fun _ _ _ _ => Nat.zero_le _

@[simp] theorem variant_depth (cases : List (String × α)) (name : α → String) (a : α) :
    ((variant cases name).encode a).depth = 0 := rfl

theorem variant_shallow (cases : List (String × α)) (name : α → String) :
    (variant cases name).Shallow 0 := fun _ _ _ _ => Nat.zero_le _

/-- Nothing but the found value is decoded from a mismatch. -/
theorem mismatch_ne_ok {expected : String} {doc : Document} {a : α} :
    (mismatch expected doc : Except DecodeError α) ≠ .ok a := by
  intro read
  obtain ⟨found, -, wrong⟩ := bind_eq_ok.mp read
  cases wrong

/-- An object without members has a level, too. -/
theorem object_shallow : object.Shallow 1 := by
  intro origin doc o read
  simp only [object] at read
  split at read
  next members cut =>
    simp only [bind_eq_ok, liftFault_eq_ok] at read
    obtain ⟨values, read, -, -, ⟨⟩⟩ := read
    have within := Document.ofList_depth_le (Document.freeMembers_depth_le read)
    exact Nat.le_trans (Nat.succ_le_succ within) (Nat.le_max_left _ _)
  next => exact absurd read mismatch_ne_ok

/-- Whatever a run over a list gives was made of something in the list. -/
theorem exists_of_mem_mapM {ε : Type} {f : α → Except ε β} {as : List α} {bs : List β}
    (run : as.mapM f = .ok bs) : ∀ b ∈ bs, ∃ a ∈ as, f a = .ok b := by
  induction as generalizing bs with
  | nil =>
    cases run
    exact nofun
  | cons a as ih =>
    simp only [List.mapM_cons, bind_eq_ok] at run
    obtain ⟨b, first, others, run, ⟨⟩⟩ := run
    refine List.forall_mem_cons.mpr ⟨⟨a, List.mem_cons_self, first⟩, fun later mem => ?_⟩
    obtain ⟨a', there, made⟩ := ih run later mem
    exact ⟨a', List.mem_cons_of_mem _ there, made⟩

theorem list_depth_le_iff {c : Codec α} {n : Nat} {values : List α} :
    (c.list.encode values).depth ≤ n + 1 ↔ ∀ a ∈ values, (c.encode a).depth ≤ n := by
  refine Nat.succ_le_succ_iff.trans (itemsDepth_le_iff.trans ?_)
  exact List.forall_mem_map

/-- A list is one level deeper than its items. -/
theorem Shallow.list {c : Codec α} {k : Nat} (shallow : c.Shallow k) : c.list.Shallow (k + 1) := by
  intro origin doc values read
  simp only [Codec.list] at read
  split at read
  next items cut =>
    simp only [bind_eq_ok, liftFault_eq_ok] at read
    obtain ⟨_, read, -, -, ⟨⟩⟩ := read
    have each : ∀ a ∈ values, (c.encode a).depth ≤ max (Document.itemsDepth items) k := by
      intro a mem
      obtain ⟨doc, inItems, decoded⟩ := exists_of_mem_mapM read a mem
      have within := shallow origin doc a decoded
      have inside := Document.itemsDepth_le_iff.mp (Nat.le_refl _) doc inItems
      omega
    have level : (Document.array items cut).depth = Document.itemsDepth items + 1 := rfl
    refine Nat.le_trans (list_depth_le_iff.mpr each) ?_
    omega
  next => exact absurd read mismatch_ne_ok

@[simp] theorem nullable_depth_le_iff {c : Codec α} {n : Nat} {a : Option α} :
    (c.nullable.encode a).depth ≤ n ↔ ∀ b, a = some b → (c.encode b).depth ≤ n := by
  cases a with
  | none => simp [Codec.nullable, Json.depth]
  | some b => simp [Codec.nullable]

@[simp] theorem nullable_depth_eq_zero_iff {c : Codec α} {a : Option α} :
    (c.nullable.encode a).depth = 0 ↔ ∀ b, a = some b → (c.encode b).depth = 0 := by
  simp only [← Nat.le_zero, nullable_depth_le_iff]

/-- What may be absent is no deeper for that. -/
theorem Shallow.nullable {c : Codec α} {k : Nat} (shallow : c.Shallow k) :
    c.nullable.Shallow k := by
  intro origin doc a read
  simp only [Codec.nullable] at read
  split at read
  next =>
    cases read
    exact Nat.zero_le _
  next =>
    obtain ⟨b, decoded, rfl⟩ := map_eq_ok.mp read
    exact shallow origin doc b decoded

end Codec

/-! ## Records -/

namespace Record

variable {n k : Nat} {name : String} {c : Codec β}

/-! ### What is written for the fields -/

/-- The fields of `x` are written within `n` levels. -/
def Within (r : Record σ α) (x : σ) (n : Nat) : Prop :=
  ∀ member ∈ r.members x, member.2.depth ≤ n

@[simp, grind ←] theorem within_start (a : α) (x : σ) : (start a : Record σ α).Within x n := nofun

theorem within_field {r : Record σ (β → α)} {absent : Option β} {write : σ → Option Json} {x : σ} :
    (r.field name c absent write).Within x n ↔
      r.Within x n ∧ ∀ json, write x = some json → json.depth ≤ n := by
  simp only [Within, Record.field, List.forall_mem_append]
  cases write x <;> simp

@[simp, grind =] theorem within_required {r : Record σ (β → α)} {get : σ → β} {x : σ} :
    (r.required name c get).Within x n ↔ r.Within x n ∧ (c.encode (get x)).depth ≤ n := by
  simp [required, within_field]

@[simp, grind =] theorem within_defaulted {r : Record σ (β → α)} {absent : β} {get : σ → β}
    {x : σ} : (r.defaulted name c absent get).Within x n ↔ r.Within x n ∧ (c.encode (get x)).depth ≤ n := by
  simp [defaulted, within_field]

@[simp, grind =] theorem within_nullable {r : Record σ (Option β → α)} {get : σ → Option β}
    {x : σ} : (r.nullable name c get).Within x n ↔
      r.Within x n ∧ (c.nullable.encode (get x)).depth ≤ n :=
  within_defaulted

/-- A field that is not written would be as deep as `null`. -/
@[simp, grind =] theorem within_optional {r : Record σ (Option β → α)} {get : σ → Option β}
    {x : σ} : (r.optional name c get).Within x n ↔
      r.Within x n ∧ (c.nullable.encode (get x)).depth ≤ n := by
  rw [optional, within_field]
  cases get x with
  | none => simp [Codec.nullable, Json.depth]
  | some b => simp [Codec.nullable]

/-- A record is one level deeper than its fields. -/
theorem codec_depth_le_iff {r : Record α α} {typeName : String} {a : α} :
    ((r.codec typeName).encode a).depth ≤ n + 1 ↔ r.Within a n :=
  Nat.succ_le_succ_iff.trans membersDepth_le_iff

/-! ### What is decoded from them -/

/-- **A record with one more field is put together** from the record without it and from what was
decoded of the field, or from the default where there is nothing to decode. -/
theorem assemble_field_eq_ok {r : Record σ (β → α)} {absent : Option β} {write : σ → Option Json}
    {origin : Origin} {documents : String → Option Document} {missing : String → DecodeError}
    {a : α} :
    (r.field name c absent write).assemble origin documents missing = .ok a ↔
      ∃ g b, r.assemble origin documents missing = .ok g ∧ g b = a ∧
        ((∃ doc, documents name = some doc ∧ c.decode origin doc = .ok b) ∨
          documents name = none ∧ absent = some b) := by
  simp only [Record.field, bind_eq_ok]
  constructor
  · rintro ⟨g, front, put⟩
    cases there : documents name with
    | some doc =>
      rw [there] at put
      obtain ⟨b, read, ⟨⟩⟩ := bind_eq_ok.mp put
      exact ⟨g, b, front, rfl, .inl ⟨doc, rfl, read⟩⟩
    | none =>
      rw [there] at put
      cases absent with
      | some b =>
        cases put
        exact ⟨g, b, front, rfl, .inr ⟨rfl, rfl⟩⟩
      | none => cases put
  · rintro ⟨g, b, front, rfl, ⟨doc, there, read⟩ | ⟨there, rfl⟩⟩
    · refine ⟨g, front, ?_⟩
      rw [there]
      exact bind_eq_ok.mpr ⟨b, read, rfl⟩
    · refine ⟨g, front, ?_⟩
      rw [there]
      rfl

/-- **What is known of a record that is put together** from documents of at most `n` levels. -/
def Ensures (r : Record σ α) (n : Nat) (Q : α → Prop) : Prop :=
  ∀ origin documents missing, (∀ name doc, documents name = some doc → doc.depth ≤ n) →
    ∀ a, r.assemble origin documents missing = .ok a → Q a

theorem Ensures.start {Q : α → Prop} (a : α) (known : Q a) :
    (Record.start a : Record σ α).Ensures n Q := by
  intro origin documents missing _ b put
  cases put
  exact known

/-- What is known of a field is known because it was decoded, or else because it is the default. -/
theorem Ensures.field {r : Record σ (β → α)} {Q : α → Prop} {absent : Option β}
    {write : σ → Option Json}
    (ensures : r.Ensures n fun g => ∀ b, (c.encode b).depth ≤ max n k → Q (g b))
    (shallow : c.Shallow k) (default' : ∀ b, absent = some b → (c.encode b).depth ≤ k) :
    (r.field name c absent write).Ensures n Q := by
  intro origin documents missing within a put
  obtain ⟨g, b, front, rfl, ⟨doc, there, read⟩ | ⟨-, same⟩⟩ := assemble_field_eq_ok.mp put
  · have room := within name doc there
    have bound := shallow origin doc b read
    exact ensures origin documents missing within g front b (by omega)
  · have bound := Nat.le_trans (default' b same) (Nat.le_max_right n k)
    exact ensures origin documents missing within g front b bound

theorem Ensures.required {r : Record σ (β → α)} {Q : α → Prop} {get : σ → β}
    (ensures : r.Ensures n fun g => ∀ b, (c.encode b).depth ≤ max n k → Q (g b))
    (shallow : c.Shallow k) : (r.required name c get).Ensures n Q :=
  ensures.field shallow nofun

theorem Ensures.defaulted {r : Record σ (β → α)} {Q : α → Prop} {absent : β} {get : σ → β}
    (ensures : r.Ensures n fun g => ∀ b, (c.encode b).depth ≤ max n k → Q (g b))
    (shallow : c.Shallow k) (default' : (c.encode absent).depth ≤ k) :
    (r.defaulted name c absent get).Ensures n Q :=
  ensures.field shallow fun _ same => Option.some.inj same ▸ default'

theorem Ensures.nullable {r : Record σ (Option β → α)} {Q : α → Prop} {get : σ → Option β}
    (ensures : r.Ensures n fun g => ∀ b, (c.nullable.encode b).depth ≤ max n k → Q (g b))
    (shallow : c.Shallow k) : (r.nullable name c get).Ensures n Q :=
  ensures.defaulted shallow.nullable (Nat.zero_le _)

theorem Ensures.optional {r : Record σ (Option β → α)} {Q : α → Prop} {get : σ → Option β}
    (ensures : r.Ensures n fun g => ∀ b, (c.nullable.encode b).depth ≤ max n k → Q (g b))
    (shallow : c.Shallow k) : (r.optional name c get).Ensures n Q :=
  ensures.field shallow.nullable fun _ same => Option.some.inj same ▸ Nat.zero_le _

theorem memberNamed_mem {members : List (Document × Document)} {name : String} {doc : Document}
    (found : memberNamed members name = some doc) : ∃ key, (key, doc) ∈ members := by
  obtain ⟨member, there, rfl⟩ := Option.map_eq_some_iff.mp found
  exact ⟨member.1, List.mem_of_find?_eq_some there⟩

/-- A record that is read from an array is put together from its items. -/
theorem ofItems_eq_ok {r : Record σ α} {typeName : String} {origin : Origin}
    {items : List Document} {cut : Option Fault} {a : α}
    (read : r.ofItems typeName origin items cut = .ok a) :
    ∃ missing, r.assemble origin (fun name => items[r.position name]?) missing = .ok a := by
  refine ⟨fun name => .wrongLength (r.position name) (r.shape typeName), ?_⟩
  obtain ⟨-, -, read⟩ := bind_eq_ok.mp read
  extract_lets afterwards at read
  have read : afterwards () = .ok a := by
    split at read
    · obtain ⟨_, -, read⟩ := bind_eq_ok.mp read
      exact read
    · exact read
  obtain ⟨b, put, read⟩ := bind_eq_ok.mp read
  extract_lets last at read
  have read : last () = .ok a := by
    split at read
    · cases origin <;> cases read
    · exact read
  obtain ⟨-, -, ⟨⟩⟩ := bind_eq_ok.mp read
  exact put

/-- **What a record's description makes sure of is known of whatever is decoded.** -/
theorem Ensures.codec {r : Record α α} {Q : α → Prop} {origin : Origin} {doc : Document} {a : α}
    {typeName : String} (ensures : r.Ensures (doc.depth - 1) Q)
    (read : (r.codec typeName).decode origin doc = .ok a) : Q a := by
  simp only [Record.codec] at read
  split at read
  next members cut =>
    simp only [ofMembers, bind_eq_ok] at read
    obtain ⟨-, -, -, -, put⟩ := read
    refine ensures origin _ _ (fun name value found => ?_) a put
    obtain ⟨key, mem⟩ := memberNamed_mem found
    exact (Document.membersDepth_le_iff.mp (Nat.le_refl _) _ mem).2
  next items cut =>
    obtain ⟨missing, put⟩ := ofItems_eq_ok read
    refine ensures origin _ _ (fun name value found => ?_) a put
    exact Document.itemsDepth_le_iff.mp (Nat.le_refl _) value (List.mem_of_getElem? found)
  next => exact absurd read Codec.mismatch_ne_ok

/-- **A record is decoded no deeper than the document** if its fields are. -/
theorem codec_shallow {r : Record α α} {typeName : String}
    (each : ∀ n, r.Ensures n fun a => r.Within a (max n k)) :
    (r.codec typeName).Shallow (k + 1) := by
  intro origin doc a read
  refine Nat.le_trans (codec_depth_le_iff.mpr ((each _).codec read)) ?_
  omega

end Record

end BlockPipeline
