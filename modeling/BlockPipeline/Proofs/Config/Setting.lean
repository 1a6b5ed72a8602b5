import BlockPipeline.Config.Basic
import BlockPipeline.Proofs.Json.Faithful
import BlockPipeline.Proofs.Json.Shallow

/-!
# Typed keys

Some keys of a configuration have a type. A key that is absent or `null` has no value; otherwise the
codec of the type decides whether what stands under the key is of the type (`KeyType.Holds`), and what
is written for it in turn. Writing gives the value again, but that an integer under a key for
floating-point numbers is one of them from then on, and that `null` is not written (`KeyType.kept`).

What a typed view says of one key is a `Setting`: the key, its type, and a value or none. The three
types are told apart only in what their codecs read (`KeyType.decodeValue_of_holds`,
`KeyType.holds_of_decodeValue`); all else holds of every type.

| Statement | In words | From |
| --- | --- | --- |
| `Setting.exists_known?` | a key that is admitted is read | `KeyType.decodeValue_of_holds` |
| `Setting.readFrom_iff` | which value a key is read as, by what stands under it | `exists_known?`, `written_injective` |
| `Setting.readFrom_of_written` | a value is read back from where it is written | `KeyType.kept_encode` |
-/

set_option autoImplicit false

namespace BlockPipeline

/-! ## Types of keys -/

/-- The types that typed keys have. -/
inductive KeyType where
  | word
  | text
  | number
deriving DecidableEq

namespace KeyType

/-- What a value of the type is read as. -/
abbrev Value : KeyType → Type
  | .word => UInt64
  | .text => String
  | .number => Double

def codec : (type : KeyType) → Codec type.Value
  | .word => .word
  | .text => .string
  | .number => .double

/-- **A value is of the type**: an unsigned integer of 64 bits, a text, or any number. -/
def Holds : KeyType → FreeJson → Prop
  | .word, value => ∃ n : UInt64, value = .ofWord n
  | .text, value => ∃ s, value = .string s
  | .number, value => ∃ n, value = .number n

/-- A value as a value of the type: an integer is the floating-point number nearest to it, where the
type has those. -/
def converted (type : KeyType) (value : FreeJson) : FreeJson :=
  match type, value.number? with
  | .number, some (.integer n) => .ofDouble (.ofInt n.value)
  | _, _ => value

/-- **What is kept of a value** under a key of the type: nothing of `null`. -/
def kept (type : KeyType) (value : FreeJson) : Option FreeJson :=
  if value.isNull then none else some (type.converted value)

variable {type : KeyType}

theorem codec_faithful (type : KeyType) : type.codec.Faithful := by
  cases type with
  | word => exact Codec.word_faithful
  | text => exact Codec.string_faithful
  | number => exact Codec.double_faithful

/-- A value of the type is written as one, and not as `null`. -/
theorem kept_encode (a : type.Value) :
    type.Holds (type.codec.encode a).normal ∧
      type.kept (type.codec.encode a).normal = some (type.codec.encode a).normal := by
  cases type with
  | word => exact ⟨⟨a, rfl⟩, rfl⟩
  | text => exact ⟨⟨a, rfl⟩, rfl⟩
  | number => exact ⟨⟨.fractional a, rfl⟩, rfl⟩

/-- **A value of the type is read**, and written as the value that it is converted to. -/
theorem decodeValue_of_holds {value : FreeJson} (holds : type.Holds value) :
    ∃ a, type.codec.decodeValue value = .ok a ∧
      type.kept value = some (type.codec.encode a).normal := by
  cases type with
  | word =>
    obtain ⟨n, rfl⟩ := holds
    exact ⟨n, Codec.word_faithful n, rfl⟩
  | text =>
    obtain ⟨s, rfl⟩ := holds
    exact ⟨s, rfl, rfl⟩
  | number =>
    obtain ⟨n | x, rfl⟩ := holds
    · exact ⟨.ofInt n.value, rfl, rfl⟩
    · exact ⟨x, rfl, rfl⟩

/-- An unsigned integer is that of its word. -/
theorem eq_ofUInt64 {n : WordInt} {w : UInt64} (fits : n.toUInt64? = some w) : n = .ofUInt64 w := by
  obtain ⟨value, inWord⟩ := n
  simp only [WordInt.toUInt64?] at fits
  obtain ⟨unsigned, same⟩ := Option.ite_none_left_eq_some.mp fits
  obtain rfl := Option.some.inj same
  have small : value.toNat < UInt64.size := by
    have : UInt64.size = 18446744073709551616 := rfl
    omega
  have kept : (UInt64.ofNat value.toNat).toNat = value.toNat := UInt64.toNat_ofNat_of_lt small
  simp only [WordInt.ofUInt64, WordInt.mk.injEq, kept]
  omega

/-- **No other value is read.** -/
theorem holds_of_decodeValue {value : FreeJson} {a : type.Value}
    (decoded : type.codec.decodeValue value = .ok a) : type.Holds value := by
  obtain ⟨json, canonical⟩ := value
  cases type with
  | word =>
    cases json with
    | number n =>
      cases n with
      | integer n =>
        have read : (Codec.word.decode .value (.number (.integer n))) = .ok a := decoded
        simp only [Codec.word] at read
        split at read
        next w fits =>
          obtain rfl := eq_ofUInt64 fits
          exact ⟨w, rfl⟩
        next => cases read
      | fractional x => exact absurd decoded Codec.mismatch_ne_ok
    | _ => exact absurd decoded Codec.mismatch_ne_ok
  | text =>
    cases json with
    | string s => exact ⟨s, rfl⟩
    | _ => exact absurd decoded Codec.mismatch_ne_ok
  | number =>
    cases json with
    | number n => exact ⟨n, rfl⟩
    | _ => exact absurd decoded Codec.mismatch_ne_ok

end KeyType

/-! ## One typed key -/

/-- What is not `null` is decoded as if it could not be `null`. -/
theorem Codec.nullable_decodeValue {α : Type} {c : Codec α} {value : FreeJson}
    (typed : value ≠ .null) : c.nullable.decodeValue value = (c.decodeValue value).map some := by
  obtain ⟨json, canonical⟩ := value
  cases json with
  | null => exact absurd rfl typed
  | _ => rfl

namespace Config

/-- Under a typed key there is nothing, `null`, or a value of its type. -/
def Admits (c : Config) (key : String) (type : KeyType) : Prop :=
  ∀ value, c.get? key = some value → value = .null ∨ type.Holds value

end Config

/-- What a view says of a typed key: a value of its type, or none. -/
structure Setting where
  key : String
  type : KeyType
  value : Option type.Value

namespace Setting

/-- The value that is written. -/
def written (s : Setting) : Option FreeJson :=
  s.value.map fun a => (s.type.codec.encode a).normal

/-- The key is read so. -/
def ReadFrom (s : Setting) (c : Config) : Prop := c.known? s.key s.type.codec = some s.value

/-- What is written tells what was read. -/
theorem written_injective {key : String} {type : KeyType} {a b : Option type.Value}
    (same : written ⟨key, type, a⟩ = written ⟨key, type, b⟩) : a = b := by
  refine Option.map_injective (fun x y written => ?_) same
  have read := type.codec_faithful x
  rw [written, type.codec_faithful y] at read
  exact (Except.ok.inj read).symm

/-- A key that is admitted is read, and what is written for it is what is kept of it. -/
theorem exists_known? {c : Config} {key : String} {type : KeyType} (admits : c.Admits key type) :
    ∃ a, c.known? key type.codec = some a ∧
      written ⟨key, type, a⟩ = (c.get? key).bind type.kept := by
  unfold Config.known?
  cases stands : c.get? key with
  | none => exact ⟨none, rfl, rfl⟩
  | some value =>
    rcases admits value stands with rfl | holds
    · exact ⟨none, rfl, rfl⟩
    · obtain ⟨a, read, kept⟩ := KeyType.decodeValue_of_holds holds
      have typed : value ≠ .null := by
        rintro rfl
        cases kept
      refine ⟨some a, ?_, kept.symm⟩
      simp only [Codec.nullable_decodeValue typed, read]
      rfl

/-- A key that is read is admitted. -/
theorem admits_of_known? {c : Config} {key : String} {type : KeyType} {a : Option type.Value}
    (read : c.known? key type.codec = some a) : c.Admits key type := by
  intro value stands
  by_cases null : value = .null
  · exact .inl null
  · simp only [Config.known?, stands, Codec.nullable_decodeValue null] at read
    cases decoded : type.codec.decodeValue value with
    | error reason =>
      rw [decoded] at read
      cases read
    | ok b => exact .inr (KeyType.holds_of_decodeValue decoded)

/-- **What a typed key is read as**: the value for which is written what is kept of the value under the
key. -/
theorem readFrom_iff {s : Setting} {c : Config} :
    s.ReadFrom c ↔ c.Admits s.key s.type ∧ s.written = (c.get? s.key).bind s.type.kept := by
  constructor
  · intro read
    have admits := admits_of_known? read
    obtain ⟨a, again, written⟩ := exists_known? admits
    obtain rfl : a = s.value := Option.some.inj (again.symm.trans read)
    exact ⟨admits, written⟩
  · rintro ⟨admits, written⟩
    obtain ⟨a, read, same⟩ := exists_known? admits
    obtain rfl : a = s.value := written_injective (same.trans written.symm)
    exact read

/-- A value is read back from where it is written, and nothing from where nothing is. -/
theorem readFrom_of_written {s : Setting} {c : Config} (stands : c.get? s.key = s.written) :
    s.ReadFrom c := by
  obtain ⟨key, type, value⟩ := s
  cases value with
  | none =>
    have stands : c.get? key = none := stands
    simp only [ReadFrom, Config.known?, stands]
  | some a =>
    have stands : c.get? key = some (type.codec.encode a).normal := stands
    obtain ⟨holds, kept⟩ := type.kept_encode a
    refine readFrom_iff.mpr ⟨fun value there => ?_, ?_⟩
    · obtain rfl := Option.some.inj (stands.symm.trans there)
      exact .inr holds
    · show some (type.codec.encode a).normal = _
      rw [stands, Option.bind_some, kept]

end Setting

end BlockPipeline
