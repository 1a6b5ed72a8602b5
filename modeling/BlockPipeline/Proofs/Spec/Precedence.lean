import BlockPipeline.Proofs.Json.Fields
import BlockPipeline.Proofs.Spec.ReadBack

/-!
# How a text is answered

A text is accepted as a specification as a whole or not at all, and of several reasons to refuse it
one is reported: that it is no JSON, then that it gives another version, then that its value is not
that of a specification, and last what `validate` says (`Spec.Answered`).

The version is looked for twice. The first look is at the value, before anything is decoded, and
sees no version but the member of an object; of several members of this name it sees the last one.
The second is at what was decoded, where an array gives its version by position, and where the
supported one stands if none was given. Both come to one rule: what is accepted gives no other
version than the supported one, and what is refused for a version gives this version.

| Statement | In words | From |
| --- | --- | --- |
| `lastVersion_iff` | the version that the first look sees is the last one | `read_eq_object_iff`, `get?_ofList_eq_some_iff` |
| `decodeValue_version` | the version that the second look sees is the one that the value gives | `Record.Reads.decodeValue` |
| `ofText_of_answered`, `answered_ofText` | a text has one answer, by the first reason to refuse it | `lastVersion_iff` |
| `ofText_precedence` | how a text is answered, and what this says about versions | all of these |
-/

set_option autoImplicit false

namespace BlockPipeline

/-! ## Versions -/

namespace Json

/-- The version that a value gives: an object has it under its name, and an array in front. -/
def version? : Json → Option Json
  | .object members => members.lookup "specVersion"
  | .array items => items.head?
  | _ => none

/-- How a version is reported: a string as it is, and any other value as it is written. -/
def versionText : Json → String
  | .string s => s
  | version => version.compact

end Json

theorem Codec.string_decode_eq_ok {origin : Origin} {doc : Document} {s : String} :
    Codec.string.decode origin doc = .ok s ↔ doc = .string s := by
  constructor
  · intro read
    simp only [Codec.string] at read
    split at read
    · cases read
      rfl
    · exact absurd read Codec.mismatch_ne_ok
  · rintro rfl
    rfl

theorem Document.ofJson_eq_string {json : Json} {s : String} :
    ofJson json = .string s ↔ json = .string s := by
  cases json <;> simp [ofJson]

/-- A string with a default is read from a document as from the value. -/
theorem Document.getD_map_ofJson {given : Option Json} {absent s : String} :
    (given.map ofJson).getD (.string absent) = .string s ↔
      given.getD (.string absent) = .string s := by
  cases given with
  | none =>
    show ofJson (.string absent) = .string s ↔ _
    exact ofJson_eq_string
  | some json => exact ofJson_eq_string

namespace Spec

/-- **The text is an object that gives this version**, in the last member of this name. -/
def LastVersion (text : String) (version : FreeJson) : Prop :=
  ∃ members, ObjectText text members ∧
    LastWith (·.1 = "specVersion") members ("specVersion", version)

/-- The first look at the version sees the last one. -/
theorem lastVersion_iff {text : String} {version : FreeJson} :
    LastVersion text version ↔
      ∃ value, FreeJson.read text = .ok value ∧ value.member? "specVersion" = some version := by
  constructor
  · rintro ⟨members, object, last⟩
    refine ⟨_, FreeJson.read_eq_object_iff.mpr ⟨members, object, rfl⟩, ?_⟩
    rw [FreeJson.member?, FreeJson.object?_eq_some_iff.mpr rfl]
    exact FreeObject.get?_ofList_eq_some_iff.mpr last
  · rintro ⟨value, read, there⟩
    obtain ⟨o, isObject, there⟩ := Option.bind_eq_some_iff.mp there
    obtain rfl := FreeJson.object?_eq_some_iff.mp isObject
    obtain ⟨members, object, rfl⟩ := FreeJson.read_eq_object_iff.mp read
    exact ⟨members, object, FreeObject.get?_ofList_eq_some_iff.mp there⟩

/-- The first look refuses any version but the supported one. -/
theorem checkVersion_of_other {value version : FreeJson}
    (there : value.member? "specVersion" = some version)
    (other : version ≠ .string BlockPipeline.specVersion) :
    checkVersion value = .error (.unsupportedVersion version.json.versionText) := by
  rw [FreeJson.member?] at there
  rw [checkVersion, there]
  obtain ⟨json, canonical⟩ := version
  cases json with
  | string s =>
    have differs : s ≠ BlockPipeline.specVersion := fun same => other (same ▸ rfl)
    exact if_neg differs
  | _ => rfl

/-- And it refuses nothing else. -/
theorem checkVersion_of_supported {value : FreeJson}
    (supported : ∀ version, value.member? "specVersion" = some version →
      version = .string BlockPipeline.specVersion) : checkVersion value = .ok () := by
  have only : ∀ version, value.object?.bind (·.get? "specVersion") = some version →
      version = .string BlockPipeline.specVersion := supported
  unfold checkVersion
  split
  · rfl
  · next version there =>
    obtain rfl := only version there
    rfl

/-- **The version of what was decoded** is the one that the value gives, or else the supported
one. -/
theorem decodeValue_version {value : FreeJson} {s : Spec}
    (decoded : codec.decodeValue value = .ok s) :
    value.json.version?.getD (.string BlockPipeline.specVersion) = .string s.specVersion := by
  have given := Record.Reads.decodeValue
    (fun documents s => (documents "specVersion").getD (.string BlockPipeline.specVersion) =
      .string s.specVersion)
    -- the version is the first field, and nothing of the other fields matters
    (fun documents =>
      Record.Reads.start Spec.mk (by
        rintro version (⟨origin, doc, there, read⟩ | ⟨absent, ⟨⟩⟩)
        · obtain rfl := Codec.string_decode_eq_ok.mp read
          intros
          rw [there]
          rfl
        · intros
          rw [absent]
          rfl)
        |>.field |>.field |>.field |>.field |>.field) decoded
  rcases given with ⟨members, object, given⟩ | ⟨items, array, given⟩
  · rw [object]
    exact Document.getD_map_ofJson.mp given
  · have front : (Document.ofItems items)[0]? = items.head?.map .ofJson := by cases items <;> rfl
    rw [array]
    exact Document.getD_map_ofJson.mp (front ▸ given)

/-- The version that the first look sees is the one that the value gives. -/
theorem version?_of_member? {value version : FreeJson}
    (there : value.member? "specVersion" = some version) :
    value.json.version? = some version.json := by
  obtain ⟨o, isObject, found⟩ := Option.bind_eq_some_iff.mp there
  obtain rfl := FreeJson.object?_eq_some_iff.mp isObject
  show o.members.lookup "specVersion" = some version.json
  rw [← FreeObject.get?_map_json, found]
  rfl

/-! ## The answer -/

/-- **How a text is answered**, by the first of four cases that applies. -/
inductive Answered (text : String) : Except SpecError Spec → Prop where
  | noJson {fault : Fault} (unread : FreeJson.read text = .error fault) :
      Answered text (.error (.undecodable (.text fault)))
  /-- Whatever else the object holds. -/
  | otherVersion {version : FreeJson} (last : LastVersion text version)
      (other : version ≠ .string BlockPipeline.specVersion) :
      Answered text (.error (.unsupportedVersion version.json.versionText))
  | misfit {value : FreeJson} {error : DecodeError} (read : FreeJson.read text = .ok value)
      (supported : ∀ version, LastVersion text version →
        version = .string BlockPipeline.specVersion)
      (unfit : codec.decodeValue value = .error error) :
      Answered text (.error (.undecodable error))
  /-- The value is that of a specification, and it is accepted if it keeps the rules. -/
  | decoded {value : FreeJson} {s : Spec} (read : FreeJson.read text = .ok value)
      (supported : ∀ version, LastVersion text version →
        version = .string BlockPipeline.specVersion)
      (fits : codec.decodeValue value = .ok s) : Answered text (s.validate.map fun _ => s)

variable {text : String}

/-- A text that gives no other version passes the first look. -/
theorem checkVersion_of_read {value : FreeJson} (read : FreeJson.read text = .ok value)
    (supported : ∀ version, LastVersion text version →
      version = .string BlockPipeline.specVersion) : checkVersion value = .ok () :=
  checkVersion_of_supported fun version there =>
    supported version (lastVersion_iff.mpr ⟨value, read, there⟩)

theorem ofText_of_answered {result : Except SpecError Spec} (answered : Answered text result) :
    ofText text = result := by
  cases answered with
  | noJson unread =>
    rw [ofText, unread]
    rfl
  | otherVersion last other =>
    obtain ⟨value, read, there⟩ := lastVersion_iff.mp last
    rw [ofText, read, liftFault_ok, mapError_ok, ok_bind, checkVersion_of_other there other]
    rfl
  | misfit read supported unfit =>
    rw [ofText, read, liftFault_ok, mapError_ok, ok_bind, checkVersion_of_read read supported,
      ok_bind, unfit]
    rfl
  | @decoded value s read supported fits =>
    rw [ofText, read, liftFault_ok, mapError_ok, ok_bind, checkVersion_of_read read supported,
      ok_bind, fits, mapError_ok, ok_bind]
    cases s.validate <;> rfl

/-- Every text has an answer. -/
theorem exists_answered (text : String) : ∃ result, Answered text result := by
  cases read : FreeJson.read text with
  | error fault => exact ⟨_, .noJson read⟩
  | ok value =>
    by_cases supported : ∀ version, LastVersion text version →
        version = .string BlockPipeline.specVersion
    · cases decoded : codec.decodeValue value with
      | error error => exact ⟨_, .misfit read supported decoded⟩
      | ok s => exact ⟨_, .decoded read supported decoded⟩
    · obtain ⟨version, refuted⟩ := not_forall.mp supported
      obtain ⟨last, other⟩ := Classical.not_imp.mp refuted
      exact ⟨_, .otherVersion last other⟩

/-- **A text has one answer**, and it is the one that is given. -/
theorem answered_iff {result : Except SpecError Spec} :
    Answered text result ↔ ofText text = result := by
  constructor
  · exact ofText_of_answered
  · rintro rfl
    obtain ⟨result, answered⟩ := exists_answered text
    rwa [ofText_of_answered answered]

/-- What keeps the rules has the supported version. -/
theorem specVersion_of_validate {s : Spec} (valid : s.validate = .ok ()) :
    s.specVersion = BlockPipeline.specVersion := by
  by_contra other
  rw [validate, if_pos other] at valid
  cases valid

/-- What is refused for its version has another one, which is reported. -/
theorem specVersion_of_refused {s : Spec} {reported : String}
    (refused : s.validate = .error (.unsupportedVersion reported)) :
    s.specVersion ≠ BlockPipeline.specVersion ∧ reported = s.specVersion := by
  unfold validate at refused
  split at refused
  · next other =>
    cases refused
    exact ⟨other, rfl⟩
  · -- the rules are about other things
    split at refused
    · cases refused
    · cases refused

/-- **What a text is accepted as**: what its value is decoded as, if this keeps the rules. -/
theorem ofText_eq_ok_iff {s : Spec} :
    ofText text = .ok s ↔ ∃ value, FreeJson.read text = .ok value ∧
      (∀ version, LastVersion text version → version = .string BlockPipeline.specVersion) ∧
      codec.decodeValue value = .ok s ∧ s.validate = .ok () := by
  constructor
  · intro accepted
    have answered := answered_iff.mpr accepted
    generalize outcome : (.ok s : Except SpecError Spec) = result at answered
    cases answered with
    | @decoded value s' read supported fits =>
      obtain ⟨⟨⟩, valid, rfl⟩ := map_eq_ok.mp outcome.symm
      exact ⟨value, read, supported, fits, valid⟩
    | _ => cases outcome
  · rintro ⟨value, read, supported, fits, valid⟩
    rw [ofText_of_answered (.decoded read supported fits), valid]
    rfl

/-- What is decoded with the supported version was given no other. -/
theorem version_of_decodeValue {value : FreeJson} {s : Spec}
    (decoded : codec.decodeValue value = .ok s) {version : Json}
    (given : value.json.version? = some version) : version = .string s.specVersion := by
  have same := decodeValue_version decoded
  rwa [given] at same

/-- A text that is refused for a version gives this version. -/
theorem version_of_ofText {reported : String}
    (refused : ofText text = .error (.unsupportedVersion reported)) :
    ∃ value version, FreeJson.read text = .ok value ∧ value.json.version? = some version ∧
      version ≠ .string BlockPipeline.specVersion ∧ reported = version.versionText := by
  have answered := answered_iff.mpr refused
  generalize outcome : (.error (.unsupportedVersion reported) : Except SpecError Spec) = result
    at answered
  cases answered with
  | noJson unread => cases outcome
  | @otherVersion version last other =>
    cases outcome
    obtain ⟨value, read, there⟩ := lastVersion_iff.mp last
    exact ⟨value, version.json, read, version?_of_member? there, fun same =>
      other (FreeJson.ext same), rfl⟩
  | misfit read supported unfit => cases outcome
  | @decoded value s read supported fits =>
    obtain ⟨other, rfl⟩ := specVersion_of_refused (map_eq_error.mp outcome.symm)
    cases given : value.json.version? with
    | none =>
      have default' := decodeValue_version fits
      rw [given] at default'
      exact absurd (Json.string.inj default').symm other
    | some version =>
      obtain rfl := version_of_decodeValue fits given
      exact ⟨value, _, read, given, fun same => other (Json.string.inj same), rfl⟩

/-- **How a text is answered**: by the first of four cases that applies, and so in exactly one way.
What is accepted keeps the rules, has the supported version, and was given no other, by name or by
position. And what is refused for its version was given the one that is reported. -/
theorem ofText_precedence (text : String) :
    (∀ result, ofText text = result ↔ Answered text result) ∧
    (∀ s, ofText text = .ok s →
      s.specVersion = BlockPipeline.specVersion ∧ s.validate = .ok () ∧
      ∀ value, FreeJson.read text = .ok value → ∀ version, value.json.version? = some version →
        version = .string BlockPipeline.specVersion) ∧
    ∀ reported, ofText text = .error (.unsupportedVersion reported) →
      ∃ value version, FreeJson.read text = .ok value ∧ value.json.version? = some version ∧
        version ≠ .string BlockPipeline.specVersion ∧ reported = version.versionText := by
  refine ⟨fun result => answered_iff.symm, fun s accepted => ?_, fun _ => version_of_ofText⟩
  obtain ⟨value, read, -, fits, valid⟩ := ofText_eq_ok_iff.mp accepted
  have supported := specVersion_of_validate valid
  refine ⟨supported, valid, fun other readAs version given => ?_⟩
  cases read.symm.trans readAs
  rw [version_of_decodeValue fits given, supported]

/-- An object that gives two versions, the latter of them as no string, and is no specification. -/
def twoVersions : Json :=
  .object [("specVersion", .string "0.1.0"), ("graph", .bool true), ("specVersion", .null)]

/-- A specification without nodes. -/
def blankSpec (version : String) : Spec :=
  { specVersion := version
    pipeline := { id := "p-1", name := "blank", createdAt := default }
    graph := { nodes := [] } }

/-- Its fields by position, up to the last one that has to be there. -/
def blankFields (version : String) : Json :=
  .array
    [.string version, PipelineMeta.codec.encode (blankSpec version).pipeline,
     SpecGraph.codec.encode (blankSpec version).graph]

/-- They are answered by what they are decoded as. -/
theorem answered_blankFields {version : String} {s : Spec}
    (decoded : codec.decodeValue (blankFields version).normal = .ok s) :
    Answered (blankFields version).pretty (s.validate.map fun _ => s) := by
  have shallow : (blankFields version).depth ≤ Document.depthLimit :=
    show 3 ≤ Document.depthLimit by decide
  have readsBack : (blankFields version).ReadsBack := List.forall_mem_nil _
  obtain ⟨read, -⟩ := FreeJson.read_pretty shallow readsBack
  refine .decoded read (fun other last => ?_) decoded
  obtain ⟨value, readAs, there⟩ := lastVersion_iff.mp last
  cases read.symm.trans readAs
  cases there

/-- Of two versions the last one is reported, and the first look sees it before the graph that is
none. By position the version is seen in what was decoded, and it is refused or accepted there. -/
theorem ofText_precedence_versions :
    ofText twoVersions.pretty = .error (.unsupportedVersion "null") ∧
    ofText (blankFields "0.2.0").pretty = .error (.unsupportedVersion "0.2.0") ∧
    ofText (blankFields "0.1.0").pretty = .ok (blankSpec "0.1.0") := by
  have readsBack : twoVersions.ReadsBack := List.forall_mem_nil _
  obtain ⟨read, -⟩ := Document.read_pretty (by decide) readsBack
  have last : LastVersion twoVersions.pretty .null :=
    ⟨_, ⟨_, read, Document.freeMembers_ofMembers _⟩,
      Json.normalMembers [("specVersion", .string "0.1.0"), ("graph", .bool true)], [], rfl, rfl,
      nofun⟩
  have other : FreeJson.null ≠ .string BlockPipeline.specVersion := fun same =>
    nomatch congrArg FreeJson.json same
  refine ⟨?_, ?_, ?_⟩
  · exact ((ofText_precedence _).1 _).mpr (.otherVersion last other)
  · exact ((ofText_precedence _).1 _).mpr (answered_blankFields (s := blankSpec "0.2.0") rfl)
  · exact ((ofText_precedence _).1 _).mpr (answered_blankFields (s := blankSpec "0.1.0") rfl)

end Spec

end BlockPipeline
