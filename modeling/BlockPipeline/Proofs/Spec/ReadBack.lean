import BlockPipeline.Proofs.Json.Text
import BlockPipeline.Proofs.Spec.Wire

/-!
# A specification is read back from its text

The text of a specification is read as the specification, or refused for the very reason that
`validate` gives (`Spec.ofText_text`). The version is looked at twice, before anything is decoded
and when the rules are checked; it is one string both times.
-/

set_option autoImplicit false

namespace BlockPipeline.Spec

/-- The version as it is found ahead of the decoding. -/
theorem member?_specVersion (s : Spec) :
    (codec.encode s).normal.member? "specVersion" = some (.string s.specVersion) := by
  let members : List (String × Json) :=
    [("specVersion", .string s.specVersion), ("pipeline", PipelineMeta.codec.encode s.pipeline),
     ("graph", SpecGraph.codec.encode s.graph),
     ("lockedBlocks", BlockVersion.codec.list.encode s.lockedBlocks),
     ("runConfig", RunConfig.codec.encode s.runConfig)]
  let sorted := FreeObject.ofList (Json.normalMembers members)
  have whole : (codec.encode s).normal = sorted.toFreeJson := rfl
  have distinct : (members.map Prod.fst).Nodup :=
    show ["specVersion", "pipeline", "graph", "lockedBlocks", "runConfig"].Nodup by decide
  have there : (sorted.get? "specVersion").map FreeJson.json = some (.string s.specVersion) := by
    rw [FreeObject.get?_map_json, Record.lookup_sorted distinct]
    rfl
  obtain ⟨version, found, same⟩ := Option.map_eq_some_iff.mp there
  obtain rfl : version = .string s.specVersion := FreeJson.ext same
  rw [whole, FreeJson.member?, FreeJson.object?_eq_some_iff.mpr rfl]
  exact found

/-- The first look at the version sees what the specification holds. -/
theorem checkVersion_normal (s : Spec) : checkVersion (codec.encode s).normal =
    if s.specVersion = BlockPipeline.specVersion then .ok ()
    else .error (.unsupportedVersion s.specVersion) := by
  have there := member?_specVersion s
  rw [FreeJson.member?] at there
  rw [checkVersion, there]
  rfl

/-- A text that is read as the value of a specification is accepted as it exactly if it keeps the
rules. -/
theorem ofText_of_read {text : String} {s : Spec}
    (read : FreeJson.read text = .ok (codec.encode s).normal) :
    ofText text = s.validate.map fun _ => s := by
  have decoded : codec.decodeValue (codec.encode s).normal = .ok s := codec_faithful s
  simp only [ofText, read, liftFault_ok, checkVersion_normal, decoded, mapError_ok, ok_bind]
  by_cases supported : s.specVersion = BlockPipeline.specVersion
  · rw [if_pos supported]
    cases s.validate <;> rfl
  · rw [if_neg supported, validate, if_pos supported]
    rfl

/-- The text of a specification is such a text, and so is a line with it. -/
theorem ofText_text_eq {s : Spec} (shallow : (codec.encode s).depth ≤ Document.depthLimit)
    (readsBack : (codec.encode s).ReadsBack) :
    ofText s.text = (s.validate.map fun _ => s) ∧
      ofText (s.text ++ "\n") = s.validate.map fun _ => s := by
  obtain ⟨whole, line⟩ := FreeJson.read_pretty shallow readsBack
  exact ⟨ofText_of_read whole, ofText_of_read line⟩

/-- The rules are no reason to call a text undecodable. -/
theorem validate_ne_undecodable (s : Spec) (e : DecodeError) :
    (s.validate.map fun _ => s) ≠ .error (.undecodable e) := by
  unfold validate
  split
  · exact nofun
  · cases s.violations <;> exact nofun

/-- What a text is accepted as keeps the rules and is no deeper than a text can be. -/
theorem valid_of_ofText {text : String} {s : Spec} (accepted : ofText text = .ok s) :
    s.validate = .ok () ∧ (codec.encode s).depth ≤ Document.depthLimit := by
  simp only [ofText, bind_eq_ok, mapError_eq_ok, liftFault_eq_ok] at accepted
  obtain ⟨value, read, -, -, s, decoded, valid, kept, ⟨⟩⟩ := accepted
  have within := codec_shallow .value _ s decoded
  rw [Document.depth_ofJson] at within
  have limited : max value.json.depth 7 ≤ Document.depthLimit :=
    Nat.max_le.mpr ⟨FreeJson.read_depth_le read, by decide⟩
  exact ⟨kept, Nat.le_trans within limited⟩

/-- **A specification is read back from its text** if it keeps the rules, and is refused otherwise
for what `validate` says. So a text that is accepted may be written anew without a change. It is
assumed of each fraction in the specification that its text is read as the fraction. -/
theorem ofText_text :
    (∀ s : Spec, (codec.encode s).depth ≤ Document.depthLimit → (codec.encode s).ReadsBack →
      ofText s.text = s.validate.map fun _ => s) ∧
    (∀ text s, ofText text = .ok s → (codec.encode s).ReadsBack → ofText s.text = .ok s) := by
  refine ⟨fun s shallow readsBack => (ofText_text_eq shallow readsBack).1,
    fun text s accepted readsBack => ?_⟩
  obtain ⟨valid, shallow⟩ := valid_of_ofText accepted
  rw [(ofText_text_eq shallow readsBack).1, valid]
  rfl

/-- One and a half. -/
def oneAndHalf : Double := ⟨false, 6755399441055744, -52, by decide⟩

/-- One trainer, with a fraction in its configuration and another in the limits of its run. -/
def tuned : Spec :=
  { pipeline := { id := "p-1", name := "tuned", createdAt := default }
    graph :=
      { nodes :=
          [⟨{ kind := .trainer
              block := ⟨"text.sgd", "1.0.0"⟩
              config := .ofList [("rate", .number (.fractional oneAndHalf))] }, "n-1"⟩] }
    runConfig := { mode := .async, resources := some { cpuLimit := some oneAndHalf } } }

/-- It is read back, and read back once more. -/
theorem ofText_text_tuned : (codec.encode tuned).depth ≤ Document.depthLimit ∧
    (codec.encode tuned).ReadsBack ∧ ofText tuned.text = .ok tuned := by
  have shallow : (codec.encode tuned).depth ≤ Document.depthLimit := by decide
  have rate : oneAndHalf.ReadsBack := rfl
  have coordinate : (Double.zero false).ReadsBack := rfl
  have fractions : (codec.encode tuned).fractions =
      [oneAndHalf, .zero false, .zero false, oneAndHalf] := rfl
  have readsBack : (codec.encode tuned).ReadsBack := by
    simp only [Json.ReadsBack, fractions, List.forall_mem_cons]
    exact ⟨rate, coordinate, coordinate, rate, List.forall_mem_nil _⟩
  have accepted : ofText tuned.text = .ok tuned := ofText_text.1 tuned shallow readsBack
  exact ⟨shallow, readsBack, ofText_text.2 tuned.text tuned accepted readsBack⟩

end BlockPipeline.Spec
