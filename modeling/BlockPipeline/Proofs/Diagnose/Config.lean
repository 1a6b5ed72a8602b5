import BlockPipeline.Proofs.Diagnose.Clean
import BlockPipeline.Proofs.Diagnose.Passes

/-!
# The findings about configurations

What is wrong with a value under a key is said in terms of the schema's documents alone
(`FreeObject.Breach`): the key is listed with a type of the format that the value does not have, or
it is not listed and further keys are forbidden. Whatever of the schema is not of the form that this
asks for, says nothing about the key, and nothing about the other keys either.

The keys of a configuration ascend, and each of them has at most one finding. So the findings about
a node's configuration are known once it is known which they are.

| Statement | In words | From |
| --- | --- | --- |
| `mem_configFindings` | what is found about a configuration is what is wrong with its values | `mem_keyFindings` |
| `configFindings_keys` | the findings follow the keys, at most one for each | `keyFindings_keys` |
| `filter_lockFindings` | among the findings about a node they are those of its configuration | `mem_lockFindings` |
| `config_of_diagnose` | the findings about configurations, in order | the above, `filter_diagnose` |
-/

set_option autoImplicit false

namespace BlockPipeline

/-- The key that a finding is about, if it is about one. -/
def Finding.configKey? : Finding → Option String
  | .unknownConfigKey _ key => some key
  | .configTypeMismatch _ key _ => some key
  | _ => none

variable {node key : String} {schema : FreeObject} {value : FreeJson} {n : Node}

/-! ## One node -/

/-- A key has no finding, or one that is about it. -/
theorem keyFindings_keys :
    ((keyFindings node schema key value).filterMap Finding.configKey?).Sublist [key] := by
  simp only [keyFindings]
  split
  · split
    · split
      · exact List.nil_sublist _
      · exact List.Sublist.refl _
    · exact List.nil_sublist _
  · split
    · exact List.nil_sublist _
    · exact List.Sublist.refl _

/-- The findings about a configuration follow its keys, at most one for each. -/
theorem configFindings_keys (n : Node) (schema : FreeObject) :
    ((configFindings n schema).filterMap Finding.configKey?).Sublist
      (n.config.entries.map Prod.fst) := by
  unfold configFindings
  induction n.config.entries with
  | nil => exact List.Sublist.refl _
  | cons entry entries ih =>
    rw [List.flatMap_cons, List.filterMap_append, List.map_cons]
    exact keyFindings_keys.append ih

theorem mem_configFindings {f : Finding} :
    f ∈ configFindings n schema ↔
      ∃ key value, n.config.get? key = some value ∧ schema.Breach n.id key value f := by
  simp only [configFindings, List.mem_flatMap, Prod.exists, mem_keyFindings,
    FreeObject.get?_eq_some_iff]

/-- Every finding about a configuration is about a key. -/
theorem configFindings_about_key :
    (configFindings n schema).filter (·.configKey?.isSome) = configFindings n schema := by
  refine List.filter_eq_self.mpr fun f mem => ?_
  rcases of_mem_configFindings mem with ⟨key, rfl⟩ | ⟨key, expected, rfl⟩
  · rfl
  · rfl

/-- **Among the findings about a node** those about keys are the findings about its configuration
against the schema of the published version, and there are none if there is no such version. -/
theorem filter_lockFindings (r : Registry) (n : Node) :
    (lockFindings r n).filter (·.configKey?.isSome) =
      (r.lookup n.block.blockId).elim [] fun b => configFindings n b.inputSchema := by
  unfold lockFindings
  cases r.lookup n.block.blockId with
  | none => rfl
  | some b =>
    show List.filter _ (_ ++ configFindings n b.inputSchema) = configFindings n b.inputSchema
    rw [List.filter_append, configFindings_about_key]
    by_cases same : b.version = n.block.version
    · rw [if_pos same]
      rfl
    · rw [if_neg same]
      rfl

/-- Only the pass over the registry has findings about keys. -/
theorem pass_of_configKey? {f : Finding} (about : f.configKey?.isSome = true) :
    f.pass = .registry := by
  cases f with
  | unknownConfigKey node key => rfl
  | configTypeMismatch node key expected => rfl
  | _ => cases about

/-- The findings about keys are made node by node. -/
theorem filter_diagnose_about_key (g : Graph) (r : Registry) :
    (diagnose g r).filter (·.configKey?.isSome) =
      g.nodes.flatMap fun n => (lockFindings r n).filter (·.configKey?.isSome) := by
  rw [filter_diagnose_of_pass fun f => pass_of_configKey?]
  exact List.filter_flatMap

/-- **The findings about configurations.** In a diagnosis they come node by node. About a node there
are those that say what is wrong with one of its values, by the schema of the version that the
snapshot has for its block, and no others, and there are none if the snapshot has no version. They
are in ascending order of their keys, which are never repeated. -/
theorem config_of_diagnose (r : Registry) :
    (∀ g, (diagnose g r).filter (·.configKey?.isSome) =
      g.nodes.flatMap fun n => (lockFindings r n).filter (·.configKey?.isSome)) ∧
    ∀ n, let found := (lockFindings r n).filter (·.configKey?.isSome)
      (r.lookup n.block.blockId = none → found = []) ∧
      (∀ f, f ∈ found ↔ ∃ b, r.lookup n.block.blockId = some b ∧
        ∃ key value, n.config.get? key = some value ∧
          b.inputSchema.Breach n.id key value f) ∧
      (found.filterMap Finding.configKey?).Pairwise (· < ·) := by
  refine ⟨fun g => filter_diagnose_about_key g r, fun n => ?_⟩
  intro found
  have eq : found = (r.lookup n.block.blockId).elim [] fun b => configFindings n b.inputSchema :=
    filter_lockFindings r n
  rw [eq]
  refine ⟨fun unpublished => ?_, fun f => ?_, ?_⟩
  · rw [unpublished]
    rfl
  · cases r.lookup n.block.blockId with
    | none => simp only [Option.elim_none, List.not_mem_nil, reduceCtorEq, false_and, exists_false]
    | some b =>
      simp only [Option.elim_some, mem_configFindings, Option.some.injEq, exists_eq_left']
  · cases r.lookup n.block.blockId with
    | none => exact List.Pairwise.nil
    | some b =>
      refine List.Pairwise.sublist (configFindings_keys n b.inputSchema) ?_
      rw [FreeObject.entries_keys]
      exact n.config.ascending

/-- A schema that lists three keys and forbids further ones. What it says about the first makes
sense; the type of the second is none of the format, and the third has no object. -/
def mixedSchema : FreeObject :=
  (FreeObject.empty.insert "additionalProperties" (.bool false)).insert "properties"
    (((FreeObject.empty.insert "count"
      (FreeObject.empty.insert "type" (.string "integer")).toFreeJson).insert "date"
      (FreeObject.empty.insert "type" (.string "date")).toFreeJson).insert "open"
      (.string "integer")).toFreeJson

/-- A node with a value under each of these keys, none of them a whole number, and a further one. -/
def mixedBody : NodeBody :=
  { kind := .fusion
    block := ⟨"texts.mixed", "1.0.0"⟩
    config := (((FreeObject.empty.insert "open" (.bool true)).insert "extra" .null).insert "date"
      (.string "today")).insert "count" (.string "3") }

/-- One value is of another type, and one key is not known; nothing is said about the other keys. -/
theorem config_of_diagnose_mixed :
    (diagnose { nodes := [⟨mixedBody, "a"⟩] } (.ofVersions
      [{ blockId := "texts.mixed", version := "1.0.0", digest := "d1g3st00"
         inputSchema := mixedSchema }])).filter (·.configKey?.isSome) =
      [.configTypeMismatch "a" "count" "integer", .unknownConfigKey "a" "extra"] :=
  ((config_of_diagnose _).1 _).trans (by decide)

end BlockPipeline
