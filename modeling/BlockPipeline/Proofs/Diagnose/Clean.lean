import BlockPipeline.Diagnose
import BlockPipeline.Proofs.Compile.Locks
import BlockPipeline.Proofs.Graph.Cycle

/-!
# No findings

What it means that a graph has no findings, said of the specification that it is compiled to and
without the passes that look for findings (`Spec.Clean`): of each block exactly one version is
locked, the one from which the nodes were placed; none of them is deprecated; the configurations are
allowed by the locked schemas; each declared input is the target of exactly one edge; and no edges
lead from a node back to it.

| Statement | In words | From |
| --- | --- | --- |
| `mem_keyFindings` | what is found about a key is what is wrong with its value | `hasType_iff` |
| `keyFindings_eq_nil_iff` | a key has no finding exactly if the schema allows its value | `allows_iff` |
| `lockFindings_eq_nil_iff` | nor has a node against the snapshot, if what is locked for it fits | the above |
| `inputFindings_eq_nil_iff`, `length_feeds` | nor has an input, if it is the target of one edge | |
| `diagnose_eq_nil_iff` | a reachable graph has no findings exactly if its specification is clean | all of these, `filter_lockBlocks`, `findCycle?_eq_none_iff` |
-/

set_option autoImplicit false

namespace BlockPipeline

open Relation (TransGen)

/-! ## What a schema allows -/

/-- **A value has the type that a schema names**: one of the seven types of the format. Any other
name asks for nothing. -/
@[mk_iff]
structure FreeJson.OfType (value : FreeJson) (type : String) : Prop where
  number : type = "number" → ∃ n, value.json = .number n
  integer : type = "integer" → ∃ n, value.json = .number (.integer n)
  string : type = "string" → ∃ s, value.json = .string s
  boolean : type = "boolean" → ∃ b, value.json = .bool b
  object : type = "object" → ∃ members, value.json = .object members
  array : type = "array" → ∃ items, value.json = .array items
  null : type = "null" → value.json = .null

/-- The schema lists a key among its properties. -/
def FreeObject.Lists (schema : FreeObject) (key : String) (property : FreeJson) : Prop :=
  ∃ properties : FreeObject, schema.get? "properties" = some properties.toFreeJson ∧
    properties.get? key = some property

/-- **The schema allows a value under a key**: the key is listed and the value has the declared type,
if one is declared; or the key is not listed and further keys are not forbidden. -/
def FreeObject.Allows (schema : FreeObject) (key : String) (value : FreeJson) : Prop :=
  (∃ property, schema.Lists key property ∧
    ∀ type, property.member? "type" = some (.string type) → value.OfType type) ∨
  (∀ property, ¬ schema.Lists key property) ∧
    schema.get? "additionalProperties" ≠ some (.bool false)

/-- The types of the format. -/
def schemaTypes : List String :=
  ["number", "integer", "string", "boolean", "object", "array", "null"]

/-- **What is wrong with a value under a key**, as a finding about a node. -/
inductive FreeObject.Breach (schema : FreeObject) (node key : String) (value : FreeJson) :
    Finding → Prop where
  /-- The key is listed with a type that the value does not have. -/
  | mistyped {property : FreeJson} {expected : String} (listed : schema.Lists key property)
      (declared : property.member? "type" = some (.string expected))
      (known : expected ∈ schemaTypes) (other : ¬ value.OfType expected) :
      Breach schema node key value (.configTypeMismatch node key expected)
  /-- The key is not listed, and further keys are forbidden. -/
  | unknown (unlisted : ∀ property, ¬ schema.Lists key property)
      (closed : schema.get? "additionalProperties" = some (.bool false)) :
      Breach schema node key value (.unknownConfigKey node key)

/-- The test of a type finds what the type asks for. -/
theorem hasType_iff {value : FreeJson} {type : String} :
    value.hasType type = true ↔ value.OfType type := by
  rw [FreeJson.ofType_iff]
  obtain ⟨json, canonical⟩ := value
  unfold FreeJson.hasType
  split
  · cases json <;> simp [FreeJson.number?]
  · cases json with
    | number n => cases n <;> simp [FreeJson.number?]
    | _ => simp [FreeJson.number?]
  · cases json <;> simp [FreeJson.string?]
  · cases json <;> simp [FreeJson.bool?]
  · cases json <;> simp [FreeJson.object?]
  · cases json <;> simp [FreeJson.isArray]
  · cases json <;> simp [FreeJson.isNull]
  next number integer string boolean object array null =>
    simp only [true_iff]
    exact ⟨fun h => (number h).elim, fun h => (integer h).elim, fun h => (string h).elim,
      fun h => (boolean h).elim, fun h => (object h).elim, fun h => (array h).elim,
      fun h => (null h).elim⟩

/-- A key is listed with what is found under it. -/
theorem lists_iff {schema : FreeObject} {key : String} {property : FreeJson} :
    schema.Lists key property ↔
      (((schema.get? "properties").bind (·.object?)).bind (·.get? key)) = some property := by
  simp only [FreeObject.Lists, Option.bind_eq_some_iff, FreeJson.object?_eq_some_iff]
  constructor
  · rintro ⟨properties, there, listed⟩
    exact ⟨properties, ⟨_, there, rfl⟩, listed⟩
  · rintro ⟨properties, ⟨_, there, rfl⟩, listed⟩
    exact ⟨properties, there, listed⟩

/-- Further keys are allowed unless they are forbidden. -/
theorem additional_iff {schema : FreeObject} :
    ((schema.get? "additionalProperties").bind (·.bool?)).getD true = true ↔
      schema.get? "additionalProperties" ≠ some (.bool false) := by
  cases there : schema.get? "additionalProperties" with
  | none => simp
  | some value =>
    cases flag : value.bool? with
    | none =>
      have other : value ≠ .bool false := fun same => by
        rw [FreeJson.bool?_eq_some_iff.mpr same] at flag
        cases flag
      simp [flag, other]
    | some b =>
      obtain rfl := FreeJson.bool?_eq_some_iff.mp flag
      simp only [Option.bind_some, flag, Option.getD_some]
      cases b <;> simp [FreeJson.bool, FreeJson.ext_iff]

/-- A name that is no type of the format asks for nothing. -/
theorem mem_schemaTypes_of_not_ofType {value : FreeJson} {type : String}
    (other : ¬ value.OfType type) :
    type ∈ schemaTypes := by
  by_contra unknown
  simp only [schemaTypes, List.mem_cons, List.not_mem_nil, or_false, not_or] at unknown
  obtain ⟨number, integer, string, boolean, object, array, null⟩ := unknown
  exact other ⟨fun h => (number h).elim, fun h => (integer h).elim, fun h => (string h).elim,
    fun h => (boolean h).elim, fun h => (object h).elim, fun h => (array h).elim,
    fun h => (null h).elim⟩

/-- **What is found about a key** is what is wrong with its value. -/
theorem mem_keyFindings {node key : String} {schema : FreeObject} {value : FreeJson} {f : Finding} :
    f ∈ keyFindings node schema key value ↔ schema.Breach node key value f := by
  constructor
  · intro mem
    simp only [keyFindings] at mem
    split at mem
    · next property listed =>
      split at mem
      · next expected declared =>
        obtain ⟨said, there, isType⟩ := Option.bind_eq_some_iff.mp declared
        obtain rfl := FreeJson.string?_eq_some_iff.mp isType
        split at mem
        · cases mem
        · next other =>
          obtain rfl := List.mem_singleton.mp mem
          have other := mt hasType_iff.mpr other
          exact .mistyped (lists_iff.mpr listed) there (mem_schemaTypes_of_not_ofType other) other
      · cases mem
    · next unlisted =>
      split at mem
      · cases mem
      · next closed =>
        obtain rfl := List.mem_singleton.mp mem
        refine .unknown (fun property listed => ?_) ?_
        · rw [lists_iff.mp listed] at unlisted
          cases unlisted
        · exact not_not.mp (mt additional_iff.mpr closed)
  · rintro (⟨listed, declared, -, other⟩ | ⟨unlisted, closed⟩)
    · have other := mt hasType_iff.mp other
      simp only [keyFindings, lists_iff.mp listed, declared, Option.bind_some,
        FreeJson.string?_eq_some_iff.mpr rfl, if_neg other, List.mem_singleton]
    · have unlisted' : ((schema.get? "properties").bind (·.object?)).bind (·.get? key) = none :=
        Option.eq_none_iff_forall_ne_some.mpr fun property listed =>
          unlisted property (lists_iff.mpr listed)
      have closed' := mt additional_iff.mp (not_not.mpr closed)
      simp only [keyFindings, unlisted', if_neg closed', List.mem_singleton]

/-- **The schema allows a value** exactly if nothing is wrong with it. -/
theorem allows_iff {node key : String} {schema : FreeObject} {value : FreeJson} :
    schema.Allows key value ↔ ∀ f, ¬ schema.Breach node key value f := by
  constructor
  · rintro (⟨property, listed, fits⟩ | ⟨unlisted, opened⟩) f breach
    · rcases breach with ⟨again, declared, -, other⟩ | ⟨unlisted, -⟩
      · have same := (lists_iff.mp listed).symm.trans (lists_iff.mp again)
        obtain rfl := Option.some.inj same
        exact other (fits _ declared)
      · exact unlisted property listed
    · rcases breach with ⟨listed, -, -, -⟩ | ⟨-, closed⟩
      · exact unlisted _ listed
      · exact opened closed
  · intro sound
    by_cases listed : ∃ property, schema.Lists key property
    · obtain ⟨property, listed⟩ := listed
      refine .inl ⟨property, listed, fun type declared => ?_⟩
      by_contra other
      exact sound _ (.mistyped listed declared (mem_schemaTypes_of_not_ofType other) other)
    · have unlisted := not_exists.mp listed
      exact .inr ⟨unlisted, fun closed => sound _ (.unknown unlisted closed)⟩

/-- **A key has no finding** exactly if the schema allows its value. -/
theorem keyFindings_eq_nil_iff {node key : String} {schema : FreeObject} {value : FreeJson} :
    keyFindings node schema key value = [] ↔ schema.Allows key value := by
  rw [List.eq_nil_iff_forall_not_mem, allows_iff]
  exact forall_congr' fun f => not_congr mem_keyFindings

/-- **A configuration has no finding** exactly if the schema allows the value of each of its keys. -/
theorem configFindings_eq_nil_iff {n : Node} {schema : FreeObject} :
    configFindings n schema = [] ↔
      ∀ key value, n.config.get? key = some value → schema.Allows key value := by
  simp only [configFindings, List.flatMap_eq_nil_iff, keyFindings_eq_nil_iff, Prod.forall,
    FreeObject.get?_eq_some_iff]

/-! ## The passes -/

/-- **A node has no finding against the snapshot** exactly if its block is published in the version
from which it was placed, and the published schema allows its configuration. -/
theorem lockFindings_eq_nil_iff {r : Registry} {n : Node} :
    lockFindings r n = [] ↔
      ∃ b, r.lookup n.block.blockId = some b ∧ b.version = n.block.version ∧
        ∀ key value, n.config.get? key = some value → b.inputSchema.Allows key value := by
  unfold lockFindings
  cases r.lookup n.block.blockId with
  | none => simp
  | some b =>
    simp only [Option.some.injEq, exists_eq_left', List.append_eq_nil_iff,
      configFindings_eq_nil_iff]
    exact and_congr_left fun _ => by split <;> simp [*]

theorem deprecationFindings_eq_nil_iff {locks : List BlockVersion} :
    deprecationFindings locks = [] ↔ ∀ b ∈ locks, b.deprecated ≠ some true := by
  simp only [deprecationFindings, List.map_eq_nil_iff, List.filter_eq_nil_iff]
  refine forall₂_congr fun b _ => not_congr ?_
  cases h : b.deprecated <;> simp [BlockVersion.isDeprecated, h]

/-- The edges that feed an input, counted in the specification. -/
theorem length_feeds (g : Graph) (node port : String) :
    (feeds g node port).length =
      ((SpecGraph.ofGraph g).edges.filter (·.target = ⟨node, port⟩)).length := by
  simp only [feeds, SpecGraph.ofGraph, List.length_map, List.filter_map]
  congr 2
  funext e
  rw [Bool.eq_iff_iff]
  simp [SpecEdge.ofEdge]

/-- **An input has no finding** exactly if one edge feeds it. -/
theorem inputFindings_eq_nil_iff {g : Graph} {node port : String} :
    inputFindings g node port = [] ↔ (feeds g node port).length = 1 := by
  unfold inputFindings
  rcases feeds g node port with _ | ⟨a, _ | ⟨b, rest⟩⟩ <;> simp

/-- The edges of a specification from one node to another. -/
def SpecGraph.Arc (s : SpecGraph) (a b : String) : Prop :=
  ∃ e ∈ s.edges, e.source.node = a ∧ e.target.node = b

/-- They are the arcs of the graph. -/
theorem arc_ofGraph (g : Graph) : (SpecGraph.ofGraph g).Arc = g.Arc := by
  funext a b
  simp only [SpecGraph.Arc, SpecGraph.ofGraph, List.mem_map, exists_exists_and_eq_and, Graph.Arc]
  rfl

theorem cycleFindings_eq_nil_iff {g : Graph} (wf : g.WellFormed) :
    cycleFindings g = [] ↔ ∀ id, ¬ TransGen (SpecGraph.ofGraph g).Arc id id := by
  rw [cycleFindings, List.map_eq_nil_iff, Option.toList_eq_nil_iff,
    Graph.findCycle?_eq_none_iff wf, arc_ofGraph, Graph.Acyclic]

/-! ## All passes -/

/-- **A clean specification.** -/
structure Spec.Clean (s : Spec) : Prop where
  /-- One version is locked of every node's block, and the node was placed from it. -/
  locked : ∀ n ∈ s.graph.nodes, ∃ b,
    s.lockedBlocks.filter (·.blockId == n.block.blockId) = [b] ∧ b.version = n.block.version
  current : ∀ b ∈ s.lockedBlocks, b.deprecated ≠ some true
  /-- The locked schemas allow the configurations. -/
  configured : ∀ n ∈ s.graph.nodes, ∀ b ∈ s.lockedBlocks, b.blockId = n.block.blockId →
    ∀ key value, n.config.get? key = some value → b.inputSchema.Allows key value
  /-- Every declared input is the target of one edge. -/
  fed : ∀ n ∈ s.graph.nodes, ∀ p ∈ n.inputs,
    (s.graph.edges.filter (·.target = ⟨n.id, p.name⟩)).length = 1
  /-- No edges lead from a node back to it. -/
  acyclic : ∀ id, ¬ TransGen s.graph.Arc id id

/-- **A reachable graph has no findings exactly if the specification it is compiled to is clean**,
under whatever settings and stamp. -/
theorem diagnose_eq_nil_iff {g : Graph} (reached : g.Reachable) {r : Registry}
    (published : r.Reached) (c : Compiler) (stamp : Stamp) :
    diagnose g r = [] ↔ (c.compile g r stamp).Clean := by
  unfold diagnose
  simp only [List.append_eq_nil_iff, List.flatMap_eq_nil_iff, lockFindings_eq_nil_iff,
    deprecationFindings_eq_nil_iff, wiringFindings, inputFindings_eq_nil_iff, length_feeds,
    cycleFindings_eq_nil_iff reached.wellFormed]
  constructor
  · rintro ⟨⟨⟨locks, current⟩, fed⟩, acyclic⟩
    refine ⟨fun n hn => ?_, current, fun n hn b hb same => ?_, fed, acyclic⟩
    · obtain ⟨b, found, version, -⟩ := locks n hn
      exact ⟨b, (filter_lockBlocks published hn).trans (by rw [found]; rfl), version⟩
    · obtain ⟨locked, found, -, allowed⟩ := locks n hn
      have there := (mem_lockBlocks_iff_lookup published hn).mp ⟨hb, same⟩
      rw [found] at there
      cases there
      exact allowed
  · rintro ⟨locked, current, configured, fed, acyclic⟩
    refine ⟨⟨⟨fun n hn => ?_, current⟩, fed⟩, acyclic⟩
    obtain ⟨b, only, version⟩ := locked n hn
    have found : (r.lookup n.block.blockId).toList = [b] :=
      (filter_lockBlocks published hn).symm.trans only
    have there : r.lookup n.block.blockId = some b := Option.toList_eq_singleton_iff.mp found
    obtain ⟨hb, same⟩ := (mem_lockBlocks_iff_lookup published hn).mpr there
    exact ⟨b, there, version, configured n hn b hb same⟩

/-- A node that takes one text and gives one. -/
def relayBody : NodeBody :=
  { kind := .fusion
    block := ⟨"texts.relay", "1.2.0"⟩
    inputs := [{ name := "x", portType := "text" }]
    outputs := [{ name := "y", portType := "text" }]
    config := FreeObject.empty.insert "times" (.number (.integer ⟨3, by decide⟩)) }

/-- A source of texts. -/
def sourceBody : NodeBody :=
  { relayBody with block := ⟨"texts.source", "1.0.0"⟩, inputs := [], config := .empty }

/-- The published versions of both, the former with a schema that allows nothing but whole times. -/
def relayRegistry : Registry :=
  .ofVersions
    [{ blockId := "texts.relay", version := "1.2.0", digest := "d1g3st00"
       inputSchema := (FreeObject.empty.insert "additionalProperties" (.bool false)).insert
         "properties" (FreeObject.empty.insert "times"
           (FreeObject.empty.insert "type" (.string "integer")).toFreeJson).toFreeJson },
     { blockId := "texts.source", version := "1.0.0", digest := "d1g3st01" }]

/-- A source and two relays in a row. -/
def relayHistory : List Edit :=
  [.insert "s" sourceBody, .insert "a" relayBody, .insert "b" relayBody,
   .connect (.between "s" "y" "a" "x"), .connect (.between "a" "y" "b" "x")]

/-- The row has no findings, so its specification is clean; once the last relay feeds the first one
instead of the source, all inputs are fed as before, but the specification is not clean. -/
theorem diagnose_eq_nil_iff_relays :
    (({} : Compiler).compile (Graph.empty.run relayHistory) relayRegistry ⟨"p", default⟩).Clean ∧
    ¬ (({} : Compiler).compile (Graph.empty.run (relayHistory ++
        [.disconnect "e_s_out:y_a_in:x", .connect (.between "b" "y" "a" "x")]))
      relayRegistry ⟨"p", default⟩).Clean := by
  have published : relayRegistry.Reached := .inl ⟨_, rfl⟩
  constructor
  · exact (diagnose_eq_nil_iff ⟨relayHistory, rfl⟩ published {} ⟨"p", default⟩).mp (by decide)
  · refine mt (diagnose_eq_nil_iff ⟨_, rfl⟩ published {} ⟨"p", default⟩).mpr (by decide)

end BlockPipeline
