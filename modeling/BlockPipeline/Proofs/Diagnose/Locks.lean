import BlockPipeline.Proofs.Compile.Locks
import BlockPipeline.Proofs.Diagnose.Passes
import BlockPipeline.Proofs.Graph.WellFormed

/-!
# The findings about locks

What a diagnosis says about the registry is what a compilation locks. The diagnosis looks each block
up in the snapshot, where the compilation keeps the first of several entries with one id; both see
the same version, because a snapshot has every version under its own id (`filter_lockBlocks`).

| Statement | In words | From |
| --- | --- | --- |
| `unlocked_mem_lockFindings`, `versionDrift_mem_lockFindings` | what is found about a node, by the snapshot | `mem_lockFindings` |
| `lookup_eq_none_iff_lockBlocks` | nothing is locked for a node whose block is not published | `mem_lockBlocks_iff_lookup` |
| `diagnose_agrees_with_locks` | the findings by the specification that is compiled | all of these, `filter_diagnose` |
-/

set_option autoImplicit false

namespace BlockPipeline

variable {r : Registry} {n : Node}

/-! ## One node -/

theorem unlocked_mem_lockFindings {id block : String} :
    .unlocked id block ∈ lockFindings r n ↔
      id = n.id ∧ block = n.block.blockId ∧ r.lookup n.block.blockId = none := by
  rw [mem_lockFindings]
  constructor
  · rintro (⟨unpublished, same⟩ | ⟨b, -, ⟨-, same⟩ | mem⟩)
    · cases same
      exact ⟨rfl, rfl, unpublished⟩
    · cases same
    · rcases of_mem_configFindings mem with ⟨key, same⟩ | ⟨key, expected, same⟩ <;> cases same
  · rintro ⟨rfl, rfl, unpublished⟩
    exact .inl ⟨unpublished, rfl⟩

theorem versionDrift_mem_lockFindings {id placed locked : String} :
    .versionDrift id placed locked ∈ lockFindings r n ↔
      id = n.id ∧ placed = n.block.version ∧ locked ≠ placed ∧
        ∃ b, r.lookup n.block.blockId = some b ∧ b.version = locked := by
  rw [mem_lockFindings]
  constructor
  · rintro (⟨-, same⟩ | ⟨b, found, ⟨differs, same⟩ | mem⟩)
    · cases same
    · cases same
      exact ⟨rfl, rfl, differs, b, found, rfl⟩
    · rcases of_mem_configFindings mem with ⟨key, same⟩ | ⟨key, expected, same⟩ <;> cases same
  · rintro ⟨rfl, rfl, differs, b, found, rfl⟩
    exact .inr ⟨b, found, .inl ⟨differs, rfl⟩⟩

/-- A node at the published version of its block has not drifted, nor has one whose block is not
published. -/
theorem versionDrift_not_mem_lockFindings {fallback : String}
    (version : n.block.version = (r.version? n.block.blockId).getD fallback)
    (id placed locked : String) : .versionDrift id placed locked ∉ lockFindings r n := by
  intro mem
  obtain ⟨-, rfl, differs, b, published, rfl⟩ := versionDrift_mem_lockFindings.mp mem
  refine differs ?_
  rw [version, Registry.version?, published]
  rfl

/-- Nothing is published for a node's block exactly if nothing is locked for it. -/
theorem lookup_eq_none_iff_lockBlocks (published : r.Reached) {nodes : List Node}
    (hn : n ∈ nodes) : r.lookup n.block.blockId = none ↔
      ∀ b ∈ lockBlocks nodes r, b.blockId ≠ n.block.blockId := by
  constructor
  · intro none' b hb same
    rw [(mem_lockBlocks_iff_lookup published hn).mp ⟨hb, same⟩] at none'
    cases none'
  · intro unlocked
    by_contra found
    obtain ⟨b, found⟩ := Option.ne_none_iff_exists'.mp found
    obtain ⟨hb, same⟩ := (mem_lockBlocks_iff_lookup published hn).mpr found
    exact unlocked b hb same

/-! ## A graph -/

variable {g : Graph}

/-- What the diagnosis finds about a node under its id is what is found about this node, because no
other node has the id. -/
theorem mem_diagnose_of_node (wf : g.WellFormed) (hn : n ∈ g.nodes) {f : Finding}
    (pass : f.pass = .registry) (named : ∀ m, f ∈ lockFindings r m → m.id = n.id) :
    f ∈ diagnose g r ↔ f ∈ lockFindings r n := by
  rw [mem_diagnose, pass]
  constructor
  · intro mem
    obtain ⟨m, hm, mem⟩ := List.mem_flatMap.mp mem
    obtain rfl : m = n := List.inj_on_of_nodup_map wf.nodeIds hm hn (named m mem)
    exact mem
  · exact fun mem => List.mem_flatMap.mpr ⟨n, hn, mem⟩

/-- Which nodes are found to be unlocked. -/
theorem unlocked_mem_diagnose {id block : String} : .unlocked id block ∈ diagnose g r ↔
    ∃ n ∈ g.nodes, n.id = id ∧ n.block.blockId = block ∧ r.lookup block = none := by
  have found : .unlocked id block ∈ diagnose g r ↔
      ∃ n ∈ g.nodes, .unlocked id block ∈ lockFindings r n := mem_diagnose.trans List.mem_flatMap
  rw [found]
  refine exists_congr fun n => and_congr_right fun _ => ?_
  rw [unlocked_mem_lockFindings]
  constructor
  · rintro ⟨rfl, rfl, unpublished⟩
    exact ⟨rfl, rfl, unpublished⟩
  · rintro ⟨rfl, rfl, unpublished⟩
    exact ⟨rfl, rfl, unpublished⟩

/-- No deprecated version is named twice. -/
theorem deprecationFindings_nodup {locks : List BlockVersion}
    (distinct : (locks.map (·.blockId)).Nodup) : (deprecationFindings locks).Nodup := by
  have apart : (locks.filter (·.isDeprecated)).Pairwise (·.blockId ≠ ·.blockId) :=
    (List.pairwise_map.mp distinct).sublist List.filter_sublist
  exact List.pairwise_map.mpr (apart.imp fun differs same => differs (Finding.deprecated.inj same).1)

/-- **The findings about locks are those of the compiled specification.** For a node it is found that
it is not locked exactly if no locked version has its block; that it was placed from another version,
exactly if a locked version has its block and differs, with these two versions; and the deprecated
versions that are found are the deprecated ones among the locked versions, each once and in the same
order. -/
theorem diagnose_agrees_with_locks (reached : g.Reachable) (published : r.Reached) (c : Compiler)
    (stamp : Stamp) :
    let spec := c.compile g r stamp
    (∀ n ∈ g.nodes, ∀ block, .unlocked n.id block ∈ diagnose g r ↔
      block = n.block.blockId ∧ ∀ b ∈ spec.lockedBlocks, b.blockId ≠ n.block.blockId) ∧
    (∀ n ∈ g.nodes, ∀ placed locked, .versionDrift n.id placed locked ∈ diagnose g r ↔
      placed = n.block.version ∧ locked ≠ placed ∧
        ∃ b ∈ spec.lockedBlocks, b.blockId = n.block.blockId ∧ b.version = locked) ∧
    (diagnose g r).filter (·.pass = .deprecation) =
      (spec.lockedBlocks.filter (·.isDeprecated)).map (fun b => .deprecated b.blockId b.version) ∧
    ((diagnose g r).filter (·.pass = .deprecation)).Nodup := by
  intro spec
  refine ⟨fun n hn block => ?_, fun n hn placed locked => ?_, filter_diagnose g r .deprecation, ?_⟩
  · rw [mem_diagnose_of_node reached.wellFormed hn rfl
        fun m mem => (unlocked_mem_lockFindings.mp mem).1.symm,
      unlocked_mem_lockFindings, lookup_eq_none_iff_lockBlocks published hn]
    exact and_iff_right rfl
  · rw [mem_diagnose_of_node reached.wellFormed hn rfl
        fun m mem => (versionDrift_mem_lockFindings.mp mem).1.symm,
      versionDrift_mem_lockFindings, and_iff_right rfl]
    simp only [← mem_lockBlocks_iff_lookup published hn, and_assoc]
    rfl
  · rw [filter_diagnose]
    exact deprecationFindings_nodup (lockBlocks_ids_nodup g.nodes r)

/-- A node that was placed from the first version of a block. -/
def agedBody (blockId : String) : NodeBody := { kind := .fusion, block := ⟨blockId, "1.0.0"⟩ }

/-- The second version of one block, which is deprecated. -/
def agedRegistry : Registry :=
  .ofVersions
    [{ blockId := "texts.join", version := "2.0.0", digest := "d1g3st00", deprecated := some true }]

/-- One node whose block is not published, and two of the deprecated one. -/
def agedHistory : List Edit :=
  [.insert "a" (agedBody "texts.draft"), .insert "b" (agedBody "texts.join"),
   .insert "c" (agedBody "texts.join")]

/-- Both findings about nodes say what is locked, and the deprecation is found once for two nodes. -/
theorem diagnose_agrees_with_locks_aged :
    let spec := ({} : Compiler).compile (Graph.empty.run agedHistory) agedRegistry ⟨"p", default⟩
    (∀ b ∈ spec.lockedBlocks, b.blockId ≠ "texts.draft") ∧
    (∃ b ∈ spec.lockedBlocks, b.blockId = "texts.join" ∧ b.version = "2.0.0") ∧
    (diagnose (Graph.empty.run agedHistory) agedRegistry).filter (·.pass = .deprecation) =
      [.deprecated "texts.join" "2.0.0"] := by
  intro spec
  have published : agedRegistry.Reached := .inl ⟨_, rfl⟩
  obtain ⟨unlocked, drifted, deprecated, -⟩ :=
    diagnose_agrees_with_locks ⟨agedHistory, rfl⟩ published {} ⟨"p", default⟩
  refine ⟨((unlocked _ List.mem_cons_self "texts.draft").mp (by decide)).2, ?_, deprecated⟩
  exact ((drifted _ (List.mem_cons_of_mem _ List.mem_cons_self) "1.0.0" "2.0.0").mp
    (by decide)).2.2

end BlockPipeline
