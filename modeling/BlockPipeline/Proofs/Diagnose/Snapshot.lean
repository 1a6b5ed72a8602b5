import BlockPipeline.Diagnose
import BlockPipeline.Graph.Edit
import BlockPipeline.Proofs.Compile.Locks
import Mathlib.Data.List.Perm.Basic

/-!
# What is read of a snapshot

A compilation and a diagnosis look up the blocks of the nodes in the snapshot of the registry, and
read nothing else of it. So two snapshots with the same versions of these blocks cannot be told apart
by what comes of a graph (`Registry.AgreeOn.sameOutcome`).

What a snapshot has under an id is the last version that its listing publishes under this id
(`Registry.lookup_ofRecords`). Where in the listing it stands, and what is listed of other blocks,
make no difference. The order of two records makes one if they are of the same block.

| Statement | In words | From |
| --- | --- | --- |
| `AgreeOn.sameOutcome` | the blocks of the nodes are all that is read | `lockBlocks`, `lockFindings` |
| `lookup_ofVersions`, `lookup_ofRecords` | the last entry of a block stands | `lookup_foldl_insertMember` |
| `filter_key_eq_of_perm` | an order of distinct keys does not matter under one key | `filter_key_eq_singleton` |
| `sameOutcome_of_unused` | what is listed of other blocks changes nothing, nor does the order | all of these |
-/

set_option autoImplicit false

namespace BlockPipeline

/-- A graph compiles to the same specification against either snapshot, under all settings, and has
the same findings in the same order. -/
def Graph.SameOutcome (g : Graph) (r r' : Registry) : Prop :=
  (∀ (c : Compiler) (stamp : Stamp), c.compile g r stamp = c.compile g r' stamp) ∧
    diagnose g r = diagnose g r'

namespace Registry

/-! ## Snapshots that agree -/

/-- The blocks that nodes were placed from are the same in both snapshots, or missing in both. -/
def AgreeOn (nodes : List Node) (r r' : Registry) : Prop :=
  ∀ n ∈ nodes, r.lookup n.block.blockId = r'.lookup n.block.blockId

namespace AgreeOn

variable {nodes : List Node} {r r' : Registry}

theorem lockBlocks (agree : AgreeOn nodes r r') :
    BlockPipeline.lockBlocks nodes r = BlockPipeline.lockBlocks nodes r' := by
  unfold BlockPipeline.lockBlocks
  rw [List.filterMap_congr agree]

theorem lockFindings (agree : AgreeOn nodes r r') {n : Node} (hn : n ∈ nodes) :
    BlockPipeline.lockFindings r n = BlockPipeline.lockFindings r' n := by
  simp only [BlockPipeline.lockFindings, agree n hn]

/-- **Snapshots that agree cannot be told apart** by what comes of the graph. -/
theorem sameOutcome {g : Graph} (agree : AgreeOn g.nodes r r') : g.SameOutcome r r' := by
  constructor
  · intro c stamp
    simp only [Compiler.compile, agree.lockBlocks]
  · have nodewise : g.nodes.flatMap (BlockPipeline.lockFindings r) =
        g.nodes.flatMap (BlockPipeline.lockFindings r') :=
      List.flatMap_congr fun n hn => agree.lockFindings hn
    simp only [diagnose, nodewise, agree.lockBlocks]

end AgreeOn

/-! ## What a snapshot has under an id -/

/-- Of the versions that are given for a block the last one stands. -/
theorem lookup_ofVersions (versions : List BlockVersion) (id : String) :
    (ofVersions versions).lookup id = (versions.filter (·.blockId == id)).getLast? := by
  have entered : (ofVersions versions).entries = (versions.map fun b => (b.blockId, b)).foldl
      (fun members entry => insertMember entry.1 entry.2 members) [] := by
    rw [List.foldl_map]
    exact (List.foldl_hom Registry.entries fun _ _ => rfl).symm
  rw [lookup, entered, lookup_foldl_insertMember, List.filter_map, List.getLast?_map,
    Option.map_map]
  exact Option.or_none.trans Option.map_id'

/-- What a record publishes is of its block. -/
theorem blockId_of_published? {record : BlockRecord} {b : BlockVersion}
    (published : record.published? = some b) : b.blockId = record.blockId := by
  obtain ⟨p, -, rfl⟩ := Option.map_eq_some_iff.mp published
  rfl

/-- What an item publishes, if it is of a given block. -/
theorem filter_version? {α : Type} {key : α → String} {version? : α → Option BlockVersion}
    (own : ∀ a b, version? a = some b → b.blockId = key a) (id : String) (a : α) :
    (version? a).filter (·.blockId == id) = if key a = id then version? a else none := by
  cases published : version? a with
  | none => simp
  | some b =>
    have same := own a b published
    by_cases here : key a = id
    · simp [same, here]
    · simp [same, here]

/-- What a record publishes is under the id of the record. -/
theorem filter_published? (records : List BlockRecord) (id : String) :
    (records.filterMap BlockRecord.published?).filter (·.blockId == id) =
      (records.filter (·.blockId == id)).filterMap BlockRecord.published? := by
  rw [List.filter_filterMap, List.filterMap_filter]
  refine List.filterMap_congr fun record _ => ?_
  rw [filter_version? (fun _ _ => blockId_of_published?) id record]
  simp only [beq_iff_eq]

/-- Of the versions that a listing publishes for a block the last one stands. -/
theorem lookup_ofRecords (records : List BlockRecord) (id : String) :
    (ofRecords records).lookup id =
      ((records.filter (·.blockId == id)).filterMap BlockRecord.published?).getLast? := by
  rw [ofRecords, lookup_ofVersions, filter_published?]

end Registry

/-! ## Listings that differ elsewhere -/

/-- In two orders of a list with distinct keys the elements with one key are the same, because there
is one of them at most. -/
theorem filter_key_eq_of_perm {α : Type} {key : α → String} {l l' : List α} (perm : l.Perm l')
    (distinct : (l.map key).Nodup) (k : String) :
    l.filter (key · == k) = l'.filter (key · == k) := by
  by_cases there : ∃ a ∈ l, key a = k
  · obtain ⟨a, mem, rfl⟩ := there
    have distinct' : (l'.map key).Nodup := (perm.map key).nodup_iff.mp distinct
    rw [filter_key_eq_singleton distinct mem,
      filter_key_eq_singleton distinct' (perm.mem_iff.mp mem)]
  · have unused : l.filter (key · == k) = [] :=
      List.filter_eq_nil_iff.mpr fun a mem same => there ⟨a, mem, by simpa using same⟩
    have unused' : l'.filter (key · == k) = [] :=
      List.perm_nil.mp (unused ▸ (perm.filter (key · == k)).symm)
    rw [unused, unused']

/-- **What a graph does not use makes no difference** to its specification and its findings. Two
snapshots that return the same for the block of every node have the same outcome. So have two lists
of versions, and two listings, in which each of these blocks has the same entries in the same order
among themselves, whatever was added, changed or dropped of other blocks and wherever the entries
stand; and two orders of one listing that has no block twice. -/
theorem sameOutcome_of_unused (g : Graph) :
    (∀ r r' : Registry, (∀ n ∈ g.nodes, r.lookup n.block.blockId = r'.lookup n.block.blockId) →
      g.SameOutcome r r') ∧
    (∀ versions versions' : List BlockVersion,
      (∀ n ∈ g.nodes, versions.filter (·.blockId == n.block.blockId) =
        versions'.filter (·.blockId == n.block.blockId)) →
      g.SameOutcome (.ofVersions versions) (.ofVersions versions')) ∧
    (∀ listing listing' : List BlockRecord,
      (∀ n ∈ g.nodes, listing.filter (·.blockId == n.block.blockId) =
        listing'.filter (·.blockId == n.block.blockId)) →
      g.SameOutcome (.ofRecords listing) (.ofRecords listing')) ∧
    ∀ listing listing' : List BlockRecord, listing.Perm listing' →
      (listing.map (·.blockId)).Nodup →
      g.SameOutcome (.ofRecords listing) (.ofRecords listing') := by
  have listed : ∀ listing listing' : List BlockRecord,
      (∀ n ∈ g.nodes, listing.filter (·.blockId == n.block.blockId) =
        listing'.filter (·.blockId == n.block.blockId)) →
      g.SameOutcome (.ofRecords listing) (.ofRecords listing') := by
    intro listing listing' same
    refine Registry.AgreeOn.sameOutcome fun n hn => ?_
    rw [Registry.lookup_ofRecords, Registry.lookup_ofRecords, same n hn]
  refine ⟨fun r r' agree => Registry.AgreeOn.sameOutcome agree, ?_, listed, ?_⟩
  · intro versions versions' same
    refine Registry.AgreeOn.sameOutcome fun n hn => ?_
    rw [Registry.lookup_ofVersions, Registry.lookup_ofVersions, same n hn]
  · intro listing listing' perm distinct
    exact listed listing listing' fun n _ => filter_key_eq_of_perm perm distinct _

/-- A record that publishes one version. -/
def publishedRecord (blockId version : String) : BlockRecord :=
  { blockId := blockId, latestPublished := some { version := version, digest := "d1g3st00" } }

/-- One node whose block is published, and one whose block is not. -/
def joinHistory : List Edit :=
  [.insert "a" { kind := .fusion, block := ⟨"texts.join", "1.0.0"⟩ },
   .insert "b" { kind := .fusion, block := ⟨"texts.draft", "1.0.0"⟩ }]

/-- Around the block that is used one other block is added and one is changed. The snapshot has grown,
and nothing that comes of the graph shows it, nor the order of the listing, nor a version that is
dropped or entered. -/
theorem sameOutcome_of_unused_relisted :
    let g := Graph.empty.run joinHistory
    let listed := [publishedRecord "texts.join" "1.0.0", publishedRecord "texts.split" "1.0.0"]
    let relisted :=
      [publishedRecord "texts.trim" "1.0.0", publishedRecord "texts.split" "2.0.0",
       publishedRecord "texts.join" "1.0.0"]
    let versions := relisted.filterMap BlockRecord.published?
    let entered : BlockVersion := { blockId := "texts.pad", version := "1.0.0", digest := "d1g3st00" }
    (Registry.ofRecords listed).size = 2 ∧ (Registry.ofRecords relisted).size = 3 ∧
      g.SameOutcome ((Registry.ofRecords listed).enter entered) (.ofRecords listed) ∧
      g.SameOutcome (.ofVersions versions) (.ofVersions versions.tail) ∧
      g.SameOutcome (.ofRecords listed) (.ofRecords relisted) ∧
      g.SameOutcome (.ofRecords relisted) (.ofRecords relisted.reverse) := by
  intro g listed relisted versions entered
  obtain ⟨agreeing, given, listings, orders⟩ := sameOutcome_of_unused g
  have eachNode : ∀ {P : Node → Prop},
      P ⟨{ kind := .fusion, block := ⟨"texts.join", "1.0.0"⟩ }, "a"⟩ →
      P ⟨{ kind := .fusion, block := ⟨"texts.draft", "1.0.0"⟩ }, "b"⟩ → ∀ n ∈ g.nodes, P n :=
    fun first second => List.forall_mem_cons.mpr ⟨first, List.forall_mem_singleton.mpr second⟩
  have unused : ∀ id, id ≠ "texts.pad" →
      ((Registry.ofRecords listed).enter entered).lookup id = (Registry.ofRecords listed).lookup id :=
    fun id differs => (Registry.lookup_enter _ entered id).trans (if_neg differs)
  refine ⟨rfl, rfl, ?_, ?_, ?_, ?_⟩
  · exact agreeing _ _ (eachNode (unused _ (by decide)) (unused _ (by decide)))
  · exact given versions versions.tail (eachNode rfl rfl)
  · exact listings listed relisted (eachNode rfl rfl)
  · exact orders relisted relisted.reverse (List.reverse_perm relisted).symm (by decide)

end BlockPipeline
