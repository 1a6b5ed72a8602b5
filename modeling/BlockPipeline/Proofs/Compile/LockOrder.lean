import BlockPipeline.Proofs.Compile.Locks
import Mathlib.Data.List.Induction

/-!
# The order of the locks

Nodes refer to blocks, and a block is locked where the first node refers to it. Behind a list of
nodes, further nodes lock only blocks to which the list does not refer (`lockBlocks_append`). So a
list that grows at its end keeps its locks in front, a node whose block was referred to before it can
go, and the locks are the versions of the blocks in the order of their first references
(`lockBlocks_in_order`).

The law needs that every version stands under the id of its own block, as it does in every snapshot
that is made of versions or of a listing: what is dropped as a repetition is told by the id of the
version, and not by that to which the node refers.
-/

set_option autoImplicit false

namespace BlockPipeline

/-- The blocks to which nodes refer, in the order of the nodes. -/
def blockIds (nodes : List Node) : List String := nodes.map (·.block.blockId)

/-- What a second list adds to the elements that are kept of a first one. -/
theorem keepFirst_append {α : Type} {key : α → String} (l m : List α) :
    keepFirst key (l ++ m) =
      keepFirst key l ++ (keepFirst key m).filter fun a => !(l.map key).contains (key a) := by
  induction l with
  | nil => simp [keepFirst]
  | cons a l ih =>
    have both : ∀ b : α, (key b != key a && !(l.map key).contains (key b)) =
        !((a :: l).map key).contains (key b) := fun b => by
      rw [List.map_cons, List.contains_cons, Bool.not_or]
      rfl
    simp only [List.cons_append, keepFirst, ih, List.filter_append, List.filter_filter, both]

section Locks

variable {r : Registry} {nodes : List Node}

/-- A version that the snapshot has is that of some node exactly if the node refers to its block. -/
theorem mem_versions_iff (published : r.Reached) {id : String} {b : BlockVersion}
    (found : r.lookup id = some b) :
    b.blockId ∈ (nodes.filterMap fun n => r.lookup n.block.blockId).map (·.blockId) ↔
      b.blockId ∈ blockIds nodes := by
  have own : b.blockId = id := published.blockId found
  simp only [blockIds, List.mem_map, List.mem_filterMap]
  constructor
  · rintro ⟨c, ⟨n, hn, there⟩, same⟩
    exact ⟨n, hn, (published.blockId there).symm.trans same⟩
  · rintro ⟨n, hn, same⟩
    exact ⟨b, ⟨n, hn, by rw [same, own, found]⟩, rfl⟩

/-- **Nodes behind others lock the blocks that are new with them.** -/
theorem lockBlocks_append (published : r.Reached) (nodes later : List Node) :
    lockBlocks (nodes ++ later) r =
      lockBlocks nodes r ++
        (lockBlocks later r).filter fun b => !(blockIds nodes).contains b.blockId := by
  unfold lockBlocks
  rw [List.filterMap_append, keepFirst_append]
  congr 1
  refine List.filter_congr fun b mem => ?_
  obtain ⟨id, found⟩ := lookup_of_mem_lockBlocks mem
  congr 1
  rw [Bool.eq_iff_iff, List.contains_iff_mem, List.contains_iff_mem,
    mem_versions_iff published found]

/-- One more node locks the version of its block, if there is one and no node refers to it before. -/
theorem lockBlocks_concat (published : r.Reached) (nodes : List Node) (n : Node) :
    lockBlocks (nodes ++ [n]) r = lockBlocks nodes r ++
      if n.block.blockId ∈ blockIds nodes then [] else (r.lookup n.block.blockId).toList := by
  rw [lockBlocks_append published]
  congr 1
  cases found : r.lookup n.block.blockId with
  | none => simp [lockBlocks, keepFirst, found]
  | some b =>
    have own : b.blockId = n.block.blockId := published.blockId found
    by_cases before : n.block.blockId ∈ blockIds nodes <;>
      simp [lockBlocks, keepFirst, found, own, before]

/-- **The locks are the versions of the blocks**, each block taken at its first reference. -/
theorem lockBlocks_eq_filterMap (published : r.Reached) (nodes : List Node) :
    lockBlocks nodes r = (blockIds nodes).eraseDups.filterMap r.lookup := by
  induction nodes using List.reverseRecOn with
  | nil => rfl
  | append_singleton nodes n ih =>
    have ids : blockIds (nodes ++ [n]) = blockIds nodes ++ [n.block.blockId] := List.map_append
    rw [lockBlocks_concat published, ih, ids, List.eraseDups_append, List.filterMap_append]
    congr 1
    by_cases before : n.block.blockId ∈ blockIds nodes
    · simp [List.removeAll, before]
    · cases found : r.lookup n.block.blockId <;>
        simp [List.removeAll, before, found, List.eraseDups_cons]

/-- The locks stand in the order in which the nodes first refer to their blocks. -/
theorem lockBlocks_pairwise (published : r.Reached) (nodes : List Node) :
    (lockBlocks nodes r).Pairwise fun a b =>
      (blockIds nodes).idxOf a.blockId < (blockIds nodes).idxOf b.blockId := by
  -- each lock is put behind the others together with the first reference to its block
  induction nodes using List.reverseRecOn with
  | nil => exact .nil
  | append_singleton nodes n ih =>
    have ids : blockIds (nodes ++ [n]) = blockIds nodes ++ [n.block.blockId] := List.map_append
    have referred : ∀ b ∈ lockBlocks nodes r, b.blockId ∈ blockIds nodes := fun b hb => by
      obtain ⟨m, hm, found⟩ := (mem_lockBlocks published).mp hb
      exact published.blockId found ▸ List.mem_map_of_mem hm
    have front : ∀ b ∈ lockBlocks nodes r,
        (blockIds (nodes ++ [n])).idxOf b.blockId = (blockIds nodes).idxOf b.blockId :=
      fun b hb => by rw [ids, List.idxOf_append, if_pos (referred b hb)]
    rw [lockBlocks_concat published]
    refine List.pairwise_append.mpr ⟨?_, ?_, fun a ha b hb => ?_⟩
    · exact ih.imp_of_mem fun ha hb before => by rwa [front _ ha, front _ hb]
    · split
      next => exact .nil
      next =>
        cases r.lookup n.block.blockId with
        | none => exact .nil
        | some b => exact List.pairwise_singleton _ b
    · split at hb
      next => cases hb
      next new =>
        have own : b.blockId = n.block.blockId := published.blockId (Option.mem_toList.mp hb)
        rw [front a ha, ids, List.idxOf_append, own, if_neg new]
        have inside := List.idxOf_lt_length_of_mem (referred a ha)
        omega

/-- A node whose block was referred to before locks nothing. -/
theorem lockBlocks_of_repeated (published : r.Reached) {before behind : List Node} {n : Node}
    (repeated : n.block.blockId ∈ blockIds before) :
    lockBlocks (before ++ n :: behind) r = lockBlocks (before ++ behind) r := by
  have met : ∀ id, id ∈ blockIds (before ++ [n]) ↔ id ∈ blockIds before := fun id => by
    simp only [blockIds, List.map_append, List.map_singleton, List.mem_append, List.mem_singleton]
    refine ⟨fun mem => mem.elim (fun mem => mem) ?_, .inl⟩
    rintro rfl
    exact repeated
  rw [List.append_cons, lockBlocks_append published, lockBlocks_concat published, if_pos repeated,
    List.append_nil, lockBlocks_append published before behind]
  congr 1
  refine List.filter_congr fun b _ => ?_
  simp only [List.contains_eq_mem, met]

/-- A node whose block is not published locks nothing. -/
theorem lockBlocks_of_unpublished {before behind : List Node} {n : Node}
    (unpublished : r.lookup n.block.blockId = none) :
    lockBlocks (before ++ n :: behind) r = lockBlocks (before ++ behind) r := by
  simp only [lockBlocks, List.filterMap_append, List.filterMap_cons, unpublished]

/-- **What is locked for nodes, and in which order.** The locks are what the snapshot has for the
blocks of the nodes, each block once and at the first reference to it. They have distinct ids, each
stands in the snapshot under its own id, and nothing but the versions of referred blocks is locked.
Nodes that are put behind others leave the locks of these in front, and a node whose block an earlier
node refers to, or whose block is not published, can be taken away. -/
theorem lockBlocks_in_order (published : r.Reached) (nodes : List Node) :
    lockBlocks nodes r = (blockIds nodes).eraseDups.filterMap r.lookup ∧
    ((lockBlocks nodes r).map (·.blockId)).Nodup ∧
    (∀ b, b ∈ lockBlocks nodes r ↔ ∃ n ∈ nodes, r.lookup n.block.blockId = some b) ∧
    (∀ b ∈ lockBlocks nodes r, ∀ id, r.lookup id = some b → b.blockId = id) ∧
    ((lockBlocks nodes r).Pairwise fun a b =>
      (blockIds nodes).idxOf a.blockId < (blockIds nodes).idxOf b.blockId) ∧
    (∀ later, lockBlocks nodes r <+: lockBlocks (nodes ++ later) r) ∧
    ∀ before n behind, nodes = before ++ n :: behind →
      n.block.blockId ∈ blockIds before ∨ r.lookup n.block.blockId = none →
        lockBlocks (before ++ behind) r = lockBlocks nodes r := by
  refine ⟨lockBlocks_eq_filterMap published nodes, lockBlocks_ids_nodup nodes r,
    fun b => mem_lockBlocks published, fun b _ id found => published.blockId found,
    lockBlocks_pairwise published nodes, fun later => ?_, ?_⟩
  · rw [lockBlocks_append published]
    exact List.prefix_append _ _
  · rintro before n behind rfl (repeated | unpublished)
    · exact (lockBlocks_of_repeated published repeated).symm
    · exact (lockBlocks_of_unpublished unpublished).symm

/-- Three published blocks. -/
def textBlocks : Registry :=
  .ofVersions
    [{ blockId := "texts.split", version := "1.0.0", digest := "d1g3st01" },
     { blockId := "texts.join", version := "2.0.0", digest := "d1g3st02" },
     { blockId := "texts.pad", version := "3.0.0", digest := "d1g3st03" }]

/-- A node of a block. -/
def nodeOf (id blockId : String) : Node := ⟨{ kind := .fusion, block := ⟨blockId, "1.0.0"⟩ }, id⟩

/-- Nodes that refer to two published blocks twice and to one that is not published. -/
def interleaved : List Node :=
  [nodeOf "a" "texts.join", nodeOf "b" "texts.draft", nodeOf "c" "texts.split",
   nodeOf "d" "texts.join", nodeOf "e" "texts.split"]

/-- The blocks are locked in the order of their first references. The second reference to one of them
can go, and a third block is locked behind them. -/
theorem lockBlocks_in_order_interleaved :
    (lockBlocks interleaved textBlocks).map (·.blockId) = ["texts.join", "texts.split"] ∧
      lockBlocks (interleaved.eraseIdx 3) textBlocks = lockBlocks interleaved textBlocks ∧
      lockBlocks interleaved textBlocks <+:
        lockBlocks (interleaved ++ [nodeOf "f" "texts.pad"]) textBlocks := by
  have published : textBlocks.Reached := .inl ⟨_, rfl⟩
  obtain ⟨versions, -, -, -, -, grown, dropped⟩ := lockBlocks_in_order published interleaved
  refine ⟨?_, ?_, grown _⟩
  · rw [versions]
    rfl
  · exact dropped (interleaved.take 3) (nodeOf "d" "texts.join") [nodeOf "e" "texts.split"] rfl
      (.inl (by decide))

end Locks

end BlockPipeline
