import BlockPipeline.Compile
import BlockPipeline.Proofs.Json.Members

/-!
# What is locked

A snapshot of the registry has every version under the id of its block (`Registry.Reached.blockId`),
because it is made of entries that are put in under this id. So the locked versions have distinct
ids, and what is locked under the id of a node's block is what the snapshot has there: one version
or none (`filter_lockBlocks`).
-/

set_option autoImplicit false

namespace BlockPipeline

namespace Registry

/-- A snapshot as it is made: of given versions, or of a listing. -/
def Reached (r : Registry) : Prop :=
  (∃ versions, ofVersions versions = r) ∨ ∃ records, ofRecords records = r

/-- Entering a version changes what is found under its id alone. -/
theorem lookup_enter (r : Registry) (b : BlockVersion) (id : String) :
    (r.enter b).lookup id = if id = b.blockId then some b else r.lookup id :=
  lookup_insertMember b.blockId id b r.entries

/-- What is found in a snapshot is one of the given versions, under the id of its block. -/
theorem of_lookup_ofVersions {versions : List BlockVersion} {id : String} {b : BlockVersion}
    (found : (ofVersions versions).lookup id = some b) : b ∈ versions ∧ b.blockId = id := by
  -- a snapshot that is made on keeps what is known of the versions that it has
  have kept : ∀ (later : List BlockVersion) (r : Registry), (∀ v ∈ later, v ∈ versions) →
      (∀ id b, r.lookup id = some b → b ∈ versions ∧ b.blockId = id) →
      ∀ id b, (later.foldl enter r).lookup id = some b → b ∈ versions ∧ b.blockId = id := by
    intro later
    induction later with
    | nil => exact fun r _ known => known
    | cons v later ih =>
      intro r given known
      obtain ⟨first, others⟩ := List.forall_mem_cons.mp given
      refine ih (r.enter v) others fun id b found => ?_
      rw [lookup_enter] at found
      split at found
      next same =>
        cases found
        exact ⟨first, same.symm⟩
      next => exact known id b found
  exact kept versions empty (fun _ mem => mem) nofun id b found

/-- **Every version stands under the id of its block.** -/
theorem Reached.blockId {r : Registry} (reached : r.Reached) {id : String} {b : BlockVersion}
    (found : r.lookup id = some b) : b.blockId = id := by
  rcases reached with ⟨versions, rfl⟩ | ⟨records, rfl⟩
  · exact (of_lookup_ofVersions found).2
  · exact (of_lookup_ofVersions found).2

end Registry

/-! ## Keeping the first of each key -/

section KeepFirst

variable {α : Type} {key : α → String}

theorem mem_of_mem_keepFirst {l : List α} {a : α} (mem : a ∈ keepFirst key l) : a ∈ l := by
  induction l with
  | nil => cases mem
  | cons b l ih =>
    rcases List.mem_cons.mp mem with rfl | mem
    · exact List.mem_cons_self
    · exact List.mem_cons_of_mem _ (ih (List.mem_filter.mp mem).1)

/-- Nothing is lost where elements with one key are equal. -/
theorem mem_keepFirst {l : List α} (inj : ∀ a ∈ l, ∀ b ∈ l, key a = key b → a = b) {a : α} :
    a ∈ keepFirst key l ↔ a ∈ l := by
  refine ⟨mem_of_mem_keepFirst, fun mem => ?_⟩
  induction l with
  | nil => cases mem
  | cons b l ih =>
    by_cases same : key a = key b
    · rw [inj a mem b List.mem_cons_self same]
      exact List.mem_cons_self
    · have inTail : a ∈ l := (List.mem_cons.mp mem).resolve_left fun h => same (h ▸ rfl)
      have kept := ih (fun c hc d hd => inj c (List.mem_cons_of_mem _ hc) d
        (List.mem_cons_of_mem _ hd)) inTail
      exact List.mem_cons_of_mem _ (List.mem_filter.mpr ⟨kept, by simpa using same⟩)

/-- No two of the elements that are kept have one key. -/
theorem keepFirst_keys_nodup (l : List α) : ((keepFirst key l).map key).Nodup := by
  induction l with
  | nil => exact List.nodup_nil
  | cons b l ih =>
    refine List.nodup_cons.mpr ⟨fun mem => ?_, (List.filter_sublist.map key).nodup ih⟩
    obtain ⟨a, ha, same⟩ := List.mem_map.mp mem
    simpa [same] using (List.mem_filter.mp ha).2

end KeepFirst

/-! ## The locked versions -/

/-- The locked versions have distinct ids. -/
theorem lockBlocks_ids_nodup (nodes : List Node) (r : Registry) :
    ((lockBlocks nodes r).map (·.blockId)).Nodup := keepFirst_keys_nodup _

/-- A version is locked exactly if the snapshot has it under the id of some node's block. -/
theorem mem_lockBlocks {r : Registry} (reached : r.Reached) {nodes : List Node}
    {b : BlockVersion} :
    b ∈ lockBlocks nodes r ↔ ∃ n ∈ nodes, r.lookup n.block.blockId = some b := by
  unfold lockBlocks
  rw [mem_keepFirst, List.mem_filterMap]
  intro b hb c hc same
  obtain ⟨n, -, hn⟩ := List.mem_filterMap.mp hb
  obtain ⟨m, -, hm⟩ := List.mem_filterMap.mp hc
  rw [reached.blockId hn, reached.blockId hm] at same
  rw [same, hm] at hn
  exact (Option.some.inj hn).symm

/-- Whatever is locked is in the snapshot. -/
theorem lookup_of_mem_lockBlocks {r : Registry} {nodes : List Node} {b : BlockVersion}
    (mem : b ∈ lockBlocks nodes r) : ∃ id, r.lookup id = some b := by
  obtain ⟨n, -, found⟩ := List.mem_filterMap.mp (mem_of_mem_keepFirst mem)
  exact ⟨_, found⟩

/-- What is found under the id of a node's block is locked. -/
theorem mem_lockBlocks_iff_lookup {r : Registry} (reached : r.Reached) {nodes : List Node}
    {n : Node} (hn : n ∈ nodes) {b : BlockVersion} :
    b ∈ lockBlocks nodes r ∧ b.blockId = n.block.blockId ↔
      r.lookup n.block.blockId = some b := by
  constructor
  · rintro ⟨mem, same⟩
    obtain ⟨m, -, hm⟩ := (mem_lockBlocks reached).mp mem
    rw [← same, reached.blockId hm]
    exact hm
  · intro found
    exact ⟨(mem_lockBlocks reached).mpr ⟨n, hn, found⟩, reached.blockId found⟩

/-- A list with distinct keys has one element with a key, if it has any. -/
theorem filter_key_eq_singleton {α : Type} {key : α → String} {l : List α}
    (distinct : (l.map key).Nodup) {a : α} (mem : a ∈ l) :
    l.filter (fun b => key b == key a) = [a] := by
  induction l with
  | nil => cases mem
  | cons b l ih =>
    obtain ⟨new, distinct⟩ := List.nodup_cons.mp distinct
    rcases List.mem_cons.mp mem with rfl | mem
    · have others : l.filter (fun b => key b == key a) = [] :=
        List.filter_eq_nil_iff.mpr fun b hb same =>
          new (List.mem_map.mpr ⟨b, hb, by simpa using same⟩)
      simp [others]
    · have differ : (key b == key a) = false := beq_false_of_ne fun same =>
        new (same ▸ List.mem_map_of_mem mem)
      simp [differ, ih distinct mem]

/-- **What is locked for a node** is what the snapshot has for its block. -/
theorem filter_lockBlocks {r : Registry} (reached : r.Reached) {nodes : List Node} {n : Node}
    (hn : n ∈ nodes) :
    (lockBlocks nodes r).filter (·.blockId == n.block.blockId) =
      (r.lookup n.block.blockId).toList := by
  cases found : r.lookup n.block.blockId with
  | none =>
    refine List.filter_eq_nil_iff.mpr fun b hb same => ?_
    have there := (mem_lockBlocks_iff_lookup reached hn).mp ⟨hb, by simpa using same⟩
    rw [found] at there
    cases there
  | some b =>
    obtain ⟨mem, same⟩ := (mem_lockBlocks_iff_lookup reached hn).mpr found
    rw [← same]
    exact filter_key_eq_singleton (lockBlocks_ids_nodup nodes r) mem

end BlockPipeline
