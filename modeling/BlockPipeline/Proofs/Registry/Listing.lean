import BlockPipeline.Proofs.Diagnose.Snapshot
import BlockPipeline.Proofs.Session.Log
import Mathlib.Data.List.Dedup

/-!
# What a listing makes of the snapshot

A snapshot is made anew from each listing that arrives. It has for every block the version that the
last record of the block publishes, among the records that publish one (`Registry.HoldsLast`). So a
record that publishes nothing might as well not be listed, wherever it stands, and of the snapshot
before nothing is left. A listing that fails to arrive leaves that snapshot as it was.

Versions that are given directly are entered in the same way, every one of them being published.

| Statement | In words | From |
| --- | --- | --- |
| `holdsLast_ofVersions` | a snapshot of what items publish holds the last one of each block | `lookup_ofVersions`, `LastWith` |
| `size_eq_dedup` | its size counts the blocks | ascending keys are distinct |
| `refresh_takes_listing` | what a reply makes of the snapshot, whatever it was before | the above |
-/

set_option autoImplicit false

namespace BlockPipeline

namespace Registry

variable {α : Type} {key : α → String} {version? : α → Option BlockVersion}

/-! ## The blocks of a snapshot -/

/-- Nothing is found under an id exactly if it is not among the keys. -/
theorem lookup_eq_none_iff {r : Registry} {id : String} :
    r.lookup id = none ↔ id ∉ r.entries.map Prod.fst := by
  rw [lookup, List.lookup_eq_none_iff, List.mem_map]
  constructor
  · rintro absent ⟨entry, mem, rfl⟩
    exact (bne_iff_ne.mp (absent entry mem)) rfl
  · intro absent entry mem
    exact bne_iff_ne.mpr fun same => absent ⟨entry, mem, same.symm⟩

/-- The size of a snapshot counts the blocks of which it has a version. -/
theorem size_eq_dedup {r : Registry} {ids : List String}
    (known : ∀ id, r.lookup id = none ↔ id ∉ ids) : r.size = ids.dedup.length := by
  have same : (r.entries.map Prod.fst).Perm ids.dedup := by
    refine (List.perm_ext_iff_of_nodup r.ascending.nodup (List.nodup_dedup ids)).mpr fun id => ?_
    rw [List.mem_dedup]
    exact not_iff_not.mp (lookup_eq_none_iff.symm.trans (known id))
  rw [size, ← same.length_eq, List.length_map]

/-! ## The last one of each block -/

/-- **A snapshot that holds the last version of each block**, of what some items publish. Each item
has a block and may publish a version of it. -/
structure HoldsLast (r : Registry) (key : α → String) (version? : α → Option BlockVersion)
    (items : List α) : Prop where
  /-- What is found under an id was published by the last item of this block that publishes
  anything. -/
  found : ∀ id b, r.lookup id = some b ↔
    ∃ a, LastWith (fun a => key a = id ∧ (version? a).isSome = true) items a ∧ version? a = some b
  missing : ∀ id, r.lookup id = none ↔ ∀ a ∈ items, key a = id → version? a = none
  /-- Every version stands under the id of its block. -/
  own : ∀ id b, r.lookup id = some b → b.blockId = id
  /-- There are as many versions as blocks of which one is published. -/
  count : r.size = ((items.filter fun a => (version? a).isSome).map key).dedup.length

/-- **A snapshot of what items publish holds the last version of each block.** -/
theorem holdsLast_ofVersions (own : ∀ a b, version? a = some b → b.blockId = key a)
    (items : List α) :
    (ofVersions (items.filterMap version?)).HoldsLast key version? items := by
  have each : ∀ id, (ofVersions (items.filterMap version?)).lookup id =
      (items.filterMap fun a => if key a = id then version? a else none).getLast? := by
    intro id
    rw [lookup_ofVersions, List.filter_filterMap]
    exact congrArg List.getLast? (List.filterMap_congr fun a _ => filter_version? own id a)
  have missing : ∀ id, (ofVersions (items.filterMap version?)).lookup id = none ↔
      ∀ a ∈ items, key a = id → version? a = none := by
    intro id
    rw [each, List.getLast?_eq_none_iff, List.filterMap_eq_nil_iff]
    simp only [ite_eq_right_iff]
  refine ⟨fun id b => ?_, missing, fun id b found => ?_, size_eq_dedup fun id => ?_⟩
  · have here : (fun a => (if key a = id then version? a else none).isSome = true) =
        fun a => key a = id ∧ (version? a).isSome = true := by
      ext a
      by_cases same : key a = id <;> simp [same]
    rw [each, getLast?_filterMap_eq_some_iff, here]
    refine exists_congr fun a => and_congr_right ?_
    rintro ⟨front, behind, -, ⟨same, -⟩, -⟩
    rw [if_pos same]
  · exact (of_lookup_ofVersions found).2
  · rw [missing]
    simp only [List.mem_map, List.mem_filter, not_exists, not_and, and_imp]
    refine forall_congr' fun a => forall_congr' fun mem => ?_
    cases version? a <;> simp

/-- Records that publish nothing leave no trace. -/
theorem ofRecords_filter_published (listing : List BlockRecord) :
    ofRecords (listing.filter (·.latestPublished.isSome)) = ofRecords listing := by
  rw [ofRecords, List.filterMap_filter, ofRecords]
  congr 1
  refine List.filterMap_congr fun record _ => ?_
  cases published : record.latestPublished <;> simp [BlockRecord.published?, published]

/-! ## Replies of the registry -/

/-- What one reply makes of the snapshot. -/
theorem registry_step_refresh (s : Session) (reply : Reply (List BlockRecord)) :
    (s.step (.refresh reply)).session.registry =
      (reply.toOption.map ofRecords).getD s.registry := by
  cases reply <;> rfl

/-- What replies in a row make of it: the last listing that arrived stands. -/
theorem registry_after_refresh (s : Session) (replies : List (Reply (List BlockRecord))) :
    (s.after (replies.map .refresh)).registry =
      ((replies.filterMap Except.toOption).getLast?.map ofRecords).getD s.registry := by
  induction replies using List.reverseRecOn with
  | nil => rfl
  | append_singleton replies reply ih =>
    have last : s.after ((replies ++ [reply]).map .refresh) =
        ((s.after (replies.map .refresh)).step (.refresh reply)).session := by
      rw [List.map_append]
      exact List.foldl_append
    rw [last, registry_step_refresh, ih, List.filterMap_append, List.getLast?_append]
    cases reply <;> simp [Except.toOption]

/-- **What a reply of the registry makes of the snapshot**, whatever the session held before. A
listing takes the place of the snapshot: for each block it has what the last record of the block
publishes among those that publish anything, and nothing where none does. Records that publish
nothing make no difference. Versions that are given directly are held by the same law. A failure
leaves the snapshot as it was. So behind any replies in a row the snapshot is that of the last
listing among them, and if they all failed the one before. -/
theorem refresh_takes_listing (s : Session) :
    (∀ listing,
      (s.step (.refresh (.ok listing))).session.registry = ofRecords listing ∧
      (ofRecords listing).HoldsLast BlockRecord.blockId BlockRecord.published? listing ∧
      ofRecords (listing.filter (·.latestPublished.isSome)) = ofRecords listing) ∧
    (∀ versions, (ofVersions versions).HoldsLast BlockVersion.blockId some versions) ∧
    (∀ error, (s.step (.refresh (.error error))).session.registry = s.registry) ∧
    ∀ replies : List (Reply (List BlockRecord)), (s.after (replies.map .refresh)).registry =
      ((replies.filterMap Except.toOption).getLast?.map ofRecords).getD s.registry := by
  refine ⟨fun listing => ⟨?_, ?_, ?_⟩, fun versions => ?_, fun error => ?_, fun replies => ?_⟩
  · exact registry_step_refresh s (.ok listing)
  · exact holdsLast_ofVersions (fun _ _ => blockId_of_published?) listing
  · exact ofRecords_filter_published listing
  · have given :
        (ofVersions (versions.filterMap some)).HoldsLast BlockVersion.blockId some versions :=
      holdsLast_ofVersions (fun a b same => (Option.some.inj same) ▸ rfl) versions
    rwa [List.filterMap_some] at given
  · exact registry_step_refresh s (.error error)
  · exact registry_after_refresh s replies

/-- A record that publishes nothing. -/
def draftRecord (blockId : String) : BlockRecord := { blockId := blockId }

/-- One block is published twice, with records that publish nothing around, and one is not
published. The block that was known before is gone, and a failure afterwards changes nothing. -/
theorem refresh_takes_listing_repeated :
    let old : BlockVersion := { blockId := "texts.old", version := "1.0.0", digest := "d1g3st00" }
    let s : Session := { registry := .ofVersions [old] }
    let listing :=
      [publishedRecord "texts.join" "1.0.0", draftRecord "texts.join",
       publishedRecord "texts.join" "2.0.0", draftRecord "texts.draft", draftRecord "texts.join"]
    let r := (s.step (.refresh (.ok listing))).session.registry
    r.version? "texts.join" = some "2.0.0" ∧ r.lookup "texts.draft" = none ∧
      r.lookup "texts.old" = none ∧ r.size = 1 ∧
      (s.after ([.ok listing, .error (.transport "down")].map .refresh)).registry = r := by
  intro old s listing r
  obtain ⟨listings, -, -, replies⟩ := refresh_takes_listing s
  obtain ⟨arrived, holds, -⟩ := listings listing
  have taken : r = ofRecords listing := arrived
  have latest : r.lookup "texts.join" = (publishedRecord "texts.join" "2.0.0").published? := by
    rw [taken]
    refine (holds.found "texts.join" _).mpr ⟨publishedRecord "texts.join" "2.0.0", ?_, rfl⟩
    refine ⟨listing.take 2, listing.drop 3, rfl, ⟨rfl, rfl⟩, ?_⟩
    decide
  refine ⟨?_, ?_, ?_, ?_, ?_⟩
  · rw [version?, latest]
    rfl
  · rw [taken]
    exact (holds.missing "texts.draft").mpr (by decide)
  · rw [taken]
    exact (holds.missing "texts.old").mpr (by decide)
  · rw [taken, holds.count]
    decide
  · rw [replies]
    exact taken.symm

end Registry

end BlockPipeline
