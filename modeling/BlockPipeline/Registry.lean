import BlockPipeline.Json.Record

/-!
# The registry of published blocks

The registry service lists records, one per block, and each may have a published version. A
`Registry` is a snapshot of what is published: for each block id the version that a
compilation locks. A snapshot never merges with an earlier one. It is made anew from a
listing, and of several published entries for one block the last one stands.

Entries are kept in ascending order of their ids, so snapshots with the same entries are
equal.
-/

namespace BlockPipeline

/-- A published version of a block, as a compilation locks it. -/
structure BlockVersion where
  blockId : String
  version : String
  digest : String
  inputSchema : FreeObject := .empty
  outputSchema : FreeObject := .empty
  changelog : Option String := none
  deprecated : Option Bool := none

namespace BlockVersion

def isDeprecated (b : BlockVersion) : Bool := b.deprecated.getD false

def codec : Codec BlockVersion :=
  Record.codec
    (Record.start BlockVersion.mk
      |>.required "blockId" .string BlockVersion.blockId
      |>.required "version" .string BlockVersion.version
      |>.required "digest" .string BlockVersion.digest
      |>.defaulted "inputSchema" .object .empty BlockVersion.inputSchema
      |>.defaulted "outputSchema" .object .empty BlockVersion.outputSchema
      |>.optional "changelog" .string BlockVersion.changelog
      |>.optional "deprecated" .bool BlockVersion.deprecated)
    "BlockVersion"

end BlockVersion

/-- The latest published version of a block, as the service reports it. -/
structure PublishedVersion where
  version : String
  digest : String
  inputSchema : Option FreeObject := none
  outputSchema : Option FreeObject := none
  changelog : Option String := none
  deprecated : Option Bool := none

def PublishedVersion.codec : Codec PublishedVersion :=
  Record.codec
    (Record.start PublishedVersion.mk
      |>.required "version" .string PublishedVersion.version
      |>.required "digest" .string PublishedVersion.digest
      |>.nullable "inputSchema" .object PublishedVersion.inputSchema
      |>.nullable "outputSchema" .object PublishedVersion.outputSchema
      |>.nullable "changelog" .string PublishedVersion.changelog
      |>.nullable "deprecated" .bool PublishedVersion.deprecated)
    "PublishedVersion"

/-- An entry of the registry's listing. -/
structure BlockRecord where
  blockId : String
  category : Option String := none
  displayName : Option String := none
  description : Option String := none
  latestPublished : Option PublishedVersion := none

namespace BlockRecord

def codec : Codec BlockRecord :=
  Record.codec
    (Record.start BlockRecord.mk
      |>.required "blockId" .string BlockRecord.blockId
      |>.nullable "category" .string BlockRecord.category
      |>.nullable "displayName" .string BlockRecord.displayName
      |>.nullable "description" .string BlockRecord.description
      |>.nullable "latestPublished" PublishedVersion.codec BlockRecord.latestPublished)
    "BlockRecord"

/-- The version that a record publishes, if it publishes one; a schema that is not given is
empty. -/
def published? (r : BlockRecord) : Option BlockVersion :=
  r.latestPublished.map fun p =>
    { blockId := r.blockId
      version := p.version
      digest := p.digest
      inputSchema := p.inputSchema.getD .empty
      outputSchema := p.outputSchema.getD .empty
      changelog := p.changelog
      deprecated := p.deprecated }

end BlockRecord

/-- A snapshot of the published versions by block id. -/
structure Registry where
  entries : List (String × BlockVersion)
  ascending : AscendingKeys entries

namespace Registry

def empty : Registry := ⟨[], List.Pairwise.nil⟩

instance : Inhabited Registry := ⟨empty⟩

/-- Enters a version under its block id, in place of an earlier one. -/
def enter (r : Registry) (b : BlockVersion) : Registry :=
  ⟨insertMember b.blockId b r.entries, ascendingKeys_insertMember r.ascending b.blockId b⟩

/-- The snapshot of the given versions; of two of one block the later one stands. -/
def ofVersions (versions : List BlockVersion) : Registry := versions.foldl enter empty

/-- The snapshot of a listing; records that publish nothing leave no trace. -/
def ofRecords (records : List BlockRecord) : Registry :=
  ofVersions (records.filterMap BlockRecord.published?)

/-- The published version of a block. -/
def lookup (r : Registry) (blockId : String) : Option BlockVersion := r.entries.lookup blockId

/-- The version text that is published for a block. -/
def version? (r : Registry) (blockId : String) : Option String := (r.lookup blockId).map (·.version)

def size (r : Registry) : Nat := r.entries.length

def isEmpty (r : Registry) : Bool := r.entries.isEmpty

/-- The published versions, by ascending block id. -/
def toList (r : Registry) : List BlockVersion := r.entries.map Prod.snd

end Registry

end BlockPipeline
