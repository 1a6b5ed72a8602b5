import BlockPipeline.Json.Record

/-!
# Configurations and their typed readings

A node's configuration is an open bag of values; its shape belongs to the block and not to
this library. For four families of blocks some keys have a known type, and the bag can be
read as a record of those keys and the rest. A key that is absent or `null` has no value in
the record. If one of the keys holds a value of another type, the whole bag stays as it is.

The other direction writes a record back into a bag: the typed keys that have a value, and
then the rest, which wins where it repeats a typed key.
-/

namespace BlockPipeline

/-- A node's configuration. -/
abbrev Config := FreeObject

/-- The role of a block in a pipeline. -/
inductive NodeKind where
  | dataset
  | encoder
  | fusion
  | objective
  | trainer
  | evaluator
deriving DecidableEq

namespace NodeKind

/-- The name of a role. -/
def text : NodeKind → String
  | .dataset => "dataset"
  | .encoder => "encoder"
  | .fusion => "fusion"
  | .objective => "objective"
  | .trainer => "trainer"
  | .evaluator => "evaluator"

def all : List NodeKind := [.dataset, .encoder, .fusion, .objective, .trainer, .evaluator]

/-- The wire form of a role is its name. -/
def codec : Codec NodeKind := .variant (all.map fun kind => (kind.text, kind)) text

end NodeKind

/-- The known keys of a dataset. -/
structure DatasetConfig where
  n : Option UInt64 := none
  extra : Config := .empty

/-- The known keys of an encoder. -/
structure EncoderConfig where
  modalityKey : Option String := none
  outDim : Option UInt64 := none
  extra : Config := .empty

/-- The known keys of a trainer. -/
structure TrainerConfig where
  maxIter : Option UInt64 := none
  alpha : Option Double := none
  extra : Config := .empty

/-- The known keys of an evaluator. -/
structure EvaluatorConfig where
  noiseStd : Option Double := none
  extra : Config := .empty

/-- A configuration as the role of its node lets it be read. -/
inductive ConfigView where
  | dataset (c : DatasetConfig)
  | encoder (c : EncoderConfig)
  | trainer (c : TrainerConfig)
  | evaluator (c : EvaluatorConfig)
  /-- No typed reading: the whole bag. -/
  | generic (all : Config)

namespace Config

/-- The value of a typed key: `some none` if the key is absent or `null`, and nothing if it
holds a value of another type. -/
def known? {α : Type} (c : Config) (key : String) (codec : Codec α) : Option (Option α) :=
  match c.get? key with
  | none => some none
  | some value => (codec.nullable.decodeValue value).toOption

/-- Everything but the given keys. -/
def without (c : Config) (keys : List String) : Config := c.filterKeys fun key => !keys.contains key

def dataset? (c : Config) : Option DatasetConfig := do
  return { n := ← c.known? "n" .word, extra := c.without ["n"] }

def encoder? (c : Config) : Option EncoderConfig := do
  return { modalityKey := ← c.known? "modalityKey" .string
           outDim := ← c.known? "outDim" .word
           extra := c.without ["modalityKey", "outDim"] }

def trainer? (c : Config) : Option TrainerConfig := do
  return { maxIter := ← c.known? "maxIter" .word
           alpha := ← c.known? "alpha" .double
           extra := c.without ["maxIter", "alpha"] }

def evaluator? (c : Config) : Option EvaluatorConfig := do
  return { noiseStd := ← c.known? "noiseStd" .double, extra := c.without ["noiseStd"] }

/-- Reads a configuration by the role of its node. -/
def view (c : Config) (kind : NodeKind) : ConfigView :=
  let typed : Option ConfigView :=
    match kind with
    | .dataset => c.dataset?.map .dataset
    | .encoder => c.encoder?.map .encoder
    | .trainer => c.trainer?.map .trainer
    | .evaluator => c.evaluator?.map .evaluator
    | .fusion | .objective => none
  typed.getD (.generic c)

/-- Puts a value under a key, if there is one. -/
def putSome (c : Config) (key : String) (value : Option FreeJson) : Config :=
  match value with
  | some value => c.insert key value
  | none => c

/-- Puts all members of another bag. -/
def putAll (c extra : Config) : Config :=
  extra.entries.foldl (fun c entry => c.insert entry.1 entry.2) c

end Config

/-- An unsigned integer as a free value. -/
def FreeJson.ofWord (n : UInt64) : FreeJson := .number (.integer (.ofUInt64 n))

/-- A floating-point number as a free value. -/
def FreeJson.ofDouble (x : Double) : FreeJson := .number (.fractional x)

def DatasetConfig.toConfig (c : DatasetConfig) : Config :=
  FreeObject.empty
    |> (Config.putSome · "n" (c.n.map .ofWord))
    |> (Config.putAll · c.extra)

def EncoderConfig.toConfig (c : EncoderConfig) : Config :=
  FreeObject.empty
    |> (Config.putSome · "modalityKey" (c.modalityKey.map .string))
    |> (Config.putSome · "outDim" (c.outDim.map .ofWord))
    |> (Config.putAll · c.extra)

def TrainerConfig.toConfig (c : TrainerConfig) : Config :=
  FreeObject.empty
    |> (Config.putSome · "maxIter" (c.maxIter.map .ofWord))
    |> (Config.putSome · "alpha" (c.alpha.map .ofDouble))
    |> (Config.putAll · c.extra)

def EvaluatorConfig.toConfig (c : EvaluatorConfig) : Config :=
  FreeObject.empty
    |> (Config.putSome · "noiseStd" (c.noiseStd.map .ofDouble))
    |> (Config.putAll · c.extra)

end BlockPipeline
