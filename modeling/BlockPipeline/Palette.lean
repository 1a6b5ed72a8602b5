import BlockPipeline.Graph.Connection
import BlockPipeline.Registry

/-!
# Palettes and the quick-start pipeline

A palette is the set of block templates that an editor offers. It is never empty, and its
first template is the one that is selected where no other has the key asked for; an editor
starts by asking for the empty key. A template that is placed becomes a node pinned to the
version that the registry publishes.

`quickStart` is a complete pipeline made of the built-in templates: a dataset, two encoders,
their fusion, a trainer and an evaluator.
-/

namespace BlockPipeline

/-- A block template. -/
structure Template where
  key : String
  label : String
  kind : NodeKind
  blockId : String
  inputs : List Port := []
  outputs : List Port := []
  config : Config := .empty

/-- The node that a template becomes, pinned to a version. -/
def Template.body (t : Template) (version : String) (position : Position) : NodeBody :=
  { kind := t.kind
    block := ⟨t.blockId, version⟩
    inputs := t.inputs
    outputs := t.outputs
    config := t.config
    position := position }

/-- The templates of an editor, at least one. -/
structure Palette where
  first : Template
  rest : List Template

/-- The version of a template whose block is not published. -/
def unpublishedVersion : String := "1.0.0"

/-- The version that the quick-start pipeline uses for a block that is not published. -/
def quickStartVersion : String := "1.1.0"

namespace Palette

/-- The palette of the given templates; none without templates. -/
def ofList? : List Template → Option Palette
  | [] => none
  | first :: rest => some ⟨first, rest⟩

def toList (p : Palette) : List Template := p.first :: p.rest

/-- The first template with a key. -/
def find? (p : Palette) (key : String) : Option Template := p.toList.find? (·.key == key)

/-- The template with a key, or the first one. -/
def select (p : Palette) (key : String) : Template := (p.find? key).getD p.first

/-- Places the template with a key under a fresh id whose stem is the key. -/
def place? (p : Palette) (key : String) (g : Graph) (r : Registry) (draws : List String)
    (position : Position) : Option (Node × Graph) := do
  let template ← p.find? key
  let version := (r.version? template.blockId).getD unpublishedVersion
  g.add? template.key draws (template.body version position)

/-! ## The built-in templates -/

def batch : Port := { name := "batch", portType := "batch.multimodal.v1" }
def labels : Port := { name := "labels", portType := "labels.class" }
def embedding (name : String) : Port := { name := name, portType := "tensor.embed" }
def fused : Port := { name := "fused", portType := "tensor.fused" }
def model : Port := { name := "model", portType := "model.classifier" }
def metrics : Port := { name := "metrics", portType := "metrics.report" }

/-- The decimal fraction `digits / 10 ^ places`. -/
def decimal (digits places : Nat) : Double :=
  (Double.ofRatio? false digits (Nat.pow 10 places)).getD (.zero false)

def dataset : Template :=
  { key := "dataset", label := "Toy A/V dataset", kind := .dataset, blockId := "datasets.toy_av"
    outputs := [batch, labels], config := DatasetConfig.toConfig { n := some 800 } }

/-- A linear encoder of one modality. -/
def encoder (key label modality output : String) : Template :=
  { key := key, label := label, kind := .encoder, blockId := "unimodals.linear"
    inputs := [batch], outputs := [embedding output]
    config := EncoderConfig.toConfig { modalityKey := some modality, outDim := some 16 } }

def fusion : Template :=
  { key := "fusion", label := "Concat fusion", kind := .fusion, blockId := "fusions.concat"
    inputs := [embedding "embedA", embedding "embedV"], outputs := [fused] }

def trainer : Template :=
  { key := "trainer", label := "SGD classifier trainer", kind := .trainer
    blockId := "training_structures.sgd_classifier"
    inputs := [fused, labels], outputs := [model]
    config := TrainerConfig.toConfig { maxIter := some 300, alpha := some (decimal 1 4) } }

def evaluator : Template :=
  { key := "evaluator", label := "Basic evaluator", kind := .evaluator
    blockId := "eval_scripts.basic"
    inputs := [model], outputs := [metrics]
    config := EvaluatorConfig.toConfig { noiseStd := some (decimal 2 1) } }

/-- The templates of the toy pipeline that classifies sound and pictures. -/
def builtin : Palette :=
  { first := dataset
    rest :=
      [encoder "encA" "Linear encoder (audio)" "audio" "embedA",
       encoder "encV" "Linear encoder (vision)" "vision" "embedV",
       fusion, trainer, evaluator] }

end Palette

/-! ## The quick-start pipeline -/

namespace QuickStart

/-- The nodes: id, key of the template and position. -/
def layout : List (String × String × Position) :=
  [("n_ds", "dataset", .ofInts 40 120),
   ("n_encA", "encA", .ofInts 320 40),
   ("n_encV", "encV", .ofInts 320 220),
   ("n_fus", "fusion", .ofInts 620 120),
   ("n_tr", "trainer", .ofInts 920 120),
   ("n_ev", "evaluator", .ofInts 1200 120)]

/-- The connections. -/
def wiring : List Candidate :=
  [.between "n_ds" "batch" "n_encA" "batch",
   .between "n_ds" "batch" "n_encV" "batch",
   .between "n_encA" "embedA" "n_fus" "embedA",
   .between "n_encV" "embedV" "n_fus" "embedV",
   .between "n_fus" "fused" "n_tr" "fused",
   .between "n_ds" "labels" "n_tr" "labels",
   .between "n_tr" "model" "n_ev" "model"]

/-- Places one node of the layout, pinned to the published version of its block. -/
def placeNode (r : Registry) (g : Graph) (entry : String × String × Position) : Graph :=
  let (id, key, position) := entry
  let template := Palette.builtin.select key
  let version := (r.version? template.blockId).getD quickStartVersion
  (g.insert? id (template.body version position)).getD g

/-- Makes one connection; a refused one is left out. -/
def wire (g : Graph) (c : Candidate) : Graph :=
  match g.connect c with
  | .ok (_, g) => g
  | .error _ => g

end QuickStart

/-- The quick-start pipeline against a snapshot of the registry. -/
def quickStart (r : Registry) : Graph :=
  QuickStart.wiring.foldl QuickStart.wire (QuickStart.layout.foldl (QuickStart.placeNode r) .empty)

end BlockPipeline
