import BlockPipeline.Cli.Program
import BlockPipeline.Proofs.Compile.Depth
import BlockPipeline.Proofs.Spec.ReadBack
import BlockPipeline.Proofs.Spec.Rules

/-!
# What the program compiles can be run

The command `compile` reads a draft and a listing and hands out the text of a specification, on the
output or in a file. Whatever is in the draft and in the listing, this text is read as the
specification that was compiled, or is refused for what `Spec.validate` says of it; that it cannot
be decoded is never the reason (`compile_read_back`).
-/

set_option autoImplicit false

namespace BlockPipeline

/-! ## Listings -/

/-- Records that a service answers with were decoded from a text. -/
theorem HttpService.decodeText_of_listBlocks {s : HttpService} {records : List BlockRecord}
    (answered : s.listBlocks = .ok records) :
    ∃ text, BlockRecord.codec.list.decodeText text = .ok records := by
  unfold HttpService.listBlocks Request.send at answered
  split at answered
  next => cases answered
  next =>
    obtain ⟨response, -, answered⟩ := bind_eq_ok.mp answered
    split at answered
    next => exact ⟨response.body, mapError_eq_ok.mp answered⟩
    next => cases answered

/-- A written value is decoded from its text if it is decoded from its document. -/
theorem Codec.decodeText_pretty {α : Type} {c : Codec α} {a : α}
    (shallow : (c.encode a).depth ≤ Document.depthLimit) (readsBack : (c.encode a).ReadsBack)
    (decoded : c.decode .text (.ofJson (c.encode a)) = .ok a) :
    c.decodeText (c.encode a).pretty = .ok a := by
  simp only [decodeText, (Document.read_pretty shallow readsBack).1, decoded]
  rfl

namespace Cli

/-- The snapshot that a listing gives: an empty one, or that of records which were decoded. -/
inductive Listed (i : Invocation) (w : World) : ListingSource → Registry → Prop where
  | nowhere : Listed i w .nowhere .empty
  | file {path text : String} {records : List BlockRecord} (given : w.read path = .ok text)
      (decoded : BlockRecord.codec.list.decodeText text = .ok records) :
      Listed i w (.file path) (.ofRecords records)
  | remote {records : List BlockRecord}
      (answered : (Script.services i w).listBlocks = .ok records) :
      Listed i w .remote (.ofRecords records)

variable {i : Invocation} {w : World}

/-- No version in it is too deep for a specification. -/
theorem Listed.version_depth_le {listing : ListingSource} {r : Registry}
    (listed : Listed i w listing r) {id : String} {b : BlockVersion}
    (found : r.lookup id = some b) : (BlockVersion.codec.encode b).depth ≤ 125 := by
  have fromText : ∀ {text records}, BlockRecord.codec.list.decodeText text = .ok records →
      (Registry.ofRecords records).lookup id = some b →
      (BlockVersion.codec.encode b).depth ≤ 125 := fun decoded found =>
    Registry.version_depth_le (by decide)
      (BlockRecord.codec_shallow.list.decodeText_depth_le (by decide) decoded) found
  cases listed with
  | nowhere => cases found
  | file given decoded => exact fromText decoded found
  | remote answered =>
    obtain ⟨text, decoded⟩ := HttpService.decodeText_of_listBlocks answered
    exact fromText decoded found

/-! ## Scripts that return -/

namespace Script

variable {α β : Type}

/-- A script that goes on with a report returns a value, and leaves a report. -/
def Returns (s : Script α) (before : Report) (a : α) (after : Report) : Prop :=
  StateT.run (ExceptT.run s) before = (.ok a, after)

theorem Returns.bind {before between after : Report} {s : Script α} {f : α → Script β} {a : α}
    {b : β} (first : s.Returns before a between) (next : (f a).Returns between b after) :
    (s >>= f).Returns before b after := by
  simp only [Returns] at first next ⊢
  rw [ExceptT.run_bind, StateT.run_bind, first]
  exact next

theorem returns_orFail {ε : Type} {result : Except ε α} {a : α} (ok : result = .ok a)
    (message : ε → String) (r : Report) : (orFail result message).Returns r a r := ok ▸ rfl

theorem returns_say (line : String) (r : Report) :
    (say line).Returns r () { r with output := r.output ++ line ++ "\n" } := rfl

/-- Complaints change the messages alone. -/
theorem exists_returns_complain (lines : α → String) (as : List α) (r : Report) :
    ∃ errors, (as.forM fun a => complain (lines a)).Returns r () { r with errors := errors } := by
  induction as generalizing r with
  | nil => exact ⟨r.errors, rfl⟩
  | cons a as ih =>
    obtain ⟨errors, later⟩ := ih { r with errors := r.errors ++ lines a ++ "\n" }
    exact ⟨errors, .bind rfl later⟩

/-- A file that can be read is. -/
theorem returns_readFile {path text : String} (given : w.read path = .ok text) (what : String)
    (r : Report) : (readFile w what path).Returns r text r :=
  returns_orFail given _ r

theorem exists_returns_loadDraft {path text : String} {d : Draft} {loaded : LoadedDraft}
    (given : w.read path = .ok text) (decoded : Draft.ofText text = .ok d)
    (load : d.load = .ok loaded) (r : Report) :
    ∃ errors, (loadDraft w path).Returns r loaded.graph { r with errors := errors } := by
  obtain ⟨errors, complained⟩ := exists_returns_complain
    (fun skipped : Candidate × Refusal => skippedEdge skipped.1 skipped.2) loaded.refused r
  exact ⟨errors, (returns_readFile given _ r).bind <| (returns_orFail decoded _ r).bind <|
    (returns_orFail load _ r).bind <| complained.bind rfl⟩

theorem returns_loadRegistry {listing : ListingSource} {registry : Registry}
    (listed : Listed i w listing registry) (r : Report) :
    (loadRegistry i w listing).Returns r registry r := by
  cases listed with
  | nowhere => rfl
  | file given decoded =>
    exact (returns_readFile given _ r).bind <| (returns_orFail decoded _ r).bind rfl
  | remote answered => exact (returns_orFail answered _ r).bind rfl

end Script

/-! ## Compiling -/

/-- The specification that is compiled with the options of the command. -/
def CompileOptions.spec (options : CompileOptions) (g : Graph) (r : Registry) (stamp : Stamp) :
    Spec :=
  let standard : Compiler := {}
  let compiler : Compiler :=
    { name := options.name.getD standard.name
      runConfig := { seed := options.seed, mode := options.mode } }
  compiler.compile g r stamp

/-- What a report has for the one who asked: the content of the file, or the output. -/
def Report.produced? (r : Report) (out : Option String) : Option String :=
  match out with
  | some path => r.written.lookup path
  | none => some r.output

/-- What is handed out: a file holds the text alone, the output ends the line. -/
def CompileOptions.product (options : CompileOptions) (s : Spec) : String :=
  match options.out with
  | some _ => s.text
  | none => s.text ++ "\n"

theorem CompileOptions.product_eq (options : CompileOptions) (s : Spec) :
    options.product s = s.text ∨ options.product s = s.text ++ "\n" := by
  unfold CompileOptions.product
  cases options.out with
  | none => exact .inr rfl
  | some path => exact .inl rfl

theorem CompileOptions.ofText_product (options : CompileOptions) {s : Spec}
    (shallow : (Spec.codec.encode s).depth ≤ Document.depthLimit)
    (readsBack : (Spec.codec.encode s).ReadsBack) :
    Spec.ofText (options.product s) = s.validate.map fun _ => s := by
  obtain ⟨whole, line⟩ := Spec.ofText_text_eq shallow readsBack
  rcases options.product_eq s with same | same
  · rw [same, whole]
  · rw [same, line]

section Compile

variable {draft text : String} {listing : ListingSource} {options : CompileOptions} {d : Draft}
  {loaded : LoadedDraft} {registry : Registry}

/-- **A draft and a listing that can be read are compiled**, and the text is handed out. -/
theorem perform_compile (command : i.command = .compile draft listing options)
    (given : w.read draft = .ok text) (decoded : Draft.ofText text = .ok d)
    (load : d.load = .ok loaded) (listed : Listed i w listing registry)
    (writable : ∀ path, options.out = some path → w.writeFault path = none) :
    (i.perform w).code = 0 ∧ (i.perform w).produced? options.out =
      some (options.product (options.spec loaded.graph registry w.stamp)) := by
  let s := options.spec loaded.graph registry w.stamp
  obtain ⟨errors, drafted⟩ := Script.exists_returns_loadDraft given decoded load {}
  have registered := Script.returns_loadRegistry listed { errors := errors }
  have script : i.script w = Script.compile i w draft listing options := by
    rw [Invocation.script, command]
  have performed : ∀ {report}, (i.script w).Returns {} () report → i.perform w = report :=
    fun returns => congrArg Prod.snd returns
  unfold CompileOptions.product
  cases out : options.out with
  | none =>
    have returns : (i.script w).Returns {} ()
        { errors := errors, output := "" ++ s.text ++ "\n" } := by
      rw [script]
      refine drafted.bind (registered.bind ?_)
      rw [out]
      exact Script.returns_say _ _
    rw [performed returns]
    refine ⟨rfl, ?_⟩
    show some ("" ++ s.text ++ "\n") = some (s.text ++ "\n")
    rw [String.empty_append]
  | some path =>
    have returns : (i.script w).Returns {} ()
        { errors := errors
          output := "" ++ Script.compiledLine w s path ++ "\n"
          written := [(path, s.text)] } := by
      have wrote : (Script.writeFile w path s.text).Returns { errors := errors } ()
          { errors := errors, written := [(path, s.text)] } := by
        rw [Script.writeFile, writable path out]
        rfl
      rw [script]
      refine drafted.bind (registered.bind ?_)
      rw [out]
      exact wrote.bind (Script.returns_say _ _)
    rw [performed returns]
    exact ⟨rfl, List.lookup_cons_self⟩

/-- **What the program compiles is read back** as the specification that was compiled, or refused
for what `validate` says of it, and never because it cannot be decoded: the draft and the listing
may be nested as deep as a text can be. It is assumed of each fraction in the specification that its
text is read as the fraction. -/
theorem compile_read_back (command : i.command = .compile draft listing options)
    (given : w.read draft = .ok text) (decoded : Draft.ofText text = .ok d)
    (load : d.load = .ok loaded) (listed : Listed i w listing registry)
    (writable : ∀ path, options.out = some path → w.writeFault path = none) :
    let s := options.spec loaded.graph registry w.stamp
    ∃ product, (product = s.text ∨ product = s.text ++ "\n") ∧
      (i.perform w).code = 0 ∧ (i.perform w).produced? options.out = some product ∧
      ((Spec.codec.encode s).ReadsBack →
        Spec.ofText product = (s.validate.map fun _ => s) ∧
          ∀ e, Spec.ofText product ≠ .error (.undecodable e)) := by
  intro s
  obtain ⟨code, produced⟩ := perform_compile command given decoded load listed writable
  have shallow : (Spec.codec.encode s).depth ≤ Document.depthLimit :=
    Compiler.codec_depth_le (by decide)
      (Draft.node_depth_le (by decide) load
        (Draft.codec_shallow.decodeText_depth_le (by decide) (mapError_eq_ok.mp decoded)))
      (fun _ _ found => listed.version_depth_le found) _ _
  refine ⟨_, options.product_eq s, code, produced, fun readsBack => ?_⟩
  have read := options.ofText_product shallow readsBack
  exact ⟨read, fun e => read ▸ s.validate_ne_undecodable e⟩

end Compile

/-! ### As deep as a text can be -/

/-- A value below so many arrays. -/
def nested (value : FreeJson) : Nat → FreeJson
  | 0 => value
  | n + 1 => .array [nested value n]

/-- One and a half in an object, below so many arrays. -/
def deepObject (levels : Nat) : FreeObject :=
  .ofList [("rates", nested (.number (.fractional Spec.oneAndHalf)) levels)]

/-- A node whose configuration leaves no room for another level in a draft. -/
def deepNode : DraftNode :=
  { id := "n-1"
    data :=
      { kind := .trainer, blockId := "text.sgd", version := "1.0.0", config := deepObject 122 } }

def deepDraft : Draft := { nodes := [deepNode] }

def deepGraph : Graph := Graph.empty.push ⟨deepNode.body, deepNode.id⟩

/-- A listing with its block, and a schema that leaves no room either. -/
def deepListing : List BlockRecord :=
  [{ blockId := "text.sgd"
     latestPublished := some
      { version := "1.0.0", digest := "d1g3st00", inputSchema := some (deepObject 123) } }]

def deepOptions : CompileOptions := ⟨none, 7, .async, some "spec.json"⟩

/-- Two files, and room for a third. -/
def deepWorld : World :=
  { read := fun path =>
      if path = "draft.json" then .ok (Draft.codec.encode deepDraft).pretty
      else .ok (BlockRecord.codec.list.encode deepListing).pretty
    writeFault := fun _ => none
    deliver := fun _ => .error (.transport "")
    stamp := ⟨"p-1", default⟩
    elapsed := "" }

def deepInvocation : Invocation :=
  { api := none, timeout := none, verbose := false
    command := .compile "draft.json" (.file "registry.json") deepOptions }

/-- What is compiled from the two files. -/
def deepSpec : Spec := deepOptions.spec deepGraph (.ofRecords deepListing) deepWorld.stamp

/-- Both numbers in them are read back. -/
theorem readsBack_of_few {value : Json}
    (few : ∀ x ∈ value.fractions, x = .zero false ∨ x = Spec.oneAndHalf) : value.ReadsBack := by
  intro x mem
  rcases few x mem with rfl | rfl
  · exact (rfl : (Double.zero false).ReadsBack)
  · exact (rfl : Spec.oneAndHalf.ReadsBack)

set_option maxRecDepth 4000 in
theorem ofText_deepDraft : Draft.ofText (Draft.codec.encode deepDraft).pretty = .ok deepDraft :=
  mapError_eq_ok.mpr <| Codec.decodeText_pretty (by decide +kernel)
    (readsBack_of_few (by decide +kernel)) rfl

set_option maxRecDepth 4000 in
theorem decodeText_deepListing :
    BlockRecord.codec.list.decodeText (BlockRecord.codec.list.encode deepListing).pretty =
      .ok deepListing :=
  Codec.decodeText_pretty (by decide +kernel) (readsBack_of_few (by decide +kernel)) rfl

/-- It has no room for another level either, and is read back. -/
theorem compile_read_back_deep :
    (Draft.codec.encode deepDraft).depth = Document.depthLimit ∧
    (BlockRecord.codec.list.encode deepListing).depth = Document.depthLimit ∧
    (Spec.codec.encode deepSpec).depth = Document.depthLimit ∧
    ∃ product, (deepInvocation.perform deepWorld).produced? (some "spec.json") = some product ∧
      Spec.ofText product = .ok deepSpec := by
  refine ⟨by decide +kernel, by decide +kernel, by decide +kernel, ?_⟩
  have load : deepDraft.load = .ok ⟨deepGraph, []⟩ := rfl
  have listed : Listed deepInvocation deepWorld (.file "registry.json") (.ofRecords deepListing) :=
    .file rfl decodeText_deepListing
  obtain ⟨product, -, -, produced, read⟩ := compile_read_back (i := deepInvocation)
    (w := deepWorld) rfl rfl ofText_deepDraft load listed fun _ _ => rfl
  have readsBack : (Spec.codec.encode deepSpec).ReadsBack := readsBack_of_few (by decide +kernel)
  have valid : deepSpec.validate = .ok () :=
    (Spec.validate_eq_ok_iff rfl).mpr (by decide +kernel)
  refine ⟨product, produced, (read readsBack).1.trans ?_⟩
  show deepSpec.validate.map _ = _
  rw [valid]
  rfl

end Cli

end BlockPipeline
