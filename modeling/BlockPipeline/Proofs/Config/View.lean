import BlockPipeline.Proofs.Config.Setting

/-!
# The typed reading of a configuration, and back

A configuration is read as a typed view exactly if each typed key of its kind is absent, or holds
`null` or a value of the key's type. Nothing is lost on the way: what the view does not give a type
it keeps as the rest, and writing the view gives the configuration again, but for what is not kept of
the values under typed keys.

The four shapes are one, told by its typed keys (`NodeKind.typedKeys`): a view is a setting for each
of these keys, and the rest. So the laws are about the settings, one at a time.

| Statement | In words | From |
| --- | --- | --- |
| `Config.view_eq_iff` | a view is that of a configuration if its settings are read from there, and the rest is kept | one lemma for each shape |
| `Config.kind?_view_of_admits` | there is a typed one if every typed key is admitted | `Setting.exists_known?` |
| `ConfigView.toConfig_eq` | a view is written as its settings and the rest | |
| `get?_toConfig_view` | what is written for the view of a configuration | `Setting.readFrom_iff` |
| `view_toConfig` | a view is read back from what is written for it | `Setting.readFrom_of_written` |
| `view_and_back` | all of this for each kind with typed keys | the above |
-/

set_option autoImplicit false

namespace BlockPipeline

/-! ## Views -/

/-- The typed keys of a kind, with their types. -/
def NodeKind.typedKeys : NodeKind → List (String × KeyType)
  | .dataset => [("n", .word)]
  | .encoder => [("modalityKey", .text), ("outDim", .word)]
  | .trainer => [("maxIter", .word), ("alpha", .number)]
  | .evaluator => [("noiseStd", .number)]
  | .fusion | .objective => []

namespace ConfigView

/-- The kind whose shape the view has; none without a typed reading. -/
def kind? : ConfigView → Option NodeKind
  | .dataset _ => some .dataset
  | .encoder _ => some .encoder
  | .trainer _ => some .trainer
  | .evaluator _ => some .evaluator
  | .generic _ => none

/-- What the view says of its typed keys. -/
def settings : ConfigView → List Setting
  | .dataset c => [⟨"n", .word, c.n⟩]
  | .encoder c => [⟨"modalityKey", .text, c.modalityKey⟩, ⟨"outDim", .word, c.outDim⟩]
  | .trainer c => [⟨"maxIter", .word, c.maxIter⟩, ⟨"alpha", .number, c.alpha⟩]
  | .evaluator c => [⟨"noiseStd", .number, c.noiseStd⟩]
  | .generic _ => []

/-- What the view keeps without a type. -/
def extra : ConfigView → Config
  | .dataset c => c.extra
  | .encoder c => c.extra
  | .trainer c => c.extra
  | .evaluator c => c.extra
  | .generic all => all

/-- The configuration that a view is written as. -/
def toConfig : ConfigView → Config
  | .dataset c => c.toConfig
  | .encoder c => c.toConfig
  | .trainer c => c.toConfig
  | .evaluator c => c.toConfig
  | .generic all => all

variable {v : ConfigView} {kind : NodeKind}

/-- A view has the typed keys of its kind. -/
theorem map_settings (typed : v.kind? = some kind) :
    v.settings.map (fun s => (s.key, s.type)) = kind.typedKeys := by
  cases v <;> cases typed <;> rfl

end ConfigView

namespace Config

variable {c : Config} {v : ConfigView} {kind : NodeKind}

theorem dataset?_eq_some_iff {d : DatasetConfig} :
    c.dataset? = some d ↔ c.known? "n" .word = some d.n ∧ d.extra = c.without ["n"] := by
  constructor
  · intro read
    obtain ⟨n, known, ⟨⟩⟩ := Option.bind_eq_some_iff.mp read
    exact ⟨known, rfl⟩
  · rintro ⟨known, rest⟩
    exact Option.bind_eq_some_iff.mpr ⟨d.n, known, by rw [← rest]; rfl⟩

theorem encoder?_eq_some_iff {d : EncoderConfig} :
    c.encoder? = some d ↔ c.known? "modalityKey" .string = some d.modalityKey ∧
      c.known? "outDim" .word = some d.outDim ∧
      d.extra = c.without ["modalityKey", "outDim"] := by
  constructor
  · intro read
    obtain ⟨modalityKey, first, read⟩ := Option.bind_eq_some_iff.mp read
    obtain ⟨outDim, second, ⟨⟩⟩ := Option.bind_eq_some_iff.mp read
    exact ⟨first, second, rfl⟩
  · rintro ⟨first, second, rest⟩
    refine Option.bind_eq_some_iff.mpr ⟨d.modalityKey, first, ?_⟩
    exact Option.bind_eq_some_iff.mpr ⟨d.outDim, second, by rw [← rest]; rfl⟩

theorem trainer?_eq_some_iff {d : TrainerConfig} :
    c.trainer? = some d ↔ c.known? "maxIter" .word = some d.maxIter ∧
      c.known? "alpha" .double = some d.alpha ∧ d.extra = c.without ["maxIter", "alpha"] := by
  constructor
  · intro read
    obtain ⟨maxIter, first, read⟩ := Option.bind_eq_some_iff.mp read
    obtain ⟨alpha, second, ⟨⟩⟩ := Option.bind_eq_some_iff.mp read
    exact ⟨first, second, rfl⟩
  · rintro ⟨first, second, rest⟩
    refine Option.bind_eq_some_iff.mpr ⟨d.maxIter, first, ?_⟩
    exact Option.bind_eq_some_iff.mpr ⟨d.alpha, second, by rw [← rest]; rfl⟩

theorem evaluator?_eq_some_iff {d : EvaluatorConfig} :
    c.evaluator? = some d ↔
      c.known? "noiseStd" .double = some d.noiseStd ∧ d.extra = c.without ["noiseStd"] := by
  constructor
  · intro read
    obtain ⟨noiseStd, known, ⟨⟩⟩ := Option.bind_eq_some_iff.mp read
    exact ⟨known, rfl⟩
  · rintro ⟨known, rest⟩
    exact Option.bind_eq_some_iff.mpr ⟨d.noiseStd, known, by rw [← rest]; rfl⟩

/-- A shape is the view of a configuration if it is read from there. -/
theorem getD_map_eq_iff {α : Type} {shape : α → ConfigView} (injective : Function.Injective shape)
    (typed : ∀ a, (shape a).kind? ≠ none) {read : Option α} {a : α} :
    (read.map shape).getD (.generic c) = shape a ↔ read = some a := by
  cases read with
  | none =>
    simp only [Option.map_none, Option.getD_none, reduceCtorEq, iff_false]
    intro same
    exact typed a (same ▸ rfl)
  | some b => simp only [Option.map_some, Option.getD_some, injective.eq_iff, Option.some.injEq]

/-- **A typed view is that of a configuration** exactly if its settings are read from there, and
everything else is kept. -/
theorem view_eq_iff (typed : v.kind? = some kind) :
    c.view kind = v ↔
      (∀ s ∈ v.settings, s.ReadFrom c) ∧ v.extra = c.without (kind.typedKeys.map Prod.fst) := by
  cases v with
  | dataset d =>
    cases typed
    refine (getD_map_eq_iff (fun _ _ => ConfigView.dataset.inj) fun _ => Option.some_ne_none _).trans ?_
    rw [dataset?_eq_some_iff]
    simp only [ConfigView.settings, List.forall_mem_singleton]
    rfl
  | encoder d =>
    cases typed
    refine (getD_map_eq_iff (fun _ _ => ConfigView.encoder.inj) fun _ => Option.some_ne_none _).trans ?_
    rw [encoder?_eq_some_iff, ← and_assoc]
    refine and_congr_left fun _ => ?_
    simp only [ConfigView.settings, List.forall_mem_cons, List.not_mem_nil, false_implies,
      implies_true, and_true]
    rfl
  | trainer d =>
    cases typed
    refine (getD_map_eq_iff (fun _ _ => ConfigView.trainer.inj) fun _ => Option.some_ne_none _).trans ?_
    rw [trainer?_eq_some_iff, ← and_assoc]
    refine and_congr_left fun _ => ?_
    simp only [ConfigView.settings, List.forall_mem_cons, List.not_mem_nil, false_implies,
      implies_true, and_true]
    rfl
  | evaluator d =>
    cases typed
    refine (getD_map_eq_iff (fun _ _ => ConfigView.evaluator.inj) fun _ => Option.some_ne_none _).trans ?_
    rw [evaluator?_eq_some_iff]
    simp only [ConfigView.settings, List.forall_mem_singleton]
    rfl
  | generic all => cases typed

/-- What is not read as the shape of the kind is kept as it is. -/
theorem view_of_untyped (untyped : (c.view kind).kind? ≠ some kind) : c.view kind = .generic c := by
  have other : ∀ {α : Type} {shape : α → ConfigView} {read : Option α},
      (∀ a, (shape a).kind? = some kind) → ((read.map shape).getD (.generic c)).kind? ≠ some kind →
      (read.map shape).getD (.generic c) = .generic c := by
    intro α shape read typed untyped
    cases read with
    | none => rfl
    | some a => exact absurd (typed a) untyped
  cases kind with
  | dataset => exact other (fun _ => rfl) untyped
  | encoder => exact other (fun _ => rfl) untyped
  | trainer => exact other (fun _ => rfl) untyped
  | evaluator => exact other (fun _ => rfl) untyped
  | fusion => rfl
  | objective => rfl

/-- **A configuration all of whose typed keys are admitted is read**, where there are such keys. -/
theorem kind?_view_of_admits (shaped : kind.typedKeys ≠ [])
    (admits : ∀ key type, (key, type) ∈ kind.typedKeys → c.Admits key type) :
    (c.view kind).kind? = some kind := by
  have known : ∀ key type, (key, type) ∈ kind.typedKeys →
      ∃ a, c.known? key type.codec = some a := fun key type mem => by
    obtain ⟨a, read, -⟩ := Setting.exists_known? (admits key type mem)
    exact ⟨a, read⟩
  cases kind with
  | dataset =>
    obtain ⟨n, read⟩ := known "n" .word List.mem_cons_self
    have typed : c.dataset? = some ⟨n, c.without ["n"]⟩ := dataset?_eq_some_iff.mpr ⟨read, rfl⟩
    rw [view, typed]
    rfl
  | encoder =>
    obtain ⟨modalityKey, first⟩ := known "modalityKey" .text List.mem_cons_self
    obtain ⟨outDim, second⟩ := known "outDim" .word (List.mem_cons_of_mem _ List.mem_cons_self)
    have typed : c.encoder? = some ⟨modalityKey, outDim, c.without ["modalityKey", "outDim"]⟩ :=
      encoder?_eq_some_iff.mpr ⟨first, second, rfl⟩
    rw [view, typed]
    rfl
  | trainer =>
    obtain ⟨maxIter, first⟩ := known "maxIter" .word List.mem_cons_self
    obtain ⟨alpha, second⟩ := known "alpha" .number (List.mem_cons_of_mem _ List.mem_cons_self)
    have typed : c.trainer? = some ⟨maxIter, alpha, c.without ["maxIter", "alpha"]⟩ :=
      trainer?_eq_some_iff.mpr ⟨first, second, rfl⟩
    rw [view, typed]
    rfl
  | evaluator =>
    obtain ⟨noiseStd, read⟩ := known "noiseStd" .number List.mem_cons_self
    have typed : c.evaluator? = some ⟨noiseStd, c.without ["noiseStd"]⟩ :=
      evaluator?_eq_some_iff.mpr ⟨read, rfl⟩
    rw [view, typed]
    rfl
  | fusion => exact absurd rfl shaped
  | objective => exact absurd rfl shaped

end Config

/-! ## Writing a view -/

namespace Config

theorem get?_putSome (c : Config) (key other : String) (value : Option FreeJson) :
    (c.putSome key value).get? other = if other = key then value.or (c.get? key) else c.get? other := by
  cases value with
  | none => by_cases same : other = key <;> simp [putSome, same]
  | some value => by_cases same : other = key <;> simp [putSome, FreeObject.get?_insert, same]

/-- What is not among the given keys stands there as before. -/
theorem get?_without (c : Config) (keys : List String) (key : String) :
    (c.without keys).get? key = if key ∈ keys then none else c.get? key := by
  rw [without, FreeObject.get?_filterKeys]
  by_cases mem : key ∈ keys <;> simp [mem]

/-- Puts the values of settings, one after the other. -/
def putSettings (c : Config) (settings : List Setting) : Config :=
  settings.foldl (fun c s => c.putSome s.key s.written) c

theorem get?_putSettings_of_not_mem {settings : List Setting} {key : String}
    (other : key ∉ settings.map Setting.key) (c : Config) :
    (c.putSettings settings).get? key = c.get? key := by
  induction settings generalizing c with
  | nil => rfl
  | cons s settings ih =>
    obtain ⟨differs, other⟩ := not_or.mp (mt List.mem_cons.mpr other)
    exact (ih other _).trans ((get?_putSome ..).trans (if_neg differs))

/-- Where the keys differ, each setting stands under its key. -/
theorem get?_putSettings_of_mem {settings : List Setting}
    (distinct : (settings.map Setting.key).Nodup) {s : Setting} (mem : s ∈ settings) (c : Config) :
    (c.putSettings settings).get? s.key = s.written.or (c.get? s.key) := by
  induction settings generalizing c with
  | nil => cases mem
  | cons t settings ih =>
    obtain ⟨new, distinct⟩ := List.nodup_cons.mp distinct
    rcases List.mem_cons.mp mem with rfl | mem
    · refine (get?_putSettings_of_not_mem new _).trans ?_
      rw [get?_putSome, if_pos rfl]
    · have differs : s.key ≠ t.key := fun same => new (same ▸ List.mem_map_of_mem mem)
      refine (ih distinct mem _).trans ?_
      rw [get?_putSome, if_neg differs]

/-- **The members that are put in stand** where they and others have one key. -/
theorem get?_putAll (c extra : Config) (key : String) :
    (c.putAll extra).get? key = (extra.get? key).or (c.get? key) := by
  have own : (extra.entries.filter (·.1 == key)).getLast?.map Prod.snd = extra.get? key := by
    rw [← FreeObject.get?_ofList, FreeObject.ofList_entries]
  rw [putAll, FreeObject.get?_foldl_insert, own]

end Config

namespace ConfigView

variable {v : ConfigView} {kind : NodeKind}

/-- The typed keys of a kind differ. -/
theorem keys_nodup (v : ConfigView) : (v.settings.map Setting.key).Nodup := by
  cases v <;> simp [settings]

/-- **A typed view is written** as its settings and the rest. -/
theorem toConfig_eq (typed : v.kind? = some kind) :
    v.toConfig = (Config.putSettings .empty v.settings).putAll v.extra := by
  cases v with
  | generic all => cases typed
  | _ => rfl

/-- Under a typed key there stands what the rest has there, and else the value of the setting. -/
theorem get?_toConfig_of_mem (typed : v.kind? = some kind) {s : Setting} (mem : s ∈ v.settings) :
    v.toConfig.get? s.key = (v.extra.get? s.key).or s.written := by
  rw [toConfig_eq typed, Config.get?_putAll, Config.get?_putSettings_of_mem v.keys_nodup mem,
    FreeObject.get?_empty, Option.or_none]

/-- Under every other key there stands what the rest has there. -/
theorem get?_toConfig_of_not_mem (typed : v.kind? = some kind) {key : String}
    (other : key ∉ v.settings.map Setting.key) : v.toConfig.get? key = v.extra.get? key := by
  rw [toConfig_eq typed, Config.get?_putAll, Config.get?_putSettings_of_not_mem other,
    FreeObject.get?_empty, Option.or_none]

end ConfigView

/-! ## There and back -/

section ThereAndBack

variable {c : Config} {v : ConfigView} {kind : NodeKind}

/-- A typed key of a kind is one of the settings of each view that has its shape. -/
theorem ConfigView.exists_setting (typed : v.kind? = some kind) {key : String} {type : KeyType}
    (mem : (key, type) ∈ kind.typedKeys) : ∃ value, ⟨key, type, value⟩ ∈ v.settings := by
  rw [← map_settings typed] at mem
  obtain ⟨s, hs, same⟩ := List.mem_map.mp mem
  cases same
  exact ⟨s.value, hs⟩

theorem ConfigView.keys_eq (typed : v.kind? = some kind) :
    v.settings.map Setting.key = kind.typedKeys.map Prod.fst := by
  rw [← map_settings typed, List.map_map]
  rfl

/-- **What is written for the view of a configuration.** -/
theorem get?_toConfig_view (typed : v.kind? = some kind) (read : c.view kind = v) :
    (∀ key type, (key, type) ∈ kind.typedKeys → v.toConfig.get? key = (c.get? key).bind type.kept) ∧
    ∀ key, key ∉ kind.typedKeys.map Prod.fst → v.toConfig.get? key = c.get? key := by
  obtain ⟨settings, rest⟩ := (Config.view_eq_iff typed).mp read
  constructor
  · intro key type mem
    obtain ⟨value, there⟩ := ConfigView.exists_setting typed mem
    have apart : v.extra.get? key = none := by
      rw [rest, Config.get?_without, if_pos (List.mem_map_of_mem mem)]
    have written := (Setting.readFrom_iff.mp (settings _ there)).2
    rw [ConfigView.get?_toConfig_of_mem typed there, apart, Option.none_or, written]
  · intro key other
    rw [ConfigView.get?_toConfig_of_not_mem typed (ConfigView.keys_eq typed ▸ other), rest,
      Config.get?_without, if_neg other]

/-- **A typed view is read back** from what is written for it, where the rest has none of the typed
keys. -/
theorem view_toConfig (typed : v.kind? = some kind)
    (apart : ∀ key ∈ kind.typedKeys.map Prod.fst, v.extra.get? key = none) :
    v.toConfig.view kind = v := by
  refine (Config.view_eq_iff typed).mpr ⟨fun s hs => ?_, FreeObject.ext_get? fun key => ?_⟩
  · have mem : s.key ∈ kind.typedKeys.map Prod.fst :=
      ConfigView.keys_eq typed ▸ List.mem_map_of_mem hs
    have stands : v.toConfig.get? s.key = s.written := by
      rw [ConfigView.get?_toConfig_of_mem typed hs, apart _ mem, Option.none_or]
    exact Setting.readFrom_of_written stands
  · rw [Config.get?_without]
    split
    next mem => exact apart key mem
    next other =>
      rw [ConfigView.get?_toConfig_of_not_mem typed (ConfigView.keys_eq typed ▸ other)]

/-- **The typed view of a configuration, and back**, for every kind with typed keys. A configuration is
read as the shape of the kind exactly if under each typed key there is nothing, `null`, or a value of
the type of the key; otherwise all of it stays as it is. The rest of a typed view is the configuration
without the typed keys. What is written for the view has under each typed key what is kept of the value
there: nothing of `null`, the floating-point number of an integer where the type has those, and every
other value itself; under all other keys it has what the configuration has. And every view of this
shape, the rest of which has no typed key, is read back from what is written for it. -/
theorem view_and_back (kind : NodeKind) (shaped : kind.typedKeys ≠ []) :
    (∀ c : Config,
      ((c.view kind).kind? = some kind ↔ ∀ key type, (key, type) ∈ kind.typedKeys →
        ∀ value, c.get? key = some value → value = .null ∨ type.Holds value) ∧
      ((c.view kind).kind? ≠ some kind → c.view kind = .generic c) ∧
      ((c.view kind).kind? = some kind →
        (∀ key, (c.view kind).extra.get? key =
          if key ∈ kind.typedKeys.map Prod.fst then none else c.get? key) ∧
        (∀ key type, (key, type) ∈ kind.typedKeys →
          (c.view kind).toConfig.get? key = (c.get? key).bind type.kept) ∧
        ∀ key, key ∉ kind.typedKeys.map Prod.fst →
          (c.view kind).toConfig.get? key = c.get? key)) ∧
    ∀ v : ConfigView, v.kind? = some kind →
      (∀ key ∈ kind.typedKeys.map Prod.fst, v.extra.get? key = none) →
        v.toConfig.view kind = v := by
  refine ⟨fun c => ⟨⟨?_, Config.kind?_view_of_admits shaped⟩, Config.view_of_untyped, ?_⟩,
    fun v => view_toConfig⟩
  · intro typed key type mem
    obtain ⟨value, there⟩ := ConfigView.exists_setting typed mem
    exact (Setting.readFrom_iff.mp (((Config.view_eq_iff typed).mp rfl).1 _ there)).1
  · intro typed
    refine ⟨fun key => ?_, get?_toConfig_view typed rfl⟩
    rw [((Config.view_eq_iff typed).mp rfl).2, Config.get?_without]

end ThereAndBack

/-- A configuration of a trainer: an integer where a floating-point number is due, a typed key that
says nothing, and a further key. -/
def looseConfig : Config :=
  ((FreeObject.empty.insert "alpha" (.ofWord 2)).insert "maxIter" .null).insert "seed" (.bool true)

/-- It is read as typed, and written without the key that says nothing; that is read back. A word where
an integer is due leaves all as it is. -/
theorem view_and_back_trainer :
    NodeKind.trainer.typedKeys ≠ [] ∧
    (looseConfig.view .trainer).kind? = some .trainer ∧
    (looseConfig.view .trainer).extra.get? "alpha" = none ∧
    (looseConfig.view .trainer).toConfig.get? "alpha" = some (.ofDouble (.ofInt 2)) ∧
    (looseConfig.view .trainer).toConfig.get? "maxIter" = none ∧
    (looseConfig.view .trainer).toConfig.get? "seed" = some (.bool true) ∧
    (looseConfig.view .trainer).toConfig.view .trainer = looseConfig.view .trainer ∧
    Config.view (looseConfig.insert "maxIter" (.string "many")) .trainer =
      .generic (looseConfig.insert "maxIter" (.string "many")) := by
  have shaped : NodeKind.trainer.typedKeys ≠ [] := List.cons_ne_nil _ _
  obtain ⟨reading, back⟩ := view_and_back .trainer shaped
  have typed : (looseConfig.view .trainer).kind? = some .trainer := rfl
  obtain ⟨rest, written, others⟩ := (reading looseConfig).2.2 typed
  refine ⟨shaped, typed, rest "alpha", ?_, ?_, ?_, ?_, ?_⟩
  · exact written "alpha" .number (List.mem_cons_of_mem _ List.mem_cons_self)
  · exact written "maxIter" .word List.mem_cons_self
  · exact others "seed" (by decide)
  · refine back _ typed fun key mem => ?_
    rw [rest key, if_pos mem]
  · refine (reading _).2.1 ?_
    have generic :
        (Config.view (looseConfig.insert "maxIter" (.string "many")) .trainer).kind? = none := rfl
    rw [generic]
    exact nofun

end BlockPipeline
