import BlockPipeline.Diagnose

/-!
# Which pass finds what

The four passes of a diagnosis find different things, so a finding tells the pass that it comes from
(`Finding.pass`), and the findings of one pass can be told apart from the others in what `diagnose`
answers (`filter_diagnose`). What is to be said about a kind of finding needs one pass only.
-/

set_option autoImplicit false

namespace BlockPipeline

/-- The passes of a diagnosis, in order. -/
inductive Pass where
  | registry
  | deprecation
  | wiring
  | cycle
deriving DecidableEq

/-- The pass that a finding comes from. -/
def Finding.pass : Finding → Pass
  | .unlocked .. => .registry
  | .versionDrift .. => .registry
  | .unknownConfigKey .. => .registry
  | .configTypeMismatch .. => .registry
  | .deprecated .. => .deprecation
  | .fanIn .. => .wiring
  | .unconnectedInput .. => .wiring
  | .cycle .. => .cycle

/-- What a pass finds. -/
def Pass.findings (p : Pass) (g : Graph) (r : Registry) : List Finding :=
  match p with
  | .registry => g.nodes.flatMap (lockFindings r)
  | .deprecation => deprecationFindings (lockBlocks g.nodes r)
  | .wiring => g.nodes.flatMap (wiringFindings g)
  | .cycle => cycleFindings g

theorem diagnose_eq (g : Graph) (r : Registry) : diagnose g r =
    Pass.registry.findings g r ++ Pass.deprecation.findings g r ++ Pass.wiring.findings g r ++
      Pass.cycle.findings g r := rfl

/-- A configuration is found to have a key that the schema does not know, or a value of another type
than it declares. -/
theorem of_mem_configFindings {n : Node} {schema : FreeObject} {f : Finding}
    (mem : f ∈ configFindings n schema) :
    (∃ key, f = .unknownConfigKey n.id key) ∨
      ∃ key expected, f = .configTypeMismatch n.id key expected := by
  obtain ⟨⟨key, value⟩, -, mem⟩ := List.mem_flatMap.mp mem
  simp only [keyFindings] at mem
  split at mem
  · split at mem
    · split at mem
      · cases mem
      · exact .inr ⟨key, _, List.mem_singleton.mp mem⟩
    · cases mem
  · split at mem
    · cases mem
    · exact .inl ⟨key, List.mem_singleton.mp mem⟩

/-- What is found about a node against the snapshot. -/
theorem mem_lockFindings {r : Registry} {n : Node} {f : Finding} :
    f ∈ lockFindings r n ↔
      (r.lookup n.block.blockId = none ∧ f = .unlocked n.id n.block.blockId) ∨
      ∃ b, r.lookup n.block.blockId = some b ∧
        (b.version ≠ n.block.version ∧ f = .versionDrift n.id n.block.version b.version ∨
          f ∈ configFindings n b.inputSchema) := by
  unfold lockFindings
  cases r.lookup n.block.blockId with
  | none => simp
  | some b => by_cases same : b.version = n.block.version <;> simp [same]

theorem pass_of_mem_lockFindings {r : Registry} {n : Node} {f : Finding}
    (mem : f ∈ lockFindings r n) : f.pass = .registry := by
  rcases mem_lockFindings.mp mem with ⟨-, rfl⟩ | ⟨b, -, ⟨-, rfl⟩ | mem⟩
  · rfl
  · rfl
  · rcases of_mem_configFindings mem with ⟨key, rfl⟩ | ⟨key, expected, rfl⟩ <;> rfl

/-- An input of a node is found to be fed by no edge, or by more than one. -/
theorem of_mem_wiringFindings {g : Graph} {n : Node} {f : Finding} (mem : f ∈ wiringFindings g n) :
    (∃ port, f = .unconnectedInput n.id port) ∨ ∃ port sources, f = .fanIn n.id port sources := by
  obtain ⟨p, -, mem⟩ := List.mem_flatMap.mp mem
  simp only [inputFindings] at mem
  split at mem
  · exact .inl ⟨p.name, List.mem_singleton.mp mem⟩
  · cases mem
  · exact .inr ⟨p.name, _, List.mem_singleton.mp mem⟩

theorem pass_of_mem_wiringFindings {g : Graph} {n : Node} {f : Finding}
    (mem : f ∈ wiringFindings g n) : f.pass = .wiring := by
  rcases of_mem_wiringFindings mem with ⟨port, rfl⟩ | ⟨port, sources, rfl⟩ <;> rfl

/-- What a pass finds tells that it comes from there. -/
theorem Pass.pass_of_mem_findings {p : Pass} {g : Graph} {r : Registry} {f : Finding}
    (mem : f ∈ p.findings g r) : f.pass = p := by
  cases p with
  | registry =>
    obtain ⟨n, -, mem⟩ := List.mem_flatMap.mp mem
    exact pass_of_mem_lockFindings mem
  | deprecation =>
    obtain ⟨b, -, rfl⟩ := List.mem_map.mp mem
    rfl
  | wiring =>
    obtain ⟨n, -, mem⟩ := List.mem_flatMap.mp mem
    exact pass_of_mem_wiringFindings mem
  | cycle =>
    obtain ⟨path, -, rfl⟩ := List.mem_map.mp mem
    rfl

/-- **The findings of one pass** are those of the diagnosis that come from it, in order. -/
theorem filter_diagnose (g : Graph) (r : Registry) (p : Pass) :
    (diagnose g r).filter (·.pass = p) = p.findings g r := by
  have own : (p.findings g r).filter (·.pass = p) = p.findings g r :=
    List.filter_eq_self.mpr fun f mem => decide_eq_true (Pass.pass_of_mem_findings mem)
  have other : ∀ q, q ≠ p → (q.findings g r).filter (·.pass = p) = [] := fun q differs =>
    List.filter_eq_nil_iff.mpr fun f mem => by simpa [Pass.pass_of_mem_findings mem] using differs
  rw [diagnose_eq]
  cases p <;>
    simp only [List.filter_append, own, other, ne_eq, reduceCtorEq, not_false_eq_true,
      List.append_nil, List.nil_append]

/-- What only one pass finds is found among the findings of this pass. -/
theorem filter_diagnose_of_pass {g : Graph} {r : Registry} {p : Pass} {q : Finding → Bool}
    (only : ∀ f, q f = true → f.pass = p) :
    (diagnose g r).filter q = (p.findings g r).filter q := by
  rw [← filter_diagnose, List.filter_filter]
  refine List.filter_congr fun f _ => ?_
  cases found : q f with
  | false => rfl
  | true => rw [decide_eq_true (only f found), Bool.and_true]

/-- A finding is made exactly if its pass makes it. -/
theorem mem_diagnose {g : Graph} {r : Registry} {f : Finding} :
    f ∈ diagnose g r ↔ f ∈ f.pass.findings g r := by
  rw [← filter_diagnose, List.mem_filter, decide_eq_true_eq]
  exact (and_iff_left rfl).symm

end BlockPipeline
