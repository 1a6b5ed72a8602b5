import BlockPipeline.Spec.Validate
import Mathlib.Data.List.Nodup

/-!
# What the rules ask for

The breaches of a specification are listed part by part. For each part one lemma says when its list
is empty: when each node, edge or locked version is complete, and no id is repeated
(`nodesViolations_eq_nil_iff`, `edgesViolations_eq_nil_iff`, `locksViolations_eq_nil_iff`). Where no
id is repeated, the breaches of nodes and of locked versions are local: they concern a field that is
empty or too short (`Violation.Local`).
-/

set_option autoImplicit false

namespace BlockPipeline

/-- **A node with all its texts**: its id and block are named, its version has five bytes, and its
ports have a name and a type. -/
structure Node.Complete (n : Node) : Prop where
  id : n.id ≠ ""
  block : n.block.blockId ≠ ""
  version : 5 ≤ n.block.version.utf8ByteSize
  ports : ∀ p ∈ n.inputs ++ n.outputs, p.name ≠ "" ∧ p.portType ≠ ""

/-- An edge with all its texts. -/
structure SpecEdge.Complete (e : SpecEdge) : Prop where
  id : e.id ≠ ""
  source : e.source.node ≠ "" ∧ e.source.port ≠ ""
  target : e.target.node ≠ "" ∧ e.target.port ≠ ""

/-- A version with all its texts: its block is named, its version has five bytes and its digest
eight. -/
structure BlockVersion.Complete (b : BlockVersion) : Prop where
  block : b.blockId ≠ ""
  version : 5 ≤ b.version.utf8ByteSize
  digest : 8 ≤ b.digest.utf8ByteSize

/-- **A breach that concerns one field of a node or a lock**, or of the header: no id is repeated,
and it is not about an edge. -/
structure Violation.Local (v : Violation) : Prop where
  node : ∀ id, v.problem ≠ .repeatedNode id
  lock : ∀ id, v.problem ≠ .repeatedLock id
  edge : ∀ i name, v.field ≠ .edge i name

namespace Spec

/-! ## Single rules -/

@[simp] theorem breachIf_eq_nil_iff {broken : Bool} {field : SpecField} {problem : SpecProblem} :
    breachIf broken field problem = [] ↔ broken = false := by
  cases broken <;> simp [breachIf]

theorem mem_breachIf {broken : Bool} {field : SpecField} {problem : SpecProblem} {v : Violation} :
    v ∈ breachIf broken field problem ↔ broken = true ∧ v = ⟨field, problem⟩ := by
  cases broken <;> simp [breachIf]

@[simp] theorem nonEmpty_eq_nil_iff {field : SpecField} {value : String} :
    nonEmpty field value = [] ↔ value ≠ "" := by
  simp [nonEmpty]

/-- A version that is long enough is not empty. -/
@[simp] theorem versionRule_eq_nil_iff {field : SpecField} {version : String} :
    versionRule field version = [] ↔ 5 ≤ version.utf8ByteSize := by
  have long : (decide (version.utf8ByteSize < minVersionLength) = false) ↔
      5 ≤ version.utf8ByteSize :=
    decide_eq_false_iff_not.trans Nat.not_lt
  rw [versionRule, List.append_eq_nil_iff, nonEmpty_eq_nil_iff, breachIf_eq_nil_iff, long]
  refine ⟨And.right, fun long => ⟨?_, long⟩⟩
  rintro rfl
  exact absurd long (by decide)

/-! ## Items with a key -/

section Keyed

variable {α : Type} {P : α → Prop} {key : α → String} {met : List String} {a : α} {items : List α}

/-- Distinct and new keys are new behind the first of them. -/
theorem new_behind (distinct : ((a :: items).map key).Nodup) (new : ∀ b ∈ a :: items, key b ∉ met) :
    ∀ b ∈ items, key b ∉ key a :: met := by
  intro b hb given
  rcases List.mem_cons.mp given with same | given
  · exact (List.nodup_cons.mp distinct).1 (same ▸ List.mem_map_of_mem hb)
  · exact new b (List.mem_cons_of_mem _ hb) given

/-- Items are good and have distinct and new keys: the first one, and those behind it. -/
theorem keyed_cons_iff :
    ((P a ∧ key a ∉ met) ∧
        (∀ b ∈ items, P b) ∧ (items.map key).Nodup ∧ ∀ b ∈ items, key b ∉ key a :: met) ↔
      (∀ b ∈ a :: items, P b) ∧ ((a :: items).map key).Nodup ∧ ∀ b ∈ a :: items, key b ∉ met := by
  constructor
  · rintro ⟨⟨good, new⟩, others, distinct, later⟩
    refine ⟨List.forall_mem_cons.mpr ⟨good, others⟩, List.nodup_cons.mpr ⟨fun mem => ?_, distinct⟩,
      List.forall_mem_cons.mpr ⟨new, fun b hb given => later b hb (List.mem_cons_of_mem _ given)⟩⟩
    obtain ⟨b, hb, same⟩ := List.mem_map.mp mem
    exact later b hb (same ▸ List.mem_cons_self)
  · rintro ⟨good, distinct, new⟩
    exact ⟨⟨good a List.mem_cons_self, new a List.mem_cons_self⟩,
      fun b hb => good b (List.mem_cons_of_mem _ hb), distinct.of_cons, new_behind distinct new⟩

end Keyed

/-! ## Parts without a breach -/

theorem portViolations_eq_nil_iff {node j : Nat} {ports : List Port} :
    portViolations node j ports = [] ↔ ∀ p ∈ ports, p.name ≠ "" ∧ p.portType ≠ "" := by
  induction ports generalizing j with
  | nil => simp [portViolations]
  | cons p ports ih => simp [portViolations, ih, and_assoc]

/-- A node behind others breaks no rule exactly if it is complete and its id is new. -/
theorem nodeViolations_eq_nil_iff {earlier : List String} {i : Nat} {n : Node} :
    nodeViolations earlier i n = [] ↔ n.Complete ∧ n.id ∉ earlier := by
  simp only [nodeViolations, List.append_eq_nil_iff, nonEmpty_eq_nil_iff, breachIf_eq_nil_iff,
    versionRule_eq_nil_iff, portViolations_eq_nil_iff, List.contains_eq_mem,
    decide_eq_false_iff_not]
  constructor
  · rintro ⟨⟨⟨⟨id, new⟩, block⟩, version⟩, ports⟩
    exact ⟨⟨id, block, version, ports⟩, new⟩
  · rintro ⟨⟨id, block, version, ports⟩, new⟩
    exact ⟨⟨⟨⟨id, new⟩, block⟩, version⟩, ports⟩

/-- **Nodes break no rule** exactly if they are complete and their ids are distinct and new. -/
theorem nodesViolations_eq_nil_iff {earlier : List String} {i : Nat} {nodes : List Node} :
    nodesViolations earlier i nodes = [] ↔
      (∀ n ∈ nodes, n.Complete) ∧ (nodes.map (·.id)).Nodup ∧ ∀ n ∈ nodes, n.id ∉ earlier := by
  induction nodes generalizing earlier i with
  | nil => simp [nodesViolations]
  | cons n nodes ih =>
    rw [nodesViolations, List.append_eq_nil_iff, nodeViolations_eq_nil_iff, ih]
    exact keyed_cons_iff

/-- **Edges break no rule** exactly if they are complete. -/
theorem edgesViolations_eq_nil_iff {i : Nat} {edges : List SpecEdge} :
    edgesViolations i edges = [] ↔ ∀ e ∈ edges, e.Complete := by
  induction edges generalizing i with
  | nil => simp [edgesViolations]
  | cons e edges ih =>
    simp only [edgesViolations, edgeViolations, List.append_eq_nil_iff, nonEmpty_eq_nil_iff, ih,
      List.forall_mem_cons]
    refine and_congr_left fun _ => ⟨?_, ?_⟩
    · rintro ⟨⟨⟨⟨id, source⟩, output⟩, target⟩, input⟩
      exact ⟨id, ⟨source, output⟩, target, input⟩
    · rintro ⟨id, ⟨source, output⟩, target, input⟩
      exact ⟨⟨⟨⟨id, source⟩, output⟩, target⟩, input⟩

theorem lockViolations_eq_nil_iff {earlier : List String} {i : Nat} {b : BlockVersion} :
    lockViolations earlier i b = [] ↔ b.Complete ∧ b.blockId ∉ earlier := by
  have long : (decide (b.digest.utf8ByteSize < minDigestLength) = false) ↔
      8 ≤ b.digest.utf8ByteSize :=
    decide_eq_false_iff_not.trans Nat.not_lt
  simp only [lockViolations, List.append_eq_nil_iff, nonEmpty_eq_nil_iff, breachIf_eq_nil_iff,
    versionRule_eq_nil_iff, List.contains_eq_mem, decide_eq_false_iff_not, long]
  constructor
  · rintro ⟨⟨⟨block, version⟩, digest⟩, new⟩
    exact ⟨⟨block, version, digest⟩, new⟩
  · rintro ⟨⟨block, version, digest⟩, new⟩
    exact ⟨⟨⟨block, version⟩, digest⟩, new⟩

/-- **Locked versions break no rule** exactly if they are complete and their ids are distinct and
new. -/
theorem locksViolations_eq_nil_iff {earlier : List String} {i : Nat} {locks : List BlockVersion} :
    locksViolations earlier i locks = [] ↔
      (∀ b ∈ locks, b.Complete) ∧ (locks.map (·.blockId)).Nodup ∧
        ∀ b ∈ locks, b.blockId ∉ earlier := by
  induction locks generalizing earlier i with
  | nil => simp [locksViolations]
  | cons b locks ih =>
    rw [locksViolations, List.append_eq_nil_iff, lockViolations_eq_nil_iff, ih]
    exact keyed_cons_iff

/-! ## Local breaches -/

theorem nonEmpty_local {field : SpecField} (edge : ∀ i name, field ≠ .edge i name)
    {value : String} : ∀ v ∈ nonEmpty field value, v.Local := by
  intro v mem
  obtain ⟨-, rfl⟩ := mem_breachIf.mp mem
  exact ⟨nofun, nofun, edge⟩

theorem versionRule_local {field : SpecField} (edge : ∀ i name, field ≠ .edge i name)
    {version : String} : ∀ v ∈ versionRule field version, v.Local := by
  intro v mem
  rcases List.mem_append.mp mem with mem | mem
  · exact nonEmpty_local edge v mem
  · obtain ⟨-, rfl⟩ := mem_breachIf.mp mem
    exact ⟨nofun, nofun, edge⟩

theorem portViolations_local {node j : Nat} {ports : List Port} :
    ∀ v ∈ portViolations node j ports, v.Local := by
  induction ports generalizing j with
  | nil => exact nofun
  | cons p ports ih =>
    simp only [portViolations, List.forall_mem_append]
    exact ⟨⟨nonEmpty_local (by simp), nonEmpty_local (by simp)⟩, ih⟩

/-- Nodes with distinct and new ids have local breaches only. -/
theorem nodesViolations_local {earlier : List String} {i : Nat} {nodes : List Node}
    (distinct : (nodes.map (·.id)).Nodup) (new : ∀ n ∈ nodes, n.id ∉ earlier) :
    ∀ v ∈ nodesViolations earlier i nodes, v.Local := by
  induction nodes generalizing earlier i with
  | nil => exact nofun
  | cons n nodes ih =>
    have first : breachIf (earlier.contains n.id) (.node i "id") (.repeatedNode n.id) = [] := by
      simpa using new n List.mem_cons_self
    simp only [nodesViolations, nodeViolations, first, List.append_nil, List.forall_mem_append]
    exact ⟨⟨⟨⟨nonEmpty_local (by simp), nonEmpty_local (by simp)⟩, versionRule_local (by simp)⟩,
      portViolations_local⟩, ih distinct.of_cons (new_behind distinct new)⟩

/-- Locked versions with distinct and new ids have local breaches only. -/
theorem locksViolations_local {earlier : List String} {i : Nat} {locks : List BlockVersion}
    (distinct : (locks.map (·.blockId)).Nodup) (new : ∀ b ∈ locks, b.blockId ∉ earlier) :
    ∀ v ∈ locksViolations earlier i locks, v.Local := by
  induction locks generalizing earlier i with
  | nil => exact nofun
  | cons b locks ih =>
    have first : breachIf (earlier.contains b.blockId) (.lock i "blockId")
        (.repeatedLock b.blockId) = [] := by
      simpa using new b List.mem_cons_self
    have digest : ∀ v ∈ breachIf (b.digest.utf8ByteSize < minDigestLength) (.lock i "digest")
        .shortDigest, v.Local := by
      intro v mem
      obtain ⟨-, rfl⟩ := mem_breachIf.mp mem
      exact ⟨nofun, nofun, by simp⟩
    simp only [locksViolations, lockViolations, first, List.append_nil, List.forall_mem_append]
    exact ⟨⟨⟨nonEmpty_local (by simp), versionRule_local (by simp)⟩, digest⟩,
      ih distinct.of_cons (new_behind distinct new)⟩

/-! ## Whole specifications -/

/-- A specification of the supported version is accepted exactly if it breaks no rule. -/
theorem validate_eq_ok_iff {s : Spec} (version : s.specVersion = BlockPipeline.specVersion) :
    s.validate = .ok () ↔ s.violations = [] := by
  unfold validate
  rw [if_neg (not_not.mpr version)]
  cases s.violations <;> simp

/-- If it is refused, then for its first breach. -/
theorem validate_eq_error_iff {s : Spec} (version : s.specVersion = BlockPipeline.specVersion)
    {e : SpecError} :
    s.validate = .error e ↔ ∃ v, s.violations.head? = some v ∧ e = .invalid v := by
  unfold validate
  rw [if_neg (not_not.mpr version)]
  cases s.violations <;> simp [eq_comm]

end Spec

end BlockPipeline
