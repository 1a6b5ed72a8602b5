import BlockPipeline.Proofs.Spec.Rules

/-!
# The first breach is the one that is reported

A specification is refused for one breach, however many there are. Which one is said here by places:
every rule has a place in the document, given by numbers from the outside in, and places are compared
number by number. The header stands in front of the nodes, these in front of the edges, and the locks
stand last; nodes, edges, locks and the ports of a node stand under their indices; and each of them
has several rules in turn.

`Spec.breaches` is the table of the rules in the order of the document: under which condition each of
them is broken, and what is reported for it. A list of breaches is *led* by such a table if it is
empty only where no rule is broken, and otherwise has the breach in front of all others at its head.
The lists that the check goes by are led by the tables of the rules, part by part.

| Statement | In words | From |
| --- | --- | --- |
| `Leads.cons` | the breaches of an item lead, and behind it those of the items behind | `Place.Before` |
| `leads_node`, `leads_edge`, `leads_lock` | the first breach of a node, an edge and a lock | `Leads.cons`, rule by rule |
| `leads_violations` | the first breach of a specification | the above, by induction on its lists |
| `validate_reports_first` | when a specification is accepted, and what it is refused for | `leads_violations` |
-/

set_option autoImplicit false

namespace BlockPipeline

/-- Where in a document a rule applies. -/
abbrev Place := List Nat

/-- The one place stands in front of the other. -/
def Place.Before (p q : Place) : Prop := List.Lex (· < ·) p q

theorem Place.Before.asymm {p q : Place} (before : p.Before q) : ¬ q.Before p :=
  List.lex_asymm (fun less => Nat.lt_asymm less) before

/-- **Breaches of rules**: at which places, and what is reported there. -/
def Breaches := Place → Violation → Prop

namespace Breaches

variable {α : Type}

/-- One rule, under the condition that breaks it. -/
def rule (broken : Prop) (field : SpecField) (problem : SpecProblem) : Breaches :=
  fun place v => broken ∧ place = [] ∧ v = ⟨field, problem⟩

/-- The breaches of the items of a list, under their indices; that of the first item is given. -/
def eachFrom (i : Nat) (items : List α) (of : Nat → α → Breaches) : Breaches :=
  fun place v => ∃ k a rest, items[k]? = some a ∧ place = (i + k) :: rest ∧ of (i + k) a rest v

/-- The breaches of the items of a list, under their indices. -/
def each (items : List α) (of : Nat → α → Breaches) : Breaches := eachFrom 0 items of

/-- Several breaches in turn, under their numbers. -/
def inTurn (parts : List Breaches) : Breaches := each parts fun _ part => part

/-- **A breach in front of all others.** -/
def First (breaches : Breaches) (place : Place) (v : Violation) : Prop :=
  breaches place v ∧ ∀ other w, breaches other w → (other = place ∧ w = v) ∨ place.Before other

/-- A breach of several items is one of the first item, or one of the items behind it. -/
theorem eachFrom_cons_iff {i : Nat} {a : α} {items : List α} {of : Nat → α → Breaches}
    {place : Place} {v : Violation} :
    eachFrom i (a :: items) of place v ↔
      (∃ rest, place = i :: rest ∧ of i a rest v) ∨ eachFrom (i + 1) items of place v := by
  have shift : ∀ k, i + (k + 1) = i + 1 + k := fun k => by omega
  constructor
  · rintro ⟨k, b, rest, there, rfl, broken⟩
    cases k with
    | zero =>
      obtain rfl : a = b := by simpa using there
      exact .inl ⟨rest, rfl, broken⟩
    | succ k => exact .inr ⟨k, b, rest, there, shift k ▸ rfl, shift k ▸ broken⟩
  · rintro (⟨rest, rfl, broken⟩ | ⟨k, b, rest, there, rfl, broken⟩)
    · exact ⟨0, a, rest, rfl, rfl, broken⟩
    · exact ⟨k + 1, b, rest, there, shift k ▸ rfl, shift k ▸ broken⟩

/-- There is no more than one breach in front of all others. -/
theorem First.unique {breaches : Breaches} {p q : Place} {v w : Violation}
    (first : breaches.First p v) (also : breaches.First q w) : v = w := by
  rcases first.2 q w also.1 with ⟨-, same⟩ | before
  · exact same.symm
  · rcases also.2 p v first.1 with ⟨-, same⟩ | after
    · exact same
    · exact absurd after before.asymm

end Breaches

/-! ## The rules, in the order of the document -/

open Breaches (rule each inTurn)

def PipelineMeta.breaches (m : PipelineMeta) : Breaches :=
  inTurn
    [rule (m.id = "") (.pipeline "id") .empty,
     rule (m.name = "") (.pipeline "name") .empty]

/-- The rules of the port at index `j` of the node at index `i`. -/
def Port.breaches (i j : Nat) (p : Port) : Breaches :=
  inTurn
    [rule (p.name = "") (.nodePort i j "name") .empty,
     rule (p.portType = "") (.nodePort i j "portType") .empty]

/-- The rules of the node at index `i`, whose id may be that of an earlier node again. Ports are
counted over the inputs and then the outputs. -/
def Node.breaches (again : Prop) (i : Nat) (n : Node) : Breaches :=
  inTurn
    [rule (n.id = "") (.node i "id") .empty,
     rule again (.node i "id") (.repeatedNode n.id),
     rule (n.block.blockId = "") (.node i "blockRef.blockId") .empty,
     rule (n.block.version = "") (.node i "blockRef.version") .empty,
     rule (n.block.version.utf8ByteSize < 5) (.node i "blockRef.version") .shortVersion,
     each (n.inputs ++ n.outputs) (Port.breaches i)]

/-- The rules of the edge at index `i`. -/
def SpecEdge.breaches (i : Nat) (e : SpecEdge) : Breaches :=
  inTurn
    [rule (e.id = "") (.edge i "id") .empty,
     rule (e.source.node = "") (.edge i "from.nodeId") .empty,
     rule (e.source.port = "") (.edge i "from.port") .empty,
     rule (e.target.node = "") (.edge i "to.nodeId") .empty,
     rule (e.target.port = "") (.edge i "to.port") .empty]

/-- The rules of the lock at index `i`, whose block may be that of an earlier lock again. -/
def BlockVersion.breaches (again : Prop) (i : Nat) (b : BlockVersion) : Breaches :=
  inTurn
    [rule (b.blockId = "") (.lock i "blockId") .empty,
     rule (b.version = "") (.lock i "version") .empty,
     rule (b.version.utf8ByteSize < 5) (.lock i "version") .shortVersion,
     rule (b.digest.utf8ByteSize < 8) (.lock i "digest") .shortDigest,
     rule again (.lock i "blockId") (.repeatedLock b.blockId)]

/-- **The rules of a specification.** -/
def Spec.breaches (s : Spec) : Breaches :=
  inTurn
    [s.pipeline.breaches,
     each s.graph.nodes fun i n => n.breaches (∃ m ∈ s.graph.nodes.take i, m.id = n.id) i,
     each s.graph.edges fun i e => e.breaches i,
     each s.lockedBlocks fun i b =>
       b.breaches (∃ d ∈ s.lockedBlocks.take i, d.blockId = b.blockId) i]

/-! ## Lists that are led by the first breach -/

/-- **A list that is led by the first breach**: it is empty only if nothing is broken. -/
def Leads (breaches : Breaches) : List Violation → Prop
  | [] => ∀ place v, ¬ breaches place v
  | v :: _ => ∃ place, breaches.First place v

namespace Leads

variable {α : Type} {of : Nat → α → Breaches} {i : Nat} {l m : List Violation}

/-- A single rule. -/
theorem single {broken : Bool} {holds : Prop} (iff : broken = true ↔ holds) (field : SpecField)
    (problem : SpecProblem) :
    Leads (rule holds field problem) (Spec.breachIf broken field problem) := by
  cases broken with
  | false =>
    rintro p v ⟨holds, -, -⟩
    exact absurd (iff.mpr holds) (by decide)
  | true =>
    refine ⟨[], ⟨iff.mp rfl, rfl, rfl⟩, ?_⟩
    rintro q w ⟨-, rfl, rfl⟩
    exact .inl ⟨rfl, rfl⟩

theorem nonEmpty (field : SpecField) (value : String) :
    Leads (rule (value = "") field .empty) (Spec.nonEmpty field value) :=
  single beq_iff_eq field .empty

theorem versionLength (field : SpecField) (version : String) :
    Leads (rule (version.utf8ByteSize < 5) field .shortVersion)
      (Spec.breachIf (version.utf8ByteSize < minVersionLength) field .shortVersion) :=
  single decide_eq_true_iff field .shortVersion

theorem digestLength (field : SpecField) (digest : String) :
    Leads (rule (digest.utf8ByteSize < 8) field .shortDigest)
      (Spec.breachIf (digest.utf8ByteSize < minDigestLength) field .shortDigest) :=
  single decide_eq_true_iff field .shortDigest

/-- That a key is there again is looked up among the keys that were met. -/
theorem repeated {again : Prop} {key : String} {met : List String} (known : again ↔ key ∈ met)
    (field : SpecField) (problem : SpecProblem) :
    Leads (rule again field problem) (Spec.breachIf (met.contains key) field problem) :=
  single (List.contains_iff_mem.trans known.symm) field problem

theorem nil : Leads (Breaches.eachFrom i [] of) [] := by
  rintro p v ⟨k, a, rest, there, -⟩
  simp at there

/-- **The breaches of an item lead**, and where there are none, those of the items behind it. -/
theorem cons {a : α} {items : List α} (first : Leads (of i a) l)
    (others : Leads (Breaches.eachFrom (i + 1) items of) m) :
    Leads (Breaches.eachFrom i (a :: items) of) (l ++ m) := by
  cases l with
  | nil =>
    have behind : ∀ {p v}, Breaches.eachFrom i (a :: items) of p v →
        Breaches.eachFrom (i + 1) items of p v := fun broken =>
      (Breaches.eachFrom_cons_iff.mp broken).resolve_left fun ⟨rest, _, here⟩ => first rest _ here
    cases m with
    | nil => exact fun p v broken => others p v (behind broken)
    | cons v m =>
      obtain ⟨p, broken, front⟩ := others
      exact ⟨p, Breaches.eachFrom_cons_iff.mpr (.inr broken),
        fun q w other => front q w (behind other)⟩
  | cons v l =>
    obtain ⟨p, broken, front⟩ := first
    refine ⟨i :: p, Breaches.eachFrom_cons_iff.mpr (.inl ⟨p, rfl, broken⟩), fun q w other => ?_⟩
    rcases Breaches.eachFrom_cons_iff.mp other with ⟨rest, rfl, here⟩ | ⟨k, b, rest, -, rfl, -⟩
    · rcases front rest w here with ⟨rfl, same⟩ | before
      · exact .inl ⟨rfl, same⟩
      · exact .inr (.cons before)
    · -- the places of the items behind have a greater index
      exact .inr (.rel (by omega))

/-! Parts in turn are items that say themselves what is broken. -/

variable {part : Breaches} {parts : List Breaches}

theorem next (first : Leads part l)
    (others : Leads (Breaches.eachFrom (i + 1) parts fun _ part => part) m) :
    Leads (Breaches.eachFrom i (part :: parts) fun _ part => part) (l ++ m) :=
  cons first others

theorem last (leads : Leads part l) :
    Leads (Breaches.eachFrom i [part] fun _ part => part) l := by
  rw [← List.append_nil l]
  exact cons leads nil

end Leads

namespace Spec

variable {i : Nat}

/-! ## Ports, nodes, edges and locks -/

theorem leads_port (j : Nat) (p : Port) :
    Leads (p.breaches i j)
      (nonEmpty (.nodePort i j "name") p.name ++ nonEmpty (.nodePort i j "portType") p.portType) :=
  Leads.next (.nonEmpty _ _) (.last (.nonEmpty _ _))

theorem leads_ports (j : Nat) (ports : List Port) :
    Leads (.eachFrom j ports (Port.breaches i)) (portViolations i j ports) := by
  induction ports generalizing j with
  | nil => exact .nil
  | cons p ports ih => exact .cons (leads_port j p) (ih (j + 1))

theorem leads_node {earlier : List String} {again : Prop} {n : Node}
    (known : again ↔ n.id ∈ earlier) : Leads (n.breaches again i) (nodeViolations earlier i n) := by
  simp only [nodeViolations, versionRule, List.append_assoc]
  exact Leads.next (.nonEmpty _ _) (.next (.repeated known _ _) (.next (.nonEmpty _ _)
    (.next (.nonEmpty _ _) (.next (.versionLength _ _) (.last (leads_ports 0 _))))))

theorem leads_edge (e : SpecEdge) : Leads (e.breaches i) (edgeViolations i e) := by
  simp only [edgeViolations, List.append_assoc]
  exact Leads.next (.nonEmpty _ _) (.next (.nonEmpty _ _) (.next (.nonEmpty _ _)
    (.next (.nonEmpty _ _) (.last (.nonEmpty _ _)))))

theorem leads_lock {earlier : List String} {again : Prop} {b : BlockVersion}
    (known : again ↔ b.blockId ∈ earlier) :
    Leads (b.breaches again i) (lockViolations earlier i b) := by
  simp only [lockViolations, versionRule, List.append_assoc]
  exact Leads.next (.nonEmpty _ _) (.next (.nonEmpty _ _) (.next (.versionLength _ _)
    (.next (.digestLength _ _) (.last (.repeated known _ _)))))

/-! ## Lists of them -/

/-- What it means that a key is there again: it is among the keys that were met, or is that of an
item in front. -/
def Repeats {α : Type} (key : α → String) (met : List String) (i : Nat) (items : List α)
    (again : Nat → α → Prop) : Prop :=
  ∀ k a, items[k]? = some a →
    (again (i + k) a ↔ key a ∈ met ∨ ∃ b ∈ items.take k, key b = key a)

section Repeats

variable {α : Type} {key : α → String} {met : List String} {a : α} {items : List α}
  {again : Nat → α → Prop}

theorem Repeats.head (repeats : Repeats key met i (a :: items) again) : again i a ↔ key a ∈ met := by
  simpa using repeats 0 a rfl

theorem Repeats.tail (repeats : Repeats key met i (a :: items) again) :
    Repeats key (key a :: met) (i + 1) items again := by
  intro k b there
  have law := repeats (k + 1) b there
  have shift : i + (k + 1) = i + 1 + k := by omega
  rw [shift] at law
  rw [law, List.take_succ_cons, List.exists_mem_cons_iff, List.mem_cons, eq_comm (a := key a)]
  tauto

theorem repeats_take (items : List α) :
    Repeats key [] 0 items fun k a => ∃ b ∈ items.take k, key b = key a := by
  intro k a _
  simp

end Repeats

theorem leads_nodes {met : List String} {nodes : List Node} {again : Nat → Node → Prop}
    (repeats : Repeats (·.id) met i nodes again) :
    Leads (.eachFrom i nodes fun k n => n.breaches (again k n) k) (nodesViolations met i nodes) := by
  induction nodes generalizing met i with
  | nil => exact .nil
  | cons n nodes ih => exact .cons (leads_node repeats.head) (ih repeats.tail)

theorem leads_edges (i : Nat) (edges : List SpecEdge) :
    Leads (.eachFrom i edges fun k e => e.breaches k) (edgesViolations i edges) := by
  induction edges generalizing i with
  | nil => exact .nil
  | cons e edges ih => exact .cons (leads_edge e) (ih (i + 1))

theorem leads_locks {met : List String} {locks : List BlockVersion}
    {again : Nat → BlockVersion → Prop} (repeats : Repeats (·.blockId) met i locks again) :
    Leads (.eachFrom i locks fun k b => b.breaches (again k b) k) (locksViolations met i locks) := by
  induction locks generalizing met i with
  | nil => exact .nil
  | cons b locks ih => exact .cons (leads_lock repeats.head) (ih repeats.tail)

/-! ## Whole specifications -/

theorem leads_header (m : PipelineMeta) :
    Leads m.breaches (nonEmpty (.pipeline "id") m.id ++ nonEmpty (.pipeline "name") m.name) :=
  Leads.next (.nonEmpty _ _) (.last (.nonEmpty _ _))

/-- **The breaches of a specification** are led by the first one. -/
theorem leads_violations (s : Spec) : Leads s.breaches s.violations := by
  have parts : s.violations =
      (nonEmpty (.pipeline "id") s.pipeline.id ++ nonEmpty (.pipeline "name") s.pipeline.name) ++
        (nodesViolations [] 0 s.graph.nodes ++ (edgesViolations 0 s.graph.edges ++
          locksViolations [] 0 s.lockedBlocks)) := by
    simp only [violations, List.append_assoc]
  rw [parts]
  exact Leads.next (leads_header s.pipeline) (.next (leads_nodes (repeats_take _))
    (.next (leads_edges 0 _) (.last (leads_locks (repeats_take _)))))

/-- A breach is at the head of the list exactly if it is in front of all others. -/
theorem head?_violations_eq_some_iff {s : Spec} {v : Violation} :
    s.violations.head? = some v ↔ ∃ place, s.breaches.First place v := by
  have leads := leads_violations s
  cases listed : s.violations with
  | nil =>
    rw [listed] at leads
    simp only [List.head?_nil, reduceCtorEq, false_iff]
    rintro ⟨place, broken, -⟩
    exact leads place v broken
  | cons w rest =>
    rw [listed] at leads
    obtain ⟨place, first⟩ := leads
    simp only [List.head?_cons, Option.some.injEq]
    constructor
    · rintro rfl
      exact ⟨place, first⟩
    · rintro ⟨other, also⟩
      exact first.unique also

/-- **When a specification is accepted, and what it is refused for.** It is accepted exactly if it is
of the supported version, has a name and an id, its nodes, edges and locks are complete, and no two
nodes and no two locks share an id. It is refused for its version if that is another one, and else
for the breach that stands in front of all others in the order of the document. -/
theorem validate_reports_first (s : Spec) :
    (s.validate = .ok () ↔
      s.specVersion = BlockPipeline.specVersion ∧ s.pipeline.id ≠ "" ∧ s.pipeline.name ≠ "" ∧
        (∀ n ∈ s.graph.nodes, n.Complete) ∧ (s.graph.nodes.map (·.id)).Nodup ∧
        (∀ e ∈ s.graph.edges, e.Complete) ∧
        (∀ b ∈ s.lockedBlocks, b.Complete) ∧ (s.lockedBlocks.map (·.blockId)).Nodup) ∧
    ∀ error, s.validate = .error error ↔
      s.specVersion ≠ BlockPipeline.specVersion ∧ error = .unsupportedVersion s.specVersion ∨
      s.specVersion = BlockPipeline.specVersion ∧
        ∃ place v, s.breaches.First place v ∧ error = .invalid v := by
  by_cases version : s.specVersion = BlockPipeline.specVersion
  · constructor
    · rw [validate_eq_ok_iff version]
      simp only [violations, List.append_eq_nil_iff, nonEmpty_eq_nil_iff,
        nodesViolations_eq_nil_iff, edgesViolations_eq_nil_iff, locksViolations_eq_nil_iff,
        List.not_mem_nil, not_false_eq_true, implies_true, and_true, version, true_and, and_assoc]
    · intro error
      rw [validate_eq_error_iff version]
      simp only [head?_violations_eq_some_iff, version, ne_eq, not_true_eq_false, false_and,
        true_and, false_or]
      constructor
      · rintro ⟨v, ⟨place, first⟩, rfl⟩
        exact ⟨place, v, first, rfl⟩
      · rintro ⟨place, v, first, rfl⟩
        exact ⟨v, ⟨place, first⟩, rfl⟩
  · have refused : s.validate = .error (.unsupportedVersion s.specVersion) := if_pos version
    simp only [refused, version, ne_eq, not_false_eq_true, true_and, false_and, or_false,
      reduceCtorEq, Except.error.injEq, true_and]
    exact fun error => eq_comm

/-- A port without a type, counted behind the inputs, is reported in front of the id of a later node,
an edge without an id and a lock without a digest. -/
example :
    let named : Port := { name := "p", portType := "text" }
    let body : NodeBody := { kind := .fusion, block := ⟨"texts.join", "1.0.0"⟩ }
    let broken : NodeBody :=
      { body with inputs := [named, named], outputs := [{ name := "q", portType := "" }] }
    let s : Spec :=
      { pipeline := { id := "p", name := "n", createdAt := default }
        graph :=
          { nodes := [⟨body, "a"⟩, ⟨broken, "b"⟩, ⟨body, ""⟩]
            edges := [⟨"", ⟨"a", "p"⟩, ⟨"b", "p"⟩⟩] }
        lockedBlocks := [{ blockId := "texts.join", version := "1.0.0", digest := "" }] }
    (s.violations.map fun v => v.field.text) =
        ["graph.nodes[1].ports[2].portType", "graph.nodes[2].id", "graph.edges[0].id",
         "lockedBlocks[0].digest"] ∧
      s.validate = .error (.invalid ⟨.nodePort 1 2 "portType", .empty⟩) :=
  ⟨by decide, rfl⟩

end Spec

end BlockPipeline
