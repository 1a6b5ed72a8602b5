import BlockPipeline.Graph.Edit
import Mathlib.Data.List.Nodup

/-!
# Finding a node

What is found under an id, before and after each way in which the nodes of a graph change. All
but a node's configuration and position is settled when it is placed: this part of it is its
`Placement`, and connections depend on nothing else of a node. So the laws speak of the placement
under an id. A node that is added hides no other, a node that is taken away takes along only its
own id, and a change of configurations or positions leaves every placement as it was.

Where ids differ, what is found or taken away under the id of a node or an edge is the node or the edge
itself. This is said first, of lists whose members are told by a key.
-/

set_option autoImplicit false

namespace BlockPipeline

/-- What is settled about a node when it is placed. -/
structure Placement where
  id : String
  kind : NodeKind
  block : BlockRef
  inputs : List Port
  outputs : List Port

/-- The settled part of a node. -/
def Node.placement (n : Node) : Placement := ⟨n.id, n.kind, n.block, n.inputs, n.outputs⟩

/-- Equal placements are equal in every part but the configuration and the position. -/
theorem Node.placement_eq_iff {n m : Node} :
    n.placement = m.placement ↔
      n.id = m.id ∧ n.kind = m.kind ∧ n.block = m.block ∧ n.inputs = m.inputs ∧
        n.outputs = m.outputs := by
  simp only [Node.placement, Placement.mk.injEq]

/-! ## Members that are told by a key -/

section Keys

variable {α : Type} {key : α → String} {l : List α} {a : α}

/-- Where keys differ, what is found under the key of a member is this member. -/
theorem find?_key_of_mem (distinct : (l.map key).Nodup) (mem : a ∈ l) :
    l.find? (key · == key a) = some a := by
  have there : (l.find? (key · == key a)).isSome = true :=
    List.find?_isSome.mpr ⟨a, mem, beq_self_eq_true _⟩
  obtain ⟨b, found⟩ := Option.isSome_iff_exists.mp there
  have same : key b = key a := by simpa only [beq_iff_eq] using List.find?_some found
  rw [found, List.inj_on_of_nodup_map distinct (List.mem_of_find?_eq_some found) mem same]

/-- Where keys differ, what is taken away under the key of a member is this member. -/
theorem exists_eraseP_key (distinct : (l.map key).Nodup) (mem : a ∈ l) :
    ∃ before after, l = before ++ a :: after ∧ l.eraseP (key · == key a) = before ++ after := by
  obtain ⟨b, before, after, -, same, split, erased⟩ :=
    List.exists_of_eraseP (p := (key · == key a)) mem (beq_self_eq_true _)
  have there : b ∈ l := split ▸ List.mem_append_right _ List.mem_cons_self
  obtain rfl : b = a := List.inj_on_of_nodup_map distinct there mem (beq_iff_eq.mp same)
  exact ⟨before, after, split, erased⟩

/-- Where keys differ, the first member with a key is the only one, so taking it away leaves the
others. -/
theorem eraseP_key_eq_filter (distinct : (l.map key).Nodup) (k : String) :
    l.eraseP (key · == k) = l.filter (key · != k) := by
  induction l with
  | nil => rfl
  | cons a l ih =>
    obtain ⟨new, distinct⟩ := List.nodup_cons.mp distinct
    by_cases same : key a = k
    · have others : ∀ b ∈ l, (key b != k) = true := by
        intro b hb
        rw [bne_iff_ne]
        rintro rfl
        exact new (List.mem_map.mpr ⟨b, hb, same.symm⟩)
      rw [List.eraseP_cons_of_pos (by simpa using same), List.filter_cons_of_neg (by simpa using same),
        List.filter_eq_self.mpr others]
    · rw [List.eraseP_cons_of_neg (by simpa using same), List.filter_cons_of_pos (by simpa using same),
        ih distinct]

end Keys

namespace Graph

/-- The placement of the node with an id. -/
def placement? (g : Graph) (id : String) : Option Placement := (g.node? id).map Node.placement

/-! ## The node with an id -/

/-- The node that is found is a node of the graph, and has the id. -/
theorem node?_eq_some {g : Graph} {id : String} {n : Node} (h : g.node? id = some n) :
    n ∈ g.nodes ∧ n.id = id :=
  ⟨List.mem_of_find?_eq_some h, by simpa only [beq_iff_eq] using List.find?_some h⟩

theorem placement?_eq_some {g : Graph} {id : String} {p : Placement} :
    g.placement? id = some p ↔ ∃ n, g.node? id = some n ∧ n.placement = p :=
  Option.map_eq_some_iff

/-- An id is that of a node exactly if there is a placement under it. -/
theorem mem_nodeIds_iff {g : Graph} {id : String} :
    id ∈ g.nodeIds ↔ ∃ p, g.placement? id = some p := by
  constructor
  · intro mem
    obtain ⟨n, hn, same⟩ := List.mem_map.mp mem
    have found : (g.nodes.find? (·.id == id)).isSome = true :=
      List.find?_isSome.mpr ⟨n, hn, by simpa using same⟩
    obtain ⟨m, found⟩ := Option.isSome_iff_exists.mp found
    exact ⟨m.placement, placement?_eq_some.mpr ⟨m, found, rfl⟩⟩
  · rintro ⟨p, there⟩
    obtain ⟨n, found, -⟩ := placement?_eq_some.mp there
    obtain ⟨mem, rfl⟩ := node?_eq_some found
    exact List.mem_map_of_mem mem

/-! ## Placements under changes of the nodes -/

/-- A node that is added hides no placement. -/
theorem placement?_push {g : Graph} {id : String} {p : Placement} (h : g.placement? id = some p)
    (n : Node) : (g.push n).placement? id = some p := by
  obtain ⟨m, hm, rfl⟩ := placement?_eq_some.mp h
  refine placement?_eq_some.mpr ⟨m, ?_, rfl⟩
  unfold node? at hm
  simp only [node?, push, List.find?_append, hm, Option.some_or]

/-- A node that is taken away takes along no node of another id. -/
theorem find?_eraseP_of_ne {id other : String} (h : other ≠ id) (nodes : List Node) :
    (nodes.eraseP (·.id == id)).find? (·.id == other) = nodes.find? (·.id == other) := by
  induction nodes with
  | nil => rfl
  | cons n nodes ih =>
    by_cases hn : n.id = id
    · have hother : n.id ≠ other := fun heq => h (heq.symm.trans hn)
      simp only [List.eraseP_cons, hn, beq_self_eq_true, cond_true, List.find?_cons,
        beq_false_of_ne (hn ▸ hother)]
    · simp only [List.eraseP_cons, beq_false_of_ne hn, cond_false, List.find?_cons, ih]

/-- A change of one node that keeps the placement of each keeps the list of placements. -/
theorem map_placement_modifyNode {f : Node → Node} (keeps : ∀ n, (f n).placement = n.placement)
    (id : String) (nodes : List Node) :
    (modifyNode id f nodes).map Node.placement = nodes.map Node.placement := by
  induction nodes with
  | nil => rfl
  | cons n nodes ih =>
    simp only [modifyNode]
    split
    · simp only [List.map_cons, keeps]
    · simp only [List.map_cons, ih]

/-- The first node with an id is the one that is changed. -/
theorem modifyNode_append {before : List Node} {n : Node} (first : n.id ∉ before.map (·.id))
    (f : Node → Node) (after : List Node) :
    modifyNode n.id f (before ++ n :: after) = before ++ f n :: after := by
  induction before with
  | nil => simp only [List.nil_append, modifyNode, beq_self_eq_true, ↓reduceIte]
  | cons m before ih =>
    obtain ⟨differs, first⟩ := not_or.mp (mt List.mem_cons.mpr first)
    simp only [List.cons_append, modifyNode, beq_false_of_ne (Ne.symm differs), Bool.false_eq_true,
      ↓reduceIte, ih first]

/-- Nothing is changed under an id that no node has. -/
theorem modifyNode_of_not_mem {id : String} {nodes : List Node} (absent : id ∉ nodes.map (·.id))
    (f : Node → Node) : modifyNode id f nodes = nodes := by
  induction nodes with
  | nil => rfl
  | cons n nodes ih =>
    obtain ⟨differs, absent⟩ := not_or.mp (mt List.mem_cons.mpr absent)
    simp only [modifyNode, beq_false_of_ne (Ne.symm differs), Bool.false_eq_true, ↓reduceIte,
      ih absent]

/-- What is found depends on the placements alone. -/
theorem placement?_eq_find? (g : Graph) (id : String) :
    g.placement? id = (g.nodes.map Node.placement).find? (·.id == id) := by
  rw [List.find?_map]
  rfl

/-- Graphs with the same list of placements have the same placement under each id. -/
theorem placement?_congr {g h : Graph}
    (same : h.nodes.map Node.placement = g.nodes.map Node.placement) (id : String) :
    h.placement? id = g.placement? id := by
  rw [placement?_eq_find?, placement?_eq_find?, same]

/-- The ids are part of the placements. -/
theorem nodeIds_eq_map_placement (g : Graph) :
    g.nodeIds = (g.nodes.map Node.placement).map Placement.id := by
  rw [List.map_map]
  rfl

end Graph

end BlockPipeline
