import BlockPipeline.Proofs.Diagnose.Clean
import BlockPipeline.Proofs.Diagnose.Locks
import BlockPipeline.Proofs.Draft.Reload
import BlockPipeline.Proofs.Graph.Construction
import BlockPipeline.Proofs.Graph.QuickStart
import BlockPipeline.Proofs.Service.Wire

/-!
# The quick-start pipeline is complete

Whoever puts the quick-start pipeline together looks at no answer: a node whose id was given and a
connection that is refused would be left out without a word. None is, and this does not depend on the
snapshot of the registry, because a snapshot only chooses the versions of the nodes, and whether an
edge may join two nodes is a matter of their ports. So what the layout and the connections have to
fulfil is closed and is decided: the ids differ, each connection fits the two templates and leads
along the layout, and each input of a template is fed once (`edges_fit`, `edges_forward`,
`inputs_fed`). All else follows from it for every snapshot.

| Statement | In words | From |
| --- | --- | --- |
| `QuickStart.carries` | every node is inserted and every connection made | `insert_all`, `connect_all` |
| `QuickStart.findCycle?_whole` | there is no cycle, since all edges lead along the layout | `acyclic_of_rank` |
| `QuickStart.wiringFindings_whole` | one edge feeds each input | `inputFindings_eq_nil_iff` |
| `QuickStart.versionDrift_not_mem` | the nodes are placed from what is published | `versionDrift_not_mem_lockFindings` |
| `quickStart_complete` | what the pipeline holds, what is found about it, and that it is loaded as it was saved | these, `unlocked_mem_diagnose`, `Draft.load_numbered` |
-/

set_option autoImplicit false

namespace BlockPipeline

open BlockPipeline.Graph

namespace QuickStart

/-! ## What is placed and connected -/

variable (r : Registry)

/-- The node of an entry of the layout. -/
def node (entry : String × String × Position) : Node :=
  let template := Palette.builtin.select entry.2.1
  ⟨template.body ((r.version? template.blockId).getD quickStartVersion) entry.2.2, entry.1⟩

def nodes : List Node := layout.map (node r)

/-- The edges that the connections become, with ids that have no number. -/
def edges : List Edge :=
  wiring.filterMap fun c => c.ends?.map fun ends => ⟨baseEdgeId ends.1 ends.2, ends.1, ends.2⟩

/-- The whole pipeline. -/
def whole : Graph := { (nodes r).foldl push .empty with edges := edges }

theorem nodes_whole : (whole r).nodes = nodes r := Draft.nodes_foldl_push .empty _

/-- All connections name ends. -/
theorem ofEdge_edges : edges.map Candidate.ofEdge = wiring := by decide

theorem edges_numbered : NumberedInOrder edges :=
  numbered_of_base (by decide) (by decide)

theorem ends_nodup : (edges.map Edge.ends).Nodup := by decide

/-- Each entry of the layout names a template of its own key. -/
theorem find?_entry {entry : String × String × Position} (mem : entry ∈ layout) :
    Palette.builtin.find? entry.2.1 = some (Palette.builtin.select entry.2.1) := by
  have known : ∀ entry ∈ layout, (Palette.builtin.find? entry.2.1).isSome = true := by decide
  obtain ⟨t, found⟩ := Option.isSome_iff_exists.mp (known entry mem)
  rw [Palette.select, found]
  rfl

theorem nodes_named : ∀ n ∈ nodes r, n.id ≠ "" := by
  have named : ∀ entry ∈ layout, entry.1 ≠ "" := by decide
  exact List.forall_mem_map.mpr named

theorem ids_nodup : ((nodes r).map (·.id)).Nodup := by
  have ids : (nodes r).map (·.id) = layout.map Prod.fst := List.map_map
  rw [ids]
  decide

/-- Each edge leads from an output of one entry to an input of a later one, of one type. -/
theorem edges_fit : ∀ e ∈ edges,
    e.source.handle.side = some .output ∧ e.target.handle.side = some .input ∧
      e.source.handle.port ≠ "" ∧ e.target.handle.port ≠ "" ∧ e.source.node ≠ e.target.node ∧
      ∃ s ∈ layout, s.1 = e.source.node ∧ ∃ t ∈ layout, t.1 = e.target.node ∧
        ∃ a ∈ Port.find? (Palette.builtin.select s.2.1).outputs e.source.handle.port,
          ∃ b ∈ Port.find? (Palette.builtin.select t.2.1).inputs e.target.handle.port,
            a.portType = b.portType := by
  decide

/-- Each input of an entry is fed by one of the edges. -/
theorem inputs_fed : ∀ entry ∈ layout, ∀ p ∈ (Palette.builtin.select entry.2.1).inputs,
    (edges.filter fun e => e.target.node == entry.1 && e.target.handle.port == p.name).length = 1 := by
  decide

/-- Each edge leads from an entry to a later one. -/
theorem edges_forward : ∀ e ∈ edges,
    layout.findIdx (·.1 == e.source.node) < layout.findIdx (·.1 == e.target.node) := by
  decide

/-- Each entry of the layout is found under its id. -/
theorem placement?_entry {entry : String × String × Position} (mem : entry ∈ layout) :
    ((nodes r).foldl push .empty).placement? entry.1 = some (node r entry).placement := by
  refine placement?_eq_some.mpr ⟨node r entry, ?_, rfl⟩
  rw [node?, Draft.nodes_foldl_push]
  exact find?_key_of_mem (ids_nodup r) (List.mem_map_of_mem mem)

/-- All edges may join the nodes, whatever versions these are placed from. -/
theorem edges_joinable :
    ∀ e ∈ edges, ((nodes r).foldl push .empty).Joinable e.source e.target := by
  intro e he
  obtain ⟨sourceSide, targetSide, sourceNamed, targetNamed, apart, s, hs, source, t, ht, target,
    a, ha, b, hb, types⟩ := edges_fit e he
  refine ⟨sourceSide, targetSide, sourceNamed, targetNamed, apart, (node r s).placement,
    (node r t).placement, a, b, ?_, ?_, ha, hb, types⟩
  · rw [← source]
    exact placement?_entry r hs
  · rw [← target]
    exact placement?_entry r ht

/-- **Every edit is carried out**: each entry of the layout is inserted, and each connection made. -/
theorem carries : Graph.empty.Carries (edits r) (whole r)
    ((nodes r).map (fun n => .inserted (some n)) ++ edges.map fun e => .connected (.ok e)) := by
  have inserting : layout.map (insertion r) = (nodes r).map Node.insertion := by
    rw [nodes, List.map_map]
    rfl
  have proposing : wiring.map .connect = edges.map Edge.proposal := by
    rw [← ofEdge_edges, List.map_map]
    rfl
  have bare : ((nodes r).foldl push .empty).edges = [] := Draft.edges_foldl_push .empty _
  have connecting := connect_all (edges_joinable r) (by rw [bare]; exact ends_nodup)
    (by rw [bare]; exact edges_numbered)
  rw [bare] at connecting
  rw [edits, inserting, proposing]
  exact (insert_all (ids_nodup r) fun _ _ => List.not_mem_nil).append connecting

theorem quickStart_eq_whole : quickStart r = whole r := (quickStart_eq_run r).trans (carries r).run

/-- The nodes are those of the layout, each made of its template. -/
theorem layout_nodes : List.Forall₂
    (fun entry n => ∃ t, Palette.builtin.find? entry.2.1 = some t ∧
      n = ⟨t.body ((r.version? t.blockId).getD "1.1.0") entry.2.2, entry.1⟩) layout (nodes r) := by
  refine List.forall₂_map_right_iff.mpr (List.forall₂_same.mpr fun entry mem => ?_)
  exact ⟨_, find?_entry mem, rfl⟩

/-! ## What is found about it -/

theorem wellFormed_whole : (whole r).WellFormed :=
  quickStart_eq_whole r ▸ (quickStart_reachable r).wellFormed

/-- The edges lead along the layout, so none leads back. -/
theorem findCycle?_whole : (whole r).findCycle? = none := by
  refine (findCycle?_eq_none_iff (wellFormed_whole r)).mpr
    (acyclic_of_rank (fun id => layout.findIdx (·.1 == id)) ?_)
  rintro _ _ ⟨e, he, rfl, rfl⟩
  exact edges_forward e he

/-- One edge feeds each input. -/
theorem wiringFindings_whole {n : Node} (hn : n ∈ (whole r).nodes) :
    wiringFindings (whole r) n = [] := by
  rw [nodes_whole] at hn
  obtain ⟨entry, mem, rfl⟩ := List.mem_map.mp hn
  refine List.flatMap_eq_nil_iff.mpr fun p hp => inputFindings_eq_nil_iff.mpr ?_
  rw [feeds, List.length_map]
  exact inputs_fed entry mem p hp

/-- What is found is about blocks and configurations. -/
theorem pass_of_mem_diagnose (s : Registry) {f : Finding} (mem : f ∈ diagnose (whole r) s) :
    f.pass ≠ .wiring ∧ f.pass ≠ .cycle := by
  have noWiring : Pass.wiring.findings (whole r) s = [] :=
    List.flatMap_eq_nil_iff.mpr fun n hn => wiringFindings_whole r hn
  have noCycle : Pass.cycle.findings (whole r) s = [] := by
    simp only [Pass.findings, cycleFindings, findCycle?_whole, Option.toList_none, List.map_nil]
  rw [mem_diagnose] at mem
  constructor
  · intro pass
    rw [pass, noWiring] at mem
    cases mem
  · intro pass
    rw [pass, noCycle] at mem
    cases mem

/-- Each node is at the published version, if there is one. -/
theorem versionDrift_not_mem (id placed locked : String) :
    .versionDrift id placed locked ∉ diagnose (whole r) r := by
  rw [mem_diagnose]
  intro mem
  obtain ⟨n, hn, mem⟩ := List.mem_flatMap.mp mem
  rw [nodes_whole] at hn
  obtain ⟨entry, -, rfl⟩ := List.mem_map.mp hn
  exact versionDrift_not_mem_lockFindings rfl id placed locked mem

end QuickStart

/-- **The quick-start pipeline is complete**, whatever the snapshot holds. Its six nodes are those of
the layout, one of each template, at the published version of the block or at 1.1.0. Its
seven edges are the connections. Every edit that it is made by answers with the node or the edge that
it adds, so none is left out. Against the snapshot no node has drifted, every input is fed by one edge,
there is no cycle, and just those nodes are found to be unlocked whose block is not published. And the
pipeline is saved and loaded again with the same nodes and edges, the ids of the edges included. -/
theorem quickStart_complete (r : Registry) :
    let g := quickStart r
    (List.Forall₂
      (fun entry n => ∃ t, Palette.builtin.find? entry.2.1 = some t ∧
        n = ⟨t.body ((r.version? t.blockId).getD "1.1.0") entry.2.2, entry.1⟩)
      QuickStart.layout g.nodes ∧
      QuickStart.layout.map (·.2.1) = Palette.builtin.toList.map (·.key) ∧ g.nodes.length = 6) ∧
    (g.edges.map Candidate.ofEdge = QuickStart.wiring ∧ g.edges.length = 7) ∧
    (g = Graph.empty.run (QuickStart.edits r) ∧
      Graph.empty.answers (QuickStart.edits r) =
        g.nodes.map (fun n => .inserted (some n)) ++ g.edges.map fun e => .connected (.ok e)) ∧
    (∀ id placed locked, .versionDrift id placed locked ∉ diagnose g r) ∧
    (∀ id port sources, .fanIn id port sources ∉ diagnose g r) ∧
    (∀ id port, .unconnectedInput id port ∉ diagnose g r) ∧
    (∀ path, .cycle path ∉ diagnose g r) ∧
    (∀ id block, .unlocked id block ∈ diagnose g r ↔
      ∃ n ∈ g.nodes, n.id = id ∧ n.block.blockId = block ∧ r.lookup block = none) ∧
    Draft.codec.decodeValue (Draft.codec.encode (.ofGraph g)).normal = .ok (.ofGraph g) ∧
    ∃ loaded, (Draft.ofGraph g).load = .ok loaded ∧ loaded.refused = [] ∧
      loaded.graph.nodes = g.nodes ∧ loaded.graph.edges = g.edges := by
  rw [QuickStart.quickStart_eq_whole]
  intro g
  have nodes : g.nodes = QuickStart.nodes r := QuickStart.nodes_whole r
  have carried := QuickStart.carries r
  have about {f : Finding} (mem : f ∈ diagnose g r) : f.pass ≠ .wiring ∧ f.pass ≠ .cycle :=
    QuickStart.pass_of_mem_diagnose r r mem
  refine ⟨⟨?_, rfl, ?_⟩, ⟨QuickStart.ofEdge_edges, rfl⟩, ⟨carried.run.symm, ?_⟩,
    QuickStart.versionDrift_not_mem r, fun id port sources mem => (about mem).1 rfl,
    fun id port mem => (about mem).1 rfl, fun path mem => (about mem).2 rfl,
    fun id block => unlocked_mem_diagnose, Draft.codec_faithful _, ?_⟩
  · rw [nodes]
    exact QuickStart.layout_nodes r
  · rw [nodes]
    rfl
  · rw [nodes]
    exact carried.answers
  · refine Draft.load_numbered (QuickStart.wellFormed_whole r) ?_ QuickStart.edges_numbered
    rw [nodes]
    exact QuickStart.nodes_named r

end BlockPipeline
