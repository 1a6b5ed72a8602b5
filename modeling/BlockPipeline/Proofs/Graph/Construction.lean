import BlockPipeline.Proofs.Graph.Numbering

/-!
# Graphs that are put together

Nodes and edges that fit each other are put together by inserting the nodes and proposing the edges,
one after the other, and every one of these edits is carried out. What an edit answers tells whether
it was (`Graph.answers`); who puts a graph together and does not look at the answers has to know it
beforehand.

The nodes fit if their ids differ (`insert_all`). The edges fit if their ends are joinable, which
depends on the nodes alone, no two of them have the same ends, and their ids are those that they get
in their order (`connect_all`).
-/

set_option autoImplicit false

namespace BlockPipeline

/-- The edit that inserts a node. -/
def Node.insertion (n : Node) : Edit := .insert n.id n.toNodeBody

/-- The edit that proposes an edge anew. -/
def Edge.proposal (e : Edge) : Edit := .connect (.ofEdge e)

namespace Graph

/-- What the edits of a history answer, in order. -/
def answers (g : Graph) : List Edit → List EditAnswer
  | [] => []
  | edit :: edits => (g.apply edit).1 :: (g.apply edit).2.answers edits

theorem answers_append (g : Graph) (before after : List Edit) :
    g.answers (before ++ after) = g.answers before ++ (g.run before).answers after := by
  induction before generalizing g with
  | nil => rfl
  | cons edit before ih =>
    rw [List.cons_append, answers, ih]
    rfl

/-- **Carried out as asked**: a history leads to a graph and gives answers. -/
structure Carries (g : Graph) (edits : List Edit) (h : Graph) (given : List EditAnswer) : Prop where
  run : g.run edits = h
  answers : g.answers edits = given

variable {g h k : Graph}

theorem Carries.nil : g.Carries [] g [] := ⟨rfl, rfl⟩

theorem Carries.cons {edit : Edit} {edits : List Edit} {answer : EditAnswer}
    {given : List EditAnswer} (first : g.apply edit = (answer, h))
    (others : h.Carries edits k given) : g.Carries (edit :: edits) k (answer :: given) where
  run := by
    have step : g.run (edit :: edits) = (g.apply edit).2.run edits := rfl
    rw [step, first, others.run]
  answers := by rw [Graph.answers, first, others.answers]

theorem Carries.append {before after : List Edit} {given later : List EditAnswer}
    (first : g.Carries before h given) (second : h.Carries after k later) :
    g.Carries (before ++ after) k (given ++ later) where
  run := by rw [run_append, first.run, second.run]
  answers := by rw [answers_append, first.run, first.answers, second.answers]

/-- **Nodes are all inserted** where their ids differ and none of them was given. -/
theorem insert_all {nodes : List Node} (distinct : (nodes.map (·.id)).Nodup)
    (fresh : ∀ n ∈ nodes, n.id ∉ g.issued) :
    g.Carries (nodes.map Node.insertion) (nodes.foldl push g)
      (nodes.map fun n => .inserted (some n)) := by
  induction nodes generalizing g with
  | nil => exact .nil
  | cons n nodes ih =>
    have inserted : g.insert? n.id n.toNodeBody = some (g.push n) :=
      insert?_eq_some_iff.mpr ⟨fresh n List.mem_cons_self, rfl⟩
    refine .cons ?_ (ih (List.nodup_cons.mp distinct).2 (fresh_push distinct fresh))
    simp only [Node.insertion, apply, inserted, Option.map_some, orElse]

/-- **Edges are all accepted** where they fit the nodes, one another and the edges that are there. -/
theorem connect_all {edges : List Edge} (joinable : ∀ e ∈ edges, g.Joinable e.source e.target)
    (new : ((g.edges ++ edges).map Edge.ends).Nodup) (numbered : NumberedInOrder (g.edges ++ edges)) :
    g.Carries (edges.map Edge.proposal) { g with edges := g.edges ++ edges }
      (edges.map fun e => .connected (.ok e)) := by
  induction edges generalizing g with
  | nil => rw [List.append_nil]; exact .nil
  | cons e edges ih =>
    obtain ⟨fits, others⟩ := List.forall_mem_cons.mp joinable
    have apart : e.ends ∉ g.edges.map Edge.ends := fun mem => by
      rw [List.map_append, List.map_cons, List.nodup_middle] at new
      exact (List.nodup_cons.mp new).1 (List.mem_append_left _ mem)
    let next : Graph := { g with edges := g.edges ++ [e] }
    have connected : g.connect (.ofEdge e) = .ok (e, next) :=
      connect_eq_ok_iff.mpr ⟨check_ofEdge fits apart, numbered g.edges e edges rfl, rfl⟩
    have regroup : next.edges ++ edges = g.edges ++ e :: edges := (List.append_cons ..).symm
    have rest := ih (g := next) (fun f hf => (others f hf).congr rfl) (regroup ▸ new)
      (regroup ▸ numbered)
    rw [regroup] at rest
    refine .cons ?_ rest
    simp only [Edge.proposal, apply, connected]

end Graph

end BlockPipeline
